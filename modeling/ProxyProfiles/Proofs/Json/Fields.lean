import ProxyProfiles.Proofs.Json.Passing
/-!
# Members in any order

An object for a record has a member for each field that is not left out, in any order, and members
of other names among them: `Layout` says which members these may be, and `Layouts` which texts.

The reader of a record takes the members in the order of the text. Those of known names add to what
is known, each at most once, and all others are passed over, so what is known in the end does not
depend on the order. `Schema` says of a reader how it handles the members, and `Schema.exists_known`
what it knows of each field in the end.
-/

namespace ProxyProfiles.Json

/-- The texts of the values that stand under one of the given names, in their order. -/
def valuesOf (names : List String) (ms : List (String × List Char)) : List (List Char) :=
  (ms.filter fun x => x.1 ∈ names).map Prod.snd

section ValuesOf

variable {names : List String} {k : String} {v : List Char} {ms : List (String × List Char)}

@[simp] lemma valuesOf_nil (names : List String) : valuesOf names [] = [] := rfl

lemma valuesOf_cons_of_mem (h : k ∈ names) :
    valuesOf names ((k, v) :: ms) = v :: valuesOf names ms := by
  simp [valuesOf, h]

lemma valuesOf_cons_of_not_mem (h : k ∉ names) :
    valuesOf names ((k, v) :: ms) = valuesOf names ms := by
  simp [valuesOf, h]

lemma valuesOf_append (names : List String) (ms ms' : List (String × List Char)) :
    valuesOf names (ms ++ ms') = valuesOf names ms ++ valuesOf names ms' := by
  simp [valuesOf]

end ValuesOf

/-- The members of an object with certain fields, each with the text of its value: a field that may
not be left out stands there, none stands there twice, and under other names stands anything. -/
structure Layout {F : Type} (names : F → List String) (Stands : F → List Char → Prop)
    (LeftOut : F → Prop) (ms : List (String × List Char)) : Prop where
  field (f : F) : valuesOf (names f) ms = [] ∧ LeftOut f ∨
    ∃ t, valuesOf (names f) ms = [t] ∧ Stands f t
  other : ∀ x ∈ ms, (∀ f, x.1 ∉ names f) → IsValue x.2

/-- The texts of the objects with such members. -/
inductive Layouts {F : Type} (names : F → List String) (Stands : F → List Char → Prop)
    (LeftOut : F → Prop) : List Char → Prop
  | mk {ms : List (String × List Char)} {t : List Char} (hms : Layout names Stands LeftOut ms)
    (h : Series (Member Eq) ms t) : Layouts names Stands LeftOut ('{' :: t ++ ['}'])

/-- The text of a value may be replaced by another one. -/
lemma Layout.replace {F : Type} {names : F → List String} {Stands : F → List Char → Prop}
    {LeftOut : F → Prop} {ms ms' : List (String × List Char)} {k : String} {v : List Char} {f : F}
    (hms : Layout names Stands LeftOut (ms ++ (k, v) :: ms')) (hk : k ∈ names f)
    (hne : ∀ g, g ≠ f → k ∉ names g) (v' : List Char) :
    Layout names (fun g t => g = f ∧ t = v' ∨ g ≠ f ∧ Stands g t) (fun g => g ≠ f ∧ LeftOut g)
      (ms ++ (k, v') :: ms') where
  field g := by
    have hg := hms.field g
    rw [valuesOf_append] at hg ⊢
    by_cases hgf : g = f
    · subst hgf
      rw [valuesOf_cons_of_mem hk] at hg ⊢
      -- the member that is replaced is the only one of its field
      obtain ⟨hfront, hback⟩ : valuesOf (names g) ms = [] ∧ valuesOf (names g) ms' = [] := by
        rcases hg with ⟨hnil, -⟩ | ⟨t, ht, -⟩
        · exact absurd hnil (by simp)
        · have hlength := congrArg List.length ht
          simp only [List.length_append, List.length_cons, List.length_nil] at hlength
          exact ⟨List.length_eq_zero_iff.1 (by omega), List.length_eq_zero_iff.1 (by omega)⟩
      exact .inr ⟨v', by rw [hfront, hback]; rfl, .inl ⟨rfl, rfl⟩⟩
    · rw [valuesOf_cons_of_not_mem (hne g hgf)] at hg ⊢
      exact hg.imp (fun h => ⟨h.1, hgf, h.2⟩) fun ⟨t, ht, h⟩ => ⟨t, ht, .inr ⟨hgf, h⟩⟩
  other x hx hnot := by
    rcases List.mem_append.1 hx with hx | hx
    · exact hms.other x (List.mem_append_left _ hx) hnot
    · rcases List.mem_cons.1 hx with rfl | hx
      · exact absurd hk (hnot f)
      · exact hms.other x (List.mem_append_right _ (List.mem_cons_of_mem _ hx)) hnot

lemma Layout.mono {F : Type} {names : F → List String} {Stands Stands' : F → List Char → Prop}
    {LeftOut LeftOut' : F → Prop} {ms : List (String × List Char)}
    (hms : Layout names Stands LeftOut ms) (hstands : ∀ f t, Stands f t → Stands' f t)
    (hout : ∀ f, LeftOut f → LeftOut' f) : Layout names Stands' LeftOut' ms :=
  ⟨fun f => (hms.field f).imp (fun h => ⟨h.1, hout f h.2⟩) fun ⟨t, ht, h⟩ => ⟨t, ht, hstands f t h⟩,
    hms.other⟩

/-- The members of an object, each with the text of its value, without blanks between them. -/
def compactObject (ms : List (String × List Char)) : List Char :=
  '{' :: Text.join [','] (ms.map fun x => quote x.1 ++ ':' :: x.2) ++ ['}']

lemma listed_join {ms : List (String × List Char)} (hne : ms ≠ []) :
    Listed (Member Eq) ms (Text.join [','] (ms.map fun x => quote x.1 ++ ':' :: x.2)) := by
  have hmember (x : String × List Char) : Member Eq x (quote x.1 ++ ':' :: x.2) :=
    member_quote (w := []) blank_nil rfl
  induction ms with
  | nil => exact absurd rfl hne
  | cons x ms ih =>
    cases ms with
    | nil => exact .single (w := []) blank_nil (hmember x)
    | cons y ms =>
      rw [List.map_cons, List.map_cons, Text.join, List.append_assoc]
      exact .comma (w := []) blank_nil (hmember x) (ih (by simp))

/-- Every layout has a text. -/
lemma Layout.compact {F : Type} {names : F → List String} {Stands : F → List Char → Prop}
    {LeftOut : F → Prop} {ms : List (String × List Char)}
    (hms : Layout names Stands LeftOut ms) : Layouts names Stands LeftOut (compactObject ms) := by
  refine .mk hms ?_
  by_cases hne : ms = []
  · subst hne
    exact .empty blank_nil
  · exact .listed (listed_join hne)

/-- The fields of a record: what the function `take`, which handles the members of an object one by
one, does with each of them. -/
structure Schema {σ F : Type} (Content : F → Type) (take : String → σ → Reader σ) where
  /-- The names under which a field may stand. -/
  names : F → List String
  /-- The reader of the value of a field. -/
  reader (f : F) : Reader (Content f)
  /-- What is known of a field. -/
  slot (f : F) : σ → Option (Content f)
  /-- What is known when a field is found to have a value. -/
  put (f : F) : Content f → σ → σ
  slot_put_self (f : F) (a : Content f) (m : σ) : slot f (put f a m) = some a
  slot_put_of_ne {f g : F} (h : g ≠ f) (a : Content f) (m : σ) : slot g (put f a m) = slot g m
  names_disjoint {f g : F} {k : String} (hf : k ∈ names f) (hg : k ∈ names g) : f = g
  /-- A known member is read unless it was there before. -/
  take_known {f : F} {k : String} (h : k ∈ names f) (m : σ) : ∃ label, ∀ s,
    take k m s = (readMember label (slot f m) (reader f) s).map fun p => (put f p.1 m, p.2)
  /-- All other members are passed over. -/
  take_other {k : String} (h : ∀ f, k ∉ names f) (m : σ) : take k m = passMember m

namespace Schema

variable {σ F : Type} {Content : F → Type} {take : String → σ → Reader σ}
  (S : Schema Content take) {f : F} {k : String} {v : List Char} {m : σ}
  {ms : List (String × List Char)}

/-- Taking the member of a field of which nothing is known notes the value that is read. -/
lemma readsBehindName (hk : k ∈ S.names f) (hslot : S.slot f m = none) {a : Content f}
    (hread : Reads (S.reader f) a v) : ReadsBehindName (take k m) (S.put f a m) v := by
  obtain ⟨label, htake⟩ := S.take_known hk m
  rw [funext htake, hslot]
  exact ReadsBehindName.map (fun a => S.put f a m) (hread.member label)

/-- Members are taken in any order: `val` are the values of the fields, and a field that stands
among the members stands there once, with a text from which its value is read. In the end the value
is known of just these fields, and of all others what was known before. -/
theorem exists_takes (val : ∀ f, Content f)
    (hother : ∀ x ∈ ms, (∀ f, x.1 ∉ S.names f) → Passes x.2)
    (hknown : ∀ f, valuesOf (S.names f) ms = [] ∨
      S.slot f m = none ∧ ∃ t, valuesOf (S.names f) ms = [t] ∧ Reads (S.reader f) (val f) t) :
    ∃ m', Takes take Eq m ms m' ∧ ∀ f, S.slot f m' =
      if valuesOf (S.names f) ms = [] then S.slot f m else some (val f) := by
  induction ms generalizing m with
  | nil => exact ⟨m, .nil, fun f => by simp⟩
  | cons x ms ih =>
    obtain ⟨k, v⟩ := x
    have hother' : ∀ x ∈ ms, (∀ f, x.1 ∉ S.names f) → Passes x.2 :=
      fun x hx => hother x (List.mem_cons_of_mem _ hx)
    by_cases hk : ∃ f, k ∈ S.names f
    · obtain ⟨f, hk⟩ := hk
      -- nothing is known of the field yet, and it does not stand among the further members
      obtain ⟨hslot, hnone, hread⟩ : S.slot f m = none ∧ valuesOf (S.names f) ms = [] ∧
          Reads (S.reader f) (val f) v := by
        have hf := hknown f
        rw [valuesOf_cons_of_mem hk] at hf
        obtain hf | ⟨hslot, t, ht, hread⟩ := hf
        · exact absurd hf (by simp)
        · obtain ⟨rfl, hnone⟩ := List.cons.inj ht
          exact ⟨hslot, hnone, hread⟩
      have hne {g : F} (hg : g ≠ f) : k ∉ S.names g := fun hkg => hg (S.names_disjoint hkg hk)
      obtain ⟨m', htakes, hm'⟩ := @ih (S.put f (val f) m) hother' fun g => by
        by_cases hg : g = f
        · subst hg
          exact .inl hnone
        · have hg' := hknown g
          rwa [valuesOf_cons_of_not_mem (hne hg), ← S.slot_put_of_ne hg (val f) m] at hg'
      refine ⟨m', .cons ?_ htakes, fun g => ?_⟩
      · rintro t rfl
        exact S.readsBehindName hk hslot hread
      · rw [hm' g]
        by_cases hg : g = f
        · subst hg
          simp [hnone, valuesOf_cons_of_mem hk, S.slot_put_self]
        · rw [valuesOf_cons_of_not_mem (hne hg), S.slot_put_of_ne hg]
    · rw [not_exists] at hk
      have hpass : Passes v := hother (k, v) List.mem_cons_self hk
      obtain ⟨m', htakes, hm'⟩ := ih hother' fun f => by
        have hf := hknown f
        rwa [valuesOf_cons_of_not_mem (hk f)] at hf
      refine ⟨m', .cons ?_ htakes, fun f => ?_⟩
      · rintro t rfl
        rw [S.take_other hk]
        exact hpass.behindName m
      · rw [hm' f, valuesOf_cons_of_not_mem (hk f)]

/-- Of each field of an object its value is known in the end, if it is not left out. -/
theorem exists_known (val : ∀ f, Content f) {Stands : F → List Char → Prop} {LeftOut : F → Prop}
    (hms : Layout S.names Stands LeftOut ms) (hslot : ∀ f, S.slot f m = none)
    (hstands : ∀ f t, Stands f t → Reads (S.reader f) (val f) t) :
    ∃ m', Takes take Eq m ms m' ∧
      ∀ f, S.slot f m' = some (val f) ∨ S.slot f m' = none ∧ LeftOut f := by
  obtain ⟨m', htakes, hm'⟩ := S.exists_takes val (fun x hx hk => (hms.other x hx hk).passes)
    fun f => (hms.field f).imp And.left fun ⟨t, ht, h⟩ => ⟨hslot f, t, ht, hstands f t h⟩
  refine ⟨m', htakes, fun f => ?_⟩
  rcases hms.field f with ⟨hnone, hout⟩ | ⟨t, ht, -⟩
  · exact .inr ⟨by rw [hm' f, if_pos hnone, hslot f], hout⟩
  · exact .inl (by rw [hm' f, ht, if_neg (by simp)])

end Schema

/-- A value that may be left out where it is the default. -/
lemma getD_eq {α : Type} {o : Option α} {a fallback : α} {LeftOut : Prop}
    (h : o = some a ∨ o = none ∧ LeftOut) (hfallback : LeftOut → a = fallback) :
    o.getD fallback = a := by
  obtain rfl | ⟨rfl, hout⟩ := h
  · rfl
  · rw [Option.getD_none, hfallback hout]

end ProxyProfiles.Json
