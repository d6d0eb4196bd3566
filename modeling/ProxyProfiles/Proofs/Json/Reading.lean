import ProxyProfiles.Json.Reader
import ProxyProfiles.Proofs.Json.Lexeme
/-!
# Readers and the texts that they read

`Reads r a t` says that the reader `r` finds the value `a` in the text `t`, whatever stands around
it. This passes from the parts of a text to the whole:

* from the elements of an array to the array, `Reads r` being a relation of the kind that `Series`
  is made for;
* from the members of an object to the object. What a member adds to what is known is a step of
  `Takes`, and the members are taken in the order of the text.
-/

namespace ProxyProfiles.Json

open Text

variable {α β σ : Type}

/-! ## Reading a text -/

/-- A text of a value begins with no blank, no comma and no closing bracket. -/
def Opens (t : List Char) : Prop :=
  ∃ c s, t = c :: s ∧ isSpace c = false ∧ c ≠ ',' ∧ c ≠ ']'

/-- The reader finds a value in a text, with blanks in front of it and anything behind it that may
follow a value. -/
structure Reads (r : Reader α) (a : α) (t : List Char) : Prop where
  opens : Opens t
  read {w rest : List Char} : Blank w → Ends rest → r (w ++ (t ++ rest)) = .ok (a, rest)

lemma opens_cons {c : Char} (hc : isSpace c = false ∧ c ≠ ',' ∧ c ≠ ']') (s : List Char) :
    Opens (c :: s) := ⟨c, s, rfl, hc⟩

namespace Reads

variable {r : Reader α} {a : α} {t : List Char}

lemma map (f : α → β) (h : Reads r a t) :
    Reads (fun s => (r s).map fun p => (f p.1, p.2)) (f a) t where
  opens := h.opens
  read hw hrest := by simp only [h.read hw hrest, Except.map]

lemma read_append (h : Reads r a t) {rest : List Char} (hrest : Ends rest) :
    r (t ++ rest) = .ok (a, rest) :=
  h.read (w := []) blank_nil hrest

/-- A text is read as a whole, with blanks around it, if it is read at all. -/
lemma whole_of_blank (h : Reads r a t) {w w' : List Char} (hw : Blank w) (hw' : Blank w') :
    readWhole r (String.ofList (w ++ (t ++ w'))) = .ok a := by
  have hread : r (w ++ (t ++ w')) = .ok (a, w') :=
    h.read hw (by simpa using Ends.of_blank hw' ends_nil)
  have hend : skipSpace w' = [] := by
    rw [← List.append_nil w', skipSpace_append hw']
    rfl
  rw [readWhole, String.toList_ofList, hread]
  simp [hend, bind, Except.bind, pure, Except.pure]

lemma whole (h : Reads r a t) : readWhole r (String.ofList t) = .ok a := by
  simpa only [List.nil_append, List.append_nil] using h.whole_of_blank blank_nil blank_nil

end Reads

/-! ## Scalars -/

lemma reads_text {s : String} {t : List Char} (h : Characters s.toList t) :
    Reads readText s ('"' :: t ++ ['"']) where
  opens := opens_cons (by decide) _
  read hw _ := by
    rw [readText, List.cons_append, List.cons_append, skipSpace_append_cons hw rfl]
    simp [readString_of_characters h, Except.map]

lemma reads_null (r : Reader α) : Reads (nullable r) none ['n', 'u', 'l', 'l'] where
  opens := opens_cons (by decide) _
  read hw _ := by
    rw [nullable, List.cons_append, skipSpace_append_cons hw rfl]
    rfl

/-- A value that does not look like `null` is read as it is read where it must be there. -/
lemma Reads.nullable {r : Reader α} {a : α} {t : List Char} (h : Reads r a t)
    (hn : t.head? ≠ some 'n') : Reads (nullable r) (some a) t where
  opens := h.opens
  read {w rest} hw hrest := by
    obtain ⟨c, s, rfl, hc, -⟩ := h.opens
    have hread : r (c :: (s ++ rest)) = .ok (a, rest) := h.read_append hrest
    rw [Json.nullable, List.cons_append, skipSpace_append_cons hw hc]
    -- the first character decides
    split
    · next heq => simp_all
    · rw [hread]
      rfl

lemma reads_variant {room : Nat} {wanted name : String} {named : String → Option α} {a : α}
    {t : List Char} (hname : named name = some a) (h : Characters name.toList t) :
    Reads (readVariant room wanted named) a ('"' :: t ++ ['"']) where
  opens := opens_cons (by decide) _
  read {w rest} hw _ := by
    have hstring : readString (t ++ '"' :: rest) = .ok (name.toList, rest) :=
      readString_of_characters h rest
    rw [readVariant, List.cons_append, List.cons_append, skipSpace_append_cons hw rfl]
    simp [hstring, readVariant.lookup, hname, bind, Except.bind, pure, Except.pure]

/-! ## Whole numbers -/

section Numbers

variable {i : Int64} {rest : List Char}

lemma Number.read_negative (hi : i.toInt < 0) (hrest : Ends rest) :
    Number.read true (Decimal.digits i.toInt.natAbs ++ rest) = .ok (.integer i.toInt, rest) := by
  have hmin : Int64.minValue.toInt ≤ i.toInt := Int64.minValue_le_toInt i
  have hmin' : Int64.minValue.toInt = -9223372036854775808 := rfl
  have habs : -(i.toInt.natAbs : Int) = i.toInt := by omega
  rw [read_digits_append true (by rw [UInt64.size]; omega) hrest, whole, if_pos rfl,
    if_pos ⟨by omega, by omega⟩, habs]

lemma Number.read_natural (hi : 0 ≤ i.toInt) (hrest : Ends rest) :
    Number.read false (Decimal.digits i.toInt.natAbs ++ rest) = .ok (.integer i.toInt, rest) := by
  have hmax : i.toInt ≤ Int64.maxValue.toInt := Int64.toInt_le i
  have hmax' : Int64.maxValue.toInt = 9223372036854775807 := rfl
  rw [read_digits_append false (by rw [UInt64.size]; omega) hrest, whole, if_neg (by decide),
    Int.natAbs_of_nonneg hi]

lemma isSpace_of_isDigit {c : Char} (hc : c.isDigit = true) : isSpace c = false := by
  rw [Bool.eq_false_iff]
  intro hspace
  simp only [isSpace, Bool.or_eq_true, beq_iff_eq] at hspace
  rcases hspace with ((rfl | rfl) | rfl) | rfl <;> contradiction

/-- A reader that leaves numbers to `Number.read` reads the whole numbers of 64 bits. -/
lemma reads_number {r : Reader α} {a : α}
    (hneg : ∀ {w s rest}, Blank w → Number.read true s = .ok (.integer i.toInt, rest) →
      r (w ++ '-' :: s) = .ok (a, rest))
    (hnat : ∀ {w c s rest}, Blank w → c.isDigit = true →
      Number.read false (c :: s) = .ok (.integer i.toInt, rest) → r (w ++ c :: s) = .ok (a, rest)) :
    Reads r a (Decimal.chars i.toInt) := by
  rw [Decimal.chars]
  split
  · next hi =>
    refine ⟨opens_cons (by decide) _, fun hw hrest => ?_⟩
    exact hneg hw (Number.read_negative hi hrest)
  · next hi =>
    obtain ⟨d, ds, hds⟩ := List.exists_cons_of_ne_nil (Decimal.digits_ne_nil i.toInt.natAbs)
    have hd : d.isDigit = true := Decimal.isDigit_of_mem_digits (by rw [hds]; simp)
    refine ⟨⟨d, ds, hds, isSpace_of_isDigit hd, ?_, ?_⟩, fun hw hrest => ?_⟩
    · rintro rfl; contradiction
    · rintro rfl; contradiction
    have hread := Number.read_natural (i := i) (by omega) hrest
    rw [hds] at hread ⊢
    exact hnat hw hd hread

lemma reads_int64 (i : Int64) : Reads readInt64 i (Decimal.chars i.toInt) := by
  have hi : isInt64 i.toInt = true := by
    rw [isInt64, Bool.and_eq_true, decide_eq_true_eq, decide_eq_true_eq]
    exact ⟨Int64.minValue_le_toInt i, Int64.toInt_le i⟩
  have hto : toInt64 (.integer i.toInt) = .ok i := by
    rw [toInt64, if_pos hi, Int64.ofInt_toInt]
  refine reads_number (fun {w s rest} hw h => ?_) (fun {w c s rest} hw hc h => ?_)
  · rw [readInt64, skipSpace_append_cons hw rfl]
    simp [readInt64.number, h, hto, bind, Except.bind, pure, Except.pure]
  · rw [readInt64, skipSpace_append_cons hw (isSpace_of_isDigit hc)]
    split
    · contradiction
    · next heq => simp_all
    · next heq =>
      obtain ⟨rfl, rfl⟩ := by simpa using heq
      rw [if_pos hc]
      simp [readInt64.number, h, hto, bind, Except.bind, pure, Except.pure]

end Numbers

/-! ## Arrays -/

section Arrays

variable {r : Reader α} {as : List α} {first : Bool} {lead w t rest : List Char}

/-- What stands between what was read and the next element or member: a comma, but for the first
one. -/
inductive Lead : Bool → List Char → Prop
  | first : Lead true []
  | comma {w : List Char} (hw : Blank w) : Lead false (w ++ [','])

lemma nextElement_opens (hlead : Lead first lead) (hw : Blank w) (ht : Opens t) :
    nextElement first (lead ++ (w ++ (t ++ rest))) = .ok (some (t ++ rest)) := by
  obtain ⟨c, s, rfl, hc, hcomma, hbracket⟩ := ht
  cases hlead with
  | first =>
    rw [nextElement, List.nil_append, List.cons_append, skipSpace_append_cons hw hc]
    split <;> simp_all
  | comma hw' =>
    rw [nextElement, List.append_assoc, List.singleton_append, skipSpace_append_cons hw' rfl]
    simp only [List.cons_append, skipSpace_append_cons hw hc]
    simp only [Bool.false_eq_true, if_false]
    split <;> simp_all

lemma nextElement_bracket (hw : Blank w) :
    nextElement first (w ++ ']' :: rest) = .ok none := by
  rw [nextElement, skipSpace_append_cons hw rfl]
  rfl

lemma readElements_bracket (hw : Blank w) {fuel : Nat} (hfuel : 0 < fuel) :
    readElements r fuel first (w ++ ']' :: rest) = .ok ([], w ++ ']' :: rest) := by
  obtain ⟨fuel, rfl⟩ := Nat.exists_eq_add_of_lt hfuel
  simp [readElements, nextElement_bracket hw, bind, Except.bind, pure, Except.pure]

/-- The next element is read, and the rest of the elements from behind it on. -/
lemma readElements_cons {a : α} {as : List α} {fuel : Nat} {rest' : List Char}
    (hlead : Lead first lead) (hw : Blank w) (ha : Reads r a t) (hrest : Ends rest)
    (has : readElements r fuel false rest = .ok (as, rest')) :
    readElements r (fuel + 1) first (lead ++ (w ++ (t ++ rest))) = .ok (a :: as, rest') := by
  simp [readElements, nextElement_opens hlead hw ha.opens, ha.read_append hrest, has, bind,
    Except.bind, pure, Except.pure]

/-- Elements are read up to the blanks in front of the closing bracket. -/
lemma readElements_listed (h : Listed (Reads r) as t) {fuel : Nat} (hfuel : t.length < fuel)
    (hlead : Lead first lead) (rest : List Char) :
    ∃ w, Blank w ∧
      readElements r fuel first (lead ++ (t ++ ']' :: rest)) = .ok (as, w ++ ']' :: rest) := by
  induction h generalizing fuel first lead with
  | @last a w t w' hw ha hw' =>
    obtain ⟨c, s, rfl, -⟩ := ha.opens
    simp only [List.length_append, List.length_cons] at hfuel
    obtain ⟨fuel, rfl⟩ : ∃ n, fuel = n + 1 := ⟨fuel - 1, by omega⟩
    -- one step reads the element and one more finds the bracket
    refine ⟨w', hw', ?_⟩
    simp only [List.append_assoc]
    exact readElements_cons hlead hw ha (.of_blank hw' (ends_cons (by decide) rest))
      (readElements_bracket hw' (by omega))
  | @cons a as w t w' s hw ha hw' _ ih =>
    simp only [List.length_append, List.length_cons] at hfuel
    obtain ⟨fuel, rfl⟩ : ∃ n, fuel = n + 1 := ⟨fuel - 1, by omega⟩
    obtain ⟨w'', hw'', has⟩ := ih (show s.length < fuel by omega) (.comma hw')
    refine ⟨w'', hw'', ?_⟩
    simp only [List.append_assoc, List.cons_append, List.nil_append] at has ⊢
    exact readElements_cons hlead hw ha (.of_blank hw' (ends_cons (by decide) _)) has

lemma readElements_series (h : Series (Reads r) as t) {fuel : Nat} (hfuel : t.length < fuel)
    (rest : List Char) :
    ∃ w, Blank w ∧ readElements r fuel true (t ++ ']' :: rest) = .ok (as, w ++ ']' :: rest) := by
  cases h with
  | empty hw => exact ⟨t, hw, readElements_bracket hw (by omega)⟩
  | listed h => exact readElements_listed h hfuel .first rest

lemma closeArray_bracket (hw : Blank w) : closeArray (w ++ ']' :: rest) = .ok rest := by
  rw [closeArray, skipSpace_append_cons hw rfl]
  rfl

/-- An array is read from the texts of its elements. -/
lemma reads_array {room : Nat} (hroom : 1 < room) (h : Series (Reads r) as t) :
    Reads (readArray room r) as ('[' :: t ++ [']']) where
  opens := opens_cons (by decide) _
  read {w rest} hw _ := by
    have hfuel : t.length < (t ++ ']' :: rest).length + 1 := by
      rw [List.length_append]
      omega
    obtain ⟨w', hw', has⟩ := readElements_series h hfuel rest
    rw [readArray, List.cons_append, List.cons_append, skipSpace_append_cons hw rfl]
    simp only [List.append_assoc, List.singleton_append]
    rw [if_neg (by omega), has]
    simp [closeArray_bracket hw', bind, Except.bind, pure, Except.pure]

end Arrays

/-! ## Objects -/

section Objects

variable {P : β → List Char → Prop} {take : String → σ → Reader σ} {m m' m'' : σ}
  {ms : List (String × β)} {first : Bool} {lead w s t rest : List Char}

/-- The reader of a member finds a value from the colon on. -/
def ReadsBehindName (r : Reader α) (a : α) (t : List Char) : Prop :=
  ∀ {w w' rest}, Blank w → Blank w' → Ends rest →
    r (w ++ ':' :: (w' ++ (t ++ rest))) = .ok (a, rest)

lemma ReadsBehindName.map {r : Reader α} {a : α} (f : α → β) (h : ReadsBehindName r a t) :
    ReadsBehindName (fun s => (r s).map fun p => (f p.1, p.2)) (f a) t := by
  intro w w' rest hw hw' hrest
  simp only [h hw hw' hrest, Except.map]

lemma readColon_append (hw : Blank w) (rest : List Char) :
    readColon (w ++ ':' :: rest) = .ok rest := by
  rw [readColon, skipSpace_append_cons hw rfl]
  rfl

/-- A member that was not there before is read with the reader of its value. -/
lemma Reads.member {r : Reader α} {a : α} (name : String) (h : Reads r a t) :
    ReadsBehindName (readMember name none r) a t := by
  intro w w' rest hw hw' hrest
  simp [readMember, readColon_append hw, h.read hw' hrest, bind, Except.bind]

/-- Taking members leads from `m` to `m'`, however their values are spelt. -/
inductive Takes (take : String → σ → Reader σ) (P : β → List Char → Prop) :
    σ → List (String × β) → σ → Prop
  | nil {m : σ} : Takes take P m [] m
  | cons {m m' m'' : σ} {k : String} {b : β} {ms : List (String × β)}
    (hb : ∀ t, P b t → ReadsBehindName (take k m) m' t) (hms : Takes take P m' ms m'') :
    Takes take P m ((k, b) :: ms) m''

lemma Takes.append {ms' : List (String × β)} (h : Takes take P m ms m')
    (h' : Takes take P m' ms' m'') : Takes take P m (ms ++ ms') m'' := by
  induction h with
  | nil => exact h'
  | cons hb _ ih => exact .cons hb (ih h')

lemma nextName_quote (hlead : Lead first lead) (hw : Blank w) :
    nextName first (lead ++ (w ++ '"' :: rest)) = .ok (some rest) := by
  cases hlead with
  | first =>
    rw [nextName, List.nil_append, skipSpace_append_cons hw rfl]
    rfl
  | comma hw' =>
    rw [nextName, List.append_assoc, List.singleton_append, skipSpace_append_cons hw' rfl]
    simp [skipSpace_append_cons hw (show isSpace '"' = false from rfl)]

lemma nextName_brace (hw : Blank w) : nextName first (w ++ '}' :: rest) = .ok none := by
  rw [nextName, skipSpace_append_cons hw rfl]
  rfl

lemma readMembers_brace (hw : Blank w) {fuel : Nat} (hfuel : 0 < fuel) :
    readMembers take fuel first m (w ++ '}' :: rest) = .ok (m, w ++ '}' :: rest) := by
  obtain ⟨fuel, rfl⟩ := Nat.exists_eq_add_of_lt hfuel
  simp [readMembers, nextName_brace hw, bind, Except.bind, pure, Except.pure]

/-- The next member is taken, and the rest of the members from behind it on. -/
lemma readMembers_cons {k : String} {b : β} {fuel : Nat} {rest' : List Char}
    (hlead : Lead first lead) (hw : Blank w) (ht : Member P (k, b) t)
    (hb : ∀ t, P b t → ReadsBehindName (take k m) m' t) (hrest : Ends rest)
    (hms : readMembers take fuel false m' rest = .ok (m'', rest')) :
    readMembers take (fuel + 1) first m (lead ++ (w ++ (t ++ rest))) = .ok (m'', rest') := by
  cases ht with
  | @mk _ _ s w₁ w₂ t hk hw₁ hw₂ ht =>
    have htake := hb t ht hw₁ hw₂ hrest
    have hname : readString (s ++ '"' :: (w₁ ++ ':' :: (w₂ ++ (t ++ rest)))) =
        .ok (k.toList, w₁ ++ ':' :: (w₂ ++ (t ++ rest))) := readString_of_characters hk _
    simp [readMembers, nextName_quote hlead hw, hname, htake, hms, bind, Except.bind]

/-- Members are read up to the blanks in front of the closing brace. -/
lemma readMembers_listed (h : Listed (Member P) ms t) (htakes : Takes take P m ms m')
    {fuel : Nat} (hfuel : t.length < fuel) (hlead : Lead first lead) (rest : List Char) :
    ∃ w, Blank w ∧
      readMembers take fuel first m (lead ++ (t ++ '}' :: rest)) = .ok (m', w ++ '}' :: rest) := by
  induction h generalizing m fuel first lead with
  | @last a w t w' hw ha hw' =>
    rcases htakes with _ | ⟨hb, ⟨⟩⟩
    have hpos : 0 < t.length := by cases ha; simp
    simp only [List.length_append] at hfuel
    obtain ⟨fuel, rfl⟩ : ∃ n, fuel = n + 1 := ⟨fuel - 1, by omega⟩
    refine ⟨w', hw', ?_⟩
    simp only [List.append_assoc]
    exact readMembers_cons hlead hw ha hb (.of_blank hw' (ends_cons (by decide) rest))
      (readMembers_brace hw' (by omega))
  | @cons a as w t w' s hw ha hw' _ ih =>
    rcases htakes with _ | ⟨hb, hms⟩
    simp only [List.length_append, List.length_cons] at hfuel
    obtain ⟨fuel, rfl⟩ : ∃ n, fuel = n + 1 := ⟨fuel - 1, by omega⟩
    obtain ⟨w'', hw'', has⟩ := ih hms (show s.length < fuel by omega) (.comma hw')
    refine ⟨w'', hw'', ?_⟩
    simp only [List.append_assoc, List.cons_append, List.nil_append] at has ⊢
    exact readMembers_cons hlead hw ha hb (.of_blank hw' (ends_cons (by decide) _)) has

lemma readMembers_series (h : Series (Member P) ms t) (htakes : Takes take P m ms m')
    {fuel : Nat} (hfuel : t.length < fuel) (rest : List Char) :
    ∃ w, Blank w ∧
      readMembers take fuel true m (t ++ '}' :: rest) = .ok (m', w ++ '}' :: rest) := by
  cases h with
  | empty hw =>
    cases htakes
    exact ⟨t, hw, readMembers_brace hw (by omega)⟩
  | listed h => exact readMembers_listed h htakes hfuel .first rest

lemma closeObject_brace (hw : Blank w) : closeObject (w ++ '}' :: rest) = .ok rest := by
  rw [closeObject, skipSpace_append_cons hw rfl]
  rfl

/-- A record is read from an object if its members are taken, and what is known then makes up a
value. -/
lemma reads_record {room : Nat} {wanted : String} {fields members : Reader α} {a : α}
    (hroom : 1 < room) (h : Series (Member P) ms t) (htakes : Takes take P m ms m')
    (hmembers : ∀ {s rest}, readMembers take (s.length + 1) true m s = .ok (m', rest) →
      members s = .ok (a, rest)) :
    Reads (readRecord room wanted fields members) a ('{' :: t ++ ['}']) where
  opens := opens_cons (by decide) _
  read {w rest} hw _ := by
    have hfuel : t.length < (t ++ '}' :: rest).length + 1 := by
      rw [List.length_append]
      omega
    obtain ⟨w', hw', hms⟩ := readMembers_series h htakes hfuel rest
    rw [readRecord, List.cons_append, List.cons_append, skipSpace_append_cons hw rfl]
    simp only [List.append_assoc, List.singleton_append]
    rw [if_neg (by omega), hmembers hms]
    simp [closeObject_brace hw', bind, Except.bind, pure, Except.pure]

end Objects

end ProxyProfiles.Json
