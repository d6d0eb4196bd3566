import ProxyProfiles.FileTree.Action
import ProxyProfiles.Proofs.FileTree.PlainPath
import ProxyProfiles.Proofs.Task
import Mathlib.Data.List.Induction
/-!
# What operations on files leave alone

No operation removes a directory or puts anything in its place. So a path that has led to a file
leads to the same place afterwards, and its text is still read there if no operation has touched
that place (`readText_of_retains`). Which place an operation touches can be told from its path
alone (`locationOf_of_locate`).

Nothing is asked of the paths here: they may go up and down, repeat slashes or end in one.

* An operation keeps what stands at any place but its own (`writeText_retains`,
  `removeFile_retains`), and so does a sequence of operations, whether it succeeds or fails
  (`FileAction.Retains`).
* To make a directory, directories are added at its place and at those of the paths above it, and
  nothing else changes (`FileAction.makeDirectories_adds`).
* What was written is read (`readText_of_writeText`).
-/

namespace ProxyProfiles

open Text

namespace FileTree

/-! ## The place of a path -/

section Place

/-- Goes on from a place by a name; an empty name is passed over. -/
def advance (l : Location) (n : List Char) : Location :=
  if n = [] then l else stepTo l n

lemma foldl_stepTo_filter (ns : List (List Char)) (l : Location) :
    (ns.filter fun n => n ≠ [] ∧ n ≠ ['.']).foldl stepTo l = ns.foldl advance l := by
  induction ns generalizing l with
  | nil => rfl
  | cons n ns ih =>
    by_cases hn : n = []
    · subst hn
      simpa [advance] using ih l
    · by_cases hdot : n = ['.']
      · subst hdot
        simpa [advance, stepTo] using ih l
      · rw [List.filter_cons_of_pos (by simp [hn, hdot]), List.foldl_cons, List.foldl_cons, ih,
          advance, if_neg hn]

lemma locationOf_eq_foldl (path : String) :
    locationOf path = (pieces '/' path.toList).foldl advance [] := by
  rw [locationOf, namesThatCount]
  split
  · next hnil => exact absurd hnil (pieces_ne_nil _ _)
  · next first others hps =>
    rw [hps, List.foldl_append, foldl_stepTo_filter, List.foldl_cons]
    by_cases hfirst : first = [] <;> simp [hfirst, advance]

/-- Empty names do not change the place. -/
lemma foldl_advance_filter (ns : List (List Char)) (l : Location) :
    (ns.filter (· ≠ [])).foldl advance l = ns.foldl advance l := by
  induction ns generalizing l with
  | nil => rfl
  | cons n ns ih =>
    by_cases hn : n = []
    · subst hn
      simpa [advance] using ih l
    · rw [List.filter_cons_of_pos (by simpa using hn), List.foldl_cons, List.foldl_cons, ih]

/-- Slashes at the end of a path do not change its names. -/
lemma filter_pieces_rdropWhile (s : List Char) :
    (pieces '/' (s.rdropWhile (· == '/'))).filter (· ≠ []) =
      (pieces '/' s).filter (· ≠ []) := by
  induction s using List.reverseRecOn with
  | nil => rfl
  | append_singleton s c ih =>
    by_cases hc : c = '/'
    · subst hc
      rw [List.rdropWhile_concat_pos _ _ _ (by simp), ih, pieces_append_sep, List.filter_append]
      simp
    · rw [List.rdropWhile_concat_neg _ _ _ (by simpa using hc)]

lemma ofList_eq_iff {n m : List Char} : String.ofList n = String.ofList m ↔ n = m :=
  ⟨fun h => by simpa using congrArg String.toList h, congrArg String.ofList⟩

lemma eq_advance_of_enter {t : FileTree} {l l' : Location} {n : List Char}
    (h : t.enter l (String.ofList n) = .ok l') : l' = advance l n := by
  have hempty : String.ofList n = "" ↔ n = [] := ofList_eq_iff (m := [])
  have hdot : String.ofList n = "." ↔ n = ['.'] := ofList_eq_iff (m := ['.'])
  have hdots : String.ofList n = ".." ↔ n = ['.', '.'] := ofList_eq_iff (m := ['.', '.'])
  simp only [enter, hempty, hdot, hdots] at h
  rw [advance, stepTo]
  split at h
  · next hn => rcases hn with rfl | rfl <;> simp_all
  · next hn =>
    rw [not_or] at hn
    rw [if_neg hn.1, if_neg hn.2]
    split at h
    · next hup =>
      rw [if_pos hup]
      exact (Except.ok.inj h).symm
    · next hup =>
      rw [if_neg hup]
      split at h
      · contradiction
      · exact (Except.ok.inj h).symm
      · contradiction

lemma eq_foldl_of_walk {t : FileTree} {ns : List (List Char)} {l l' : Location}
    (h : (ns.map String.ofList).foldlM t.enter l = .ok l') : l' = ns.foldl advance l := by
  induction ns generalizing l with
  | nil => exact (Except.ok.inj h).symm
  | cons n ns ih =>
    rw [List.map_cons, List.foldlM_cons] at h
    rcases hn : t.enter l (String.ofList n) with e | l₁ <;> rw [hn] at h
    · contradiction
    · rw [List.foldl_cons, ← eq_advance_of_enter hn]
      exact ih h

/-- A path is located by walking on its names but the last one; slashes at its end do not count. -/
lemma of_locate {t : FileTree} {path : String} {l : Location} {target : Target}
    (h : t.locate path = .ok (l, target)) :
    ¬ path.toList.contains '\x00' = true ∧
    ∃ ns n, pieces '/' (path.toList.rdropWhile (· == '/')) = ns ++ [n] ∧
      t.walk (ns.map String.ofList) = .ok l ∧ target.name = String.ofList n := by
  rw [locate] at h
  split at h
  · contradiction
  next hzero =>
  split at h
  · contradiction
  obtain ⟨ns, n, hps⟩ := exists_pieces_eq (path.toList.rdropWhile (· == '/'))
  rw [ofPath_eq hps] at h
  refine ⟨hzero, ns, n, hps, ?_⟩
  rcases hwalk : t.walk (ns.map String.ofList) with e | l'
  · simp [hwalk, Except.map] at h
  · simp only [hwalk, Except.map, Except.ok.injEq, Prod.mk.injEq] at h
    obtain ⟨rfl, rfl⟩ := h
    exact ⟨rfl, rfl⟩

/-- The place that an operation finds can be told from the path, whatever stands on the way. -/
lemma locationOf_of_locate {t : FileTree} {path : String} {l : Location} {target : Target}
    (h : t.locate path = .ok (l, target)) (hdots : target.isDots = false) :
    locationOf path = target.name :: l := by
  obtain ⟨-, ns, n, hps, hwalk, hname⟩ := of_locate h
  rw [Target.isDots, hname] at hdots
  have hempty : n ≠ [] := by
    rintro rfl
    simp at hdots
  have hdot : n ≠ ['.'] := by
    rintro rfl
    simp at hdots
  have hup : n ≠ ['.', '.'] := by
    rintro rfl
    simp at hdots
  calc locationOf path = (ns ++ [n]).foldl advance [] := by
        rw [locationOf_eq_foldl, ← foldl_advance_filter, ← filter_pieces_rdropWhile,
          foldl_advance_filter, hps]
    _ = advance l n := by rw [List.foldl_append, ← eq_foldl_of_walk hwalk]; rfl
    _ = target.name :: l := by
        rw [advance, stepTo, if_neg hempty, if_neg hdot, if_neg hup, hname]

end Place

/-! ## Adding directories -/

/-- At a place, the second tree has what the first one has, or it has a directory where nothing
stands in the first one and this is one of some places. -/
def AddsAt (ms : Location → Prop) (t t' : FileTree) (m : Location) : Prop :=
  t'.get? m = t.get? m ∨ t.get? m = none ∧ t'.get? m = some .directory ∧ ms m

/-- The second tree has more directories than the first, at some of these places, and is otherwise
the same. -/
def Adds (ms : Location → Prop) (t t' : FileTree) : Prop :=
  ∀ m, AddsAt ms t t' m

section Adds

variable {ms ms' : Location → Prop} {t t' t'' : FileTree} {m : Location} {e : Entry}

lemma AddsAt.get?_eq_some (h : AddsAt ms t t' m) (he : t.get? m = some e) :
    t'.get? m = some e := by
  rcases h with hsame | ⟨hnone, -⟩
  · exact hsame.trans he
  · rw [hnone] at he
    contradiction

lemma AddsAt.trans (h : AddsAt ms t t' m) (h' : AddsAt ms t' t'' m) : AddsAt ms t t'' m := by
  rcases h with hsame | ⟨hnone, hdirectory, hm⟩
  · rwa [AddsAt, hsame] at h'
  · exact .inr ⟨hnone, h'.get?_eq_some hdirectory, hm⟩

namespace Adds

lemma refl (ms : Location → Prop) (t : FileTree) : Adds ms t t := fun _ => .inl rfl

lemma trans (h : Adds ms t t') (h' : Adds ms t' t'') : Adds ms t t'' := fun m => (h m).trans (h' m)

lemma mono (h : Adds ms t t') (hms : ∀ m, ms m → ms' m) : Adds ms' t t' :=
  fun m => (h m).imp_right fun ⟨hnone, hdirectory, hm⟩ => ⟨hnone, hdirectory, hms m hm⟩

lemma set_directory (hm : t.get? m = none) : Adds (· = m) t (t.set m .directory) := by
  intro k
  by_cases hk : k = m
  · subst hk
    have hne : k ≠ [] := by
      rintro rfl
      simp at hm
    exact .inr ⟨hm, get?_set_self t hne _, rfl⟩
  · exact .inl (get?_set_of_ne t hk _)

end Adds

end Adds

/-! ## Retaining a file -/

/-- From one tree to the other, directories stay directories and a text at a place stays that text.
-/
structure Retains (l : Location) (t t' : FileTree) : Prop where
  directory : ∀ m, t.get? m = some .directory → t'.get? m = some .directory
  text : ∀ s, t.get? l = some (.text s) → t'.get? l = some (.text s)

section Retains

variable {l m : Location} {t t' t'' : FileTree} {path s : String} {x : Location × Target}

lemma Retains.refl (l : Location) (t : FileTree) : Retains l t t := ⟨fun _ => id, fun _ => id⟩

lemma Retains.trans (h : Retains l t t') (h' : Retains l t' t'') : Retains l t t'' :=
  ⟨fun m hm => h'.directory m (h.directory m hm), fun s hs => h'.text s (h.text s hs)⟩

lemma Retains.of_adds {ms : Location → Prop} (h : Adds ms t t') (l : Location) :
    Retains l t t' :=
  ⟨fun m => (h m).get?_eq_some, fun _ => (h l).get?_eq_some⟩

/-- Something that is no directory changes at another place. -/
lemma Retains.of_ne (hm : t.get? m ≠ some .directory) (hne : l ≠ m)
    (h : ∀ k, k ≠ m → t'.get? k = t.get? k) : Retains l t t' where
  directory k hk := by
    rwa [h]
    rintro rfl
    exact hm hk
  text s hs := by rwa [h l hne]

lemma enter_of_retains {l₁ l₂ : Location} {name : String} (h : Retains l t t')
    (hname : t.enter l₁ name = .ok l₂) : t'.enter l₁ name = .ok l₂ := by
  unfold enter at hname ⊢
  split
  · next hn => rwa [if_pos hn] at hname
  · next hn =>
    rw [if_neg hn] at hname
    split
    · next hup => rwa [if_pos hup] at hname
    · next hup =>
      rw [if_neg hup] at hname
      split at hname
      · contradiction
      · next hdirectory => rw [h.directory _ hdirectory]; exact hname
      · contradiction

lemma walk_of_retains {names : List String} {l₁ l₂ : Location} (h : Retains l t t')
    (hwalk : names.foldlM t.enter l₁ = .ok l₂) : names.foldlM t'.enter l₁ = .ok l₂ := by
  induction names generalizing l₁ with
  | nil => exact hwalk
  | cons name names ih =>
    rw [List.foldlM_cons] at hwalk ⊢
    rcases hname : t.enter l₁ name with e | l₃ <;> rw [hname] at hwalk
    · contradiction
    · rw [enter_of_retains h hname]
      exact ih hwalk

/-- A path leads where it has led before. -/
lemma locate_of_retains (h : Retains l t t') (hlocate : t.locate path = .ok x) :
    t'.locate path = .ok x := by
  unfold locate at hlocate ⊢
  split
  · next hzero => rwa [if_pos hzero] at hlocate
  · next hzero =>
    rw [if_neg hzero] at hlocate
    split
    · next hempty => rwa [if_pos hempty] at hlocate
    · next hempty =>
      rw [if_neg hempty] at hlocate
      rcases hwalk : t.walk (Target.ofPath path).directories with e | l'
      · simp [hwalk, Except.map] at hlocate
      · have hwalk' : t'.walk (Target.ofPath path).directories = .ok l' :=
          walk_of_retains h hwalk
        simpa only [hwalk, hwalk'] using hlocate

end Retains

/-! ## Operations that succeed -/

section Operations

variable {t t' : FileTree} {l : Location} {path s : String}

/-- A path has led to a place that is no directory which always stands. -/
structure Finds (t : FileTree) (path : String) (l : Location) (target : Target) : Prop where
  locate : t.locate path = .ok (l, target)
  dots : target.isDots = false

lemma Finds.location {target : Target} (h : Finds t path l target) :
    locationOf path = target.name :: l :=
  locationOf_of_locate h.locate h.dots

/-- An operation that succeeds has found a place. -/
lemma exists_of_locate_bind {α : Type} {f : Location × Target → Except FileFault α} {a : α}
    (h : (t.locate path >>= f) = .ok a) :
    ∃ l target, t.locate path = .ok (l, target) ∧ f (l, target) = .ok a := by
  rcases hlocate : t.locate path with e | ⟨l, target⟩ <;> rw [hlocate] at h
  · contradiction
  · exact ⟨l, target, rfl, h⟩

lemma readText_eq_ok_iff :
    t.readText path = .ok s ↔ ∃ l target, Finds t path l target ∧ target.slash = false ∧
      t.get? (target.name :: l) = some (.text s) := by
  constructor
  · intro h
    obtain ⟨l, target, hlocate, hrest⟩ := exists_of_locate_bind h
    dsimp only at hrest
    split at hrest
    · contradiction
    · next hdots =>
      refine ⟨l, target, ⟨hlocate, by simpa using hdots⟩, ?_⟩
      split at hrest
      · contradiction
      · contradiction
      · next s' hs =>
        split at hrest
        · contradiction
        · next hslash =>
          obtain rfl : s' = s := Except.ok.inj hrest
          exact ⟨by simpa using hslash, hs⟩
      · split at hrest <;> contradiction
  · rintro ⟨l, target, hfinds, hslash, hs⟩
    simp [readText, hfinds.locate, bind, Except.bind, hfinds.dots, hslash, hs]

lemma of_writeText (h : t.writeText path s = .ok t') :
    ∃ l target, Finds t path l target ∧ target.slash = false ∧
      t.get? (target.name :: l) ≠ some .directory ∧ t' = t.set (target.name :: l) (.text s) := by
  obtain ⟨l, target, hlocate, hrest⟩ := exists_of_locate_bind h
  dsimp only at hrest
  split at hrest
  · contradiction
  · next hdots =>
    simp only [not_or, Bool.not_eq_true] at hdots
    split at hrest
    · contradiction
    · next hdirectory =>
      exact ⟨l, target, ⟨hlocate, hdots.1⟩, hdots.2, hdirectory, (Except.ok.inj hrest).symm⟩

/-- Whether a file can be written does not depend on the text. -/
lemma exists_writeText (h : t.writeText path s = .ok t') (s' : String) :
    ∃ t'', t.writeText path s' = .ok t'' := by
  obtain ⟨l, target, hfinds, hslash, hdirectory, -⟩ := of_writeText h
  refine ⟨t.set (target.name :: l) (.text s'), ?_⟩
  simp [writeText, hfinds.locate, bind, Except.bind, hfinds.dots, hslash, hdirectory]

lemma of_makeDirectory (h : t.makeDirectory path = .ok t') :
    ∃ l target, Finds t path l target ∧ t.get? (target.name :: l) = none ∧
      t' = t.set (target.name :: l) .directory := by
  obtain ⟨l, target, hlocate, hrest⟩ := exists_of_locate_bind h
  dsimp only at hrest
  split at hrest
  · contradiction
  · next hdots =>
    split at hrest
    · contradiction
    · next hnone =>
      exact ⟨l, target, ⟨hlocate, by simpa using hdots⟩, by simpa using hnone,
        (Except.ok.inj hrest).symm⟩

lemma of_removeFile (h : t.removeFile path = .ok t') :
    ∃ l target e, Finds t path l target ∧ t.get? (target.name :: l) = some e ∧ e ≠ .directory ∧
      t' = t.erase (target.name :: l) := by
  obtain ⟨l, target, hlocate, hrest⟩ := exists_of_locate_bind h
  dsimp only at hrest
  split at hrest
  · contradiction
  · next hdots =>
    split at hrest
    · contradiction
    · contradiction
    · next e hne he =>
      split at hrest
      · contradiction
      · exact ⟨l, target, e, ⟨hlocate, by simpa using hdots⟩, he, hne,
          (Except.ok.inj hrest).symm⟩

lemma writeText_retains (h : t.writeText path s = .ok t') (hne : l ≠ locationOf path) :
    Retains l t t' := by
  obtain ⟨l', target, hfinds, -, hdirectory, rfl⟩ := of_writeText h
  rw [hfinds.location] at hne
  exact .of_ne hdirectory hne fun k hk => get?_set_of_ne t hk _

lemma removeFile_retains (h : t.removeFile path = .ok t') (hne : l ≠ locationOf path) :
    Retains l t t' := by
  obtain ⟨l', target, e, hfinds, he, hdirectory, rfl⟩ := of_removeFile h
  rw [hfinds.location] at hne
  exact .of_ne (by simpa [he] using hdirectory) hne fun k hk => get?_erase_of_ne t hk

/-- A text is still read if its place is retained. -/
lemma readText_of_retains (h : Retains (locationOf path) t t') (hread : t.readText path = .ok s) :
    t'.readText path = .ok s := by
  obtain ⟨l, target, hfinds, hslash, hs⟩ := readText_eq_ok_iff.1 hread
  have hfinds' : Finds t' path l target := ⟨locate_of_retains h hfinds.locate, hfinds.dots⟩
  rw [hfinds.location] at h
  exact readText_eq_ok_iff.2 ⟨l, target, hfinds', hslash, h.text s hs⟩

/-- What was written is read. -/
lemma readText_of_writeText (h : t.writeText path s = .ok t') : t'.readText path = .ok s := by
  obtain ⟨l, target, hfinds, hslash, hdirectory, rfl⟩ := of_writeText h
  -- the place itself is not retained, but any other is, and so the path leads there again
  have hretains : Retains [] t (t.set (target.name :: l) (.text s)) :=
    .of_ne hdirectory (List.cons_ne_nil _ _).symm fun k hk => get?_set_of_ne t hk _
  exact readText_eq_ok_iff.2 ⟨l, target, ⟨locate_of_retains hretains hfinds.locate, hfinds.dots⟩,
    hslash, get?_set_self t (List.cons_ne_nil _ _) _⟩

end Operations

end FileTree

/-! ## Sequences of operations -/

namespace FileAction

open FileTree

/-! ### Making directories -/

lemma makeDirectory_adds (path : String) (t : FileTree) :
    Adds (· = locationOf path) t (makeDirectory path t).2 := by
  unfold makeDirectory
  split
  · next t' ht =>
    obtain ⟨l, target, hfinds, hnone, rfl⟩ := of_makeDirectory ht
    rw [hfinds.location]
    exact .set_directory hnone
  · exact .refl _ t

/-- The places of some paths. -/
def PlaceOfAny (paths : List String) (m : Location) : Prop :=
  ∃ p ∈ paths, m = locationOf p

lemma makeDirectory_adds_of_mem {path : String} {paths : List String} (h : path ∈ paths)
    (t : FileTree) : Adds (PlaceOfAny paths) t (makeDirectory path t).2 :=
  (makeDirectory_adds path t).mono fun _ hm => ⟨path, h, hm⟩

/-- Of the directories above a path, those are made that are needed. -/
lemma makeBelow_adds (path : String) (above : List String) (t : FileTree) :
    Adds (PlaceOfAny (path :: above)) t (makeBelow path above t).2 := by
  induction above generalizing path t with
  | nil => exact makeDirectory_adds_of_mem List.mem_cons_self t
  | cons directory above ih =>
    have hself (t : FileTree) :
        Adds (PlaceOfAny (path :: directory :: above)) t (makeDirectory path t).2 :=
      makeDirectory_adds_of_mem List.mem_cons_self t
    unfold makeBelow
    dsimp only
    split
    · split
      · have habove (t : FileTree) :
            Adds (PlaceOfAny (path :: directory :: above)) t (makeBelow directory above t).2 :=
          (ih directory t).mono fun m ⟨p, hp, hm⟩ => ⟨p, List.mem_cons_of_mem path hp, hm⟩
        exact Task.bind_related (R := Adds _) Adds.trans habove (fun _ => hself) t
      · exact hself t
    · exact hself t

/-- A directory and those above it are the places at which directories are made. -/
lemma makeDirectories_adds (path : String) (t : FileTree) :
    Adds (PlaceOfAny (path :: ancestors path)) t (makeDirectories path t).2 := by
  unfold makeDirectories
  split
  · exact .refl _ t
  · exact makeBelow_adds path _ t

/-! ### Retaining a file -/

variable {α β : Type} {l : Location}

/-- However an action ends, it retains what stands at a place. -/
def Retains (l : Location) (a : FileAction α) : Prop :=
  ∀ t, FileTree.Retains l t (a t).2

namespace Retains

lemma pure (x : α) : Retains l (pure x : FileAction α) := FileTree.Retains.refl l

lemma bind {a : FileAction α} {f : α → FileAction β} (ha : Retains l a)
    (hf : ∀ x, Retains l (f x)) : Retains l (a >>= f) :=
  Task.bind_related (R := FileTree.Retains l) FileTree.Retains.trans ha hf

/-- An operation that fails leaves the tree. -/
lemma change {op : FileTree → Except FileFault FileTree}
    (h : ∀ t t', op t = .ok t' → FileTree.Retains l t t') : Retains l (change op) := by
  intro t
  unfold FileAction.change
  split
  · next t' ht => exact h t t' ht
  · exact .refl l t

lemma writeText {path : String} (hne : l ≠ locationOf path) (s : String) :
    Retains l (writeText path s) :=
  change fun _ _ h => writeText_retains h hne

lemma removeIfPresent {path : String} (hne : l ≠ locationOf path) :
    Retains l (removeIfPresent path) := by
  intro t
  unfold FileAction.removeIfPresent
  split
  · next t' ht => exact removeFile_retains ht hne
  · exact .refl l t
  · exact .refl l t

lemma makeDirectories (path : String) : Retains l (makeDirectories path) :=
  fun t => .of_adds (makeDirectories_adds path t) l

end Retains

end FileAction

end ProxyProfiles
