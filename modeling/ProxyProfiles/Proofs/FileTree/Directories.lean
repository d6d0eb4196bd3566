import ProxyProfiles.FileTree.Action
import ProxyProfiles.Proofs.FileTree.PlainPath
import ProxyProfiles.Proofs.Task
import Mathlib.Data.List.Induction
import Mathlib.Data.List.Infix
/-!
# Files and directories at plain paths

What an operation gives at a plain path depends on what can be reached: a place is reached if each
directory on the way is there (`FileTree.reach?`). If nothing but directories stands on the way, an
operation finds either all of them or one that is missing, and there are no other obstacles
(`FileTree.Clear`).

Making the directory above a path then always succeeds. It makes what is missing on the way and
changes nothing else (`FileTree.Made`).
-/

namespace ProxyProfiles

open Text

namespace FileTree

/-! ## What can be reached -/

/-- What stands at a place, if there are directories all the way. -/
def reach? (t : FileTree) : Location → Option Entry
  | [] => some .directory
  | name :: l => if t.reach? l = some .directory then t.get? (name :: l) else none

/-- On the way to a place, the place included, stands nothing but directories. -/
def Clear (t : FileTree) (l : Location) : Prop :=
  ∀ m, m <:+ l → t.get? m = none ∨ t.get? m = some .directory

instance (t : FileTree) (l : Location) : Decidable (t.Clear l) :=
  decidable_of_iff (∀ m ∈ l.tails, t.get? m = none ∨ t.get? m = some .directory) <| by
    simp [Clear, List.mem_tails]

section Reach

variable {t t' : FileTree} {name : String} {l m : Location}

lemma Clear.of_cons (h : t.Clear (name :: l)) : t.Clear l :=
  fun m hm => h m (hm.trans (List.suffix_cons name l))

lemma reach?_cons (h : t.reach? l = some .directory) :
    t.reach? (name :: l) = t.get? (name :: l) := by
  rw [reach?, if_pos h]

lemma reach?_cons_of_ne (h : t.reach? l ≠ some .directory) : t.reach? (name :: l) = none := by
  rw [reach?, if_neg h]

/-- What is reached lies in a directory that is reached. -/
lemma directory_of_reach? {e : Entry} (h : t.reach? (name :: l) = some e) :
    t.reach? l = some .directory := by
  by_cases hl : t.reach? l = some .directory
  · exact hl
  · rw [reach?_cons_of_ne hl] at h
    contradiction

/-- What is reached stands there. -/
lemma get?_of_reach? {e : Entry} (h : t.reach? l = some e) : t.get? l = some e := by
  cases l with
  | nil => exact h
  | cons name l => rwa [reach?_cons (directory_of_reach? h)] at h

/-- A directory is reached if there are directories all the way. -/
lemma reach?_eq_directory_iff :
    t.reach? l = some .directory ↔ ∀ m, m <:+ l → t.get? m = some .directory := by
  induction l with
  | nil => simp [reach?]
  | cons name l ih =>
    constructor
    · intro h m hm
      have hl := directory_of_reach? h
      rcases List.suffix_cons_iff.1 hm with rfl | hm
      · rwa [reach?_cons hl] at h
      · exact ih.1 hl m hm
    · intro h
      have hl : t.reach? l = some .directory :=
        ih.2 fun m hm => h m (hm.trans (List.suffix_cons name l))
      rw [reach?_cons hl]
      exact h _ List.suffix_rfl

/-- What is reached depends only on what stands on the way. -/
lemma reach?_congr (h : ∀ m, m <:+ l → t'.get? m = t.get? m) : t'.reach? l = t.reach? l := by
  induction l with
  | nil => rfl
  | cons name l ih =>
    rw [reach?, reach?, ih fun m hm => h m (hm.trans (List.suffix_cons name l)),
      h _ List.suffix_rfl]

lemma not_cons_suffix (name : String) (l : Location) : ¬ (name :: l) <:+ l := by
  intro h
  have hlength := h.length_le
  rw [List.length_cons] at hlength
  omega

lemma Clear.of_reach? (h : t.reach? l = some .directory) : t.Clear l :=
  fun m hm => .inr (reach?_eq_directory_iff.1 h m hm)

lemma reach?_set_cons (t : FileTree) (name : String) (l : Location) (e : Entry) :
    (t.set (name :: l) e).reach? l = t.reach? l := by
  refine reach?_congr fun m hm => get?_set_of_ne _ ?_ _
  rintro rfl
  exact not_cons_suffix name l hm

/-- An entry that is put into a directory that is reached is reached itself. -/
lemma reach?_set_self (h : t.reach? l = some .directory) (e : Entry) :
    (t.set (name :: l) e).reach? (name :: l) = some e := by
  rw [reach?_cons (by rwa [reach?_set_cons]), get?_set_self _ (List.cons_ne_nil name l)]

end Reach

/-- Walking on plain names finds the directory, unless one is missing. -/
lemma walk_reverse {t : FileTree} {l : Location}
    (hl : ∀ n ∈ l, n ≠ "" ∧ n ≠ "." ∧ n ≠ "..") (h : t.Clear l) :
    t.walk l.reverse =
      if t.reach? l = some .directory then .ok l else .error .missing := by
  induction l with
  | nil => rfl
  | cons name l ih =>
    have hwalk := ih (fun n hn => hl n (List.mem_cons_of_mem name hn)) h.of_cons
    have hname := hl name List.mem_cons_self
    rw [walk] at hwalk ⊢
    rw [List.reverse_cons, List.foldlM_append, hwalk]
    by_cases hreach : t.reach? l = some .directory
    · rw [if_pos hreach, reach?_cons hreach]
      rcases h (name :: l) List.suffix_rfl with hnone | hdirectory
      · simp [enter, hname, hnone, bind, Except.bind]
      · simp [enter, hname, hdirectory, bind, Except.bind, pure, Except.pure]
    · rw [if_neg hreach, reach?_cons_of_ne hreach]
      rfl

/-! ## Operations at a place -/

/-- What reading a file gives, by what stands in its place. -/
def textOf : Option Entry → Except FileFault String
  | none => .error .missing
  | some .directory => .error .isDirectory
  | some (.text s) => .ok s
  | some (.binary _) => .error .notText

section Operations

variable {t : FileTree} {path name : String} {l : Location}

lemma locate_of_reach? (h : LeadsTo path name l) (hclear : t.Clear l)
    (hreach : t.reach? l = some .directory) :
    ∃ target : Target, target.name = name ∧ target.slash = false ∧ target.isDots = false ∧
      t.locate path = .ok (l, target) := by
  obtain ⟨target, hname, hslash, hdots, hlocate⟩ := h.target
  refine ⟨target, hname, hslash, hdots, ?_⟩
  rw [hlocate, walk_reverse h.plain hclear, if_pos hreach]
  rfl

lemma locate_of_missing (h : LeadsTo path name l) (hclear : t.Clear l)
    (hreach : t.reach? l ≠ some .directory) : t.locate path = .error .missing := by
  obtain ⟨target, -, -, -, hlocate⟩ := h.target
  rw [hlocate, walk_reverse h.plain hclear, if_neg hreach]
  rfl

lemma readText_eq (h : LeadsTo path name l) (hclear : t.Clear l) :
    t.readText path = textOf (t.reach? (name :: l)) := by
  by_cases hreach : t.reach? l = some .directory
  · obtain ⟨target, rfl, hslash, hdots, hlocate⟩ := locate_of_reach? h hclear hreach
    rw [reach?_cons hreach, readText, hlocate]
    simp only [bind, Except.bind, hdots, hslash, Bool.false_eq_true, if_false]
    rcases t.get? (target.name :: l) with _ | _ | _ | _ <;> rfl
  · rw [reach?_cons_of_ne hreach, readText, locate_of_missing h hclear hreach]
    rfl

lemma writeText_eq (h : LeadsTo path name l) (hclear : t.Clear l)
    (hreach : t.reach? l = some .directory) (hfile : t.get? (name :: l) ≠ some .directory)
    (s : String) : t.writeText path s = .ok (t.set (name :: l) (.text s)) := by
  obtain ⟨target, rfl, hslash, hdots, hlocate⟩ := locate_of_reach? h hclear hreach
  rw [writeText, hlocate]
  simp [bind, Except.bind, hdots, hslash, hfile]

lemma makeDirectory_of_missing (h : LeadsTo path name l) (hclear : t.Clear l)
    (hreach : t.reach? l ≠ some .directory) : t.makeDirectory path = .error .missing := by
  rw [makeDirectory, locate_of_missing h hclear hreach]
  rfl

lemma makeDirectory_of_none (h : LeadsTo path name l) (hclear : t.Clear l)
    (hreach : t.reach? l = some .directory) (hnone : t.get? (name :: l) = none) :
    t.makeDirectory path = .ok (t.set (name :: l) .directory) := by
  obtain ⟨target, rfl, -, hdots, hlocate⟩ := locate_of_reach? h hclear hreach
  rw [makeDirectory, hlocate]
  simp [bind, Except.bind, hdots, hnone]

lemma makeDirectory_of_directory (h : LeadsTo path name l) (hclear : t.Clear l)
    (hreach : t.reach? l = some .directory) (hdir : t.get? (name :: l) = some .directory) :
    t.makeDirectory path = .error .occupied ∧ t.isDirectory path = true := by
  obtain ⟨target, rfl, -, hdots, hlocate⟩ := locate_of_reach? h hclear hreach
  rw [makeDirectory, isDirectory, hlocate]
  simp [bind, Except.bind, hdots, hdir]

lemma makeDirectory_ne_missing (h : LeadsTo path name l) (hclear : t.Clear (name :: l))
    (hreach : t.reach? l = some .directory) : t.makeDirectory path ≠ .error .missing := by
  rcases hclear (name :: l) List.suffix_rfl with hnone | hdir
  · rw [makeDirectory_of_none h hclear.of_cons hreach hnone]
    simp
  · rw [(makeDirectory_of_directory h hclear.of_cons hreach hdir).1]
    simp

end Operations

/-! ## Making directories -/

/-- The tree `t'` is the tree `t` with the directories made that were missing up to a place. -/
structure Made (t t' : FileTree) (l : Location) : Prop where
  reached : t'.reach? l = some .directory
  kept : ∀ m, t'.get? m = t.get? m ∨ t.get? m = none ∧ m <:+ l

section Made

variable {t t' : FileTree} {name : String} {l : Location}

lemma Made.refl (h : t.reach? l = some .directory) : Made t t l :=
  ⟨h, fun _ => .inl rfl⟩

/-- What stands in the last directory is not made. -/
lemma Made.get?_cons (h : Made t t' l) (name : String) :
    t'.get? (name :: l) = t.get? (name :: l) :=
  (h.kept _).resolve_right fun hmade => not_cons_suffix name l hmade.2

lemma Made.cons_of_directory (h : Made t t' l) (hname : t.get? (name :: l) = some .directory) :
    Made t t' (name :: l) where
  reached := by rw [reach?_cons h.reached, h.get?_cons, hname]
  kept m := (h.kept m).imp_right fun hmade => ⟨hmade.1, hmade.2.trans (List.suffix_cons name l)⟩

lemma Made.cons_of_none (h : Made t t' l) (hname : t.get? (name :: l) = none) :
    Made t (t'.set (name :: l) .directory) (name :: l) where
  reached := reach?_set_self h.reached _
  kept m := by
    by_cases hm : m = name :: l
    · subst hm
      exact .inr ⟨hname, List.suffix_rfl⟩
    · rw [get?_set_of_ne _ hm]
      exact (h.kept m).imp_right fun hmade =>
        ⟨hmade.1, hmade.2.trans (List.suffix_cons name l)⟩

end Made

end FileTree

namespace FileAction

open FileTree

variable {t t' : FileTree} {path above name : String} {others : List String} {l : Location}

lemma makeBelow_of_ne (h : t.makeDirectory path ≠ .error .missing) :
    makeBelow path (above :: others) t = makeDirectory path t := by
  unfold makeBelow
  dsimp only
  split
  · next heq => exact absurd heq h
  · rfl

/-- If a directory is missing on the way, those above the last one are made first. -/
lemma makeBelow_of_missing (h : t.makeDirectory path = .error .missing) (habove : above ≠ "")
    (hothers : makeBelow above others t = (.ok (), t')) :
    makeBelow path (above :: others) t = makeDirectory path t' := by
  unfold makeBelow
  dsimp only
  rw [h]
  simp only [habove, ne_eq, not_false_eq_true, if_true]
  exact Task.bind_of_ok hothers _

/-- When the directories above it are made, a directory can be made, or is there. -/
lemma makeDirectory_made (h : LeadsTo path name l) (hclear : t.Clear (name :: l))
    (hmade : Made t t' l) :
    ∃ t'', makeDirectory path t' = (.ok (), t'') ∧ Made t t'' (name :: l) := by
  have hclear' : t'.Clear l := .of_reach? hmade.reached
  have hkept := hmade.get?_cons name
  rcases hclear (name :: l) List.suffix_rfl with hnone | hdir
  · refine ⟨_, ?_, hmade.cons_of_none hnone⟩
    rw [makeDirectory, makeDirectory_of_none h hclear' hmade.reached (hkept.trans hnone)]
  · obtain ⟨hop, hthere⟩ :=
      makeDirectory_of_directory h hclear' hmade.reached (hkept.trans hdir)
    refine ⟨t', ?_, hmade.cons_of_directory hdir⟩
    rw [makeDirectory, hop]
    simp [hthere]

/-- A directory is made with all that is missing above it. -/
lemma makeBelow_pathFrom {root : List Char} {ns : List (List Char)} (hroot : IsRoot root)
    (hns : ∀ n ∈ ns, PlainName n) (hne : pathFrom root ns ≠ "") (hclear : t.Clear (place ns)) :
    ∃ t', makeBelow (pathFrom root ns) (ancestors (pathFrom root ns)) t = (.ok (), t') ∧
      Made t t' (place ns) := by
  -- from the last name on, as the directories are tried from the innermost one on
  induction ns using List.reverseRecOn with
  | nil =>
    -- the path of no names is that of the root, which is always there
    obtain rfl : root = ['/'] := by
      rcases hroot with rfl | rfl
      · exact absurd rfl hne
      · rfl
    exact ⟨t, rfl, .refl rfl⟩
  | append_singleton ns n ih =>
    have hns' : ∀ m ∈ ns, PlainName m := fun m hm => hns m (List.mem_append_left _ hm)
    have hleads := leadsTo_pathFrom hroot hns
    rw [place_append_singleton] at hclear ⊢
    rw [ancestors_pathFrom hroot hns]
    by_cases hreach : t.reach? (place ns) = some .directory
    · rw [makeBelow_of_ne (makeDirectory_ne_missing hleads hclear hreach)]
      exact makeDirectory_made hleads hclear (.refl hreach)
    · -- a directory is missing on the way, so there is one, and its path is not empty
      have hne' : pathFrom root ns ≠ "" := by
        refine pathFrom_ne_empty hroot hns' ?_
        rintro rfl
        exact hreach rfl
      obtain ⟨t', hbelow, hmade⟩ := ih hns' hne' hclear.of_cons
      have hmissing := makeDirectory_of_missing hleads hclear.of_cons hreach
      rw [makeBelow_of_missing hmissing hne' hbelow]
      exact makeDirectory_made hleads hclear hmade

/-- The directory above a plain path is made with all that is missing above it. -/
theorem makeDirectories_parent (hpath : PlainPath path)
    (hclear : t.Clear (locationOf path).tail) :
    ∃ directory t', parent? path = some directory ∧
      makeDirectories directory t = (.ok (), t') ∧ Made t t' (locationOf path).tail := by
  obtain ⟨ns, n, hnames, hns, hlocation, -⟩ := hpath.leadsTo
  have hns' : ∀ m ∈ ns, PlainName m := fun m hm => hns m (List.mem_append_left _ hm)
  have hroot := isRoot_rootOf path
  rw [hlocation, List.tail_cons] at hclear ⊢
  have hparent : parent? path = some (pathFrom (rootOf path) ns) := by
    rw [parent?, ancestors_append hns hnames, List.head?_cons]
  by_cases hempty : pathFrom (rootOf path) ns = ""
  · obtain rfl : ns = [] := by
      by_contra hne
      exact pathFrom_ne_empty hroot hns' hne hempty
    exact ⟨_, t, hparent, by rw [makeDirectories, if_pos hempty]; rfl, .refl rfl⟩
  · obtain ⟨t', hbelow, hmade⟩ := makeBelow_pathFrom hroot hns' hempty hclear
    exact ⟨_, t', hparent, by rw [makeDirectories, if_neg hempty, hbelow], hmade⟩

end FileAction

end ProxyProfiles
