import ProxyProfiles.Proofs.FileTree.Directories
import ProxyProfiles.Proofs.FileTree.Retention
/-!
# Files in a directory

The path of a file in a directory is that of the directory with a name behind it. An operation on
the file goes to the directory first (`FileTree.goTo`) and fails as this fails. What it does then
depends on what stands under the name alone, whatever the path of the directory is like (`LeadsInto`
and the equations for the operations).

* A file that is removed or written is not on the way, so files in the directory stay where they are
  (`goTo_withoutFile`, `goTo_set`).
* When a directory has been made, it can be gone to (`FileAction.exists_goTo_of_makeDirectories`).
* The directories that are made for it lie above it, unless its path goes up
  (`suffix_of_onWay`).
-/

namespace ProxyProfiles

open Text

namespace FileTree

/-! ## Going to a directory -/

/-- Goes to a directory. The empty path is the working directory. -/
def goTo (t : FileTree) (directory : String) : Except FileFault Location :=
  if directory.toList.contains '\x00' then .error .zeroInPath
  else t.walk ((pieces '/' directory.toList).map String.ofList)

section GoTo

variable {t t' : FileTree} {directory : String} {l m : Location}

lemma goTo_of_retains (h : Retains m t t') (hgo : t.goTo directory = .ok l) :
    t'.goTo directory = .ok l := by
  rw [goTo] at hgo ⊢
  split
  · next hzero =>
    rw [if_pos hzero] at hgo
    contradiction
  · next hzero =>
    rw [if_neg hzero] at hgo
    exact walk_of_retains h hgo

/-- Nothing but directories is on the way to a directory. -/
lemma goTo_of_ne (hgo : t.goTo directory = .ok l) (hm : t.get? m ≠ some .directory)
    (h : ∀ k, k ≠ m → t'.get? k = t.get? k) : t'.goTo directory = .ok l := by
  have hne : [] ≠ m := by
    rintro rfl
    exact hm (get?_nil t)
  exact goTo_of_retains (.of_ne hm hne h) hgo

/-- Empty names are passed over on the way. -/
lemma walk_congr {ps qs : List (List Char)} (h : ps.filter (· ≠ []) = qs.filter (· ≠ [])) :
    t.walk (ps.map String.ofList) = t.walk (qs.map String.ofList) := by
  rw [walk, walk, foldlM_enter_filter, h, ← foldlM_enter_filter]

/-- A path leads to a directory if its last name does. -/
lemma exists_goTo_of_locate {target : Target} (hlocate : t.locate directory = .ok (l, target))
    (hname : target.isDots = true ∨ t.get? (target.name :: l) = some .directory) :
    ∃ m, t.goTo directory = .ok m := by
  obtain ⟨hzero, ns, n, hps, hwalk, htarget⟩ := of_locate hlocate
  have hgo : t.goTo directory = t.enter l (String.ofList n) := by
    rw [goTo, if_neg hzero, ← walk_congr (filter_pieces_rdropWhile directory.toList), hps,
      List.map_append, walk, List.foldlM_append, ← walk, hwalk]
    exact bind_pure (t.enter l (String.ofList n))
  simp only [Target.isDots, htarget, Bool.or_eq_true, beq_iff_eq] at hname
  rw [hgo, enter]
  split
  · exact ⟨_, rfl⟩
  · next hstay =>
    split
    · exact ⟨_, rfl⟩
    · next hup =>
      have hdirectory := hname.resolve_left (by simp_all)
      rw [hdirectory]
      exact ⟨_, rfl⟩

lemma exists_goTo_of_isDirectory (h : t.isDirectory directory = true) :
    ∃ m, t.goTo directory = .ok m := by
  rw [isDirectory] at h
  split at h
  · contradiction
  · next l target hlocate => exact exists_goTo_of_locate hlocate (by simpa using h)

end GoTo

/-! ## A name in a directory -/

/-- A path leads to a name in a directory. -/
structure LeadsInto (path directory name : String) : Prop where
  location : locationOf path = name :: locationOf directory
  target : ∃ target : Target, target.name = name ∧ target.slash = false ∧ target.isDots = false ∧
    ∀ t : FileTree, t.locate path =
      (t.goTo directory).map fun _ => (locationOf directory, target)

section Name

variable {directory name : String}

lemma exists_toList_inDirectory (directory name : String) :
    ∃ s, (inDirectory directory name).toList = s ++ name.toList ∧
      ('\x00' ∈ s ↔ '\x00' ∈ directory.toList) := by
  rw [inDirectory]
  split
  · next h => exact ⟨[], by simp, by simp [h]⟩
  · split
    · exact ⟨directory.toList, by simp, Iff.rfl⟩
    · exact ⟨directory.toList ++ ['/'], by simp, by simp⟩

/-- The names of the path are those of the directory and the one behind it. -/
lemma exists_pieces_inDirectory (hname : '/' ∉ name.toList) (directory : String) :
    ∃ ps, pieces '/' (inDirectory directory name).toList = ps ++ [name.toList] ∧
      ps.filter (· ≠ []) = (pieces '/' directory.toList).filter (· ≠ []) := by
  rw [inDirectory]
  split
  · next h => exact ⟨[], by simp [pieces_of_not_mem hname], by simp [h]⟩
  · split
    · next hslash =>
      obtain ⟨s, hs⟩ : ∃ s, directory.toList = s ++ ['/'] := List.getLast?_eq_some_iff.1 hslash
      refine ⟨pieces '/' s, ?_, by simp [hs, pieces_append_sep, List.filter_append]⟩
      rw [String.toList_append, hs, List.append_assoc, List.singleton_append, pieces_append_sep,
        pieces_of_not_mem hname]
    · refine ⟨pieces '/' directory.toList, ?_, rfl⟩
      rw [String.toList_append, String.toList_append, List.append_assoc]
      exact (pieces_append_sep '/' directory.toList name.toList).trans
        (by rw [pieces_of_not_mem hname])

/-- No slash is at the end of the path. -/
lemma getLast?_inDirectory_ne (hname : PlainName name.toList) (directory : String) :
    (inDirectory directory name).toList.getLast? ≠ some '/' := by
  obtain ⟨s, hs, -⟩ := exists_toList_inDirectory directory name
  rw [hs, List.getLast?_append, List.getLast?_eq_some_getLast hname.ne_nil, Option.some_or]
  intro hlast
  exact hname.slash (Option.some.inj hlast ▸ List.getLast_mem hname.ne_nil)

lemma leadsInto_inDirectory (hname : PlainName name.toList) (directory : String) :
    LeadsInto (inDirectory directory name) directory name := by
  obtain ⟨s, hs, hzero⟩ := exists_toList_inDirectory directory name
  obtain ⟨ps, hps, hfilter⟩ := exists_pieces_inDirectory hname.slash directory
  have hofList : String.ofList name.toList = name := String.ofList_toList
  have hplain := hname.ofList_ne
  rw [hofList] at hplain
  constructor
  case location =>
    have hplace : ps.foldl advance [] = locationOf directory := by
      rw [locationOf_eq_foldl, ← foldl_advance_filter, hfilter, foldl_advance_filter]
    rw [locationOf_eq_foldl, hps, List.foldl_append, hplace]
    simp [advance, stepTo, hname.ne_nil, hname.ne_dot, hname.ne_dots, hofList]
  case target =>
    refine ⟨⟨ps.map String.ofList, name, false⟩, rfl, rfl, by simp [Target.isDots, hplain],
      fun t => ?_⟩
    have hempty : inDirectory directory name ≠ "" := by
      intro h
      rw [h] at hs
      simp_all
    have hzero' : (inDirectory directory name).toList.contains '\x00' =
        directory.toList.contains '\x00' := by
      rw [Bool.eq_iff_iff]
      simp [hs, hzero, hname.zero]
    rw [locate, goTo, hzero', if_neg hempty,
      ofPath_eq_of_getLast? (getLast?_inDirectory_ne hname directory) hps, hofList]
    dsimp only
    rw [walk_congr hfilter]
    split
    · rfl
    · rcases hgo : t.walk ((pieces '/' directory.toList).map String.ofList) with e | l
      · rfl
      · rw [locationOf_eq_foldl, ← eq_foldl_of_walk hgo]
        rfl

end Name

/-! ## Operations -/

/-- The tree without a file at a place, if there is one. -/
def withoutFile (t : FileTree) (l : Location) : FileTree :=
  if t.get? l = none then t else t.erase l

section Operations

variable {t : FileTree} {path directory name : String} {l m : Location} {e : FileFault}

lemma get?_withoutFile_of_ne (t : FileTree) (h : m ≠ l) : (t.withoutFile l).get? m = t.get? m := by
  rw [withoutFile]
  split
  · rfl
  · exact get?_erase_of_ne t h

lemma get?_withoutFile_self (h : t.get? l ≠ some .directory) : (t.withoutFile l).get? l = none := by
  rw [withoutFile]
  split
  · next hnone => exact hnone
  · refine get?_erase_self t ?_
    rintro rfl
    exact h (get?_nil t)

lemma withoutFile_of_none (h : t.get? l = none) : t.withoutFile l = t := if_pos h

lemma readText_eq_bind (h : LeadsInto path directory name) (t : FileTree) :
    t.readText path = (t.goTo directory).bind fun _ => textOf (t.get? (locationOf path)) := by
  obtain ⟨target, rfl, hslash, hdots, hlocate⟩ := h.target
  rw [readText, hlocate, h.location]
  rcases t.goTo directory with e | l
  · rfl
  · rcases hentry : t.get? (target.name :: locationOf directory) with _ | _ | _ | _ <;>
      simp [Except.map, bind, Except.bind, hdots, hslash, hentry, textOf]

lemma writeText_eq_bind (h : LeadsInto path directory name) (t : FileTree) (s : String) :
    t.writeText path s = (t.goTo directory).bind fun _ =>
      if t.get? (locationOf path) = some .directory then .error .isDirectory
      else .ok (t.set (locationOf path) (.text s)) := by
  obtain ⟨target, rfl, hslash, hdots, hlocate⟩ := h.target
  rw [writeText, hlocate, h.location]
  rcases t.goTo directory with e | l
  · rfl
  · simp only [Except.map, bind, Except.bind, hdots, hslash, Bool.false_eq_true, or_self, if_false]

lemma removeFile_eq_bind (h : LeadsInto path directory name) (t : FileTree) :
    t.removeFile path = (t.goTo directory).bind fun _ =>
      match t.get? (locationOf path) with
      | none => .error .missing
      | some .directory => .error .isDirectory
      | some _ => .ok (t.erase (locationOf path)) := by
  obtain ⟨target, rfl, hslash, hdots, hlocate⟩ := h.target
  rw [removeFile, hlocate, h.location]
  rcases t.goTo directory with e | l
  · rfl
  · rcases hentry : t.get? (target.name :: locationOf directory) with _ | _ | _ | _ <;>
      simp [Except.map, bind, Except.bind, hdots, hslash, hentry]

lemma removeIfPresent_of_goTo_error (h : LeadsInto path directory name)
    (hgo : t.goTo directory = .error e) :
    FileAction.removeIfPresent path t = (if e = .missing then .ok () else .error e, t) := by
  rw [FileAction.removeIfPresent, removeFile_eq_bind h, hgo]
  cases e <;> rfl

lemma removeIfPresent_of_goTo (h : LeadsInto path directory name) (hgo : t.goTo directory = .ok l) :
    FileAction.removeIfPresent path t =
      if t.get? (locationOf path) = some .directory then (.error .isDirectory, t)
      else (.ok (), t.withoutFile (locationOf path)) := by
  rw [FileAction.removeIfPresent, removeFile_eq_bind h, hgo, withoutFile]
  rcases t.get? (locationOf path) with _ | _ | _ | _ <;> rfl

lemma goTo_withoutFile (hgo : t.goTo directory = .ok l) (hm : t.get? m ≠ some .directory) :
    (t.withoutFile m).goTo directory = .ok l :=
  goTo_of_ne hgo hm fun _ hk => get?_withoutFile_of_ne t hk

lemma goTo_set (hgo : t.goTo directory = .ok l) (hm : t.get? m ≠ some .directory) (s : String) :
    (t.set m (.text s)).goTo directory = .ok l :=
  goTo_of_ne hgo hm fun _ hk => get?_set_of_ne t hk _

end Operations

/-! ## The way to a directory -/

/-- The places of a directory and of what lies above it by its path. -/
def OnWay (directory : String) : Location → Prop :=
  FileAction.PlaceOfAny (directory :: ancestors directory)

section Way

variable {directory : String} {root : List Char} {ns : List (List Char)} {l m : Location}

lemma locationOf_pathFrom (hroot : IsRoot root) (hns : ∀ n ∈ ns, n ≠ [] ∧ '/' ∉ n) :
    locationOf (pathFrom root ns) = ns.foldl stepTo [] := by
  rw [locationOf_eq_foldl, ← foldl_advance_filter, filter_pieces_pathFrom hroot hns]
  refine List.foldl_ext _ _ _ fun l n hn => ?_
  rw [advance, if_neg (hns n hn).1]

lemma mem_pieces_of_mem_namesThatCount {n : List Char} (h : n ∈ namesThatCount directory) :
    n ∈ pieces '/' directory.toList ∧ n ≠ [] := by
  rw [namesThatCount] at h
  split at h
  · contradiction
  · next first others hps =>
    rw [hps]
    rcases List.mem_append.1 h with hfirst | hothers
    · split at hfirst
      · contradiction
      · next hne =>
        obtain rfl := List.mem_singleton.1 hfirst
        exact ⟨List.mem_cons_self, hne⟩
    · rw [List.mem_filter, decide_eq_true_eq] at hothers
      exact ⟨List.mem_cons_of_mem first hothers.1, hothers.2.1⟩

/-- Without names that go up, more names lead further down. -/
lemma suffix_foldl_stepTo (hns : ∀ n ∈ ns, n ≠ ['.', '.']) (l : Location) :
    l <:+ ns.foldl stepTo l := by
  induction ns generalizing l with
  | nil => exact List.suffix_rfl
  | cons n ns ih =>
    have hstep : l <:+ stepTo l n := by
      rw [stepTo, if_neg (hns n List.mem_cons_self)]
      split
      · exact List.suffix_rfl
      · exact List.suffix_cons _ l
    exact hstep.trans (ih (fun n hn => hns n (List.mem_cons_of_mem _ hn)) _)

/-- If the path of a directory does not go up, then only directories that it lies in are on the way.
-/
lemma suffix_of_onWay (hdots : ∀ n ∈ pieces '/' directory.toList, n ≠ ['.', '.'])
    (h : OnWay directory m) : m <:+ locationOf directory := by
  have hnames : ∀ n ∈ namesThatCount directory, (n ≠ [] ∧ '/' ∉ n) ∧ n ≠ ['.', '.'] := by
    intro n hn
    obtain ⟨hpiece, hne⟩ := mem_pieces_of_mem_namesThatCount hn
    exact ⟨⟨hne, fun hslash => (mem_and_ne_of_mem_pieces hpiece hslash).2 rfl⟩, hdots n hpiece⟩
  obtain ⟨p, hp, rfl⟩ := h
  rcases List.mem_cons.1 hp with rfl | hp
  · exact List.suffix_rfl
  · rw [ancestors_eq, List.mem_map] at hp
    obtain ⟨k, -, rfl⟩ := hp
    have hsplit : locationOf directory = ((namesThatCount directory).drop k).foldl stepTo
        (((namesThatCount directory).take k).foldl stepTo []) := by
      rw [← List.foldl_append, List.take_append_drop, locationOf]
    rw [locationOf_pathFrom (isRoot_rootOf directory)
      fun n hn => (hnames n (List.mem_of_mem_take hn)).1, hsplit]
    exact suffix_foldl_stepTo (fun n hn => (hnames n (List.mem_of_mem_drop hn)).2) _

end Way

end FileTree

/-! ## Making a directory -/

namespace FileAction

open FileTree

variable {t t' : FileTree} {path : String}

lemma exists_goTo_of_makeDirectory (h : makeDirectory path t = (.ok (), t')) :
    ∃ l, t'.goTo path = .ok l := by
  rw [makeDirectory] at h
  split at h
  · next t₁ hmade =>
    obtain rfl := (Prod.mk.inj h).2
    obtain ⟨l, target, hfinds, hnone, rfl⟩ := of_makeDirectory hmade
    have hretains := Retains.of_adds (Adds.set_directory hnone) []
    exact exists_goTo_of_locate (locate_of_retains hretains hfinds.locate)
      (.inr (get?_set_self t (List.cons_ne_nil _ _) _))
  · next e hfailed =>
    split at h
    · next hdirectory =>
      obtain rfl := (Prod.mk.inj h).2
      exact exists_goTo_of_isDirectory hdirectory
    · exact absurd (Prod.mk.inj h).1 (by simp)

/-- A directory that has been made is there. -/
lemma exists_goTo_of_makeDirectories (h : makeDirectories path t = (.ok (), t')) :
    ∃ l, t'.goTo path = .ok l := by
  rw [makeDirectories] at h
  split at h
  · next hempty =>
    subst hempty
    exact ⟨[], rfl⟩
  · -- the last step in making directories is always to make this one
    generalize ancestors path = above at h
    cases above with
    | nil => exact exists_goTo_of_makeDirectory h
    | cons directory others =>
      unfold makeBelow at h
      dsimp only at h
      split at h
      · split at h
        · obtain ⟨-, t₁, -, hlast⟩ := Task.bind_eq_ok.1 h
          exact exists_goTo_of_makeDirectory hlast
        · exact exists_goTo_of_makeDirectory h
      · exact exists_goTo_of_makeDirectory h

end FileAction

end ProxyProfiles
