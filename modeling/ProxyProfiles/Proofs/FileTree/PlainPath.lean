import ProxyProfiles.FileTree.Basic
import Mathlib.Data.List.DropRight
import Mathlib.Tactic.Lemma
/-!
# Plain paths

A path is plain if each of its names stands for itself: none of them is `.` or `..`, none holds the
character zero, and no slash follows the last one. Slashes may be repeated, and they may stand in
front.

* A plain path leads to the place of its names (`PlainPath.leadsTo`).
* The nearest path above it is written with single slashes and lacks the last name (`pathFrom`);
  the others are those that lie above this one (`ancestors_append`).
-/

namespace ProxyProfiles.FileTree

open Text

/-- A name that stands for itself. -/
structure PlainName (n : List Char) : Prop where
  ne_nil : n ≠ []
  ne_dot : n ≠ ['.']
  ne_dots : n ≠ ['.', '.']
  zero : '\x00' ∉ n
  slash : '/' ∉ n

/-- A path whose names stand for themselves. -/
structure PlainPath (path : String) : Prop where
  ne_empty : path ≠ ""
  zero : '\x00' ∉ path.toList
  slash : path.toList.getLast? ≠ some '/'
  dots : ∀ n ∈ pieces '/' path.toList, n ≠ ['.'] ∧ n ≠ ['.', '.']

instance (path : String) : Decidable (PlainPath path) :=
  decidable_of_iff (path ≠ "" ∧ '\x00' ∉ path.toList ∧ path.toList.getLast? ≠ some '/' ∧
    ∀ n ∈ pieces '/' path.toList, n ≠ ['.'] ∧ n ≠ ['.', '.'])
    ⟨fun ⟨hne, hzero, hslash, hdots⟩ => ⟨hne, hzero, hslash, hdots⟩,
      fun ⟨hne, hzero, hslash, hdots⟩ => ⟨hne, hzero, hslash, hdots⟩⟩

/-- The place that names lead to, the outermost first. -/
def place (ns : List (List Char)) : Location := (ns.map String.ofList).reverse

@[simp] lemma place_append_singleton (ns : List (List Char)) (n : List Char) :
    place (ns ++ [n]) = String.ofList n :: place ns := by
  simp [place]

/-- A path leads through directories with plain names to a name in the last one. -/
structure LeadsTo (path name : String) (l : Location) : Prop where
  plain : ∀ n ∈ l, n ≠ "" ∧ n ≠ "." ∧ n ≠ ".."
  target : ∃ target : Target, target.name = name ∧ target.slash = false ∧ target.isDots = false ∧
    ∀ t : FileTree, t.locate path = (t.walk l.reverse).map (·, target)

/-! ## Names -/

section Names

variable {path : String} {ns ps : List (List Char)} {n : List Char}

lemma exists_pieces_eq (s : List Char) : ∃ ps n, pieces '/' s = ps ++ [n] :=
  ⟨_, _, (List.dropLast_append_getLast (pieces_ne_nil '/' s)).symm⟩

/-- The names of a path for an operation are those in front of the slashes at its end. -/
lemma ofPath_eq (hps : pieces '/' (path.toList.rdropWhile (· == '/')) = ps ++ [n]) :
    Target.ofPath path = ⟨ps.map String.ofList, String.ofList n,
      (path.toList.rdropWhile (· == '/')).length < path.toList.length⟩ := by
  rw [List.rdropWhile] at hps ⊢
  simp [Target.ofPath, hps, Target.ofReversed]

lemma ofPath_eq_of_getLast? (hlast : path.toList.getLast? ≠ some '/')
    (hps : pieces '/' path.toList = ps ++ [n]) :
    Target.ofPath path = ⟨ps.map String.ofList, String.ofList n, false⟩ := by
  have hself : path.toList.rdropWhile (· == '/') = path.toList := by
    rcases List.eq_nil_or_concat path.toList with hnil | ⟨s, c, hs⟩
    · rw [hnil, List.rdropWhile_nil]
    · rw [hs, List.concat_eq_append] at hlast ⊢
      exact List.rdropWhile_concat_neg _ _ _ (by simpa using hlast)
  rw [ofPath_eq (by rwa [hself]), hself]
  simp

lemma PlainPath.plainName (h : PlainPath path) (hn : n ∈ pieces '/' path.toList) (hne : n ≠ []) :
    PlainName n where
  ne_nil := hne
  ne_dot := (h.dots n hn).1
  ne_dots := (h.dots n hn).2
  zero hzero := h.zero (mem_and_ne_of_mem_pieces hn hzero).1
  slash hslash := (mem_and_ne_of_mem_pieces hn hslash).2 rfl

/-- The last name of a plain path is not empty. -/
lemma PlainPath.pieces_eq (h : PlainPath path) :
    ∃ ps n, pieces '/' path.toList = ps ++ [n] ∧ n ≠ [] := by
  obtain ⟨ps, n, hps⟩ := exists_pieces_eq path.toList
  refine ⟨ps, n, hps, ?_⟩
  -- with an empty last name the path would be empty or end in a slash
  rintro rfl
  have hjoin := join_pieces '/' path.toList
  rw [hps] at hjoin
  by_cases hnil : ps = []
  · subst hnil
    exact h.ne_empty (String.toList_eq_nil_iff.1 hjoin.symm)
  · rw [join_append_singleton _ hnil, List.append_nil] at hjoin
    exact h.slash (by rw [← hjoin]; simp)

/-- All names count but the empty ones, if none is `.`. -/
lemma namesThatCount_eq (h : ∀ n ∈ pieces '/' path.toList, n ≠ ['.']) :
    namesThatCount path = (pieces '/' path.toList).filter (· ≠ []) := by
  rw [namesThatCount]
  cases hps : pieces '/' path.toList with
  | nil => rfl
  | cons first others =>
    rw [hps] at h
    have hothers : others.filter (fun n => decide (n ≠ [] ∧ n ≠ ['.'])) =
        others.filter (· ≠ []) := by
      refine List.filter_congr fun n hn => ?_
      simp [h n (List.mem_cons_of_mem first hn)]
    dsimp only
    rw [hothers, List.filter_cons]
    by_cases hfirst : first = [] <;> simp [hfirst]

lemma PlainName.ofList_ne (h : PlainName n) :
    String.ofList n ≠ "" ∧ String.ofList n ≠ "." ∧ String.ofList n ≠ ".." := by
  refine ⟨fun heq => h.ne_nil ?_, fun heq => h.ne_dot ?_, fun heq => h.ne_dots ?_⟩ <;>
    simpa using congrArg String.toList heq

/-- Empty names are passed over on the way. -/
lemma foldlM_enter_filter (t : FileTree) (ps : List (List Char)) (l : Location) :
    (ps.map String.ofList).foldlM t.enter l =
      ((ps.filter (· ≠ [])).map String.ofList).foldlM t.enter l := by
  induction ps generalizing l with
  | nil => rfl
  | cons p ps ih =>
    by_cases hp : p = []
    · subst hp
      rw [List.filter_cons_of_neg (by simp), List.map_cons, List.foldlM_cons, ← ih l]
      rfl
    · rw [List.filter_cons_of_pos (by simpa using hp), List.map_cons, List.map_cons,
        List.foldlM_cons, List.foldlM_cons]
      simp only [ih]

lemma foldl_stepTo (hns : ∀ n ∈ ns, PlainName n) (l : Location) :
    ns.foldl stepTo l = place ns ++ l := by
  induction ns generalizing l with
  | nil => rfl
  | cons n ns ih =>
    have hn : PlainName n := hns n List.mem_cons_self
    rw [List.foldl_cons, ih fun m hm => hns m (List.mem_cons_of_mem n hm)]
    simp [stepTo, hn.ne_dot, hn.ne_dots, place]

/-- A plain path leads to the place of its names. -/
theorem PlainPath.leadsTo (h : PlainPath path) :
    ∃ ns n, namesThatCount path = ns ++ [n] ∧ (∀ m ∈ ns ++ [n], PlainName m) ∧
      locationOf path = String.ofList n :: place ns ∧
      LeadsTo path (String.ofList n) (place ns) := by
  obtain ⟨ps, n, hps, hn⟩ := h.pieces_eq
  have hnames : namesThatCount path = ps.filter (· ≠ []) ++ [n] := by
    simp [namesThatCount_eq fun m hm => (h.dots m hm).1, hps, List.filter_append, hn]
  have hplain : ∀ m ∈ ps.filter (· ≠ []) ++ [n], PlainName m := by
    intro m hm
    rw [← hnames, namesThatCount_eq fun m hm => (h.dots m hm).1, List.mem_filter] at hm
    exact h.plainName hm.1 (by simpa using hm.2)
  have hlast : PlainName n := hplain n (by simp)
  refine ⟨_, n, hnames, hplain, ?_, ⟨?_,
    ⟨⟨ps.map String.ofList, String.ofList n, false⟩, rfl, rfl, ?_, fun t => ?_⟩⟩⟩
  · rw [locationOf, hnames, foldl_stepTo hplain, place_append_singleton, List.append_nil]
  · intro name hname
    obtain ⟨m, hm, rfl⟩ := List.mem_map.1 (List.mem_reverse.1 hname)
    exact (hplain m (List.mem_append_left _ hm)).ofList_ne
  · simp [Target.isDots, hlast.ofList_ne]
  · have hwalk := foldlM_enter_filter t ps []
    rw [locate, if_neg (by simpa using h.zero), if_neg h.ne_empty, ofPath_eq_of_getLast? h.slash hps]
    simp only [walk, hwalk, place, List.reverse_reverse]

end Names

/-! ## The paths above -/

/-- The path of names behind a root, which is empty or a slash. -/
def pathFrom (root : List Char) (ns : List (List Char)) : String :=
  String.ofList (root ++ join ['/'] ns)

section Above

variable {root : List Char} {ns : List (List Char)} {n : List Char}

/-- What may stand in front of the names of a path. -/
def IsRoot (root : List Char) : Prop := root = [] ∨ root = ['/']

lemma filter_pieces_pathFrom (hroot : IsRoot root) (hns : ∀ n ∈ ns, n ≠ [] ∧ '/' ∉ n) :
    (pieces '/' (pathFrom root ns).toList).filter (· ≠ []) = ns := by
  have hjoin : (pieces '/' (join ['/'] ns)).filter (· ≠ []) = ns := by
    by_cases hnil : ns = []
    · subst hnil
      rfl
    · rw [pieces_join hnil fun n hn => (hns n hn).2]
      exact List.filter_eq_self.2 fun n hn => by simpa using (hns n hn).1
  rcases hroot with rfl | rfl
  · simpa [pathFrom] using hjoin
  · simpa [pathFrom, pieces_cons_self] using hjoin

lemma pieces_pathFrom (hroot : IsRoot root) (hns : ∀ n ∈ ns, PlainName n) :
    (pieces '/' (pathFrom root ns).toList).filter (· ≠ []) = ns :=
  filter_pieces_pathFrom hroot fun n hn => ⟨(hns n hn).ne_nil, (hns n hn).slash⟩

lemma mem_pieces_pathFrom (hroot : IsRoot root) (hns : ∀ n ∈ ns, PlainName n)
    (hn : n ∈ pieces '/' (pathFrom root ns).toList) : n = [] ∨ n ∈ ns := by
  by_cases hnil : n = []
  · exact .inl hnil
  · right
    rw [← pieces_pathFrom hroot hns, List.mem_filter]
    exact ⟨hn, by simpa using hnil⟩

lemma namesThatCount_pathFrom (hroot : IsRoot root) (hns : ∀ n ∈ ns, PlainName n) :
    namesThatCount (pathFrom root ns) = ns := by
  rw [namesThatCount_eq, pieces_pathFrom hroot hns]
  intro n hn
  rcases mem_pieces_pathFrom hroot hns hn with rfl | hn
  · simp
  · exact (hns n hn).ne_dot

/-- A joined text ends with its last part. -/
lemma exists_join_append (ns : List (List Char)) (n : List Char) :
    ∃ s, join ['/'] (ns ++ [n]) = s ++ n := by
  by_cases hnil : ns = []
  · subst hnil
    exact ⟨[], rfl⟩
  · exact ⟨_, join_append_singleton _ hnil n⟩

/-- A path of plain names is plain. -/
lemma plainPath_pathFrom (hroot : IsRoot root) (hns : ∀ m ∈ ns ++ [n], PlainName m) :
    PlainPath (pathFrom root (ns ++ [n])) where
  ne_empty hempty := by
    have hnames := pieces_pathFrom hroot hns
    simp [hempty] at hnames
  zero hzero := by
    rw [pathFrom, String.toList_ofList, List.mem_append] at hzero
    rcases hzero with hzero | hzero
    · rcases hroot with rfl | rfl <;> simp at hzero
    · rcases mem_join hzero with hzero | ⟨m, hm, hzero⟩
      · simp at hzero
      · exact (hns m hm).zero hzero
  slash hslash := by
    have hn : PlainName n := hns n (by simp)
    obtain ⟨m, c, rfl⟩ := (List.eq_nil_or_concat n).resolve_left hn.ne_nil
    rw [List.concat_eq_append] at hn hslash
    obtain ⟨s, hs⟩ := exists_join_append ns (m ++ [c])
    obtain rfl : c = '/' := by simpa [pathFrom, hs] using hslash
    exact hn.slash (by simp)
  dots m hm := by
    rcases mem_pieces_pathFrom hroot hns hm with rfl | hm
    · simp
    · exact ⟨(hns m hm).ne_dot, (hns m hm).ne_dots⟩

lemma leadsTo_pathFrom (hroot : IsRoot root) (hns : ∀ m ∈ ns ++ [n], PlainName m) :
    LeadsTo (pathFrom root (ns ++ [n])) (String.ofList n) (place ns) := by
  obtain ⟨ns', n', hnames, -, -, hleads⟩ := (plainPath_pathFrom hroot hns).leadsTo
  rw [namesThatCount_pathFrom hroot hns] at hnames
  obtain ⟨rfl, hlast⟩ := List.append_inj' hnames rfl
  obtain rfl : n = n' := by simpa using hlast
  exact hleads

lemma pathFrom_ne_empty (hroot : IsRoot root) (hns : ∀ n ∈ ns, PlainName n) (hne : ns ≠ []) :
    pathFrom root ns ≠ "" := by
  intro hempty
  apply hne
  rw [← namesThatCount_pathFrom hroot hns, hempty]
  rfl

/-- The root of a path. -/
def rootOf (path : String) : List Char := if path.toList.head? = some '/' then ['/'] else []

lemma isRoot_rootOf (path : String) : IsRoot (rootOf path) := by
  rw [rootOf]
  split
  · exact .inr rfl
  · exact .inl rfl

lemma rootOf_pathFrom (hroot : IsRoot root) (hns : ∀ n ∈ ns, PlainName n) :
    rootOf (pathFrom root ns) = root := by
  rcases hroot with rfl | rfl
  · -- the path begins with its first name, which holds no slash
    have hhead : (join ['/'] ns).head? ≠ some '/' := by
      rcases ns with _ | ⟨n, ns⟩
      · simp [join]
      · have hn : PlainName n := hns n List.mem_cons_self
        obtain ⟨c, s, rfl⟩ := List.exists_cons_of_ne_nil hn.ne_nil
        have hc : c ≠ '/' := fun hc => hn.slash (by simp [hc])
        cases ns <;> simpa [join] using hc
    simp [rootOf, pathFrom, hhead]
  · simp [rootOf, pathFrom]

lemma ancestors_eq (path : String) :
    ancestors path = (List.range (namesThatCount path).length).reverse.map fun k =>
      pathFrom (rootOf path) ((namesThatCount path).take k) := rfl

/-- Above a path of plain names lies the one with the last name left out, and what lies above
that. -/
lemma ancestors_append (hns : ∀ m ∈ ns ++ [n], PlainName m) {path : String}
    (hpath : namesThatCount path = ns ++ [n]) :
    ancestors path = pathFrom (rootOf path) ns :: ancestors (pathFrom (rootOf path) ns) := by
  have hns' : ∀ m ∈ ns, PlainName m := fun m hm => hns m (List.mem_append_left _ hm)
  have hroot := isRoot_rootOf path
  rw [ancestors_eq, ancestors_eq, namesThatCount_pathFrom hroot hns', rootOf_pathFrom hroot hns',
    hpath, List.length_append, List.length_singleton, List.range_succ, List.reverse_append,
    List.reverse_singleton, List.singleton_append, List.map_cons, List.take_left]
  congr 1
  refine List.map_congr_left fun k hk => ?_
  have hk' : k ≤ ns.length := by
    simp only [List.mem_reverse, List.mem_range] at hk
    omega
  rw [List.take_append_of_le_length hk']

lemma ancestors_pathFrom (hroot : IsRoot root) (hns : ∀ m ∈ ns ++ [n], PlainName m) :
    ancestors (pathFrom root (ns ++ [n])) = pathFrom root ns :: ancestors (pathFrom root ns) := by
  rw [ancestors_append hns (namesThatCount_pathFrom hroot hns), rootOf_pathFrom hroot hns]

end Above

end ProxyProfiles.FileTree
