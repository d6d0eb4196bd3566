import ProxyProfiles.FileTree.Path
/-!
# Trees of files

A tree says what stands at each place below a working directory: a file with a text, a file
with bytes that are no text, or a directory. The working directory itself always stands. A
place is given by the names that lead to it, the innermost first, so that the directory of
`n :: l` is `l`.

The working directory is taken to be the root of all files. A path with a slash in front starts
at the same place as the path without it, and `..` leads from there to the same place again; so
the names of a path alone say which place it means (`FileTree.locationOf`). For a program that runs
in the root this is exact; for one that runs below it, a path with a slash in front and one without
may be two places here and one file there, or the other way round.

Reading, writing, making a directory and removing a file are functions of the tree. They fail
with the reason that the first obstacle on the path gives.
-/

namespace ProxyProfiles

/-- Why an operation on files fails. -/
inductive FileFault where
  /-- Nothing stands there, or a directory on the way is missing. -/
  | missing
  /-- Something stands there already. -/
  | occupied
  /-- A file stands where a directory is wanted. -/
  | notDirectory
  /-- A directory stands where a file is wanted. -/
  | isDirectory
  /-- The path holds the character zero, which no name has. -/
  | zeroInPath
  /-- The file holds bytes that are no text. -/
  | notText
deriving DecidableEq, Repr

namespace FileFault

/-- What a fault says. -/
def message : FileFault → String
  | missing => "os error 2"
  | occupied => "os error 17"
  | notDirectory => "os error 20"
  | isDirectory => "os error 21"
  | zeroInPath => "file name contained an unexpected NUL byte"
  | notText => "stream did not contain valid UTF-8"

end FileFault

/-- The names that lead to a place below the working directory, the innermost first. -/
abbrev Location := List String

/-- What stands at a place. -/
inductive Entry where
  /-- A file that holds a text. -/
  | text (s : String)
  /-- A file that holds bytes which are no text. -/
  | binary (bytes : List UInt8)
  /-- A directory. -/
  | directory
deriving DecidableEq, Repr

/-- The files and directories below a working directory. -/
structure FileTree where
  /-- What stands where; the first entry for a place counts. -/
  entries : List (Location × Entry)
deriving DecidableEq, Repr

namespace FileTree

/-- The tree with nothing below the working directory. -/
def empty : FileTree := ⟨[]⟩

/-- What stands at a place. The working directory stands always. -/
def get? (t : FileTree) (l : Location) : Option Entry :=
  if l = [] then some .directory else t.entries.lookup l

/-- The tree without what stands at a place. -/
def erase (t : FileTree) (l : Location) : FileTree :=
  ⟨t.entries.filter fun e => e.1 ≠ l⟩

/-- The tree with an entry at a place instead of what stood there. -/
def set (t : FileTree) (l : Location) (e : Entry) : FileTree :=
  ⟨(l, e) :: (t.erase l).entries⟩

/-! ## Walking -/

/-- Goes from one directory to the one that a name means there. -/
def enter (t : FileTree) (l : Location) (name : String) : Except FileFault Location :=
  if name = "" ∨ name = "." then .ok l
  else if name = ".." then .ok l.tail
  else match t.get? (name :: l) with
    | none => .error .missing
    | some .directory => .ok (name :: l)
    | some _ => .error .notDirectory

/-- Goes through directories, beginning at the working directory, which is the root as well. -/
def walk (t : FileTree) (names : List String) : Except FileFault Location :=
  names.foldlM t.enter []

/-- Takes a path apart and goes to the directory of its last name. -/
def locate (t : FileTree) (path : String) : Except FileFault (Location × Target) :=
  if path.toList.contains '\x00' then .error .zeroInPath
  else if path = "" then .error .missing
  else
    let target := Target.ofPath path
    (t.walk target.directories).map (·, target)

/-! ## Operations -/

/-- Whether a path leads to a directory. -/
def isDirectory (t : FileTree) (path : String) : Bool :=
  match t.locate path with
  | .error _ => false
  | .ok (l, target) => target.isDots || t.get? (target.name :: l) == some .directory

/-- The text of a file. -/
def readText (t : FileTree) (path : String) : Except FileFault String := do
  let (l, target) ← t.locate path
  if target.isDots then .error .isDirectory
  else match t.get? (target.name :: l) with
    | none => .error .missing
    | some .directory => .error .isDirectory
    | some (.text s) => if target.slash then .error .notDirectory else .ok s
    | some (.binary _) => if target.slash then .error .notDirectory else .error .notText

/-- The tree with a text written to a file, which need not be there yet. -/
def writeText (t : FileTree) (path text : String) : Except FileFault FileTree := do
  let (l, target) ← t.locate path
  if target.isDots ∨ target.slash then .error .isDirectory
  else if t.get? (target.name :: l) = some .directory then .error .isDirectory
  else .ok (t.set (target.name :: l) (.text text))

/-- The tree with a new directory. -/
def makeDirectory (t : FileTree) (path : String) : Except FileFault FileTree := do
  let (l, target) ← t.locate path
  if target.isDots then .error .occupied
  else if (t.get? (target.name :: l)).isSome then .error .occupied
  else .ok (t.set (target.name :: l) .directory)

/-- The tree without a file. -/
def removeFile (t : FileTree) (path : String) : Except FileFault FileTree := do
  let (l, target) ← t.locate path
  if target.isDots then .error .isDirectory
  else match t.get? (target.name :: l) with
    | none => .error .missing
    | some .directory => .error .isDirectory
    | some _ => if target.slash then .error .notDirectory else .ok (t.erase (target.name :: l))

/-! ## Trees from lists -/

/-- The tree with an entry at a place, and with the directories that lead there. -/
def plant (t : FileTree) : Location → Entry → FileTree
  | [], _ => t
  | name :: l, e =>
    let t := t.plant l .directory
    if e = .directory ∧ t.get? (name :: l) = some .directory then t else t.set (name :: l) e

/-- The place that a name means, seen from a place. -/
def stepTo (l : Location) (name : List Char) : Location :=
  if name = ['.'] then l
  else if name = ['.', '.'] then l.tail
  else String.ofList name :: l

/-- The place that a path means, whatever stands on the way. A slash in front makes no
difference, the root being the working directory. -/
def locationOf (path : String) : Location :=
  (namesThatCount path).foldl stepTo []

/-- The tree without a place and all that lies below it. -/
def prune (t : FileTree) (l : Location) : FileTree :=
  ⟨t.entries.filter fun e => !l.isSuffixOf e.1⟩

/-- The path of a place. -/
def pathOf (l : Location) : String :=
  Text.joined "/" l.reverse

/-- The tree with the given paths. -/
def ofList (es : List (String × Entry)) : FileTree :=
  es.foldl (fun t e => t.plant (locationOf e.1) e.2) empty

/-- The paths of a tree and what stands there. -/
def toList (t : FileTree) : List (String × Entry) :=
  t.entries.map fun e => (pathOf e.1, e.2)

/-! ## What stands where after a change -/

@[simp] theorem get?_nil (t : FileTree) : t.get? [] = some .directory := rfl

@[simp] theorem get?_set_self (t : FileTree) {l : Location} (h : l ≠ []) (e : Entry) :
    (t.set l e).get? l = some e := by
  simp [get?, set, h]

theorem lookup_filter_ne (es : List (Location × Entry)) {l m : Location} (h : l ≠ m) :
    (es.filter fun e => e.1 ≠ m).lookup l = es.lookup l := by
  induction es with
  | nil => rfl
  | cons e es ih =>
    obtain ⟨k, x⟩ := e
    by_cases hk : k = m
    · subst hk
      rw [List.filter_cons_of_neg (by simp), ih, List.lookup_cons, beq_false_of_ne h]
    · rw [List.filter_cons_of_pos (by simpa using hk), List.lookup_cons, List.lookup_cons, ih]

@[simp] theorem get?_erase_of_ne (t : FileTree) {l m : Location} (h : l ≠ m) :
    (t.erase m).get? l = t.get? l := by
  by_cases hl : l = []
  · simp [get?, hl]
  · simp only [get?, hl, if_false, erase]
    exact lookup_filter_ne t.entries h

@[simp] theorem get?_set_of_ne (t : FileTree) {l m : Location} (h : l ≠ m) (e : Entry) :
    (t.set m e).get? l = t.get? l := by
  by_cases hl : l = []
  · simp [get?, hl]
  · simp only [get?, hl, if_false, set, erase]
    rw [List.lookup_cons, beq_false_of_ne h]
    exact lookup_filter_ne t.entries h

@[simp] theorem get?_erase_self (t : FileTree) {l : Location} (h : l ≠ []) :
    (t.erase l).get? l = none := by
  simp only [get?, h, if_false, erase]
  rw [List.lookup_eq_none_iff]
  intro p hp
  simp only [List.mem_filter, ne_eq, decide_not, Bool.not_eq_true', decide_eq_false_iff_not] at hp
  simpa using Ne.symm hp.2

end FileTree

end ProxyProfiles
