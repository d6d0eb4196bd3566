import ProxyProfiles.Text.Split
/-!
# Paths

A path is a text of names with slashes between. For an operation it falls into the directories
to walk through and a last name; a slash behind the last name is remembered, since it makes a
difference to some operations. The names `.` and `..`, and an empty last name (of the path `/`),
stand for directories that exist.

A slash in front of a path stands for the root, which is taken to be the working directory: `/a`
and `a` lead to the same place. Such a path has an empty first name, and an empty name leads to
where one is; only the texts of the paths above it keep the slash (`ancestors`).

The *parent* of a path is the path without its last name. A path of one name has the empty path
as its parent, and the empty path has none. Names that only repeat a place (`.` other than at
the beginning, and empty names) do not count.
-/

namespace ProxyProfiles.FileTree

open Text

/-- A path, taken apart for an operation. -/
structure Target where
  /-- The names of the directories to walk through. -/
  directories : List String
  /-- The last name. -/
  name : String
  /-- Whether a slash follows the last name. -/
  slash : Bool
deriving DecidableEq, Repr

/-- The last name of a path in reverse, behind any slashes, and the other names. -/
def Target.ofReversed (slash : Bool) : List (List Char) → Target
  | [] => ⟨[], "", slash⟩
  | last :: others => ⟨(others.reverse).map String.ofList, String.ofList last, slash⟩

/-- Takes a path apart. -/
def Target.ofPath (path : String) : Target :=
  let chars := path.toList
  let body := (chars.reverse.dropWhile (· == '/')).reverse
  ofReversed (body.length < chars.length) (pieces '/' body).reverse

/-- Whether the last name of a path stands for a directory that exists if the directories in
front of it do. -/
def Target.isDots (t : Target) : Bool :=
  t.name == "" || t.name == "." || t.name == ".."

/-- The names of a path that count, in order; `.` counts at the beginning. -/
def namesThatCount (path : String) : List (List Char) :=
  match pieces '/' path.toList with
  | [] => []
  | first :: others =>
    (if first = [] then [] else [first]) ++ others.filter fun n => n ≠ [] ∧ n ≠ ['.']

/-- The paths that lie above a path, the nearest first. -/
def ancestors (path : String) : List String :=
  let root : List Char := if path.toList.head? = some '/' then ['/'] else []
  let names := namesThatCount path
  (List.range names.length).reverse.map fun k =>
    String.ofList (root ++ join ['/'] (names.take k))

/-- The path above a path. -/
def parent? (path : String) : Option String :=
  (ancestors path).head?

/-- The path of a name in a directory. -/
def inDirectory (directory name : String) : String :=
  if directory = "" then name
  else if directory.toList.getLast? = some '/' then directory ++ name
  else directory ++ "/" ++ name

end ProxyProfiles.FileTree
