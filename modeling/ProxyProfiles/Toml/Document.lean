import ProxyProfiles.Toml.Statement
/-!
# TOML documents

The statements of a document are put together to one table. A header opens a table, which gets
the values that follow up to the next header. No value is given twice, no table has two headers,
and a header does not open a table that a value or a dotted key has made.
-/

namespace ProxyProfiles.Toml

/-- The members that a table has when its header opens it: those of the tables below it that
have had headers already. -/
def Members.opened (key : String) : List String → Members → Option Members
  | [], ms =>
    match ms.lookup key with
    | none => some []
    | some (.table .implied sub) => some sub
    | some _ => none
  | k :: ks, ms =>
    match ms.lookup k with
    | none => some []
    | some (.table .inline _) => none
    | some (.table _ sub) => opened key ks sub
    | some (.tables last _) => opened key ks last
    | some _ => none

/-- The document with a table in its place. -/
def Members.close (root : Members) (path : List String) (key : String) (sub : Members) :
    Option Members :=
  alter false (fun _ ms => some (put key (.table .header sub) ms)) path .header root

/-- The document with a further table at the end of a list. -/
def Members.closeNext (root : Members) (path : List String) (key : String) (sub : Members) :
    Option Members :=
  alter false (fun _ ms =>
    match ms.lookup key with
    | none => some (put key (.tables sub []) ms)
    | some (.tables last before) => some (put key (.tables sub (last :: before)) ms)
    | some _ => none) path .header root

/-- The table that is open while statements are gone through. -/
inductive Place where
  /-- The whole document. -/
  | whole
  /-- A table with a header. -/
  | table (path : List String) (key : String)
  /-- A table of a list. -/
  | next (path : List String) (key : String)

/-- A document while its statements are gone through. -/
structure Draft where
  /-- The document without the open table. -/
  root : Members := []
  /-- The open table. -/
  place : Place := .whole
  /-- The members of the open table. -/
  members : Members := []

/-- The document with the open table in its place. -/
def Draft.closed (d : Draft) : Option Members :=
  match d.place with
  | .whole => some d.members
  | .table path key => d.root.close path key d.members
  | .next path key => d.root.closeNext path key d.members

/-- Goes on by one statement. -/
def Draft.step (d : Draft) : Statement → Option Draft
  | .assign path key value => do
    return { d with members := ← d.members.assign path key value .header }
  | .header path key => do
    let root ← d.closed
    return ⟨root, .table path key, ← root.opened key path⟩
  | .next path key => do
    return ⟨← d.closed, .next path key, []⟩

/-- The table that statements make. -/
def ofStatements (sts : List Statement) : Option Members := do
  (← sts.foldlM Draft.step {}).closed

/-- The characters of a document without a byte order mark. -/
def withoutMark : List Char → List Char
  | '\ufeff' :: s => s
  | s => s

/-- The table that a text makes, if it is a document. -/
def ofText (text : String) : Option Members := do
  ofStatements (← readStatements (text.toList.length + 1) (withoutMark text.toList))

end ProxyProfiles.Toml
