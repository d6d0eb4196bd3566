import ProxyProfiles.Toml.Item
import ProxyProfiles.Toml.Lexeme
import ProxyProfiles.Toml.Scalar
/-!
# Values and statements of a TOML document

A document is a sequence of statements, each on lines of its own: a key with its value, the
header of a table, or the header of the next table of a list. Only the brackets and texts of a
value may go over several lines.
-/

namespace ProxyProfiles.Toml

/-- The table that pairs of keys and values between braces make. -/
def inlineTable (pairs : List ((List String × String) × Item)) : Option Item :=
  (pairs.foldlM (fun ms p => Members.assign p.1.1 p.1.2 p.2 .inline ms) []).map (.table .inline)

mutual

/-- Reads a value with at most `room` brackets around each part of it. -/
def readValue : Nat → Nat → List Char → Option (Item × List Char)
  | 0, _, _ => none
  | fuel + 1, room, s =>
    match s with
    | '"' :: _ | '\'' :: _ => (readText s).map fun p => (.text p.1, p.2)
    | '[' :: s =>
      if room = 0 then none
      else (readItems fuel (room - 1) s).map fun p => (.array p.1, p.2)
    | '{' :: s =>
      if room = 0 then none
      else do
        let (pairs, s) ← match skipSpace s with
          | '}' :: s => some ([], s)
          | s => readPairs fuel (room - 1) s
        return (← inlineTable pairs, s)
    | s => (skipScalar s).map fun s => (.scalar, s)

/-- Reads the values that are left, up to the closing bracket. A comma may follow the last. -/
def readItems : Nat → Nat → List Char → Option (List Item × List Char)
  | 0, _, _ => none
  | fuel + 1, room, s => do
    match ← skipFiller false s with
    | ']' :: s => return ([], s)
    | s =>
      let (i, s) ← readValue fuel room s
      match ← skipFiller false s with
      | ',' :: s =>
        let (is, s) ← readItems fuel room s
        return (i :: is, s)
      | ']' :: s => return ([i], s)
      | _ => none

/-- Reads one or more keys with values, up to the closing brace. -/
def readPairs : Nat → Nat → List Char → Option (List ((List String × String) × Item) × List Char)
  | 0, _, _ => none
  | fuel + 1, room, s => do
    let (k, s) ← readKey s
    match s with
    | '=' :: s =>
      let (i, s) ← readValue fuel room (skipSpace s)
      match skipSpace s with
      | ',' :: s =>
        let (ps, s) ← readPairs fuel room s
        return ((k, i) :: ps, s)
      | '}' :: s => return ([(k, i)], s)
      | _ => none
    | _ => none

end

/-- A statement of a document. -/
inductive Statement where
  /-- A key gets a value, in the tables that lead to it. -/
  | assign (path : List String) (key : String) (value : Item)
  /-- The header of a table, which is the last of a path. -/
  | header (path : List String) (key : String)
  /-- The header of the next table of a list, which is the last of a path. -/
  | next (path : List String) (key : String)

/-- Reads a statement and the line break behind it. -/
def readStatement : List Char → Option (Statement × List Char)
  | '[' :: '[' :: s => do
    let ((path, k), s) ← readKey s
    return (.next path k, ← skipLineEnd (← skipWord [']', ']'] s))
  | '[' :: s => do
    let ((path, k), s) ← readKey s
    return (.header path k, ← skipLineEnd (← skipWord [']'] s))
  | s => do
    let ((path, k), s) ← readKey s
    let (i, s) ← readValue (2 * s.length + 2) (depthLimit - 1) (skipSpace (← skipWord ['='] s))
    return (.assign path k i, ← skipLineEnd s)

/-- Reads the statements that are left. Lines without one are passed over. -/
def readStatements : Nat → List Char → Option (List Statement)
  | 0, _ => none
  | fuel + 1, s =>
    match skipSpace s with
    | [] => some []
    | '#' :: s => do readStatements fuel (← skipLineEnd ('#' :: s))
    | '\n' :: s => readStatements fuel s
    | '\r' :: s => do readStatements fuel (← skipWord ['\n'] s)
    | s => do
      let (st, s) ← readStatement s
      return st :: (← readStatements fuel s)

end ProxyProfiles.Toml
