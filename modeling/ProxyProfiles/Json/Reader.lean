import ProxyProfiles.Json.Skip
import ProxyProfiles.Text.Quoted
/-!
# Reading typed values from a JSON text

A reader takes the characters that are left and gives its value and the characters behind it.
There is no tree in between: members are handled in the order of the text, so of two problems
the first in the text is reported, whatever its kind.

A *record* may be written as an object or as an array of its fields in their order. In an
object unknown members are passed over and a known one may stand only once.
-/

namespace ProxyProfiles.Json

open Text

/-- A function that reads a value in front of a text. -/
abbrev Reader (α : Type) := List Char → Except Fault (α × List Char)

/-- What is wrong with the value in front of a text, when another kind was wanted. -/
def wrongKind (wanted : String) : List Char → Fault
  | [] => .truncated
  | 'n' :: s => word ['u', 'l', 'l'] s "null"
  | 't' :: s => word ['r', 'u', 'e'] s "boolean `true`"
  | 'f' :: s => word ['a', 'l', 's', 'e'] s "boolean `false`"
  | '"' :: s =>
    match readString s with
    | .ok (t, _) => .wrongType ("string " ++ Quoted.quoted (String.ofList t)) wanted
    | .error e => e
  | '[' :: _ => .wrongType "sequence" wanted
  | '{' :: _ => .wrongType "map" wanted
  | '-' :: s => number true s
  | c :: s => if c.isDigit then number false (c :: s) else .malformed
where
  /-- A fixed word, if it is spelt out. -/
  word (w s : List Char) (found : String) : Fault :=
    match readWord w s with
    | .ok _ => .wrongType found wanted
    | .error e => e
  /-- A number, if it is one. -/
  number (negative : Bool) (s : List Char) : Fault :=
    match Number.read negative s with
    | .ok (n, _) => .wrongType n.shown wanted
    | .error e => e

/-- Reads a string. -/
def readText : Reader String := fun s =>
  match skipSpace s with
  | '"' :: s => (readString s).map fun p => (String.ofList p.1, p.2)
  | s => .error (wrongKind "a string" s)

/-- Reads nothing but `null`. -/
def readNull (s : List Char) : Except Fault (List Char) :=
  match skipSpace s with
  | 'n' :: s => readWord ['u', 'l', 'l'] s
  | s => .error (wrongKind "unit" s)

/-- Reads `null` as nothing, and all else with `r`. -/
def nullable {α : Type} (r : Reader α) : Reader (Option α) := fun s =>
  match skipSpace s with
  | 'n' :: s => (readWord ['u', 'l', 'l'] s).map (none, ·)
  | s => (r s).map fun p => (some p.1, p.2)

/-- A number as a whole number of 64 bits. -/
def toInt64 : Number → Except Fault Int64
  | .integer i =>
    if isInt64 i then .ok (Int64.ofInt i)
    else .error (.wrongValue (Number.integer i).shown "i64")
  | .real x => .error (.wrongType (Number.real x).shown "i64")

/-- Reads a whole number of 64 bits. -/
def readInt64 : Reader Int64 := fun s =>
  match skipSpace s with
  | [] => .error .truncated
  | '-' :: s => number true s
  | c :: s => if c.isDigit then number false (c :: s) else .error (wrongKind "i64" (c :: s))
where
  /-- A number of 64 bits behind its sign. -/
  number (negative : Bool) : Reader Int64 := fun s => do
    let (n, s) ← Number.read negative s
    return (← toInt64 n, s)

/-! ## Arrays -/

/-- Where the next element begins, or nothing in front of the closing bracket. -/
def nextElement (first : Bool) (s : List Char) : Except Fault (Option (List Char)) :=
  match skipSpace s with
  | [] => .error .truncated
  | ']' :: _ => .ok none
  | ',' :: s =>
    if first then .error .malformed
    else match skipSpace s with
      | [] => .error .truncated
      | ']' :: _ => .error .malformed
      | s => .ok (some s)
  | s => if first then .ok (some s) else .error .malformed

/-- Reads the elements that are left, up to the closing bracket. -/
def readElements {α : Type} (r : Reader α) : Nat → Bool → Reader (List α)
  | 0, _, _ => .error .truncated
  | fuel + 1, first, s => do
    match ← nextElement first s with
    | none => return ([], s)
    | some s =>
      let (a, s) ← r s
      let (as, s) ← readElements r fuel false s
      return (a :: as, s)

/-- Goes over the closing bracket of an array. -/
def closeArray (s : List Char) : Except Fault (List Char) :=
  match skipSpace s with
  | [] => .error .truncated
  | ']' :: s => .ok s
  | _ => .error .malformed

/-- Reads an array whose elements are read with `r`. -/
def readArray {α : Type} (room : Nat) (r : Reader α) : Reader (List α) := fun s =>
  match skipSpace s with
  | '[' :: s =>
    if room ≤ 1 then .error .malformed
    else do
      let (as, s) ← readElements r (s.length + 1) true s
      return (as, ← closeArray s)
  | s => .error (wrongKind "a sequence" s)

/-- Reads the next field of a record written as an array, if there is one. -/
def readField? {α : Type} (first : Bool) (r : Reader α) : Reader (Option α) := fun s => do
  match ← nextElement first s with
  | none => return (none, s)
  | some s => (r s).map fun p => (some p.1, p.2)

/-- Reads the field number `i` of a record written as an array; all fields in front of it are
there. -/
def readField {α : Type} (i : Nat) (wanted : String) (r : Reader α) : Reader α := fun s => do
  match ← readField? (i == 0) r s with
  | (some a, s) => return (a, s)
  | (none, _) => .error (.wrongLength (Decimal.ofNat i) wanted)

/-! ## Objects -/

/-- What follows the opening quote of the next name, or nothing in front of the closing
brace. -/
def nextName (first : Bool) (s : List Char) : Except Fault (Option (List Char)) :=
  match skipSpace s with
  | [] => .error .truncated
  | '}' :: _ => .ok none
  | ',' :: s =>
    if first then .error .malformed
    else match skipSpace s with
      | [] => .error .truncated
      | '"' :: s => .ok (some s)
      | _ => .error .malformed
  | '"' :: s => if first then .ok (some s) else .error .malformed
  | _ => .error .malformed

/-- Reads the members that are left, up to the closing brace; `take` handles one member, from
behind its name on, and adds it to what is known. -/
def readMembers {σ : Type} (take : String → σ → Reader σ) : Nat → Bool → σ → Reader σ
  | 0, _, _, _ => .error .truncated
  | fuel + 1, first, known, s => do
    match ← nextName first s with
    | none => return (known, s)
    | some s =>
      let (name, s) ← readString s
      let (known, s) ← take (String.ofList name) known s
      readMembers take fuel false known s

/-- Reads the value of a known member that must not have been seen before. -/
def readMember {α : Type} (name : String) (seen : Option α) (r : Reader α) : Reader α :=
  fun s => do
    if seen.isSome then .error (.duplicateField name)
    r (← readColon s)

/-- The value of a member that must be there. -/
def needMember {α : Type} (name : String) : Option α → Except Fault α
  | some a => .ok a
  | none => .error (.missingField name)

/-- Passes over the value of an unknown member. -/
def passMember {σ : Type} (known : σ) : Reader σ := fun s => do
  return (known, ← passLax (← readColon s))

/-- Goes over the closing brace of an object. -/
def closeObject (s : List Char) : Except Fault (List Char) :=
  match skipSpace s with
  | [] => .error .truncated
  | '}' :: s => .ok s
  | _ => .error .malformed

/-- Reads a record, of which messages speak as `wanted`: an array with `fields`, an object with
`members`. -/
def readRecord {α : Type} (room : Nat) (wanted : String) (fields members : Reader α) :
    Reader α := fun s =>
  match skipSpace s with
  | '[' :: s =>
    if room ≤ 1 then .error .malformed
    else do
      let (a, s) ← fields s
      return (a, ← closeArray s)
  | '{' :: s =>
    if room ≤ 1 then .error .malformed
    else do
      let (a, s) ← members s
      return (a, ← closeObject s)
  | s => .error (wrongKind wanted s)

/-- Reads a name: a string, or an object with `null` under that name as its only member. -/
def readVariant {α : Type} (room : Nat) (wanted : String) (named : String → Option α) :
    Reader α := fun s =>
  match skipSpace s with
  | [] => .error .truncated
  | '"' :: s => do
    let (name, s) ← readString s
    return (← lookup (String.ofList name), s)
  | '{' :: s =>
    if room ≤ 1 then .error .malformed
    else match skipSpace s with
      | [] => .error .truncated
      | '"' :: s => do
        let (name, s) ← readString s
        let a ← lookup (String.ofList name)
        return (a, ← closeObject (← readNull (← readColon s)))
      | _ => .error .malformed
  | _ => .error .malformed
where
  /-- The value of a name. -/
  lookup (name : String) : Except Fault α :=
    match named name with
    | some a => .ok a
    | none => .error (.unknownVariant name wanted)

/-- Reads a whole text: a value and nothing but blanks around it. -/
def readWhole {α : Type} (r : Reader α) (text : String) : Except Fault α := do
  let (a, s) ← r text.toList
  if skipSpace s = [] then return a else .error .malformed

end ProxyProfiles.Json
