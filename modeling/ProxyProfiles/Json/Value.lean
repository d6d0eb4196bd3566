import ProxyProfiles.Text.Decimal
import ProxyProfiles.Text.Hexadecimal
/-!
# JSON values and their two written forms

The values that are ever written have no doubles and no truth values. `compact` writes a value
without any blanks. `pretty` writes each element and each member on a line of its own, indented
by two spaces for every bracket around it; an empty list or object stays on one line.
-/

namespace ProxyProfiles.Json

open Text

/-- A value that can be written. -/
inductive Value where
  /-- The value `null`. -/
  | null
  /-- A text. -/
  | string (s : String)
  /-- A whole number. -/
  | integer (i : Int)
  /-- A list of values. -/
  | array (vs : List Value)
  /-- Named values in their order. -/
  | object (ms : List (String × Value))

/-- A character as it stands between quotes: quotes, backslashes and controls are escaped. -/
def escape (c : Char) : List Char :=
  match c with
  | '"' => ['\\', '"']
  | '\\' => ['\\', '\\']
  | '\x08' => ['\\', 'b']
  | '\x0c' => ['\\', 'f']
  | '\n' => ['\\', 'n']
  | '\r' => ['\\', 'r']
  | '\t' => ['\\', 't']
  | c => if c.toNat < 0x20 then '\\' :: 'u' :: Hexadecimal.fourLower c.toNat else [c]

/-- A text between quotes. -/
def quote (s : String) : List Char :=
  '"' :: s.toList.flatMap escape ++ ['"']

namespace Value

mutual

/-- A value without blanks. -/
def compact : Value → List Char
  | null => ['n', 'u', 'l', 'l']
  | string s => quote s
  | integer i => Decimal.chars i
  | array vs => '[' :: compactItems vs ++ [']']
  | object ms => '{' :: compactMembers ms ++ ['}']

/-- Values with commas between them. -/
def compactItems : List Value → List Char
  | [] => []
  | [v] => compact v
  | v :: w :: vs => compact v ++ ',' :: compactItems (w :: vs)

/-- Members with commas between them. -/
def compactMembers : List (String × Value) → List Char
  | [] => []
  | [(k, v)] => quote k ++ ':' :: compact v
  | (k, v) :: m :: ms => quote k ++ ':' :: compact v ++ ',' :: compactMembers (m :: ms)

end

/-- The start of a line at a level of indentation. -/
def newLine (level : Nat) : List Char :=
  '\n' :: List.replicate (2 * level) ' '

mutual

/-- A value over several lines, its first line being already indented. -/
def pretty (level : Nat) : Value → List Char
  | null => ['n', 'u', 'l', 'l']
  | string s => quote s
  | integer i => Decimal.chars i
  | array [] => ['[', ']']
  | array (v :: vs) => '[' :: prettyItems (level + 1) (v :: vs) ++ newLine level ++ [']']
  | object [] => ['{', '}']
  | object (m :: ms) => '{' :: prettyMembers (level + 1) (m :: ms) ++ newLine level ++ ['}']

/-- Values on lines of their own, with commas behind all but the last. -/
def prettyItems (level : Nat) : List Value → List Char
  | [] => []
  | [v] => newLine level ++ pretty level v
  | v :: w :: vs => newLine level ++ pretty level v ++ ',' :: prettyItems level (w :: vs)

/-- Members on lines of their own, with commas behind all but the last. -/
def prettyMembers (level : Nat) : List (String × Value) → List Char
  | [] => []
  | [(k, v)] => newLine level ++ quote k ++ ':' :: ' ' :: pretty level v
  | (k, v) :: m :: ms =>
    newLine level ++ quote k ++ ':' :: ' ' :: pretty level v ++
      ',' :: prettyMembers level (m :: ms)

end

/-- A value on one line, as a string. -/
def compactText (v : Value) : String :=
  String.ofList v.compact

/-- A value over several lines, as a string. -/
def prettyText (v : Value) : String :=
  String.ofList (v.pretty 0)

/-- A member that is left out when there is no value for it. -/
def optional (name : String) : Option Value → List (String × Value)
  | none => []
  | some v => [(name, v)]

end Value

end ProxyProfiles.Json
