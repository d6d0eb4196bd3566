import ProxyProfiles.Text.Hexadecimal
/-!
# Written texts of a TOML document

A text is written in the plainest form that shows it unchanged: between double quotes, single
quotes, three double quotes or three single quotes, and with escapes only if none of them does.
Between three quotes a text with a line break begins on a line of its own.
-/

namespace ProxyProfiles.Toml

open Text

/-- The quotes around a written text. -/
inductive Style where
  /-- One double quote, with escapes. -/
  | basic
  /-- One single quote. -/
  | literal
  /-- Three double quotes, with escapes. -/
  | multiBasic
  /-- Three single quotes. -/
  | multiLiteral
deriving DecidableEq, Repr

/-- A control character other than tab and line feed. -/
def isHardControl (c : Char) : Bool :=
  (c.toNat < 0x20 && c != '\t' && c != '\n') || c.toNat == 0x7F

/-- Whether a text has three of a character in a row. -/
def hasTriple (q : Char) : List Char → Bool
  | a :: b :: c :: s => (a == q && b == q && c == q) || hasTriple q (b :: c :: s)
  | _ => false

/-- The style in which a text is written. -/
def Style.of (s : List Char) : Style :=
  let hard := s.any isHardControl
  let lines := s.contains '\n'
  if !hard && !s.contains '\\' && !s.contains '"' && !lines then basic
  else if !hard && !s.contains '\'' && !lines then literal
  else if !hard && !s.contains '\\' && !hasTriple '"' s then multiBasic
  else if !hard && !hasTriple '\'' s then multiLiteral
  else if lines then multiBasic
  else basic

/-- A character that is neither a quote nor a line break, between double quotes. -/
def escape (c : Char) : List Char :=
  match c with
  | '\x08' => ['\\', 'b']
  | '\t' => ['\\', 't']
  | '\x0c' => ['\\', 'f']
  | '\r' => ['\\', 'r']
  | '\\' => ['\\', '\\']
  | c =>
    if c.toNat < 0x20 ∨ c.toNat = 0x7F then '\\' :: 'u' :: Hexadecimal.fourUpper c.toNat else [c]

/-- The characters of a text between double quotes. -/
def escapeAll : List Char → List Char
  | [] => []
  | '"' :: s => '\\' :: '"' :: escapeAll s
  | '\n' :: s => '\\' :: 'n' :: escapeAll s
  | c :: s => escape c ++ escapeAll s

/-- The characters of a text between three double quotes, of which `quotes` were just written in
a row: the third in a row is escaped. -/
def escapeLines : Nat → List Char → List Char
  | _, [] => []
  | quotes, '"' :: s =>
    if quotes = 2 then '\\' :: '"' :: escapeLines 0 s else '"' :: escapeLines (quotes + 1) s
  | _, '\n' :: s => '\n' :: escapeLines 0 s
  | _, c :: s => escape c ++ escapeLines 0 s

/-- The line break behind three opening quotes. -/
def opening (s : List Char) : List Char :=
  if s.contains '\n' then ['\n'] else []

/-- A text in the style that suits it. -/
def written (s : List Char) : List Char :=
  match Style.of s with
  | .basic => '"' :: escapeAll s ++ ['"']
  | .literal => '\'' :: s ++ ['\'']
  | .multiBasic => ['"', '"', '"'] ++ opening s ++ escapeLines 0 s ++ ['"', '"', '"']
  | .multiLiteral => ['\'', '\'', '\''] ++ opening s ++ s ++ ['\'', '\'', '\'']

end ProxyProfiles.Toml
