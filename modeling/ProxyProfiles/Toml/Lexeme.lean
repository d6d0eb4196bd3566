import ProxyProfiles.Text.Decimal
import ProxyProfiles.Text.Hexadecimal
/-!
# Blanks, comments, texts and keys of a TOML document

Every reader gives what it read and the characters behind it, or nothing if the text does not
fit. A text is written in one of four ways: between single or double quotes, one or three of
them. Between double quotes a backslash escapes; between three quotes the text may have
several lines, and a newline right behind the opening quotes does not belong to it.
-/

namespace ProxyProfiles.Toml

open Text

/-- A blank within a line. -/
def isSpace (c : Char) : Bool :=
  c == ' ' || c == '\t'

/-- A character that may stand in a text or a comment: no control but the tab. -/
def isPlain (c : Char) : Bool :=
  c == '\t' || (0x20 ≤ c.toNat && c.toNat != 0x7F)

/-- A text without the blanks in front of it. -/
def skipSpace (s : List Char) : List Char :=
  s.dropWhile isSpace

/-- What follows a line break. -/
def skipNewline? : List Char → Option (List Char)
  | '\n' :: s => some s
  | '\r' :: '\n' :: s => some s
  | _ => none

/-- What follows a text, without a line break at its beginning. -/
def dropNewline (s : List Char) : List Char :=
  (skipNewline? s).getD s

/-- Goes over a comment, if there is one. -/
def skipComment : List Char → List Char
  | '#' :: s => s.dropWhile isPlain
  | s => s

/-- Goes over what may follow a statement on its line, and over the line break. -/
def skipLineEnd (s : List Char) : Option (List Char) :=
  match skipComment (skipSpace s) with
  | [] => some []
  | s => skipNewline? s

/-- Goes over blanks, line breaks and comments; a comment needs its line break. -/
def skipFiller : Bool → List Char → Option (List Char)
  | true, [] => none
  | false, [] => some []
  | _, '\r' :: '\n' :: s => skipFiller false s
  | comment, c :: s =>
    if c = '\n' then skipFiller false s
    else if comment then if isPlain c then skipFiller true s else none
    else if c = '#' then skipFiller true s
    else if isSpace c then skipFiller false s
    else some (c :: s)

/-! ## Texts -/

/-- The character that a single letter behind a backslash stands for. -/
def simpleEscape? : Char → Option Char
  | 'b' => some '\x08'
  | 't' => some '\t'
  | 'n' => some '\n'
  | 'f' => some '\x0c'
  | 'r' => some '\r'
  | '"' => some '"'
  | '\\' => some '\\'
  | _ => none

/-- The character whose code point is given by hexadecimal digits. -/
def codePoint? (ds : List Char) : Option Char := do
  let n ← Hexadecimal.value? ds
  if n.isValidChar then some (Char.ofNat n) else none

/-- Puts a character in front of what was read. -/
def consRead (c : Char) (r : Option (List Char × List Char)) : Option (List Char × List Char) :=
  r.map fun p => (c :: p.1, p.2)

/-- Reads a text behind its double quote. -/
def readBasic : List Char → Option (List Char × List Char)
  | [] => none
  | '"' :: s => some ([], s)
  | '\\' :: 'u' :: a :: b :: c :: d :: s => do
    consRead (← codePoint? [a, b, c, d]) (readBasic s)
  | '\\' :: 'U' :: a :: b :: c :: d :: e :: f :: g :: h :: s => do
    consRead (← codePoint? [a, b, c, d, e, f, g, h]) (readBasic s)
  | '\\' :: e :: s => do consRead (← simpleEscape? e) (readBasic s)
  | c :: s => if isPlain c ∧ c ≠ '\\' then consRead c (readBasic s) else none

/-- The quotes that belong to a text although they follow three closing ones: at most two. -/
def extraQuotes (q : Char) : List Char → List Char × List Char
  | a :: b :: s => if a = q then if b = q then ([q, q], s) else ([q], b :: s) else ([], a :: b :: s)
  | [a] => if a = q then ([q], []) else ([], [a])
  | [] => ([], [])

/-- Whether nothing but blanks is left of a line. -/
def endsLine (s : List Char) : Bool :=
  (skipNewline? (skipSpace s)).isSome

/-- Reads a text behind its three double quotes. Behind a backslash at the end of a line, blanks
and line breaks are left out up to the next other character. -/
def readMultiBasic : Bool → List Char → Option (List Char × List Char)
  | _, [] => none
  | _, '"' :: '"' :: '"' :: s => some (extraQuotes '"' s)
  | leaveOut, '\r' :: '\n' :: s =>
    if leaveOut then readMultiBasic true s else consRead '\n' (readMultiBasic false s)
  | _, '\\' :: 'u' :: a :: b :: c :: d :: s => do
    consRead (← codePoint? [a, b, c, d]) (readMultiBasic false s)
  | _, '\\' :: 'U' :: a :: b :: c :: d :: e :: f :: g :: h :: s => do
    consRead (← codePoint? [a, b, c, d, e, f, g, h]) (readMultiBasic false s)
  | _, '\\' :: e :: s =>
    if endsLine (e :: s) then readMultiBasic true (e :: s)
    else do consRead (← simpleEscape? e) (readMultiBasic false s)
  | leaveOut, c :: s =>
    if leaveOut ∧ (c = '\n' ∨ isSpace c) then readMultiBasic true s
    else if c = '\n' ∨ (isPlain c ∧ c ≠ '\\') then consRead c (readMultiBasic false s)
    else none

/-- Reads a text behind its single quote. -/
def readLiteral : List Char → Option (List Char × List Char)
  | [] => none
  | '\'' :: s => some ([], s)
  | c :: s => if isPlain c then consRead c (readLiteral s) else none

/-- Reads a text behind its three single quotes. -/
def readMultiLiteral : List Char → Option (List Char × List Char)
  | [] => none
  | '\'' :: '\'' :: '\'' :: s => some (extraQuotes '\'' s)
  | '\r' :: '\n' :: s => consRead '\n' (readMultiLiteral s)
  | c :: s => if c = '\n' ∨ isPlain c then consRead c (readMultiLiteral s) else none

/-- Reads a text in any of its forms. -/
def readText : List Char → Option (String × List Char)
  | '"' :: '"' :: '"' :: s => finish (readMultiBasic false (dropNewline s))
  | '"' :: s => finish (readBasic s)
  | '\'' :: '\'' :: '\'' :: s => finish (readMultiLiteral (dropNewline s))
  | '\'' :: s => finish (readLiteral s)
  | _ => none
where
  /-- The characters of a text as a string. -/
  finish (r : Option (List Char × List Char)) : Option (String × List Char) :=
    r.map fun p => (String.ofList p.1, p.2)

/-! ## Keys -/

/-- A character of a key without quotes. -/
def isBare (c : Char) : Bool :=
  c.isAlphanum || c == '-' || c == '_'

/-- Reads one key: a text on one line, or a run of letters, digits, dashes and underscores. -/
def readSimpleKey : List Char → Option (String × List Char)
  | '"' :: s => (readBasic s).map fun p => (String.ofList p.1, p.2)
  | '\'' :: s => (readLiteral s).map fun p => (String.ofList p.1, p.2)
  | s =>
    if s.takeWhile isBare = [] then none
    else some (String.ofList (s.takeWhile isBare), s.dropWhile isBare)

/-- Reads keys with dots between, and the blanks around them. -/
def readKeys : Nat → List Char → Option (List String × List Char)
  | 0, _ => none
  | fuel + 1, s => do
    let (k, s) ← readSimpleKey (skipSpace s)
    match skipSpace s with
    | '.' :: s =>
      let (ks, s) ← readKeys fuel s
      return (k :: ks, s)
    | s => return ([k], s)

/-- How many keys with dots between them are too many, and how many brackets around a value. -/
def depthLimit : Nat := 80

/-- Reads a dotted key: the keys of the tables on the way and the key at the end. -/
def readKey (s : List Char) : Option ((List String × String) × List Char) := do
  let (ks, s) ← readKeys (s.length + 1) s
  if ks.length < depthLimit then
    return ((ks.dropLast, ← ks.getLast?), s)
  else none

end ProxyProfiles.Toml
