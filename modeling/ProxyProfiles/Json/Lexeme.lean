import ProxyProfiles.Json.Fault
import ProxyProfiles.Text.Hexadecimal
/-!
# Blanks, fixed words and strings of a JSON text

Every reader takes the characters that are left and gives back those behind what it read.
A string is read in two ways. `readString` wants its characters, so an escape must name one: a
high surrogate must be followed by the escape of a low one. `skipString` only looks for the
end, and lets any four digits pass.
-/

namespace ProxyProfiles.Json

open Text

/-- The characters that may stand between the parts of a text. -/
def isSpace (c : Char) : Bool :=
  c == ' ' || c == '\n' || c == '\t' || c == '\r'

/-- A text without the blanks in front of it. -/
def skipSpace (s : List Char) : List Char :=
  s.dropWhile isSpace

/-- Reads the characters of a fixed word. -/
def readWord : List Char → List Char → Except Fault (List Char)
  | [], s => .ok s
  | _ :: _, [] => .error .truncated
  | w :: ws, c :: s => if c = w then readWord ws s else .error .malformed

/-- Why four hexadecimal digits are not there: the text may end before four more bytes. -/
def fourDigitsFault (s : List Char) : Fault :=
  if (String.ofList s).utf8ByteSize < 4 then .truncated else .malformed

/-- The value of four hexadecimal digits. -/
def fourDigits? (a b c d : Char) : Option Nat :=
  Hexadecimal.value? [a, b, c, d]

/-- The character that a single letter behind a backslash stands for. -/
def simpleEscape? : Char → Option Char
  | '"' => some '"'
  | '\\' => some '\\'
  | '/' => some '/'
  | 'b' => some '\x08'
  | 'f' => some '\x0c'
  | 'n' => some '\n'
  | 'r' => some '\r'
  | 't' => some '\t'
  | _ => none

/-- A code unit that must be followed by a low surrogate. -/
def isHighSurrogate (n : Nat) : Bool :=
  0xD800 ≤ n && n ≤ 0xDBFF

/-- A code unit that must follow a high surrogate. -/
def isLowSurrogate (n : Nat) : Bool :=
  0xDC00 ≤ n && n ≤ 0xDFFF

/-- The character of a pair of surrogates. -/
def pairChar (high low : Nat) : Char :=
  Char.ofNat (0x10000 + (high - 0xD800) * 0x400 + (low - 0xDC00))

/-- Puts a character in front of what was read. -/
def consRead (c : Char) (r : Except Fault (List Char × List Char)) :
    Except Fault (List Char × List Char) :=
  r.map fun p => (c :: p.1, p.2)

/-- Reads the characters of a string, from behind the opening quote to behind the closing
one. -/
def readString : List Char → Except Fault (List Char × List Char)
  | [] => .error .truncated
  | '"' :: s => .ok ([], s)
  | ['\\'] => .error .truncated
  | '\\' :: 'u' :: a :: b :: c :: d :: s =>
    match fourDigits? a b c d with
    | none => .error .malformed
    | some n =>
      if isLowSurrogate n then .error .malformed
      else if isHighSurrogate n then
        match s with
        | [] => .error .truncated
        | ['\\'] => .error .truncated
        | '\\' :: 'u' :: a :: b :: c :: d :: s =>
          match fourDigits? a b c d with
          | none => .error .malformed
          | some m =>
            if isLowSurrogate m then consRead (pairChar n m) (readString s)
            else .error .malformed
        | '\\' :: 'u' :: s => .error (fourDigitsFault s)
        | _ => .error .malformed
      else consRead (Char.ofNat n) (readString s)
  | '\\' :: 'u' :: s => .error (fourDigitsFault s)
  | '\\' :: e :: s =>
    match simpleEscape? e with
    | some c => consRead c (readString s)
    | none => .error .malformed
  | c :: s => if c.toNat < 0x20 then .error .malformed else consRead c (readString s)

/-- Skips a string, from behind the opening quote to behind the closing one. -/
def skipString : List Char → Except Fault (List Char)
  | [] => .error .truncated
  | '"' :: s => .ok s
  | ['\\'] => .error .truncated
  | '\\' :: 'u' :: a :: b :: c :: d :: s =>
    match fourDigits? a b c d with
    | none => .error .malformed
    | some _ => skipString s
  | '\\' :: 'u' :: s => .error (fourDigitsFault s)
  | '\\' :: e :: s => if (simpleEscape? e).isSome then skipString s else .error .malformed
  | c :: s => if c.toNat < 0x20 then .error .malformed else skipString s

end ProxyProfiles.Json
