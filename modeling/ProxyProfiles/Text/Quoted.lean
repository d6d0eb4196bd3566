import ProxyProfiles.Text.Printable
/-!
# Quoted texts

A text in double quotes, as it is shown in a message: a quote, a backslash and the commonest
controls are written with a backslash, and any other character that does not show on its own
by its code point in braces.
-/

namespace ProxyProfiles.Text.Quoted

/-- The hexadecimal digits of a number, without superfluous zeros. -/
def codePoint (n : Nat) : List Char :=
  Nat.toDigits 16 n

/-- A character as it stands between the quotes. -/
def escape (c : Char) : List Char :=
  match c with
  | '\x00' => ['\\', '0']
  | '\t' => ['\\', 't']
  | '\n' => ['\\', 'n']
  | '\r' => ['\\', 'r']
  | '"' => ['\\', '"']
  | '\\' => ['\\', '\\']
  | c => if isPrintable c then [c] else ['\\', 'u', '{'] ++ codePoint c.toNat ++ ['}']

/-- A text between quotes. -/
def quoted (s : String) : String :=
  String.ofList ('"' :: s.toList.flatMap escape ++ ['"'])

end ProxyProfiles.Text.Quoted
