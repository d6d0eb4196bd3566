import ProxyProfiles.Json.Lexeme
import ProxyProfiles.Json.Number
/-!
# Values that nobody looks at

`pass` goes over a value and gives back what follows it. A *strict* pass reads strings and
numbers as if they were wanted and counts the open brackets against a limit; a lax one only
looks for the end of each part, at any depth.
-/

namespace ProxyProfiles.Json

/-- How many brackets may be open at once, the limit itself excluded. -/
def depthLimit : Nat := 128

/-- Goes over a string behind its opening quote. -/
def passString (strict : Bool) (s : List Char) : Except Fault (List Char) :=
  if strict then (readString s).map Prod.snd else skipString s

/-- Goes over a number behind its sign. -/
def passNumber (strict negative : Bool) (s : List Char) : Except Fault (List Char) :=
  if strict then (Number.read negative s).map Prod.snd else Number.skip s

/-- Goes over the colon behind a name. -/
def readColon (s : List Char) : Except Fault (List Char) :=
  match skipSpace s with
  | [] => .error .truncated
  | ':' :: s => .ok s
  | _ => .error .malformed

mutual

/-- Goes over a value. -/
def passValue (strict : Bool) : Nat → Nat → List Char → Except Fault (List Char)
  | 0, _, _ => .error .truncated
  | fuel + 1, room, s =>
    match skipSpace s with
    | [] => .error .truncated
    | 'n' :: s => readWord ['u', 'l', 'l'] s
    | 't' :: s => readWord ['r', 'u', 'e'] s
    | 'f' :: s => readWord ['a', 'l', 's', 'e'] s
    | '"' :: s => passString strict s
    | '-' :: s => passNumber strict true s
    | '[' :: s =>
      if strict ∧ room ≤ 1 then .error .malformed
      else match skipSpace s with
        | ']' :: s => .ok s
        | s => passItems strict fuel (room - 1) s
    | '{' :: s =>
      if strict ∧ room ≤ 1 then .error .malformed
      else match skipSpace s with
        | '}' :: s => .ok s
        | s => passMembers strict fuel (room - 1) s
    | c :: s => if c.isDigit then passNumber strict false (c :: s) else .error .malformed

/-- Goes over one or more values up to the closing bracket. -/
def passItems (strict : Bool) : Nat → Nat → List Char → Except Fault (List Char)
  | 0, _, _ => .error .truncated
  | fuel + 1, room, s => do
    match skipSpace (← passValue strict fuel room s) with
    | [] => .error .truncated
    | ']' :: s => .ok s
    | ',' :: s => passItems strict fuel room s
    | _ => .error .malformed

/-- Goes over one or more members up to the closing brace. -/
def passMembers (strict : Bool) : Nat → Nat → List Char → Except Fault (List Char)
  | 0, _, _ => .error .truncated
  | fuel + 1, room, s =>
    match skipSpace s with
    | [] => .error .truncated
    | '"' :: s => do
      let s ← readColon (← passString strict s)
      match skipSpace (← passValue strict fuel room s) with
      | [] => .error .truncated
      | '}' :: s => .ok s
      | ',' :: s => passMembers strict fuel room s
      | _ => .error .malformed
    | _ => .error .malformed

end

/-- Goes over a value of at most `room` levels, reading its strings and numbers. -/
def passStrict (room : Nat) (s : List Char) : Except Fault (List Char) :=
  passValue true (2 * s.length + 2) room s

/-- Goes over a value of any depth, only looking for its end. -/
def passLax (s : List Char) : Except Fault (List Char) :=
  passValue false (2 * s.length + 2) 0 s

end ProxyProfiles.Json
