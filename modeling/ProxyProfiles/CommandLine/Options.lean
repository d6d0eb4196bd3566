/-!
# Options and operands

Arguments are gone through from left to right. An argument that begins with two dashes names an
option, one that begins with one dash names options by single letters; behind `--` all arguments
are operands. An option with a value takes it from behind an equals sign, from the rest of its
group of letters, or from the next argument; its value is looked at when the next option or
operand is met, or when the arguments end. No option may be given twice.

Some commands have commands of their own: the first argument that names one ends the scan.
-/

namespace ProxyProfiles.CommandLine

/-- Why arguments are not carried out. -/
inductive Refusal where
  /-- They do not fit the grammar. -/
  | usage
  /-- They ask for help. -/
  | help
deriving DecidableEq, Repr

/-- What an option does. -/
inductive Kind where
  /-- It is given or not. -/
  | switch
  /-- It asks for help. -/
  | help
  /-- It takes a value of a certain form. With `dashes` any next argument is its value, even one
  that begins with a dash. -/
  | value (accepts : String → Bool) (dashes : Bool)

/-- An option of a command. -/
structure OptionSpec where
  /-- Its name behind two dashes. -/
  long : String
  /-- Its letter behind one dash. -/
  short : Option Char := none
  /-- What it does. -/
  kind : Kind

/-- What arguments a command takes. -/
structure Grammar where
  /-- Its options. -/
  options : List OptionSpec
  /-- The greatest number of operands. -/
  operands : Nat := 0
  /-- The names of its own commands. -/
  commands : List String := []

/-- What has been found in the arguments so far. -/
structure Found where
  /-- The options by name with their values; a switch has the empty value. -/
  values : List (String × String) := []
  /-- The operands. -/
  operands : List String := []
  /-- Whether all further arguments are operands. -/
  trailing : Bool := false
  /-- An option whose value has not been looked at, or has not been met yet. -/
  pending : Option (OptionSpec × Option String) := none

namespace Found

/-- The value of an option that was given. -/
def value? (f : Found) (name : String) : Option String :=
  f.values.lookup name

/-- Adds an option that has not been given before. -/
def record (f : Found) (name value : String) : Except Refusal Found :=
  if (f.value? name).isSome then .error .usage
  else .ok { f with values := f.values ++ [(name, value)] }

/-- Adds an option with a value of its form. -/
def store (f : Found) (o : OptionSpec) (value : String) : Except Refusal Found :=
  match o.kind with
  | .value accepts _ => if accepts value then f.record o.long value else .error .usage
  | _ => .error .usage

/-- Looks at the value of the option that is pending. -/
def settle (f : Found) : Except Refusal Found :=
  match f.pending with
  | none => .ok f
  | some (_, none) => .error .usage
  | some (o, some value) => { f with pending := none }.store o value

/-- The option whose value is the next argument, unless that is an option itself. -/
def awaiting? (f : Found) : Option OptionSpec :=
  match f.pending with
  | some (o, none) => if f.trailing then none else some o
  | _ => none

/-- Takes up an option, with the value that is attached to it, if any. -/
def take (f : Found) (o : OptionSpec) (attached : Option String) : Except Refusal Found := do
  match o.kind, attached with
  | .switch, none => (← f.settle).record o.long ""
  | .help, none => do
    let _ ← f.settle
    .error .help
  | .value _ _, none => return { ← f.settle with pending := some (o, none) }
  | .value _ _, some value => (← f.settle).store o value
  | _, some _ => .error .usage

/-- Takes up an operand. -/
def takeOperand (f : Found) (limit : Nat) (a : String) : Except Refusal Found := do
  let f ← f.settle
  if f.operands.length < limit then return { f with operands := f.operands ++ [a] }
  else .error .usage

end Found

/-- The name of an option behind its dashes, and the value behind an equals sign. -/
def splitLong (s : List Char) : String × Option String :=
  let name := String.ofList (s.takeWhile (· != '='))
  match s.dropWhile (· != '=') with
  | [] => (name, none)
  | _ :: value => (name, some (String.ofList value))

/-- Takes up the options of a group of letters. An option with a value takes the rest of the
group for it, behind an equals sign if there is one. -/
def takeLetters (g : Grammar) : Found → List Char → Except Refusal Found
  | f, [] => .ok f
  | f, c :: cs =>
    match g.options.find? fun o => o.short == some c with
    | none => .error .usage
    | some o =>
      match o.kind with
      | .value _ _ =>
        match cs with
        | [] => f.take o none
        | '=' :: value => f.take o (some (String.ofList value))
        | value => f.take o (some (String.ofList value))
      | _ => do takeLetters g (← f.take o none) cs

/-- Takes up the option of a long name. -/
def takeLong (g : Grammar) (f : Found) (s : List Char) : Except Refusal Found :=
  let (name, attached) := splitLong s
  match g.options.find? fun o => o.long == name with
  | none => .error .usage
  | some o => f.take o attached

/-- Whether the next argument is a value whatever it looks like. -/
def OptionSpec.takesDashes (o : OptionSpec) : Bool :=
  match o.kind with
  | .value _ dashes => dashes
  | _ => false

/-- Takes up one argument. -/
def takeArgument (g : Grammar) (f : Found) (a : String) : Except Refusal Found :=
  if f.trailing then f.takeOperand g.operands a
  else
    match f.awaiting?, a.toList with
    | some o, s =>
      if o.takesDashes then .ok { f with pending := some (o, some a) }
      else match s with
        | ['-', '-'] => .ok { f with trailing := true }
        | '-' :: '-' :: s => takeLong g f s
        | '-' :: c :: s => takeLetters g f (c :: s)
        | _ => .ok { f with pending := some (o, some a) }
    | none, ['-', '-'] => .ok { f with trailing := true }
    | none, '-' :: '-' :: s => takeLong g f s
    | none, '-' :: c :: s => takeLetters g f (c :: s)
    | none, _ => f.takeOperand g.operands a

/-- Goes through arguments up to the end or to the name of a command, and gives the command with
the arguments behind it. The last value has not been looked at. -/
def scan (g : Grammar) : Found → List String →
    Except Refusal (Found × Option (String × List String))
  | f, [] => .ok (f, none)
  | f, a :: as =>
    if !f.trailing && f.awaiting?.isNone && g.commands.contains a then .ok (f, some (a, as))
    else do scan g (← takeArgument g f a) as

/-- Goes through all arguments of a command that has no commands of its own. -/
def scanAll (g : Grammar) (as : List String) : Except Refusal Found := do
  (← scan g {} as).1.settle

end ProxyProfiles.CommandLine
