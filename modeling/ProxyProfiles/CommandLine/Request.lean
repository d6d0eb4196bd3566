import ProxyProfiles.CommandLine.Options
import ProxyProfiles.Profile.Basic
import ProxyProfiles.Profile.DomainList
/-!
# What the arguments ask for

The options of a new profile make a draft; those of an edit make one together with the profile
as it is stored, which gives what no option was given for.
-/

namespace ProxyProfiles.CommandLine

open Text

/-! ## Fields -/

/-- The fields of a new profile. -/
structure NewFields where
  /-- The name. -/
  name : String
  /-- The protocol. -/
  protocol : Protocol := .all
  /-- The host. -/
  host : String
  /-- The port. -/
  port : Int64
  /-- The policy mode. -/
  mode : PolicyMode := .blacklist
  /-- The domain list, as one text. -/
  domains : Option String := none
  /-- The user name. -/
  username : Option String := none
  /-- The password. -/
  password : Option String := none
deriving DecidableEq, Repr

/-- The draft of a new profile. A password without a user name is dropped. -/
def NewFields.draft (f : NewFields) : Draft :=
  let d := (Draft.new f.name f.protocol f.host f.port).withPolicy f.mode
    ((f.domains.map parseDomainList).getD [])
  match f.username with
  | some user => d.withCredentials user (f.password.getD "")
  | none => d

/-- The fields of a stored profile that are to change. -/
structure EditFields where
  /-- The name. -/
  name : Option String := none
  /-- The protocol. -/
  protocol : Option Protocol := none
  /-- The host. -/
  host : Option String := none
  /-- The port. -/
  port : Option Int64 := none
  /-- The policy mode. -/
  mode : Option PolicyMode := none
  /-- The domain list, as one text. -/
  domains : Option String := none
  /-- The user name. -/
  username : Option String := none
  /-- The password. -/
  password : Option String := none
deriving DecidableEq, Repr

/-- The draft of an edited profile. A password counts only together with a user name. -/
def EditFields.draft (f : EditFields) (current : Profile) : Draft :=
  let d := (Draft.new (f.name.getD current.name) (f.protocol.getD current.protocol)
      (f.host.getD current.host) (f.port.getD current.port)).withPolicy
    (f.mode.getD current.policyMode) ((f.domains.map parseDomainList).getD current.domainList)
  match f.username with
  | some user => d.withCredentials user ((f.password <|> current.password).getD "")
  | none => d

/-! ## Requests -/

/-- What the program is asked to do. -/
inductive Command where
  /-- To list the profiles. -/
  | list
  /-- To say which profile is active. -/
  | status
  /-- To add a profile. -/
  | add (fields : NewFields)
  /-- To change a profile. -/
  | edit (id : String) (fields : EditFields)
  /-- To remove a profile. -/
  | remove (id : String)
  /-- To make a profile active. -/
  | use (id : String)
  /-- To go back to direct connections. -/
  | off
  /-- To put the active profile in force again. -/
  | restore
  /-- To show what a profile compiles to. -/
  | compile (id : String)
deriving DecidableEq, Repr

/-- All that the arguments say. -/
structure Request where
  /-- Whether details are to be logged. -/
  debug : Bool
  /-- The file of the configuration. -/
  config : Option String
  /-- What is to be done. -/
  command : Command
deriving DecidableEq, Repr

/-! ## Grammar -/

/-- The number of 64 bits that a text spells, with a sign or without. -/
def int64? (s : String) : Option Int64 :=
  match s.toList with
  | '-' :: ds => signed true ds
  | '+' :: ds => signed false ds
  | ds => signed false ds
where
  /-- The number of a sign and a run of digits. -/
  signed (negative : Bool) (ds : List Char) : Option Int64 :=
    let i : Int := if negative then -(Decimal.value ds : Int) else Decimal.value ds
    if Decimal.isRun ds ∧ isInt64 i then some (Int64.ofInt i) else none

/-- An option with a value of any form. -/
def textOption (name : String) : OptionSpec :=
  { long := name, kind := .value (fun _ => true) false }

/-- The option that asks for help. -/
def helpOption : OptionSpec :=
  { long := "help", short := some 'h', kind := .help }

/-- The options for the fields of a profile. -/
def fieldOptions : List OptionSpec :=
  [textOption "name",
    { long := "type", kind := .value (fun s => (Protocol.parse s).isOk) false },
    textOption "host",
    { long := "port", kind := .value (fun s => (int64? s).isSome) true },
    { long := "policy", kind := .value (fun s => (PolicyMode.parse s).isOk) false },
    textOption "domains", textOption "username", textOption "password"]

/-- The names of the commands. -/
def commandNames : List String :=
  ["list", "status", "add", "edit", "remove", "use", "off", "restore", "compile", "help"]

/-- The arguments in front of the command. -/
def mainGrammar : Grammar where
  options :=
    [{ long := "debug", short := some 'd', kind := .switch },
      { textOption "config" with short := some 'c' }, helpOption]
  commands := commandNames

/-- The arguments of a command: its options and the greatest number of its operands. -/
def commandGrammar (name : String) : Grammar :=
  if name = "add" then { options := fieldOptions ++ [helpOption] }
  else if name = "edit" then { options := fieldOptions ++ [helpOption], operands := 1 }
  else if name ∈ ["remove", "use", "compile"] then { options := [helpOption], operands := 1 }
  else { options := [helpOption] }

/-- What must be given. -/
def required {α : Type} : Option α → Except Refusal α
  | some a => .ok a
  | none => .error .usage

/-- The protocol that was given. -/
def protocol? (f : Found) : Option Protocol :=
  (f.value? "type").bind fun s => (Protocol.parse s).toOption

/-- The port that was given. -/
def port? (f : Found) : Option Int64 :=
  (f.value? "port").bind int64?

/-- The policy mode that was given. -/
def mode? (f : Found) : Option PolicyMode :=
  (f.value? "policy").bind fun s => (PolicyMode.parse s).toOption

/-- The fields of a new profile that were given. Name, host and port must be. -/
def newFields (f : Found) : Except Refusal NewFields := do
  return {
    name := ← required (f.value? "name")
    protocol := (protocol? f).getD .all
    host := ← required (f.value? "host")
    port := ← required (port? f)
    mode := (mode? f).getD .blacklist
    domains := f.value? "domains"
    username := f.value? "username"
    password := f.value? "password" }

/-- The fields of an edit that were given. -/
def editFields (f : Found) : EditFields where
  name := f.value? "name"
  protocol := protocol? f
  host := f.value? "host"
  port := port? f
  mode := mode? f
  domains := f.value? "domains"
  username := f.value? "username"
  password := f.value? "password"

/-- The command of a name and the arguments behind it. -/
def parseCommand (name : String) (as : List String) : Except Refusal Command := do
  let f ← scanAll (commandGrammar name) as
  match name with
  | "list" => return .list
  | "status" => return .status
  | "add" => return .add (← newFields f)
  | "edit" => return .edit (← required f.operands.head?) (editFields f)
  | "remove" => return .remove (← required f.operands.head?)
  | "use" => return .use (← required f.operands.head?)
  | "off" => return .off
  | "restore" => return .restore
  | "compile" => return .compile (← required f.operands.head?)
  | _ => .error .usage

/-- Help is given on the program and on each command. -/
def parseHelp : List String → Refusal
  | [] => .help
  | [name] => if name ∈ commandNames then .help else .usage
  | _ => .usage

/-- What the arguments ask for. -/
def parse (args : List String) : Except Refusal Request := do
  match ← scan mainGrammar {} args with
  | (_, none) => .error .usage
  | (f, some (name, as)) =>
    if name = "help" then .error (parseHelp as)
    else
      let command ← parseCommand name as
      let f ← f.settle
      return { debug := (f.value? "debug").isSome, config := f.value? "config", command }

end ProxyProfiles.CommandLine
