import ProxyProfiles.CommandLine.Request
import ProxyProfiles.Config
import ProxyProfiles.Host.Publishing
import ProxyProfiles.Registry
import ProxyProfiles.Store.File
/-!
# Carrying out a request

A run reads the configuration, and does what is asked with the profiles stored in a file and a
host that finds its payload in a directory. It gives the text to be printed, or why it failed,
and the files as they are afterwards.
-/

namespace ProxyProfiles.CommandLine

open Text

/-- Why a run fails. -/
inductive Failure where
  /-- The configuration cannot be read. -/
  | loading (path : String) (e : Error)
  /-- An operation fails. -/
  | operation (e : Error)
  /-- There is no profile to make active. -/
  | noProfile (id : String)
deriving DecidableEq, Repr

/-- What a failed run says. -/
def Failure.message : Failure → String
  | loading path e => "loading " ++ path ++ ": " ++ e.message
  | operation e => e.message
  | noProfile id => "no profile with id " ++ id

/-- What a run gives. -/
structure Run where
  /-- What is printed, or why nothing is. -/
  result : Except Failure String
  /-- The level at which was logged, if it came to that. -/
  level : Option String
  /-- The files afterwards. -/
  files : FileTree
  /-- What was reported. -/
  log : List Record

/-- The reports of a run that its level lets through. Without a level none are. -/
def Run.lines (r : Run) : List String :=
  match r.level with
  | none => []
  | some threshold =>
    (r.log.filter fun q => Config.shows threshold q.level).map Record.line

/-- A text with blanks behind it to a width. -/
def padded (width : Nat) (s : String) : String :=
  s ++ String.ofList (List.replicate (width - s.length) ' ')

/-- A line of a listing; that of the active choice is starred. -/
def listLine (active : Bool) (id rest : String) : String :=
  (if active then "*" else " ") ++ " " ++ padded 14 id ++ " " ++ rest ++ "\n"

/-- The profiles with what they are for, behind the choice of direct connections. -/
def listing (s : Status) : String :=
  let activeId := s.active.map Profile.id
  listLine activeId.isNone "-" "Direct connection" ++
    String.join (s.profiles.map fun p =>
      listLine (activeId == some p.id) p.id
        (p.name ++ " [" ++ p.policyMode.label ++ "] " ++ p.protocol.name ++ " " ++ p.summary))

/-- A payload as it is printed. -/
def printed : Payload → String
  | .script s => s.text
  | .rules t => t.text ++ "\n"

/-- The stored profiles and the host of a configuration. -/
def registry (c : Config) : Registry FileTree where
  store := Store.file c.storePath
  host := Host.publishing c.outputDirectory

/-- The paths of the files that a run under a configuration may touch. -/
def touched (c : Config) : List String :=
  [c.storePath, Host.Publishing.scriptPath c.outputDirectory,
    Host.Publishing.rulesPath c.outputDirectory]

/-- Does what is asked, and gives what is to be printed, or that there is no profile to make
active. -/
def perform (r : Registry FileTree) (milliseconds : Nat) :
    Command → Task FileTree (Except Failure String)
  | .list => do return .ok (listing (← r.status))
  | .status => do return .ok ((← r.status).text ++ "\n")
  | .add fields => do
    let p ← r.add milliseconds fields.draft
    return .ok ("Added " ++ p.name ++ " (" ++ p.id ++ ")\n")
  | .edit id fields => do
    let p ← r.update id (fields.draft (← r.get id))
    return .ok ("Updated " ++ p.name ++ " (" ++ p.id ++ ")\n")
  | .remove id => do
    let p ← r.remove id
    return .ok ("Removed " ++ p.name ++ " (" ++ p.id ++ ")\n")
  | .use id => do
    match ← r.activate id with
    | some payload =>
      return .ok ("Active: " ++ (← r.status).text ++ " (" ++ payload.mode ++ ")\n")
    | none => return .error (.noProfile id)
  | .off => do
    r.deactivate
    return .ok "Direct connection\n"
  | .restore => do
    match ← r.restore with
    | .applied id => return .ok ("Restored " ++ id ++ "\n")
    | .dangling id => return .ok ("Active profile " ++ id ++ " is missing, staying direct\n")
    | .direct => return .ok "Direct connection\n"
  | .compile id => do return .ok (printed (← r.get id).compile)

/-- Carries out a command under a configuration. -/
def carryOut (c : Config) (milliseconds : Nat) (command : Command) (files : FileTree) : Run :=
  let (result, s) := (perform (registry c) milliseconds command).run { world := files }
  let result := match result with
    | .error e => .error (.operation e)
    | .ok answer => answer
  let settings : List Record :=
    [.debug ("Store: " ++ c.storePath), .debug ("Output: " ++ c.outputDirectory)]
  ⟨result, some c.logLevel, s.world, settings ++ s.log⟩

/-- The configuration of a request. -/
def Request.configuration (q : Request) (files : FileTree) : Except Failure Config := do
  let c ← match q.config with
    | none => .ok {}
    | some path => (Config.load path files).mapError (.loading path)
  let c := if q.debug then { c with logLevel := "debug" } else c
  c.check.mapError fun e => .operation (.config e)
  return c

/-- Carries out a request. Nothing is logged before the level is known. -/
def Request.run (q : Request) (milliseconds : Nat) (files : FileTree) : Run :=
  match q.configuration files with
  | .error e => ⟨.error e, none, files, []⟩
  | .ok c => carryOut c milliseconds q.command files

end ProxyProfiles.CommandLine
