import ProxyProfiles.Error
import ProxyProfiles.FileTree.Basic
import ProxyProfiles.Log
import ProxyProfiles.Toml.Document
import ProxyProfiles.Toml.Writer
/-!
# The configuration

Three settings in three sections of a TOML document: where profiles are stored, where payloads
are published, and how much is logged. A section that is missing has its default; one that is
there must hold its setting, as a member of a table or as the first of a list.
-/

namespace ProxyProfiles

open Toml

/-- The settings of the program. -/
structure Config where
  /-- The file of the profiles. -/
  storePath : String := "profiles.json"
  /-- The directory of the payloads. -/
  outputDirectory : String := "proxy"
  /-- The log level. -/
  logLevel : String := "info"
deriving DecidableEq, Repr

namespace Config

/-- The setting of a section. -/
def setting (root : Members) (heading key default : String) : Option String :=
  match root.lookup heading with
  | none => some default
  | some (.table _ ms) =>
    match ms.lookup key with
    | some (.text s) => some s
    | _ => none
  | some (.array (.text s :: _)) => some s
  | some _ => none

/-- The configuration that a document holds. -/
def ofMembers (root : Members) : Option Config := do
  return {
    storePath := ← setting root "store" "path" ({} : Config).storePath
    outputDirectory := ← setting root "host" "output_dir" ({} : Config).outputDirectory
    logLevel := ← setting root "logging" "level" ({} : Config).logLevel }

/-- The configuration that a text holds. -/
def ofText (text : String) : Except ConfigFault Config :=
  match (Toml.ofText text).bind ofMembers with
  | some c => .ok c
  | none => .error .unreadable

/-- A section with its setting. -/
def sectionText (heading key value : String) : List Char :=
  '[' :: heading.toList ++ [']', '\n'] ++ key.toList ++ [' ', '=', ' '] ++
    written value.toList ++ ['\n']

/-- A configuration as a document. -/
def text (c : Config) : String :=
  String.ofList <|
    sectionText "store" "path" c.storePath ++ '\n' ::
      (sectionText "host" "output_dir" c.outputDirectory ++ '\n' ::
        sectionText "logging" "level" c.logLevel)

/-- The log levels. -/
def levels : List String :=
  ["trace", "debug", "info", "warn", "error", "off"]

/-- Whether a threshold lets records of a level through: those of the levels from its own name
on, and none if it is `off`. -/
def shows (threshold : String) : Level → Bool
  | .debug => threshold = "trace" ∨ threshold = "debug"
  | .info => threshold = "trace" ∨ threshold = "debug" ∨ threshold = "info"
  | .warn => threshold = "trace" ∨ threshold = "debug" ∨ threshold = "info" ∨ threshold = "warn"

/-- Neither path may be empty, and the log level must be one. -/
def check (c : Config) : Except ConfigFault Unit :=
  if c.storePath = "" then .error .emptyStorePath
  else if c.outputDirectory = "" then .error .emptyOutputDirectory
  else if c.logLevel ∈ levels then .ok ()
  else .error .unknownLevel

/-- Reads a configuration from a file. -/
def load (path : String) (t : FileTree) : Except Error Config :=
  match t.readText path with
  | .error e => .error (.file e)
  | .ok s => (ofText s).mapError .config

/-- Writes a configuration to a file. -/
def save (path : String) (c : Config) (t : FileTree) : Except Error FileTree :=
  (t.writeText path c.text).mapError .file

end Config

end ProxyProfiles
