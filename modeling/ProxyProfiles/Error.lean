import ProxyProfiles.FileTree.Basic
import ProxyProfiles.Json.Fault
import ProxyProfiles.Profile.Protocol
/-!
# Why an operation fails

Every failure names its cause; `Error.message` says it in words.
-/

namespace ProxyProfiles

/-- Why a host does not do what it is asked. -/
inductive HostFault where
  /-- The host refuses. -/
  | refused
  /-- A payload cannot be published. -/
  | unpublished (e : FileFault)
  /-- What was published cannot be taken back. -/
  | unremoved (path : String) (e : FileFault)
deriving DecidableEq, Repr

/-- What a host says. -/
def HostFault.message : HostFault → String
  | refused => "rejected by host"
  | unpublished e => "IO error: " ++ e.message
  | unremoved path e => path ++ ": " ++ e.message

/-- What is wrong with a configuration. -/
inductive ConfigFault where
  /-- The text is no configuration. -/
  | unreadable
  /-- The path of the store is empty. -/
  | emptyStorePath
  /-- The output directory is empty. -/
  | emptyOutputDirectory
  /-- No log level has the given name. -/
  | unknownLevel
deriving DecidableEq, Repr

/-- What is said about a configuration. -/
def ConfigFault.message : ConfigFault → String
  | unreadable => "Invalid configuration"
  | emptyStorePath => "store.path must not be empty"
  | emptyOutputDirectory => "host.output_dir must not be empty"
  | unknownLevel => "Invalid log level"

/-- What is said about a JSON text that is not read. -/
def Json.Fault.message : Json.Fault → String
  | mismatch m => m
  | malformed => "malformed text"
  | truncated => "text ends too early"

/-- Why an operation fails. -/
inductive Error where
  /-- A file cannot be read or written. -/
  | file (e : FileFault)
  /-- A stored text is not read. -/
  | json (e : Json.Fault)
  /-- A configuration cannot be used. -/
  | config (e : ConfigFault)
  /-- The host rejects a payload. -/
  | hostApply (e : HostFault)
  /-- The host does not go back to direct connections. -/
  | hostClear (e : HostFault)
  /-- No stored profile has this id. -/
  | profileNotFound (id : String)
  /-- A draft or a name in it is refused. -/
  | invalidProfile (e : ProfileFault)
deriving DecidableEq, Repr

/-- What an error says. -/
def Error.message : Error → String
  | file e => "IO error: " ++ e.message
  | json e => "JSON error: " ++ e.message
  | config e => "Configuration error: " ++ e.message
  | hostApply e => "Host rejected proxy configuration: " ++ e.message
  | hostClear e => "Host failed to clear proxy configuration: " ++ e.message
  | profileNotFound id => "Profile not found: " ++ id
  | invalidProfile e => "Invalid profile: " ++ e.message

end ProxyProfiles
