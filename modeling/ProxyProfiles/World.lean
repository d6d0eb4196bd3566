import ProxyProfiles.Host.Publishing
import ProxyProfiles.Store.File
/-!
# A world for every store and every host

Files, a roster in memory and the record of a host, side by side: any of the stores and any of
the hosts works on its part of them.
-/

namespace ProxyProfiles

/-- All that the stores and hosts work on. -/
structure World where
  /-- The files. -/
  files : FileTree := .empty
  /-- The roster in memory. -/
  roster : Roster := {}
  /-- What the recording host has accepted. -/
  recording : Recording := {}

namespace World

/-- The store in memory. -/
def memoryStore : Store World :=
  Store.memory.within World.roster fun r w => { w with roster := r }

/-- The store in a file. -/
def fileStore (path : String) : Store World :=
  (Store.file path).within World.files fun t w => { w with files := t }

/-- The host that records. -/
def recordingHost : Host World :=
  Host.recording.within World.recording fun r w => { w with recording := r }

/-- The host that finds its payload in a directory. -/
def publishingHost (directory : String) : Host World :=
  (Host.publishing directory).within World.files fun t w => { w with files := t }

end World

end ProxyProfiles
