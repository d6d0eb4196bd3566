import ProxyProfiles.FileTree.Action
import ProxyProfiles.Host.Basic
/-!
# The host that reads files

A payload can be published as a file in a directory: a script as `proxy.pac` and a rule table
as `rules.json`. After a payload is written the file of the other kind is removed, and to go
back to direct connections both are.
-/

namespace ProxyProfiles.Host.Publishing

open FileTree

/-- The path of the script in a directory. -/
def scriptPath (directory : String) : String :=
  inDirectory directory "proxy.pac"

/-- The path of the rule table in a directory. -/
def rulesPath (directory : String) : String :=
  inDirectory directory "rules.json"

/-- The path for a payload. -/
def target (directory : String) : Payload → String
  | .script _ => scriptPath directory
  | .rules _ => rulesPath directory

/-- The path for a payload of the other kind. -/
def stale (directory : String) : Payload → String
  | .script _ => rulesPath directory
  | .rules _ => scriptPath directory

/-- Publishes a payload. -/
def write (directory : String) (p : Payload) : FileAction Unit := do
  FileAction.makeDirectories directory
  FileAction.writeText (target directory p) p.text
  FileAction.removeIfPresent (stale directory p)

/-- What is reported when a payload has been published. -/
def written (directory : String) (p : Payload) : Record :=
  .debug ("Wrote " ++ p.mode ++ " payload to " ++ target directory p)

/-- Removes a file, and says which if it cannot be removed. -/
def remove (path : String) : ExceptT HostFault (StateM FileTree) Unit := fun t =>
  match (FileAction.removeIfPresent path).run t with
  | (.ok (), t') => (.ok (), t')
  | (.error e, t') => (.error (.unremoved path e), t')

/-- Takes back what is published. -/
def unpublish (directory : String) : ExceptT HostFault (StateM FileTree) Unit := do
  remove (scriptPath directory)
  remove (rulesPath directory)

end Publishing

/-- The host that finds its payload in a directory. -/
def publishing (directory : String) : Host FileTree where
  apply p t :=
    match (Publishing.write directory p).run t with
    | (.ok (), t') => ⟨.ok (), t', [Publishing.written directory p]⟩
    | (.error e, t') => ⟨.error (.hostApply (.unpublished e)), t', []⟩
  clear t :=
    match (Publishing.unpublish directory).run t with
    | (.ok (), t') => ⟨.ok (), t', []⟩
    | (.error e, t') => ⟨.error (.hostClear e), t', []⟩

end ProxyProfiles.Host
