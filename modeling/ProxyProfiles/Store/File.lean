import ProxyProfiles.FileTree.Action
import ProxyProfiles.Roster.Format
import ProxyProfiles.Store.Basic
/-!
# The store in a file

A roster is kept as the JSON text of a file. A file that is missing or blank holds the empty
roster. To save a part of the roster the file is read, the part replaced, and the whole written
again; if the file cannot be read it is not written either.
-/

namespace ProxyProfiles.Store.File

open Text

/-- Reads the roster of a file. -/
def load (path : String) (t : FileTree) : Outcome FileTree Roster :=
  match t.readText path with
  | .ok s => ⟨if isBlankText s then .ok {} else (Roster.ofText s).mapError .json, t, []⟩
  | .error .missing =>
    ⟨.ok {}, t, [.debug ("No profile store at " ++ path ++ ", starting empty")]⟩
  | .error e => ⟨.error (.file e), t, []⟩

/-- Writes a roster to a file, in a directory that is made if it is missing. -/
def write (path : String) (r : Roster) : FileAction Unit := do
  match FileTree.parent? path with
  | none => pure ()
  | some directory => FileAction.makeDirectories directory
  FileAction.writeText path r.text

/-- Changes the roster of a file, and reports it if all goes well. -/
def change (path : String) (f : Roster → Roster) (report : List Record) (t : FileTree) :
    Outcome FileTree Unit :=
  let before := load path t
  match before.result with
  | .error e => ⟨.error e, t, before.log⟩
  | .ok r =>
    match (write path (f r)).run t with
    | (.ok (), t') => ⟨.ok (), t', before.log ++ report⟩
    | (.error e, t') => ⟨.error (.file e), t', before.log⟩

/-- What is reported when a list of profiles has been saved. -/
def saved (path : String) (ps : List Profile) : Record :=
  .info ("Saved " ++ Decimal.ofNat ps.length ++ " profiles to " ++ path)

end File

/-- The store that keeps its roster in a file. -/
def file (path : String) : Store FileTree where
  load := File.load path
  saveProfiles ps := File.change path (fun r => { r with profiles := ps }) [File.saved path ps]
  saveActive id := File.change path (fun r => { r with activeId := id }) []

end ProxyProfiles.Store
