import ProxyProfiles.CommandLine.Run
import Std.Time.DateTime.Timestamp
/-!
# The program

The files that a request may touch are looked up, the request is carried out on what was found,
and what it changed is written back: directories are made from the outside in, files are written
or removed. The result is printed; reports and complaints go to the error stream.
-/

namespace ProxyProfiles.CommandLine

/-- What the program says about itself. -/
def helpText : String :=
  "Keep named proxy profiles and put one of them in force

Usage: proxy-profiles [OPTIONS] <COMMAND>

Commands:
  list            List the profiles
  status          Tell which profile is active
  add FIELDS      Add a profile; --name, --host and --port are needed
  edit ID FIELDS  Change a profile; what is not given stays
  remove ID       Remove a profile
  use ID          Make a profile active
  off             Go back to direct connections
  restore         Put the active profile in force again
  compile ID      Print what a profile compiles to
  help            Print this message

Options:
  -d, --debug            Log details
  -c, --config <CONFIG>  The configuration file
  -h, --help             Print this message

Fields:
  --name <NAME>          Name of the profile
  --type <TYPE>          all, http, https, socks4 or socks5
  --host <HOST>          Host of the proxy
  --port <PORT>          Port of the proxy
  --policy <POLICY>      blacklist or whitelist
  --domains <DOMAINS>    Domains with commas between them
  --username <USERNAME>  User name for the proxy
  --password <PASSWORD>  Password for the proxy"

/-- What stands at a path. -/
def entryAt (path : String) : IO (Option Entry) := do
  match ← (IO.FS.realPath path).toBaseIO with
  | .error _ => return none
  | .ok found =>
    if ← found.isDir then return some .directory
    let bytes ← IO.FS.readBinFile found
    match String.fromUTF8? bytes with
    | some text => return some (.text text)
    | none => return some (.binary bytes.toList)

/-- A path and those above it, the outermost first. -/
def steps (path : String) : List String :=
  ((path :: FileTree.ancestors path).filter (· ≠ "")).reverse

/-- What stands at some paths and on the way to them. -/
def lookUp (paths : List String) : IO FileTree :=
  (paths.flatMap steps).foldlM (fun t path => do
    match ← entryAt path with
    | some e => return t.plant (FileTree.locationOf path) e
    | none => return t) FileTree.empty

/-- Writes back what changed at a path. -/
def writeBack (before after : FileTree) (path : String) : IO Unit := do
  let l := FileTree.locationOf path
  if before.get? l = after.get? l then return ()
  match after.get? l with
  | some .directory => IO.FS.createDir path
  | some (.text text) => IO.FS.writeFile path text
  | some (.binary bytes) => IO.FS.writeBinFile path ⟨bytes.toArray⟩
  | none => IO.FS.removeFile path

/-- The time in milliseconds. -/
def milliseconds : IO Nat := do
  return (← Std.Time.Timestamp.now).toMillisecondsSinceUnixEpoch.val.toNat

/-- Carries out a request on the files of the system. -/
def carryOutOnDisk (q : Request) : IO UInt32 := do
  let found ← lookUp q.config.toList
  let paths := q.config.toList ++
    match q.configuration found with
    | .ok c => touched c
    | .error _ => []
  let before ← lookUp paths
  let run := q.run (← milliseconds) before
  for path in (paths.flatMap steps).eraseDups do
    writeBack before run.files path
  for line in run.lines do
    IO.eprintln line
  match run.result with
  | .ok text =>
    IO.print text
    return 0
  | .error e =>
    IO.eprintln ("Error: " ++ e.message)
    return 1

end ProxyProfiles.CommandLine

open ProxyProfiles.CommandLine in
/-- Does what the arguments ask for. -/
def main (args : List String) : IO UInt32 := do
  match parse args with
  | .ok q => carryOutOnDisk q
  | .error .help =>
    IO.println helpText
    return 0
  | .error .usage =>
    IO.eprintln helpText
    return 2
