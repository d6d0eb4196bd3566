import ProxyProfiles.FileTree.Basic
/-!
# Sequences of operations on files

An action works on a tree step by step. When a step fails the action ends, and what the steps
before it did to the tree stays done.
-/

namespace ProxyProfiles

/-- A sequence of operations on a tree that may end with a fault. -/
abbrev FileAction (α : Type) := ExceptT FileFault (StateM FileTree) α

namespace FileAction

/-- An operation that changes the tree, or fails and leaves it. -/
def change (op : FileTree → Except FileFault FileTree) : FileAction Unit := fun t =>
  match op t with
  | .ok t' => (.ok (), t')
  | .error e => (.error e, t)

/-- Writes a text to a file. -/
def writeText (path text : String) : FileAction Unit :=
  change (·.writeText path text)

/-- Makes a directory; one that is there is as good. -/
def makeDirectory (path : String) : FileAction Unit := fun t =>
  match t.makeDirectory path with
  | .ok t' => (.ok (), t')
  | .error e => (if t.isDirectory path then .ok () else .error e, t)

/-- Makes a directory whose ancestors, nearest first, are given. An ancestor is only made when
the directory cannot be made without it. -/
def makeBelow (path : String) : List String → FileAction Unit
  | [] => makeDirectory path
  | above :: others => fun t =>
    match t.makeDirectory path with
    | .error .missing =>
      (do
        if above ≠ "" then makeBelow above others
        makeDirectory path : FileAction Unit) t
    | _ => makeDirectory path t

/-- Makes a directory and those above it that are missing. The empty path is the working
directory, which is there. -/
def makeDirectories (path : String) : FileAction Unit :=
  if path = "" then pure () else makeBelow path (FileTree.ancestors path)

/-- Removes a file; there need not be one. -/
def removeIfPresent (path : String) : FileAction Unit := fun t =>
  match t.removeFile path with
  | .ok t' => (.ok (), t')
  | .error .missing => (.ok (), t)
  | .error e => (.error e, t)

end FileAction

end ProxyProfiles
