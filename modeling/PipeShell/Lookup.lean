import PipeShell.Error
import PipeShell.System.PathWalk

/-!
# Finding the program of a command

A name with a `/` is a path. Any other name is tried in the directories of the search path, in
order; the first candidate that can be executed wins.
-/

namespace PipeShell

def searchDirectories (path : String) : List String :=
  -- An empty entry is the working directory; an empty path has no entries.
  if path = "" then []
  else
    (splitAtEach ':' path.toList).map fun entry =>
      if entry.isEmpty then "." else String.ofList entry

inductive Candidate where
  | executable
  | notExecutable
  | directory
  | missing
  deriving DecidableEq, Repr

def Node.isExecutable : Node → Bool
  | .file _ permissions => permissions.execute
  | .program _ => true
  | _ => false

namespace FileTree

def candidate (files : FileTree) (here : Place) (path : String) : Candidate :=
  match files.status here path with
  | .error _ => .missing
  | .ok (_, .directory) => .directory
  | .ok (_, node) => if node.isExecutable then .executable else .notExecutable

/-- Tries the directories in order. `denied` is the first candidate so far that is there but cannot
be executed; it counts if no other one can. -/
def search (files : FileTree) (here : Place) (name : String) (denied : Option String) :
    List String → Except ShellError String
  | [] =>
    match denied with
    | some path => .error (.permissionDenied path)
    | none => .error (.commandNotFound name)
  | directory :: rest =>
    let path := joinPath directory name
    match files.candidate here path with
    | .executable => .ok path
    | .notExecutable => files.search here name (denied.or (some path)) rest
    | .directory | .missing => files.search here name denied rest

def inspect (files : FileTree) (here : Place) (name : String) : Except ShellError String :=
  match files.candidate here name with
  | .executable => .ok name
  | .notExecutable => .error (.permissionDenied name)
  | .directory => .error (.isDirectory name)
  | .missing => .error (.noSuchFile name)

def resolve (files : FileTree) (here : Place) (name : String) (directories : List String) :
    Except ShellError String :=
  if name = "" then .error (.commandNotFound name)
  else if name.toList.contains '/' then files.inspect here name
  else files.search here name none directories

end FileTree

end PipeShell
