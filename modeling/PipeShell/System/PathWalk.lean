import PipeShell.System.Errno
import PipeShell.System.FileTree
import PipeShell.Text.Split

/-!
# From a path to a place

A path is walked name by name. Links met on the way are replaced by their targets, at most
`linkLimit` of them.
-/

namespace PipeShell

structure PathText where
  absolute : Bool
  names : List String
  directory : Bool
  deriving DecidableEq, Repr

def PathText.ofString (text : String) : PathText :=
  let chars := text.toList
  { absolute := chars.head? == some '/'
    names := ((splitAtEach '/' chars).filter (· ≠ [])).map String.ofList
    directory := chars.getLast? == some '/' }

inductive Reached where
  | node (place : Place) (node : Node)
  | missing (place : Place) (directory : Bool)
  deriving DecidableEq, Repr

/-- What a path is walked for: the entry at its end itself, what a link there leads to, or a file
to be written there, whose name must not end in a slash. -/
inductive WalkAim where
  | entry
  | target
  | writing
  deriving DecidableEq, Repr

def linkLimit : Nat := 40
def nameLimit : Nat := 255
def pathLimit : Nat := 4096

/-- The walk from the directory `here`. A directory that was removed while someone was in it still
has its `.` and `..`, but no names. -/
def walk (tree : FileTree) (aim : WalkAim) (links : Nat) (here : Place) (names : List String)
    (directory : Bool) : Except Errno Reached :=
  match names with
  | [] => .ok (.node here .directory)
  | name :: rest =>
    if name = "." then walk tree aim links here rest directory
    else if name = ".." then walk tree aim links here.dropLast rest directory
    else if rest.isEmpty && directory && aim = .writing then .error .EISDIR
    else if !tree.isDirectory here then .error .ENOENT
    else if nameLimit < (encode name).length then .error .ENAMETOOLONG
    else
      let place := here ++ [name]
      match tree.node? place with
      | none => if rest.isEmpty then .ok (.missing place directory) else .error .ENOENT
      | some .directory => walk tree aim links place rest directory
      | some (.link target) =>
        if rest.isEmpty && aim = .entry && !directory then .ok (.node place (.link target))
        else
          match links with
          | 0 => .error .ELOOP
          | links + 1 =>
            let path := PathText.ofString target
            walk tree aim links (if path.absolute then [] else here) (path.names ++ rest)
              (directory || rest.isEmpty && path.directory)
      | some node => if rest.isEmpty && !directory then .ok (.node place node) else .error .ENOTDIR
termination_by (links, names.length)

def checkPath (path : String) : Except IoFailure Unit :=
  if path.toList.contains '\x00' then .error .nulInPath
  else if path = "" then .error (.system .ENOENT)
  else if pathLimit ≤ (encode path).length then .error (.system .ENAMETOOLONG)
  else .ok ()

namespace FileTree

def walkPath (tree : FileTree) (here : Place) (aim : WalkAim) (path : String) :
    Except Errno Reached :=
  let text := PathText.ofString path
  walk tree aim linkLimit (if text.absolute then [] else here) text.names text.directory

def locate (tree : FileTree) (here : Place) (aim : WalkAim) (path : String) :
    Except IoFailure Reached :=
  match checkPath path with
  | .error failure => .error failure
  | .ok () => (tree.walkPath here aim path).mapError .system

def status (tree : FileTree) (here : Place) (path : String) : Except IoFailure (Place × Node) :=
  match tree.locate here .target path with
  | .error failure => .error failure
  | .ok (.missing _ _) => .error (.system .ENOENT)
  | .ok (.node place node) => .ok (place, node)

def directoryAt (tree : FileTree) (here : Place) (path : String) : Except IoFailure Place :=
  match tree.status here path with
  | .error failure => .error failure
  | .ok (place, .directory) => .ok place
  | .ok _ => .error (.system .ENOTDIR)

def directoryPath (tree : FileTree) (place : Place) : Except IoFailure String :=
  if tree.isDirectory place then .ok (placeText place) else .error (.system .ENOENT)

def makeDirectory (tree : FileTree) (here : Place) (path : String) : Except IoFailure FileTree :=
  match tree.locate here .entry path with
  | .error failure => .error failure
  | .ok (.node _ _) => .error (.system .EEXIST)
  | .ok (.missing place _) => .ok (tree.put place .directory)

end FileTree

def parentPath? (path : String) : Option String :=
  let text := PathText.ofString path
  let names := text.names.filter (· ≠ ".")
  if names.isEmpty then none
  else
    let parents := joinWith '/' (names.dropLast.map String.toList)
    some (String.ofList (if text.absolute then '/' :: parents else parents))

def joinPath (directory name : String) : String :=
  if name.toList.head? = some '/' ∨ directory = "" then name
  else if directory.toList.getLast? = some '/' then directory ++ name
  else directory ++ "/" ++ name

def settle (tree : FileTree) (here : Place) (path : String) :
    Except IoFailure FileTree → FileTree × Option IoFailure
  | .ok made => (made, none)
  | .error failure =>
    if (tree.directoryAt here path).isOk then (tree, none) else (tree, some failure)

/-- The tree in which the directory of the path exists, its parents made first if they are missing.
What was made before a failure stays. `levels` bounds the number of parents. -/
def makeDirectories (tree : FileTree) (here : Place) :
    Nat → String → FileTree × Option IoFailure
  | 0, _ => (tree, none)
  | levels + 1, path =>
    if path = "" then (tree, none)
    else
      match tree.makeDirectory here path with
      | .error (.system .ENOENT) =>
        match parentPath? path with
        | none => (tree, some (.message "failed to create whole tree"))
        | some parent =>
          match makeDirectories tree here levels parent with
          | (tree, some failure) => (tree, some failure)
          | (tree, none) => settle tree here path (tree.makeDirectory here path)
      | made => settle tree here path made

def FileTree.makeAll (tree : FileTree) (here : Place) (path : String) :
    FileTree × Option IoFailure :=
  makeDirectories tree here (path.length + 1) path

end PipeShell
