import PipeShell.Name
import PipeShell.System.Descriptors
import PipeShell.System.Ending
import PipeShell.System.PathWalk
import PipeShell.System.Writer

/-!
# The world a shell runs in

One value holds what the shell and its children share (files, pipes, the two output streams, ended
children) and what belongs to the running process alone (its directory, its descriptors and its
log). A child is a run from a copy; afterwards the parent takes back its own part.
-/

namespace PipeShell

/-- How a file is opened. One to be replaced is emptied, what is added goes to its end whatever the
position is, `update` reads and writes it as it stands, and `create` refuses one that is there. -/
inductive OpenMode where
  | read
  | overwrite
  | append
  | update
  | create
  deriving DecidableEq, Repr

namespace OpenMode

def reads (mode : OpenMode) : Bool := mode = .read || mode = .update

def writes (mode : OpenMode) : Bool := mode ≠ .read

end OpenMode

/-- Where the content of an open file is: at its place in the tree, or, once its name was removed,
among the nodes without a name. -/
inductive FileHome where
  | named (place : Place)
  | unnamed (index : Nat)
  deriving DecidableEq, Repr

structure OpenFile where
  home : FileHome
  mode : OpenMode := .read
  position : Nat := 0
  deriving DecidableEq, Repr

inductive LogLevel where
  | error
  | warn
  | info
  | debug
  | trace
  deriving DecidableEq, Repr

/-- Where log records go: those up to the threshold to an open file, and to standard error on
demand. Each record is stamped with the process and the time. Records of the levels `debug` and
`trace` are not modelled, and the threshold of a log that is opened is `info` at most. -/
structure Journal where
  file : Nat
  threshold : LogLevel
  echo : Bool
  process : String
  time : String
  deriving DecidableEq, Repr

/-- What a process has of its own. Streams that its ancestors keep open are `held`; the ancestors
wait for it, the nearest first. The log is that of the shell, which its children know as well. -/
structure Process where
  directory : Place := []
  descriptors : Descriptors := {}
  held : List Stream := []
  number : Nat := 100
  ancestors : List Nat := []
  journal : Option Journal := none
  deriving DecidableEq, Repr

def Process.child (process : Process) (number : Nat) : Process :=
  { process with
    held := process.descriptors.streams ++ process.held, number
    ancestors := process.number :: process.ancestors }

/-- `children` counts the processes started so far, and `signals` were sent to processes that wait
for another one. Where a limit is reached the system answers with the error beside it, which may be
any, since what else it can be short of is not modelled. -/
structure World where
  files : FileTree := {}
  process : Process := {}
  openFiles : List OpenFile := []
  unnamed : List Node := []
  pipes : List Bytes := []
  output : Bytes := []
  errors : Bytes := []
  endings : List (Nat × Ending) := []
  children : Nat := 0
  signals : List (Nat × Nat) := []
  descriptorLimit : Option Nat := none
  descriptorErrno : Errno := .EMFILE
  processLimit : Option Nat := none
  processErrno : Errno := .EAGAIN
  deriving DecidableEq, Repr

def overwriteAt (content : Bytes) (position : Nat) (bytes : Bytes) : Bytes :=
  content.take position ++ List.replicate (position - content.length) 0 ++ bytes ++
    content.drop (position + bytes.length)

namespace World

def childNumber (child : Nat) : Nat := child + 101

def currentDirectory (world : World) : Except IoFailure String :=
  world.files.directoryPath world.process.directory

def mapDescriptors (world : World) (change : Descriptors → Descriptors) : World :=
  { world with
    process := { world.process with descriptors := change world.process.descriptors } }

def close (world : World) (number : Nat) : World :=
  world.mapDescriptors (·.close number)

def stream? (world : World) (number : Nat) : Option Stream :=
  world.process.descriptors.stream? number

def openStream (world : World) (stream : Stream) : Except Errno (World × Nat) :=
  let number := world.process.descriptors.lowestFree
  if world.descriptorLimit.any (· ≤ number) then .error world.descriptorErrno
  else .ok (world.mapDescriptors (·.place number stream), number)

def openPipe (world : World) : Except Errno (World × Nat × Nat) := do
  let pipe := world.pipes.length
  let (world, reader) ← world.openStream (.pipeReader pipe)
  let (world, writer) ← world.openStream (.pipeWriter pipe)
  return ({ world with pipes := world.pipes ++ [[]] }, reader, writer)

/-! ## Files -/

def prepareFile (files : FileTree) (mode : OpenMode) : Reached → Except Errno (FileTree × Place)
  | .missing place directory =>
    if mode = .read then .error .ENOENT
    else if directory then .error .EISDIR
    else .ok (files.put place (.file [] {}), place)
  | .node place node =>
    if mode = .create then .error .EEXIST
    else
      match node with
      | .directory => if mode = .read then .ok (files, place) else .error .EISDIR
      | .file _ permissions =>
        if mode.reads && !permissions.read || mode.writes && !permissions.write then
          .error .EACCES
        else if mode = .overwrite then .ok (files.put place (.file [] permissions), place)
        else .ok (files, place)
      | .device _ => .ok (files, place)
      | _ => if mode = .read then .ok (files, place) else .error .EACCES

/-- Nothing is created or changed under a name that ends in a slash, whether it is there or not. -/
def OpenMode.aim (mode : OpenMode) : WalkAim := if mode = .read then .target else .writing

def openPlace (world : World) (mode : OpenMode) (path : String) :
    Except Errno (World × Nat) := do
  let (opened, number) ← world.openStream (.file world.openFiles.length)
  let reached ← world.files.walkPath world.process.directory (OpenMode.aim mode) path
  let (files, place) ← prepareFile world.files mode reached
  return ({ opened with
    files, openFiles := world.openFiles ++ [{ home := .named place, mode }] }, number)

def openPath (world : World) (mode : OpenMode) (path : String) :
    Except IoFailure (World × Nat) :=
  match checkPath path with
  | .error failure => .error failure
  | .ok () => (world.openPlace mode path).mapError .system

def nodeOf? (world : World) (file : OpenFile) : Option Node :=
  match file.home with
  | .named place => world.files.node? place
  | .unnamed index => world.unnamed[index]?

def putNode (world : World) (file : OpenFile) (node : Node) : World :=
  match file.home with
  | .named place => { world with files := world.files.put place node }
  | .unnamed index => { world with unnamed := world.unnamed.set index node }

def detach (world : World) (place : Place) : World :=
  match world.files.node? place with
  | none => world
  | some node =>
    { world with
      unnamed := world.unnamed ++ [node]
      openFiles := world.openFiles.map fun file =>
        if file.home = .named place then { file with home := .unnamed world.unnamed.length }
        else file }

def openBelow (world : World) (place : Place) : List Place :=
  (world.openFiles.filterMap fun file =>
    match file.home with
    | .named known => if place.isPrefixOf known then some known else none
    | .unnamed _ => none).eraseDups

def unlink (world : World) (place : Place) : World :=
  -- Who has one of the files open keeps it.
  let detached := (world.openBelow place).foldl detach world
  { detached with files := detached.files.remove place }

def isBusy (world : World) (place : Place) : Bool :=
  (world.process.descriptors.streams ++ world.process.held).any fun stream =>
    match stream with
    | .file index =>
      world.openFiles[index]?.any fun file => file.mode.writes && file.home = .named place
    | _ => false

/-! ## Streams -/

def sink (world : World) : Stream → Sink
  | .file index =>
    match world.openFiles[index]? with
    | some file =>
      if !file.mode.writes then { writeFailure := some (.system .EBADF) }
      else if world.nodeOf? file = some (.device .full) then
        { writeFailure := some (.system .ENOSPC) }
      else {}
    | none => {}
  | .input | .pipeReader _ => { writeFailure := some (.system .EBADF) }
  | _ => {}

def writeFile (world : World) (index : Nat) (file : OpenFile) (bytes : Bytes) : World :=
  match world.nodeOf? file with
  | some (.file content permissions) =>
    let position := if file.mode = .append then content.length else file.position
    let written := world.putNode file (.file (overwriteAt content position bytes) permissions)
    { written with
      openFiles := world.openFiles.set index { file with position := position + bytes.length } }
  | _ => world

def deliver (world : World) (stream : Stream) (bytes : Bytes) : World :=
  match stream with
  | .input => world
  | .output => { world with output := world.output ++ bytes }
  | .errors => { world with errors := world.errors ++ bytes }
  | .pipeReader _ => world
  | .pipeWriter pipe =>
    { world with pipes := world.pipes.set pipe (world.pipes.getD pipe [] ++ bytes) }
  | .file index =>
    match world.openFiles[index]? with
    | some file => world.writeFile index file bytes
    | none => world

/-- What can still be read from a stream. An endless device has no end to be read to; `wanted` says
how much of it is asked for. -/
def readable (world : World) (wanted : Nat) (stream : Stream) : Except Errno Bytes :=
  match stream with
  | .pipeReader pipe => .ok (world.pipes.getD pipe [])
  | .file index =>
    match world.openFiles[index]? with
    | some file =>
      if !file.mode.reads then .error .EBADF
      else
        match world.nodeOf? file with
        | some (.file content _) => .ok (content.drop file.position)
        | some .directory => .error .EISDIR
        | some (.device .full) => .ok (List.replicate wanted 0)
        | _ => .ok []
    | none => .ok []
  | .input => .ok []
  | .pipeWriter _ => .error .EBADF
  | .output | .errors => .ok []

def advance (world : World) (stream : Stream) (count : Nat) : World :=
  match stream with
  | .pipeReader pipe =>
    { world with pipes := world.pipes.set pipe ((world.pipes.getD pipe []).drop count) }
  | .file index =>
    match world.openFiles[index]? with
    | some file =>
      { world with
        openFiles := world.openFiles.set index { file with position := file.position + count } }
    | none => world
  | _ => world

def drain (world : World) (stream : Stream) : World × Except Errno Bytes :=
  match world.readable 0 stream with
  | .ok content => (world.advance stream content.length, .ok content)
  | .error errno => (world, .error errno)

def write (world : World) (number : Nat) (bytes : Bytes) : World × Option IoFailure :=
  match world.stream? number with
  | none => (world, some (.system .EBADF))
  | some stream =>
    let (writer, failure) := ({ sink := world.sink stream : Writer }).send bytes
    (world.deliver stream writer.accepted, failure)

/-- One line on standard error, which is assumed to take it: a shell whose standard error refuses
what it is told would end at once. No redirection concerns standard error, so it takes everything if
it did so when the shell was started. -/
def complain (world : World) (line : String) : World :=
  (world.write Descriptors.standardError (encode (line ++ "\n"))).1

def report (world : World) (message : String) : World :=
  world.complain (s!"{shellName}: " ++ message)

end World

end PipeShell
