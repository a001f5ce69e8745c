import PipeShell.Builtin
import PipeShell.Children
import PipeShell.Heredoc
import PipeShell.Launching
import PipeShell.Lookup
import PipeShell.Plumbing
import PipeShell.Text.Octets

/-!
# Running a pipeline

A single builtin runs in the shell itself. The stages of any other pipeline are children: all are
started before the first of them runs, each from a copy of the shell as it was then, and they run in
the order of the stages. The status is that of the last stage.
-/

namespace PipeShell

def World.fail (world : World) (error : ShellError) : World × Int :=
  (world.report error.message, error.status)

/-! ## Builtins -/

def World.scene (world : World) (session : Session) : Scene :=
  ⟨world.files, world.process.directory, session⟩

def World.settle (world : World) (stream : Stream) (result : BuiltinResult) : World :=
  let delivered := world.deliver stream result.writer.accepted
  let entered :=
    { delivered with process := { delivered.process with directory := result.directory } }
  result.messages.foldl World.report entered

/-- Runs a builtin that prints to a stream of the process. Each builtin has a writer of its own, so
what one could not flush is gone: that standard output would keep it and try it again with the next
flush of the shell is left out. -/
def runBuiltinOn (world : World) (session : Session) (arguments : List String)
    (lineBuffered : Bool) (stream : Stream) : World × Session × Int :=
  let result :=
    runBuiltin (world.scene session) arguments { sink := world.sink stream, lineBuffered }
  (world.settle stream result, result.session, result.status)

def runBuiltinAt (world : World) (session : Session) (arguments : List String)
    (lineBuffered : Bool) (number : Nat) : World × Session × Int :=
  runBuiltinOn world session arguments lineBuffered ((world.stream? number).getD .output)

def runInShell (world : World) (session : Session) (command : Command) :
    World × Session × Int :=
  -- A redirection that fails leaves the builtin out.
  match openInShell world command.redirections with
  | (world, .error error) =>
    let (world, status) := world.fail error
    (world, session, status)
  | (world, .ok none) =>
    runBuiltinAt world session command.arguments true Descriptors.standardOutput
  | (world, .ok (some number)) =>
    let (world, session, status) := runBuiltinAt world session command.arguments false number
    (world.close number, session, status)

/-! ## External programs -/

def hasNul (text : String) : Bool := text.toList.contains '\x00'

def launchError (program : String) (errno : Errno) : ShellError :=
  if errno = .ENOENT then .noSuchFile program
  else if errno = .EACCES then .permissionDenied program
  else .cannotExecute program errno.description

variable [Launching]

def runProgram (world : World) (session : Session) (command : Command) :
    Except ShellError (World × Ending) :=
  let directories := searchDirectories ((session.valueOf? "PATH").getD "")
  match world.files.resolve world.process.directory command.program directories with
  | .error error => .error error
  | .ok path =>
    let unsendable := command.arguments.any hasNul || !session.environment.toArguments.isOk
    if hasNul path || unsendable then .error (.io .nulInData)
    else
      let call : Call :=
        { arguments := command.arguments.map octets
          environment := session.environment.entries.map fun (name, value) =>
            (octets name, octets value) }
      match Launching.launch world (octets path) call with
      | .ok (world, outcome) => .ok (world, outcome.ending)
      | .error errno => .error (launchError command.program errno)

/-! ## Stages -/

def World.failProcess (world : World) (error : ShellError) : World × Ending :=
  let (world, status) := world.fail error
  (world, .ofExit status)

def runCommand (world : World) (session : Session) (command : Command) : World × Ending :=
  if isBuiltin command.program then
    let (world, _, status) :=
      runBuiltinAt world session command.arguments true Descriptors.standardOutput
    (world, .ofExit status)
  else
    match runProgram world session command with
    | .ok ended => ended
    | .error error => world.failProcess error

def runStage (plumbing : Plumbing) (session : Session) (index : Nat) (command : Command)
    (world : World) : World × Ending :=
  match plumbing.wireStage index command world with
  | (world, .error error) => world.failProcess error
  | (world, .ok ()) => runCommand world session command

structure Started where
  index : Nat
  child : Nat
  command : Command
  deriving DecidableEq, Repr

def startStages (world : World) (index : Nat) : List Command → World × List Started × Bool
  -- The last component says whether all could be started.
  | [] => (world, [], true)
  | command :: rest =>
    match world.fork with
    | .error errno =>
      let world := world.log .error s!"fork 失败: {errno.name}: {errno.description}"
      (world.report s!"fork: {errno.description}", [], false)
    | .ok (world, child) =>
      let (world, started, complete) := startStages world (index + 1) rest
      (world, ⟨index, child, command⟩ :: started, complete)

/-- Runs a child from the process it was started from. Its own directory and descriptors end with
it; what it did to the shared part of the world stays. -/
def runChild (plumbing : Plumbing) (session : Session) (origin : Process) (world : World)
    (started : Started) : World :=
  let (ran, ending) :=
    runStage plumbing session started.index started.command
      { world with process := origin.child (World.childNumber started.child) }
  { ran with process := world.process }.recordEnding started.child ending

def runForked (world : World) (session : Session) (commands : List Command)
    (bodies : List (List String)) : World × Int :=
  match Plumbing.lay world commands.length bodies with
  | .error error =>
    let logged := world.log .error s!"创建管道失败: {error.message}"
    (logged.report error.message, Status.failure)
  | .ok (laid, plumbing) =>
    let (forked, started, complete) := startStages laid 0 commands
    let ran := started.foldl (runChild plumbing session laid.process) (plumbing.finish forked)
    let (waited, status) :=
      ran.waitPipeline (started.map fun stage => (stage.index, stage.child)) (commands.length - 1)
    (waited, if complete then status else Status.failure)

/-! ## Pipelines -/

def runCommands (world : World) (session : Session) (commands : List Command)
    (bodies : List (List String)) : World × Session :=
  match commands with
  | [command] =>
    if isBuiltin command.program then
      let (world, session, status) := runInShell world session command
      (world, session.setStatus status)
    else
      let (world, status) := runForked world session commands bodies
      (world, session.setStatus status)
  | _ =>
    let (world, status) := runForked world session commands bodies
    (world, session.setStatus status)

/-- Runs a pipeline. Its here-documents are read first; if that is interrupted or fails, nothing
else happens. -/
def execute (world : World) (source : Source) (session : Session) (pipeline : Pipeline) :
    World × Source × Session :=
  if pipeline.isEmpty then (world, source, session)
  else
    match collectHeredocs session world source pipeline.commands with
    | (world, source, .error error) =>
      let (world, status) := world.fail error
      (world, source, session.setStatus status)
    | (world, source, .ok none) => (world, source, session.setStatus Status.interrupted)
    | (world, source, .ok (some bodies)) =>
      let (world, session) := runCommands world session pipeline.commands bodies
      (world, source, session)

theorem length_execute_le (world : World) (source : Source) (session : Session)
    (pipeline : Pipeline) :
    (execute world source session pipeline).2.1.events.length ≤ source.events.length := by
  have short := length_collectHeredocs_le session world source pipeline.commands
  unfold execute
  split
  · exact Nat.le_refl _
  · split <;> simp_all

end PipeShell
