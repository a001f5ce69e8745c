import PipeShell.Execution

/-!
# Stages of any behaviour

What a stage does in its own process is a parameter here: it may do anything to what processes
share and end in any way, be it with a status, by a signal or lost to the shell. Main statement: a
pipeline is executed by the behaviour that runs the commands of its stages.
-/

namespace PipeShell

/-- What a stage does in its own process, and how that ends. -/
abbrev Behaviour := Plumbing → Nat → Command → World → World × Ending

/-- One stage whose program is a builtin. Only such a pipeline runs in the shell itself. -/
def Pipeline.isBuiltinAlone (pipeline : Pipeline) : Bool :=
  match pipeline.commands with
  | [command] => isBuiltin command.program
  | _ => false

namespace Behaviour

variable [Launching]

def ofCommands (session : Session) : Behaviour := fun plumbing => runStage plumbing session

variable (behaviour : Behaviour)

def runChild (plumbing : Plumbing) (origin : Process) (world : World) (started : Started) :
    World :=
  let (ran, ending) :=
    behaviour plumbing started.index started.command
      { world with process := origin.child (World.childNumber started.child) }
  { ran with process := world.process }.recordEnding started.child ending

def runForked (world : World) (commands : List Command) (bodies : List (List String)) :
    World × Int :=
  match Plumbing.lay world commands.length bodies with
  | .error error =>
    let logged := world.log .error s!"创建管道失败: {error.message}"
    (logged.report error.message, Status.failure)
  | .ok (laid, plumbing) =>
    let (forked, started, complete) := startStages laid 0 commands
    let ran :=
      started.foldl (behaviour.runChild plumbing laid.process) (plumbing.finish forked)
    let (waited, status) :=
      ran.waitPipeline (started.map fun stage => (stage.index, stage.child)) (commands.length - 1)
    (waited, if complete then status else Status.failure)

def runCommands (world : World) (session : Session) (commands : List Command)
    (bodies : List (List String)) : World × Session :=
  if Pipeline.isBuiltinAlone ⟨commands⟩ then PipeShell.runCommands world session commands bodies
  else
    let (world, status) := behaviour.runForked world commands bodies
    (world, session.setStatus status)

/-- Executes a pipeline whose stages, unless it runs in the shell, behave in this way. -/
def execute (world : World) (source : Source) (session : Session) (pipeline : Pipeline) :
    World × Source × Session :=
  if pipeline.isEmpty then (world, source, session)
  else
    match collectHeredocs session world source pipeline.commands with
    | (world, source, .error error) =>
      let (world, status) := world.fail error
      (world, source, session.setStatus status)
    | (world, source, .ok none) => (world, source, session.setStatus Status.interrupted)
    | (world, source, .ok (some bodies)) =>
      let (world, session) := behaviour.runCommands world session pipeline.commands bodies
      (world, source, session)

theorem runCommands_ofCommands (session : Session) (world : World) (commands : List Command)
    (bodies : List (List String)) :
    PipeShell.runCommands world session commands bodies =
      (ofCommands session).runCommands world session commands bodies := by
  unfold runCommands
  split
  · rfl
  · rename_i several
    unfold PipeShell.runCommands
    split
    · rw [if_neg (by simpa [Pipeline.isBuiltinAlone] using several)]
      rfl
    · rfl

/-- A pipeline is executed by stages that run their commands. -/
theorem execute_ofCommands (world : World) (source : Source) (session : Session)
    (pipeline : Pipeline) :
    PipeShell.execute world source session pipeline =
      (ofCommands session).execute world source session pipeline := by
  unfold PipeShell.execute execute
  by_cases nothing : pipeline.isEmpty = true
  · rw [if_pos nothing, if_pos nothing]
  · rw [if_neg nothing, if_neg nothing]
    rcases collectHeredocs session world source pipeline.commands with
      ⟨read, left, (error | (_ | bodies))⟩
    · rfl
    · rfl
    · exact congrArg (fun done => (done.1, left, done.2))
        (runCommands_ofCommands session read pipeline.commands bodies)

/-- With its here-documents read, a pipeline that does not run in the shell is forked. -/
theorem execute_forked {world read : World} {source left : Source} {session : Session}
    {pipeline : Pipeline} {bodies : List (List String)} (nonempty : pipeline.isEmpty = false)
    (forks : pipeline.isBuiltinAlone = false)
    (collected : collectHeredocs session world source pipeline.commands =
      (read, left, .ok (some bodies))) :
    behaviour.execute world source session pipeline =
      let (after, status) := behaviour.runForked read pipeline.commands bodies
      (after, left, session.setStatus status) := by
  unfold execute
  rw [if_neg (by simp [nonempty]), collected]
  simp only [runCommands, forks, Bool.false_eq_true, ↓reduceIte]

end Behaviour

end PipeShell
