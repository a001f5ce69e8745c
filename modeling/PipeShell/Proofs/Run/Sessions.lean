import PipeShell.Proofs.Run.Frame
import PipeShell.Proofs.Run.Turns
import PipeShell.Proofs.System.Writing

/-!
# What becomes of the session

Every builtin does its own kind of thing to the session, and a pipeline that is not a builtin alone
sets the status at most. Main statement: over a whole run the environment changes only at a line
that is a single `cd`, `export` or `unset`, and the shell is told to leave only by a single `exit`.
-/

namespace PipeShell

/-! ## Builtins -/

/-- Variables of valid names were set, and variables were removed, in any order. -/
inductive Environment.Edited (before : Environment) : Environment → Prop where
  | kept : Edited before before
  | set {after : Environment} {name : String} (value : String) :
      Edited before after → isValidName name.toList = true → Edited before (after.set name value)
  | remove {after : Environment} (name : String) :
      Edited before after → Edited before (after.remove name)

inductive Session.ByBuiltin (before : Session) : Builtin → Session → Prop where
  | kept (builtin : Builtin) : ByBuiltin before builtin before
  | edited {builtin : Builtin} {environment : Environment} :
      builtin ∈ [Builtin.cd, .export, .unset] → before.environment.Edited environment →
        ByBuiltin before builtin { before with environment }
  | leaving : ByBuiltin before .exit { before with shouldExit := true }

def Effect.Edits (effect : Effect) (session : Session) : Prop :=
  ∃ environment, session.environment.Edited environment ∧
    effect.session = { session with environment }

namespace Scene

section Editing

variable {effect : Effect} {session : Session}

theorem edits_reject (edits : effect.Edits session) (builtin argument : String) :
    (reject effect builtin argument).Edits session :=
  edits

theorem edits_exportOne (edits : effect.Edits session) (argument : String) :
    (exportOne effect argument).Edits session := by
  simp only [exportOne]
  split
  · rename_i valid
    cases (splitAssignment argument).2 with
    | none => exact edits
    | some value =>
        obtain ⟨environment, edited, same⟩ := edits
        refine ⟨_, .set value edited (by rwa [String.toList_ofList]), ?_⟩
        simp only [mapEnvironment, same]
  · exact edits_reject edits _ _

theorem edits_unsetOne (edits : effect.Edits session) (argument : String) :
    (unsetOne effect argument).Edits session := by
  unfold unsetOne
  split
  · obtain ⟨environment, edited, same⟩ := edits
    refine ⟨_, .remove argument edited, ?_⟩
    simp only [mapEnvironment, same]
  · exact edits_reject edits _ _

theorem edits_foldl {one : Effect → String → Effect}
    (step : ∀ effect argument, effect.Edits session → (one effect argument).Edits session)
    (arguments : List String) (edits : effect.Edits session) :
    (arguments.foldl one effect).Edits session := by
  induction arguments generalizing effect with
  | nil => exact edits
  | cons argument rest ih => exact ih (step effect argument edits)

end Editing

variable (scene : Scene)

theorem edits_still : scene.still.Edits scene.session := ⟨_, .kept, rfl⟩

theorem edits_exportAll (arguments : List String) :
    (scene.exportAll arguments).Edits scene.session := by
  unfold exportAll
  split
  · exact scene.edits_still
  · exact edits_foldl (fun _ argument edits => edits_exportOne edits argument) arguments
      scene.edits_still

theorem edits_unsetAll (arguments : List String) :
    (scene.unsetAll arguments).Edits scene.session :=
  edits_foldl (fun _ argument edits => edits_unsetOne edits argument) arguments scene.edits_still

theorem edited_enter (environment : Environment) (previous : Option String) (current : String) :
    environment.Edited (enter environment previous current) := by
  have pwd : isValidName "PWD".toList = true := by decide
  have oldPwd : isValidName "OLDPWD".toList = true := by decide
  cases previous with
  | none => exact .set current .kept pwd
  | some previous => exact .set current (.set previous .kept oldPwd) pwd

theorem edits_cd (arguments : List String) : (scene.cd arguments).Edits scene.session := by
  unfold cd
  split
  · exact scene.edits_still
  · split
    · exact scene.edits_still
    · exact ⟨_, edited_enter _ _ _, rfl⟩

/-- Every builtin does only its own kind of thing to the session. -/
theorem byBuiltin_effect (builtin : Builtin) (arguments : List String) :
    scene.session.ByBuiltin builtin (scene.effect builtin arguments).session := by
  cases builtin with
  | echo =>
      simp only [effect, echo]
      split <;> exact .kept _
  | cd =>
      obtain ⟨environment, edited, same⟩ := scene.edits_cd arguments
      exact same ▸ .edited (by decide) edited
  | pwd =>
      simp only [effect, pwd]
      split <;> exact .kept _
  | «export» =>
      obtain ⟨environment, edited, same⟩ := scene.edits_exportAll arguments
      exact same ▸ .edited (by decide) edited
  | unset =>
      obtain ⟨environment, edited, same⟩ := scene.edits_unsetAll arguments
      exact same ▸ .edited (by decide) edited
  | env =>
      simp only [effect, env]
      split <;> exact .kept _
  | exit =>
      simp only [effect, exit]
      split
      · exact .leaving
      · split
        · exact .kept _
        · split
          · exact .leaving
          · exact .kept _

end Scene

/-! ## Pipelines -/

section Pipelines

theorem byBuiltin_runBuiltin (scene : Scene) {command : Command} {builtin : Builtin}
    (named : Builtin.ofName? command.program = some builtin) (writer : Writer) :
    scene.session.ByBuiltin builtin (runBuiltin scene command.arguments writer).session := by
  obtain ⟨arguments, redirections⟩ := command
  cases arguments with
  | nil => exact .kept _
  | cons name rest =>
      have known : Builtin.ofName? name = some builtin := named
      simp only [runBuiltin, known, session_print]
      exact scene.byBuiltin_effect builtin rest

theorem byBuiltin_runInShell (world : World) (session : Session) {command : Command}
    {builtin : Builtin} (named : Builtin.ofName? command.program = some builtin) :
    session.ByBuiltin builtin (runInShell world session command).2.1 := by
  unfold runInShell
  split
  · exact .kept _
  · exact byBuiltin_runBuiltin (World.scene _ session) named _
  · exact byBuiltin_runBuiltin (World.scene _ session) named _

/-- What a builtin alone makes of a session: it does its own kind of thing, and sets the status. -/
def Session.ByCommand (before : Session) (command : Command) (after : Session) : Prop :=
  ∃ builtin between status, Builtin.ofName? command.program = some builtin ∧
    before.ByBuiltin builtin between ∧ after = between.setStatus status

def Session.ByPipeline (before : Session) (pipeline : Pipeline) (after : Session) : Prop :=
  before.StatusOnly after ∨
    ∃ command, pipeline = ⟨[command]⟩ ∧ before.ByCommand command after

theorem eq_of_isBuiltinAlone {pipeline : Pipeline} (alone : pipeline.isBuiltinAlone = true) :
    ∃ command builtin, pipeline = ⟨[command]⟩ ∧
      Builtin.ofName? command.program = some builtin := by
  obtain ⟨commands⟩ := pipeline
  unfold Pipeline.isBuiltinAlone at alone
  split at alone
  · rename_i command same
    obtain ⟨builtin, named⟩ := Option.isSome_iff_exists.mp alone
    exact ⟨command, builtin, congrArg Pipeline.mk same, named⟩
  · cases alone

theorem byPipeline_execute [Launching] (world : World) (source : Source) (session : Session)
    (pipeline : Pipeline) :
    session.ByPipeline pipeline (execute world source session pipeline).2.2 := by
  -- Only what runs in the shell itself can do more than set the status.
  cases alone : pipeline.isBuiltinAlone with
  | false =>
      rw [Behaviour.execute_ofCommands]
      exact .inl (Behaviour.execute_forks _ world source session alone).1
  | true =>
      obtain ⟨command, builtin, rfl, named⟩ := eq_of_isBuiltinAlone alone
      have program : isBuiltin command.program = true := alone
      unfold execute
      rw [if_neg (by simp [Pipeline.isEmpty])]
      split
      · exact .inl (.inr ⟨_, rfl⟩)
      · exact .inl (.inr ⟨_, rfl⟩)
      · simp only [runCommands, program, ↓reduceIte]
        exact .inr ⟨command, rfl, builtin, _, _, named, byBuiltin_runInShell _ _ named, rfl⟩

end Pipelines

/-! ## Lines and turns -/

namespace Session.StatusOnly

variable {before middle after : Session}

theorem environment (only : before.StatusOnly after) : after.environment = before.environment := by
  rcases only with rfl | ⟨status, rfl⟩ <;> rfl

theorem shouldExit (only : before.StatusOnly after) : after.shouldExit = before.shouldExit := by
  rcases only with rfl | ⟨status, rfl⟩ <;> rfl

theorem trans (left : before.StatusOnly middle) (right : middle.StatusOnly after) :
    before.StatusOnly after := by
  rcases right with rfl | ⟨status, rfl⟩
  · exact left
  · rcases left with rfl | ⟨_, rfl⟩
    · exact .inr ⟨status, rfl⟩
    · exact .inr ⟨status, rfl⟩

end Session.StatusOnly

/-- What a line makes of a session. -/
def Session.ByLine (before : Session) (line : String) (after : Session) : Prop :=
  before.StatusOnly after ∨
    ∃ command, parseLine before line = .ok ⟨[command]⟩ ∧ before.ByCommand command after

namespace Shell

theorem byLine_handleInput [Launching] (shell : Shell) (line : String) :
    shell.session.ByLine line (shell.handleInput line).session := by
  unfold handleInput
  split
  · exact .inl (.inl rfl)
  · split
    · exact .inl (.inr ⟨_, rfl⟩)
    · rename_i pipeline parsed
      rcases byPipeline_execute shell.world (shell.source.remember line) shell.session pipeline
        with only | ⟨command, rfl, done⟩
      · exact .inl only
      · exact .inr ⟨command, parsed, done⟩

theorem statusOnly_noticeInterrupt (shell : Shell) :
    shell.session.StatusOnly shell.noticeInterrupt.session := by
  rw [noticeInterrupt_eq]
  split
  · exact .inr ⟨_, rfl⟩
  · exact .inl rfl

theorem statusOnly_afterFailure (shell : Shell) (error : ShellError) (failures : Nat) :
    shell.session.StatusOnly (shell.afterFailure error failures).shell.session := by
  obtain ⟨_, _, same | same, after⟩ := shell_afterFailure shell error failures
  · exact .inl (by rw [after, same])
  · exact .inr ⟨_, by rw [after, same]⟩

theorem statusOnly_turn [Launching] {shell : Shell} {failures : Nat}
    (idle : Moment.handling? ⟨shell, failures⟩ = none) :
    shell.session.StatusOnly (shell.turn failures).shell.session := by
  have same := session_readLine shell
  unfold turn
  split
  · rename_i read line reads
    rw [handling?_of_line failures reads] at idle
    cases idle
  · rename_i read reads
    rw [reads] at same
    exact .inr ⟨_, congrArg (Session.setStatus · Status.interrupted) same⟩
  · rename_i read reads
    rw [reads] at same
    exact .inl ((session_sayExit read).trans same)
  · rename_i read error reads
    rw [reads] at same
    exact same ▸ statusOnly_afterFailure read error failures

/-- A turn that hands on a line leaves what its handling makes of the session. -/
theorem session_turn [Launching] {shell : Shell} {failures : Nat} {handling : Handling}
    (hands : Moment.handling? ⟨shell, failures⟩ = some handling) :
    shell.session.StatusOnly handling.shell.session ∧
      (shell.turn failures).shell.session = handling.after.session := by
  constructor
  · rw [(readLine_of_handling hands).2, ← session_readLine shell]
    exact statusOnly_noticeInterrupt _
  · rw [turn_of_handling hands]
    split
    · exact session_sayExit _
    · rfl

end Shell

/-! ## Whole runs -/

/-- The sessions of a run: up to the first line, and from each line to the next or to the end, the
status is set at most. -/
inductive Linked [Launching] : Session → List Handling → Session → Prop where
  | last {first last : Session} : first.StatusOnly last → Linked first [] last
  | line {first last : Session} {handling : Handling} {later : List Handling} :
      first.StatusOnly handling.shell.session → Linked handling.after.session later last →
        Linked first (handling :: later) last

theorem Linked.of_statusOnly [Launching] {first second last : Session} {handlings : List Handling}
    (only : first.StatusOnly second) (linked : Linked second handlings last) :
    Linked first handlings last := by
  cases linked with
  | last more => exact .last (only.trans more)
  | line more later => exact .line (only.trans more) later

namespace Run

variable [Launching] {shell ended : Shell} {failures : Nat} {moments : List Moment}

theorem linked_turn {last : Session} {later : List Moment}
    (linked : Linked (shell.turn failures).shell.session (later.filterMap Moment.handling?) last) :
    Linked shell.session ((⟨shell, failures⟩ :: later).filterMap Moment.handling?) last := by
  cases hands : Moment.handling? ⟨shell, failures⟩ with
  | none =>
      rw [List.filterMap_cons_none hands]
      exact .of_statusOnly (Shell.statusOnly_turn hands) linked
  | some handling =>
      obtain ⟨only, same⟩ := Shell.session_turn hands
      rw [List.filterMap_cons_some hands]
      exact .line only (same ▸ linked)

theorem linked (run : Run shell failures moments ended) :
    Linked shell.session (moments.filterMap Moment.handling?) ended.session := by
  -- The links are put in front one turn at a time, so the induction is from the end.
  induction run with
  | stop stops =>
      apply linked_turn
      rw [stops]
      exact .last (.inl rfl)
  | goOn goes _ ih =>
      apply linked_turn
      rw [goes]
      exact ih

end Run

/-! ## What children keep to themselves -/

def Builtin.name : Builtin → String
  | .echo => "echo"
  | .cd => "cd"
  | .pwd => "pwd"
  | .export => "export"
  | .unset => "unset"
  | .env => "env"
  | .exit => "exit"

theorem name_of_ofName? {name : String} {builtin : Builtin}
    (named : Builtin.ofName? name = some builtin) : name = builtin.name := by
  unfold Builtin.ofName? at named
  split at named <;> cases named <;> rfl

namespace Session.ByLine

variable {before after : Session} {line : String}

theorem environment_changed (made : before.ByLine line after)
    (changed : after.environment ≠ before.environment) :
    ∃ command, parseLine before line = .ok ⟨[command]⟩ ∧
      command.program ∈ ["cd", "export", "unset"] := by
  rcases made with only | ⟨command, parsed, builtin, between, status, named, did, rfl⟩
  · exact absurd only.environment changed
  · refine ⟨command, parsed, ?_⟩
    rw [name_of_ofName? named]
    cases did with
    | kept => exact absurd rfl changed
    | edited one _ => exact List.mem_map.mpr ⟨builtin, one, rfl⟩
    | leaving => exact absurd rfl changed

theorem shouldExit_changed (made : before.ByLine line after)
    (changed : after.shouldExit ≠ before.shouldExit) :
    ∃ command, parseLine before line = .ok ⟨[command]⟩ ∧ command.program = "exit" := by
  rcases made with only | ⟨command, parsed, builtin, between, status, named, did, rfl⟩
  · exact absurd only.shouldExit changed
  · refine ⟨command, parsed, ?_⟩
    cases did with
    | kept => exact absurd rfl changed
    | edited => exact absurd rfl changed
    | leaving => exact name_of_ofName? named

end Session.ByLine

/-- What children do never reaches the shell. However its stages behave, a pipeline that is not a
builtin alone leaves the environment, the mark to leave and the directory as they are; an empty one
does nothing at all. Over a run, the environment thus changes only at a line that is a single `cd`,
`export` or `unset`, and the mark to leave is set only at a line that is a single `exit`; between
lines only the status is set. -/
theorem Behaviour.execute_keeps_shell [Launching] (behaviour : Behaviour) (world : World)
    (source : Source) (session : Session) (shell : Shell) {pipeline : Pipeline}
    (forks : pipeline.isBuiltinAlone = false) :
    let done := behaviour.execute world source session pipeline
    PipeShell.execute world source session pipeline =
      (ofCommands session).execute world source session pipeline ∧
    done.2.2.environment = session.environment ∧
    done.2.2.shouldExit = session.shouldExit ∧
    done.1.process.directory = world.process.directory ∧
    (pipeline.isEmpty = true → done = (world, source, session)) ∧
    Linked shell.session shell.handlings shell.run.session ∧
    ∀ handling ∈ shell.handlings,
      let before := handling.shell.session
      let after := handling.after.session
      (after.environment ≠ before.environment →
        ∃ command, parseLine before handling.line = .ok ⟨[command]⟩ ∧
          command.program ∈ ["cd", "export", "unset"]) ∧
      (after.shouldExit ≠ before.shouldExit →
        ∃ command, parseLine before handling.line = .ok ⟨[command]⟩ ∧
          command.program = "exit") := by
  intro done
  obtain ⟨only, directory⟩ := behaviour.execute_forks world source session forks
  have line (handling : Handling) := handling.shell.byLine_handleInput handling.line
  refine ⟨execute_ofCommands world source session pipeline, only.environment, only.shouldExit,
    directory, ?_, (shell.run_runLoop 0).linked, ?_⟩
  · intro nothing
    simp only [done, execute, nothing, ↓reduceIte]
  · intro handling _
    exact ⟨(line handling).environment_changed, (line handling).shouldExit_changed⟩

def leavingStages : Pipeline :=
  ⟨[{ arguments := ["cd", "/"] }, { arguments := ["export", "A=1"] },
    { arguments := ["exit", "3"] }]⟩

open scoped Launching in
theorem Behaviour.execute_keeps_shell_leavingStages :
    leavingStages.isBuiltinAlone = false ∧
    let session : Session := { environment := ⟨[("HOME", "/home")]⟩ }
    let done :=
      PipeShell.execute { process := { directory := ["home"] } } {} session leavingStages
    done.2.2.environment = ⟨[("HOME", "/home")]⟩ ∧ done.2.2.shouldExit = false ∧
      done.1.process.directory = ["home"] := by
  have forks : leavingStages.isBuiltinAlone = false := by decide
  refine ⟨forks, ?_⟩
  intro session done
  obtain ⟨same, environment, goesOn, stays, _⟩ :=
    (ofCommands session).execute_keeps_shell { process := { directory := ["home"] } } {} session {}
      forks
  have executed : done = _ := same
  rw [executed]
  exact ⟨environment, goesOn, stays⟩

end PipeShell
