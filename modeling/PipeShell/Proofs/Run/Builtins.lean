import PipeShell.Proofs.Run.Frame
import PipeShell.Proofs.Run.Wiring
import PipeShell.Proofs.System.Writing

/-!
# Builtins in the shell and in a pipeline

A builtin alone runs in the shell, with a writer of its own if its output goes to a file. As the
last stage of a pipeline it runs in a child, and always prints to standard output. Main statement:
both do the same to the world, and only the first changes the shell.
-/

namespace PipeShell

/-! ## What a builtin does -/

def Scene.effectOf (scene : Scene) : List String → Effect
  | [] => scene.still
  | name :: rest =>
    match Builtin.ofName? name with
    | some builtin => scene.effect builtin rest
    | none => scene.fail (labelled name "not a shell builtin")

/-- What a builtin does if the stream it prints to accepts everything. -/
def World.perform (world : World) (session : Session) (arguments : List String)
    (stream : Stream) : World × Session × Int :=
  let effect := (world.scene session).effectOf arguments
  let printed := world.deliver stream (effect.output.flatMap encode)
  let entered := printed.inProcess (world.process.inDirectory effect.directory)
  (effect.messages.foldl World.report entered, effect.session, effect.status)

theorem runBuiltin_accepted (scene : Scene) (arguments : List String) (lineBuffered : Bool) :
    ∃ writer : Writer, writer.accepted = (scene.effectOf arguments).output.flatMap encode ∧
      runBuiltin scene arguments { lineBuffered } =
        { session := (scene.effectOf arguments).session
          directory := (scene.effectOf arguments).directory
          messages := (scene.effectOf arguments).messages
          status := (scene.effectOf arguments).status, writer } := by
  cases arguments with
  | nil => exact ⟨_, rfl, rfl⟩
  | cons name rest => exact Effect.print_accepted _ name lineBuffered

namespace World

variable (world : World) (session : Session) (arguments : List String)

/-- Whether lines are held back does not matter. -/
theorem runBuiltinOn_eq (lineBuffered : Bool) {stream : Stream}
    (accepts : world.sink stream = {}) :
    runBuiltinOn world session arguments lineBuffered stream =
      world.perform session arguments stream := by
  obtain ⟨writer, accepted, result⟩ :=
    runBuiltin_accepted (world.scene session) arguments lineBuffered
  simp only [runBuiltinOn, accepts, result, settle, accepted, process_deliver]
  rfl

theorem process_perform (stream : Stream) :
    (world.perform session arguments stream).1.process =
      world.process.inDirectory ((world.scene session).effectOf arguments).directory := by
  simp only [perform, process_foldl_report, process_inProcess]

theorem perform_inProcess {process : Process} (stream : Stream)
    (here : process.directory = world.process.directory)
    (same : process.descriptors.stream? Descriptors.standardError =
      world.stream? Descriptors.standardError) :
    (world.inProcess process).perform session arguments stream =
      ((world.perform session arguments stream).1.inProcess
          (process.inDirectory ((world.scene session).effectOf arguments).directory),
        (world.perform session arguments stream).2) := by
  have scene : (world.inProcess process).scene session = world.scene session := by
    simp [World.scene, here]
  simp only [perform, scene, deliver_inProcess, process_inProcess, inProcess_inProcess]
  rw [← foldl_report_inProcess]
  · rw [inProcess_inProcess]
  · exact same

end World

def Trial.runBuiltin (trial : Trial) (session : Session) (arguments : List String)
    (standardOutput : Stream) : World × Session × Int :=
  match trial.failure? with
  | some error => (trial.world.report error.message, session, error.status)
  | none => trial.world.perform session arguments (trial.output?.getD standardOutput)

/-- The stream that output of the builtin goes to accepts everything. -/
def Trial.Accepts (trial : Trial) (standardOutput : Stream) : Prop :=
  trial.failure? = none → trial.world.sink (trial.output?.getD standardOutput) = {}

/-! ## In the shell -/

/-- A stream that is opened for the builtin and let go of afterwards leaves no trace. -/
theorem runBuiltinAt_placed (world : World) (session : Session) (arguments : List String)
    (lineBuffered : Bool) {number : Nat} {stream : Stream}
    (standard : world.process.descriptors.Standard) (free : world.stream? number = none)
    (accepts : world.sink stream = {}) :
    let ran := runBuiltinAt (world.mapDescriptors (·.place number stream)) session arguments
      lineBuffered number
    (ran.1.close number, ran.2) = world.perform session arguments stream := by
  intro ran
  have large := standard.three_le_of_free free
  have open_ : (world.mapDescriptors (·.place number stream)).stream? number = some stream := by
    rw [World.stream?, World.mapDescriptors_eq, World.process_inProcess,
      Process.descriptors_withDescriptors, Descriptors.stream?_place, if_pos rfl]
  have sink : (world.mapDescriptors (·.place number stream)).sink stream = {} := by
    rw [World.mapDescriptors_eq, World.sink_inProcess, accepts]
  have errors := world.process.descriptors.sameStandard_place stream large
    Descriptors.standardError (by decide)
  have performed := world.perform_inProcess session arguments stream
    (Process.directory_withDescriptors _ (world.process.descriptors.place number stream)) errors
  rw [← World.mapDescriptors_eq world (·.place number stream),
    ← World.runBuiltinOn_eq _ _ _ lineBuffered sink] at performed
  simp only [ran, runBuiltinAt, open_, Option.getD_some]
  rw [performed, World.close_inProcess, Process.descriptors_inDirectory,
    Process.descriptors_withDescriptors, Descriptors.close_place _ number stream free,
    Process.inDirectory_withDescriptors, Process.withDescriptors_withDescriptors,
    Process.withDescriptors_self, ← World.process_perform world session arguments stream,
    World.inProcess_self]

theorem runInShell_eq (world : World) (session : Session) (command : Command)
    (standard : world.process.descriptors.Standard) (room : world.HasRoom 2)
    (accepts : (tryTargets world command.redirections).Accepts
      ((world.stream? Descriptors.standardOutput).getD .output)) :
    runInShell world session command =
      (tryTargets world command.redirections).runBuiltin session command.arguments
        ((world.stream? Descriptors.standardOutput).getD .output) := by
  obtain ⟨number, free, opened⟩ := openInShell_eq command.redirections room
  have process := process_tryTargets world command.redirections
  unfold runInShell Trial.runBuiltin
  rw [opened]
  generalize tryTargets world command.redirections = trial at accepts process
  cases failed : trial.failure? with
  | some error => simp only [Trial.inShell, failed, World.fail]
  | none =>
      have sink := accepts failed
      cases output : trial.output? with
      | none =>
          have stream : trial.world.stream? Descriptors.standardOutput =
            world.stream? Descriptors.standardOutput := by rw [World.stream?, process]; rfl
          rw [output, Option.getD_none] at sink
          simp only [Trial.inShell, failed, output, runBuiltinAt, stream, Option.getD_none]
          exact World.runBuiltinOn_eq _ _ _ true sink
      | some last =>
          rw [output, Option.getD_some] at sink
          simp only [Trial.inShell, failed, output, Option.getD_some]
          exact runBuiltinAt_placed _ _ _ false (by rwa [process])
            (by rw [World.stream?, process]; exact free) sink

/-! ## In a pipeline -/

theorem runStage_eq [Launching] (world : World) (session : Session) {plumbing : Plumbing}
    {index : Nat} {command : Command} (isBuiltin : isBuiltin command.program = true)
    (last : plumbing.pipes[index]? = none) (large : ∀ number ∈ plumbing.numbers, 3 ≤ number)
    (standard : world.process.descriptors.Standard) (room : world.HasRoom 1)
    (accepts : (tryTargets world command.redirections).Accepts
      ((world.stream? Descriptors.standardOutput).getD .output)) :
    let ran := (tryTargets world command.redirections).runBuiltin session command.arguments
      ((world.stream? Descriptors.standardOutput).getD .output)
    ∃ process, runStage plumbing session index command world =
      (ran.1.inProcess process, .ofExit ran.2.2) := by
  intro ran
  obtain ⟨after, wires, wired⟩ := Plumbing.applied_wireStage last large room standard command
  have process := process_tryTargets world command.redirections
  unfold runStage
  rw [wired]
  simp only [ran, Trial.runBuiltin, Trial.outcome]
  generalize tryTargets world command.redirections = trial at accepts process wires
  have errors : after.stream? Descriptors.standardError =
      trial.world.stream? Descriptors.standardError := by
    rw [World.stream?, process, wires.errors]
  cases failed : trial.failure? with
  | some error =>
      have reported : (trial.world.inProcess
          (trial.world.process.withDescriptors after)).report error.message = _ :=
        trial.world.report_inProcess errors error.message
      exact ⟨_, congrArg (·, Ending.ofExit error.status) reported⟩
  | none =>
      -- The wiring made the last output target, if there is one, the standard output.
      have output := wires.output failed
      have sink := accepts failed
      have stream : (after.stream? Descriptors.standardOutput).getD .output =
          trial.output?.getD ((world.stream? Descriptors.standardOutput).getD .output) := by
        rw [output]
        cases trial.output? <;> rfl
      rw [← stream] at sink ⊢
      have performed := trial.world.perform_inProcess session command.arguments
        ((after.stream? Descriptors.standardOutput).getD .output)
        (Process.directory_withDescriptors trial.world.process after) errors
      rw [← World.runBuiltinOn_eq _ _ _ true (by rwa [World.sink_inProcess])] at performed
      refine ⟨(trial.world.process.withDescriptors after).inDirectory
        ((trial.world.scene session).effectOf command.arguments).directory, ?_⟩
      simp only [runCommand, isBuiltin, ↓reduceIte, runBuiltinAt]
      exact congrArg (fun done => (done.1, Ending.ofExit done.2.2)) performed

/-- What becomes of a builtin does not depend on the process, apart from the process itself. -/
theorem Trial.runBuiltin_inProcess (trial : Trial) (session : Session) (arguments : List String)
    (standardOutput : Stream) {process : Process}
    (here : process.directory = trial.world.process.directory)
    (same : process.descriptors.stream? Descriptors.standardError =
      trial.world.stream? Descriptors.standardError) :
    ∃ after, (trial.mapWorld (·.inProcess process)).runBuiltin session arguments standardOutput =
      ((trial.runBuiltin session arguments standardOutput).1.inProcess after,
        (trial.runBuiltin session arguments standardOutput).2) := by
  unfold runBuiltin
  simp only [failure?_mapWorld, output?_mapWorld, world_mapWorld]
  cases trial.failure? with
  | some error =>
      refine ⟨process, ?_⟩
      simp only [trial.world.report_inProcess same]
  | none => exact ⟨_, trial.world.perform_inProcess session arguments _ here same⟩

/-- The last stage does what becomes of the builtin in any other process of the same directory and
the same standard streams. -/
theorem runStage_inProcess [Launching] (world : World) (session : Session) {process : Process}
    {plumbing : Plumbing} {index : Nat} {command : Command}
    (here : process.directory = world.process.directory)
    (same : world.process.descriptors.SameStandard process.descriptors)
    (isBuiltin : isBuiltin command.program = true)
    (last : plumbing.pipes[index]? = none) (large : ∀ number ∈ plumbing.numbers, 3 ≤ number)
    (standard : world.process.descriptors.Standard) (room : (world.inProcess process).HasRoom 1)
    (accepts : (tryTargets world command.redirections).Accepts
      ((world.stream? Descriptors.standardOutput).getD .output)) :
    let ran := (tryTargets world command.redirections).runBuiltin session command.arguments
      ((world.stream? Descriptors.standardOutput).getD .output)
    ∃ after, runStage plumbing session index command (world.inProcess process) =
      (ran.1.inProcess after, .ofExit ran.2.2) := by
  intro ran
  have output : (world.inProcess process).stream? Descriptors.standardOutput =
      world.stream? Descriptors.standardOutput := same _ (by decide)
  have trial := tryTargets_inProcess world here command.redirections
  have untouched := process_tryTargets world command.redirections
  have acceptsToo : (tryTargets (world.inProcess process) command.redirections).Accepts
      (((world.inProcess process).stream? Descriptors.standardOutput).getD .output) := by
    rw [trial, output]
    intro fine
    rw [Trial.world_mapWorld, World.sink_inProcess]
    exact accepts fine
  obtain ⟨after, staged⟩ :=
    runStage_eq _ session isBuiltin last large (standard.of_same same) room acceptsToo
  have sameDirectory : process.directory =
      (tryTargets world command.redirections).world.process.directory := by rw [untouched, here]
  have sameErrors : process.descriptors.stream? Descriptors.standardError =
      (tryTargets world command.redirections).world.stream? Descriptors.standardError := by
    rw [World.stream?, untouched]
    exact same _ (by decide)
  obtain ⟨left, moved⟩ := (tryTargets world command.redirections).runBuiltin_inProcess session
    command.arguments ((world.stream? Descriptors.standardOutput).getD .output) sameDirectory
    sameErrors
  rw [output, trial, moved] at staged
  exact ⟨after, staged⟩

theorem Trial.descriptors_runBuiltin (trial : Trial) (session : Session)
    (arguments : List String) (standardOutput : Stream) :
    (trial.runBuiltin session arguments standardOutput).1.process.descriptors =
      trial.world.process.descriptors := by
  unfold runBuiltin
  split
  · rw [World.process_report]
  · rw [World.process_perform, Process.descriptors_inDirectory]

/-! ## Agreement -/

/-- A builtin does the same alone in the shell and in the child of the last stage of a larger
pipeline, whatever the other stages have done so far: the same targets are opened in the same order
up to the same failure, which is reported with the same message and status; otherwise the same bytes
go to the file of the last output redirection, or else to standard output, and the same messages to
standard error. The world is the same afterwards, but a child keeps its directory and its variables
to itself, and ends with the low eight bits of the status. What is printed to has to accept it, and
there has to be room for one more number next to those of the pipes. -/
theorem runChild_agrees [Launching] {shell laid : World} {plumbing : Plumbing}
    {front : List Command} {bodies : List (List String)} (now : World) (session : Session)
    (command : Command) (child : Nat) (larger : front ≠ [])
    (lays : Plumbing.lay shell (front ++ [command]).length bodies = .ok (laid, plumbing))
    (isBuiltin : isBuiltin command.program = true)
    (standard : shell.process.descriptors.Standard)
    (room : (now.inProcess laid.process).HasRoom 1) :
    let alone := now.inProcess shell.process
    let forked := now.inProcess (laid.process.child (World.childNumber child))
    let trial := tryTargets alone command.redirections
    let standardOutput := (alone.stream? Descriptors.standardOutput).getD .output
    trial.Accepts standardOutput →
    let ran := runInShell alone session command
    trial.Follows (command.redirections.filter (·.operator ≠ .heredoc)) ∧
    tryTargets forked command.redirections = trial.mapWorld (·.inProcess forked.process) ∧
    ran = trial.runBuiltin session command.arguments standardOutput ∧
    runChild plumbing session laid.process now ⟨front.length, child, command⟩ =
      (ran.1.inProcess now.process).recordEnding child (.ofExit ran.2.2) ∧
    ran.1.process.descriptors = shell.process.descriptors ∧
    let piped := runCommands shell session (front ++ [command]) bodies
    (∃ status, piped.2 = session.setStatus status) ∧
      piped.1.process.directory = shell.process.directory := by
  intro alone forked trial standardOutput accepts ran
  obtain ⟨⟨count, opened⟩, length, large⟩ := Plumbing.opened_lay standard lays
  have stages : (front ++ [command]).length - 1 = front.length := by simp
  have several : 2 ≤ (front ++ [command]).length := by
    have := List.length_pos_iff.mpr larger
    simp only [List.length_append, List.length_singleton]
    omega
  have here : forked.process.directory = alone.process.directory := opened.directory
  -- The pipes took more numbers than the shell needs for itself.
  have roomAlone : alone.HasRoom 2 := by
    refine World.HasRoom.mono room rfl ?_
    have more := opened.length
    simp only [alone, World.process_inProcess]
    omega
  have alike : ran = trial.runBuiltin session command.arguments standardOutput :=
    runInShell_eq alone session command standard roomAlone accepts
  refine ⟨follows_tryTargets _ _, tryTargets_inProcess alone here command.redirections, alike,
    ?_, ?_, runCommands_several shell session bodies several⟩
  · obtain ⟨after, staged⟩ := runStage_inProcess alone session here opened.standard isBuiltin
      (List.getElem?_eq_none (Nat.le_of_eq (length.trans stages))) large standard room accepts
    let stage := runStage plumbing session front.length command (alone.inProcess forked.process)
    have unfolded : runChild plumbing session laid.process now ⟨front.length, child, command⟩ =
        (stage.1.inProcess now.process).recordEnding child stage.2 := rfl
    rw [unfolded, alike]
    simp only [stage, staged]
    rfl
  · rw [alike, trial.descriptors_runBuiltin, process_tryTargets]
    rfl

def shellWithLog : World := { files := ⟨[(["log"], .file (encode "old\n") {})]⟩ }

def pipedShellWithLog : World :=
  { shellWithLog with
    process := { descriptors :=
      ⟨[(4, .pipeWriter 0), (3, .pipeReader 0), (0, .input), (1, .output), (2, .errors)]⟩ }
    pipes := [[]] }

def echoToLog : Command :=
  { arguments := ["echo", "hi"]
    redirections := [{ operator := .output, target := "new" },
      { operator := .append, target := "log" }] }

def shellWithNew : World :=
  shellWithLog.withOpenFile ⟨[(["log"], .file (encode "old\n") {}), (["new"], .file [] {})]⟩
    { home := .named ["new"], mode := .overwrite }

def shellWithBoth : World :=
  shellWithNew.withOpenFile shellWithNew.files { home := .named ["log"], mode := .append }

open scoped Launching in
theorem runChild_agrees_echoToLog :
    [({ arguments := ["cat"] } : Command)] ≠ [] ∧
    Plumbing.lay shellWithLog 2 [[], []] =
      .ok (pipedShellWithLog, { pipes := [(3, 4)], heredocs := [[], []] }) ∧
    isBuiltin echoToLog.program = true ∧
    shellWithLog.process.descriptors.Standard ∧
    (shellWithLog.inProcess pipedShellWithLog.process).HasRoom 1 ∧
    (tryTargets shellWithLog echoToLog.redirections).Accepts .output ∧
    let ran := runChild { pipes := [(3, 4)], heredocs := [[], []] } {} pipedShellWithLog.process
      shellWithLog ⟨1, 7, echoToLog⟩
    ran.files = ⟨[(["log"], .file (encode "old\nhi\n") {}), (["new"], .file [] {})]⟩ ∧
      ran.endings = [(7, .exited 0)] := by
  have made : tryTarget shellWithLog { operator := .output, target := "new" } =
      .ok shellWithNew := by
    unfold tryTarget World.openFile FileTree.walkPath walk
    rfl
  have found : tryTarget shellWithNew { operator := .append, target := "log" } =
      .ok shellWithBoth := by
    unfold tryTarget World.openFile FileTree.walkPath walk
    rfl
  have trial : tryTargets shellWithLog echoToLog.redirections =
      ⟨shellWithBoth, [⟨{ operator := .output, target := "new" }, .ok (.file 0)⟩,
        ⟨{ operator := .append, target := "log" }, .ok (.file 1)⟩]⟩ := by
    rw [echoToLog, tryTargets_opened (by decide) made, tryTargets_opened (by decide) found]
    rfl
  have larger : [({ arguments := ["cat"] } : Command)] ≠ [] := List.cons_ne_nil _ _
  have lays : Plumbing.lay shellWithLog 2 [[], []] =
      .ok (pipedShellWithLog, { pipes := [(3, 4)], heredocs := [[], []] }) := by rfl
  have standard : shellWithLog.process.descriptors.Standard := by
    unfold Descriptors.Standard
    decide
  have room : (shellWithLog.inProcess pipedShellWithLog.process).HasRoom 1 := by
    intro limit found
    cases found
  have accepts : (tryTargets shellWithLog echoToLog.redirections).Accepts .output := by
    rw [trial]
    intro _
    rfl
  obtain ⟨_, _, alike, agrees, _⟩ :=
    runChild_agrees shellWithLog {} echoToLog 7 larger lays (by decide) standard room accepts
  refine ⟨larger, lays, by decide, standard, room, accepts, ?_⟩
  intro ran
  have result : ran = _ := agrees
  rw [result, alike, World.inProcess_self, trial]
  decide +kernel

end PipeShell
