import PipeShell.Proofs.Run.Behaviours
import PipeShell.Proofs.Run.Pipes
import PipeShell.Proofs.System.Undisturbed

/-!
# What children leave of the shell

Children run in processes of their own, and here-documents are only read. Main statement: however
its stages behave, a pipeline of children leaves the shell in its directory, and of its session only
the exit status changes.
-/

namespace PipeShell

namespace World

variable (world : World)

theorem process_fork {forked : World} {child : Nat} (done : world.fork = .ok (forked, child)) :
    forked.process = world.process := by
  unfold fork at done
  split at done
  · cases done
  · cases done
    rfl

@[simp]
theorem process_complain (line : String) : (world.complain line).process = world.process :=
  world.process_write _ _

@[simp]
theorem process_waitFor (child : Nat) : (world.waitFor child).1.process = world.process := by
  unfold waitFor
  split
  · exact process_log _ _ _
  · rfl

theorem process_waitStage (last : Nat) (waited : World × Int) (stage : Nat × Nat) :
    (waitStage last waited stage).1.process = waited.1.process := by
  unfold waitStage
  simp only
  split
  · split
    · rw [process_complain, process_waitFor]
    · exact waited.1.process_waitFor _
  · exact waited.1.process_waitFor _

theorem process_waitPipeline (children : List (Nat × Nat)) (last : Nat) :
    (world.waitPipeline children last).1.process = world.process := by
  have waits : ∀ waited : World × Int,
      (children.foldl (waitStage last) waited).1.process = waited.1.process := by
    induction children with
    | nil => exact fun _ => rfl
    | cons stage rest ih =>
        intro waited
        rw [List.foldl_cons, ih, process_waitStage]
  exact waits (world, Status.failure)

end World

theorem process_startStages (world : World) (index : Nat) (commands : List Command) :
    (startStages world index commands).1.process = world.process := by
  induction commands generalizing world index with
  | nil => rfl
  | cons command rest ih =>
      unfold startStages
      split
      · rw [World.process_report, World.process_log]
      · rename_i forked child done
        simp only [ih, world.process_fork done]

/-- A child gives the shell its process back, whatever it does. -/
theorem Behaviour.process_runChildren (behaviour : Behaviour) (plumbing : Plumbing)
    (origin : Process) (started : List Started) (world : World) :
    (started.foldl (behaviour.runChild plumbing origin) world).process = world.process := by
  induction started generalizing world with
  | nil => rfl
  | cons stage rest ih =>
      rw [List.foldl_cons, ih]
      rfl

theorem process_sendBody (world : World) (pipe : HeredocPipe) :
    (Plumbing.sendBody world pipe).process =
      world.process.withDescriptors
        (world.process.descriptors.closeAll [pipe.reader, pipe.writer]) := by
  have written := (world.close pipe.reader).process_write pipe.writer (encode pipe.body)
  simp only [Plumbing.sendBody, World.close, World.mapDescriptors_eq, World.process_inProcess]
    at written ⊢
  rw [written]
  rfl

theorem process_finish (plumbing : Plumbing) (world : World) :
    (plumbing.finish world).process =
      world.process.withDescriptors (world.process.descriptors.closeAll plumbing.numbers) := by
  have sends : ∀ (pipes : List HeredocPipe) (world : World),
      (pipes.foldl Plumbing.sendBody world).process =
        world.process.withDescriptors (world.process.descriptors.closeAll
          (pipes.flatMap fun pipe => [pipe.reader, pipe.writer])) := by
    intro pipes
    induction pipes with
    | nil => exact fun _ => rfl
    | cons pipe rest ih =>
        intro world
        rw [List.foldl_cons, ih, process_sendBody]
        rfl
  rw [Plumbing.finish, sends, Plumbing.numbers, Descriptors.closeAll_append]
  rfl

theorem Behaviour.directory_runForked (behaviour : Behaviour) (world : World)
    (commands : List Command) (bodies : List (List String)) :
    (behaviour.runForked world commands bodies).1.process.directory =
      world.process.directory := by
  unfold runForked
  split
  · rw [World.process_report, World.process_log]
  · rename_i laid plumbing lays
    obtain ⟨piped, _⟩ := Plumbing.piped_lay lays
    simp only [World.process_waitPipeline, process_runChildren, process_finish,
      process_startStages]
    rw [piped.same]
    rfl

theorem runCommands_several [Launching] (world : World) (session : Session)
    {commands : List Command} (bodies : List (List String)) (several : 2 ≤ commands.length) :
    (∃ status, (runCommands world session commands bodies).2 = session.setStatus status) ∧
      (runCommands world session commands bodies).1.process.directory =
        world.process.directory := by
  unfold runCommands
  split
  · simp only [List.length_singleton] at several
    omega
  · exact ⟨⟨_, rfl⟩, (Behaviour.ofCommands session).directory_runForked world commands bodies⟩

/-! ## Reading here-documents -/

theorem Collected.keeps_bind {α β : Type} (keeps : World → Prop) {first : Collected α}
    {next : World → Source → α → Collected β} (kept : keeps first.1)
    (more : ∀ world source value, keeps world → keeps (next world source value).1) :
    keeps (first.bind next).1 := by
  rcases first with ⟨world, source, (error | (_ | value))⟩
  · exact kept
  · exact kept
  · exact more world source value kept

theorem undisturbed_showPrompt (source : Source) (world : World) (prompt : String) :
    world.Undisturbed (source.showPrompt world prompt) := by
  unfold Source.showPrompt
  split
  · exact ⟨⟨rfl, rfl, rfl, rfl⟩, rfl, rfl, fun _ => rfl, fun _ _ => rfl⟩
  · exact .refl world

theorem undisturbed_arrive (event : Event) (world : World) :
    world.Undisturbed (event.arrive world) := by
  cases event with
  | repaired text => exact world.undisturbed_log _ _
  | _ => exact .refl world

theorem undisturbed_warnUnended (world : World) (delimiter : String) :
    world.Undisturbed (world.warnUnended delimiter) :=
  (world.undisturbed_log _ _).trans (World.undisturbed_report _ _)

theorem undisturbed_readBody (session : Session) (heredoc : Redirection) (world : World)
    (source : Source) (body : String) (events : List Event) :
    world.Undisturbed (readBody session heredoc world source body events).1 := by
  induction events generalizing world source body with
  | nil => exact (undisturbed_showPrompt source world _).trans (undisturbed_warnUnended _ _)
  | cons event rest ih =>
      have arrived := (undisturbed_showPrompt source world heredocPrompt).trans
        (undisturbed_arrive event _)
      simp only [readBody]
      split
      · exact arrived
      · exact arrived
      · exact arrived.trans (undisturbed_warnUnended _ _)
      · split
        · exact arrived
        · exact arrived.trans (ih _ _ _)

theorem undisturbed_readBodies (session : Session) (heredocs : List Redirection) (world : World)
    (source : Source) : world.Undisturbed (readBodies session world source heredocs).1 := by
  induction heredocs generalizing world source with
  | nil => exact .refl world
  | cons heredoc rest ih =>
      apply Collected.keeps_bind world.Undisturbed (undisturbed_readBody ..)
      intro reached left body kept
      exact Collected.keeps_bind world.Undisturbed (kept.trans (ih reached left)) fun _ _ _ => id

/-- Collecting here-documents does nothing but read. -/
theorem undisturbed_collectHeredocs (session : Session) (commands : List Command) (world : World)
    (source : Source) : world.Undisturbed (collectHeredocs session world source commands).1 := by
  induction commands generalizing world source with
  | nil => exact .refl world
  | cons command rest ih =>
      apply Collected.keeps_bind world.Undisturbed (undisturbed_readBodies ..)
      intro reached left bodies kept
      exact Collected.keeps_bind world.Undisturbed (kept.trans (ih reached left)) fun _ _ _ => id

/-! ## Pipelines -/

/-- What a pipeline may do to a session unless it is a builtin alone: it sets the status. -/
def Session.StatusOnly (before after : Session) : Prop :=
  after = before ∨ ∃ status, after = before.setStatus status

/-- However its stages behave, a pipeline that does not run in the shell leaves the shell in its
directory and sets the status at most. -/
theorem Behaviour.execute_forks [Launching] (behaviour : Behaviour) (world : World)
    (source : Source) (session : Session) {pipeline : Pipeline}
    (forks : pipeline.isBuiltinAlone = false) :
    session.StatusOnly (behaviour.execute world source session pipeline).2.2 ∧
      (behaviour.execute world source session pipeline).1.process.directory =
        world.process.directory := by
  have collects := (undisturbed_collectHeredocs session pipeline.commands world source).process
  unfold execute
  by_cases nothing : pipeline.isEmpty = true
  · rw [if_pos nothing]
    exact ⟨.inl rfl, rfl⟩
  · rw [if_neg nothing]
    generalize collectHeredocs session world source pipeline.commands = read at collects
    obtain ⟨after, left, (error | (_ | bodies))⟩ := read
    · have reported := after.process_report error.message
      exact ⟨.inr ⟨_, rfl⟩, congrArg Process.directory (reported.trans collects)⟩
    · exact ⟨.inr ⟨_, rfl⟩, congrArg Process.directory collects⟩
    · simp only [runCommands, forks, Bool.false_eq_true, ↓reduceIte]
      refine ⟨.inr ⟨_, rfl⟩, ?_⟩
      exact (behaviour.directory_runForked after _ bodies).trans
        (congrArg Process.directory collects)

end PipeShell
