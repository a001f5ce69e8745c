import PipeShell.Proofs.Run.Frame
import PipeShell.Proofs.Run.LineUse
import PipeShell.Proofs.Run.Redirections

/-!
# The process of a shell

A shell opens files and pipes in its own process, lets go of them again, and goes to other
directories. Main statement: through a whole run its log stays the one it has, and its standard
streams, if they are open, stay what they are.
-/

namespace PipeShell

/-- The process has the log it had, and its standard streams are what they were. -/
structure Process.Stands (before after : Process) : Prop where
  journal : after.journal = before.journal
  standard : before.descriptors.Standard → before.descriptors.SameStandard after.descriptors

namespace Process.Stands

variable {before middle after : Process}

theorem refl (process : Process) : process.Stands process := ⟨rfl, fun _ _ _ => rfl⟩

theorem trans (first : before.Stands middle) (second : middle.Stands after) :
    before.Stands after where
  journal := second.journal.trans first.journal
  standard := fun open_ =>
    (first.standard open_).trans (second.standard (open_.of_same (first.standard open_)))

theorem of_eq (same : after = before) : before.Stands after := same ▸ refl before

theorem inDirectory (stands : before.Stands after) (directory : Place) :
    before.Stands (after.inDirectory directory) :=
  ⟨stands.journal, stands.standard⟩

theorem three_le (stands : before.Stands after) {number : Nat}
    (free : after.descriptors.stream? number = none) (open_ : before.descriptors.Standard) :
    3 ≤ number :=
  (open_.of_same (stands.standard open_)).three_le_of_free free

theorem place (stands : before.Stands after) {number : Nat} (stream : Stream)
    (free : after.descriptors.stream? number = none) :
    before.Stands (after.withDescriptors (after.descriptors.place number stream)) where
  journal := stands.journal
  standard := fun open_ => (stands.standard open_).trans
    (after.descriptors.sameStandard_place stream (stands.three_le free open_))

theorem closeAll (stands : before.Stands after) {numbers : List Nat}
    (large : before.descriptors.Standard → ∀ number ∈ numbers, 3 ≤ number) :
    before.Stands (after.withDescriptors (after.descriptors.closeAll numbers)) where
  journal := stands.journal
  standard := fun open_ => (stands.standard open_).trans
    (after.descriptors.sameStandard_closeAll (large open_))

theorem close (stands : before.Stands after) {number : Nat}
    (large : before.descriptors.Standard → 3 ≤ number) :
    before.Stands (after.withDescriptors (after.descriptors.close number)) where
  journal := stands.journal
  standard := fun open_ => (stands.standard open_).trans
    (after.descriptors.sameStandard_close (large open_))

end Process.Stands

/-! ## In the shell -/

section Shell

variable {before : Process} {world : World}

theorem stands_openTarget (stands : before.Stands world.process) {opened : World} {number : Nat}
    {redirection : Redirection} (done : openTarget world redirection = .ok (opened, number)) :
    before.Stands opened.process ∧ (before.descriptors.Standard → 3 ≤ number) := by
  obtain ⟨free, tried, target, rfl⟩ := openTarget_ok done
  have process := process_tryTarget target
  refine ⟨?_, stands.three_le free⟩
  rw [World.mapDescriptors_eq, World.process_inProcess, process]
  exact stands.place _ free

/-- The number that stays open, if one does, is a new one. -/
theorem stands_openInShell (redirections : List Redirection)
    (stands : before.Stands world.process) :
    before.Stands (openInShell world redirections).1.process ∧
      ∀ number, (openInShell world redirections).2 = .ok (some number) →
        before.descriptors.Standard → 3 ≤ number := by
  induction redirections generalizing world with
  | nil => exact ⟨stands, by simp [openInShell]⟩
  | cons redirection rest ih =>
      unfold openInShell
      split
      · exact ih stands
      · split
        · exact ⟨stands, by simp⟩
        · rename_i opened number done
          obtain ⟨opens, large⟩ := stands_openTarget stands done
          split
          · -- The last output stays open, unless something fails after it.
            have later := ih opens
            split
            · rename_i last _ more
              rw [more] at later
              exact ⟨later.1, by simpa using large⟩
            · rename_i last error more
              rw [more] at later
              exact ⟨later.1.close large, by simp⟩
          · exact ih (opens.close large)

theorem process_runBuiltinAt (world : World) (session : Session) (arguments : List String)
    (lineBuffered : Bool) (number : Nat) :
    ∃ directory, (runBuiltinAt world session arguments lineBuffered number).1.process =
      world.process.inDirectory directory := by
  simp only [runBuiltinAt, runBuiltinOn, World.settle, World.process_foldl_report,
    World.process_deliver]
  exact ⟨_, rfl⟩

theorem stands_runInShell (world : World) (session : Session) (command : Command) :
    world.process.Stands (runInShell world session command).1.process := by
  obtain ⟨stands, large⟩ := stands_openInShell command.redirections (.refl world.process)
  unfold runInShell
  generalize openInShell world command.redirections = tried at stands large
  obtain ⟨opened, (error | (_ | number))⟩ := tried
  · simp only [World.fail, World.process_report]
    exact stands
  · obtain ⟨directory, ran⟩ := process_runBuiltinAt opened session command.arguments true
      Descriptors.standardOutput
    simp only [ran]
    exact stands.inDirectory directory
  · obtain ⟨directory, ran⟩ := process_runBuiltinAt opened session command.arguments false number
    simp only [World.close, World.mapDescriptors_eq, World.process_inProcess, ran]
    exact (stands.inDirectory directory).close (large number rfl)

end Shell

/-! ## Around children -/

theorem Behaviour.stands_runForked (behaviour : Behaviour) (world : World)
    (commands : List Command) (bodies : List (List String)) :
    world.process.Stands (behaviour.runForked world commands bodies).1.process := by
  unfold runForked
  split
  · rw [World.process_report, World.process_log]
    exact .refl _
  · rename_i laid plumbing lays
    obtain ⟨piped, _⟩ := Plumbing.piped_lay lays
    have opens : world.process.Stands laid.process := by
      refine ⟨?_, piped.gains.sameStandard⟩
      rw [piped.same]
      rfl
    simp only [World.process_waitPipeline, process_runChildren, process_finish,
      process_startStages]
    exact opens.closeAll piped.three_le_numbers

/-! ## Lines and turns -/

theorem stands_runCommands [Launching] (world : World) (session : Session) (commands : List Command)
    (bodies : List (List String)) :
    world.process.Stands (runCommands world session commands bodies).1.process := by
  have forks := (Behaviour.ofCommands session).stands_runForked world commands bodies
  unfold runCommands
  split
  · split
    · exact stands_runInShell world session _
    · exact forks
  · exact forks

theorem stands_execute [Launching] (world : World) (source : Source) (session : Session)
    (pipeline : Pipeline) :
    world.process.Stands (execute world source session pipeline).1.process := by
  have collects := (undisturbed_collectHeredocs session pipeline.commands world source).process
  unfold execute
  split
  · exact .refl _
  · generalize collectHeredocs session world source pipeline.commands = read at collects
    obtain ⟨after, left, (error | (_ | bodies))⟩ := read
    · exact .of_eq ((after.process_report error.message).trans collects)
    · exact .of_eq collects
    · exact (Process.Stands.of_eq collects).trans (stands_runCommands after session _ bodies)

namespace Shell

def process (shell : Shell) : Process := shell.world.process

theorem stands_handleInput [Launching] (shell : Shell) (line : String) :
    shell.process.Stands (shell.handleInput line).process := by
  cases space : isSpace line with
  | true =>
      rw [handleInput_space shell space]
      exact .refl _
  | false =>
      rw [handleInput_text shell space]
      cases parseLine shell.session line with
      | error error => exact .of_eq (shell.world.process_report error.message)
      | ok pipeline => exact stands_execute shell.world _ shell.session pipeline

theorem process_noticeInterrupt (shell : Shell) :
    shell.noticeInterrupt.process = shell.process := by
  rw [noticeInterrupt_eq]
  rfl

theorem process_sayExit (shell : Shell) : shell.sayExit.process = shell.process := by
  unfold sayExit
  split
  · exact shell.world.process_complain "exit"
  · rfl

theorem process_render (theme : Theme) (colored : Bool) (world : World) (status : Int) :
    (theme.render colored world status).1.process = world.process := by
  unfold Theme.render
  split
  · rfl
  · exact world.process_log _ _

theorem process_readLine (shell : Shell) : shell.readLine.1.process = shell.process := by
  have prompted : shell.prompt.1.process = shell.process := by
    unfold prompt
    split
    · exact process_render _ _ _ _
    · rfl
  have read := (undisturbed_showPrompt shell.prompt.1.source shell.prompt.1.world
    shell.prompt.2).trans (undisturbed_arrive shell.prompt.1.source.next _)
  exact read.process.trans prompted

theorem process_afterFailure (shell : Shell) (error : ShellError) (failures : Nat) :
    (shell.afterFailure error failures).shell.process = shell.process := by
  obtain ⟨text, _, _, after⟩ := shell_afterFailure shell error failures
  rw [after]
  exact (World.process_report _ _).trans (shell.world.process_log .error text)

theorem stands_turn [Launching] (shell : Shell) (failures : Nat) :
    shell.process.Stands (shell.turn failures).shell.process := by
  rw [turn_eq, ← process_readLine shell]
  generalize shell.readLine.1 = read
  cases shell.readLine.2 with
  | error error => exact .of_eq (process_afterFailure read error failures)
  | ok outcome =>
      cases outcome with
      | line line =>
          have handles := stands_handleInput read.noticeInterrupt line
          rw [process_noticeInterrupt] at handles
          simp only [afterLine]
          split
          · rw [Next.shell, process_sayExit]
            exact handles
          · exact handles
      | interrupted => exact .of_eq (read.world.process_log _ _)
      | endOfInput => exact .of_eq read.process_sayExit

end Shell

/-- The shell is in a process that stands at every prompt of a run and at its end. -/
theorem Run.stands [Launching] {shell ended : Shell} {failures : Nat} {moments : List Moment}
    (run : Run shell failures moments ended) :
    (∀ moment ∈ moments, shell.process.Stands moment.shell.process) ∧
      shell.process.Stands ended.process := by
  induction run with
  | @stop shell ended failures stops =>
      have turn := shell.stands_turn failures
      rw [stops] at turn
      exact ⟨List.forall_mem_singleton.mpr (.refl _), turn⟩
  | @goOn shell next ended failures failed moments goes _ ih =>
      have turn := shell.stands_turn failures
      rw [goes] at turn
      refine ⟨List.forall_mem_cons.mpr ⟨.refl _, fun moment member => ?_⟩, turn.trans ih.2⟩
      exact turn.trans (ih.1 moment member)

end PipeShell
