import PipeShell.Shell

/-!
# The turns of a run

The prompt loop as a list: the shell before each of its reads, from the first to the one that ends
the run. What the loop does with a line is told from the turn that read it. Main statement: the
turns lead from the beginning of the loop to its end, so what every turn keeps holds of whole runs.
-/

namespace PipeShell

/-- The prompt loop before a read: the shell, and how many reads have failed since the last line. -/
structure Moment where
  shell : Shell
  failures : Nat

/-- A line that is handled, with the shell that handles it. -/
structure Handling where
  shell : Shell
  line : String

def Moment.handling? (moment : Moment) : Option Handling :=
  match moment.shell.readLine with
  | (shell, .ok (.line line)) => some ⟨shell.noticeInterrupt, line⟩
  | _ => none

/-! ## Single reads -/

namespace Shell

theorem session_readLine (shell : Shell) : shell.readLine.1.session = shell.session := by
  simp only [readLine, prompt]
  split <;> rfl

theorem handling?_of_line {shell read : Shell} {line : String} (failures : Nat)
    (reads : shell.readLine = (read, .ok (.line line))) :
    Moment.handling? ⟨shell, failures⟩ = some ⟨read.noticeInterrupt, line⟩ := by
  simp [Moment.handling?, reads]

theorem readLine_of_handling {shell : Shell} {failures : Nat} {handling : Handling}
    (hands : Moment.handling? ⟨shell, failures⟩ = some handling) :
    shell.readLine.2 = .ok (.line handling.line) ∧
      handling.shell = shell.readLine.1.noticeInterrupt := by
  unfold Moment.handling? at hands
  split at hands
  · rename_i read line reads
    cases hands
    rw [reads]
    exact ⟨rfl, rfl⟩
  · exact absurd hands (by simp)

theorem source_sayExit (shell : Shell) : shell.sayExit.source = shell.source := by
  unfold sayExit
  split <;> rfl

theorem session_sayExit (shell : Shell) : shell.sayExit.session = shell.session := by
  unfold sayExit
  split <;> rfl

def Next.shell : Next → Shell
  | .stop shell => shell
  | .goOn shell _ => shell

/-- A failed read is logged and reported, and sets the status at most. -/
theorem shell_afterFailure (shell : Shell) (error : ShellError) (failures : Nat) :
    ∃ text session, (session = shell.session ∨ session = shell.session.setStatus Status.failure) ∧
      (shell.afterFailure error failures).shell =
        { shell with world := (shell.world.log .error text).report error.message, session } := by
  unfold afterFailure
  split
  · exact ⟨_, _, .inl rfl, rfl⟩
  · simp only
    split <;> exact ⟨_, _, .inr rfl, rfl⟩

end Shell

/-! ## The loop as a list -/

variable [Launching]

def Handling.after (handling : Handling) : Shell :=
  handling.shell.handleInput handling.line

namespace Shell

def moments (shell : Shell) (failures : Nat) : List Moment :=
  ⟨shell, failures⟩ ::
    match _turned : shell.turn failures with
    | .stop _ => []
    | .goOn next failed => next.moments failed
termination_by shell.source.events.length
decreasing_by exact length_turn_lt _turned

/-- The lines that a run handles, in order, each with the shell at that time. -/
def handlings (shell : Shell) : List Handling := (shell.moments 0).filterMap Moment.handling?

end Shell

/-- Turn after turn from the shell to the one in which the loop ends. -/
inductive Run : Shell → Nat → List Moment → Shell → Prop where
  | stop {shell ended : Shell} {failures : Nat} :
      shell.turn failures = .stop ended → Run shell failures [⟨shell, failures⟩] ended
  | goOn {shell next ended : Shell} {failures failed : Nat} {moments : List Moment} :
      shell.turn failures = .goOn next failed → Run next failed moments ended →
        Run shell failures (⟨shell, failures⟩ :: moments) ended

namespace Shell

theorem runLoop_of_stop {shell ended : Shell} {failures : Nat}
    (stops : shell.turn failures = .stop ended) : shell.runLoop failures = ended := by
  rw [runLoop]
  split <;> simp_all

theorem runLoop_of_goOn {shell next : Shell} {failures failed : Nat}
    (goes : shell.turn failures = .goOn next failed) :
    shell.runLoop failures = next.runLoop failed := by
  rw [runLoop]
  split <;> simp_all

theorem moments_of_stop {shell ended : Shell} {failures : Nat}
    (stops : shell.turn failures = .stop ended) :
    shell.moments failures = [⟨shell, failures⟩] := by
  rw [moments]
  split <;> simp_all

theorem moments_of_goOn {shell next : Shell} {failures failed : Nat}
    (goes : shell.turn failures = .goOn next failed) :
    shell.moments failures = ⟨shell, failures⟩ :: next.moments failed := by
  rw [moments]
  split <;> simp_all

/-- The loop is a run over its moments. -/
theorem run_runLoop (shell : Shell) (failures : Nat) :
    Run shell failures (shell.moments failures) (shell.runLoop failures) := by
  induction shell, failures using runLoop.induct with
  | case1 shell failures ended stops =>
      rw [runLoop_of_stop stops, moments_of_stop stops]
      exact .stop stops
  | case2 shell failures next failed goes ih =>
      rw [runLoop_of_goOn goes, moments_of_goOn goes]
      exact .goOn goes ih

/-! ## Single turns -/

theorem turn_eq (shell : Shell) (failures : Nat) :
    shell.turn failures =
      match shell.readLine.2 with
      | .ok (.line line) => shell.readLine.1.afterLine line
      | .ok .interrupted => shell.readLine.1.afterInterrupt failures
      | .ok .endOfInput => .stop shell.readLine.1.sayExit
      | .error error => shell.readLine.1.afterFailure error failures := by
  unfold turn
  split <;> rename_i reads <;> rw [reads]

/-- A turn that hands on a line has it handled, and the loop ends if that asked for it. -/
theorem turn_of_handling {shell : Shell} {failures : Nat} {handling : Handling}
    (hands : Moment.handling? ⟨shell, failures⟩ = some handling) :
    shell.turn failures =
      if handling.after.session.shouldExit then .stop handling.after.sayExit
      else .goOn handling.after 0 := by
  obtain ⟨line, same⟩ := readLine_of_handling hands
  have reads : shell.readLine = (shell.readLine.1, .ok (.line handling.line)) :=
    Prod.ext rfl line
  rw [turn, reads]
  simp only [afterLine, ← same]
  rfl

end Shell

/-- A run ends with the turn that stops it. -/
theorem Run.exists_last {shell ended : Shell} {failures : Nat} {moments : List Moment}
    (run : Run shell failures moments ended) :
    ∃ last, moments.getLast? = some last ∧ last.shell.turn last.failures = .stop ended := by
  induction run with
  | stop stops => exact ⟨_, rfl, stops⟩
  | goOn _ _ ih =>
      obtain ⟨last, found, stops⟩ := ih
      exact ⟨last, by rw [List.getLast?_cons, found]; rfl, stops⟩

end PipeShell
