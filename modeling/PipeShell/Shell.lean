import PipeShell.Execution
import PipeShell.Line.Stage
import PipeShell.Prompt

/-!
# The shell

Lines are read and handled one after the other, until `exit`, the end of input, a failure of the
line editor, or three failed reads without a line between them.
-/

namespace PipeShell

structure Shell where
  session : Session := {}
  source : Source := {}
  world : World := {}
  theme : Theme := .standard
  colored : Bool := false

/-- So many failed reads end the shell, if no line was read between them. -/
def failureLimit : Nat := 3

namespace Shell

def setStatus (shell : Shell) (status : Int) : Shell :=
  { shell with session := shell.session.setStatus status }

def fail (shell : Shell) (error : ShellError) (status : Int) : Shell :=
  { shell with world := shell.world.report error.message }.setStatus status

def forgetInterrupt (shell : Shell) : Shell :=
  { shell with source := { shell.source with interrupted := false } }

/-- An interrupt that arrived while the line was read becomes the status before it is handled. -/
def noticeInterrupt (shell : Shell) : Shell :=
  if shell.source.interrupted then (shell.setStatus Status.interrupted).forgetInterrupt else shell

def sayExit (shell : Shell) : Shell :=
  if shell.source.interactive then { shell with world := shell.world.complain "exit" } else shell

def prompt (shell : Shell) : Shell × String :=
  if shell.source.interactive then
    let (world, prompt) :=
      shell.theme.render shell.colored shell.world shell.session.exitStatus
    ({ shell with world }, prompt)
  else (shell, "")

def readLine (shell : Shell) : Shell × Except ShellError ReadOutcome :=
  let (shell, prompt) := shell.prompt
  let (world, source, outcome) := shell.source.read shell.world prompt
  ({ shell with world, source }, outcome)

/-- What comes after a read: the shell ends, or goes on with so many failed reads since the last
line. -/
inductive Next where
  | stop (shell : Shell)
  | goOn (shell : Shell) (failures : Nat)

def afterInterrupt (shell : Shell) (failures : Nat) : Next :=
  let logged := { shell with world := shell.world.log .warn "接收到中断信号..." }
  .goOn (logged.forgetInterrupt.setStatus Status.interrupted) failures

def afterFailure (shell : Shell) (error : ShellError) (failures : Nat) : Next :=
  match error with
  | .lineEditor _ =>
    let world := shell.world.log .error s!"终端读取出错: {error.message}"
    .stop { shell with world := world.report error.message }
  | _ =>
    let world := shell.world.log .error s!"读取输入出错: {error.message}"
    let failed := { shell with world }.fail error Status.failure
    if failureLimit ≤ failures + 1 then .stop failed else .goOn failed (failures + 1)

/-! ## What is left to be read -/

theorem events_prompt (shell : Shell) : shell.prompt.1.source = shell.source := by
  unfold prompt
  split <;> rfl

theorem events_readLine (shell : Shell) :
    shell.readLine.1.source.events = shell.source.events.drop 1 := by
  simp only [readLine, Source.read, Source.events_give, events_prompt]

theorem outcome_readLine (shell : Shell) :
    shell.readLine.2 = shell.source.next.outcome := by
  simp only [readLine, Source.read, events_prompt]

theorem noticeInterrupt_eq (shell : Shell) :
    shell.noticeInterrupt =
      { shell with
        session :=
          if shell.source.interrupted then shell.session.setStatus Status.interrupted
          else shell.session
        source := { shell.source with interrupted := false } } := by
  unfold noticeInterrupt
  split
  · rfl
  · rename_i clear
    rw [← (Bool.not_eq_true _).mp clear]

theorem events_noticeInterrupt (shell : Shell) :
    shell.noticeInterrupt.source.events = shell.source.events := by
  rw [noticeInterrupt_eq]

theorem events_afterInterrupt {shell next : Shell} {failures failed : Nat}
    (goes : shell.afterInterrupt failures = .goOn next failed) :
    next.source.events = shell.source.events := by
  injection goes with same _
  rw [← same]
  rfl

theorem source_afterFailure {shell next : Shell} {error : ShellError} {failures failed : Nat}
    (goes : shell.afterFailure error failures = .goOn next failed) :
    next.source = shell.source := by
  unfold afterFailure at goes
  split at goes
  · simp at goes
  · simp only at goes
    split at goes
    · simp at goes
    · injection goes with same _
      rw [← same]
      rfl

/-! ## Handling lines -/

variable [Launching]

/-- Handles one line: a blank one does nothing; any other is remembered, parsed and run. -/
def handleInput (shell : Shell) (line : String) : Shell :=
  if line.toList.all isBlank then shell
  else
    let source := shell.source.remember line
    match parseLine shell.session line with
    | .error error => { shell with source }.fail error error.status
    | .ok pipeline =>
      let (world, source, session) := execute shell.world source shell.session pipeline
      { shell with world, source, session }.forgetInterrupt

def afterLine (shell : Shell) (line : String) : Next :=
  let handled := shell.noticeInterrupt.handleInput line
  if handled.session.shouldExit then .stop handled.sayExit else .goOn handled 0

def turn (shell : Shell) (failures : Nat) : Next :=
  match shell.readLine with
  | (shell, .ok (.line line)) => shell.afterLine line
  | (shell, .ok .interrupted) => shell.afterInterrupt failures
  | (shell, .ok .endOfInput) => .stop shell.sayExit
  | (shell, .error error) => shell.afterFailure error failures

/-! ## Every turn uses up an event -/

theorem length_handleInput_le (shell : Shell) (line : String) :
    (shell.handleInput line).source.events.length ≤ shell.source.events.length := by
  unfold handleInput
  split
  · exact Nat.le_refl _
  · split
    · exact Nat.le_refl _
    · exact length_execute_le ..

theorem length_afterLine_le {shell next : Shell} {line : String} {failed : Nat}
    (goes : shell.afterLine line = .goOn next failed) :
    next.source.events.length ≤ shell.source.events.length := by
  have kept := length_handleInput_le shell.noticeInterrupt line
  rw [events_noticeInterrupt] at kept
  simp only [afterLine] at goes
  split at goes
  · simp at goes
  · injection goes with same _
    rw [← same]
    exact kept

/-- The shell goes on only if there was an event, and then fewer are left. -/
theorem length_turn_lt {shell next : Shell} {failures failed : Nat}
    (goes : shell.turn failures = .goOn next failed) :
    next.source.events.length < shell.source.events.length := by
  have events := events_readLine shell
  have outcome := outcome_readLine shell
  unfold turn at goes
  cases remaining : shell.source.events with
  | nil =>
    simp only [Source.next, remaining, List.headD_nil, Event.outcome] at outcome
    split at goes <;> simp_all
  | cons event rest =>
    rw [remaining, List.drop_one, List.tail_cons] at events
    refine Nat.lt_succ_of_le ?_
    split at goes <;> rename_i same <;> rw [same] at events
    · exact events ▸ length_afterLine_le goes
    · exact events ▸ events_afterInterrupt goes ▸ Nat.le_refl _
    · simp at goes
    · exact events ▸ source_afterFailure goes ▸ Nat.le_refl _

def runLoop (shell : Shell) (failures : Nat) : Shell :=
  match _turned : shell.turn failures with
  | .stop ended => ended
  | .goOn next failed => next.runLoop failed
termination_by shell.source.events.length
decreasing_by exact length_turn_lt _turned

def run (shell : Shell) : Shell :=
  let ended := shell.runLoop 0
  { ended with source := ended.source.save }

end Shell

end PipeShell
