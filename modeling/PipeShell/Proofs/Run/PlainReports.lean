import PipeShell.Proofs.Run.Refusals
import PipeShell.Proofs.Run.Telling

/-!
# What a run reports

A failed read is reported at the prompt or when it gave up a here-document, by its own text. Main
statement: of the failures with a number that a run tells of, the failed reads show the number, and
all others the plain description.
-/

namespace PipeShell

def Event.error? (event : Event) : Option ShellError :=
  match event.outcome with
  | .error error => some error
  | .ok _ => none

def Event.FailsWith (event : Event) (errno : Errno) : Prop :=
  ∃ error, event.error? = some error ∧ (Report.read error).TellsOf errno

/-- What reading has failed with and was not told yet. -/
def untold {α : Type} : Except ShellError α → List ShellError
  | .error error => [error]
  | .ok _ => []

theorem still_showPrompt (source : Source) (world : World) (prompt : String) :
    world.Still (source.showPrompt world prompt) := by
  unfold Source.showPrompt
  split <;> exact ⟨rfl, rfl⟩

theorem ShellError.Refuses.isOwn {error : ShellError} (refuses : error.Refuses) : error.IsOwn := by
  rcases refuses with ⟨token, rfl⟩ | ⟨quote, rfl⟩ | rfl <;> exact trivial

theorem Report.eq_read {report : Report} {error : ShellError}
    (failed : report.readError? = some error) : report = .read error := by
  cases report <;> cases failed
  rfl

/-- Events were used up between the two, and of those that failed all were told, but for the ones
that wait to be. -/
def Hears [Launching] (does : Session → Command → Prop) (world : World) (source : Source)
    (waiting : List ShellError) (after : World) (left : Source) : Prop :=
  ∃ used told, source.events = used ++ left.events ∧ world.Speaks does told after ∧
    used.filterMap Event.error? = told ++ waiting

/-- What a line asks for: its commands, in the session that it is handled in. -/
def Handling.Does (handling : Handling) (session : Session) (command : Command) : Prop :=
  session = handling.shell.session ∧
    ∃ pipeline, parseLine session handling.line = .ok pipeline ∧ command ∈ pipeline.commands

def Shell.Does [Launching] (shell : Shell) (session : Session) (command : Command) : Prop :=
  ∃ handling ∈ shell.handlings, handling.Does session command

section Reading

variable [Launching] {does : Session → Command → Prop} {world middle after : World}
  {source reached left : Source} {waiting : List ShellError} {session : Session}

namespace Hears

theorem of_speaks (speaks : world.Speaks does [] after) (same : left.events = source.events) :
    Hears does world source [] after left :=
  ⟨[], [], same.symm, speaks, rfl⟩

theorem trans (first : Hears does world source [] middle reached)
    (second : Hears does middle reached waiting after left) :
    Hears does world source waiting after left := by
  -- Nothing waits in the middle, so what waits at the end was read after it.
  obtain ⟨used, told, events, speaks, failed⟩ := first
  obtain ⟨more, later, rest, speaksLater, failedLater⟩ := second
  refine ⟨used ++ more, told ++ later, ?_, speaks.trans speaksLater, ?_⟩
  · rw [events, rest, List.append_assoc]
  · rw [List.filterMap_append, failed, failedLater, List.append_nil, List.append_assoc]

theorem take {event : Event} {rest : List Event} (events : source.events = event :: rest)
    (same : left.events = rest) (speaks : world.Speaks does [] after) :
    Hears does world source (untold event.outcome) after left := by
  refine ⟨[event], [], by rw [events, same]; rfl, speaks, ?_⟩
  cases outcome : event.outcome <;> simp [Event.error?, outcome, untold]

theorem tell {error : ShellError} {last : World}
    (hears : Hears does world source [error] after left) (quiet : after.Speaks does [] last) :
    Hears does world source [] (last.report error.message) left := by
  obtain ⟨used, told, events, speaks, failed⟩ := hears
  refine ⟨used, told ++ [error], events, speaks.trans (quiet.read error), ?_⟩
  rw [failed, List.append_nil]

theorem next (hears : Hears does world source [] middle left)
    (speaks : middle.Speaks does [] after) : Hears does world source [] after left :=
  hears.trans (.of_speaks speaks rfl)

end Hears

/-! ## Here-documents -/

theorem speaks_arrive (event : Event) (world : World) :
    world.Speaks does [] (event.arrive world) := by
  cases event with
  | repaired text => exact .silent (.logs ..)
  | _ => exact .still (.refl world)

theorem speaks_warnUnended (world : World) (delimiter : String) :
    world.Speaks does [] (world.warnUnended delimiter) :=
  (World.Speaks.silent (.logs ..)).report ⟨.unended delimiter, trivial, rfl, rfl⟩

theorem hears_readBody (session : Session) (heredoc : Redirection) (world : World)
    (source : Source) (body : String) {events : List Event} (same : source.events = events) :
    let result := readBody session heredoc world source body events
    Hears does world source (untold result.2.2) result.1 result.2.1 := by
  have shown (world : World) (source : Source) :
      world.Speaks does [] (source.showPrompt world heredocPrompt) :=
    .still (still_showPrompt ..)
  induction events generalizing world source body with
  | nil =>
      exact .of_speaks ((shown world source).next (speaks_warnUnended _ _)) same.symm
  | cons event rest ih =>
      have took : Hears does world source (untold event.outcome)
          (event.arrive (source.showPrompt world heredocPrompt))
          (source.give heredocPrompt event rest) :=
        .take same rfl ((shown world source).next (speaks_arrive event _))
      simp only [readBody]
      split <;> rename_i outcome <;> rw [outcome] at took
      · exact took
      · exact took
      · exact took.next (speaks_warnUnended _ _)
      · split
        · exact took
        · exact took.trans (ih _ _ _ rfl)

theorem Hears.bind {α β : Type} {first : Collected α} {next : World → Source → α → Collected β}
    (hears : Hears does world source (untold first.2.2) first.1 first.2.1)
    (more : ∀ middle reached value, Hears does middle reached
      (untold (next middle reached value).2.2) (next middle reached value).1
      (next middle reached value).2.1) :
    Hears does world source (untold (first.bind next).2.2) (first.bind next).1
      (first.bind next).2.1 := by
  rcases first with ⟨middle, reached, (error | (_ | value))⟩
  · exact hears
  · exact hears
  · exact hears.trans (more middle reached value)

theorem hears_done (world : World) (source : Source) : Hears does world source [] world source :=
  .of_speaks (.still (.refl world)) rfl

theorem hears_readBodies (session : Session) (world : World) (source : Source)
    (heredocs : List Redirection) :
    let result := readBodies session world source heredocs
    Hears does world source (untold result.2.2) result.1 result.2.1 := by
  induction heredocs generalizing world source with
  | nil => exact hears_done world source
  | cons heredoc rest ih =>
      apply Hears.bind (hears_readBody session heredoc world source "" rfl)
      intro middle reached body
      exact .bind (ih middle reached) fun _ _ _ => hears_done _ _

theorem hears_collectHeredocs (session : Session) (world : World) (source : Source)
    (commands : List Command) :
    let result := collectHeredocs session world source commands
    Hears does world source (untold result.2.2) result.1 result.2.1 := by
  induction commands generalizing world source with
  | nil => exact hears_done world source
  | cons command rest ih =>
      apply Hears.bind (hears_readBodies session world source command.heredocs)
      intro middle reached bodies
      exact .bind (ih middle reached) fun _ _ _ => hears_done _ _

/-! ## Lines -/

theorem hears_execute {pipeline : Pipeline}
    (doing : ∀ command ∈ pipeline.commands, does session command) (world : World)
    (source : Source) :
    let done := execute world source session pipeline
    Hears does world source [] done.1 done.2.1 := by
  have collected : Hears does world source _ _ _ :=
    hears_collectHeredocs session world source pipeline.commands
  unfold execute
  split
  · exact hears_done world source
  · split <;> rename_i same <;> rw [same] at collected
    · exact collected.tell (.still (.refl _))
    · exact collected
    · exact collected.next (speaks_runCommands doing _ _)

theorem hears_handling (handling : Handling)
    (doing : ∀ session command, handling.Does session command → does session command) :
    Hears does handling.shell.world handling.shell.source [] handling.after.world
      handling.after.source := by
  obtain ⟨shell, line⟩ := handling
  simp only [Handling.after, Shell.handleInput]
  split
  · exact hears_done shell.world shell.source
  · split
    · rename_i error refused
      have quiet : shell.world.Speaks does [] shell.world := .still (.refl shell.world)
      exact .of_speaks (quiet.report (.of_own (refuses_of_parseLine refused).isOwn _)) rfl
    · rename_i pipeline parsed
      have executed : Hears does shell.world (shell.source.remember line) [] _ _ :=
        hears_execute (fun command member => doing shell.session command
          ⟨rfl, pipeline, parsed, member⟩) shell.world _
      exact executed

end Reading

/-! ## Turns -/

namespace Shell

variable [Launching] {does : Session → Command → Prop} (shell : Shell)

theorem speaks_sayExit : shell.world.Speaks does [] shell.sayExit.world := by
  unfold sayExit
  split
  · exact .silent (.announces _ (.inl rfl))
  · exact .still (.refl shell.world)

theorem speaks_prompt : shell.world.Speaks does [] shell.prompt.1.world := by
  have rendered : shell.world.Speaks does []
      (shell.theme.render shell.colored shell.world shell.session.exitStatus).1 := by
    unfold Theme.render
    split
    · exact .still (.refl shell.world)
    · exact .silent (.logs ..)
  unfold prompt
  split
  · exact rendered
  · exact .still (.refl shell.world)

theorem hears_readLine :
    Hears does shell.world shell.source (untold shell.readLine.2) shell.readLine.1.world
      shell.readLine.1.source := by
  have left := shell.events_readLine
  have read : shell.world.Speaks does [] shell.readLine.1.world := by
    have shown := still_showPrompt shell.prompt.1.source shell.prompt.1.world shell.prompt.2
    exact (shell.speaks_prompt.next (.still shown)).next
      (speaks_arrive shell.prompt.1.source.next _)
  rw [shell.outcome_readLine, Source.next]
  cases events : shell.source.events with
  | nil =>
      rw [events] at left
      exact .of_speaks read (by rw [left, events]; rfl)
  | cons event rest =>
      rw [events] at left
      exact .take events left read

variable {shell} {failures : Nat}

/-- A turn tells of all reads that fail in it. -/
theorem hears_turn (doing : ∀ handling, Moment.handling? ⟨shell, failures⟩ = some handling →
      ∀ session command, handling.Does session command → does session command) :
    Hears does shell.world shell.source [] (shell.turn failures).shell.world
      (shell.turn failures).shell.source := by
  have took : Hears does shell.world shell.source _ _ _ := shell.hears_readLine
  rw [turn_eq]
  cases outcome : shell.readLine.2 with
  | error error =>
      rw [outcome] at took
      obtain ⟨_, _, _, after⟩ := shell_afterFailure shell.readLine.1 error failures
      simp only [after]
      exact took.tell (.silent (.logs ..))
  | ok answer =>
      rw [outcome] at took
      cases answer with
      | interrupted => exact took.next (.silent (.logs ..))
      | endOfInput =>
          rw [Next.shell, source_sayExit]
          exact took.next (speaks_sayExit _)
      | line line =>
          have reads : shell.readLine = (shell.readLine.1, .ok (.line line)) := Prod.ext rfl outcome
          have handled := hears_handling _ (doing _ (handling?_of_line failures reads))
          have noticed : Hears does shell.readLine.1.world shell.readLine.1.source []
              shell.readLine.1.noticeInterrupt.world shell.readLine.1.noticeInterrupt.source := by
            refine .of_speaks (.still ?_) (events_noticeInterrupt _)
            rw [noticeInterrupt_eq]
            exact .refl _
          have done := took.trans (noticed.trans handled)
          simp only [afterLine]
          split
          · rw [Next.shell, source_sayExit]
            exact done.next (speaks_sayExit _)
          · exact done

end Shell

/-- A run tells of all reads that fail in it. -/
theorem Run.hears [Launching] {does : Session → Command → Prop} {shell ended : Shell}
    {failures : Nat} {moments : List Moment} (run : Run shell failures moments ended)
    (doing : ∀ handling ∈ moments.filterMap Moment.handling?,
      ∀ session command, handling.Does session command → does session command) :
    Hears does shell.world shell.source [] ended.world ended.source := by
  -- What a turn does is asked for by the line that it hands on, which is one of the run.
  have turn : ∀ {shell : Shell} {failures : Nat} {moments : List Moment},
      (∀ handling ∈ (⟨shell, failures⟩ :: moments).filterMap Moment.handling?,
        ∀ session command, handling.Does session command → does session command) →
      Hears does shell.world shell.source [] (shell.turn failures).shell.world
        (shell.turn failures).shell.source :=
    fun doing => Shell.hears_turn fun handling hands =>
      doing handling (List.mem_filterMap.mpr ⟨_, List.mem_cons_self, hands⟩)
  induction run with
  | stop stops =>
      have last := turn doing
      rw [stops] at last
      exact last
  | @goOn shell next ended failures failed moments goes _ ih =>
      have first := turn doing
      rw [goes] at first
      apply first.trans (ih _)
      intro handling member
      obtain ⟨moment, later, hands⟩ := List.mem_filterMap.mp member
      exact doing handling (List.mem_filterMap.mpr ⟨moment, List.mem_cons_of_mem _ later, hands⟩)

/-! ## Whole runs -/

/-- What a run reports. Its failed reads are told, each once and in order, and nothing else that it
reports ends in a number. So all failures with a number that it tells of are told plainly exactly
if none of its reads fails with a number. -/
theorem Shell.run_tells_plainly_iff [Launching] (shell : Shell) :
    ∃ (used : List Event) (reports : List Report),
      shell.source.events = used ++ shell.run.source.events ∧
      shell.world.Tells shell.Does reports shell.run.world ∧
      reports.filterMap Report.readError? = used.filterMap Event.error? ∧
      (∀ report ∈ reports, EndsInNumber report.text → report.readError? ≠ none) ∧
      (∀ report ∈ reports, ∀ errno, report.TellsOf errno →
        (report.ShowsPlainly errno ↔ report.readError? = none)) ∧
      ((∀ report ∈ reports, ∀ errno, report.TellsOf errno → report.ShowsPlainly errno) ↔
        ∀ event ∈ used, ∀ errno, ¬ event.FailsWith errno) := by
  obtain ⟨used, told, events, ⟨reports, tells, reads⟩, failed⟩ :=
    (shell.run_runLoop 0).hears fun handling member _ _ does =>
      (⟨handling, member, does⟩ : shell.Does _ _)
  rw [List.append_nil, ← reads] at failed
  have plainly : ∀ report ∈ reports, ∀ errno, report.TellsOf errno →
      (report.ShowsPlainly errno ↔ report.readError? = none) := by
    intro report member errno tellsOf
    obtain ⟨world, arises⟩ := tells.arises report member
    exact arises.showsPlainly_iff tellsOf
  refine ⟨used, reports, events, tells, failed.symm, ?_, plainly, ?_⟩
  · intro report member numbered none
    obtain ⟨world, arises⟩ := tells.arises report member
    exact arises.unnumbered none numbered
  · -- Failed reads as told and as read are one list, so each is found from the other.
    constructor
    · rintro plain event member errno ⟨error, fails, tellsOf⟩
      have among : error ∈ reports.filterMap Report.readError? := by
        rw [← failed]
        exact List.mem_filterMap.mpr ⟨event, member, fails⟩
      obtain ⟨report, reported, found⟩ := List.mem_filterMap.mp among
      rw [Report.eq_read found] at reported
      have none := (plainly _ reported errno tellsOf).mp (plain _ reported errno tellsOf)
      cases none
    · intro sound report member errno tellsOf
      apply (plainly report member errno tellsOf).mpr
      rw [Option.eq_none_iff_forall_ne_some]
      intro error found
      have among : error ∈ used.filterMap Event.error? := by
        rw [failed]
        exact List.mem_filterMap.mpr ⟨report, member, found⟩
      obtain ⟨event, read, fails⟩ := List.mem_filterMap.mp among
      rw [Report.eq_read found] at tellsOf
      exact sound event read errno ⟨error, fails, tellsOf⟩

def directoryShell : Shell := { source := { events := [.ioError (.system .EISDIR)] } }

open scoped Launching in
/-- Its one message is about the failed read, and ends in the number. -/
theorem Shell.run_shows_number_directoryShell :
    let report : Report := .read (.io (.system .EISDIR))
    directoryShell.world.errors = [] ∧
      directoryShell.run.world.errors = encode (s!"{shellName}: " ++ report.text ++ "\n") ∧
      report.text = "Is a directory (os error 21)" ∧
      report.TellsOf .EISDIR ∧ ¬ report.ShowsPlainly .EISDIR := by
  intro report
  have text : report.text = "Is a directory (os error 21)" := by decide +kernel
  have tellsOf : report.TellsOf .EISDIR := .inl rfl
  have arises : report.Arises directoryShell.world := trivial
  refine ⟨rfl, by decide +kernel, text, tellsOf, fun plain => ?_⟩
  have other := (arises.showsPlainly_iff tellsOf).mp plain
  cases other

end PipeShell
