import PipeShell.Proofs.Run.Reading

/-!
# Interrupts that arrive during reads

An interrupt that arrives while the prompt reads a line is noticed before the line is handled, and
one that arrives while a here-document is read is forgotten with the line that asked for it. Main
statement: no interrupt is left for a later read, so one in a here-document changes nothing of a
run, and one at the prompt sets the status and changes nothing else.
-/

namespace PipeShell

/-! ## Events without their interrupt -/

/-- The event without the interrupt that arrives with it. -/
def Event.calm : Event → Event
  | .raise text => .line text
  | event => event

/-- The events, that one calmed after which so many are left. -/
def calmAt (later : Nat) : List Event → List Event
  | [] => []
  | event :: rest => (if rest.length = later then event.calm else event) :: calmAt later rest

theorem outcome_calm (event : Event) : event.calm.outcome = event.outcome := by
  cases event <;> rfl

theorem arrive_calm (event : Event) (world : World) :
    event.calm.arrive world = event.arrive world := by
  cases event <;> rfl

theorem calmAt_of_short {later : Nat} {events : List Event} (short : events.length ≤ later) :
    calmAt later events = events := by
  induction events with
  | nil => rfl
  | cons event rest ih =>
      rw [List.length_cons] at short
      rw [calmAt, if_neg (by omega), ih (by omega)]

theorem calmAt_append (front back : List Event) (event : Event) :
    calmAt back.length (front ++ event :: back) = front ++ event.calm :: back := by
  -- Every event of `front` has more after it than that, and every one of `back` has fewer.
  induction front with
  | nil =>
      rw [List.nil_append, calmAt, if_pos rfl, calmAt_of_short (Nat.le_refl _), List.nil_append]
  | cons first rest ih =>
      rw [List.cons_append, calmAt, if_neg (by simp; omega), ih, List.cons_append]

theorem calmAt_cons (later : Nat) (event : Event) (rest : List Event) :
    ∃ changed : Event, changed.outcome = event.outcome ∧
      (∀ world, changed.arrive world = event.arrive world) ∧
      calmAt later (event :: rest) = changed :: calmAt later rest := by
  rw [calmAt]
  split
  · exact ⟨event.calm, outcome_calm event, arrive_calm event, rfl⟩
  · exact ⟨event, rfl, fun _ => rfl, rfl⟩

theorem drop_calmAt (later : Nat) (events : List Event) :
    (calmAt later events).drop 1 = calmAt later (events.drop 1) := by
  cases events <;> rfl

theorem headD_calmAt {later : Nat} {events : List Event} (elsewhere : events.length ≠ later + 1)
    (event : Event) : (calmAt later events).headD event = events.headD event := by
  cases events with
  | nil => rfl
  | cons first rest =>
      rw [List.length_cons] at elsewhere
      rw [calmAt, if_neg (by omega), List.headD_cons, List.headD_cons]

def Source.calm (later : Nat) (source : Source) : Source :=
  { source with events := calmAt later source.events }

theorem Source.read_calm {later : Nat} {source : Source}
    (elsewhere : source.events.length ≠ later + 1) (world : World) (prompt : String) :
    (source.calm later).read world prompt =
      ((source.read world prompt).1, (source.read world prompt).2.1.calm later,
        (source.read world prompt).2.2) := by
  have next : (source.calm later).next = source.next := headD_calmAt elsewhere _
  have drop : (source.calm later).events.drop 1 = calmAt later (source.events.drop 1) :=
    drop_calmAt later source.events
  simp only [read, next, drop]
  rfl

/-- The other source is to give the same, one event calmed, and may know otherwise whether an
interrupt has arrived. -/
def Source.Calmed (later : Nat) (source other : Source) : Prop :=
  ∃ interrupted, other = { source.calm later with interrupted }

def CalmedResult {α : Type} (later : Nat) (result other : World × Source × α) : Prop :=
  ∃ left, result.2.1.Calmed later left ∧ other = (result.1, left, result.2.2)

/-! ## Here-documents -/

section Reading

variable {later : Nat} {source other : Source}

theorem Source.Calmed.give (calmed : source.Calmed later other) (prompt : String)
    (event changed : Event) (rest : List Event) :
    (source.give prompt event rest).Calmed later
      (other.give prompt changed (calmAt later rest)) := by
  obtain ⟨interrupted, rfl⟩ := calmed
  exact ⟨_, rfl⟩

theorem Source.Calmed.showPrompt (calmed : source.Calmed later other) (world : World)
    (prompt : String) : other.showPrompt world prompt = source.showPrompt world prompt := by
  obtain ⟨interrupted, rfl⟩ := calmed
  rfl

theorem Collected.calmed_bind {α β : Type} {first changed : Collected α}
    {next : World → Source → α → Collected β} (calmed : CalmedResult later first changed)
    (more : ∀ world (reached left : Source) value, reached.Calmed later left →
      CalmedResult later (next world reached value) (next world left value)) :
    CalmedResult later (first.bind next) (changed.bind next) := by
  obtain ⟨left, source, rfl⟩ := calmed
  obtain ⟨world, reached, (error | (_ | value))⟩ := first
  · exact ⟨left, source, rfl⟩
  · exact ⟨left, source, rfl⟩
  · exact more world reached left value source

theorem calmed_readBody (session : Session) (heredoc : Redirection) (world : World) (body : String)
    (events : List Event) (calmed : source.Calmed later other) :
    CalmedResult later (readBody session heredoc world source body events)
      (readBody session heredoc world other body (calmAt later events)) := by
  induction events generalizing world source other body with
  | nil =>
      simp only [calmAt, readBody, calmed.showPrompt]
      exact ⟨_, calmed.give heredocPrompt .endOfInput .endOfInput [], rfl⟩
  | cons event rest ih =>
      -- The next event may be the calmed one: it gives the same line either way.
      obtain ⟨changed, outcome, arrive, head⟩ := calmAt_cons later event rest
      have gives := calmed.give heredocPrompt event changed rest
      simp only [head, readBody, outcome, arrive, calmed.showPrompt]
      split
      · exact ⟨_, gives, rfl⟩
      · exact ⟨_, gives, rfl⟩
      · exact ⟨_, gives, rfl⟩
      · split
        · exact ⟨_, gives, rfl⟩
        · exact ih _ _ gives

theorem calmed_readBodies (session : Session) (world : World) (heredocs : List Redirection)
    (calmed : source.Calmed later other) :
    CalmedResult later (readBodies session world source heredocs)
      (readBodies session world other heredocs) := by
  induction heredocs generalizing world source other with
  | nil => exact ⟨other, calmed, rfl⟩
  | cons heredoc rest ih =>
      have events : other.events = calmAt later source.events := by
        obtain ⟨interrupted, rfl⟩ := calmed
        rfl
      simp only [readBodies, events]
      refine Collected.calmed_bind (calmed_readBody session heredoc world "" _ calmed) ?_
      intro world reached left body calmed
      refine Collected.calmed_bind (ih world calmed) ?_
      exact fun _ _ last _ calmed => ⟨last, calmed, rfl⟩

theorem calmed_collectHeredocs (session : Session) (world : World) (commands : List Command)
    (calmed : source.Calmed later other) :
    CalmedResult later (collectHeredocs session world source commands)
      (collectHeredocs session world other commands) := by
  induction commands generalizing world source other with
  | nil => exact ⟨other, calmed, rfl⟩
  | cons command rest ih =>
      refine Collected.calmed_bind (calmed_readBodies session world command.heredocs calmed) ?_
      intro world reached left bodies calmed
      refine Collected.calmed_bind (ih world calmed) ?_
      exact fun _ _ last _ calmed => ⟨last, calmed, rfl⟩

theorem calmed_execute [Launching] (world : World) (session : Session) (pipeline : Pipeline)
    (calmed : source.Calmed later other) :
    CalmedResult later (execute world source session pipeline)
      (execute world other session pipeline) := by
  unfold execute
  split
  · exact ⟨other, calmed, rfl⟩
  · -- Nothing but the here-documents reads, and it is known that they do so alike.
    obtain ⟨left, calmed, same⟩ :=
      calmed_collectHeredocs session world pipeline.commands calmed
    rw [same]
    generalize collectHeredocs session world source pipeline.commands = read at calmed
    obtain ⟨after, reached, (error | (_ | bodies))⟩ := read
    · exact ⟨left, calmed, rfl⟩
    · exact ⟨left, calmed, rfl⟩
    · exact ⟨left, calmed, rfl⟩

end Reading

/-! ## Lines and turns -/

namespace Shell

def offered (shell : Shell) (events : List Event) : Shell :=
  { shell with source := { shell.source with events } }

theorem prompt_offered (shell : Shell) (events : List Event) :
    (shell.offered events).prompt = (shell.prompt.1.offered events, shell.prompt.2) := by
  have same : (shell.offered events).source.interactive = shell.source.interactive := rfl
  unfold prompt
  rw [same]
  cases shell.source.interactive <;> rfl

def calm (later : Nat) (shell : Shell) : Shell :=
  shell.offered (calmAt later shell.source.events)

theorem calm_of_short {later : Nat} {shell : Shell}
    (short : shell.source.events.length ≤ later) : shell.calm later = shell := by
  rw [calm, calmAt_of_short short]
  rfl

theorem calm_of_split {shell : Shell} {front back : List Event} {event : Event}
    (split : shell.source.events = front ++ event :: back) :
    shell.calm back.length = shell.offered (front ++ event.calm :: back) := by
  rw [calm, split, calmAt_append]

section Fields

variable (later : Nat) (shell : Shell)

@[simp]
theorem source_calm : (shell.calm later).source = shell.source.calm later := rfl

@[simp]
theorem session_calm : (shell.calm later).session = shell.session := rfl

@[simp]
theorem world_calm : (shell.calm later).world = shell.world := rfl

end Fields

/-- The interrupt of an event that a line's here-documents read, or do not reach, makes no
difference to what becomes of the line. -/
theorem handleInput_calm [Launching] (later : Nat) (shell : Shell) (line : String) :
    (shell.calm later).handleInput line = (shell.handleInput line).calm later := by
  cases space : isSpace line with
  | true => rw [handleInput_space _ space, handleInput_space _ space]
  | false =>
      rw [handleInput_text _ space, handleInput_text _ space]
      simp only [session_calm, source_calm, world_calm]
      cases parseLine shell.session line with
      | error error => rfl
      | ok pipeline =>
          have calmed : (shell.source.remember line).Calmed later
              ((shell.source.calm later).remember line) := ⟨shell.source.interrupted, rfl⟩
          -- The marks may differ after the commands, but the line forgets them.
          obtain ⟨left, ⟨interrupted, rfl⟩, executed⟩ :=
            calmed_execute shell.world shell.session pipeline calmed
          simp only [executed]
          rfl

theorem noticeInterrupt_calm (later : Nat) (shell : Shell) :
    (shell.calm later).noticeInterrupt = shell.noticeInterrupt.calm later := by
  rw [noticeInterrupt_eq, noticeInterrupt_eq]
  rfl

theorem sayExit_calm (later : Nat) (shell : Shell) :
    (shell.calm later).sayExit = shell.sayExit.calm later := by
  have same : (shell.calm later).source.interactive = shell.source.interactive := rfl
  unfold sayExit
  rw [same]
  cases shell.source.interactive <;> rfl

theorem readLine_calm {later : Nat} {shell : Shell}
    (elsewhere : shell.source.events.length ≠ later + 1) :
    (shell.calm later).readLine = (shell.readLine.1.calm later, shell.readLine.2) := by
  have prompt : (shell.calm later).prompt = (shell.prompt.1.calm later, shell.prompt.2) := by
    rw [calm, prompt_offered, calm, events_prompt]
  have shown : shell.prompt.1.source.events.length ≠ later + 1 := by rwa [events_prompt]
  have read := Source.read_calm shown shell.prompt.1.world shell.prompt.2
  simp only [readLine, prompt, source_calm, world_calm, read]
  rfl

def Next.calm (later : Nat) : Next → Next
  | .stop shell => .stop (shell.calm later)
  | .goOn shell failures => .goOn (shell.calm later) failures

theorem afterLine_calm [Launching] (later : Nat) (shell : Shell) (line : String) :
    (shell.calm later).afterLine line = (shell.afterLine line).calm later := by
  simp only [afterLine, noticeInterrupt_calm, handleInput_calm, sayExit_calm, session_calm]
  cases (shell.noticeInterrupt.handleInput line).session.shouldExit <;> rfl

theorem afterFailure_calm (later : Nat) (shell : Shell) (error : ShellError) (failures : Nat) :
    (shell.calm later).afterFailure error failures =
      (shell.afterFailure error failures).calm later := by
  unfold afterFailure
  split
  · rfl
  · simp only
    split <;> rfl

theorem turn_calm [Launching] {later : Nat} {shell : Shell} (failures : Nat)
    (elsewhere : shell.source.events.length ≠ later + 1) :
    (shell.calm later).turn failures = (shell.turn failures).calm later := by
  rw [turn_eq, turn_eq, readLine_calm elsewhere]
  cases shell.readLine.2 with
  | error error => exact afterFailure_calm later _ error failures
  | ok outcome =>
      cases outcome with
      | line line => exact afterLine_calm later _ line
      | interrupted => rfl
      | endOfInput => exact congrArg Next.stop (sayExit_calm later _)

/-! ## No interrupt is left over -/

theorem interrupted_noticeInterrupt (shell : Shell) :
    shell.noticeInterrupt.source.interrupted = false := by
  rw [noticeInterrupt_eq]

theorem interrupted_handleInput [Launching] {shell : Shell}
    (clear : shell.source.interrupted = false) (line : String) :
    (shell.handleInput line).source.interrupted = false := by
  unfold handleInput
  split
  · exact clear
  · split
    · exact clear
    · rfl

theorem interrupts_of_error {event : Event} {error : ShellError}
    (failed : event.outcome = .error error) : event.interrupts = false := by
  cases event with
  | raise text => cases failed
  | _ => rfl

/-- A turn that the loop goes on after has noticed what arrived during its reads. -/
theorem interrupted_goOn [Launching] {shell next : Shell} {failures failed : Nat}
    (clear : shell.source.interrupted = false) (goes : shell.turn failures = .goOn next failed) :
    next.source.interrupted = false := by
  rw [turn_eq] at goes
  cases answer : shell.readLine.2 with
  | ok outcome =>
      rw [answer] at goes
      cases outcome with
      | line line =>
          simp only [afterLine] at goes
          split at goes
          · cases goes
          · cases goes
            exact interrupted_handleInput (interrupted_noticeInterrupt _) line
      | interrupted =>
          cases goes
          rfl
      | endOfInput => cases goes
  | error error =>
      -- No interrupt arrives together with a failure.
      rw [answer] at goes
      rw [outcome_readLine] at answer
      obtain ⟨prompt, source⟩ := shell.source_readLine
      have read : shell.readLine.1.source.interrupted = false := by
        rw [source, Source.give, interrupts_of_error answer, clear]
        rfl
      rw [source_afterFailure goes]
      exact read

/-! ## An interrupt at the prompt -/

section Prompt

variable {shell : Shell} {text : String} {back : List Event}

theorem readLine_calmed (clear : shell.source.interrupted = false)
    (next : shell.source.events = .raise text :: back) :
    (shell.offered (.line text :: back)).readLine =
      (shell.readLine.1.forgetInterrupt, .ok (.line text)) := by
  have prompted := shell.prompt_offered (.line text :: back)
  have source := shell.events_prompt
  simp only [readLine, prompted]
  generalize shell.prompt = shown at source
  obtain ⟨⟨session, reader, world, theme, colored⟩, prompt⟩ := shown
  cases source
  simp only [offered, Source.read, Source.next, next, List.headD_cons, forgetInterrupt, Source.give,
    Event.interrupts, clear]
  rfl

theorem readLine_raise (next : shell.source.events = .raise text :: back) :
    shell.readLine.2 = .ok (.line text) ∧ shell.readLine.1.source.interrupted = true := by
  obtain ⟨prompt, source⟩ := shell.source_readLine
  rw [outcome_readLine, source, Source.give, Source.next, next]
  exact ⟨rfl, Bool.or_true _⟩

theorem turn_raise [Launching] (failures : Nat) (clear : shell.source.interrupted = false)
    (next : shell.source.events = .raise text :: back) :
    ∃ read, (shell.offered (.line text :: back)).readLine = (read, .ok (.line text)) ∧
      (shell.offered (.line text :: back)).turn failures = read.afterLine text ∧
      shell.turn failures = (read.setStatus Status.interrupted).afterLine text := by
  obtain ⟨answer, raised⟩ := readLine_raise next
  have calmed := readLine_calmed clear next
  refine ⟨_, calmed, by rw [turn_eq, calmed], ?_⟩
  rw [turn_eq, answer]
  have noticed : shell.readLine.1.noticeInterrupt =
      (shell.readLine.1.forgetInterrupt.setStatus Status.interrupted).noticeInterrupt := by
    rw [noticeInterrupt, raised]
    rfl
  simp only [afterLine, noticed]

end Prompt

end Shell

/-! ## Whole runs -/

/-- Of the events, the line's here-documents read at least the first. -/
def Handling.TakesFirst [Launching] (handling : Handling) (events : List Event) : Prop :=
  events <:+ handling.shell.source.events ∧
    handling.after.source.events.length < events.length

theorem Handling.TakesFirst.length_lt [Launching] {shell : Shell} {failures : Nat}
    {handling : Handling} {events : List Event} (takes : handling.TakesFirst events)
    (hands : Moment.handling? ⟨shell, failures⟩ = some handling) :
    events.length < shell.source.events.length := by
  obtain ⟨suffix, fewer⟩ := takes
  have within := suffix.length_le
  rw [(Shell.readLine_of_handling hands).2, Shell.events_noticeInterrupt, Shell.events_readLine,
    List.length_drop] at within
  omega

def Shell.Next.loop [Launching] : Shell.Next → Shell
  | .stop ended => ended
  | .goOn next failures => next.runLoop failures

def Shell.Next.finish [Launching] (next : Shell.Next) : Shell :=
  { next.loop with source := next.loop.source.save }

theorem Shell.runLoop_eq [Launching] (shell : Shell) (failures : Nat) :
    shell.runLoop failures = (shell.turn failures).loop := by
  cases turned : shell.turn failures with
  | stop ended => exact runLoop_of_stop turned
  | goOn next failed => exact runLoop_of_goOn turned

namespace Run

variable [Launching] {shell ended : Shell} {failures : Nat} {moments : List Moment}

theorem interrupted (run : Run shell failures moments ended)
    (clear : shell.source.interrupted = false) :
    ∀ moment ∈ moments, moment.shell.source.interrupted = false := by
  induction run with
  | stop => simpa using clear
  | goOn goes _ ih =>
      exact List.forall_mem_cons.mpr ⟨clear, ih (Shell.interrupted_goOn clear goes)⟩

theorem length_le (run : Run shell failures moments ended) :
    (∀ moment ∈ moments, moment.events.length ≤ shell.source.events.length) ∧
      ended.source.events.length ≤ shell.source.events.length := by
  induction run with
  | @stop shell ended failures stops =>
      obtain ⟨answers, reads, _⟩ := shell.reads_turn failures
      rw [stops] at reads
      exact ⟨by simp [Moment.events], reads.length_le⟩
  | goOn goes _ ih =>
      have fewer := Shell.length_turn_lt goes
      refine ⟨List.forall_mem_cons.mpr ⟨Nat.le_refl _, fun moment member => ?_⟩, ?_⟩
      · have within := ih.1 moment member
        omega
      · have within := ih.2
        omega

/-- The prompt reads no event that a here-document reads. -/
theorem taken (run : Run shell failures moments ended) {handling : Handling}
    (member : handling ∈ moments.filterMap Moment.handling?) {events : List Event}
    (takes : handling.TakesFirst events) :
    events.length < shell.source.events.length ∧
      (∀ moment ∈ moments, moment.events.length ≠ events.length) ∧
      ended.source.events.length < events.length := by
  induction run with
  | @stop shell ended failures stops =>
      -- The line ended the loop, so the run ends with what its here-documents left.
      obtain ⟨moment, only, hands⟩ := List.mem_filterMap.mp member
      cases List.mem_singleton.mp only
      have fewer := takes.length_lt hands
      refine ⟨fewer, by simpa [Moment.events] using Nat.ne_of_gt fewer, ?_⟩
      rw [Shell.turn_of_handling hands] at stops
      split at stops
      · cases stops
        rw [Shell.source_sayExit]
        exact takes.2
      · cases stops
  | @goOn shell next ended failures failed moments goes run ih =>
      obtain ⟨moment, either, hands⟩ := List.mem_filterMap.mp member
      rcases List.mem_cons.mp either with rfl | more
      · -- The next prompt finds what the here-documents of this line left.
        have fewer := takes.length_lt hands
        rw [Shell.turn_of_handling hands] at goes
        split at goes
        · cases goes
        · cases goes
          obtain ⟨_, taken⟩ := takes
          obtain ⟨within, left⟩ := run.length_le
          refine ⟨fewer, List.forall_mem_cons.mpr ⟨Nat.ne_of_gt fewer, ?_⟩, by omega⟩
          intro moment member
          have short := within moment member
          omega
      · obtain ⟨before, others, after⟩ := ih (List.mem_filterMap.mpr ⟨moment, more, hands⟩)
        have fewer := Nat.lt_trans before (Shell.length_turn_lt goes)
        exact ⟨fewer, List.forall_mem_cons.mpr ⟨Nat.ne_of_gt fewer, others⟩, after⟩

theorem runLoop_calm {later : Nat} (run : Run shell failures moments ended)
    (elsewhere : ∀ moment ∈ moments, moment.events.length ≠ later + 1) :
    (shell.calm later).runLoop failures = ended.calm later := by
  induction run with
  | @stop shell ended failures stops =>
      have turn := Shell.turn_calm failures (elsewhere _ (List.mem_singleton.mpr rfl))
      rw [stops] at turn
      exact Shell.runLoop_of_stop turn
  | @goOn shell next ended failures failed moments goes _ ih =>
      obtain ⟨here, others⟩ := List.forall_mem_cons.mp elsewhere
      have turn := Shell.turn_calm failures here
      rw [goes] at turn
      rw [Shell.runLoop_of_goOn turn]
      exact ih others

/-- Up to the moment when the prompt reads the event, the run is the same with that event calmed. -/
theorem runLoop_moment {later : Nat} (run : Run shell failures moments ended) :
    ∀ moment ∈ moments, moment.events.length = later + 1 →
      shell.runLoop failures = moment.shell.runLoop moment.failures ∧
        (shell.calm later).runLoop failures =
          (moment.shell.calm later).runLoop moment.failures := by
  intro moment member here
  induction run with
  | stop =>
      rw [List.mem_singleton.mp member]
      exact ⟨rfl, rfl⟩
  | @goOn shell next ended failures failed moments goes run ih =>
      rcases List.mem_cons.mp member with rfl | more
      · exact ⟨rfl, rfl⟩
      · -- Now there are more events than at that moment, so another one is read.
        have fewer := Shell.length_turn_lt goes
        have within := run.length_le.1 moment more
        have elsewhere : shell.source.events.length ≠ later + 1 := by omega
        have turn := Shell.turn_calm failures elsewhere
        rw [goes] at turn
        rw [Shell.runLoop_of_goOn goes, Shell.runLoop_of_goOn turn]
        exact ih more

end Run

/-- An interrupt belongs to the read in which it arrives. None is left when the prompt reads. One
that arrives in a here-document changes nothing of the run, and one that arrives at the prompt sets
the status before the line is handled and changes nothing else. -/
theorem Shell.run_takes_interrupts [Launching] (shell : Shell)
    (clear : shell.source.interrupted = false) :
    (∀ moment ∈ shell.moments 0, moment.shell.source.interrupted = false) ∧
    ∀ front back text, shell.source.events = front ++ .raise text :: back →
      let calm := shell.offered (front ++ .line text :: back)
      (∀ handling ∈ shell.handlings, handling.TakesFirst (.raise text :: back) →
        calm.run = shell.run) ∧
      ∀ moment ∈ shell.moments 0, moment.shell.source.events = .raise text :: back →
        ∃ read, (moment.shell.offered (.line text :: back)).readLine = (read, .ok (.line text)) ∧
          calm.run = (read.afterLine text).finish ∧
          shell.run = ((read.setStatus Status.interrupted).afterLine text).finish := by
  have run := shell.run_runLoop 0
  have clears := run.interrupted clear
  refine ⟨clears, fun front back text split => ?_⟩
  have calmed : shell.calm back.length = shell.offered (front ++ .line text :: back) :=
    calm_of_split split
  refine ⟨fun handling member takes => ?_, fun moment member next => ?_⟩
  · -- The prompt never reads the event, and at the end it is no longer there to differ.
    obtain ⟨_, elsewhere, after⟩ := run.taken member takes
    have short : (shell.runLoop 0).source.events.length ≤ back.length := Nat.le_of_lt_succ after
    have same := run.runLoop_calm elsewhere
    rw [calm_of_short short, calmed] at same
    simp only [Shell.run, same]
  · -- Up to this moment the runs are the same, and its turn tells what they do next.
    have here : moment.events.length = back.length + 1 := congrArg List.length next
    have first : moment.shell.source.events = [] ++ .raise text :: back := next
    have momentCalmed : moment.shell.calm back.length = moment.shell.offered (.line text :: back) :=
      calm_of_split first
    obtain ⟨same, sameCalm⟩ := run.runLoop_moment moment member here
    obtain ⟨read, reads, calmTurn, turn⟩ :=
      turn_raise moment.failures (clears moment member) next
    rw [runLoop_eq moment.shell, turn] at same
    rw [momentCalmed, runLoop_eq (moment.shell.offered _), calmTurn, calmed] at sameCalm
    refine ⟨read, reads, ?_, ?_⟩
    · simp only [Shell.run, sameCalm, Next.finish]
    · simp only [Shell.run, same, Next.finish]

def interruptedShell : Shell :=
  { source := { events := [.raise "cat <<E", .raise "text", .line "E"] } }

open scoped Launching in
theorem Shell.run_takes_interrupts_interruptedShell :
    interruptedShell.source.interrupted = false ∧
    (interruptedShell.offered [.raise "cat <<E", .line "text", .line "E"]).run =
      interruptedShell.run ∧
    ∃ read,
      (interruptedShell.offered [.line "cat <<E", .raise "text", .line "E"]).readLine =
        (read, .ok (.line "cat <<E")) ∧
      (interruptedShell.offered [.line "cat <<E", .raise "text", .line "E"]).run =
        (read.afterLine "cat <<E").finish ∧
      interruptedShell.run =
        ((read.setStatus Status.interrupted).afterLine "cat <<E").finish := by
  have clear : interruptedShell.source.interrupted = false := rfl
  have events : interruptedShell.handlings.map
      (fun handling => (handling.shell.source.events, handling.after.source.events)) =
        [([.raise "text", .line "E"], [])] := by
    decide +kernel
  obtain ⟨handling, member, found⟩ :=
    List.mem_map.mp (events ▸ List.mem_singleton.mpr rfl)
  obtain ⟨before, after⟩ := Prod.mk.inj found
  have takes : handling.TakesFirst [.raise "text", .line "E"] := by
    rw [Handling.TakesFirst, before, after]
    exact ⟨List.suffix_refl _, by decide⟩
  have first : ⟨interruptedShell, 0⟩ ∈ interruptedShell.moments 0 := by
    rw [moments]
    exact List.mem_cons_self
  obtain ⟨_, split⟩ := interruptedShell.run_takes_interrupts clear
  refine ⟨clear, ?_, ?_⟩
  · exact (split [.raise "cat <<E"] [.line "E"] "text" rfl).1 handling member takes
  · exact (split [] [.raise "text", .line "E"] "cat <<E" rfl).2 ⟨interruptedShell, 0⟩ first rfl

end PipeShell
