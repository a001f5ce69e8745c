import PipeShell.Proofs.Run.LineUse

/-!
# Reads that fail inside here-documents

A failed read at the prompt drops one line. Inside a here-document it gives up the pipeline, and the
prompt goes on with the next event, which may still be text of the here-document. Main statement:
exactly when lines of such a text are handled as commands.
-/

namespace PipeShell

def Event.line? (event : Event) : Option String :=
  match event.outcome with
  | .ok (.line text) => some text
  | _ => none

def Event.isLine (event : Event) : Bool := event.line?.isSome

/-- A line, or a read that fails for a reason that does not end the shell. -/
def Event.Ordinary (event : Event) : Prop :=
  event.isLine = true ∨ ∃ failure, event.outcome = .error (.io failure)

/-- The events up to the line that is the delimiter, it included, and the events after it: what
belongs to a here-document whether reads fail in it or not. -/
def bodyEvents (delimiter : String) : List Event → List Event × List Event
  | [] => ([], [])
  | event :: rest =>
    if event.line? = some delimiter then ([event], rest)
    else
      let (body, later) := bodyEvents delimiter rest
      (event :: body, later)

/-- The events of several here-documents, one after another, and those after the last. -/
def textEvents : List String → List Event → List Event × List Event
  | [], events => ([], events)
  | delimiter :: others, events =>
    let (first, later) := bodyEvents delimiter events
    let (more, last) := textEvents others later
    (first ++ more, last)

/-- What is left of a text after the first read that fails in it. -/
def leftover (text : List Event) : List Event := (text.dropWhile Event.isLine).tail

theorem textEvents_cons (delimiter : String) (others : List String) (events : List Event) :
    textEvents (delimiter :: others) events =
      ((bodyEvents delimiter events).1 ++ (textEvents others (bodyEvents delimiter events).2).1,
        (textEvents others (bodyEvents delimiter events).2).2) :=
  rfl

theorem bodyEvents_append (delimiter : String) (events : List Event) :
    (bodyEvents delimiter events).1 ++ (bodyEvents delimiter events).2 = events := by
  induction events with
  | nil => rfl
  | cons event rest ih =>
      by_cases found : event.line? = some delimiter
      · simp [bodyEvents, found]
      · simp [bodyEvents, found, ih]

theorem textEvents_append (delimiters : List String) (events : List Event) :
    (textEvents delimiters events).1 ++ (textEvents delimiters events).2 = events := by
  induction delimiters generalizing events with
  | nil => rfl
  | cons delimiter others ih =>
      rw [textEvents_cons, List.append_assoc, ih]
      exact bodyEvents_append delimiter events

theorem textEvents_concat (first second : List String) (events : List Event) :
    textEvents (first ++ second) events =
      ((textEvents first events).1 ++ (textEvents second (textEvents first events).2).1,
        (textEvents second (textEvents first events).2).2) := by
  induction first generalizing events with
  | nil => rfl
  | cons delimiter others ih =>
      rw [List.cons_append, textEvents_cons, ih, textEvents_cons, List.append_assoc]

/-- A text that does not end with a line is not closed: it takes all events. -/
theorem bodyEvents_closed (delimiter : String) (events : List Event) :
    (bodyEvents delimiter events).2 = [] ∨
      ∃ front last, (bodyEvents delimiter events).1 = front ++ [last] ∧ last.isLine = true := by
  induction events with
  | nil => exact .inl rfl
  | cons event rest ih =>
      by_cases found : event.line? = some delimiter
      · exact .inr ⟨[], event, by simp [bodyEvents, found], by simp [Event.isLine, found]⟩
      · simp only [bodyEvents, if_neg found]
        obtain none | ⟨front, last, text, isLine⟩ := ih
        · exact .inl none
        · exact .inr ⟨event :: front, last, by rw [text, List.cons_append], isLine⟩

theorem textEvents_closed (delimiters : List String) (events : List Event) :
    (textEvents delimiters events).1 = [] ∨ (textEvents delimiters events).2 = [] ∨
      ∃ front last, (textEvents delimiters events).1 = front ++ [last] ∧ last.isLine = true := by
  induction delimiters generalizing events with
  | nil => exact .inl rfl
  | cons delimiter others ih =>
      rw [textEvents_cons]
      have split := textEvents_append others (bodyEvents delimiter events).2
      obtain none | none | ⟨front, last, text, isLine⟩ := ih (bodyEvents delimiter events).2
      · -- Nothing is added to the first body, so what it left is what is left.
        rw [none, List.nil_append] at split
        rw [none, split, List.append_nil]
        exact .inr (bodyEvents_closed delimiter events)
      · exact .inr (.inl none)
      · exact .inr (.inr ⟨(bodyEvents delimiter events).1 ++ front, last,
          by rw [text, List.append_assoc], isLine⟩)

/-! ## What collecting leaves -/

theorem Event.outcome_of_line? {event : Event} {text : String} (line : event.line? = some text) :
    event.outcome = .ok (.line text) := by
  unfold line? at line
  split at line
  · rename_i found outcome
    cases line
    exact outcome
  · cases line

theorem Event.line?_of_failed {event : Event} {error : ShellError}
    (failed : event.outcome = .error error) : event.line? = none := by
  rw [line?, failed]

theorem leftover_append_of_lines {first : List Event} (lines : first.all Event.isLine = true)
    (second : List Event) : leftover (first ++ second) = leftover second := by
  rw [leftover, List.dropWhile_append_of_pos (List.all_eq_true.mp lines), leftover]

theorem leftover_append_of_failed {first : List Event} (failed : first.all Event.isLine = false)
    (second : List Event) : leftover (first ++ second) = leftover first ++ second := by
  induction first with
  | nil => cases failed
  | cons event rest ih =>
      cases isLine : event.isLine with
      | false => simp [leftover, isLine]
      | true =>
          rw [List.all_cons, isLine, Bool.true_and] at failed
          simpa [leftover, isLine] using ih failed

namespace Collected

/-- The reading left what comes after the text, and succeeded if all of that was lines. Otherwise it
failed, and left the text after the failed read too. -/
structure Takes {α : Type} (result : Collected α) (text later : List Event) : Prop where
  events : result.2.1.events = leftover text ++ later
  success : text.all Event.isLine = true → ∃ value, result.2.2 = .ok (some value)
  failure : text.all Event.isLine = false → ∃ error, result.2.2 = .error error

theorem Takes.success_iff {α : Type} {result : Collected α} {text later : List Event}
    (takes : result.Takes text later) :
    (∃ value, result.2.2 = .ok (some value)) ↔ text.all Event.isLine = true := by
  cases lines : text.all Event.isLine with
  | true => exact iff_of_true (takes.success lines) rfl
  | false =>
      obtain ⟨error, failure⟩ := takes.failure lines
      simp [failure]

theorem takes_bind {α β : Type} {first : Collected α} {text more later : List Event}
    {next : World → Source → α → Collected β} (takes : first.Takes text (more ++ later))
    (rest : ∀ world (reached : Source) value, reached.events = more ++ later →
      (next world reached value).Takes more later) :
    (first.bind next).Takes (text ++ more) later := by
  obtain ⟨world, reached, outcome⟩ := first
  cases lines : text.all Event.isLine with
  | true =>
      obtain ⟨value, success⟩ := takes.success lines
      simp only at success
      subst success
      have left : reached.events = more ++ later := by
        have events := takes.events
        rwa [← List.append_nil text, leftover_append_of_lines lines] at events
      obtain ⟨events, success, failure⟩ := rest world reached value left
      have whole : (text ++ more).all Event.isLine = more.all Event.isLine := by
        rw [List.all_append, lines, Bool.true_and]
      rw [← whole] at success failure
      exact ⟨by rw [leftover_append_of_lines lines]; exact events, success, failure⟩
  | false =>
      obtain ⟨error, failure⟩ := takes.failure lines
      simp only at failure
      subst failure
      refine ⟨?_, fun all => ?_, fun _ => ⟨error, rfl⟩⟩
      · rw [leftover_append_of_failed lines, List.append_assoc]
        exact takes.events
      · rw [List.all_append, lines] at all
        cases all

theorem takes_map {α β : Type} {first : Collected α} {text later : List Event} {change : α → β}
    (takes : first.Takes text later) :
    (first.bind fun world source value => (world, source, .ok (some (change value)))).Takes
      text later := by
  rw [← List.append_nil text]
  refine takes_bind takes fun world reached value left => ?_
  exact ⟨left, fun _ => ⟨change value, rfl⟩, nofun⟩

end Collected

theorem takes_readBody (session : Session) (heredoc : Redirection) (world : World)
    (source : Source) (body : String) {events : List Event}
    (ordinary : ∀ event ∈ events, event.Ordinary) :
    (readBody session heredoc world source body events).Takes
      (bodyEvents heredoc.target events).1 (bodyEvents heredoc.target events).2 := by
  induction events generalizing world source body with
  | nil => exact ⟨rfl, fun _ => ⟨body, rfl⟩, nofun⟩
  | cons event rest ih =>
      obtain ⟨first, others⟩ := List.forall_mem_cons.mp ordinary
      obtain isLine | ⟨failure, outcome⟩ := first
      · obtain ⟨text, line⟩ := Option.isSome_iff_exists.mp isLine
        have outcome := event.outcome_of_line? line
        by_cases found : text = heredoc.target
        · subst found
          simp only [readBody, outcome, bodyEvents, line, if_true]
          exact ⟨by simp [leftover, isLine], fun _ => ⟨body, rfl⟩, by simp [isLine]⟩
        · have notFound : event.line? ≠ some heredoc.target := by simpa [line] using found
          simp only [readBody, outcome, bodyEvents, if_neg found, if_neg notFound]
          obtain ⟨events, success, failed⟩ := ih _ _ _ others
          exact ⟨by simpa [leftover, isLine] using events, by simpa [isLine] using success,
            by simpa [isLine] using failed⟩
      · have notLine : event.isLine = false := by
          rw [Event.isLine, Event.line?_of_failed outcome]
          rfl
        have notFound : event.line? ≠ some heredoc.target := by simp [Event.line?_of_failed outcome]
        simp only [readBody, outcome, bodyEvents, if_neg notFound]
        refine ⟨?_, by simp [notLine], fun _ => ⟨_, rfl⟩⟩
        rw [leftover, List.dropWhile_cons_of_neg (by simp [notLine]), List.tail_cons,
          bodyEvents_append]
        rfl

theorem ordinary_of_suffix {events later : List Event} (suffix : later <:+ events)
    (ordinary : ∀ event ∈ events, event.Ordinary) : ∀ event ∈ later, event.Ordinary :=
  fun event member => ordinary event (suffix.subset member)

theorem takes_readBodies (session : Session) (world : World) (source : Source)
    (heredocs : List Redirection) (ordinary : ∀ event ∈ source.events, event.Ordinary) :
    (readBodies session world source heredocs).Takes
      (textEvents (heredocs.map Redirection.target) source.events).1
      (textEvents (heredocs.map Redirection.target) source.events).2 := by
  induction heredocs generalizing world source with
  | nil => exact ⟨rfl, fun _ => ⟨[], rfl⟩, nofun⟩
  | cons heredoc rest ih =>
      have others := ordinary_of_suffix ⟨_, bodyEvents_append heredoc.target source.events⟩ ordinary
      have first := takes_readBody session heredoc world source "" ordinary
      rw [← textEvents_append (rest.map Redirection.target)
        (bodyEvents heredoc.target source.events).2] at first
      rw [List.map_cons, textEvents_cons]
      refine Collected.takes_bind first fun world reached body left => ?_
      rw [textEvents_append] at left
      rw [← left] at others ⊢
      exact Collected.takes_map (ih world reached others)

theorem takes_collectHeredocs (session : Session) (world : World) (source : Source)
    (commands : List Command) (ordinary : ∀ event ∈ source.events, event.Ordinary) :
    (collectHeredocs session world source commands).Takes
      (textEvents (heredocDelimiters commands) source.events).1
      (textEvents (heredocDelimiters commands) source.events).2 := by
  induction commands generalizing world source with
  | nil => exact ⟨rfl, fun _ => ⟨[], rfl⟩, nofun⟩
  | cons command rest ih =>
      let delimiters := command.heredocs.map Redirection.target
      have others := ordinary_of_suffix ⟨_, textEvents_append delimiters source.events⟩ ordinary
      have first := takes_readBodies session world source command.heredocs ordinary
      rw [← textEvents_append (heredocDelimiters rest) (textEvents delimiters source.events).2]
        at first
      rw [heredocDelimiters, List.flatMap_cons, List.map_append, textEvents_concat]
      refine Collected.takes_bind first fun world reached bodies left => ?_
      rw [textEvents_append] at left
      rw [← left] at others ⊢
      exact Collected.takes_map (ih world reached others)

/-! ## One line -/

def Handling.text (handling : Handling) : List Event :=
  (textEvents handling.delimiters handling.shell.source.events).1

def Handling.later (handling : Handling) : List Event :=
  (textEvents handling.delimiters handling.shell.source.events).2

def Handling.collected (handling : Handling) (pipeline : Pipeline) :
    Collected (List (List String)) :=
  collectHeredocs handling.shell.session handling.shell.world
    (handling.shell.source.remember handling.line) pipeline.commands

theorem Handling.text_append_later (handling : Handling) :
    handling.text ++ handling.later = handling.shell.source.events :=
  textEvents_append handling.delimiters handling.shell.source.events

theorem shouldExit_execute_of_error [Launching] {world : World} {source : Source}
    {session : Session} {pipeline : Pipeline} {error : ShellError}
    (failed : (collectHeredocs session world source pipeline.commands).2.2 = .error error) :
    (execute world source session pipeline).2.2.shouldExit = session.shouldExit := by
  unfold execute
  split
  · rfl
  · split <;> simp_all [Session.setStatus]

namespace Handling

theorem takes_collected (handling : Handling) {pipeline : Pipeline}
    (parsed : parseLine handling.shell.session handling.line = .ok pipeline)
    (ordinary : ∀ event ∈ handling.shell.source.events, event.Ordinary) :
    (handling.collected pipeline).Takes handling.text handling.later := by
  have delimiters : handling.delimiters = heredocDelimiters pipeline.commands := by
    rw [Handling.delimiters, parsed]
  rw [text, later, delimiters]
  exact takes_collectHeredocs _ _ _ _ ordinary

theorem no_text (handling : Handling) (none : handling.delimiters = []) :
    handling.text = [] ∧ handling.later = handling.shell.source.events := by
  rw [text, later, none]
  exact ⟨rfl, rfl⟩

/-- What the prompt goes on with after a line: what a failed read left of its here-documents, and
the events after them. A line that such a read gives up does not ask for the end. -/
theorem after_events [Launching] (handling : Handling)
    (ordinary : ∀ event ∈ handling.shell.source.events, event.Ordinary) :
    handling.after.source.events = leftover handling.text ++ handling.later ∧
      (handling.text.all Event.isLine = false →
        handling.after.session.shouldExit = handling.shell.session.shouldExit) := by
  cases space : isSpace handling.line with
  | true =>
      have none : handling.delimiters = [] := by
        rw [delimiters, parseLine_space handling.shell.session space]
        rfl
      obtain ⟨text, later⟩ := handling.no_text none
      rw [after, handleInput_space handling.shell space, text, later]
      exact ⟨rfl, fun failed => by cases failed⟩
  | false =>
      rw [after, handleInput_text handling.shell space]
      cases parsed : parseLine handling.shell.session handling.line with
      | error error =>
          obtain ⟨text, later⟩ := handling.no_text (by rw [delimiters, parsed])
          rw [text, later]
          exact ⟨rfl, fun failed => by cases failed⟩
      | ok pipeline =>
          obtain ⟨events, _, failure⟩ := handling.takes_collected parsed ordinary
          refine ⟨?_, fun failed => ?_⟩
          · rw [← events, collected, ← source_execute]
            rfl
          · obtain ⟨error, failed⟩ := failure failed
            exact shouldExit_execute_of_error failed

end Handling

/-! ## Reads at the prompt -/

theorem readLine_next {shell : Shell} {event : Event} {rest : List Event}
    (events : shell.source.events = event :: rest) :
    shell.readLine = (shell.readLine.1, event.outcome) ∧
      shell.readLine.1.source.events = rest := by
  refine ⟨Prod.ext rfl ?_, ?_⟩
  · rw [Shell.outcome_readLine, Source.next, events, List.headD_cons]
  · rw [Shell.events_readLine, events, List.drop_one, List.tail_cons]

/-- A failed read hands on no line, and the third in a row ends the loop. -/
theorem turn_failed [Launching] {shell : Shell} {event : Event} {rest : List Event}
    {failure : IoFailure} (events : shell.source.events = event :: rest)
    (failed : event.outcome = .error (.io failure)) (count : Nat) :
    Moment.handling? ⟨shell, count⟩ = none ∧ ∃ next : Shell, next.source.events = rest ∧
      shell.turn count =
        if failureLimit ≤ count + 1 then .stop next else .goOn next (count + 1) := by
  obtain ⟨reads, left⟩ := readLine_next events
  rw [failed] at reads
  rw [Moment.handling?, Shell.turn, reads]
  refine ⟨rfl, _, ?_, rfl⟩
  exact left

theorem turn_next_line {shell : Shell} {event : Event} {rest : List Event}
    (events : shell.source.events = event :: rest) (isLine : event.isLine = true) (count : Nat) :
    ∃ handling : Handling, Moment.handling? ⟨shell, count⟩ = some handling ∧
      event.line? = some handling.line ∧ handling.shell.source.events = rest := by
  obtain ⟨line, found⟩ := Option.isSome_iff_exists.mp isLine
  obtain ⟨reads, left⟩ := readLine_next events
  rw [event.outcome_of_line? found] at reads
  refine ⟨⟨shell.readLine.1.noticeInterrupt, line⟩, Shell.handling?_of_line count reads, found, ?_⟩
  rw [Shell.events_noticeInterrupt, left]

theorem outcome_of_ordinary {event : Event} (ordinary : event.Ordinary)
    (notLine : event.isLine = false) : ∃ failure, event.outcome = .error (.io failure) := by
  obtain isLine | failed := ordinary
  · rw [notLine] at isLine
    cases isLine
  · exact failed

/-- The prompt reads past fewer failed reads than end the loop, and handles the line after them. -/
theorem Run.first_handling [Launching] {shell ended : Shell} {count : Nat} {moments : List Moment}
    (run : Run shell count moments ended) {failures rest : List Event} {event : Event}
    (ordinary : ∀ event ∈ shell.source.events, event.Ordinary)
    (events : shell.source.events = failures ++ event :: rest)
    (failed : ∀ event ∈ failures, event.isLine = false) (isLine : event.isLine = true)
    (few : count + failures.length < failureLimit) :
    ∃ handling others, moments.filterMap Moment.handling? = handling :: others ∧
      handling.shell.source.events = rest := by
  induction failures generalizing shell count moments with
  | nil =>
      obtain ⟨handling, hands, _, left⟩ := turn_next_line events isLine count
      cases run with
      | stop => exact ⟨handling, [], by rw [List.filterMap_cons_some hands]; rfl, left⟩
      | goOn => exact ⟨handling, _, by rw [List.filterMap_cons_some hands], left⟩
  | cons first failures ih =>
      obtain ⟨notLine, others⟩ := List.forall_mem_cons.mp failed
      rw [List.cons_append] at events
      obtain ⟨failure, outcome⟩ :=
        outcome_of_ordinary (ordinary first (by simp [events])) notLine
      obtain ⟨nothing, next, left, turn⟩ := turn_failed events outcome count
      rw [List.length_cons] at few
      rw [if_neg (by omega)] at turn
      cases run with
      | stop stops =>
          rw [turn] at stops
          cases stops
      | goOn goes run =>
          rw [turn] at goes
          cases goes
          rw [List.filterMap_cons_none nothing]
          refine ih run ?_ left others (by omega)
          intro other member
          exact ordinary other (by rw [events, ← left]; exact List.mem_cons_of_mem first member)

/-- The prompt handles nothing if too many reads fail, or if nothing comes after those that do. -/
theorem Run.no_handling [Launching] {shell ended : Shell} {count : Nat} {moments : List Moment}
    (run : Run shell count moments ended) {failures rest : List Event}
    (ordinary : ∀ event ∈ shell.source.events, event.Ordinary)
    (events : shell.source.events = failures ++ rest)
    (failed : ∀ event ∈ failures, event.isLine = false) (few : count < failureLimit)
    (enough : failureLimit ≤ count + failures.length ∨ rest = []) :
    moments.filterMap Moment.handling? = [] := by
  induction failures generalizing shell count moments with
  | nil =>
      rw [List.length_nil, Nat.add_zero] at enough
      obtain rfl := enough.resolve_left (by omega)
      obtain ⟨nothing, stop⟩ := turn_end count ⟨0, events⟩
      cases run with
      | stop => rw [List.filterMap_cons_none nothing]; rfl
      | goOn goes =>
          rw [stop] at goes
          cases goes
  | cons first failures ih =>
      obtain ⟨notLine, others⟩ := List.forall_mem_cons.mp failed
      rw [List.cons_append] at events
      obtain ⟨failure, outcome⟩ :=
        outcome_of_ordinary (ordinary first (by simp [events])) notLine
      obtain ⟨nothing, next, left, turn⟩ := turn_failed events outcome count
      rw [List.length_cons] at enough
      cases run with
      | stop => rw [List.filterMap_cons_none nothing]; rfl
      | goOn goes run =>
          rw [turn] at goes
          split at goes
          · cases goes
          · cases goes
            rw [List.filterMap_cons_none nothing]
            refine ih run ?_ left others (by omega) (enough.imp_left fun many => by omega)
            intro other member
            exact ordinary other (by rw [events, ← left]; exact List.mem_cons_of_mem first member)

/-! ## Which lines of a text are handled -/

/-- The later line is read from behind the text of the earlier one. -/
def ReadAfterText (earlier later : Handling) : Prop :=
  ∃ skipped event, event.line? = some later.line ∧
    earlier.shell.source.events =
      earlier.text ++ (skipped ++ event :: later.shell.source.events)

def failedBefore (events : List Event) : Nat :=
  (events.takeWhile fun event => !event.isLine).length

/-- The prompt comes to a line of the text: the session is not about to end, and what a failed read
left of the text has a line in it before reads have failed too often. -/
def Handling.exposes (handling : Handling) : Bool :=
  let left := leftover handling.text
  !handling.shell.session.shouldExit && left.any Event.isLine &&
    decide (failedBefore left < failureLimit)

theorem leftover_suffix (text : List Event) : leftover text <:+ text :=
  (List.tail_suffix _).trans (List.dropWhile_suffix _)

theorem leftover_of_lines {text : List Event} (lines : text.all Event.isLine = true) :
    leftover text = [] := by
  have same := leftover_append_of_lines lines []
  rwa [List.append_nil] at same

theorem event_of_handling {shell : Shell} {count : Nat} {handling : Handling}
    (hands : Moment.handling? ⟨shell, count⟩ = some handling) :
    ∃ event, event.line? = some handling.line ∧
      shell.source.events = event :: handling.shell.source.events := by
  obtain ⟨outcome, same⟩ := Shell.readLine_of_handling hands
  rw [same, Shell.events_noticeInterrupt, Shell.events_readLine]
  rw [Shell.outcome_readLine, Source.next] at outcome
  cases events : shell.source.events with
  | nil =>
      rw [events] at outcome
      cases outcome
  | cons event rest =>
      rw [events, List.headD_cons] at outcome
      exact ⟨event, by rw [Event.line?, outcome], rfl⟩

namespace Handling

theorem after_suffix [Launching] (handling : Handling)
    (ordinary : ∀ event ∈ handling.shell.source.events, event.Ordinary) :
    handling.after.source.events <:+ handling.shell.source.events := by
  rw [(handling.after_events ordinary).1, ← handling.text_append_later]
  obtain ⟨front, split⟩ := leftover_suffix handling.text
  exact ⟨front, by rw [← List.append_assoc, split]⟩

theorem later_of_no_lines {handling : Handling} (failed : handling.text.all Event.isLine = false)
    (noLine : (leftover handling.text).any Event.isLine = false) : handling.later = [] := by
  obtain none | none | ⟨front, last, text, isLine⟩ :=
    textEvents_closed handling.delimiters handling.shell.source.events
  · rw [text, none] at failed
    cases failed
  · exact none
  · have closed : handling.text = front ++ [last] := text
    have frontFailed : front.all Event.isLine = false := by simpa [closed, isLine] using failed
    rw [closed, leftover_append_of_failed frontFailed] at noLine
    simp [isLine] at noLine

theorem exposes_of_lines {handling : Handling} (lines : handling.text.all Event.isLine = true) :
    handling.exposes = false := by
  simp [exposes, leftover_of_lines lines]

theorem exposes_of_exit [Launching] {handling : Handling}
    (ordinary : ∀ event ∈ handling.shell.source.events, event.Ordinary)
    (exits : handling.after.session.shouldExit = true) : handling.exposes = false := by
  cases lines : handling.text.all Event.isLine with
  | true => exact exposes_of_lines lines
  | false =>
      rw [(handling.after_events ordinary).2 lines] at exits
      simp [exposes, exits]

end Handling

theorem goOn_ordinary [Launching] {shell next : Shell} {count failed : Nat}
    (goes : shell.turn count = .goOn next failed)
    (ordinary : ∀ event ∈ shell.source.events, event.Ordinary) :
    next.source.events <:+ shell.source.events ∧
      (Moment.handling? ⟨shell, count⟩ = none ∨
        ∃ handling, Moment.handling? ⟨shell, count⟩ = some handling ∧ next = handling.after ∧
          failed = 0 ∧ handling.after.session.shouldExit = false) := by
  cases hands : Moment.handling? ⟨shell, count⟩ with
  | some handling =>
      obtain ⟨event, _, events⟩ := event_of_handling hands
      have others := ordinary_of_suffix ⟨[event], events.symm⟩ ordinary
      have turn := Shell.turn_of_handling hands
      rw [goes] at turn
      split at turn
      · cases turn
      · rename_i stays
        cases turn
        rw [Bool.not_eq_true] at stays
        refine ⟨?_, .inr ⟨handling, rfl, rfl, rfl, stays⟩⟩
        rw [events]
        exact (handling.after_suffix others).trans (List.suffix_cons event _)
  | none =>
      refine ⟨?_, .inl rfl⟩
      cases events : shell.source.events with
      | nil =>
          rw [(turn_end count ⟨0, events⟩).2] at goes
          cases goes
      | cons event rest =>
          cases isLine : event.isLine with
          | true =>
              obtain ⟨handling, some_, _⟩ := turn_next_line events isLine count
              rw [hands] at some_
              cases some_
          | false =>
              obtain ⟨failure, outcome⟩ :=
                outcome_of_ordinary (ordinary event (by simp [events])) isLine
              obtain ⟨_, other, left, turn⟩ := turn_failed events outcome count
              rw [goes] at turn
              split at turn
              · cases turn
              · cases turn
                rw [left]
                exact List.suffix_cons event rest

/-- Every line of a run is read by the prompt, so it is an event of the source. -/
theorem Run.handling_suffix [Launching] {shell ended : Shell} {count : Nat} {moments : List Moment}
    (run : Run shell count moments ended)
    (ordinary : ∀ event ∈ shell.source.events, event.Ordinary) :
    ∀ handling ∈ moments.filterMap Moment.handling?, ∃ skipped event,
      event.line? = some handling.line ∧
        shell.source.events = skipped ++ event :: handling.shell.source.events := by
  intro handling member
  obtain ⟨moment, inMoments, hands⟩ := List.mem_filterMap.mp member
  induction run with
  | stop =>
      cases List.mem_singleton.mp inMoments
      obtain ⟨event, isLine, events⟩ := event_of_handling hands
      exact ⟨[], event, isLine, events⟩
  | goOn goes run ih =>
      rcases List.mem_cons.mp inMoments with rfl | later
      · obtain ⟨event, isLine, events⟩ := event_of_handling hands
        exact ⟨[], event, isLine, events⟩
      · have suffix := (goOn_ordinary goes ordinary).1
        obtain ⟨skipped, event, isLine, events⟩ := ih (ordinary_of_suffix suffix ordinary)
          (List.mem_filterMap.mpr ⟨moment, later, hands⟩) later
        obtain ⟨front, split⟩ := suffix
        exact ⟨front ++ skipped, event, isLine, by rw [← split, events, List.append_assoc]⟩

theorem split_failures (events : List Event) :
    ∃ failures, (∀ event ∈ failures, event.isLine = false) ∧
      failures.length = failedBefore events ∧
      (events = failures ∧ events.any Event.isLine = false ∨
        ∃ event rest, events = failures ++ event :: rest ∧ event.isLine = true ∧
          events.any Event.isLine = true) := by
  induction events with
  | nil => exact ⟨[], by simp, rfl, .inl ⟨rfl, rfl⟩⟩
  | cons event rest ih =>
      cases isLine : event.isLine with
      | true =>
          exact ⟨[], by simp, by simp [failedBefore, isLine],
            .inr ⟨event, rest, rfl, isLine, by simp [isLine]⟩⟩
      | false =>
          obtain ⟨failures, failed, length, others⟩ := ih
          refine ⟨event :: failures, List.forall_mem_cons.mpr ⟨isLine, failed⟩, ?_, ?_⟩
          · simpa [failedBefore, isLine] using length
          · obtain ⟨same, none⟩ | ⟨line, after, same, found, some_⟩ := others
            · exact .inl ⟨by rw [← same], by simp [isLine, none]⟩
            · exact .inr ⟨line, after, by rw [same, List.cons_append], found, by simp [some_]⟩

/-- After a line that does not ask for the end, the prompt handles none of its text exactly if none
of it is exposed. -/
theorem Run.readAfterText_all_iff [Launching] {handling : Handling} {ended : Shell}
    {moments : List Moment} (run : Run handling.after 0 moments ended)
    (ordinary : ∀ event ∈ handling.shell.source.events, event.Ordinary)
    (stays : handling.after.session.shouldExit = false) :
    (∀ later ∈ moments.filterMap Moment.handling?, ReadAfterText handling later) ↔
      handling.exposes = false := by
  obtain ⟨after, session⟩ := handling.after_events ordinary
  have others := ordinary_of_suffix (handling.after_suffix ordinary) ordinary
  cases lines : handling.text.all Event.isLine with
  | true =>
      refine iff_of_true (fun later member => ?_) (Handling.exposes_of_lines lines)
      obtain ⟨skipped, event, isLine, events⟩ := run.handling_suffix others later member
      rw [after, leftover_of_lines lines, List.nil_append] at events
      exact ⟨skipped, event, isLine, by rw [← events, handling.text_append_later]⟩
  | false =>
      rw [session lines] at stays
      -- The prompt comes to the failed reads that are left first, and then to what is after them.
      obtain ⟨failures, failed, length, ⟨left, noLine⟩ | ⟨event, rest, left, isLine, some_⟩⟩ :=
        split_failures (leftover handling.text)
      · rw [left] at after
        have none := run.no_handling others after failed (by decide)
          (.inr (Handling.later_of_no_lines lines noLine))
        rw [none]
        exact iff_of_true (by simp) (by simp [Handling.exposes, noLine])
      · rw [left, List.append_assoc, List.cons_append] at after
        by_cases few : failures.length < failureLimit
        · obtain ⟨next, handlings, handles, nextEvents⟩ :=
            run.first_handling others after failed isLine (by omega)
          refine iff_of_false (fun kept => ?_) ?_
          · obtain ⟨skipped, event, _, back⟩ := kept next (by simp [handles])
            have long := congrArg List.length handling.text_append_later
            rw [back, nextEvents] at long
            simp only [List.length_append, List.length_cons] at long
            omega
          · rw [length] at few
            simp [Handling.exposes, stays, some_, few]
        · have none := run.no_handling others after failed (by decide) (.inl (by omega))
          rw [none]
          rw [length] at few
          exact iff_of_true (by simp) (by simp [Handling.exposes, few])

/-- Of all lines of a run, none is text of an earlier one exactly if no text is exposed. -/
theorem Run.readAfterText_iff [Launching] {shell ended : Shell} {count : Nat}
    {moments : List Moment} (run : Run shell count moments ended)
    (ordinary : ∀ event ∈ shell.source.events, event.Ordinary) :
    (moments.filterMap Moment.handling?).Pairwise ReadAfterText ↔
      ∀ handling ∈ moments.filterMap Moment.handling?, handling.exposes = false := by
  induction run with
  | @stop shell ended count stops =>
      cases hands : Moment.handling? ⟨shell, count⟩ with
      | none => simp [hands]
      | some handling =>
          obtain ⟨event, _, events⟩ := event_of_handling hands
          have others := ordinary_of_suffix ⟨[event], events.symm⟩ ordinary
          rw [Shell.turn_of_handling hands] at stops
          split at stops
          · rename_i exits
            simpa [hands] using Handling.exposes_of_exit others exits
          · cases stops
  | @goOn shell next ended count failed moments goes run ih =>
      obtain ⟨suffix, none | ⟨handling, hands, rfl, rfl, stays⟩⟩ := goOn_ordinary goes ordinary
      · rw [List.filterMap_cons_none none]
        exact ih (ordinary_of_suffix suffix ordinary)
      · obtain ⟨event, _, events⟩ := event_of_handling hands
        have others := ordinary_of_suffix ⟨[event], events.symm⟩ ordinary
        rw [List.filterMap_cons_some hands, List.pairwise_cons, List.forall_mem_cons,
          ih (ordinary_of_suffix suffix ordinary), run.readAfterText_all_iff others stays]

/-! ## Whole runs -/

/-- In a run over lines and failed reads, a pipeline is run only if all reads of its here-documents
were lines; a failed read gives it up, and the prompt goes on right after that read. So a line of a
here-document is handled as a command exactly if a read has failed before it and fewer than three
reads in a row fail from there to a line. -/
theorem Shell.run_keeps_text_iff [Launching] (shell : Shell)
    (ordinary : ∀ event ∈ shell.source.events, event.Ordinary) :
    (∀ handling ∈ shell.handlings,
      handling.after.source.events = leftover handling.text ++ handling.later ∧
      ∀ pipeline, parseLine handling.shell.session handling.line = .ok pipeline →
        ((∃ bodies, (handling.collected pipeline).2.2 = .ok (some bodies)) ↔
          handling.text.all Event.isLine = true)) ∧
    (shell.handlings.Pairwise ReadAfterText ↔
      ∀ handling ∈ shell.handlings, handling.exposes = false) := by
  have run := shell.run_runLoop 0
  refine ⟨fun handling member => ?_, run.readAfterText_iff ordinary⟩
  obtain ⟨skipped, event, _, events⟩ := run.handling_suffix ordinary handling member
  have others : ∀ event ∈ handling.shell.source.events, event.Ordinary :=
    ordinary_of_suffix ⟨skipped ++ [event], by simp [events]⟩ ordinary
  exact ⟨(handling.after_events others).1,
    fun pipeline parsed => (handling.takes_collected parsed others).success_iff⟩

def shellWithFailures : Shell :=
  let failure := Event.ioError (.message "broken")
  { source := { events :=
      [.line "cat <<E", failure, failure, failure, failure, .line "exit 7", .line "E"] } }

open scoped Launching in
theorem Shell.run_keeps_text_of_shellWithFailures :
    (∀ event ∈ shellWithFailures.source.events, event.Ordinary) ∧
      shellWithFailures.handlings.map Handling.line = ["cat <<E"] ∧
      shellWithFailures.handlings.Pairwise ReadAfterText := by
  have ordinary : ∀ event ∈ shellWithFailures.source.events, event.Ordinary := by
    simp [shellWithFailures, Event.Ordinary, Event.isLine, Event.line?, Event.outcome]
  have hidden : ∀ handling ∈ shellWithFailures.handlings, handling.exposes = false := by
    have none : shellWithFailures.handlings.any Handling.exposes = false := by decide +kernel
    simpa using none
  exact ⟨ordinary, by decide +kernel,
    (Shell.run_keeps_text_iff shellWithFailures ordinary).2.mpr hidden⟩

def shellWithFailure : Shell :=
  { source := { events :=
      [.line "cat <<E", .line "a", .ioError (.message "broken"), .line "exit 7", .line "E"] } }

open scoped Launching in
/-- The rest of the text is handled as a command, and ends the shell. -/
theorem Shell.run_handles_text_of_shellWithFailure :
    (∀ event ∈ shellWithFailure.source.events, event.Ordinary) ∧
      shellWithFailure.handlings.map Handling.line = ["cat <<E", "exit 7"] ∧
      ¬ shellWithFailure.handlings.Pairwise ReadAfterText := by
  have ordinary : ∀ event ∈ shellWithFailure.source.events, event.Ordinary := by
    simp [shellWithFailure, Event.Ordinary, Event.isLine, Event.line?, Event.outcome]
  refine ⟨ordinary, by decide +kernel, fun kept => ?_⟩
  have hidden := ((shellWithFailure.run_runLoop 0).readAfterText_iff ordinary).mp kept
  have some_ : shellWithFailure.handlings.any Handling.exposes = true := by decide +kernel
  obtain ⟨handling, member, exposed⟩ := List.any_eq_true.mp some_
  rw [hidden handling member] at exposed
  cases exposed

end PipeShell
