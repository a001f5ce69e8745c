import PipeShell.Proofs.Run.BodyTexts

/-!
# Here-documents that are broken off

An interrupt or a failed read inside a here-document gives up the whole pipeline. Main statement:
this happens exactly if reading comes to such an event before all texts are complete, and then
nothing of the pipeline was done, whatever its commands and its other redirections are.
-/

namespace PipeShell

namespace Event

def Breaks (event : Event) : Prop :=
  event.outcome = .ok .interrupted ∨ ∃ error, event.outcome = .error error

def broken {α : Type} (event : Event) : Except ShellError (Option α) :=
  match event.outcome with
  | .error error => .error error
  | .ok _ => .ok none

def tell (event : Event) (world : World) : World :=
  match event.outcome with
  | .error error => world.report error.message
  | .ok _ => world

def brokenStatus (event : Event) : Int :=
  match event.outcome with
  | .error error => error.status
  | .ok _ => Status.interrupted

end Event

/-- Reading the here-documents comes to the event inside one of them: those before it are supplied,
and of its own text some lines are read. -/
def BreaksOff (heredocs : List Redirection) (events : List Event) (stop : Event)
    (later : List Event) : Prop :=
  ∃ (supplied : List Supplied) (heredoc : Redirection) (more : List Redirection)
    (lines : List String),
    heredocs = supplied.map Supplied.heredoc ++ heredoc :: more ∧ heredoc.target ∉ lines ∧
      Answers events (supplied.flatMap Supplied.outcomes ++ lines.map .line) (stop :: later) ∧
      stop.Breaks

/-! ## Texts are complete or broken off -/

theorem Answers.exists_used {events later : List Event} {outcomes : List ReadOutcome}
    {stop : Event} (answers : Answers events outcomes (stop :: later)) :
    ∃ given, events = given ++ stop :: later := by
  generalize reached : stop :: later = last at answers
  induction answers with
  | done => exact ⟨[], reached ▸ rfl⟩
  | @next event _ _ _ _ _ _ ih =>
      obtain ⟨given, same⟩ := ih reached
      exact ⟨event :: given, by rw [same, List.cons_append]⟩
  | exhausted _ ih => exact ih reached

def Supplied.addLine (supplied : Supplied) (line : String)
    (other : line ≠ supplied.heredoc.target) : Supplied :=
  { supplied with
    lines := line :: supplied.lines
    inside := by
      rw [List.mem_cons, not_or]
      exact ⟨other.symm, supplied.inside⟩ }

theorem supplied_or_broken (heredoc : Redirection) (events : List Event) :
    (∃ (supplied : Supplied) (later : List Event), supplied.heredoc = heredoc ∧
        Answers events supplied.outcomes later) ∨
      ∃ (lines : List String) (stop : Event) (later : List Event), heredoc.target ∉ lines ∧
        Answers events (lines.map .line) (stop :: later) ∧ stop.Breaks := by
  let unclosed : Supplied := ⟨heredoc, [], false, List.not_mem_nil⟩
  let closed : Supplied := ⟨heredoc, [], true, List.not_mem_nil⟩
  -- Only a line that is not the delimiter leaves the text open, and then the rest decides.
  induction events with
  | nil => exact .inl ⟨unclosed, [], rfl, .exhausted (.done [])⟩
  | cons event rest ih =>
      cases outcome : event.outcome with
      | error error =>
          exact .inr ⟨[], event, rest, List.not_mem_nil, .done _, .inr ⟨error, outcome⟩⟩
      | ok answer =>
          cases answer with
          | interrupted => exact .inr ⟨[], event, rest, List.not_mem_nil, .done _, .inl outcome⟩
          | endOfInput => exact .inl ⟨unclosed, rest, rfl, .next outcome (.done rest)⟩
          | line text =>
              by_cases found : text = heredoc.target
              · subst found
                exact .inl ⟨closed, rest, rfl, .next outcome (.done rest)⟩
              · obtain ⟨supplied, later, rfl, answers⟩ | ⟨lines, stop, later, inside, answers⟩ := ih
                · exact .inl ⟨supplied.addLine text found, later, rfl, .next outcome answers⟩
                · refine .inr ⟨text :: lines, stop, later, ?_, .next outcome answers.1, answers.2⟩
                  rw [List.mem_cons, not_or]
                  exact ⟨Ne.symm found, inside⟩

/-- Whatever the events are, the texts are complete, or one of them is broken off. -/
theorem supplied_or_breaksOff (heredocs : List Redirection) (events : List Event) :
    (∃ (supplied : List Supplied) (later : List Event),
        heredocs = supplied.map Supplied.heredoc ∧
        Answers events (supplied.flatMap Supplied.outcomes) later) ∨
      ∃ stop later, BreaksOff heredocs events stop later := by
  induction heredocs generalizing events with
  | nil => exact .inl ⟨[], events, rfl, .done events⟩
  | cons heredoc rest ih =>
      obtain ⟨first, middle, rfl, here⟩ | ⟨lines, stop, later, inside, answers, breaks⟩ :=
        supplied_or_broken heredoc events
      · obtain ⟨supplied, later, rfl, others⟩ |
          ⟨stop, later, supplied, heredoc, more, lines, rfl, inside, answers, breaks⟩ := ih middle
        · exact .inl ⟨first :: supplied, later, rfl, (Answers.append_iff _ _).mpr ⟨_, here, others⟩⟩
        · refine .inr
            ⟨stop, later, first :: supplied, heredoc, more, lines, rfl, inside, ?_, breaks⟩
          rw [List.flatMap_cons, List.append_assoc]
          exact (Answers.append_iff _ _).mpr ⟨_, here, answers⟩
      · exact .inr ⟨stop, later, [], heredoc, rest, lines, rfl, inside, answers, breaks⟩

/-! ## What a pipeline leaves that is given up -/

theorem readBody_broken (session : Session) (heredoc : Redirection) (world : World)
    (source : Source) {stop : Event} (later : List Event) (body : String)
    (breaks : stop.Breaks) :
    ∃ read left, left.events = later ∧
      readBody session heredoc world source body (stop :: later) = (read, left, stop.broken) := by
  obtain outcome | ⟨error, outcome⟩ := breaks
  · simp only [readBody, Event.broken, outcome]
    exact ⟨_, _, rfl, rfl⟩
  · simp only [readBody, Event.broken, outcome]
    exact ⟨_, _, rfl, rfl⟩

theorem Event.bind_broken {α β : Type} (stop : Event) (world : World) (source : Source)
    (next : World → Source → α → Collected β) :
    Collected.bind (world, source, stop.broken) next = (world, source, stop.broken) := by
  unfold Event.broken
  cases stop.outcome <;> rfl

theorem readBodies_broken (session : Session) (world : World) (source : Source)
    {heredocs : List Redirection} {stop : Event} {later : List Event}
    (breaks : BreaksOff heredocs source.events stop later) :
    ∃ read left, left.events = later ∧
      readBodies session world source heredocs = (read, left, stop.broken) := by
  obtain ⟨supplied, heredoc, more, lines, rfl, inside, answers, breaks⟩ := breaks
  obtain ⟨middle, before, here⟩ := (Answers.append_iff _ _).mp answers
  obtain ⟨world, source, rfl, reads⟩ :=
    readBodies_supplied session world source supplied (heredoc :: more) before
  obtain ⟨world, source, _, skips⟩ := readBody_lines session heredoc world source "" inside here
  obtain ⟨read, left, reaches, stops⟩ := readBody_broken session heredoc world source later _ breaks
  refine ⟨read, left, reaches, ?_⟩
  -- Neither the here-documents after this one nor the stages after them are reached.
  rw [reads, readBodies, skips, stops, Event.bind_broken, Event.bind_broken]

theorem collected_iff (session : Session) (world : World) (source : Source)
    (commands : List Command) :
    (∃ bodies, (collectHeredocs session world source commands).2.2 = .ok (some bodies)) ↔
      ∀ stop later, ¬ BreaksOff (commands.flatMap Command.heredocs) source.events stop later := by
  rw [collectHeredocs_eq]
  constructor
  · rintro ⟨bodies, success⟩ stop later breaks
    obtain ⟨read, left, _, broken⟩ := readBodies_broken session world source breaks
    rw [broken, Event.bind_broken] at success
    unfold Event.broken at success
    split at success <;> cases success
  · intro whole
    obtain ⟨supplied, later, written, answers⟩ | ⟨stop, later, breaks⟩ :=
      supplied_or_breaksOff (commands.flatMap Command.heredocs) source.events
    · obtain ⟨read, left, _, reads⟩ :=
        readBodies_supplied session world source supplied [] answers
      rw [written, ← List.append_nil (supplied.map _), reads]
      exact ⟨_, rfl⟩
    · exact absurd breaks (whole stop later)

theorem ShellError.status_emod (error : ShellError) : error.status % 256 = error.status := by
  cases error <;> rfl

/-- The commands and the redirections that are no here-documents have no part in this. -/
theorem execute_of_broken [Launching] {world read : World} {source left : Source}
    {session : Session} {pipeline : Pipeline} {stop : Event} (nonempty : pipeline.isEmpty = false)
    (broken : readBodies session world source (pipeline.commands.flatMap Command.heredocs) =
      (read, left, stop.broken)) :
    execute world source session pipeline =
      (stop.tell read, left, { session with exitStatus := stop.brokenStatus }) := by
  have collects := collectHeredocs_eq session world source pipeline.commands
  rw [broken, Event.bind_broken] at collects
  rw [execute, if_neg (by simp [nonempty]), collects]
  unfold Event.broken Event.tell Event.brokenStatus
  cases stop.outcome with
  | error error => simp only [World.fail, Session.setStatus, error.status_emod]
  | ok outcome => rfl

/-- The pipeline is given up at the event: nothing of it is done. The process is the same, and with
it the directory; of the session, only the status is new. -/
structure GivenUp [Launching] (world : World) (source : Source) (session : Session)
    (pipeline : Pipeline) (stop : Event) (later : List Event) : Prop where
  undisturbed : world.Undisturbed (execute world source session pipeline).1
  interrupted : stop.outcome = .ok .interrupted →
    (execute world source session pipeline).2.2 = { session with exitStatus := 130 }
  failed : ∀ error, stop.outcome = .error error →
    (execute world source session pipeline).2.2 = { session with exitStatus := error.status }
  used : ∃ given, source.events = given ++ stop :: later
  left : (execute world source session pipeline).2.1.events = later
  others : ∀ other : Pipeline, other.isEmpty = false →
    other.commands.flatMap Command.heredocs = pipeline.commands.flatMap Command.heredocs →
      execute world source session other = execute world source session pipeline

/-- Collecting here-documents is interrupted or fails exactly if a text is broken off, and then the
pipeline is given up before any part of it runs. -/
theorem execute_breaks_off [Launching] (world : World) (source : Source) (session : Session)
    {pipeline : Pipeline} (nonempty : pipeline.isEmpty = false) :
    ((∃ bodies,
        (collectHeredocs session world source pipeline.commands).2.2 = .ok (some bodies)) ↔
      ∀ stop later,
        ¬ BreaksOff (pipeline.commands.flatMap Command.heredocs) source.events stop later) ∧
    ∀ stop later,
      BreaksOff (pipeline.commands.flatMap Command.heredocs) source.events stop later →
        GivenUp world source session pipeline stop later := by
  refine ⟨collected_iff session world source pipeline.commands, fun stop later breaks => ?_⟩
  obtain ⟨read, left, reaches, broken⟩ := readBodies_broken session world source breaks
  have executed := execute_of_broken nonempty broken
  have reads :=
    undisturbed_readBodies session (pipeline.commands.flatMap Command.heredocs) world source
  rw [broken] at reads
  obtain ⟨_, _, _, _, _, _, answers, _⟩ := breaks
  refine ⟨?_, ?_, ?_, answers.exists_used, ?_, ?_⟩
  · rw [executed]
    unfold Event.tell
    split
    · exact reads.trans (World.undisturbed_report _ _)
    · exact reads
  · intro outcome
    simp only [executed, Event.brokenStatus, outcome]
    rfl
  · intro error outcome
    simp only [executed, Event.brokenStatus, outcome]
  · rw [executed]
    exact reaches
  · intro other nonemptyToo same
    rw [executed, execute_of_broken nonemptyToo (same ▸ broken)]

def brokenStages : Pipeline :=
  ⟨[{ arguments := ["echo", "a"]
      redirections :=
        [{ operator := .heredoc, target := "A" }, { operator := .output, target := "out" }] },
    { arguments := ["export", "B=1"]
      redirections := [{ operator := .heredoc, target := "B" }] }]⟩

def brokenSource : Source :=
  { events := [.line "x", .line "A", .line "y", .ioError (.message "broken"), .line "B"] }

open scoped Launching in
theorem execute_breaks_off_brokenStages :
    brokenStages.isEmpty = false ∧
      BreaksOff (brokenStages.commands.flatMap Command.heredocs) brokenSource.events
        (.ioError (.message "broken")) [.line "B"] ∧
      let done := execute {} brokenSource {} brokenStages
      done.1.files.node? ["out"] = none ∧ done.2.1.events = [.line "B"] ∧
        done.2.2 = { exitStatus := 1 } := by
  have nonempty : brokenStages.isEmpty = false := by decide
  let first : Supplied := ⟨{ operator := .heredoc, target := "A" }, ["x"], true, by decide⟩
  have breaks : BreaksOff (brokenStages.commands.flatMap Command.heredocs) brokenSource.events
      (.ioError (.message "broken")) [.line "B"] :=
    ⟨[first], { operator := .heredoc, target := "B" }, [], ["y"], by decide, by decide,
      .next rfl <| .next rfl <| .next rfl <| .done _, .inr ⟨_, rfl⟩⟩
  have givenUp := (execute_breaks_off {} brokenSource {} nonempty).2 _ _ breaks
  refine ⟨nonempty, breaks, ?_, givenUp.left, givenUp.failed _ rfl⟩
  rw [givenUp.undisturbed.contents ["out"] nofun]
  rfl

end PipeShell
