import PipeShell.Proofs.Run.LineUse

/-!
# What a run reads

The prompt and the here-documents read from the same source. Main statement: over any events a run
ends, each of its reads takes the next event, only its last read may be one of the prompt that
finds nothing left, and the history is saved once, after all reads.
-/

namespace PipeShell

inductive Reader where
  | prompt
  | heredoc
  deriving DecidableEq, Repr

/-- One read: who asked, and the event that answered if there was one left. -/
structure Request where
  reader : Reader
  answer : Option Event
  deriving DecidableEq, Repr

/-- Nothing was read between the two, and nothing saved. Lines may have been remembered, and an
interrupt forgotten. -/
structure Source.Rests (before after : Source) : Prop where
  events : after.events = before.events
  prompts : after.prompts = before.prompts
  saves : after.saves = before.saves

/-- From one source to another by these reads and no other. Each takes the next event; once there
is none, it finds the end of input. -/
inductive Source.Reads : Source → List Request → Source → Prop where
  | done (source : Source) : Reads source [] source
  | rest {before middle after : Source} {requests : List Request} :
      before.Rests middle → Reads middle requests after → Reads before requests after
  | read {before after : Source} {requests : List Request} (reader : Reader) (prompt : String) :
      Reads (before.give prompt before.next (before.events.drop 1)) requests after →
        Reads before (⟨reader, before.events.head?⟩ :: requests) after

namespace Source.Reads

variable {before middle after : Source} {requests early late : List Request}

theorem trans (first : before.Reads early middle) (second : middle.Reads late after) :
    before.Reads (early ++ late) after := by
  induction first with
  | done => exact second
  | rest rests _ ih => exact .rest rests (ih second)
  | read reader prompt _ ih => exact .read reader prompt (ih second)

theorem of_rests (rests : before.Rests after) : before.Reads [] after := .rest rests (.done after)

theorem events (reads : before.Reads requests after) :
    before.events = requests.filterMap Request.answer ++ after.events := by
  induction reads with
  | done => rfl
  | rest rests _ ih => rw [← rests.events, ih]
  | @read before after requests reader prompt _ ih =>
      rw [events_give] at ih
      cases left : before.events with
      | nil => simpa [left] using ih
      | cons event rest =>
          have first : Request.answer ⟨reader, some event⟩ = some event := rfl
          rw [left, List.drop_one, List.tail_cons] at ih
          rw [List.head?_cons, List.filterMap_cons_some first, List.cons_append, ← ih]

theorem saves (reads : before.Reads requests after) : after.saves = before.saves := by
  induction reads with
  | done => rfl
  | rest rests _ ih => exact ih.trans rests.saves
  | read _ _ _ ih => exact ih

theorem length_prompts (reads : before.Reads requests after) :
    after.prompts.length = before.prompts.length + requests.length := by
  induction reads with
  | done => rfl
  | rest rests _ ih => rw [ih, rests.prompts]
  | read _ _ _ ih =>
      rw [ih, give, ask, List.length_append, List.length_singleton, List.length_cons]
      omega

theorem length_le (reads : before.Reads requests after) :
    after.events.length ≤ before.events.length := by
  rw [reads.events, List.length_append]
  exact Nat.le_add_left _ _

end Source.Reads

/-! ## Here-documents -/

def Source.HeredocsRead (before after : Source) : Prop :=
  ∃ answers : List (Option Event), before.Reads (answers.map (Request.mk .heredoc)) after

namespace Source.HeredocsRead

variable {before middle after : Source}

theorem of_rests (rests : before.Rests after) : before.HeredocsRead after :=
  ⟨[], .of_rests rests⟩

theorem refl (source : Source) : source.HeredocsRead source := ⟨[], .done source⟩

theorem trans (first : before.HeredocsRead middle) (second : middle.HeredocsRead after) :
    before.HeredocsRead after := by
  obtain ⟨early, first⟩ := first
  obtain ⟨late, second⟩ := second
  exact ⟨early ++ late, by rw [List.map_append]; exact first.trans second⟩

theorem next
    (more : (before.give heredocPrompt before.next (before.events.drop 1)).HeredocsRead after) :
    before.HeredocsRead after := by
  obtain ⟨answers, reads⟩ := more
  exact ⟨before.events.head? :: answers, .read .heredoc heredocPrompt reads⟩

theorem bind {α β : Type} {first : Collected α} {next : World → Source → α → Collected β}
    (reads : before.HeredocsRead first.2.1)
    (more : ∀ world (reached : Source) value, reached.HeredocsRead (next world reached value).2.1) :
    before.HeredocsRead (first.bind next).2.1 := by
  obtain ⟨world, reached, (error | (_ | value))⟩ := first
  · exact reads
  · exact reads
  · exact reads.trans (more world reached value)

end Source.HeredocsRead

theorem heredocsRead_readBody (session : Session) (heredoc : Redirection) (world : World)
    (source : Source) (body : String) {events : List Event} (same : source.events = events) :
    source.HeredocsRead (readBody session heredoc world source body events).2.1 := by
  induction events generalizing world source body with
  | nil =>
      refine .next ?_
      rw [Source.next, same]
      exact .refl _
  | cons event rest ih =>
      refine .next ?_
      rw [Source.next, same, List.headD_cons, List.drop_one, List.tail_cons]
      simp only [readBody]
      split
      · exact .refl _
      · exact .refl _
      · exact .refl _
      · split
        · exact .refl _
        · exact ih _ _ _ rfl

theorem heredocsRead_readBodies (session : Session) (world : World) (source : Source)
    (heredocs : List Redirection) :
    source.HeredocsRead (readBodies session world source heredocs).2.1 := by
  induction heredocs generalizing world source with
  | nil => exact .refl source
  | cons heredoc rest ih =>
      refine .bind (heredocsRead_readBody session heredoc world source "" rfl) ?_
      intro world reached body
      exact .bind (ih world reached) fun _ _ _ => .refl _

theorem heredocsRead_collectHeredocs (session : Session) (world : World) (source : Source)
    (commands : List Command) :
    source.HeredocsRead (collectHeredocs session world source commands).2.1 := by
  induction commands generalizing world source with
  | nil => exact .refl source
  | cons command rest ih =>
      refine .bind (heredocsRead_readBodies session world source command.heredocs) ?_
      intro world reached bodies
      exact .bind (ih world reached) fun _ _ _ => .refl _

namespace Shell

/-! ## Lines and turns -/

theorem heredocsRead_handleInput [Launching] (shell : Shell) (line : String) :
    shell.source.HeredocsRead (shell.handleInput line).source := by
  unfold handleInput
  split
  · exact .refl _
  · have remembers : shell.source.Rests (shell.source.remember line) := ⟨rfl, rfl, rfl⟩
    split
    · exact .of_rests remembers
    · rename_i pipeline _
      have reads := heredocsRead_collectHeredocs shell.session shell.world
        (shell.source.remember line) pipeline.commands
      rw [← source_execute] at reads
      exact (Source.HeredocsRead.of_rests remembers).trans (reads.trans (.of_rests ⟨rfl, rfl, rfl⟩))

theorem rests_noticeInterrupt (shell : Shell) :
    shell.source.Rests shell.noticeInterrupt.source := by
  rw [noticeInterrupt_eq]
  exact ⟨rfl, rfl, rfl⟩

theorem rests_afterFailure (shell : Shell) (error : ShellError) (failures : Nat) :
    shell.source.Rests (shell.afterFailure error failures).shell.source := by
  obtain ⟨_, _, _, after⟩ := shell_afterFailure shell error failures
  rw [after]
  exact ⟨rfl, rfl, rfl⟩

theorem source_readLine (shell : Shell) :
    ∃ prompt, shell.readLine.1.source =
      shell.source.give prompt shell.source.next (shell.source.events.drop 1) := by
  refine ⟨shell.prompt.2, ?_⟩
  simp only [readLine, Source.read, events_prompt]

theorem heredocsRead_turn [Launching] (shell : Shell) (failures : Nat) :
    shell.readLine.1.source.HeredocsRead (shell.turn failures).shell.source := by
  rw [turn_eq]
  cases shell.readLine.2 with
  | error error => exact .of_rests (rests_afterFailure _ error failures)
  | ok outcome =>
      cases outcome with
      | line line =>
          have handled := (Source.HeredocsRead.of_rests (rests_noticeInterrupt _)).trans
            (heredocsRead_handleInput shell.readLine.1.noticeInterrupt line)
          simp only [afterLine]
          split
          · rw [Next.shell, source_sayExit]
            exact handled
          · exact handled
      | interrupted => exact .of_rests ⟨rfl, rfl, rfl⟩
      | endOfInput =>
          rw [Next.shell, source_sayExit]
          exact .refl _

/-- A turn is one read of the prompt and then those of here-documents, if there was an event. -/
theorem reads_turn [Launching] (shell : Shell) (failures : Nat) :
    ∃ answers : List (Option Event),
      shell.source.Reads
        (⟨.prompt, shell.source.events.head?⟩ :: answers.map (Request.mk .heredoc))
        (shell.turn failures).shell.source ∧
      (shell.source.events = [] → answers = []) := by
  obtain ⟨prompt, same⟩ := shell.source_readLine
  by_cases nothing : shell.source.events = []
  · refine ⟨[], .read .prompt prompt ?_, fun _ => rfl⟩
    rw [(turn_end failures ⟨0, nothing⟩).2, Next.shell, source_sayExit, same]
    exact .done _
  · obtain ⟨answers, reads⟩ := shell.heredocsRead_turn failures
    rw [same] at reads
    exact ⟨answers, .read .prompt prompt reads, fun none => absurd none nothing⟩

end Shell

/-! ## Whole runs -/

def promptAnswers (requests : List Request) : List (Option Event) :=
  (requests.filter fun request => request.reader = .prompt).map Request.answer

def Moment.events (moment : Moment) : List Event := moment.shell.source.events

theorem promptAnswers_turn (answer : Option Event) (answers : List (Option Event)) :
    promptAnswers (⟨.prompt, answer⟩ :: answers.map (Request.mk .heredoc)) = [answer] := by
  simp [promptAnswers, List.filter_map, Function.comp_def]

theorem promptAnswers_append (early late : List Request) :
    promptAnswers (early ++ late) = promptAnswers early ++ promptAnswers late := by
  simp [promptAnswers]

namespace Run

variable [Launching] {shell ended : Shell} {failures : Nat} {moments : List Moment}

/-- The reads of a run are those of its turns. Only the last can be one of the prompt that finds
nothing, since the loop does not go on after it. -/
theorem reads (run : Run shell failures moments ended) :
    ∃ requests, requests ≠ [] ∧ shell.source.Reads requests ended.source ∧
      promptAnswers requests = moments.map (·.events.head?) ∧
      ⟨.prompt, none⟩ ∉ requests.dropLast := by
  induction run with
  | @stop shell ended failures stops =>
      obtain ⟨answers, reads, alone⟩ := shell.reads_turn failures
      rw [stops] at reads
      refine ⟨_, List.cons_ne_nil _ _, reads, promptAnswers_turn _ answers, ?_⟩
      cases left : shell.source.events with
      | nil => simp [alone left]
      | cons event rest =>
          intro member
          simpa using List.dropLast_subset _ member
  | @goOn shell next ended failures failed moments goes _ ih =>
      obtain ⟨answers, reads, _⟩ := shell.reads_turn failures
      obtain ⟨requests, some_, more, prompts, once⟩ := ih
      rw [goes] at reads
      refine ⟨_, by simp, reads.trans more, ?_, ?_⟩
      · rw [promptAnswers_append, promptAnswers_turn, prompts, List.map_cons]
        rfl
      · rw [List.dropLast_append_of_ne_nil some_, List.mem_append]
        rintro (here | later)
        · have fewer := Shell.length_turn_lt goes
          cases left : shell.source.events with
          | nil => simp [left] at fewer
          | cons event rest => simp [left] at here
        · exact once later

/-- Every turn but the last uses up an event. -/
theorem length_moments_le (run : Run shell failures moments ended) :
    moments.length ≤ shell.source.events.length + 1 := by
  induction run with
  | stop => exact Nat.le_add_left _ _
  | goOn goes _ ih =>
      have fewer := Shell.length_turn_lt goes
      rw [List.length_cons]
      omega

end Run

/-- The end of input and a failure of the line editor leave the session as it is. -/
theorem session_of_stop [Launching] {shell ended : Shell} {failures : Nat}
    (stops : shell.turn failures = .stop ended)
    (answered : shell.readLine.2 = .ok .endOfInput ∨
      ∃ failure, shell.readLine.2 = .error (.lineEditor failure)) :
    ended.session = shell.session := by
  rw [Shell.turn_eq] at stops
  obtain answer | ⟨failure, answer⟩ := answered
  · rw [answer] at stops
    cases stops
    rw [Shell.session_sayExit, Shell.session_readLine]
  · rw [answer] at stops
    cases stops
    exact Shell.session_readLine shell

/-- What a run does with its source. The loop is finite; `requests` are all its reads, of the prompt
and of here-documents, and each takes the next event. The history is saved when they are done. An
end of input and a failure of the line editor leave the session, and so the status, as they are. -/
structure SourceUse [Launching] (shell : Shell) (requests : List Request) : Prop where
  turns : Run shell 0 (shell.moments 0) (shell.runLoop 0)
  length_moments_le : (shell.moments 0).length ≤ shell.source.events.length + 1
  reads : shell.source.Reads requests (shell.runLoop 0).source
  asked : shell.run.source.prompts.length = shell.source.prompts.length + requests.length
  used : shell.source.events = requests.filterMap Request.answer ++ shell.run.source.events
  prompts : promptAnswers requests = (shell.moments 0).map (·.events.head?)
  exhausted_once : ⟨.prompt, none⟩ ∉ requests.dropLast
  saved : shell.run = { shell.runLoop 0 with source := (shell.runLoop 0).source.save }
  saves : shell.run.source.saves = shell.source.saves + 1
  left : ∀ last, (shell.moments 0).getLast? = some last →
    (last.shell.readLine.2 = .ok .endOfInput ∨
      ∃ failure, last.shell.readLine.2 = .error (.lineEditor failure)) →
    shell.run.session = last.shell.session

/-- Every run over finitely many events ends and accounts for them. -/
theorem Shell.run_uses_source [Launching] (shell : Shell) :
    ∃ requests, SourceUse shell requests := by
  have run := shell.run_runLoop 0
  obtain ⟨requests, _, reads, prompts, once⟩ := run.reads
  refine ⟨requests, run, run.length_moments_le, reads, reads.length_prompts, reads.events, prompts,
    once, rfl, ?_, ?_⟩
  · exact congrArg (· + 1) reads.saves
  · intro last found answered
    obtain ⟨final, same, stops⟩ := run.exists_last
    rw [found] at same
    cases same
    have kept : (shell.runLoop 0).session = last.shell.session := session_of_stop stops answered
    exact kept

-- Both here-documents find nothing, and then the prompt does.
open scoped Launching in
example : ({ source := { events := [.line "cat <<A <<B"] } } : Shell).run.source.prompts =
    ["", "> ", "> ", ""] := by
  decide +kernel

end PipeShell
