import PipeShell.Proofs.Run.BodyPipes
import Mathlib.Data.List.SplitLengths

/-!
# The texts of here-documents

What reading gets for a here-document is lines that are not its delimiter, and then the delimiter or
the end of input. Main statement: the bodies that are collected are exactly those lines, in the
places of their redirections, and what comes after them is left to be read.
-/

namespace PipeShell

/-- Reading from the first events gets these answers and leaves the last events. Once nothing is
left there is only the end of input. -/
inductive Answers : List Event → List ReadOutcome → List Event → Prop where
  | done (events : List Event) : Answers events [] events
  | next {event : Event} {rest later : List Event} {outcome : ReadOutcome}
      {outcomes : List ReadOutcome} :
      event.outcome = .ok outcome → Answers rest outcomes later →
        Answers (event :: rest) (outcome :: outcomes) later
  | exhausted {outcomes : List ReadOutcome} {later : List Event} :
      Answers [] outcomes later → Answers [] (.endOfInput :: outcomes) later

namespace Answers

variable {events later : List Event}

theorem eq_of_nil (answers : Answers events [] later) : events = later := by
  cases answers
  rfl

theorem of_lines (lines : List String) (later : List Event) :
    Answers (lines.map .line ++ later) (lines.map .line) later := by
  induction lines with
  | nil => exact .done later
  | cons line rest ih => exact .next rfl ih

theorem append_iff (first second : List ReadOutcome) :
    Answers events (first ++ second) later ↔
      ∃ middle, Answers events first middle ∧ Answers middle second later := by
  constructor
  · intro answers
    induction first generalizing events with
    | nil => exact ⟨events, .done events, answers⟩
    | cons outcome rest ih =>
        cases answers with
        | next met more =>
            obtain ⟨middle, early, late⟩ := ih more
            exact ⟨middle, .next met early, late⟩
        | exhausted more =>
            obtain ⟨middle, early, late⟩ := ih more
            exact ⟨middle, .exhausted early, late⟩
  · rintro ⟨middle, early, late⟩
    induction early with
    | done => exact late
    | next met _ ih => exact .next met (ih late)
    | exhausted _ ih => exact .exhausted (ih late)

end Answers

/-- A here-document with what reading gets for it: lines that are not its delimiter, and then the
delimiter, unless the input ends there. -/
structure Supplied where
  heredoc : Redirection
  lines : List String
  closed : Bool := true
  inside : heredoc.target ∉ lines

namespace Supplied

def ending (supplied : Supplied) : ReadOutcome :=
  if supplied.closed then .line supplied.heredoc.target else .endOfInput

theorem ending_eq (supplied : Supplied) :
    supplied.ending = .line supplied.heredoc.target ∨ supplied.ending = .endOfInput := by
  unfold ending
  split
  · exact .inl rfl
  · exact .inr rfl

def outcomes (supplied : Supplied) : List ReadOutcome :=
  supplied.lines.map .line ++ [supplied.ending]

def events (supplied : Supplied) : List Event :=
  supplied.lines.map .line ++
    [if supplied.closed then .line supplied.heredoc.target else .endOfInput]

theorem answers_events (supplied : Supplied) (later : List Event) :
    Answers (supplied.events ++ later) supplied.outcomes later := by
  rw [events, outcomes, List.append_assoc]
  refine (Answers.append_iff _ _).mpr ⟨_, .of_lines supplied.lines _, .next ?_ (.done later)⟩
  unfold ending
  split <;> rfl

/-- Lines and delimiters one after another answer the here-documents in order. -/
theorem answers_flatMap_events (supplied : List Supplied) (later : List Event) :
    Answers (supplied.flatMap Supplied.events ++ later) (supplied.flatMap Supplied.outcomes)
      later := by
  induction supplied with
  | nil => exact .done later
  | cons first rest ih =>
      rw [List.flatMap_cons, List.append_assoc]
      exact (Answers.append_iff _ _).mpr ⟨_, first.answers_events _, ih⟩

/-- What the command will see: the lines, each expanded unless the delimiter was quoted, and each
with a newline after it. -/
def body (session : Session) (supplied : Supplied) : String :=
  String.ofList (supplied.lines.flatMap fun line =>
    (if supplied.heredoc.expandBody then expandText session line.toList else line.toList) ++ ['\n'])

theorem join_bodyLine (session : Session) (supplied : Supplied) :
    String.join (supplied.lines.map (bodyLine session supplied.heredoc)) =
      supplied.body session := by
  rw [← String.toList_inj, body, String.toList_ofList, String.toList_join, List.flatMap_map]
  refine List.flatMap_congr fun line _ => ?_
  rw [bodyLine, String.toList_append, apply_ite String.toList, String.toList_ofList]
  rfl

end Supplied

def heredocCounts (commands : List Command) : List Nat :=
  commands.map fun command => command.heredocs.length

/-! ## One here-document -/

theorem readBody_lines (session : Session) (heredoc : Redirection) (world : World)
    (source : Source) (body : String) {lines : List String} {later : List Event}
    (inside : heredoc.target ∉ lines) (answers : Answers source.events (lines.map .line) later) :
    ∃ read left, left.events = later ∧
      readBody session heredoc world source body source.events =
        readBody session heredoc read left
          (body ++ String.join (lines.map (bodyLine session heredoc))) later := by
  -- What the prompt and the event do to the world is of no interest, so the state is general.
  induction lines generalizing world source body with
  | nil => exact ⟨world, source, answers.eq_of_nil, by simp [answers.eq_of_nil]⟩
  | cons line rest ih =>
      rw [List.mem_cons, not_or] at inside
      rw [List.map_cons] at answers
      generalize same : source.events = events at answers
      cases answers with
      | @next event events _ _ _ met more =>
          have other : line ≠ heredoc.target := Ne.symm inside.1
          obtain ⟨read, left, reaches, reading⟩ := ih
            (event.arrive (source.showPrompt world heredocPrompt))
            (source.give heredocPrompt event events) (body ++ bodyLine session heredoc line)
            inside.2 more
          refine ⟨read, left, reaches, ?_⟩
          simp only [readBody, met, if_neg other]
          rw [Source.events_give] at reading
          rw [reading, List.map_cons, String.join_cons, String.append_assoc]

theorem readBody_ending (session : Session) (heredoc : Redirection) (world : World)
    (source : Source) (body : String) {ending : ReadOutcome} {later : List Event}
    (ends : ending = .line heredoc.target ∨ ending = .endOfInput)
    (answers : Answers source.events [ending] later) :
    ∃ read left, left.events = later ∧
      readBody session heredoc world source body source.events =
        (read, left, .ok (some body)) := by
  generalize source.events = events at answers
  cases answers with
  | next met more =>
      cases more
      obtain rfl | rfl := ends
      · simp only [readBody, met, if_true]
        exact ⟨_, _, rfl, rfl⟩
      · simp only [readBody, met]
        exact ⟨_, _, rfl, rfl⟩
  | exhausted more =>
      cases more
      exact ⟨_, _, rfl, rfl⟩

theorem readBody_supplied (session : Session) (world : World) (source : Source)
    (supplied : Supplied) {later : List Event}
    (answers : Answers source.events supplied.outcomes later) :
    ∃ read left, left.events = later ∧
      readBody session supplied.heredoc world source "" source.events =
        (read, left, .ok (some (supplied.body session))) := by
  obtain ⟨middle, lines, ending⟩ := (Answers.append_iff _ _).mp answers
  obtain ⟨world, source, rfl, reads⟩ :=
    readBody_lines session supplied.heredoc world source "" supplied.inside lines
  obtain ⟨read, left, reaches, done⟩ :=
    readBody_ending session supplied.heredoc world source (supplied.body session)
      supplied.ending_eq ending
  refine ⟨read, left, reaches, ?_⟩
  rw [reads, String.empty_append, supplied.join_bodyLine]
  exact done

/-! ## One after another -/

/-- Here-documents that are supplied give their bodies, and the others read on after them. -/
theorem readBodies_supplied (session : Session) (world : World) (source : Source)
    (supplied : List Supplied) (more : List Redirection) {later : List Event}
    (answers : Answers source.events (supplied.flatMap Supplied.outcomes) later) :
    ∃ read left, left.events = later ∧
      readBodies session world source (supplied.map Supplied.heredoc ++ more) =
        (readBodies session read left more).bind fun world source bodies =>
          (world, source, .ok (some (supplied.map (Supplied.body session) ++ bodies))) := by
  induction supplied generalizing world source with
  | nil => exact ⟨world, source, answers.eq_of_nil, (Collected.bind_done _).symm⟩
  | cons first rest ih =>
      obtain ⟨middle, here, others⟩ := (Answers.append_iff _ _).mp answers
      obtain ⟨world, source, rfl, body⟩ := readBody_supplied session world source first here
      obtain ⟨read, left, reaches, bodies⟩ := ih world source others
      refine ⟨read, left, reaches, ?_⟩
      simp only [List.map_cons, List.cons_append, readBodies, body, Collected.bind, bodies]
      rcases readBodies session read left more with ⟨world, source, (error | (_ | late))⟩ <;> rfl

/-- Collecting is reading one after another, and then cutting the bodies as the stages are. -/
theorem collectHeredocs_eq (session : Session) (world : World) (source : Source)
    (commands : List Command) :
    collectHeredocs session world source commands =
      (readBodies session world source (commands.flatMap Command.heredocs)).bind
        fun world source bodies =>
          (world, source, .ok (some ((heredocCounts commands).splitLengths bodies))) := by
  induction commands generalizing world source with
  | nil => rfl
  | cons command rest ih =>
      rw [List.flatMap_cons, readBodies_append, Collected.bind_assoc]
      simp only [collectHeredocs, ih, Collected.bind_assoc]
      rcases first : readBodies session world source command.heredocs with
        ⟨read, left, (error | (_ | stage))⟩
      · rfl
      · rfl
      · -- There are as many bodies as here-documents, so the list is cut after them.
        have length := length_readBodies first
        simp [Collected.bind, heredocCounts, ← length]

/-- What is collected are the lines that were read, each with its newline and expanded if the
delimiter was not quoted, in the places of their redirections; what comes after them is left.
Here-documents after the end of an input read on from there, and get nothing if nothing is left. -/
theorem collectHeredocs_reads_back (session : Session) (world : World) (source : Source)
    (commands : List Command) (supplied : List Supplied) (more : List Redirection)
    (later : List Event)
    (written : commands.flatMap Command.heredocs = supplied.map Supplied.heredoc ++ more)
    (answers : Answers source.events (supplied.flatMap Supplied.outcomes) later) :
    ∃ read left, left.events = later ∧
      (collectHeredocs session world source commands =
        (readBodies session read left more).bind fun world source bodies =>
          (world, source, .ok (some ((heredocCounts commands).splitLengths
            (supplied.map (Supplied.body session) ++ bodies))))) ∧
      (more = [] → ∃ bodies,
        collectHeredocs session world source commands = (read, left, .ok (some bodies)) ∧
        bodies.flatten = supplied.map (Supplied.body session) ∧
        bodies.map List.length = heredocCounts commands) := by
  obtain ⟨read, left, reaches, reads⟩ :=
    readBodies_supplied session world source supplied more answers
  have collects := collectHeredocs_eq session world source commands
  rw [written, reads, Collected.bind_assoc] at collects
  refine ⟨read, left, reaches, collects, ?_⟩
  rintro rfl
  refine ⟨_, collects, ?_⟩
  have count : (supplied.map (Supplied.body session)).length = (heredocCounts commands).sum := by
    have same := congrArg List.length written
    simpa [heredocCounts, List.length_flatMap] using same.symm
  rw [List.append_nil]
  exact ⟨List.flatten_splitLengths _ _ count.le, List.map_splitLengths_length _ _ count.ge⟩

def stagesWithTexts : List Command :=
  [{ arguments := ["cat"]
     redirections :=
      [{ operator := .heredoc, target := "A", expandBody := true },
       { operator := .heredoc, target := "B" }] },
   { arguments := ["wc"]
     redirections := [{ operator := .heredoc, target := "C", expandBody := true }] }]

def suppliedTexts : List Supplied :=
  [{ heredoc := { operator := .heredoc, target := "A", expandBody := true }
     lines := ["$?", "B"]
     inside := by decide },
   { heredoc := { operator := .heredoc, target := "B" }
     lines := ["$?", "A"]
     closed := false
     inside := by decide },
   { heredoc := { operator := .heredoc, target := "C", expandBody := true }
     lines := ["C "]
     inside := by decide }]

def sourceWithTexts : Source :=
  { events := suppliedTexts.flatMap Supplied.events ++ [.line "ls", .interrupted] }

theorem collectHeredocs_reads_back_stagesWithTexts :
    sourceWithTexts.events =
        [.line "$?", .line "B", .line "A", .line "$?", .line "A", .endOfInput, .line "C ",
          .line "C", .line "ls", .interrupted] ∧
      stagesWithTexts.flatMap Command.heredocs = suppliedTexts.map Supplied.heredoc ++ [] ∧
      Answers sourceWithTexts.events (suppliedTexts.flatMap Supplied.outcomes)
        [.line "ls", .interrupted] ∧
      ∃ read left bodies, left.events = [.line "ls", .interrupted] ∧
        collectHeredocs { exitStatus := 7 } {} sourceWithTexts stagesWithTexts =
          (read, left, .ok (some bodies)) ∧
        bodies.flatten = ["7\nB\n", "$?\nA\n", "C \n"] ∧ bodies.map List.length = [2, 1] := by
  have written : stagesWithTexts.flatMap Command.heredocs =
      suppliedTexts.map Supplied.heredoc ++ [] := by decide
  have answers := Supplied.answers_flatMap_events suppliedTexts [.line "ls", .interrupted]
  obtain ⟨read, left, reaches, _, whole⟩ := collectHeredocs_reads_back { exitStatus := 7 } {}
    sourceWithTexts stagesWithTexts suppliedTexts [] _ written answers
  obtain ⟨bodies, collected, flat, lengths⟩ := whole rfl
  refine ⟨by decide, written, answers, read, left, bodies, reaches, collected, flat.trans ?_,
    lengths⟩
  decide +kernel

end PipeShell
