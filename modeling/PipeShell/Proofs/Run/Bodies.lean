import PipeShell.Heredoc

/-!
# The lines of here-documents

Which lines here-documents take from a source of plain lines: each takes them up to its delimiter,
one after another in the order in which they are written. Main statement: collecting the bodies of
a pipeline always succeeds on such a source, and leaves exactly the lines after the last delimiter.
-/

namespace PipeShell

/-- The events answer with the lines, and after them only with the end of input. -/
def Offers (events : List Event) (lines : List String) : Prop :=
  ∃ count, events = lines.map .line ++ List.replicate count .endOfInput

/-- The lines up to the first that is the delimiter, it included, and the lines after it. Without
such a line, all of them. -/
def takeBody (delimiter : String) : List String → List String × List String
  | [] => ([], [])
  | line :: rest =>
    if line = delimiter then ([line], rest)
    else
      let (body, later) := takeBody delimiter rest
      (line :: body, later)

def takeBodies : List String → List String → List String × List String
  | [], lines => ([], lines)
  | delimiter :: others, lines =>
    let (first, later) := takeBody delimiter lines
    let (more, last) := takeBodies others later
    (first ++ more, last)

theorem takeBody_append (delimiter : String) (lines : List String) :
    (takeBody delimiter lines).1 ++ (takeBody delimiter lines).2 = lines := by
  induction lines with
  | nil => rfl
  | cons line rest ih =>
      by_cases found : line = delimiter
      · simp [takeBody, found]
      · simp [takeBody, found, ih]

/-- Nothing is lost: the bodies and what is left are the lines. -/
theorem takeBodies_append (delimiters lines : List String) :
    (takeBodies delimiters lines).1 ++ (takeBodies delimiters lines).2 = lines := by
  induction delimiters generalizing lines with
  | nil => rfl
  | cons delimiter others ih =>
      simp only [takeBodies, List.append_assoc, ih]
      exact takeBody_append delimiter lines

theorem later_takeBodies_append (first second lines : List String) :
    (takeBodies (first ++ second) lines).2 = (takeBodies second (takeBodies first lines).2).2 := by
  induction first generalizing lines with
  | nil => rfl
  | cons delimiter others ih => exact ih (takeBody delimiter lines).2

/-! ## Reading from plain lines -/

theorem offers_map (lines : List String) : Offers (lines.map .line) lines :=
  ⟨0, by simp⟩

theorem offers_tail {event : Event} {events : List Event} {line : String} {lines : List String}
    (offers : Offers (event :: events) (line :: lines)) :
    event = .line line ∧ Offers events lines := by
  obtain ⟨count, same⟩ := offers
  rw [List.map_cons, List.cons_append] at same
  injection same with head tail
  exact ⟨head, count, tail⟩

theorem offers_nil {event : Event} {events : List Event} (offers : Offers (event :: events) []) :
    event = .endOfInput ∧ Offers events [] := by
  obtain ⟨count, same⟩ := offers
  cases count with
  | zero => simp at same
  | succ count =>
      rw [List.replicate_succ, List.map_nil, List.nil_append] at same
      injection same with head tail
      exact ⟨head, count, tail⟩

theorem not_offers_nil (line : String) (lines : List String) : ¬ Offers [] (line :: lines) := by
  rintro ⟨count, same⟩
  simp at same

theorem eq_of_offers_map {lines others : List String} (offers : Offers (lines.map .line) others) :
    others = lines := by
  induction lines generalizing others with
  | nil =>
      cases others with
      | nil => rfl
      | cons other more => exact absurd offers (not_offers_nil other more)
  | cons line rest ih =>
      cases others with
      | nil => cases (offers_nil offers).1
      | cons other more =>
          obtain ⟨head, tail⟩ := offers_tail offers
          cases head
          rw [ih tail]

namespace Collected

/-- The reading succeeded, left these lines and remembered none. -/
def Leaves {α : Type} (result : Collected α) (source : Source) (lines : List String) : Prop :=
  (∃ value, result.2.2 = .ok (some value)) ∧ Offers result.2.1.events lines ∧
    result.2.1.history = source.history

theorem leaves_bind {α β : Type} {first : Collected α} {source : Source}
    {middle lines : List String} {next : World → Source → α → Collected β}
    (leaves : first.Leaves source middle)
    (more : ∀ world (reached : Source) value, Offers reached.events middle →
      (next world reached value).Leaves reached lines) :
    (first.bind next).Leaves source lines := by
  obtain ⟨world, reached, outcome⟩ := first
  obtain ⟨⟨value, success⟩, offers, kept⟩ := leaves
  simp only at success offers kept
  subst success
  obtain ⟨read, left, same⟩ := more world reached value offers
  exact ⟨read, left, same.trans kept⟩

end Collected

/-- One here-document takes its body. -/
theorem leaves_readBody (session : Session) (heredoc : Redirection) (world : World)
    (source : Source) (body : String) {events : List Event} {lines : List String}
    (offers : Offers events lines) :
    (readBody session heredoc world source body events).Leaves source
      (takeBody heredoc.target lines).2 := by
  induction events generalizing world source body lines with
  | nil =>
      -- After the last event there is only the end of input, which ends the body too.
      cases lines with
      | nil => exact ⟨⟨body, rfl⟩, offers, rfl⟩
      | cons line rest => exact absurd offers (not_offers_nil line rest)
  | cons event rest ih =>
      cases lines with
      | nil =>
          obtain ⟨rfl, left⟩ := offers_nil offers
          exact ⟨⟨body, rfl⟩, left, rfl⟩
      | cons line later =>
          obtain ⟨rfl, left⟩ := offers_tail offers
          by_cases found : line = heredoc.target
          · simp only [readBody, Event.outcome, takeBody, if_pos found]
            exact ⟨⟨body, rfl⟩, left, rfl⟩
          · simp only [readBody, Event.outcome, takeBody, if_neg found]
            exact ih _ _ _ left

theorem leaves_readBodies (session : Session) (world : World) (source : Source)
    (heredocs : List Redirection) {lines : List String} (offers : Offers source.events lines) :
    (readBodies session world source heredocs).Leaves source
      (takeBodies (heredocs.map Redirection.target) lines).2 := by
  induction heredocs generalizing world source lines with
  | nil => exact ⟨⟨[], rfl⟩, offers, rfl⟩
  | cons heredoc rest ih =>
      apply Collected.leaves_bind (leaves_readBody session heredoc world source "" offers)
      intro world reached body left
      apply Collected.leaves_bind (ih world reached left)
      intro world last bodies left
      exact ⟨⟨body :: bodies, rfl⟩, left, rfl⟩

def heredocDelimiters (commands : List Command) : List String :=
  (commands.flatMap Command.heredocs).map Redirection.target

theorem leaves_collectHeredocs (session : Session) (world : World) (source : Source)
    (commands : List Command) {lines : List String} (offers : Offers source.events lines) :
    (collectHeredocs session world source commands).Leaves source
      (takeBodies (heredocDelimiters commands) lines).2 := by
  induction commands generalizing world source lines with
  | nil => exact ⟨⟨[], rfl⟩, offers, rfl⟩
  | cons command rest ih =>
      rw [heredocDelimiters, List.flatMap_cons, List.map_append, later_takeBodies_append]
      apply Collected.leaves_bind (leaves_readBodies session world source command.heredocs offers)
      intro world reached bodies left
      apply Collected.leaves_bind (ih world reached left)
      intro world last stages left
      exact ⟨⟨bodies :: stages, rfl⟩, left, rfl⟩

end PipeShell
