import PipeShell.Proofs.Line.Lexing

/-!
# Lines that cannot be split

What is wrong with a line is told from its characters alone, read from left to right with the
quoting in which each of them stands. Main statement: a line is refused for the first character
that offends outside quotes, or else for a quote that is still open at its end, and for nothing
else.
-/

namespace PipeShell

/-- How a line was read up to a character: its quoting, and the number of unescaped `&` outside
quotes right before it. -/
structure Reading where
  quoting : WordState := .plain
  ampersands : Nat := 0

namespace Reading

def next (reading : Reading) (c : Char) : Reading where
  quoting := reading.quoting.next c
  ampersands := if reading.quoting = .plain ∧ c = '&' then reading.ampersands + 1 else 0

def after (reading : Reading) (text : List Char) : Reading := text.foldl next reading

/-- Outside quotes, `;` and parentheses offend, and so does an `&` that is left without a partner
when they are paired from the left. `text` is what follows the character. -/
def Offends (reading : Reading) (c : Char) (text : List Char) : Prop :=
  reading.quoting = .plain ∧
    (c = ';' ∨ c = '(' ∨ c = ')' ∨
      c = '&' ∧ reading.ampersands % 2 = 0 ∧ text.head? ≠ some '&')

instance (reading : Reading) (c : Char) (text : List Char) : Decidable (reading.Offends c text) :=
  inferInstanceAs (Decidable (_ ∧ _))

/-- No character of the text offends where it stands; `rest` is what follows the text. -/
def Unoffending (reading : Reading) (text rest : List Char) : Prop :=
  ∀ front c back, text = front ++ c :: back → ¬ (reading.after front).Offends c (back ++ rest)

end Reading

/-- The first character of the line that offends. -/
def FirstOffence (reading : Reading) (line : List Char) (c : Char) : Prop :=
  ∃ front back, line = front ++ c :: back ∧ reading.Unoffending front (c :: back) ∧
    (reading.after front).Offends c back

def WordState.openQuote? : WordState → Option Char
  | .plain | .escaped => none
  | .single => some '\''
  | .double | .doubleEscaped => some '"'

/-! ## Finding the first offence -/

def firstOffence? (reading : Reading) : List Char → Option Char
  | [] => none
  | c :: rest => if reading.Offends c rest then some c else firstOffence? (reading.next c) rest

theorem unoffending_nil (reading : Reading) (rest : List Char) : reading.Unoffending [] rest := by
  intro front c back split
  simp at split

theorem unoffending_cons (reading : Reading) (c : Char) (text rest : List Char) :
    reading.Unoffending (c :: text) rest ↔
      ¬ reading.Offends c (text ++ rest) ∧ (reading.next c).Unoffending text rest := by
  constructor
  · intro clean
    exact ⟨clean [] c text rfl, fun front other back split =>
      clean (c :: front) other back (by rw [split, List.cons_append])⟩
  · rintro ⟨first, others⟩ front other back split
    cases front with
    | nil =>
        cases split
        exact first
    | cons head front =>
        cases split
        exact others front other back rfl

theorem firstOffence?_eq_none_iff (reading : Reading) (line : List Char) :
    firstOffence? reading line = none ↔ reading.Unoffending line [] := by
  induction line generalizing reading with
  | nil => simp [firstOffence?, unoffending_nil]
  | cons c rest ih =>
      rw [unoffending_cons, List.append_nil, ← ih, firstOffence?]
      split <;> simp_all

theorem firstOffence?_eq_some_iff (reading : Reading) (line : List Char) (c : Char) :
    firstOffence? reading line = some c ↔ FirstOffence reading line c := by
  induction line generalizing reading with
  | nil => simp [firstOffence?, FirstOffence]
  | cons first rest ih =>
      rw [firstOffence?]
      split
      · rename_i offends
        constructor
        · rintro ⟨⟩
          exact ⟨[], rest, rfl, unoffending_nil _ _, offends⟩
        · rintro ⟨front, back, split, clean, _⟩
          cases front with
          | nil =>
              cases split
              rfl
          | cons head front =>
              cases split
              exact absurd offends ((unoffending_cons ..).mp clean).1
      · rename_i fine
        rw [ih]
        constructor
        · rintro ⟨front, back, rfl, clean, offends⟩
          exact ⟨first :: front, back, rfl, (unoffending_cons ..).mpr ⟨fine, clean⟩, offends⟩
        · rintro ⟨front, back, split, clean, offends⟩
          cases front with
          | nil =>
              cases split
              exact absurd offends fine
          | cons head front =>
              cases split
              exact ⟨front, back, rfl, ((unoffending_cons ..).mp clean).2, offends⟩

/-! ## The machine on its way -/

def LexState.quoting : LexState → WordState
  | .inWord state _ => state
  | _ => .plain

/-- The machine stands where the reading says, and waits for an `&` after an odd number of them. -/
structure Follows (state : LexState) (reading : Reading) : Prop where
  quoting : state.quoting = reading.quoting
  half : state = .afterAmpersand ↔ reading.ampersands % 2 = 1

theorem next_plain_of_ends {c : Char} (ends : (isBlank c || isMeta c) = true) :
    WordState.next .plain c = .plain := by
  have other : ∀ {special : Char}, (isBlank special || isMeta special) = false → c ≠ special := by
    rintro special inside rfl
    rw [inside] at ends
    cases ends
  have notSingle : c ≠ '\'' := other rfl
  have notDouble : c ≠ '"' := other rfl
  have notBackslash : c ≠ '\\' := other rfl
  simp [WordState.next, notSingle, notDouble, notBackslash]

def offendingChars : List Char := [';', '(', ')', '&']

theorem startStep_quoting {c : Char} (fine : c ∉ offendingChars) :
    ∃ next, startStep c = .ok next ∧ next.quoting = WordState.next .plain c ∧
      next ≠ .afterAmpersand := by
  cases ending : isBlank c || isMeta c with
  | false =>
      obtain ⟨word, step, _⟩ := plainStep_eq {} c
      exact ⟨_, startStep_inside ending, by rw [step]; rfl, by simp [step]⟩
  | true =>
      rw [next_plain_of_ends ending]
      cases blank : isBlank c with
      | true => exact ⟨.between, by simp [startStep, blank], rfl, by simp⟩
      | false =>
          simp only [blank, Bool.false_or, isMeta, Bool.or_eq_true, beq_iff_eq] at ending
          rcases ending with (((((rfl | rfl) | rfl) | rfl) | rfl) | rfl) | rfl
          · exact ⟨.afterPipe, rfl, rfl, by simp⟩
          all_goals try exact absurd (by decide) fine
          · exact ⟨.afterLess, rfl, rfl, by simp⟩
          · exact ⟨.afterGreater, rfl, rfl, by simp⟩

/-- Where no `&` waits for another, a character outside quotes that offends is a beginning. -/
theorem lexStep_offending {state : LexState} {c : Char} (outside : state.quoting = .plain)
    (whole : state ≠ .afterAmpersand) (offending : c ∈ offendingChars) :
    ∃ complete, lexStep state c = (startStep c).map (complete, ·) := by
  simp only [offendingChars, List.mem_cons, List.not_mem_nil, or_false] at offending
  cases state with
  | between => exact ⟨[], rfl⟩
  | afterPipe => exact ⟨[.pipe], by rcases offending with rfl | rfl | rfl | rfl <;> rfl⟩
  | afterAmpersand => exact absurd rfl whole
  | afterLess => exact ⟨[.redirect .input], by rcases offending with rfl | rfl | rfl | rfl <;> rfl⟩
  | afterGreater =>
      exact ⟨[.redirect .output], by rcases offending with rfl | rfl | rfl | rfl <;> rfl⟩
  | inWord quoting word =>
      cases outside
      exact ⟨[.word word], by rcases offending with rfl | rfl | rfl | rfl <;> rfl⟩

theorem startAfter_fine (token : Token) {c : Char} (fine : c ∉ offendingChars) :
    ∃ next, startAfter token c = .ok ([token], next) ∧ next.quoting = WordState.next .plain c ∧
      next ≠ .afterAmpersand := by
  obtain ⟨next, started, quoting, whole⟩ := startStep_quoting fine
  exact ⟨next, by rw [startAfter, started]; rfl, quoting, whole⟩

theorem operatorStep_fine (first second : Token) {d c : Char}
    (ends : (isBlank d || isMeta d) = true) (fine : c ∉ offendingChars) :
    ∃ complete next, (if c = d then .ok ([second], .between) else startAfter first c) =
        Except.ok (ε := ShellError) (complete, next) ∧
      next.quoting = WordState.next .plain c ∧ next ≠ .afterAmpersand := by
  split
  · rename_i same
    subst same
    exact ⟨_, .between, rfl, (next_plain_of_ends ends).symm, by simp⟩
  · exact ⟨_, startAfter_fine first fine⟩

theorem lexStep_fine {state : LexState} {c : Char} (whole : state ≠ .afterAmpersand)
    (fine : state.quoting = .plain → c ∉ offendingChars) :
    ∃ complete next, lexStep state c = .ok (complete, next) ∧
      next.quoting = state.quoting.next c ∧ next ≠ .afterAmpersand := by
  cases state with
  | between =>
      obtain ⟨next, started, quoting, whole⟩ := startStep_quoting (fine rfl)
      exact ⟨[], next, by rw [lexStep, started]; rfl, quoting, whole⟩
  | afterPipe => exact operatorStep_fine .pipe .or rfl (fine rfl)
  | afterAmpersand => exact absurd rfl whole
  | afterLess => exact operatorStep_fine (.redirect .input) (.redirect .heredoc) rfl (fine rfl)
  | afterGreater => exact operatorStep_fine (.redirect .output) (.redirect .append) rfl (fine rfl)
  | inWord quoting word =>
      by_cases inside : quoting = .plain → (isBlank c || isMeta c) = false
      · obtain ⟨grown, step, _⟩ := wordStep_inside word inside
        exact ⟨[], _, step, rfl, by simp⟩
      · obtain ⟨rfl, ends⟩ := Classical.not_imp.mp inside
        rw [Bool.not_eq_false] at ends
        obtain ⟨next, started, quoting, whole⟩ := startAfter_fine (.word word) (fine rfl)
        exact ⟨_, next, by rw [lexStep, wordStep, if_pos ends, started], quoting, whole⟩

/-! ## What becomes of a line -/

def verdict (reading : Reading) (text : List Char) : Except ShellError Unit :=
  match firstOffence? reading text with
  | some c => .error (.unexpectedToken (String.singleton c))
  | none =>
    match (reading.after text).quoting.openQuote? with
    | some quote => .error (.unmatchedQuote quote)
    | none => .ok ()

def splits (state : LexState) (text : List Char) : Except ShellError Unit :=
  (lexFrom state text).map fun _ => ()

theorem splits_cons {state next : LexState} {c : Char} {complete : List Token}
    (taken : lexStep state c = .ok (complete, next)) (rest : List Char) :
    splits state (c :: rest) = splits next rest := by
  rw [splits, lexFrom_cons taken, splits]
  cases lexFrom next rest <;> rfl

theorem splits_of_error {state : LexState} {c : Char} {error : ShellError}
    (failed : lexStep state c = .error error) (rest : List Char) :
    splits state (c :: rest) = .error error := by
  rw [splits, lexFrom, failed]
  rfl

theorem verdict_cons {reading : Reading} {c : Char} {rest : List Char}
    (fine : ¬ reading.Offends c rest) :
    verdict reading (c :: rest) = verdict (reading.next c) rest := by
  rw [verdict, firstOffence?, if_neg fine]
  rfl

theorem verdict_of_offends {reading : Reading} {c : Char} {rest : List Char}
    (offends : reading.Offends c rest) :
    verdict reading (c :: rest) = .error (.unexpectedToken (String.singleton c)) := by
  rw [verdict, firstOffence?, if_pos offends]

theorem splits_lone_ampersand {text : List Char} (lone : text.head? ≠ some '&') :
    splits .afterAmpersand text = .error (.unexpectedToken (String.singleton '&')) := by
  cases text with
  | nil => rfl
  | cons c rest =>
      have other : c ≠ '&' := by simpa using lone
      exact splits_of_error (by rw [lexStep, if_neg other]; rfl) rest

theorem splits_of_offends {state : LexState} {reading : Reading} {c : Char} {rest : List Char}
    (follows : Follows state reading) (offends : reading.Offends c rest)
    (whole : state ≠ .afterAmpersand) :
    splits state (c :: rest) = .error (.unexpectedToken (String.singleton c)) := by
  obtain ⟨outside, character⟩ := offends
  have offending : c ∈ offendingChars := by
    simp only [offendingChars, List.mem_cons, List.not_mem_nil, or_false]
    exact character.imp_right (.imp_right (.imp_right And.left))
  obtain ⟨complete, step⟩ := lexStep_offending (follows.quoting.trans outside) whole offending
  rcases character with rfl | rfl | rfl | ⟨rfl, _, lone⟩
  · exact splits_of_error step rest
  · exact splits_of_error step rest
  · exact splits_of_error step rest
  · have taken : lexStep state '&' = .ok (complete, .afterAmpersand) := step
    rw [splits_cons taken, splits_lone_ampersand lone]

theorem splits_nil {state : LexState} {reading : Reading} (follows : Follows state reading)
    (whole : state ≠ .afterAmpersand) : splits state [] = verdict reading [] := by
  have quoting : (reading.after []).quoting = state.quoting := follows.quoting.symm
  rw [verdict, firstOffence?, quoting]
  cases state with
  | afterAmpersand => exact absurd rfl whole
  | inWord inside word => cases inside <;> rfl
  | _ => rfl

theorem follows_pair {reading : Reading} (follows : Follows .afterAmpersand reading)
    (text : List Char) :
    ¬ reading.Offends '&' text ∧ Follows .between (reading.next '&') := by
  have outside : reading.quoting = .plain := follows.quoting.symm
  have odd : reading.ampersands % 2 = 1 := follows.half.mp rfl
  constructor
  · rintro ⟨_, character⟩
    simp [odd] at character
  · refine ⟨by rw [Reading.next, outside]; rfl, ?_⟩
    simp only [Reading.next, outside, and_self, if_true, reduceCtorEq, false_iff]
    omega

theorem follows_first {state : LexState} {reading : Reading} (follows : Follows state reading)
    (outside : state.quoting = .plain) (whole : state ≠ .afterAmpersand) :
    Follows .afterAmpersand (reading.next '&') := by
  have even : ¬ reading.ampersands % 2 = 1 := fun odd => whole (follows.half.mpr odd)
  have plain : reading.quoting = .plain := follows.quoting.symm.trans outside
  refine ⟨by rw [Reading.next, plain]; rfl, ?_⟩
  simp only [Reading.next, plain, and_self, if_true, true_iff]
  omega

theorem follows_fine {state next : LexState} {reading : Reading} {c : Char}
    (follows : Follows state reading) (fine : state.quoting = .plain → c ∉ offendingChars)
    (quoting : next.quoting = state.quoting.next c) (whole : next ≠ .afterAmpersand) :
    Follows next (reading.next c) := by
  have apart : ¬ (reading.quoting = .plain ∧ c = '&') := by
    rintro ⟨outside, rfl⟩
    exact fine (follows.quoting.trans outside) (by decide)
  refine ⟨by rw [quoting, follows.quoting]; rfl, ?_⟩
  simp [Reading.next, apart, whole]

/-- Of the characters that can offend, only an `&` with a partner does not. -/
theorem partner_of_unoffending {state : LexState} {reading : Reading} {c : Char}
    {rest : List Char} (follows : Follows state reading) (outside : state.quoting = .plain)
    (whole : state ≠ .afterAmpersand) (offending : c ∈ offendingChars)
    (fine : ¬ reading.Offends c rest) : c = '&' ∧ rest.head? = some '&' := by
  have even : reading.ampersands % 2 = 0 := by
    have notOdd : ¬ reading.ampersands % 2 = 1 := fun odd => whole (follows.half.mpr odd)
    omega
  have plain : reading.quoting = .plain := follows.quoting.symm.trans outside
  simp only [offendingChars, List.mem_cons, List.not_mem_nil, or_false] at offending
  simp only [Reading.Offends, plain, even, true_and, not_or] at fine
  obtain ⟨notSemicolon, notOpening, notClosing, paired⟩ := fine
  obtain rfl : c = '&' :=
    ((offending.resolve_left notSemicolon).resolve_left notOpening).resolve_left notClosing
  exact ⟨rfl, by simpa using paired⟩

/-- From a state that follows the reading, splitting comes to what is wrong with the text. -/
theorem splits_eq_verdict {state : LexState} {reading : Reading} {text : List Char}
    (follows : Follows state reading)
    (partner : state = .afterAmpersand → text.head? = some '&') :
    splits state text = verdict reading text := by
  induction text generalizing state reading with
  | nil =>
      refine splits_nil follows fun half => ?_
      cases partner half
  | cons c rest ih =>
      by_cases half : state = .afterAmpersand
      · subst half
        cases partner rfl
        obtain ⟨fine, pair⟩ := follows_pair follows rest
        have taken : lexStep .afterAmpersand '&' = .ok ([.and], .between) := rfl
        rw [splits_cons taken, verdict_cons fine, ih pair (by simp)]
      · by_cases offends : reading.Offends c rest
        · rw [splits_of_offends follows offends half, verdict_of_offends offends]
        · rw [verdict_cons offends]
          by_cases fine : state.quoting = .plain → c ∉ offendingChars
          · obtain ⟨complete, next, taken, quoting, whole⟩ := lexStep_fine half fine
            rw [splits_cons taken]
            exact ih (follows_fine follows fine quoting whole) fun same => absurd same whole
          · obtain ⟨outside, offending⟩ := Classical.not_imp.mp fine
            rw [Decidable.not_not] at offending
            obtain ⟨rfl, paired⟩ :=
              partner_of_unoffending follows outside half offending offends
            obtain ⟨complete, step⟩ := lexStep_offending outside half offending
            rw [splits_cons (show lexStep state '&' = .ok (complete, .afterAmpersand) from step)]
            exact ih (follows_first follows outside half) fun _ => paired

theorem follows_start : Follows .between {} := ⟨rfl, by simp⟩

theorem tokenize_eq_verdict (line : String) :
    (tokenize line).map (fun _ => ()) = verdict {} line.toList := by
  rw [← splits_eq_verdict follows_start (by simp), splits, tokenize, tokenizeChars]
  cases lexFrom .between line.toList <;> rfl

/-- The ways in which a line can be found at fault. -/
theorem verdict_cases (reading : Reading) (line : List Char) :
    (∃ c, FirstOffence reading line c ∧
      verdict reading line = .error (.unexpectedToken (String.singleton c))) ∨
    reading.Unoffending line [] ∧
      verdict reading line =
        match (reading.after line).quoting.openQuote? with
        | some quote => .error (.unmatchedQuote quote)
        | none => .ok () := by
  cases first : firstOffence? reading line with
  | some c =>
      refine .inl ⟨c, (firstOffence?_eq_some_iff ..).mp first, ?_⟩
      rw [verdict, first]
  | none =>
      refine .inr ⟨(firstOffence?_eq_none_iff ..).mp first, ?_⟩
      rw [verdict, first]

theorem FirstOffence.not_unoffending {reading : Reading} {line : List Char} {c : Char}
    (first : FirstOffence reading line c) : ¬ reading.Unoffending line [] := by
  intro clean
  have found := (firstOffence?_eq_some_iff ..).mpr first
  rw [(firstOffence?_eq_none_iff ..).mpr clean] at found
  cases found

theorem FirstOffence.unique {reading : Reading} {line : List Char} {c other : Char}
    (first : FirstOffence reading line c) (second : FirstOffence reading line other) :
    c = other :=
  Option.some.inj (((firstOffence?_eq_some_iff ..).mpr first).symm.trans
    ((firstOffence?_eq_some_iff ..).mpr second))

theorem verdict_unexpected_iff (reading : Reading) (line : List Char) (token : String) :
    verdict reading line = .error (.unexpectedToken token) ↔
      ∃ c, token = String.singleton c ∧ FirstOffence reading line c := by
  obtain ⟨c, first, refused⟩ | ⟨clean, outcome⟩ := verdict_cases reading line
  · rw [refused]
    constructor
    · rintro ⟨⟩
      exact ⟨c, rfl, first⟩
    · rintro ⟨other, rfl, second⟩
      rw [first.unique second]
  · rw [outcome]
    constructor
    · intro refused
      split at refused <;> cases refused
    · rintro ⟨c, _, first⟩
      exact absurd clean first.not_unoffending

theorem verdict_unmatched_iff (reading : Reading) (line : List Char) (quote : Char) :
    verdict reading line = .error (.unmatchedQuote quote) ↔
      reading.Unoffending line [] ∧ (reading.after line).quoting.openQuote? = some quote := by
  obtain ⟨c, first, refused⟩ | ⟨clean, outcome⟩ := verdict_cases reading line
  · simp [refused, first.not_unoffending]
  · rw [outcome]
    split <;> simp_all

theorem verdict_ok_iff (reading : Reading) (line : List Char) :
    verdict reading line = .ok () ↔
      reading.Unoffending line [] ∧ (reading.after line).quoting.openQuote? = none := by
  obtain ⟨c, first, refused⟩ | ⟨clean, outcome⟩ := verdict_cases reading line
  · simp [refused, first.not_unoffending]
  · rw [outcome]
    split <;> simp_all

/-- A line is refused for its first offending character if it has one, or else for the quote that
is open at its end, and is split if there is neither. -/
theorem tokenize_refuses (line : String) :
    (∀ token, tokenize line = .error (.unexpectedToken token) ↔
      ∃ c, token = String.singleton c ∧ FirstOffence {} line.toList c) ∧
    (∀ quote, tokenize line = .error (.unmatchedQuote quote) ↔
      Reading.Unoffending {} line.toList [] ∧
        (Reading.after {} line.toList).quoting.openQuote? = some quote) ∧
    ((∃ tokens, tokenize line = .ok tokens) ↔
      Reading.Unoffending {} line.toList [] ∧
        (Reading.after {} line.toList).quoting.openQuote? = none) := by
  have failed (error : ShellError) :
      tokenize line = .error error ↔ verdict {} line.toList = .error error := by
    rw [← tokenize_eq_verdict]
    cases tokenize line <;> simp [Except.map]
  have succeeded : (∃ tokens, tokenize line = .ok tokens) ↔ verdict {} line.toList = .ok () := by
    rw [← tokenize_eq_verdict]
    cases tokenize line <;> simp [Except.map]
  refine ⟨fun token => ?_, fun quote => ?_, ?_⟩
  · rw [failed, verdict_unexpected_iff]
  · rw [failed, verdict_unmatched_iff]
  · rw [succeeded, verdict_ok_iff]

/-- An escaped `&` is no partner, and what stands in quotes offends nobody. -/
example : tokenize "a '(' && \\&&" = .error (.unexpectedToken "&") := by rfl

end PipeShell
