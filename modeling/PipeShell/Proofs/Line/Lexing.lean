import PipeShell.Line.Lexer

/-!
# Runs of the line splitter

The machine that splits a line, taken over a stretch of one. A run can be cut anywhere: its parts
are runs themselves.
-/

namespace PipeShell

/-- Over the characters the machine goes from the first state to the last, and the tokens are
completed on the way. -/
inductive LexRun : LexState → List Char → List Token → LexState → Prop where
  | done (state : LexState) : LexRun state [] [] state
  | step {state next last : LexState} {c : Char} {rest : List Char} {complete more : List Token} :
      lexStep state c = .ok (complete, next) → LexRun next rest more last →
        LexRun state (c :: rest) (complete ++ more) last

theorem exists_of_map_ok {ε α β : Type} {change : α → β} {result : Except ε α} {value : β}
    (mapped : result.map change = .ok value) :
    ∃ known, result = .ok known ∧ value = change known := by
  cases result with
  | error error => cases mapped
  | ok known =>
      cases mapped
      exact ⟨known, rfl, rfl⟩

theorem lexFrom_cons {state next : LexState} {c : Char} {complete : List Token}
    (taken : lexStep state c = .ok (complete, next)) (rest : List Char) :
    lexFrom state (c :: rest) = (lexFrom next rest).map (complete ++ ·) := by
  rw [lexFrom, taken]
  cases read : lexFrom next rest <;>
    simp [read, Except.map, bind, Except.bind, pure, Except.pure]

namespace LexRun

theorem append {state middle last : LexState} {front back : List Char} {early late : List Token}
    (first : LexRun state front early middle) (second : LexRun middle back late last) :
    LexRun state (front ++ back) (early ++ late) last := by
  induction first with
  | done => exact second
  | step taken _ ih =>
      rw [List.append_assoc]
      exact .step taken (ih second)

/-- States that take the first character alike have the same runs over what begins with it. -/
theorem of_same_step {state other last : LexState} {c : Char} {rest : List Char}
    {tokens : List Token} (run : LexRun other (c :: rest) tokens last)
    (same : lexStep state c = lexStep other c) : LexRun state (c :: rest) tokens last := by
  cases run with
  | step taken more => exact .step (same.trans taken) more

/-- What follows a run is split from the state in which the run ended. -/
theorem lexFrom_append {state next : LexState} {front : List Char} {tokens : List Token}
    (run : LexRun state front tokens next) (back : List Char) :
    lexFrom state (front ++ back) = (lexFrom next back).map (tokens ++ ·) := by
  induction run with
  | done state =>
      cases read : lexFrom state back <;> simp [read, Except.map]
  | step taken _ ih =>
      rw [List.cons_append, lexFrom_cons taken, ih]
      cases read : lexFrom _ back <;> simp [Except.map]

theorem lexFrom_eq {state last : LexState} {line : List Char} {tokens : List Token}
    (run : LexRun state line tokens last) :
    lexFrom state line = (lexEnd last).map (tokens ++ ·) := by
  have split := run.lexFrom_append []
  rwa [List.append_nil] at split

/-- A text that is split has a run over it, and the end completes what is open after the run. -/
theorem exists_of_lexFrom {state : LexState} {text : List Char} {tokens : List Token}
    (split : lexFrom state text = .ok tokens) :
    ∃ early last late, LexRun state text early last ∧ lexEnd last = .ok late ∧
      tokens = early ++ late := by
  induction text generalizing state tokens with
  | nil => exact ⟨[], state, tokens, .done state, split, rfl⟩
  | cons c rest ih =>
      cases taken : lexStep state c with
      | error error => simp [lexFrom, taken, bind, Except.bind] at split
      | ok step =>
          obtain ⟨complete, next⟩ := step
          rw [lexFrom_cons taken] at split
          obtain ⟨more, later, rfl⟩ := exists_of_map_ok split
          obtain ⟨early, last, late, run, ended, rfl⟩ := ih later
          exact ⟨complete ++ early, last, late, .step taken run, ended, by simp⟩

end LexRun

/-! ## Inside a word -/

def doubleNext (c : Char) : WordState :=
  if c = '"' then .plain else if c = '\\' then .doubleEscaped else .double

/-- Where the next character stands after a character of a word. Between double quotes, a backslash
takes only a few characters with it. -/
def WordState.next : WordState → Char → WordState
  | .plain, c =>
    if c = '\'' then .single else if c = '"' then .double else if c = '\\' then .escaped
    else .plain
  | .escaped, _ => .plain
  | .single, c => if c = '\'' then .plain else .single
  | .double, c => doubleNext c
  | .doubleEscaped, c => if isEscapable c then .double else doubleNext c

theorem next_doubleEscaped (c : Char) : WordState.next .doubleEscaped c = .double := by
  rw [WordState.next]
  split
  · rfl
  · rename_i plain
    have notQuote : c ≠ '"' := by rintro rfl; exact plain rfl
    have notBackslash : c ≠ '\\' := by rintro rfl; exact plain rfl
    rw [doubleNext, if_neg notQuote, if_neg notBackslash]

theorem plainStep_eq (word : Word) (c : Char) :
    ∃ grown : Word, plainStep word c = .inWord (WordState.next .plain c) grown ∧
      grown.raw = word.raw ++ [c] := by
  simp only [plainStep, WordState.next]
  repeat' split
  all_goals
    refine ⟨_, rfl, ?_⟩
    rfl

theorem wordStep_inside {state : WordState} {c : Char} (word : Word)
    (inside : state = .plain → (isBlank c || isMeta c) = false) :
    ∃ grown : Word, wordStep state word c = .ok ([], .inWord (state.next c) grown) ∧
      grown.raw = word.raw ++ [c] := by
  cases state with
  | plain =>
      obtain ⟨grown, step, raw⟩ := plainStep_eq word c
      refine ⟨grown, ?_, raw⟩
      rw [wordStep, if_neg (by simp [inside rfl]), step]
  | escaped =>
      refine ⟨_, rfl, ?_⟩
      rfl
  | single | double =>
      simp only [wordStep, WordState.next, doubleNext]
      repeat' split
      all_goals
        refine ⟨_, rfl, ?_⟩
        rfl
  | doubleEscaped =>
      rw [next_doubleEscaped, wordStep]
      split
      all_goals
        refine ⟨_, rfl, ?_⟩
        rfl

theorem startStep_inside {c : Char} (inside : (isBlank c || isMeta c) = false) :
    startStep c = .ok (plainStep {} c) := by
  obtain ⟨notBlank, notMeta⟩ := Bool.or_eq_false_iff.mp inside
  simp only [isMeta, Bool.or_eq_false_iff, beq_eq_false_iff_ne, ne_eq] at notMeta
  simp [startStep, notBlank, notMeta]

/-! ## White space -/

theorem lexStep_blank {c : Char} (blank : isBlank c = true) :
    lexStep .between c = .ok ([], .between) := by
  simp [lexStep, startStep, blank, Except.map]

theorem run_blanks {chars : List Char} (blank : ∀ c ∈ chars, isBlank c = true) :
    LexRun .between chars [] .between := by
  induction chars with
  | nil => exact .done _
  | cons c rest ih =>
      exact .step (lexStep_blank (blank c List.mem_cons_self))
        (ih fun other member => blank other (List.mem_cons_of_mem c member))

end PipeShell
