import PipeShell.Proofs.Line.Lossless

/-!
# Tokens that are written again

The machine that splits a line comes to the same state from the characters of the open token alone,
whatever stands before them. Main statement: the tokens of a line, written with a blank between any
two of them, are split into the same tokens.
-/

namespace PipeShell

/-- The token is read from its spelling alone, and from its spelling before a blank. -/
structure Token.Stands (token : Token) : Prop where
  alone : lexFrom .between token.spelling.toList = .ok [token]
  apart : LexRun .between (token.spelling.toList ++ [' ']) [token] .between

/-- The characters of the open token lead to the state from where a token may begin. -/
def LexState.Regained (state : LexState) : Prop := LexRun .between state.pending [] state

namespace LexState.Regained

variable {state next : LexState} {c : Char} {token : Token}

theorem of_startStep (started : startStep c = .ok next) : next.Regained := by
  obtain ⟨_, rfl⟩ | ⟨_, pending, _⟩ := startStep_ok started
  · exact .done _
  · have taken : lexStep .between c = .ok ([], next) := by simp [lexStep, started, Except.map]
    rw [Regained, pending]
    exact .step taken (.done next)

theorem grow (regained : state.Regained) (taken : lexStep state c = .ok ([], next))
    (pending : next.pending = state.pending ++ [c]) : next.Regained := by
  rw [Regained, pending]
  exact regained.append (.step taken (.done next))

theorem stands_open (regained : state.Regained) (spelling : token.spelling.toList = state.pending)
    (ended : lexEnd state = .ok [token]) (blank : lexStep state ' ' = .ok ([token], .between)) :
    token.Stands where
  alone := by
    rw [spelling, regained.lexFrom_eq, ended]
    rfl
  apart := by
    rw [spelling]
    exact regained.append (.step blank (.done _))

theorem stands_closed (regained : state.Regained)
    (spelling : token.spelling.toList = state.pending ++ [c])
    (taken : lexStep state c = .ok ([token], .between)) : token.Stands := by
  have run : LexRun .between token.spelling.toList [token] .between := by
    rw [spelling]
    exact regained.append (.step taken (.done _))
  constructor
  · rw [run.lexFrom_eq]
    rfl
  · exact run.append (.step (lexStep_blank (by decide)) (.done _))

end LexState.Regained

/-! ## Steps and runs -/

/-- What a character completes stands by itself, and so does what it leaves open. -/
structure Restarts (complete : List Token) (next : LexState) : Prop where
  stands : ∀ token ∈ complete, token.Stands
  regained : next.Regained

theorem restarts_operator {state next : LexState} {first second : Token} {d c : Char}
    {complete : List Token} (regained : state.Regained)
    (step : ∀ c, lexStep state c = if c = d then .ok ([second], .between) else startAfter first c)
    (taken : lexStep state c = .ok (complete, next))
    (once : first.spelling.toList = state.pending)
    (twice : second.spelling.toList = state.pending ++ [d]) (ended : lexEnd state = .ok [first])
    (blank : lexStep state ' ' = .ok ([first], .between)) : Restarts complete next := by
  obtain ⟨rfl, rfl, rfl⟩ | ⟨_, rfl, started⟩ := operatorStep_ok ((step c).symm.trans taken)
  · exact ⟨by simpa using regained.stands_closed twice taken, .done _⟩
  · exact ⟨by simpa using regained.stands_open once ended blank, .of_startStep started⟩

theorem restarts_lexStep {state next : LexState} {c : Char} {complete : List Token}
    (regained : state.Regained) (taken : lexStep state c = .ok (complete, next)) :
    Restarts complete next := by
  cases state with
  | between =>
      obtain ⟨rfl, started⟩ := startStep_of_map taken
      exact ⟨by simp, .of_startStep started⟩
  | afterPipe | afterLess | afterGreater =>
      exact restarts_operator regained (fun _ => rfl) taken rfl rfl rfl rfl
  | afterAmpersand =>
      obtain ⟨rfl, rfl, rfl⟩ := ampersandStep_ok taken
      exact ⟨by simpa using regained.stands_closed rfl taken, .done _⟩
  | inWord inside word =>
      obtain ⟨grown, rfl, rfl, raw⟩ | ⟨rfl, _, rfl, started⟩ := wordStep_ok taken
      · exact ⟨by simp, regained.grow taken raw⟩
      · have stands : (Token.word word).Stands :=
          regained.stands_open (spelling_word word) rfl rfl
        exact ⟨by simpa using stands, .of_startStep started⟩

theorem LexRun.restarts {state last : LexState} {text : List Char} {tokens : List Token}
    (run : LexRun state text tokens last) (regained : state.Regained) : Restarts tokens last := by
  induction run with
  | done => exact ⟨by simp, regained⟩
  | step taken _ ih =>
      obtain ⟨here, reached⟩ := restarts_lexStep regained taken
      obtain ⟨later, ends⟩ := ih reached
      exact ⟨List.forall_mem_append.mpr ⟨here, later⟩, ends⟩

/-! ## Whole lines -/

/-- The end of the line completes one token at most, and that is read from its spelling alone. It
need not stand before a blank: a backslash at its end would take the blank with it. -/
theorem alone_of_lexEnd {last : LexState} {late : List Token} (regained : last.Regained)
    (ended : lexEnd last = .ok late) :
    late = [] ∨ ∃ token, late = [token] ∧ lexFrom .between token.spelling.toList = .ok [token] := by
  have split := regained.lexFrom_eq
  rw [ended] at split
  cases last with
  | between =>
      cases ended
      exact .inl rfl
  | afterPipe | afterLess | afterGreater =>
      cases ended
      exact .inr ⟨_, rfl, split⟩
  | afterAmpersand => cases ended
  | inWord inside word =>
      cases inside <;> cases ended
      all_goals exact .inr ⟨_, rfl, (spelling_word _).symm ▸ split⟩

def respelled (tokens : List Token) : List Char :=
  [' '].intercalate (tokens.map fun token => token.spelling.toList)

theorem respelled_cons (token : Token) {rest : List Token} (more : rest ≠ []) :
    respelled (token :: rest) = (token.spelling.toList ++ [' ']) ++ respelled rest := by
  obtain ⟨next, others, rfl⟩ := List.exists_cons_of_ne_nil more
  simp [respelled]

theorem lexFrom_respelled {early late : List Token} (stands : ∀ token ∈ early, token.Stands)
    (ends : late = [] ∨
      ∃ token, late = [token] ∧ lexFrom .between token.spelling.toList = .ok [token]) :
    lexFrom .between (respelled (early ++ late)) = .ok (early ++ late) := by
  induction early with
  | nil =>
      obtain rfl | ⟨token, rfl, alone⟩ := ends
      · rfl
      · simpa [respelled] using alone
  | cons token rest ih =>
      obtain ⟨here, later⟩ := List.forall_mem_cons.mp stands
      by_cases last : rest ++ late = []
      · simpa [respelled, last] using here.alone
      · rw [List.cons_append, respelled_cons token last, here.apart.lexFrom_append, ih later]
        rfl

/-- Writing tokens and splitting the text again gives the same tokens: if a line is split into
tokens, then their display texts with single blanks between them, that of the end left out, are
split into exactly these tokens, with the same parts in every word. -/
theorem tokenize_respelled {line : String} {tokens : List Token}
    (split : tokenize line = .ok tokens) :
    tokenize (" ".intercalate (tokens.dropLast.map Token.spelling)) = .ok tokens := by
  obtain ⟨kept, read, rfl⟩ := exists_of_map_ok split
  obtain ⟨early, last, late, run, ended, rfl⟩ := LexRun.exists_of_lexFrom read
  obtain ⟨stands, regained⟩ := run.restarts (.done _)
  have again := lexFrom_respelled stands (alone_of_lexEnd regained ended)
  have written : (" ".intercalate ((early ++ late).map Token.spelling)).toList =
      respelled (early ++ late) := by
    rw [String.toList_intercalate, List.map_map]
    rfl
  rw [List.dropLast_concat, tokenize, tokenizeChars, written, again]
  rfl

def tightLine : String := "x\"\\$\"\\ y|>''<<\\"

def tightTokens : List Token :=
  [.word ⟨"x\"\\$\"\\ y".toList, [⟨.unquoted, ['x']⟩, ⟨.double, []⟩, ⟨.single, ['$']⟩,
      ⟨.double, []⟩, ⟨.single, [' ']⟩, ⟨.unquoted, ['y']⟩]⟩,
    .pipe, .redirect .output, .word ⟨"''".toList, [⟨.single, []⟩]⟩, .redirect .heredoc,
    .word ⟨['\\'], [⟨.unquoted, ['\\']⟩]⟩, .lineEnd]

theorem tokenize_respelled_tightLine :
    tokenize tightLine = .ok tightTokens ∧
      tokenize "x\"\\$\"\\ y | > '' << \\" = .ok tightTokens := by
  have split : tokenize tightLine = .ok tightTokens := by decide +kernel
  have written : " ".intercalate (tightTokens.dropLast.map Token.spelling) =
      "x\"\\$\"\\ y | > '' << \\" := by decide +kernel
  exact ⟨split, written ▸ tokenize_respelled split⟩

end PipeShell
