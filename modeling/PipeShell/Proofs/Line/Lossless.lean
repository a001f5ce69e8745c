import PipeShell.Proofs.Line.Lexing
import Mathlib.Data.List.Chain

/-!
# What splitting a line keeps

The tokens of a line lie in it one after another, with white space between them and nothing else.
Main statement: every line that is split is its tokens with white space around them, and no
operator could have been longer.
-/

namespace PipeShell

structure Placed where
  gap : List Char
  token : Token

def Placed.written (placed : Placed) : List Char := placed.gap ++ placed.token.spelling.toList

/-- Two words need white space between them. After an operator of one character there is no need
for it, but then the same character does not follow. -/
structure Apart (earlier later : Placed) : Prop where
  words : ∀ first second, earlier.token = .word first → later.token = .word second →
    later.gap ≠ []
  operators : (∀ word, earlier.token ≠ .word word) → ∀ c, earlier.token.spelling.toList = [c] →
    later.gap = [] → later.token.spelling.toList.head? ≠ some c

/-- How a line is made of the tokens that it was split into. -/
structure Layout (line : List Char) (result : List Token) where
  placed : List Placed
  last : List Char
  result_eq : result = placed.map Placed.token ++ [.lineEnd]
  not_ended : .lineEnd ∉ placed.map Placed.token
  line_eq : line = placed.flatMap Placed.written ++ last
  blank : ∀ c, c ∈ placed.flatMap Placed.gap ∨ c ∈ last → isBlank c = true
  apart : placed.IsChain Apart
  raw_ne_nil : ∀ word, .word word ∈ result → word.raw ≠ []

/-! ## Tokens before a text -/

/-- The token goes no further when the text follows it: a word ends before white space and before
characters of operators, and an operator of one character is not written twice. -/
def Token.EndsBefore (token : Token) (text : List Char) : Prop :=
  match token with
  | .word spelled =>
    (∃ c rest, spelled.raw = c :: rest ∧ (isBlank c || isMeta c) = false) ∧
      ∀ c, text.head? = some c → (isBlank c || isMeta c) = true
  | .lineEnd => False
  | operator => ∀ c, operator.spelling.toList = [c] → text.head? ≠ some c

theorem spelling_word (word : Word) : (Token.word word).spelling.toList = word.raw :=
  String.toList_ofList

theorem Token.EndsBefore.operator {token : Token} {text : List Char} (ends : token.EndsBefore text)
    (operator : ∀ word, token ≠ .word word) {c : Char} (short : token.spelling.toList = [c]) :
    text.head? ≠ some c := by
  cases token with
  | word spelled => exact absurd rfl (operator spelled)
  | lineEnd => exact ends.elim
  | _ => exact ends c short

/-- The text is the tokens in order, with white space around them. -/
inductive Lies : List Char → List Token → Prop where
  | last {gap : List Char} : (∀ c ∈ gap, isBlank c = true) → Lies gap []
  | token {gap text : List Char} {token : Token} {tokens : List Token} :
      (∀ c ∈ gap, isBlank c = true) → token.EndsBefore text → Lies text tokens →
        Lies (gap ++ (token.spelling.toList ++ text)) (token :: tokens)

namespace Lies

theorem blank_cons {c : Char} {text : List Char} {tokens : List Token}
    (blank : isBlank c = true) (lies : Lies text tokens) : Lies (c :: text) tokens := by
  cases lies with
  | last spaces => exact .last (List.forall_mem_cons.mpr ⟨blank, spaces⟩)
  | @token gap text token tokens spaces ends rest =>
      exact .token (List.forall_mem_cons.mpr ⟨blank, spaces⟩) ends rest

theorem ends {text : List Char} {tokens : List Token} (lies : Lies text tokens) :
    ∀ token ∈ tokens, ∃ after, token.EndsBefore after := by
  induction lies with
  | last => simp
  | token _ ends _ ih => exact List.forall_mem_cons.mpr ⟨⟨_, ends⟩, ih⟩

end Lies

theorem Apart.of_ends {first later : Placed} {rest : List Char} {after : List Char}
    (ends : first.token.EndsBefore (later.written ++ rest))
    (sound : later.token.EndsBefore after) : Apart first later where
  words := by
    intro word second isWord laterWord noGap
    rw [isWord] at ends
    rw [laterWord] at sound
    obtain ⟨⟨c, more, raw, inside⟩, _⟩ := sound
    have met := ends.2 c (by simp [Placed.written, noGap, laterWord, spelling_word, raw])
    rw [inside] at met
    cases met
  operators := by
    intro operator c short noGap same
    refine ends.operator operator short ?_
    simp [Placed.written, noGap, List.head?_append, same]

theorem Lies.layout {text : List Char} {tokens : List Token} (lies : Lies text tokens) :
    ∃ placed : List Placed, ∃ last, tokens = placed.map Placed.token ∧
      text = placed.flatMap Placed.written ++ last ∧
      (∀ c, c ∈ placed.flatMap Placed.gap ∨ c ∈ last → isBlank c = true) ∧
      placed.IsChain Apart := by
  induction lies with
  | @last gap blank => exact ⟨[], gap, rfl, rfl, by simpa using blank, .nil⟩
  | @token gap text token tokens blank ends rest ih =>
      obtain ⟨placed, last, rfl, rfl, spaces, apart⟩ := ih
      refine ⟨⟨gap, token⟩ :: placed, last, rfl, by simp [Placed.written], ?_, ?_⟩
      · simp only [List.flatMap_cons, List.mem_append]
        rintro c ((inGap | later) | inLast)
        · exact blank c inGap
        · exact spaces c (.inl later)
        · exact spaces c (.inr inLast)
      · refine List.isChain_cons.mpr ⟨?_, apart⟩
        intro later first
        obtain ⟨others, rfl⟩ := List.head?_eq_some_iff.mp first
        obtain ⟨after, sound⟩ := rest.ends later.token (by simp)
        rw [List.flatMap_cons, List.append_assoc] at ends
        exact .of_ends ends sound

/-! ## What the machine completes -/

def LexState.pending : LexState → List Char
  | .between => []
  | .afterPipe => ['|']
  | .afterAmpersand => ['&']
  | .afterLess => ['<']
  | .afterGreater => ['>']
  | .inWord _ word => word.raw

/-- The open token goes on into the text; after it come the other tokens. -/
def Completes (state : LexState) (text : List Char) (tokens : List Token) : Prop :=
  ∃ token more front back, tokens = token :: more ∧ text = front ++ back ∧
    token.spelling.toList = state.pending ++ front ∧ token.EndsBefore back ∧ Lies back more

def LexState.Begun : LexState → Prop
  | .inWord _ word => ∃ c rest, word.raw = c :: rest ∧ (isBlank c || isMeta c) = false
  | _ => True

def LiesAfter (state : LexState) (text : List Char) (tokens : List Token) : Prop :=
  match state with
  | .between => Lies text tokens
  | state => Completes state text tokens

theorem Completes.lies {state : LexState} {c : Char} {text : List Char} {tokens : List Token}
    (completes : Completes state text tokens) (pending : state.pending = [c]) :
    Lies (c :: text) tokens := by
  obtain ⟨token, more, front, back, rfl, rfl, spelling, ends, rest⟩ := completes
  have lies : Lies ([] ++ (token.spelling.toList ++ back)) (token :: more) :=
    .token (by simp) ends rest
  rw [spelling, pending] at lies
  exact lies

theorem Completes.grow {state next : LexState} {c : Char} {text : List Char} {tokens : List Token}
    (completes : Completes next text tokens) (pending : next.pending = state.pending ++ [c]) :
    Completes state (c :: text) tokens := by
  obtain ⟨token, more, front, back, rfl, rfl, spelling, ends, rest⟩ := completes
  refine ⟨token, more, c :: front, back, rfl, rfl, ?_, ends, rest⟩
  rw [spelling, pending, List.append_assoc, List.singleton_append]

/-- A beginning is white space, or the first character of a token. -/
theorem startStep_ok {c : Char} {next : LexState} (started : startStep c = .ok next) :
    (isBlank c = true ∧ next = .between) ∨
      next ≠ .between ∧ next.pending = [c] ∧ next.Begun := by
  cases ending : isBlank c || isMeta c with
  | false =>
      obtain ⟨word, step, raw⟩ := plainStep_eq {} c
      rw [startStep_inside ending, step] at started
      cases started
      exact .inr ⟨by simp, raw, c, [], raw, ending⟩
  | true =>
      unfold startStep at started
      split at started
      · rename_i blank
        cases started
        exact .inl ⟨blank, rfl⟩
      · -- Only the characters of operators are left, and each is pending.
        rename_i notBlank
        rw [Bool.not_eq_true] at notBlank
        simp only [notBlank, Bool.false_or, isMeta, Bool.or_eq_true, beq_iff_eq] at ending
        refine .inr ?_
        rcases ending with (((((rfl | rfl) | rfl) | rfl) | rfl) | rfl) | rfl <;>
          simp at started
        all_goals
          subst started
          exact ⟨by simp, rfl, trivial⟩

theorem lies_startStep {c : Char} {next : LexState} {text : List Char} {tokens : List Token}
    (started : startStep c = .ok next) (rest : LiesAfter next text tokens) :
    Lies (c :: text) tokens := by
  obtain ⟨blank, rfl⟩ | ⟨notBetween, pending, _⟩ := startStep_ok started
  · exact rest.blank_cons blank
  · cases next with
    | between => exact absurd rfl notBetween
    | _ => exact Completes.lies rest pending

theorem Completes.whole {state : LexState} {token : Token} {text : List Char} {more : List Token}
    (spelling : token.spelling.toList = state.pending) (ends : token.EndsBefore text)
    (rest : Lies text more) : Completes state text (token :: more) :=
  ⟨token, more, [], text, rfl, rfl, by rw [spelling, List.append_nil], ends, rest⟩

theorem startStep_of_map {c : Char} {before complete : List Token} {next : LexState}
    (started : (startStep c).map (before, ·) = .ok (complete, next)) :
    complete = before ∧ startStep c = .ok next := by
  obtain ⟨state, begun, same⟩ := exists_of_map_ok started
  cases same
  exact ⟨rfl, begun⟩

theorem begun_startStep {c : Char} {next : LexState} (started : startStep c = .ok next) :
    next.Begun := by
  obtain ⟨_, rfl⟩ | ⟨_, _, begun⟩ := startStep_ok started
  · trivial
  · exact begun

theorem operatorStep_ok {first second : Token} {d c : Char} {complete : List Token}
    {next : LexState}
    (taken : (if c = d then .ok ([second], .between) else startAfter first c) =
      Except.ok (ε := ShellError) (complete, next)) :
    (c = d ∧ complete = [second] ∧ next = .between) ∨
      (c ≠ d ∧ complete = [first] ∧ startStep c = .ok next) := by
  split at taken
  · rename_i same
    cases taken
    exact .inl ⟨same, rfl, rfl⟩
  · rename_i other
    exact .inr ⟨other, startStep_of_map taken⟩

theorem wordStep_ok {state : WordState} {word : Word} {c : Char} {complete : List Token}
    {next : LexState} (taken : wordStep state word c = .ok (complete, next)) :
    (∃ grown : Word, complete = [] ∧ next = .inWord (state.next c) grown ∧
      grown.raw = word.raw ++ [c]) ∨
    (state = .plain ∧ (isBlank c || isMeta c) = true ∧ complete = [.word word] ∧
      startStep c = .ok next) := by
  by_cases inside : state = .plain → (isBlank c || isMeta c) = false
  · obtain ⟨grown, step, raw⟩ := wordStep_inside word inside
    rw [step] at taken
    cases taken
    exact .inl ⟨grown, rfl, rfl, raw⟩
  · obtain ⟨rfl, ends⟩ := Classical.not_imp.mp inside
    rw [Bool.not_eq_false] at ends
    rw [wordStep, if_pos ends] at taken
    exact .inr ⟨rfl, ends, startStep_of_map taken⟩

theorem ampersandStep_ok {c : Char} {complete : List Token} {next : LexState}
    (taken : lexStep .afterAmpersand c = .ok (complete, next)) :
    c = '&' ∧ complete = [.and] ∧ next = .between := by
  rw [lexStep] at taken
  split at taken
  · rename_i same
    cases taken
    exact ⟨same, rfl, rfl⟩
  · cases taken

theorem begun_lexStep {state next : LexState} {c : Char} {complete : List Token}
    (begun : state.Begun) (taken : lexStep state c = .ok (complete, next)) : next.Begun := by
  cases state with
  | between =>
      exact begun_startStep (startStep_of_map taken).2
  | afterPipe | afterLess | afterGreater =>
      obtain ⟨_, _, rfl⟩ | ⟨_, _, started⟩ := operatorStep_ok taken
      · trivial
      · exact begun_startStep started
  | afterAmpersand =>
      obtain ⟨_, _, rfl⟩ := ampersandStep_ok taken
      trivial
  | inWord inside word =>
      obtain ⟨grown, _, rfl, raw⟩ | ⟨_, _, _, started⟩ := wordStep_ok taken
      · obtain ⟨first, rest, written, opens⟩ := begun
        exact ⟨first, rest ++ [c], by rw [raw, written, List.cons_append], opens⟩
      · exact begun_startStep started

theorem completes_operator {state next : LexState} {first second : Token} {d c : Char}
    {complete more : List Token} {text : List Char}
    (taken : (if c = d then .ok ([second], .between) else startAfter first c) =
      Except.ok (ε := ShellError) (complete, next))
    (once : first.spelling.toList = state.pending)
    (twice : second.spelling.toList = state.pending ++ [d])
    (firstEnds : c ≠ d → first.EndsBefore (c :: text)) (secondEnds : second.EndsBefore text)
    (rest : LiesAfter next text more) : Completes state (c :: text) (complete ++ more) := by
  obtain ⟨rfl, rfl, rfl⟩ | ⟨other, rfl, started⟩ := operatorStep_ok taken
  · exact ⟨second, more, [c], text, rfl, rfl, twice, secondEnds, rest⟩
  · exact .whole once (firstEnds other) (lies_startStep started rest)

/-- One character keeps what was read and what is read later together. -/
theorem liesAfter_lexStep {state next : LexState} {c : Char} {complete more : List Token}
    {text : List Char} (begun : state.Begun) (taken : lexStep state c = .ok (complete, next))
    (rest : LiesAfter next text more) : LiesAfter state (c :: text) (complete ++ more) := by
  cases state with
  | between =>
      obtain ⟨rfl, started⟩ := startStep_of_map taken
      exact lies_startStep started rest
  | afterPipe =>
      refine completes_operator taken rfl rfl ?_ ?_ rest <;>
        simp [Token.EndsBefore, Token.spelling]
  | afterLess | afterGreater =>
      refine completes_operator taken rfl rfl ?_ ?_ rest <;>
        simp [Token.EndsBefore, Token.spelling, RedirectOperator.spelling]
  | afterAmpersand =>
      obtain ⟨rfl, rfl, rfl⟩ := ampersandStep_ok taken
      exact ⟨.and, more, ['&'], text, rfl, rfl, rfl, by simp [Token.EndsBefore, Token.spelling],
        rest⟩
  | inWord inside word =>
      obtain ⟨grown, rfl, rfl, raw⟩ | ⟨_, ends, rfl, started⟩ := wordStep_ok taken
      · exact Completes.grow rest raw
      · exact .whole (spelling_word word) ⟨begun, by simpa using ends⟩
          (lies_startStep started rest)

/-- The end of the line completes the open token. -/
theorem liesAfter_lexEnd {state : LexState} {tokens : List Token} (begun : state.Begun)
    (ended : lexEnd state = .ok tokens) : LiesAfter state [] tokens := by
  have nothing : Lies [] [] := .last (by simp)
  cases state with
  | between =>
      cases ended
      exact nothing
  | afterPipe | afterLess | afterGreater =>
      cases ended
      exact .whole rfl (by simp [Token.EndsBefore]) nothing
  | afterAmpersand => cases ended
  | inWord inside word =>
      cases inside <;> cases ended
      all_goals exact .whole (spelling_word _) ⟨begun, by simp⟩ nothing

theorem liesAfter_lexFrom {state : LexState} {text : List Char} {tokens : List Token}
    (begun : state.Begun) (split : lexFrom state text = .ok tokens) :
    LiesAfter state text tokens := by
  induction text generalizing state tokens with
  | nil => exact liesAfter_lexEnd begun split
  | cons c rest ih =>
      cases taken : lexStep state c with
      | error error => simp [lexFrom, taken, bind, Except.bind] at split
      | ok step =>
          obtain ⟨complete, next⟩ := step
          rw [lexFrom_cons taken] at split
          obtain ⟨more, later, rfl⟩ := exists_of_map_ok split
          exact liesAfter_lexStep begun taken (ih (begun_lexStep begun taken) later)

/-! ## Whole lines -/

theorem Layout.of_lies {line : List Char} {tokens : List Token} (lies : Lies line tokens) :
    Nonempty (Layout line (tokens ++ [.lineEnd])) := by
  obtain ⟨placed, last, rfl, line_eq, blank, apart⟩ := lies.layout
  refine ⟨placed, last, rfl, ?_, line_eq, blank, apart, ?_⟩
  · intro member
    obtain ⟨_, ends⟩ := lies.ends .lineEnd member
    exact ends
  · intro word member
    have inTokens : Token.word word ∈ placed.map Placed.token := by simpa using member
    obtain ⟨_, ⟨c, rest, raw, _⟩, _⟩ := lies.ends (.word word) inTokens
    simp [raw]

/-- Splitting loses nothing: a line that is split is its tokens as they are written, with white
space between them where words need it, and each operator is as long as it can be. -/
theorem tokenize_lossless {line : String} {result : List Token}
    (split : tokenize line = .ok result) : Nonempty (Layout line.toList result) := by
  obtain ⟨tokens, read, rfl⟩ := exists_of_map_ok split
  have begun : LexState.between.Begun := trivial
  have lies : Lies line.toList tokens := liesAfter_lexFrom begun read
  exact Layout.of_lies lies

def crowdedLine : String := "a'b |'>>c\\ d|| <x"

def crowdedTokens : List Token :=
  [.word ⟨"a'b |'".toList, [⟨.unquoted, ['a']⟩, ⟨.single, "b |".toList⟩]⟩,
    .redirect .append,
    .word ⟨"c\\ d".toList, [⟨.unquoted, ['c']⟩, ⟨.single, [' ']⟩, ⟨.unquoted, ['d']⟩]⟩,
    .or, .redirect .input, .word ⟨['x'], [⟨.unquoted, ['x']⟩]⟩, .lineEnd]

theorem tokenize_lossless_crowdedLine :
    tokenize crowdedLine = .ok crowdedTokens ∧
      Nonempty (Layout crowdedLine.toList crowdedTokens) := by
  have split : tokenize crowdedLine = .ok crowdedTokens := by decide +kernel
  exact ⟨split, tokenize_lossless split⟩

end PipeShell
