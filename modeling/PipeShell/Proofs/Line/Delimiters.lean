import Mathlib.Data.List.Forall2
import PipeShell.Proofs.Line.Joining
import PipeShell.Proofs.Line.Shape
import PipeShell.Proofs.Line.Spelling

/-!
# Delimiters as they are written

A word is kept in parts, and the delimiter of a here-document is taken from these: its text without
the quoting, and whether anything in it was quoted. Main statement: both are decided by the
characters of the word alone. The body stays as it is if there is a quote among them, or a backslash
with something after it.
-/

namespace PipeShell

/-- The text without its quoting, from a place in quotes of the kind. Quotes are taken away where
they open and close, and a backslash where it escapes. -/
def unquote : Quote → List Char → List Char
  | _, [] => []
  | .unquoted, '\'' :: rest => unquote .single rest
  | .unquoted, '"' :: rest => unquote .double rest
  | .unquoted, '\\' :: c :: rest => c :: unquote .unquoted rest
  | .single, '\'' :: rest => unquote .unquoted rest
  | .double, '"' :: rest => unquote .unquoted rest
  | .double, '\\' :: c :: rest =>
    if c ∈ guardedChars then c :: unquote .double rest else '\\' :: unquote .double (c :: rest)
  | quote, c :: rest => c :: unquote quote rest

/-- Something in the text quotes: a quote, or a backslash that is not the last character. -/
def Quotes (raw : List Char) : Prop :=
  '\'' ∈ raw ∨ '"' ∈ raw ∨ '\\' ∈ raw.dropLast

instance (raw : List Char) : Decidable (Quotes raw) :=
  inferInstanceAs (Decidable (_ ∨ _ ∨ _))

/-! ## Characters of a text -/

theorem quotes_concat_iff (raw : List Char) (c : Char) :
    Quotes (raw ++ [c]) ↔ c = '\'' ∨ c = '"' ∨ '\'' ∈ raw ∨ '"' ∈ raw ∨ '\\' ∈ raw := by
  simp only [Quotes, List.mem_append, List.mem_singleton, List.dropLast_concat, eq_comm]
  tauto

theorem Quotes.concat {raw : List Char} (quotes : Quotes raw) (c : Char) :
    Quotes (raw ++ [c]) := by
  rw [quotes_concat_iff]
  obtain single | double | backslash := quotes
  · exact .inr (.inr (.inl single))
  · exact .inr (.inr (.inr (.inl double)))
  · exact .inr (.inr (.inr (.inr (List.dropLast_subset raw backslash))))

/-- Where a backslash has done its work, a character that is no quote decides nothing. -/
theorem quotes_concat_iff_of_decided {raw : List Char} {c : Char}
    (decided : '\\' ∈ raw → Quotes raw) (single : c ≠ '\'') (double : c ≠ '"') :
    Quotes (raw ++ [c]) ↔ Quotes raw := by
  refine ⟨fun quotes => ?_, fun quotes => quotes.concat c⟩
  rw [quotes_concat_iff] at quotes
  obtain same | same | inRaw | inRaw | backslash := quotes
  · exact absurd same single
  · exact absurd same double
  · exact .inl inRaw
  · exact .inr (.inl inRaw)
  · exact decided backslash

theorem unquote_plain {c : Char} (single : c ≠ '\'') (double : c ≠ '"') (backslash : c ≠ '\\')
    (quote : Quote) (rest : List Char) : unquote quote (c :: rest) = c :: unquote quote rest := by
  cases quote <;> simp [unquote, *]

theorem unquote_single {c : Char} (other : c ≠ '\'') (rest : List Char) :
    unquote .single (c :: rest) = c :: unquote .single rest := by
  simp [unquote, other]

theorem unquote_escaped (c : Char) (rest : List Char) :
    unquote .unquoted ('\\' :: c :: rest) = c :: unquote .unquoted rest := by
  simp [unquote]

theorem unquote_double {c : Char} (quote : c ≠ '"') (backslash : c ≠ '\\') (rest : List Char) :
    unquote .double (c :: rest) = c :: unquote .double rest := by
  simp [unquote, quote, backslash]

theorem unquote_guarded {c : Char} (guarded : isEscapable c = true) (rest : List Char) :
    unquote .double ('\\' :: c :: rest) = c :: unquote .double rest := by
  simp [unquote, (isEscapable_iff c).mp guarded]

theorem unquote_unguarded {c : Char} (unguarded : ¬ isEscapable c = true) (rest : List Char) :
    unquote .double ('\\' :: c :: rest) = '\\' :: c :: unquote .double rest := by
  rw [isEscapable_iff] at unguarded
  have quote : c ≠ '"' := by
    rintro rfl
    exact unguarded (by decide)
  have backslash : c ≠ '\\' := by
    rintro rfl
    exact unguarded (by decide)
  rw [← unquote_double quote backslash]
  simp [unquote, unguarded]

/-! ## What a word knows of its text -/

theorem isQuoted_pushChar (quote : Quote) (c : Char) (parts : List Part) :
    (pushChar quote c parts).any (·.quote ≠ .unquoted) =
      (parts.any (·.quote ≠ .unquoted) || decide (quote ≠ .unquoted)) := by
  induction parts using pushChar.induct quote with
  | case1 => simp [pushChar]
  | case2 last same | case3 last same => simp [pushChar, same]
  | case4 first second rest ih =>
      rw [pushChar, List.any_cons, ih]
      simp [Bool.or_assoc]

namespace Word

theorem literal_push (word : Word) (quote : Quote) (c : Char) :
    (word.push quote c).literal = word.literal ++ [c] :=
  text_pushChar quote c word.parts

theorem literal_openPart (word : Word) (quote : Quote) :
    (word.openPart quote).literal = word.literal := by
  simp [literal, openPart]

theorem isQuoted_push (word : Word) (quote : Quote) (c : Char) :
    (word.push quote c).isQuoted = (word.isQuoted || decide (quote ≠ .unquoted)) :=
  isQuoted_pushChar quote c word.parts

theorem isQuoted_openPart (word : Word) (quote : Quote) :
    (word.openPart quote).isQuoted = (word.isQuoted || decide (quote ≠ .unquoted)) := by
  simp [isQuoted, openPart]

end Word

namespace WordState

def unquoted : WordState → List Char → List Char
  | .plain, rest => unquote .unquoted rest
  | .escaped, rest => unquote .unquoted ('\\' :: rest)
  | .single, rest => unquote .single rest
  | .double, rest => unquote .double rest
  | .doubleEscaped, rest => unquote .double ('\\' :: rest)

def Marks : WordState → List Char → Prop
  | .plain, raw => '\\' ∈ raw → Quotes raw
  | .escaped, raw => '\\' ∈ raw
  | _, raw => Quotes raw

end WordState

/-- The parts of the word are those of its text: what it stands for is the text without quoting, as
far as it was read, and a part is quoted only if something quotes. -/
structure WordState.Reflects (state : WordState) (word : Word) : Prop where
  unquote_eq : ∀ rest, unquote .unquoted (word.raw ++ rest) = word.literal ++ state.unquoted rest
  isQuoted_iff : word.isQuoted = true ↔ Quotes word.raw
  marks : state.Marks word.raw

namespace WordState.Reflects

theorem nothing : WordState.plain.Reflects {} where
  unquote_eq _ := rfl
  isQuoted_iff := by decide
  marks := nofun

variable {state next : WordState} {word grown : Word} {c : Char}

/-- One more character of the text, which adds something to what the word stands for. -/
theorem unquote_grown (reflects : state.Reflects word) (raw : grown.raw = word.raw ++ [c])
    {added : List Char} (literal : grown.literal = word.literal ++ added)
    (step : ∀ rest, state.unquoted (c :: rest) = added ++ next.unquoted rest) (rest : List Char) :
    unquote .unquoted (grown.raw ++ rest) = grown.literal ++ next.unquoted rest := by
  rw [raw, List.append_assoc, List.singleton_append, reflects.unquote_eq, step, literal,
    List.append_assoc]

theorem quoted (raw : grown.raw = word.raw ++ [c]) (isQuoted : grown.isQuoted = true)
    (quotes : Quotes (word.raw ++ [c]))
    (text : ∀ rest, unquote .unquoted (grown.raw ++ rest) = grown.literal ++ next.unquoted rest)
    (decided : next ≠ .escaped) : next.Reflects grown where
  unquote_eq := text
  isQuoted_iff := by
    rw [raw]
    exact iff_of_true isQuoted quotes
  marks := by
    rw [raw]
    cases next with
    | escaped => exact absurd rfl decided
    | plain => exact fun _ => quotes
    | _ => exact quotes

theorem opened (reflects : WordState.plain.Reflects word) {quote : Quote}
    (isQuote : c = '\'' ∨ c = '"') (kind : quote ≠ .unquoted) (decided : next ≠ .escaped)
    (step : ∀ rest, unquote .unquoted (c :: rest) = next.unquoted rest) :
    next.Reflects ((word.read c).openPart quote) := by
  refine quoted rfl ?_ ?_ ?_ decided
  · simp [Word.isQuoted_openPart, kind]
  · rw [quotes_concat_iff, ← or_assoc]
    exact .inl isQuote
  · have literal : ((word.read c).openPart quote).literal = word.literal ++ [] := by
      rw [Word.literal_openPart, List.append_nil]
      rfl
    exact reflects.unquote_grown rfl literal step

theorem plain_step (reflects : WordState.plain.Reflects word)
    (taken : plainStep word c = .inWord next grown) : next.Reflects grown := by
  unfold plainStep at taken
  split at taken
  · rename_i single
    subst single
    cases taken
    exact reflects.opened (.inl rfl) (by decide) (by decide) fun _ => rfl
  · split at taken
    · rename_i double
      subst double
      cases taken
      exact reflects.opened (.inr rfl) (by decide) (by decide) fun _ => rfl
    · rename_i notSingle notDouble
      have same : word.isQuoted = true ↔ Quotes (word.raw ++ [c]) := by
        rw [reflects.isQuoted_iff,
          quotes_concat_iff_of_decided reflects.marks notSingle notDouble]
      split at taken
      · rename_i backslash
        subst backslash
        cases taken
        refine ⟨reflects.unquote_grown rfl (List.append_nil _).symm fun _ => rfl, same, ?_⟩
        exact List.mem_append_right _ (List.mem_singleton_self _)
      · rename_i notBackslash
        cases taken
        refine ⟨reflects.unquote_grown rfl (Word.literal_push ..) ?_, ?_, ?_⟩
        · exact unquote_plain notSingle notDouble notBackslash .unquoted
        · rw [Word.isQuoted_push, decide_eq_false (not_not.mpr rfl), Bool.or_false]
          exact same
        · intro backslash
          have earlier : '\\' ∈ word.raw :=
            (List.mem_append.mp backslash).resolve_right (by simpa using Ne.symm notBackslash)
          exact (reflects.marks earlier).concat c

theorem within (reflects : state.Reflects word) (quotes : Quotes word.raw)
    (raw : grown.raw = word.raw ++ [c]) (kept : word.isQuoted = true → grown.isQuoted = true)
    {added : List Char} (literal : grown.literal = word.literal ++ added)
    (step : ∀ rest, state.unquoted (c :: rest) = added ++ next.unquoted rest)
    (decided : next ≠ .escaped) : next.Reflects grown :=
  quoted raw (kept (reflects.isQuoted_iff.mpr quotes)) (quotes.concat c)
    (reflects.unquote_grown raw literal step) decided

theorem silent (reflects : state.Reflects word) (quotes : Quotes word.raw)
    (step : ∀ rest, state.unquoted (c :: rest) = next.unquoted rest)
    (decided : next ≠ .escaped) : next.Reflects (word.read c) :=
  reflects.within quotes rfl id (List.append_nil word.literal).symm step decided

theorem step (reflects : state.Reflects word)
    (taken : wordStep state word c = .ok ([], .inWord next grown)) : next.Reflects grown := by
  cases state with
  | plain =>
      rw [wordStep] at taken
      split at taken
      · cases (startStep_of_map taken).1
      · exact reflects.plain_step (congrArg Prod.snd (Except.ok.inj taken))
  | escaped =>
      cases taken
      refine quoted rfl (by simp [Word.isQuoted_push]) ?_ ?_ (by decide)
      · exact (quotes_concat_iff _ _).mpr (.inr (.inr (.inr (.inr reflects.marks))))
      · exact reflects.unquote_grown rfl (Word.literal_push ..) (unquote_escaped c)
  | single =>
      rw [wordStep] at taken
      split at taken
      · rename_i closes
        subst closes
        cases taken
        exact reflects.silent reflects.marks (fun _ => rfl) (by decide)
      · rename_i other
        cases taken
        exact reflects.within reflects.marks rfl (fun _ => by simp [Word.isQuoted_push])
          (Word.literal_push ..) (unquote_single other) (by decide)
  | double =>
      rw [wordStep] at taken
      split at taken
      · rename_i closes
        subst closes
        cases taken
        exact reflects.silent reflects.marks (fun _ => rfl) (by decide)
      · rename_i notQuote
        split at taken
        · rename_i backslash
          subst backslash
          cases taken
          exact reflects.silent reflects.marks (fun _ => rfl) (by decide)
        · rename_i notBackslash
          cases taken
          exact reflects.within reflects.marks rfl (fun _ => by simp [Word.isQuoted_push])
            (Word.literal_push ..) (unquote_double notQuote notBackslash) (by decide)
  | doubleEscaped =>
      rw [wordStep] at taken
      split at taken
      · rename_i guarded
        cases taken
        exact reflects.within reflects.marks rfl (fun _ => by simp [Word.isQuoted_openPart])
          ((Word.literal_openPart ..).trans (Word.literal_push ..)) (unquote_guarded guarded)
          (by decide)
      · rename_i unguarded
        cases taken
        have literal : (((word.push .double '\\').read c).push .double c).literal =
            word.literal ++ ['\\', c] := by
          rw [Word.literal_push]
          exact (congrArg (· ++ [c]) (Word.literal_push word .double '\\')).trans
            (List.append_assoc ..)
        exact reflects.within reflects.marks rfl (fun _ => by simp [Word.isQuoted_push]) literal
          (unquote_unguarded unguarded) (by decide)

end WordState.Reflects

/-! ## Words of a line -/

structure Word.Reflects (word : Word) : Prop where
  literal_eq : word.literal = unquote .unquoted word.raw
  isQuoted_iff : word.isQuoted = true ↔ Quotes word.raw

def LexState.Reflects : LexState → Prop
  | .inWord state word => state.Reflects word
  | _ => True

theorem WordState.Reflects.ends {word : Word} (reflects : WordState.plain.Reflects word) :
    word.Reflects where
  literal_eq := by simpa [unquoted, unquote] using (reflects.unquote_eq []).symm
  isQuoted_iff := reflects.isQuoted_iff

theorem WordState.Reflects.ends_escaped {word : Word} (reflects : WordState.escaped.Reflects word) :
    (word.push .unquoted '\\').Reflects where
  literal_eq := by
    have text := reflects.unquote_eq []
    rw [List.append_nil] at text
    rw [Word.literal_push]
    exact text.symm
  isQuoted_iff := by
    rw [Word.isQuoted_push, decide_eq_false (not_not.mpr rfl), Bool.or_false]
    exact reflects.isQuoted_iff

theorem reflects_startStep {c : Char} {next : LexState} (started : startStep c = .ok next) :
    next.Reflects := by
  cases next with
  | inWord state word =>
      have begun : plainStep {} c = .inWord state word := by
        unfold startStep at started
        repeat' split at started
        all_goals simp only [Except.ok.injEq, reduceCtorEq] at started
        exact started
      exact WordState.Reflects.nothing.plain_step begun
  | _ => trivial

theorem reflects_lexStep {state next : LexState} {c : Char} {complete : List Token}
    (reflects : state.Reflects) (taken : lexStep state c = .ok (complete, next)) :
    (∀ word, .word word ∈ complete → word.Reflects) ∧ next.Reflects := by
  cases state with
  | between =>
      obtain ⟨rfl, started⟩ := startStep_of_map taken
      exact ⟨by simp, reflects_startStep started⟩
  | afterPipe | afterLess | afterGreater =>
      obtain ⟨_, rfl, rfl⟩ | ⟨_, rfl, started⟩ := operatorStep_ok taken
      · exact ⟨by simp, trivial⟩
      · exact ⟨by simp, reflects_startStep started⟩
  | afterAmpersand =>
      obtain ⟨rfl, rfl, rfl⟩ := ampersandStep_ok taken
      exact ⟨by simp, trivial⟩
  | inWord inside word =>
      obtain ⟨grown, rfl, rfl, _⟩ | ⟨rfl, _, rfl, started⟩ := wordStep_ok taken
      · exact ⟨by simp, WordState.Reflects.step reflects taken⟩
      · refine ⟨?_, reflects_startStep started⟩
        intro other member
        cases List.mem_singleton.mp member
        exact WordState.Reflects.ends reflects

theorem reflects_lexEnd {last : LexState} {late : List Token} (reflects : last.Reflects)
    (ended : lexEnd last = .ok late) : ∀ word, .word word ∈ late → word.Reflects := by
  intro other member
  cases last with
  | inWord inside word =>
      cases inside <;> cases ended <;> cases List.mem_singleton.mp member
      · exact WordState.Reflects.ends reflects
      · exact WordState.Reflects.ends_escaped reflects
  | afterAmpersand => cases ended
  | _ =>
      cases ended
      simp at member

theorem LexRun.reflects {state last : LexState} {text : List Char} {tokens : List Token}
    (run : LexRun state text tokens last) (reflects : state.Reflects) :
    (∀ word, .word word ∈ tokens → word.Reflects) ∧ last.Reflects := by
  induction run with
  | done => exact ⟨by simp, reflects⟩
  | step taken _ ih =>
      obtain ⟨here, next⟩ := reflects_lexStep reflects taken
      obtain ⟨later, ends⟩ := ih next
      refine ⟨fun word member => ?_, ends⟩
      obtain inHere | inLater := List.mem_append.mp member
      · exact here word inHere
      · exact later word inLater

theorem Parsed.reflects {session : Session} {line : String} {pipeline : Pipeline}
    (parsed : Parsed session line pipeline) :
    ∀ word, .word word ∈ lineTokens parsed.stages → word.Reflects := by
  obtain ⟨early, last⟩ := parsed.run.reflects trivial
  intro word member
  rw [← parsed.written] at member
  obtain inEarly | inLate := List.mem_append.mp member
  · exact early word inEarly
  · exact reflects_lexEnd last parsed.ended word inLate

/-! ## Delimiters -/

/-- The words that directly follow a `<<`, in order. -/
def delimiters : List Token → List Word
  | .redirect .heredoc :: .word word :: rest => word :: delimiters rest
  | _ :: rest => delimiters rest
  | [] => []

/-- What the delimiter as it is written makes of a here-document. -/
structure Redirection.DelimitedBy (raw : List Char) (redirection : Redirection) : Prop where
  operator : redirection.operator = .heredoc
  target : redirection.target = String.ofList (unquote .unquoted raw)
  expandBody : redirection.expandBody = false ↔ Quotes raw
  ambiguous : redirection.ambiguous = false

def heredocWith (word : Word) : Redirection :=
  { operator := .heredoc, target := String.ofList word.literal, expandBody := !word.isQuoted }

theorem Word.Reflects.delimitedBy {word : Word} (reflects : word.Reflects) :
    (heredocWith word).DelimitedBy word.raw where
  operator := rfl
  target := congrArg String.ofList reflects.literal_eq
  expandBody := by rw [← reflects.isQuoted_iff, heredocWith, Bool.not_eq_false']
  ambiguous := rfl

theorem mem_of_mem_delimiters {tokens : List Token} {word : Word}
    (member : word ∈ delimiters tokens) : .word word ∈ tokens := by
  fun_induction delimiters tokens with
  | case1 first rest ih =>
      obtain rfl | inRest := List.mem_cons.mp member
      · simp
      · simp [ih inRest]
  | case2 token rest _ ih => exact List.mem_cons_of_mem token (ih member)
  | case3 => cases member

def stageDelimiters (items : List Item) : List Word :=
  (writtenRedirections items).filterMap fun written =>
    if written.1 = .heredoc then some written.2 else none

theorem delimiters_stageTokens (items : List Item) (rest : List Token) :
    delimiters (stageTokens items ++ rest) = stageDelimiters items ++ delimiters rest := by
  induction items with
  | nil => rfl
  | cons item others ih =>
      rw [stageTokens_cons, List.append_assoc]
      cases item with
      | word spelled => exact ih
      | redirection operator target =>
          cases operator with
          | heredoc => exact congrArg (target :: ·) ih
          | _ => exact ih

theorem delimiters_lineTokens (stages : LineSyntax) :
    delimiters (lineTokens stages) = stages.flatMap stageDelimiters := by
  induction stages with
  | nil => rfl
  | cons stage rest ih =>
      have last := delimiters_stageTokens stage []
      cases rest with
      | nil => simpa [lineTokens_singleton, delimiters] using last
      | cons next others =>
          rw [lineTokens_cons, delimiters_stageTokens, List.flatMap_cons, ← ih]
          rfl

theorem heredocs_ofItems (session : Session) (items : List Item) :
    (Stage.ofItems session items).command.heredocs = (stageDelimiters items).map heredocWith := by
  rw [Command.heredocs, Stage.redirections_ofItems, stageDelimiters]
  induction writtenRedirections items with
  | nil => rfl
  | cons written rest ih =>
      obtain ⟨operator, target⟩ := written
      have same : (Stage.redirectionTo session operator target).operator = operator :=
        congrArg Prod.fst (shape_redirectionTo session operator target)
      rw [List.map_cons, List.filter_cons, List.filterMap_cons, same, ih]
      by_cases heredoc : operator = .heredoc
      · subst heredoc
        rfl
      · simp [heredoc]

/-- The here-documents of a line are those of its delimiters, whatever the session. A line that is a
no-op has none. -/
theorem Parsed.heredocs_eq {session : Session} {line : String} {pipeline : Pipeline}
    (parsed : Parsed session line pipeline) :
    pipeline.commands.flatMap Command.heredocs =
      (delimiters (lineTokens parsed.stages)).map heredocWith := by
  rw [delimiters_lineTokens, List.map_flatMap]
  by_cases idle : NoOp session parsed.stages
  · rw [parsed.commands_eq_nil_iff.mpr (.inr idle)]
    obtain ⟨items, alone, _, _, unredirected⟩ := idle
    simp [alone, stageDelimiters, unredirected]
  · rw [parsed.commands_eq idle, List.flatMap_map]
    exact List.flatMap_congr fun items _ => heredocs_ofItems session items

/-- The delimiters of a line that parses are its words after `<<`, in order and one for each
here-document. As it is written, the word decides the delimiter, which is the word without its
quoting, and whether the body is expanded, which it is unless something in the word quotes. So the
here-documents are the same in every session in which the line parses. -/
theorem parseLine_delimiters {session : Session} {line : String} {pipeline : Pipeline}
    (made : parseLine session line = .ok pipeline) :
    ∃ tokens, tokenize line = .ok (tokens ++ [.lineEnd]) ∧ Lies line.toList tokens ∧
      List.Forall₂ Redirection.DelimitedBy ((delimiters tokens).map Word.raw)
        (pipeline.commands.flatMap Command.heredocs) ∧
      ∀ other later, parseLine other line = .ok later →
        later.commands.flatMap Command.heredocs = pipeline.commands.flatMap Command.heredocs := by
  obtain ⟨parsed⟩ := parsed_of_parseLine made
  have begun : LexState.between.Begun := trivial
  refine ⟨lineTokens parsed.stages, tokenize_of_lexFrom parsed.split,
    liesAfter_lexFrom begun parsed.split, ?_, ?_⟩
  · rw [parsed.heredocs_eq, List.forall₂_map_left_iff, List.forall₂_map_right_iff,
      List.forall₂_same]
    exact fun word member => (parsed.reflects word (mem_of_mem_delimiters member)).delimitedBy
  · intro other later again
    obtain ⟨next⟩ := parsed_of_parseLine again
    have same : lineTokens next.stages = lineTokens parsed.stages :=
      Except.ok.inj (next.split.symm.trans parsed.split)
    rw [next.heredocs_eq, same, parsed.heredocs_eq]

def lineWithDelimiters : String := "cat <<''E <<\"'\\a\" <<a\\b|sort <<~$HOME <<E\\"

def delimitedHeredocs : List Redirection :=
  [{ operator := .heredoc, target := "E" },
   { operator := .heredoc, target := "'\\a" },
   { operator := .heredoc, target := "ab" },
   { operator := .heredoc, target := "~$HOME", expandBody := true },
   { operator := .heredoc, target := "E\\", expandBody := true }]

theorem parseLine_delimiters_lineWithDelimiters :
    ∃ pipeline tokens, parseLine {} lineWithDelimiters = .ok pipeline ∧
      pipeline.commands.flatMap Command.heredocs = delimitedHeredocs ∧
      tokenize lineWithDelimiters = .ok (tokens ++ [.lineEnd]) ∧
      List.Forall₂ Redirection.DelimitedBy ((delimiters tokens).map Word.raw)
        delimitedHeredocs := by
  have made : parseLine {} lineWithDelimiters =
      .ok ⟨[{ arguments := ["cat"], redirections := delimitedHeredocs.take 3 },
        { arguments := ["sort"], redirections := delimitedHeredocs.drop 3 }]⟩ := by
    decide +kernel
  obtain ⟨tokens, split, _, decided, _⟩ := parseLine_delimiters made
  exact ⟨_, tokens, made, by decide, split, decided⟩

end PipeShell
