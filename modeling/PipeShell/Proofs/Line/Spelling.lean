import PipeShell.Proofs.Line.Grammar
import PipeShell.Proofs.Line.Lexing
import PipeShell.Proofs.Line.Literal

/-!
# Spellings of arguments

The ways in which arguments can be written in a line: in quotes of either kind, with backslashes,
or plainly, in any mixture. Main statement: every spelling of a list of arguments is parsed as the
single command that has exactly these arguments.
-/

namespace PipeShell

def specialChars : List Char :=
  ['|', '&', ';', '(', ')', '<', '>', '\'', '"', '\\', '$', '~']

def guardedChars : List Char := ['"', '\\', '$', '\x60']

/-- A character that can stand for itself outside quotes, anywhere in a word. -/
def IsPlain (c : Char) : Prop := isBlank c = false ∧ c ∉ specialChars

instance : DecidablePred IsPlain := fun c =>
  inferInstanceAs (Decidable (isBlank c = false ∧ c ∉ specialChars))

/-- A stretch of an argument, and how it is written. -/
inductive Segment where
  | single (text : List Char) (unbroken : '\'' ∉ text)
  | double (text : List Char)
  | escaped (text : List Char)
  | plain (text : List Char) (safe : ∀ c ∈ text, IsPlain c)

namespace Segment

def text : Segment → List Char
  | .single text _ | .double text | .escaped text | .plain text _ => text

def guarded (text : List Char) : List Char :=
  text.flatMap fun c => if c ∈ guardedChars then ['\\', c] else [c]

def written : Segment → List Char
  | .single text _ => '\'' :: (text ++ ['\''])
  | .double text => '"' :: (guarded text ++ ['"'])
  | .escaped text => text.flatMap fun c => ['\\', c]
  | .plain text _ => text

def isQuoted : Segment → Bool
  | .single _ _ | .double _ => true
  | .escaped _ | .plain _ _ => false

end Segment

/-- A way to write an argument. An empty one needs a pair of quotes to be seen. -/
structure Spelling (argument : String) where
  segments : List Segment
  spells : segments.flatMap Segment.text = argument.toList
  visible : argument = "" → ∃ segment ∈ segments, segment.isQuoted = true

def Spelling.written {argument : String} (spelling : Spelling argument) : List Char :=
  spelling.segments.flatMap Segment.written

structure Gap where
  chars : List Char
  nonempty : chars ≠ []
  blank : ∀ c ∈ chars, isBlank c = true

/-- A line that is written for a list of at least one argument. -/
inductive SpelledLine : List String → Type where
  | last {argument : String} (spelling : Spelling argument) : SpelledLine [argument]
  | more {argument : String} {arguments : List String} (spelling : Spelling argument) (gap : Gap)
      (rest : SpelledLine arguments) : SpelledLine (argument :: arguments)

def SpelledLine.written {arguments : List String} : SpelledLine arguments → List Char
  | .last spelling => spelling.written
  | .more spelling gap rest => spelling.written ++ (gap.chars ++ rest.written)

def Spelling.quoted (argument : String) : Spelling argument where
  segments := [.double argument.toList]
  spells := by simp [Segment.text]
  visible := fun _ => ⟨.double argument.toList, List.mem_singleton.mpr rfl, rfl⟩

theorem nonempty_spelledLine_iff (arguments : List String) :
    Nonempty (SpelledLine arguments) ↔ arguments ≠ [] := by
  constructor
  · rintro ⟨line⟩
    cases line <;> simp
  · intro nonempty
    induction arguments with
    | nil => exact absurd rfl nonempty
    | cons argument rest ih =>
        cases rest with
        | nil => exact ⟨.last (.quoted argument)⟩
        | cons next others =>
            obtain ⟨line⟩ := ih (List.cons_ne_nil next others)
            exact ⟨.more (.quoted argument) ⟨[' '], by simp, by simp [isBlank]⟩ line⟩

/-! ## What reading a stretch adds to a word -/

theorem text_pushChar (quote : Quote) (c : Char) (parts : List Part) :
    (pushChar quote c parts).flatMap Part.text = parts.flatMap Part.text ++ [c] := by
  induction parts using pushChar.induct quote with
  | case1 => rfl
  | case2 last same | case3 last same => simp [pushChar, same]
  | case4 first second rest ih =>
      rw [pushChar, List.flatMap_cons, ih]
      simp

theorem pushChar_ne_nil (quote : Quote) (c : Char) (parts : List Part) :
    pushChar quote c parts ≠ [] := by
  unfold pushChar
  repeat' split
  all_goals simp

def InertIn (quote : Quote) (c : Char) : Prop := (Part.mk quote [c]).Inert

theorem Part.Inert.concat {part : Part} {c : Char} (inert : part.Inert)
    (harmless : InertIn part.quote c) : (Part.mk part.quote (part.text ++ [c])).Inert := by
  obtain ⟨quote, text⟩ := part
  cases quote <;> simp_all [Part.Inert, InertIn]

theorem inert_pushChar {quote : Quote} {c : Char} {parts : List Part}
    (inert : ∀ part ∈ parts, part.Inert) (harmless : InertIn quote c) :
    ∀ part ∈ pushChar quote c parts, part.Inert := by
  induction parts using pushChar.induct quote with
  | case1 =>
      simp only [pushChar, List.mem_singleton, forall_eq]
      exact harmless
  | case2 last same =>
      subst same
      simp only [pushChar, ↓reduceIte, List.mem_singleton, forall_eq]
      exact (inert last (by simp)).concat harmless
  | case3 last different =>
      simp only [pushChar, if_neg different, List.mem_cons, List.not_mem_nil, or_false]
      rintro part (rfl | rfl)
      · exact inert part (by simp)
      · exact harmless
  | case4 first second rest ih =>
      intro part member
      rcases List.mem_cons.mp member with rfl | other
      · exact inert part (by simp)
      · exact ih (fun other member => inert other (List.mem_cons_of_mem first member)) part other

/-- `next` is `word` with `text` added to what it stands for, and nothing in it to expand. -/
structure Extends (word : Word) (text : List Char) (next : Word) : Prop where
  literal : next.literal = word.literal ++ text
  inert : word.Inert → next.Inert
  nonempty : word.parts ≠ [] → next.parts ≠ []

namespace Extends

theorem refl (word : Word) : Extends word [] word := ⟨by simp, id, id⟩

theorem trans {word middle next : Word} {front back : List Char} (first : Extends word front middle)
    (second : Extends middle back next) : Extends word (front ++ back) next where
  literal := by rw [second.literal, first.literal, List.append_assoc]
  inert := fun inert => second.inert (first.inert inert)
  nonempty := fun nonempty => second.nonempty (first.nonempty nonempty)

theorem read (word : Word) (c : Char) : Extends word [] (word.read c) :=
  ⟨by simp [Word.read, Word.literal], id, id⟩

theorem push (word : Word) {quote : Quote} {c : Char} (harmless : InertIn quote c) :
    Extends word [c] (word.push quote c) where
  literal := text_pushChar quote c word.parts
  inert := fun inert => inert_pushChar inert harmless
  nonempty := fun _ => pushChar_ne_nil quote c word.parts

theorem openPart (word : Word) {quote : Quote} (quoted : (Part.mk quote []).Inert) :
    Extends word [] (word.openPart quote) where
  literal := by simp [Word.openPart, Word.literal]
  inert := by
    intro inert part member
    rcases List.mem_append.mp member with old | new
    · exact inert part old
    · rw [List.mem_singleton.mp new]
      exact quoted
  nonempty := by simp [Word.openPart]

theorem take (word : Word) {quote : Quote} {c : Char} (harmless : InertIn quote c) :
    Extends word [c] ((word.read c).push quote c) :=
  (read word c).trans (push (word.read c) harmless)

end Extends

/-! ## Reading a segment -/

/-- From `state` at `word`, the characters add `text` to the word, which ends outside quotes. -/
def Reads (state : WordState) (word : Word) (chars text : List Char) (next : Word) : Prop :=
  LexRun (.inWord state word) chars [] (.inWord .plain next) ∧ Extends word text next

namespace Reads

theorem step {state middleState : WordState} {word middle next : Word} {c : Char}
    {chars front text : List Char}
    (taken : wordStep state word c = .ok ([], .inWord middleState middle))
    (grown : Extends word front middle) (rest : Reads middleState middle chars text next) :
    Reads state word (c :: chars) (front ++ text) next :=
  have whole : lexStep (.inWord state word) c = .ok ([], .inWord middleState middle) := taken
  ⟨.step whole rest.1, grown.trans rest.2⟩

theorem append {state : WordState} {word middle next : Word}
    {early late front back : List Char} (first : Reads state word early front middle)
    (second : Reads .plain middle late back next) :
    Reads state word (early ++ late) (front ++ back) next :=
  ⟨first.1.append second.1, first.2.trans second.2⟩

theorem none (word : Word) : Reads .plain word [] [] word := ⟨.done _, .refl word⟩

theorem closing {state : WordState} {word : Word} {c : Char}
    (taken : wordStep state word c = .ok ([], .inWord .plain (word.read c))) :
    Reads state word [c] [] (word.read c) :=
  step taken (.read word c) (none (word.read c))

end Reads

theorem inertIn_single (c : Char) : InertIn .single c := trivial

theorem inertIn_double {c : Char} (other : c ≠ '$') : InertIn .double c := by
  simpa [InertIn, Part.Inert] using other.symm

theorem inertIn_unquoted {c : Char} (notReference : c ≠ '$') (notTilde : c ≠ '~') :
    InertIn .unquoted c :=
  ⟨by simp, by simpa using notReference.symm, by simpa using notTilde.symm⟩

theorem reads_single (word : Word) {text : List Char} (unbroken : '\'' ∉ text) :
    ∃ next, Reads .single word (text ++ ['\'']) text next := by
  induction text generalizing word with
  | nil => exact ⟨word.read '\'', .closing rfl⟩
  | cons c rest ih =>
      have other : c ≠ '\'' := fun same => unbroken (by simp [same])
      obtain ⟨next, later⟩ := ih ((word.read c).push .single c) fun member =>
        unbroken (List.mem_cons_of_mem c member)
      have taken : wordStep .single word c =
          .ok ([], .inWord .single ((word.read c).push .single c)) := if_neg other
      exact ⟨next, .step taken (.take word (inertIn_single c)) later⟩

theorem isEscapable_iff (c : Char) : isEscapable c = true ↔ c ∈ guardedChars := by
  simp [isEscapable, guardedChars, or_assoc]

/-- Between double quotes a character is written with a backslash or as it is. -/
theorem reads_guarded (word : Word) (c : Char) :
    ∃ middle, ∀ {chars text : List Char} {next : Word}, Reads .double middle chars text next →
      Reads .double word (Segment.guarded [c] ++ chars) (c :: text) next := by
  by_cases listed : c ∈ guardedChars
  · -- The character after the backslash counts as single-quoted.
    let escape := word.read '\\'
    let closed := (escape.read c).push .single c
    have opened : Extends escape [c] (closed.openPart .double) :=
      (Extends.take escape (inertIn_single c)).trans (.openPart closed (by simp [Part.Inert]))
    have begun : wordStep .double word '\\' = .ok ([], .inWord .doubleEscaped escape) := rfl
    have taken : wordStep .doubleEscaped escape c =
        .ok ([], .inWord .double (closed.openPart .double)) :=
      if_pos ((isEscapable_iff c).mpr listed)
    refine ⟨closed.openPart .double, fun later => ?_⟩
    have both := Reads.step begun (.read word '\\') (.step taken opened later)
    simpa [Segment.guarded, listed] using both
  · have plain : c ≠ '"' ∧ c ≠ '\\' ∧ c ≠ '$' := by
      refine ⟨?_, ?_, ?_⟩ <;> rintro rfl <;> exact listed (by simp [guardedChars])
    have taken : wordStep .double word c =
        .ok ([], .inWord .double ((word.read c).push .double c)) := by
      rw [wordStep, if_neg plain.1, if_neg plain.2.1]
    refine ⟨(word.read c).push .double c, fun later => ?_⟩
    have one := Reads.step taken (.take word (inertIn_double plain.2.2)) later
    simpa [Segment.guarded, listed] using one

theorem reads_double (word : Word) (text : List Char) :
    ∃ next, Reads .double word (Segment.guarded text ++ ['"']) text next := by
  induction text generalizing word with
  | nil => exact ⟨word.read '"', .closing rfl⟩
  | cons c rest ih =>
      obtain ⟨middle, before⟩ := reads_guarded word c
      obtain ⟨next, later⟩ := ih middle
      refine ⟨next, ?_⟩
      simpa [Segment.guarded] using before later

theorem reads_escaped (word : Word) (text : List Char) :
    ∃ next, Reads .plain word (Segment.escaped text).written text next := by
  induction text generalizing word with
  | nil => exact ⟨word, .none word⟩
  | cons c rest ih =>
      let escape := word.read '\\'
      obtain ⟨next, later⟩ := ih ((escape.read c).push .single c)
      have opened : wordStep .plain word '\\' = .ok ([], .inWord .escaped escape) := rfl
      have taken : wordStep .escaped escape c =
          .ok ([], .inWord .plain ((escape.read c).push .single c)) := rfl
      exact ⟨next, .step opened (.read word '\\')
        (.step taken (.take escape (inertIn_single c)) later)⟩

theorem IsPlain.inside {c : Char} (plain : IsPlain c) : (isBlank c || isMeta c) = false := by
  have notMeta : isMeta c = false := by
    have unlisted := plain.2
    simp only [specialChars, List.mem_cons, not_or] at unlisted
    simp [isMeta, unlisted]
  rw [plain.1, notMeta]
  rfl

theorem reads_plain (word : Word) {text : List Char} (safe : ∀ c ∈ text, IsPlain c) :
    ∃ next, Reads .plain word text text next := by
  induction text generalizing word with
  | nil => exact ⟨word, .none word⟩
  | cons c rest ih =>
      have plain : IsPlain c := safe c List.mem_cons_self
      have other : ∀ {special}, special ∈ specialChars → c ≠ special :=
        fun listed same => plain.2 (same ▸ listed)
      obtain ⟨next, later⟩ := ih ((word.read c).push .unquoted c) fun other member =>
        safe other (List.mem_cons_of_mem c member)
      have taken : wordStep .plain word c =
          .ok ([], .inWord .plain ((word.read c).push .unquoted c)) := by
        have notSingle : c ≠ '\'' := other (by simp [specialChars])
        have notDouble : c ≠ '"' := other (by simp [specialChars])
        have notBackslash : c ≠ '\\' := other (by simp [specialChars])
        simp [wordStep, plain.inside, plainStep, notSingle, notDouble, notBackslash]
      have inert : InertIn .unquoted c :=
        inertIn_unquoted (other (by simp [specialChars])) (other (by simp [specialChars]))
      exact ⟨next, .step taken (.take word inert) later⟩

/-- Every segment adds its text, and quotes leave a part even around nothing. -/
theorem Segment.reads (segment : Segment) (word : Word) :
    ∃ next, Reads .plain word segment.written segment.text next ∧
      (segment.isQuoted = true → next.parts ≠ []) := by
  cases segment with
  | single text unbroken =>
      let opened := (word.read '\'').openPart .single
      obtain ⟨next, inside⟩ := reads_single opened unbroken
      have begun : wordStep .plain word '\'' = .ok ([], .inWord .single opened) := rfl
      have grown : Extends word [] opened := (Extends.read word '\'').trans (.openPart _ trivial)
      refine ⟨next, .step begun grown inside, fun _ => inside.2.nonempty ?_⟩
      simp [opened, Word.openPart]
  | double text =>
      let opened := (word.read '"').openPart .double
      obtain ⟨next, inside⟩ := reads_double opened text
      have begun : wordStep .plain word '"' = .ok ([], .inWord .double opened) := rfl
      have grown : Extends word [] opened :=
        (Extends.read word '"').trans (.openPart _ (by simp [Part.Inert]))
      refine ⟨next, .step begun grown inside, fun _ => inside.2.nonempty ?_⟩
      simp [opened, Word.openPart]
  | escaped text =>
      obtain ⟨next, reads⟩ := reads_escaped word text
      exact ⟨next, reads, by simp [isQuoted]⟩
  | plain text safe =>
      obtain ⟨next, reads⟩ := reads_plain word safe
      exact ⟨next, reads, by simp [isQuoted]⟩

theorem reads_segments (segments : List Segment) (word : Word) :
    ∃ next,
      Reads .plain word (segments.flatMap Segment.written) (segments.flatMap Segment.text) next ∧
      ((∃ segment ∈ segments, segment.isQuoted = true) → next.parts ≠ []) := by
  induction segments generalizing word with
  | nil => exact ⟨word, .none word, by simp⟩
  | cons segment rest ih =>
      obtain ⟨middle, first, firstQuoted⟩ := segment.reads word
      obtain ⟨next, later, laterQuoted⟩ := ih middle
      refine ⟨next, by simpa using first.append later, ?_⟩
      rintro ⟨quoted, member, isQuoted⟩
      rcases List.mem_cons.mp member with rfl | other
      · exact later.2.nonempty (firstQuoted isQuoted)
      · exact laterQuoted ⟨quoted, other, isQuoted⟩

def Word.Spells (word : Word) (argument : String) : Prop :=
  ∀ session, expandFields session word = [argument.toList]

theorem Spelling.reads {argument : String} (spelling : Spelling argument) :
    ∃ word : Word, word.Spells argument ∧
      LexRun (.inWord .plain {}) spelling.written [] (.inWord .plain word) ∧ word.parts ≠ [] := by
  obtain ⟨word, ⟨run, grown⟩, quoted⟩ := reads_segments spelling.segments {}
  have literal : word.literal = argument.toList := by
    rw [grown.literal, spelling.spells]
    rfl
  have nonempty : word.parts ≠ [] := by
    by_cases empty : argument = ""
    · exact quoted (spelling.visible empty)
    · intro noParts
      have noText : argument.toList = [] := by
        rw [← literal, Word.literal, noParts]
        rfl
      exact empty (String.toList_eq_nil_iff.mp noText)
  refine ⟨word, fun session => ?_, run, nonempty⟩
  rw [expandFields_inert session (grown.inert (by simp [Word.Inert])) nonempty, literal]

/-! ## Reading a line -/

theorem head_written {segment : Segment} {c : Char} {rest : List Char}
    (starts : segment.written = c :: rest) : (isBlank c || isMeta c) = false := by
  cases segment with
  | single text unbroken | double text =>
      simp only [Segment.written, List.cons.injEq] at starts
      rw [← starts.1]
      rfl
  | escaped text =>
      cases text with
      | nil => simp [Segment.written] at starts
      | cons first others =>
          simp only [Segment.written, List.flatMap_cons, List.cons_append, List.cons.injEq]
            at starts
          rw [← starts.1]
          rfl
  | plain text safe =>
      have inText : c ∈ text := by
        rw [show text = c :: rest from starts]
        exact List.mem_cons_self
      exact (safe c inText).inside

theorem head_flatMap_written {segments : List Segment} {c : Char} {rest : List Char}
    (starts : segments.flatMap Segment.written = c :: rest) :
    (isBlank c || isMeta c) = false := by
  induction segments with
  | nil => simp at starts
  | cons segment others ih =>
      rw [List.flatMap_cons] at starts
      cases first : segment.written with
      | nil => exact ih (by simpa [first] using starts)
      | cons head tail =>
          rw [first, List.cons_append] at starts
          injection starts with same _
          exact head_written (same ▸ first)

theorem lexStep_between {c : Char} (inside : (isBlank c || isMeta c) = false) :
    lexStep .between c = lexStep (.inWord .plain {}) c := by
  rw [lexStep, lexStep, wordStep, inside, startStep_inside inside]
  rfl

theorem Spelling.run {argument : String} (spelling : Spelling argument) :
    ∃ word : Word, word.Spells argument ∧
      LexRun .between spelling.written [] (.inWord .plain word) := by
  obtain ⟨word, spells, run, nonempty⟩ := spelling.reads
  refine ⟨word, spells, ?_⟩
  -- Something is written, even for an empty argument, and it opens the word.
  cases written : spelling.written with
  | nil =>
      rw [written] at run
      cases run
      exact absurd rfl nonempty
  | cons c rest =>
      rw [written] at run
      exact run.of_same_step (lexStep_between (head_flatMap_written written))

theorem Gap.run (gap : Gap) (word : Word) :
    LexRun (.inWord .plain word) gap.chars [.word word] .between := by
  obtain ⟨chars, nonempty, blank⟩ := gap
  obtain ⟨c, rest, rfl⟩ := List.exists_cons_of_ne_nil nonempty
  have first : isBlank c = true := blank c List.mem_cons_self
  have taken : lexStep (.inWord .plain word) c = .ok ([.word word], .between) := by
    simp [lexStep, wordStep, startAfter, startStep, first, Except.map]
  exact .step taken (run_blanks fun other member => blank other (List.mem_cons_of_mem c member))

/-- A spelled line is split into one word for each argument. -/
theorem lexFrom_spelled {arguments : List String} (line : SpelledLine arguments) :
    ∃ words : List Word, lexFrom .between line.written = .ok (words.map .word) ∧
      ∀ session, words.flatMap (expandFields session) = arguments.map String.toList := by
  induction line with
  | last spelling =>
      obtain ⟨word, spells, run⟩ := spelling.run
      exact ⟨[word], run.lexFrom_eq, fun session => by simp [spells session]⟩
  | more spelling gap rest ih =>
      obtain ⟨word, spells, run⟩ := spelling.run
      obtain ⟨words, later, fields⟩ := ih
      refine ⟨word :: words, ?_, fun session => by simp [spells session, fields session]⟩
      rw [SpelledLine.written, run.lexFrom_append, (gap.run word).lexFrom_append, later]
      rfl

theorem plainWords_words (words : List Word) : plainWords (words.map .word) = words := by
  induction words with
  | nil => rfl
  | cons word rest ih => rw [List.map_cons, plainWords_word, ih]

theorem writtenRedirections_words (words : List Word) :
    writtenRedirections (words.map .word) = [] := by
  induction words with
  | nil => rfl
  | cons word rest ih => rw [List.map_cons, writtenRedirections_word, ih]

theorem stageTokens_words (words : List Word) :
    stageTokens (words.map .word) = words.map .word := by
  induction words with
  | nil => rfl
  | cons word rest ih =>
      rw [List.map_cons, stageTokens_cons, ih]
      rfl

/-- Words alone are one command if they expand to anything. -/
theorem parse_words (session : Session) (words : List Word)
    (spoken : words.flatMap (expandFields session) ≠ []) :
    parse session (words.map .word ++ [.lineEnd]) =
      .ok ⟨[{ arguments := (words.flatMap (expandFields session)).map String.ofList }]⟩ := by
  let items : List Item := words.map .word
  have filled : items ≠ [] := by
    intro empty
    have noWords : words = [] := List.map_eq_nil_iff.mp empty
    exact spoken (by rw [noWords]; rfl)
  have valid : WellFormed [items] := by
    intro stage member
    rwa [List.mem_singleton.mp member]
  have read := readLine_lineTokens [items] [] valid
  rw [lineTokens_singleton, stageTokens_words] at read
  have notSilent : ∀ stage ∈ [items], ¬ Commandless session stage := by
    intro stage member silent
    rw [List.mem_singleton.mp member, Commandless, plainWords_words] at silent
    exact spoken (List.flatMap_eq_nil_iff.mpr silent)
  rw [parse_of_read session read, ofStages_commands notSilent]
  have command : (Stage.ofItems session items).command =
      { arguments := (words.flatMap (expandFields session)).map String.ofList } := by
    have arguments := Stage.arguments_ofItems session items
    have redirections := Stage.redirections_ofItems session items
    rw [plainWords_words] at arguments
    rw [writtenRedirections_words] at redirections
    cases made : (Stage.ofItems session items).command
    simp_all
  simp [command]

/-- Quoting is undone exactly: a line in which arguments are spelled, in whatever styles and
however they are cut, is the one command with these arguments and no redirection. -/
theorem parseLine_spelled (session : Session) {arguments : List String}
    (line : SpelledLine arguments) :
    parseLine session (String.ofList line.written) =
      .ok ⟨[{ arguments := arguments, redirections := [] }]⟩ := by
  obtain ⟨words, split, fields⟩ := lexFrom_spelled line
  have tokens : tokenize (String.ofList line.written) = .ok (words.map .word ++ [.lineEnd]) := by
    rw [tokenize, String.toList_ofList, tokenizeChars, split]
    rfl
  have spoken : words.flatMap (expandFields session) ≠ [] := by
    have nonempty : arguments ≠ [] := (nonempty_spelledLine_iff arguments).mp ⟨line⟩
    rw [fields session]
    simpa using nonempty
  rw [parseLine_of_tokenize tokens, parse_words session words spoken, fields session]
  simp [String.ofList_toList, Function.comp_def]

example : parseLine {} "a'b c'\"d\\$e\"\\ f ''" = .ok ⟨[{ arguments := ["ab cd$e f", ""] }]⟩ := by
  rfl

end PipeShell
