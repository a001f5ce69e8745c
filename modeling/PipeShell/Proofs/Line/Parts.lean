import Mathlib.Logic.Relation
import PipeShell.Proofs.Line.Delimiters
import PipeShell.Proofs.Line.References
import PipeShell.Proofs.Line.Respelling

/-!
# Parts of a word

A word is built from left to right: a character joins the last part or begins another one, and a
quote that opens leaves a part of its own. Main statement: outside quotes, the parts of a word are
never empty, hold nothing that ends a word or quotes, and do not touch each other. So a reference
that no quote interrupts is whole in one of them.
-/

namespace PipeShell

def Bare (c : Char) : Prop := isBlank c = false ∧ isMeta c = false ∧ c ≠ '\'' ∧ c ≠ '"'

/-- The parts after one more character, except for a backslash that ends the line. -/
inductive Adds (parts : List Part) : List Part → Prop where
  | opened {quote : Quote} : quote ≠ .unquoted → Adds parts (parts ++ [⟨quote, []⟩])
  | quoted {quote : Quote} (c : Char) : quote ≠ .unquoted → Adds parts (pushChar quote c parts)
  | bare {c : Char} : Bare c → c ≠ '\\' → Adds parts (pushChar .unquoted c parts)

/-! ## Pushing a character -/

section Pushing

variable (quote : Quote) (c : Char)

theorem pushChar_concat (front : List Part) (last : Part) :
    pushChar quote c (front ++ [last]) = front ++ pushChar quote c [last] := by
  induction front with
  | nil => rfl
  | cons first rest ih =>
      -- The parts after the first are not empty, so the first one stays.
      obtain ⟨second, others, split⟩ := List.exists_cons_of_ne_nil
        (List.append_ne_nil_of_right_ne_nil rest (List.cons_ne_nil last []))
      have step : pushChar quote c (first :: second :: others) =
          first :: pushChar quote c (second :: others) := rfl
      rw [List.cons_append, split, step, ← split, ih, List.cons_append]

theorem pushChar_same (front : List Part) (text : List Char) :
    pushChar quote c (front ++ [⟨quote, text⟩]) = front ++ [⟨quote, text ++ [c]⟩] := by
  rw [pushChar_concat, pushChar, if_pos rfl]

theorem pushChar_cases (parts : List Part) :
    ∃ front text, pushChar quote c parts = front ++ [⟨quote, text ++ [c]⟩] ∧
      (parts = front ++ [⟨quote, text⟩] ∨
        parts = front ∧ text = [] ∧ ∀ last ∈ front.getLast?, last.quote ≠ quote) := by
  rcases List.eq_nil_or_concat' parts with rfl | ⟨front, last, rfl⟩
  · exact ⟨[], [], rfl, .inr ⟨rfl, rfl, by simp⟩⟩
  · by_cases same : last.quote = quote
    · subst same
      exact ⟨front, last.text, pushChar_same .., .inl rfl⟩
    · refine ⟨front ++ [last], [], ?_, .inr ⟨rfl, rfl, by simpa using same⟩⟩
      rw [pushChar_concat, pushChar, if_neg same, List.append_assoc]
      rfl

theorem foldl_pushChar_same (front : List Part) (text more : List Char) :
    more.foldl (fun parts c => pushChar quote c parts) (front ++ [⟨quote, text⟩]) =
      front ++ [⟨quote, text ++ more⟩] := by
  induction more generalizing text with
  | nil => rw [List.foldl_nil, List.append_nil]
  | cons c rest ih =>
      rw [List.foldl_cons, pushChar_same, ih, List.append_assoc, List.singleton_append]

theorem foldl_pushChar_cases (rest : List Char) (parts : List Part) :
    ∃ front text,
      (c :: rest).foldl (fun parts c => pushChar quote c parts) parts =
        front ++ [⟨quote, text ++ c :: rest⟩] ∧
      front.flatMap Part.text ++ text = parts.flatMap Part.text := by
  obtain ⟨front, text, pushed, before⟩ := pushChar_cases quote c parts
  refine ⟨front, text, ?_, ?_⟩
  · rw [List.foldl_cons, pushed, foldl_pushChar_same, List.append_assoc, List.singleton_append]
  · rcases before with rfl | ⟨rfl, rfl, _⟩ <;> simp

end Pushing

/-! ## What every word keeps -/

def Part.Solid (holds : Char → Prop) (part : Part) : Prop :=
  part.quote = .unquoted → part.text ≠ [] ∧ ∀ c ∈ part.text, holds c

def Separated (parts : List Part) : Prop :=
  parts.IsChain fun first second => first.quote = .unquoted → second.quote ≠ .unquoted

/-- After the parts that stand before it comes one of the kind that begins with the text. -/
def Settled (earlier : List Part) (quote : Quote) (text : List Char) (parts : List Part) : Prop :=
  ∃ late later, parts = earlier ++ ⟨quote, text ++ late⟩ :: later

section Invariants

variable {quote : Quote} {c : Char} {parts more : List Part}

theorem solid_pushChar {holds : Char → Prop} (solid : ∀ part ∈ parts, part.Solid holds)
    (sound : quote = .unquoted → holds c) : ∀ part ∈ pushChar quote c parts, part.Solid holds := by
  obtain ⟨front, text, pushed, before⟩ := pushChar_cases quote c parts
  have kept : ∀ part ∈ front, part.Solid holds := by
    rintro part member
    apply solid
    rcases before with rfl | ⟨rfl, _⟩
    · exact List.mem_append_left _ member
    · exact member
  have old : quote = .unquoted → ∀ other ∈ text, holds other := by
    intro outside
    rcases before with rfl | ⟨_, rfl, _⟩
    · exact (solid _ (List.mem_append_right _ (List.mem_singleton_self _)) outside).2
    · exact List.forall_mem_nil _
  rw [pushed, List.forall_mem_append, List.forall_mem_singleton]
  constructor
  · exact kept
  · intro outside
    constructor
    · exact List.append_ne_nil_of_right_ne_nil text (List.cons_ne_nil c [])
    · exact List.forall_mem_append.mpr ⟨old outside, List.forall_mem_singleton.mpr (sound outside)⟩

theorem Adds.solid (adds : Adds parts more)
    (solid : ∀ part ∈ parts, part.Solid fun c => Bare c ∧ c ≠ '\\') :
    ∀ part ∈ more, part.Solid fun c => Bare c ∧ c ≠ '\\' := by
  cases adds with
  | opened quoted =>
      rw [List.forall_mem_append, List.forall_mem_singleton]
      exact ⟨solid, fun outside => absurd outside quoted⟩
  | quoted c quoted => exact solid_pushChar solid fun outside => absurd outside quoted
  | bare bare other => exact solid_pushChar solid fun _ => ⟨bare, other⟩

theorem separated_concat (separated : Separated parts) {part : Part}
    (apart : ∀ last ∈ parts.getLast?, last.quote = .unquoted → part.quote ≠ .unquoted) :
    Separated (parts ++ [part]) := by
  refine List.isChain_append.mpr ⟨separated, List.isChain_singleton part, ?_⟩
  intro last isLast first isFirst
  cases isFirst
  exact apart last isLast

theorem separated_pushChar (separated : Separated parts) :
    Separated (pushChar quote c parts) := by
  obtain ⟨front, text, pushed, before⟩ := pushChar_cases quote c parts
  rw [pushed]
  rcases before with rfl | ⟨rfl, _, other⟩
  · -- The part was there, with the same quoting.
    obtain ⟨chain, _, apart⟩ := List.isChain_append.mp separated
    exact separated_concat chain fun last isLast => apart last isLast ⟨quote, text⟩ rfl
  · refine separated_concat separated fun last isLast outside same => ?_
    exact other last isLast (outside.trans same.symm)

theorem Adds.separated (adds : Adds parts more) (separated : Separated parts) :
    Separated more := by
  cases adds with
  | opened quoted => exact separated_concat separated fun _ _ _ => quoted
  | quoted | bare => exact separated_pushChar separated

section Settling

variable {earlier : List Part} {kind : Quote} {text : List Char}

theorem Settled.concat (settled : Settled earlier kind text parts) (part : Part) :
    Settled earlier kind text (parts ++ [part]) := by
  obtain ⟨late, later, rfl⟩ := settled
  exact ⟨late, later ++ [part], by rw [List.append_assoc, List.cons_append]⟩

theorem Settled.pushChar (settled : Settled earlier kind text parts) (quote : Quote) (c : Char) :
    Settled earlier kind text (pushChar quote c parts) := by
  obtain ⟨front, old, pushed, before⟩ := pushChar_cases quote c parts
  rw [pushed]
  rcases before with rfl | ⟨rfl, _⟩
  · obtain ⟨late, later, split⟩ := settled
    rcases List.eq_nil_or_concat' later with rfl | ⟨others, last, rfl⟩
    · -- The part itself is the last one.
      obtain ⟨rfl, same⟩ := List.append_inj' split rfl
      cases same
      exact ⟨late ++ [c], [], by rw [List.append_assoc]⟩
    · rw [← List.cons_append, ← List.append_assoc] at split
      obtain ⟨rfl, _⟩ := List.append_inj' split rfl
      exact ⟨late, _, by rw [List.append_assoc, List.cons_append]⟩
  · exact settled.concat _

theorem Adds.settled (adds : Adds parts more) (settled : Settled earlier kind text parts) :
    Settled earlier kind text more := by
  cases adds with
  | opened => exact settled.concat _
  | quoted | bare => exact settled.pushChar _ _

end Settling

end Invariants

/-! ## Characters of a word -/

open Relation (ReflTransGen)

theorem Adds.keeps {Holds : List Part → Prop} {parts more : List Part}
    (step : ∀ {parts more}, Adds parts more → Holds parts → Holds more)
    (adds : ReflTransGen Adds parts more) (holds : Holds parts) : Holds more := by
  induction adds with
  | refl => exact holds
  | tail _ last ih => exact step last ih

theorem adds_plainStep {word grown : Word} {c : Char} {next : WordState}
    (inside : (isBlank c || isMeta c) = false) (taken : plainStep word c = .inWord next grown) :
    ReflTransGen Adds word.parts grown.parts := by
  unfold plainStep at taken
  split at taken
  · cases taken
    exact .single (.opened (by decide))
  · split at taken
    · cases taken
      exact .single (.opened (by decide))
    · rename_i notSingle notDouble
      split at taken
      · cases taken
        exact .refl
      · rename_i notBackslash
        cases taken
        obtain ⟨notBlank, notMeta⟩ := Bool.or_eq_false_iff.mp inside
        exact .single (.bare ⟨notBlank, notMeta, notSingle, notDouble⟩ notBackslash)

/-- A character with which the word goes on. Between double quotes it can do two things at once. -/
theorem adds_wordStep {state next : WordState} {word grown : Word} {c : Char}
    (taken : wordStep state word c = .ok ([], .inWord next grown)) :
    ReflTransGen Adds word.parts grown.parts := by
  cases state with
  | plain =>
      rw [wordStep] at taken
      split at taken
      · cases (startStep_of_map taken).1
      · rename_i inside
        exact adds_plainStep (by simpa using inside) (congrArg Prod.snd (Except.ok.inj taken))
  | escaped =>
      cases taken
      exact .single (.quoted c (by decide))
  | single =>
      rw [wordStep] at taken
      split at taken <;> cases taken
      · exact .refl
      · exact .single (.quoted c (by decide))
  | double =>
      rw [wordStep] at taken
      split at taken
      · cases taken
        exact .refl
      · split at taken <;> cases taken
        · exact .refl
        · exact .single (.quoted c (by decide))
  | doubleEscaped =>
      rw [wordStep] at taken
      split at taken <;> cases taken
      · exact .tail (.single (.quoted c (by decide))) (.opened (by decide))
      · exact .tail (.single (.quoted '\\' (by decide))) (.quoted c (by decide))

namespace LexRun

theorem cut {front back : List Char} {state last : LexState} {tokens : List Token}
    (run : LexRun state (front ++ back) tokens last) :
    ∃ middle early late, LexRun state front early middle ∧ LexRun middle back late last ∧
      tokens = early ++ late := by
  induction front generalizing state tokens with
  | nil => exact ⟨state, [], tokens, .done state, run, rfl⟩
  | cons c rest ih =>
      cases run with
      | step taken more =>
          obtain ⟨middle, early, late, first, second, rfl⟩ := ih more
          exact ⟨middle, _, late, .step taken first, second, (List.append_assoc ..).symm⟩

/-- A run that completes nothing does not leave the word that it began in. -/
theorem inside {text : List Char} {state : WordState} {word : Word} {last : LexState}
    (run : LexRun (.inWord state word) text [] last) :
    ∃ grown : Word, last = .inWord (text.foldl WordState.next state) grown ∧
      grown.raw = word.raw ++ text ∧ ReflTransGen Adds word.parts grown.parts := by
  -- No step completes a token, so each of them stays in the word.
  generalize nothing : ([] : List Token) = tokens at run
  generalize begun : LexState.inWord state word = first at run
  induction run generalizing state word with
  | done =>
      subst begun
      exact ⟨word, rfl, (List.append_nil _).symm, .refl⟩
  | step taken _ ih =>
      subst begun
      obtain ⟨rfl, rfl⟩ := List.append_eq_nil_iff.mp nothing.symm
      rcases wordStep_ok taken with ⟨grown, _, rfl, raw⟩ | ⟨_, _, complete, _⟩
      · obtain ⟨later, same, written, adds⟩ := ih rfl rfl
        refine ⟨later, same, ?_, (adds_wordStep taken).trans adds⟩
        rw [written, raw, List.append_assoc, List.singleton_append]
      · cases complete

/-- Over characters that neither quote nor escape, the word stays outside quotes, and each of them
is pushed. -/
theorem pushes {text : List Char} {word : Word} {last : LexState}
    (run : LexRun (.inWord .plain word) text [] last)
    (unbroken : ∀ c ∈ text, c ≠ '\'' ∧ c ≠ '"' ∧ c ≠ '\\') :
    ∃ grown : Word, last = .inWord .plain grown ∧
      grown.parts = text.foldl (fun parts c => pushChar .unquoted c parts) word.parts := by
  induction text generalizing word with
  | nil =>
      cases run
      exact ⟨word, rfl, rfl⟩
  | cons c rest ih =>
      obtain ⟨⟨notSingle, notDouble, notBackslash⟩, others⟩ := List.forall_mem_cons.mp unbroken
      generalize nothing : ([] : List Token) = tokens at run
      cases run with
      | step taken more =>
          obtain ⟨rfl, rfl⟩ := List.append_eq_nil_iff.mp nothing.symm
          rw [lexStep, wordStep] at taken
          split at taken
          · cases (startStep_of_map taken).1
          · rw [plainStep, if_neg notSingle, if_neg notDouble, if_neg notBackslash] at taken
            cases taken
            exact ih more others

end LexRun

/-- The word is what its own characters make of an empty one. -/
structure WordState.Made (state : WordState) (word : Word) : Prop where
  run : LexRun (.inWord .plain {}) word.raw [] (.inWord state word)
  raw_ne_nil : word.raw ≠ []

namespace WordState.Made

variable {state : WordState} {word : Word}

theorem of_regained (regained : (LexState.inWord state word).Regained)
    (begun : (LexState.inWord state word).Begun) : state.Made word := by
  obtain ⟨c, rest, raw, opens⟩ := begun
  rw [LexState.Regained, LexState.pending, raw] at regained
  constructor
  · have same : lexStep (.inWord .plain {}) c = lexStep .between c :=
      calc lexStep (.inWord .plain {}) c
        _ = .ok ([], plainStep {} c) := if_neg (by simp [opens])
        _ = (startStep c).map ([], ·) := by
          rw [startStep_inside opens]
          rfl
    rw [raw]
    exact regained.of_same_step same
  · simp [raw]

theorem adds (made : state.Made word) : ReflTransGen Adds [] word.parts := by
  obtain ⟨_, same, _, adds⟩ := made.run.inside
  cases same
  exact adds

theorem solid (made : state.Made word) :
    ∀ part ∈ word.parts, part.Solid fun c => Bare c ∧ c ≠ '\\' :=
  Adds.keeps Adds.solid made.adds (List.forall_mem_nil _)

theorem separated (made : state.Made word) : Separated word.parts :=
  Adds.keeps Adds.separated made.adds .nil

theorem reflects (made : state.Made word) : state.Reflects word := by
  have nothing : (LexState.inWord .plain {}).Reflects := WordState.Reflects.nothing
  exact (made.run.reflects nothing).2

theorem parts_ne_nil (made : WordState.plain.Made word) : word.parts ≠ [] := by
  -- Nothing is read without a trace: a character that adds no text is a quote.
  intro nothing
  have reflects := made.reflects.ends
  have unseen : unquote .unquoted word.raw = [] := by
    rw [← reflects.literal_eq, Word.literal, nothing]
    rfl
  have unquoted : ¬ Quotes word.raw := by
    rw [← reflects.isQuoted_iff, Word.isQuoted, nothing]
    decide
  obtain ⟨c, rest, raw⟩ := List.exists_cons_of_ne_nil made.raw_ne_nil
  rw [raw] at unseen unquoted
  have single : c ≠ '\'' := by
    rintro rfl
    exact unquoted (.inl List.mem_cons_self)
  have double : c ≠ '"' := by
    rintro rfl
    exact unquoted (.inr (.inl List.mem_cons_self))
  by_cases backslash : c = '\\'
  · subst backslash
    cases rest with
    | nil => cases unseen
    | cons next more =>
        rw [unquote_escaped] at unseen
        cases unseen
  · rw [unquote_plain single double backslash] at unseen
    cases unseen

/-- A reference outside quotes. The text of the parts before it is what the word stands for up to
there, without its quoting. -/
theorem reference (made : state.Made word) {before name after : List Char}
    (raw : word.raw = before ++ '$' :: name ++ after)
    (outside : before.foldl WordState.next .plain = .plain)
    (named : ∀ c ∈ name, isNameChar c = true) :
    ∃ earlier early, Settled earlier .unquoted (early ++ '$' :: name) word.parts ∧
      earlier.flatMap Part.text ++ early = unquote .unquoted before := by
  -- The run is cut where the reference ends and where it begins.
  have run := made.run
  rw [raw] at run
  obtain ⟨_, _, _, upTo, later, nothing⟩ := run.cut
  obtain ⟨rfl, rfl⟩ := List.append_eq_nil_iff.mp nothing.symm
  obtain ⟨_, _, _, first, second, nothing⟩ := upTo.cut
  obtain ⟨rfl, rfl⟩ := List.append_eq_nil_iff.mp nothing.symm
  obtain ⟨start, rfl, read, _⟩ := first.inside
  rw [outside] at first second
  have unbroken : ∀ c ∈ '$' :: name, c ≠ '\'' ∧ c ≠ '"' ∧ c ≠ '\\' := by
    refine List.forall_mem_cons.mpr ⟨by decide, fun c member => ?_⟩
    have apart : ∀ {other}, isNameChar other = false → c ≠ other :=
      ne_of_isNameChar (named c member)
    exact ⟨apart (by decide), apart (by decide), apart (by decide)⟩
  obtain ⟨grown, rfl, pushed⟩ := second.pushes unbroken
  obtain ⟨front, text, same, flat⟩ := foldl_pushChar_cases .unquoted '$' name start.parts
  obtain ⟨_, ended, _, adds⟩ := later.inside
  cases ended
  -- What comes later only adds behind it; what came before is read as quoted text is.
  refine ⟨front, text, ?_, ?_⟩
  · refine Adds.keeps Adds.settled adds ⟨[], [], ?_⟩
    rw [pushed, same, List.append_nil]
  · have nothing : (LexState.inWord .plain {}).Reflects := WordState.Reflects.nothing
    have reflects : WordState.plain.Reflects start := (first.reflects nothing).2
    have literal := reflects.ends.literal_eq
    rwa [read, Word.literal, ← flat] at literal

end WordState.Made

/-! ## Words of a line -/

theorem made_of_complete {state next : LexState} {c : Char} {complete : List Token}
    (regained : state.Regained) (begun : state.Begun)
    (taken : lexStep state c = .ok (complete, next)) {word : Word}
    (member : .word word ∈ complete) : WordState.plain.Made word := by
  cases state with
  | between =>
      obtain ⟨rfl, _⟩ := startStep_of_map taken
      cases member
  | afterPipe | afterLess | afterGreater =>
      rcases operatorStep_ok taken with ⟨_, rfl, _⟩ | ⟨_, rfl, _⟩ <;> simp at member
  | afterAmpersand =>
      obtain ⟨_, rfl, _⟩ := ampersandStep_ok taken
      simp at member
  | inWord inside unfinished =>
      rcases wordStep_ok taken with ⟨_, rfl, _⟩ | ⟨rfl, _, rfl, _⟩
      · cases member
      · cases List.mem_singleton.mp member
        exact .of_regained regained begun

theorem LexRun.made {state last : LexState} {text : List Char} {tokens : List Token}
    (run : LexRun state text tokens last) (regained : state.Regained) (begun : state.Begun) :
    (∀ word, .word word ∈ tokens → WordState.plain.Made word) ∧ last.Begun := by
  induction run with
  | done => exact ⟨by simp, begun⟩
  | step taken _ ih =>
      have next := (restarts_lexStep regained taken).regained
      obtain ⟨later, ends⟩ := ih next (begun_lexStep begun taken)
      refine ⟨fun word member => ?_, ends⟩
      rcases List.mem_append.mp member with here | there
      · exact made_of_complete regained begun taken here
      · exact later word there

theorem pending_lexStep {state next : LexState} {c : Char} {complete : List Token}
    (taken : lexStep state c = .ok (complete, next)) : next.pending <:+ state.pending ++ [c] := by
  have start : ∀ {next}, startStep c = .ok next → next.pending <:+ state.pending ++ [c] := by
    intro next started
    rcases startStep_ok started with ⟨_, rfl⟩ | ⟨_, pending, _⟩
    · exact List.nil_suffix
    · rw [pending]
      exact List.suffix_append _ _
  cases state with
  | between => exact start (startStep_of_map taken).2
  | afterPipe | afterLess | afterGreater =>
      rcases operatorStep_ok taken with ⟨_, _, rfl⟩ | ⟨_, _, started⟩
      · exact List.nil_suffix
      · exact start started
  | afterAmpersand =>
      obtain ⟨_, _, rfl⟩ := ampersandStep_ok taken
      exact List.nil_suffix
  | inWord inside word =>
      rcases wordStep_ok taken with ⟨grown, _, rfl, raw⟩ | ⟨_, _, _, started⟩
      · exact raw ▸ List.suffix_rfl
      · exact start started

theorem LexRun.pending {state last : LexState} {text : List Char} {tokens : List Token}
    (run : LexRun state text tokens last) : last.pending <:+ state.pending ++ text := by
  induction run with
  | done => simp
  | @step _ next _ c rest _ _ taken _ ih =>
      obtain ⟨front, split⟩ := pending_lexStep taken
      refine ih.trans ⟨front, ?_⟩
      rw [← List.append_assoc, split, List.append_assoc, List.singleton_append]

/-! ## A backslash outside quotes -/

theorem WordState.Made.not_mem {state : WordState} {word : Word} (made : state.Made word)
    {part : Part} (member : part ∈ word.parts) (outside : part.quote = .unquoted) :
    '\\' ∉ part.text :=
  fun backslash => ((made.solid part member outside).2 _ backslash).2 rfl

theorem WordState.Made.ends_in_backslash {word : Word} (made : WordState.escaped.Made word) :
    ∃ front, word.raw = front ++ ['\\'] := by
  obtain ⟨_, same, _⟩ := made.run.inside
  injection same with state
  rcases List.eq_nil_or_concat' word.raw with nothing | ⟨front, c, raw⟩
  · exact absurd nothing made.raw_ne_nil
  · rw [raw, List.foldl_concat] at state
    obtain ⟨_, rfl⟩ := (next_eq_escaped_iff _ c).mp state.symm
    exact ⟨front, raw⟩

theorem WordState.Made.backslash_last {word : Word} (made : WordState.escaped.Made word)
    {earlier later : List Part} {part : Part}
    (parts : (word.push .unquoted '\\').parts = earlier ++ part :: later)
    (outside : part.quote = .unquoted) (backslash : '\\' ∈ part.text) :
    later = [] ∧ ∃ text, part.text = text ++ ['\\'] ∧ '\\' ∉ text := by
  obtain ⟨front, text, pushed, before⟩ := pushChar_cases .unquoted '\\' word.parts
  rw [Word.push, pushed] at parts
  rcases List.eq_nil_or_concat' later with rfl | ⟨others, last, rfl⟩
  · obtain ⟨_, same⟩ := List.append_inj' parts rfl
    cases same
    refine ⟨rfl, text, rfl, ?_⟩
    rcases before with old | ⟨_, rfl, _⟩
    · exact made.not_mem (old ▸ List.mem_append_right front (List.mem_singleton_self _)) rfl
    · exact List.not_mem_nil
  · rw [← List.cons_append, ← List.append_assoc] at parts
    obtain ⟨rfl, _⟩ := List.append_inj' parts rfl
    have member : part ∈ word.parts := by
      rcases before with old | ⟨old, _⟩ <;> simp [old]
    exact absurd backslash (made.not_mem member outside)

/-! ## Main statement -/

/-- What the parts of a word are like, wherever the word stands. A reference outside quotes is in
one part, after the text that stands before it. -/
structure Word.WellParted (word : Word) : Prop where
  parts_ne_nil : word.parts ≠ []
  solid : ∀ part ∈ word.parts, part.Solid Bare
  separated : Separated word.parts
  quoted_of_empty : ∀ part ∈ word.parts, part.text = [] →
    part.quote = .single ∨ part.quote = .double
  reference : ∀ before name after, word.raw = before ++ '$' :: name ++ after →
    before.foldl WordState.next .plain = .plain → (∀ c ∈ name, isNameChar c = true) →
    ∃ earlier early late later,
      word.parts = earlier ++ ⟨.unquoted, early ++ '$' :: name ++ late⟩ :: later ∧
      earlier.flatMap Part.text ++ early = unquote .unquoted before

/-- A backslash stands in a part outside quotes only as the last character of the line. The part and
the word are the last ones then, with `back` after the word. -/
def Word.BackslashLast (word : Word) (line : List Char) (back : List Token) : Prop :=
  ∀ earlier part later, word.parts = earlier ++ part :: later → part.quote = .unquoted →
    '\\' ∈ part.text →
    later = [] ∧ back = [.lineEnd] ∧ (∃ text, part.text = text ++ ['\\'] ∧ '\\' ∉ text) ∧
      (∃ text, word.raw = text ++ ['\\']) ∧ word.raw <:+ line

theorem quoted_of_empty {parts : List Part} (solid : ∀ part ∈ parts, part.Solid Bare) :
    ∀ part ∈ parts, part.text = [] → part.quote = .single ∨ part.quote = .double := by
  rintro ⟨quote, text⟩ member empty
  cases quote with
  | unquoted => exact absurd empty (solid _ member rfl).1
  | single => exact .inl rfl
  | double => exact .inr rfl

theorem Part.Solid.weaken {part : Part} {holds other : Char → Prop} (solid : part.Solid holds)
    (weaker : ∀ c, holds c → other c) : part.Solid other :=
  fun outside => (solid outside).imp_right fun all c member => weaker c (all c member)

theorem WordState.Made.wellParted {word : Word} (made : WordState.plain.Made word) :
    word.WellParted := by
  have solid : ∀ part ∈ word.parts, part.Solid Bare :=
    fun part member => (made.solid part member).weaken fun _ => And.left
  refine ⟨made.parts_ne_nil, solid, made.separated, quoted_of_empty solid, ?_⟩
  intro before name after raw outside named
  obtain ⟨earlier, early, ⟨late, later, parts⟩, flat⟩ := made.reference raw outside named
  exact ⟨earlier, early, late, later, parts, flat⟩

theorem WordState.Made.wellParted_escaped {word : Word} (made : WordState.escaped.Made word) :
    (word.push .unquoted '\\').WellParted := by
  have solid : ∀ part ∈ (word.push .unquoted '\\').parts, part.Solid Bare := by
    apply solid_pushChar
    · exact fun part member => (made.solid part member).weaken fun _ => And.left
    · exact fun _ => ⟨by decide, by decide, by decide, by decide⟩
  have separated : Separated (word.push .unquoted '\\').parts := separated_pushChar made.separated
  refine ⟨pushChar_ne_nil .unquoted '\\' word.parts, solid, separated, quoted_of_empty solid, ?_⟩
  intro before name after raw outside named
  obtain ⟨earlier, early, settled, flat⟩ := made.reference raw outside named
  obtain ⟨late, later, parts⟩ := settled.pushChar .unquoted '\\'
  exact ⟨earlier, early, late, later, parts, flat⟩

/-- What is complete at the end of the line is one word at most. -/
theorem made_of_lexEnd {last : LexState} {late : List Token} {word : Word}
    (regained : last.Regained) (begun : last.Begun) (ended : lexEnd last = .ok late)
    (member : .word word ∈ late) :
    WordState.plain.Made word ∨
      ∃ unfinished : Word, WordState.escaped.Made unfinished ∧
        word = unfinished.push .unquoted '\\' ∧ late = [.word word] ∧
        last.pending = word.raw := by
  cases last with
  | inWord inside unfinished =>
      have made := WordState.Made.of_regained regained begun
      cases inside <;> cases ended <;> cases List.mem_singleton.mp member
      · exact .inl made
      · exact .inr ⟨unfinished, made, rfl, rfl, rfl⟩
  | afterAmpersand => cases ended
  | _ =>
      cases ended
      simp at member

theorem back_eq_of_last {early front back : List Token} {word : Word}
    (here : early ++ [.word word] ++ [.lineEnd] = front ++ .word word :: back)
    (fresh : .word word ∉ early) : back = [.lineEnd] := by
  rw [List.append_assoc, List.append_eq_append_iff] at here
  rcases here with ⟨more, rfl, split⟩ | ⟨more, rfl, split⟩
  · cases more with
    | nil =>
        cases split
        rfl
    | cons first rest =>
        have rest_eq : [.lineEnd] = rest ++ .word word :: back := (List.cons.inj split).2
        have member : .word word ∈ [Token.lineEnd] := by
          rw [rest_eq]
          exact List.mem_append_right rest List.mem_cons_self
        simp at member
  · cases more with
    | nil =>
        cases split
        rfl
    | cons first rest =>
        cases split
        simp at fresh

/-- The parts of the words of a line. Each word has parts; outside quotes these are not empty and
hold no white space, no character of an operator and no quote, no two of them are next to each
other, and an empty part is a quoted one. So a reference `$NAME` that no quote interrupts is whole
in one part. A backslash is in a part outside quotes only as the last character of the line, and
then the part and the word are the last ones. -/
theorem tokenize_wellParted {line : String} {tokens back : List Token} {word : Word}
    (split : tokenize line = .ok tokens) (front : List Token)
    (here : tokens = front ++ .word word :: back) :
    word.WellParted ∧ word.BackslashLast line.toList back := by
  obtain ⟨kept, read, rfl⟩ := exists_of_map_ok split
  obtain ⟨early, last, late, run, ended, rfl⟩ := LexRun.exists_of_lexFrom read
  obtain ⟨before, begun⟩ := run.made (.done _) trivial
  have of_plain (made : WordState.plain.Made word) :
      word.WellParted ∧ word.BackslashLast line.toList back := by
    refine ⟨made.wellParted, fun earlier part later parts outside backslash => ?_⟩
    exact absurd backslash (made.not_mem (by simp [parts]) outside)
  -- The word was complete before the end of the line, or it was the one that was open there.
  by_cases inEarly : .word word ∈ early
  · exact of_plain (before word inEarly)
  · have inLate : .word word ∈ late := by
      have member : Token.word word ∈ early ++ late ++ [.lineEnd] := by simp [here]
      simpa [inEarly] using member
    rcases made_of_lexEnd (run.restarts (.done _)).regained begun ended inLate with
      made | ⟨unfinished, made, rfl, rfl, pending⟩
    · exact of_plain made
    · refine ⟨made.wellParted_escaped, fun earlier part later parts outside backslash => ?_⟩
      obtain ⟨rfl, ending⟩ := made.backslash_last parts outside backslash
      refine ⟨rfl, back_eq_of_last here inEarly, ending, made.ends_in_backslash, ?_⟩
      rw [← pending]
      exact run.pending

def patchedLine : String := "a\\ b''\"$X\\$\"c$HOME-'d e'$Y|>>''z\\"

def patchedWord : Word where
  raw := "a\\ b''\"$X\\$\"c$HOME-'d e'$Y".toList
  parts := [⟨.unquoted, ['a']⟩, ⟨.single, [' ']⟩, ⟨.unquoted, ['b']⟩, ⟨.single, []⟩,
    ⟨.double, ['$', 'X']⟩, ⟨.single, ['$']⟩, ⟨.double, []⟩, ⟨.unquoted, "c$HOME-".toList⟩,
    ⟨.single, "d e".toList⟩, ⟨.unquoted, ['$', 'Y']⟩]

theorem tokenize_wellParted_patchedLine :
    ∃ last : Word, tokenize patchedLine = .ok [.word patchedWord, .pipe, .redirect .append,
        .word last, .lineEnd] ∧
      last.parts = [⟨.single, []⟩, ⟨.unquoted, ['z', '\\']⟩] ∧
      (patchedWord.WellParted ∧ patchedWord.BackslashLast patchedLine.toList
        [.pipe, .redirect .append, .word last, .lineEnd]) ∧
      last.WellParted ∧ last.BackslashLast patchedLine.toList [.lineEnd] := by
  have split : tokenize patchedLine = .ok [.word patchedWord, .pipe, .redirect .append,
      .word ⟨"''z\\".toList, [⟨.single, []⟩, ⟨.unquoted, ['z', '\\']⟩]⟩, .lineEnd] := by
    decide +kernel
  refine ⟨_, split, rfl, ?_, ?_⟩
  · exact tokenize_wellParted split [] rfl
  · exact tokenize_wellParted split [_, _, _] rfl

end PipeShell
