import Mathlib.Data.List.TakeWhile
import PipeShell.Proofs.Line.Fields
import PipeShell.Proofs.Line.Spelling

/-!
# Words that are one reference

A variable is referred to by its name after a `$`, bare or in braces. Main statement: a word that is
one reference comes to the value as it is between double quotes, and outside quotes to the pieces of
the value between white space. Nothing in a value is looked at again.
-/

namespace PipeShell

/-! ## Names in a line -/

theorem toNat_of_isNameChar {c : Char} (named : isNameChar c = true) :
    48 ≤ c.toNat ∧ c.toNat ≤ 122 := by
  unfold isNameChar Char.isAlphanum Char.isAlpha Char.isUpper Char.isLower Char.isDigit at named
  simp only [Bool.or_eq_true, Bool.and_eq_true, decide_eq_true_eq, beq_iff_eq,
    UInt32.le_iff_toNat_le] at named
  rcases named with ((⟨low, high⟩ | ⟨low, high⟩) | ⟨low, high⟩) | rfl
  · exact ⟨Nat.le_trans (by decide) low, Nat.le_trans high (by decide)⟩
  · exact ⟨Nat.le_trans (by decide) low, Nat.le_trans high (by decide)⟩
  · exact ⟨Nat.le_trans (by decide) low, Nat.le_trans high (by decide)⟩
  · decide

theorem isBlank_of_isNameChar {c : Char} (named : isNameChar c = true) : isBlank c = false := by
  obtain ⟨low, high⟩ := toNat_of_isNameChar named
  simp only [isBlank, Bool.or_eq_false_iff, Bool.and_eq_false_iff, decide_eq_false_iff_not,
    beq_eq_false_iff_ne]
  omega

theorem isPlain_of_isNameChar {c : Char} (named : isNameChar c = true) : IsPlain c := by
  refine ⟨isBlank_of_isNameChar named, fun special => ?_⟩
  have none : specialChars.all (!isNameChar ·) = true := by decide
  have unnamed := List.all_eq_true.mp none c special
  rw [named] at unnamed
  cases unnamed

theorem ne_of_isNameChar {c other : Char} (named : isNameChar c = true)
    (unnamed : isNameChar other = false) : c ≠ other := by
  rintro rfl
  rw [named] at unnamed
  cases unnamed

theorem isNameChar_of_isNameStart {c : Char} (starts : isNameStart c = true) :
    isNameChar c = true := by
  unfold isNameStart at starts
  unfold isNameChar Char.isAlphanum
  rw [Bool.or_eq_true] at starts
  rw [Bool.or_eq_true, Bool.or_eq_true]
  exact starts.imp_left .inl

theorem isDigit_of_isNameStart {c : Char} (starts : isNameStart c = true) :
    c.isDigit = false := by
  unfold isNameStart Char.isAlpha Char.isUpper Char.isLower at starts
  unfold Char.isDigit
  simp only [Bool.or_eq_true, Bool.and_eq_true, decide_eq_true_eq, beq_iff_eq,
    UInt32.le_iff_toNat_le] at starts
  simp only [Bool.and_eq_false_iff, decide_eq_false_iff_not, UInt32.le_iff_toNat_le]
  rcases starts with (⟨low, _⟩ | ⟨low, _⟩) | rfl
  · exact .inr fun high => absurd (Nat.le_trans low high) (by decide)
  · exact .inr fun high => absurd (Nat.le_trans low high) (by decide)
  · decide

theorem exists_of_isValidName {name : List Char} (valid : isValidName name = true) :
    ∃ first rest, name = first :: rest ∧ isNameStart first = true ∧
      ∀ c ∈ name, isNameChar c = true := by
  cases name with
  | nil => cases valid
  | cons first rest =>
      obtain ⟨starts, more⟩ := Bool.and_eq_true_iff.mp valid
      refine ⟨first, rest, rfl, starts, List.forall_mem_cons.mpr ⟨?_, List.all_eq_true.mp more⟩⟩
      exact isNameChar_of_isNameStart starts

theorem isPlain_of_isValidName {name : List Char} (valid : isValidName name = true) :
    ∀ c ∈ name, IsPlain c := by
  obtain ⟨_, _, _, _, named⟩ := exists_of_isValidName valid
  exact fun c member => isPlain_of_isNameChar (named c member)

/-! ## Words of a single part -/

section Words

variable {text : List Char}

theorem run_push {state : WordState} {quote : Quote}
    (pushes : ∀ c ∈ text, ∀ word,
      wordStep state word c = .ok ([], .inWord state ((word.read c).push quote c)))
    (raw front : List Char) :
    LexRun (.inWord state ⟨raw, [⟨quote, front⟩]⟩) text []
      (.inWord state ⟨raw ++ text, [⟨quote, front ++ text⟩]⟩) := by
  induction text generalizing raw front with
  | nil => simpa using LexRun.done _
  | cons c rest ih =>
      obtain ⟨first, others⟩ := List.forall_mem_cons.mp pushes
      have grown : (Word.read ⟨raw, [⟨quote, front⟩]⟩ c).push quote c =
          ⟨raw ++ [c], [⟨quote, front ++ [c]⟩]⟩ := by
        simp [Word.read, Word.push, pushChar]
      have later := ih others (raw ++ [c]) (front ++ [c])
      rw [List.append_assoc, List.append_assoc, List.singleton_append, ← grown] at later
      have taken : lexStep (.inWord state ⟨raw, [⟨quote, front⟩]⟩) c = .ok ([], .inWord state _) :=
        first _
      exact .step taken later

def InReference (c : Char) : Prop := c = '$' ∨ IsPlain c

theorem InReference.inside {c : Char} (inner : InReference c) :
    (isBlank c || isMeta c) = false ∧ c ≠ '\'' ∧ c ≠ '"' ∧ c ≠ '\\' := by
  obtain rfl | plain := inner
  · decide
  · have other : ∀ special ∈ specialChars, c ≠ special :=
      fun special listed same => plain.2 (same ▸ listed)
    exact ⟨plain.inside, other _ (by decide), other _ (by decide), other _ (by decide)⟩

theorem wordStep_double {c : Char} (inner : InReference c) (word : Word) :
    wordStep .double word c = .ok ([], .inWord .double ((word.read c).push .double c)) := by
  obtain ⟨_, _, notQuote, notBackslash⟩ := inner.inside
  rw [wordStep, if_neg notQuote, if_neg notBackslash]

theorem wordStep_plain {c : Char} (inner : InReference c) (word : Word) :
    wordStep .plain word c = .ok ([], .inWord .plain ((word.read c).push .unquoted c)) := by
  obtain ⟨inside, notSingle, notDouble, notBackslash⟩ := inner.inside
  simp [wordStep, plainStep, inside, notSingle, notDouble, notBackslash]

theorem tokenize_double (inner : ∀ c ∈ text, InReference c) :
    ∃ raw, tokenizeChars ('"' :: (text ++ ['"'])) =
      .ok [.word ⟨raw, [⟨.double, text⟩]⟩, .lineEnd] := by
  have opening : lexStep .between '"' = .ok ([], .inWord .double ⟨['"'], [⟨.double, []⟩]⟩) := rfl
  have content := run_push (fun c member word => wordStep_double (inner c member) word) ['"'] []
  have closing : lexStep (.inWord .double ⟨['"'] ++ text, [⟨.double, [] ++ text⟩]⟩) '"' =
      .ok ([], .inWord .plain ⟨['"'] ++ text ++ ['"'], [⟨.double, text⟩]⟩) := rfl
  have run := LexRun.step opening (content.append (.step closing (.done _)))
  exact ⟨_, by rw [tokenizeChars, run.lexFrom_eq]; rfl⟩

theorem tokenize_plain (inner : ∀ c ∈ text, InReference c) (some_ : text ≠ []) :
    ∃ raw, tokenizeChars text = .ok [.word ⟨raw, [⟨.unquoted, text⟩]⟩, .lineEnd] := by
  obtain ⟨c, rest, rfl⟩ := List.exists_cons_of_ne_nil some_
  obtain ⟨first, others⟩ := List.forall_mem_cons.mp inner
  have opening : lexStep .between c = .ok ([], .inWord .plain ⟨[c], [⟨.unquoted, [c]⟩]⟩) :=
    (lexStep_between first.inside.1).trans (wordStep_plain first {})
  have content := run_push (fun c member word => wordStep_plain (others c member) word) [c] [c]
  exact ⟨_, by rw [tokenizeChars, (LexRun.step opening content).lexFrom_eq]; rfl⟩

end Words

/-! ## References -/

theorem takeWhile_append_stop {keeps : Char → Bool} {after : List Char}
    (stops : ∀ c ∈ after.head?, keeps c = false) (text : List Char) :
    (text ++ after).takeWhile keeps = text.takeWhile keeps := by
  induction text with
  | nil =>
      cases after with
      | nil => rfl
      | cons c later => simp [stops c rfl]
  | cons c rest ih =>
      rw [List.cons_append, List.takeWhile_cons, List.takeWhile_cons, ih]

inductive ReferenceForm where
  | bare
  | braced
  deriving DecidableEq, Repr

namespace ReferenceForm

def afterDollar (form : ReferenceForm) (name : List Char) : List Char :=
  match form with
  | .bare => name
  | .braced => '{' :: (name ++ ['}'])

def written (form : ReferenceForm) (name : List Char) : List Char := '$' :: form.afterDollar name

variable (form : ReferenceForm) {name : List Char}

theorem inReference_written (valid : isValidName name = true) :
    ∀ c ∈ form.written name, InReference c := by
  have plain : ∀ c ∈ name, InReference c :=
    fun c member => .inr (isPlain_of_isValidName valid c member)
  refine List.forall_mem_cons.mpr ⟨.inl rfl, ?_⟩
  cases form with
  | bare => exact plain
  | braced =>
      refine List.forall_mem_cons.mpr ⟨.inr (by decide), List.forall_mem_append.mpr ⟨plain, ?_⟩⟩
      exact List.forall_mem_singleton.mpr (.inr (by decide))

theorem readReference?_bare (valid : isValidName name = true) {after : List Char}
    (ends : ∀ c ∈ after.head?, isNameChar c = false) :
    readReference? (name ++ after) = some (.variable name, name.length) := by
  obtain ⟨first, rest, rfl, starts, named⟩ := exists_of_isValidName valid
  obtain ⟨_, more⟩ := List.forall_mem_cons.mp named
  have whole : (rest ++ after).takeWhile isNameChar = rest := by
    rw [takeWhile_append_stop ends, List.takeWhile_eq_self_iff.mpr more]
  have notMark : first ≠ '?' := by
    rintro rfl
    cases starts
  have notDigit : first.isDigit = false := isDigit_of_isNameStart starts
  have notZero : first ≠ '0' := by
    rintro rfl
    cases notDigit
  simp only [List.cons_append, readReference?, if_neg notMark, if_neg notZero, notDigit, starts,
    whole]
  rfl

theorem readReference?_braced (valid : isValidName name = true) (after : List Char) :
    readReference? ('{' :: (name ++ '}' :: after)) = some (.variable name, name.length + 2) := by
  obtain ⟨_, _, _, _, named⟩ := exists_of_isValidName valid
  have noBrace : ∀ c ∈ name, (c != '}') = true :=
    fun c member => bne_iff_ne.mpr (ne_of_isNameChar (named c member) (by decide))
  have whole : (name ++ '}' :: after).takeWhile (· != '}') = name := by
    rw [List.takeWhile_append_of_pos noBrace]
    exact List.append_nil name
  have notMark : name ≠ ['?'] := by
    rintro rfl
    cases valid
  have read : readBraced? (name ++ '}' :: after) = some (.variable name, name.length + 2) := by
    simp [readBraced?, whole, notMark, valid]
  exact read

/-- What stands after the `$` is a reference to the variable, unless more of a bare name follows. -/
theorem readReference?_afterDollar (valid : isValidName name = true) {after : List Char}
    (ends : form = .bare → ∀ c ∈ after.head?, isNameChar c = false) :
    readReference? (form.afterDollar name ++ after) =
      some (.variable name, (form.afterDollar name).length) := by
  cases form with
  | bare => exact readReference?_bare valid (ends rfl)
  | braced =>
      have read := readReference?_braced valid after
      simpa [afterDollar] using read

end ReferenceForm

/-- Behind a reference the text is scanned on as if it began there. -/
theorem scan_reference (session : Session) {reference : Reference} {written after : List Char}
    (read : readReference? (written ++ after) = some (reference, written.length)) :
    scan session 0 ('$' :: (written ++ after)) =
      .value (reference.value session) :: scan session 0 after := by
  rw [scan, if_pos rfl, read]
  simp only [scan_skip session written.length, List.drop_left]

theorem scan_written (session : Session) (form : ReferenceForm) {name : List Char}
    (valid : isValidName name = true) :
    scan session 0 (form.written name) =
      [.value (Reference.value session (.variable name))] := by
  have ends : form = .bare → ∀ c ∈ ([] : List Char).head?, isNameChar c = false := by simp
  have scanned := scan_reference session (form.readReference?_afterDollar valid ends)
  rw [List.append_nil] at scanned
  exact scanned

/-! ## Fields -/

/-- The pieces of a text between its white space. -/
def blankSeparated (text : List Char) : List (List Char) :=
  (text.splitOnP isBlank).filter (!·.isEmpty)

theorem splitAtoms_value (text : List Char) :
    splitAtoms (text.map .value) = blankSeparated text := by
  have alike : Atom.breaks ∘ Atom.value = isBlank := rfl
  have filled : (fun stretch : List Atom => !stretch.isEmpty) ∘ List.map Atom.value =
      fun piece : List Char => !piece.isEmpty := by
    funext piece
    cases piece <;> rfl
  have seen : List.filterMap Atom.char? ∘ List.map Atom.value = id := by
    funext piece
    exact (List.filterMap_map ..).trans List.filterMap_some
  rw [splitAtoms, stretches, splitOnP_map, alike, List.filter_map, filled, List.map_map, seen,
    List.map_id]
  rfl

theorem expandFields_double (session : Session) (raw text : List Char) :
    expandFields session ⟨raw, [⟨.double, text⟩]⟩ = [expandText session text] := by
  simp [expandFields, expandParts, Fields.addPart, Fields.addLiteral, Fields.finish]

/-- A word that is one unquoted reference comes to the pieces of its value. -/
theorem expandFields_unquoted (session : Session) (raw : List Char) {text value : List Char}
    (noTilde : text.head? ≠ some '~') (scanned : scan session 0 text = [.value value]) :
    expandFields session ⟨raw, [⟨.unquoted, text⟩]⟩ = blankSeparated value := by
  have kept : expandTilde (session.valueOf? "HOME") text = text := by
    unfold expandTilde
    split
    · exact absurd rfl noTilde
    · rfl
  have fields := Fields.finish_foldl_addAtom (value.map .value) [] (List.forall_mem_nil _)
  rw [List.foldl_map, List.nil_append, List.nil_append, splitAtoms_value] at fields
  simp only [expandFields, expandParts, Fields.addPart, kept, scanned, ite_self]
  exact fields

/-- A word so written is a line of its own, and comes to these fields. -/
def Session.ExpandsTo (session : Session) (written : List Char) (fields : List (List Char)) :
    Prop :=
  ∃ word, tokenizeChars written = .ok [.word word, .lineEnd] ∧ expandFields session word = fields

theorem Session.expandsTo_reference (session : Session) (form : ReferenceForm) {name : List Char}
    {value : String} (valid : isValidName name = true)
    (known : session.valueOf? (String.ofList name) = some value) :
    session.ExpandsTo ('"' :: (form.written name ++ ['"'])) [value.toList] ∧
      session.ExpandsTo (form.written name) (blankSeparated value.toList) := by
  have inner := form.inReference_written valid
  have scanned := scan_written session form valid
  have same : Reference.value session (.variable name) = value.toList := by
    rw [Reference.value, known]
    rfl
  rw [same] at scanned
  constructor
  · obtain ⟨raw, tokens⟩ := tokenize_double inner
    refine ⟨_, tokens, ?_⟩
    rw [expandFields_double, expandText, scanned]
    simp [Piece.text]
  · obtain ⟨raw, tokens⟩ := tokenize_plain inner (List.cons_ne_nil _ _)
    refine ⟨_, tokens, expandFields_unquoted session raw ?_ scanned⟩
    rw [ReferenceForm.written, List.head?_cons]
    decide

end PipeShell
