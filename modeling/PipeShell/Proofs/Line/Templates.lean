import PipeShell.Proofs.Line.References

/-!
# Texts with references

A text in which references may stand is written here as a sequence of fragments, each of which has a
meaning of its own. Main statement: what the text expands to is the meanings of its fragments one
after the other, so that a value is never looked at again, whatever it contains.
-/

namespace PipeShell

/-- A stretch of a text: without a `$`, a reference, or a `$` that begins none. -/
inductive Fragment where
  | literal (text : List Char) (plain : '$' ∉ text)
  | status (form : ReferenceForm)
  | digit (c : Char) (isDigit : c.isDigit = true)
  | variable (form : ReferenceForm) (name : List Char) (valid : isValidName name = true)
  | dollar
  deriving DecidableEq, Repr

namespace Fragment

def written : Fragment → List Char
  | .literal text _ => text
  | .status form => form.written ['?']
  | .digit c _ => ['$', c]
  | .variable form name _ => form.written name
  | .dollar => ['$']

/-- What the fragment stands for. Of the numbered arguments a shell knows only its own name. -/
def meaning (session : Session) : Fragment → List Char
  | .literal text _ => text
  | .status _ => (toString session.exitStatus).toList
  | .digit c _ => if c = '0' then "minish".toList else []
  | .variable _ name _ => ((session.valueOf? (String.ofList name)).getD "").toList
  | .dollar => ['$']

/-- A bare name would go on with a character that can be part of it, and a lone `$` would begin a
reference. All other fragments end by themselves. -/
def EndsBefore (after : List Char) : Fragment → Prop
  | .variable .bare _ _ => ∀ c ∈ after.head?, isNameChar c = false
  | .dollar => ∀ c ∈ after.head?, isNameChar c = false ∧ c ≠ '?' ∧ c ≠ '{'
  | _ => True

end Fragment

def Separate : List Fragment → Prop
  | [] => True
  | fragment :: rest => fragment.EndsBefore (rest.flatMap Fragment.written) ∧ Separate rest

/-! ## One fragment -/

theorem readReference?_status (form : ReferenceForm) (after : List Char) :
    readReference? (form.afterDollar ['?'] ++ after) =
      some (.status, (form.afterDollar ['?']).length) := by
  cases form with
  | bare => rfl
  | braced => simp [ReferenceForm.afterDollar, readReference?, readBraced?, isNameStart]

theorem readReference?_digit {c : Char} (isDigit : c.isDigit = true) (after : List Char) :
    readReference? (c :: after) = some (if c = '0' then .shellName else .positional, 1) := by
  have notMark : c ≠ '?' := by
    rintro rfl
    cases isDigit
  rw [readReference?, if_neg notMark, if_pos isDigit]
  split <;> rfl

theorem readReference?_none {after : List Char}
    (ends : ∀ c ∈ after.head?, isNameChar c = false ∧ c ≠ '?' ∧ c ≠ '{') :
    readReference? after = none := by
  cases after with
  | nil => rfl
  | cons c rest =>
      obtain ⟨unnamed, notMark, notBrace⟩ := ends c rfl
      have notDigit : c.isDigit = false := by
        simp only [isNameChar, Char.isAlphanum, Bool.or_eq_false_iff] at unnamed
        exact unnamed.1.2
      have notStart : isNameStart c = false := by
        cases starts : isNameStart c with
        | true =>
            rw [isNameChar_of_isNameStart starts] at unnamed
            cases unnamed
        | false => rfl
      have notZero : c ≠ '0' := by
        rintro rfl
        cases notDigit
      simp [readReference?, notMark, notZero, notDigit, notStart, notBrace]

def Fragment.pieces (session : Session) : Fragment → List Piece
  | .literal text _ => text.map .literal
  | .dollar => [.literal '$']
  | fragment => [.value (fragment.meaning session)]

theorem Fragment.text_pieces (session : Session) (fragment : Fragment) :
    (fragment.pieces session).flatMap Piece.text = fragment.meaning session := by
  cases fragment with
  | literal text plain =>
      rw [pieces, List.flatMap_map]
      exact List.flatMap_singleton' text
  | dollar => rfl
  | _ => simp [pieces, Piece.text]

/-- The scan goes through a fragment and on with what follows it. -/
theorem Fragment.scan_written (session : Session) {fragment : Fragment} {after : List Char}
    (ends : fragment.EndsBefore after) :
    scan session 0 (fragment.written ++ after) =
      fragment.pieces session ++ scan session 0 after := by
  cases fragment with
  | literal text plain => exact scan_literal session plain after
  | status form => exact scan_reference session (readReference?_status form after)
  | digit c isDigit =>
      have read : readReference? ([c] ++ after) = _ := readReference?_digit isDigit after
      have scanned := scan_reference session read
      simp only [written, List.cons_append, List.nil_append] at scanned ⊢
      rw [scanned]
      -- `$0` is the name of the shell, and the other digits are empty.
      by_cases zero : c = '0' <;> simp [pieces, meaning, Reference.value, zero, shellName]
  | «variable» form name valid =>
      refine scan_reference session (form.readReference?_afterDollar valid ?_)
      rintro rfl
      exact ends
  | dollar =>
      have none : readReference? after = none := readReference?_none ends
      rw [written, List.singleton_append, scan, if_pos rfl, none]
      rfl

/-! ## Whole texts -/

theorem scan_fragments (session : Session) {fragments : List Fragment}
    (separate : Separate fragments) :
    scan session 0 (fragments.flatMap Fragment.written) =
      fragments.flatMap (Fragment.pieces session) := by
  induction fragments with
  | nil => rfl
  | cons fragment rest ih =>
      obtain ⟨ends, others⟩ := separate
      rw [List.flatMap_cons, Fragment.scan_written session ends, ih others, List.flatMap_cons]

/-- A text expands to the meanings of its fragments, in their order and as they are. -/
theorem expandText_fragments (session : Session) {fragments : List Fragment}
    (separate : Separate fragments) :
    expandText session (fragments.flatMap Fragment.written) =
      fragments.flatMap (Fragment.meaning session) := by
  rw [expandText, scan_fragments session separate, List.flatMap_assoc]
  simp only [Fragment.text_pieces]

def sessionWithTemplate : Session :=
  { environment := ⟨[("A", "$A ${?}$")]⟩, exitStatus := 42 }

def crowdedFragments : List Fragment :=
  [.dollar, .variable .bare ['A'] rfl, .variable .braced ['B'] rfl, .digit '1' rfl,
    .digit '0' rfl, .literal ['0', '{', '?', '}'] (by decide), .status .braced, .status .bare,
    .literal ['A'] (by decide), .dollar]

theorem expandText_crowdedFragments :
    Separate crowdedFragments ∧
    expandText sessionWithTemplate "$$A${B}$1$00{?}${?}$?A$".toList =
      "$$A ${?}$minish0{?}4242A$".toList := by
  have separate : Separate crowdedFragments := by
    simp [crowdedFragments, Separate, Fragment.EndsBefore, Fragment.written,
      ReferenceForm.written, ReferenceForm.afterDollar]
    decide
  have expands := expandText_fragments sessionWithTemplate separate
  have written : crowdedFragments.flatMap Fragment.written =
      "$$A${B}$1$00{?}${?}$?A$".toList := by decide +kernel
  have meaning : crowdedFragments.flatMap (Fragment.meaning sessionWithTemplate) =
      "$$A ${?}$minish0{?}4242A$".toList := by decide +kernel
  rw [written, meaning] at expands
  exact ⟨separate, expands⟩

end PipeShell
