import Mathlib.Data.List.TakeWhile
import Mathlib.Data.Nat.Digits.Defs
import PipeShell.Text.Integer

/-!
# Written numbers

A number is written in decimal digits, a sign before them or not, and white space around it does not
count. Main statement: the reader of 64-bit numbers accepts exactly these texts, as far as the
number is in its range, and reads the number that is written.
-/

namespace PipeShell

structure IsNumeral (text : List Char) : Prop where
  nonempty : text ≠ []
  digits : ∀ c ∈ text, c.isDigit = true

def numeralValue (text : List Char) : Nat :=
  Nat.ofDigits 10 (text.map fun c => c.toNat - '0'.toNat).reverse

inductive WrittenNumber : List Char → Int → Prop where
  | unsigned {digits : List Char} (numeral : IsNumeral digits) :
      WrittenNumber digits (numeralValue digits)
  | positive {digits : List Char} (numeral : IsNumeral digits) :
      WrittenNumber ('+' :: digits) (numeralValue digits)
  | negative {digits : List Char} (numeral : IsNumeral digits) :
      WrittenNumber ('-' :: digits) (-(numeralValue digits : Int))

/-- White space apart, the text is the number as it is written. -/
def Denotes (text : List Char) (value : Int) : Prop :=
  ∃ front number back, text = front ++ number ++ back ∧
    (∀ c ∈ front, isBlank c = true) ∧ (∀ c ∈ back, isBlank c = true) ∧ WrittenNumber number value

/-! ## Digits and signs -/

theorem numeralValue_eq_foldl (text : List Char) :
    numeralValue text = text.foldl (fun value c => value * 10 + (c.toNat - '0'.toNat)) 0 := by
  rw [numeralValue, Nat.ofDigits_eq_foldr, List.foldr_reverse, List.foldl_map]
  congr
  funext value c
  rw [Nat.cast_id]
  omega

theorem readDigits?_eq_some_iff {text : List Char} {value : Nat} :
    readDigits? text = some value ↔ IsNumeral text ∧ numeralValue text = value := by
  rw [numeralValue_eq_foldl, readDigits?]
  constructor
  · intro read
    split at read
    · cases read
    · rename_i refused
      have numeral : text ≠ [] ∧ ∀ c ∈ text, c.isDigit = true := by simpa using refused
      exact ⟨⟨numeral.1, numeral.2⟩, Option.some.inj read⟩
  · rintro ⟨numeral, rfl⟩
    have accepted : ¬ (text.isEmpty = true ∨ (!text.all Char.isDigit) = true) := by
      simpa using ⟨numeral.nonempty, numeral.digits⟩
    rw [if_neg accepted]

theorem readInteger?_eq_some_iff {text : List Char} {value : Int} :
    readInteger? text = some value ↔ WrittenNumber text value := by
  constructor
  · intro read
    unfold readInteger? at read
    split at read
    · obtain ⟨number, digits, rfl⟩ := Option.map_eq_some_iff.mp read
      obtain ⟨numeral, rfl⟩ := readDigits?_eq_some_iff.mp digits
      exact .positive numeral
    · obtain ⟨number, digits, rfl⟩ := Option.map_eq_some_iff.mp read
      obtain ⟨numeral, rfl⟩ := readDigits?_eq_some_iff.mp digits
      exact .negative numeral
    · obtain ⟨number, digits, rfl⟩ := Option.map_eq_some_iff.mp read
      obtain ⟨numeral, rfl⟩ := readDigits?_eq_some_iff.mp digits
      exact .unsigned numeral
  · intro written
    cases written with
    | positive numeral =>
        rw [readInteger?, readDigits?_eq_some_iff.mpr ⟨numeral, rfl⟩]
        rfl
    | negative numeral =>
        rw [readInteger?, readDigits?_eq_some_iff.mpr ⟨numeral, rfl⟩]
        rfl
    | unsigned numeral =>
        have read := readDigits?_eq_some_iff.mpr ⟨numeral, rfl⟩
        unfold readInteger?
        -- A sign is no digit, so neither of the first two cases is the one for these digits.
        split
        · exact absurd (numeral.digits '+' (by simp)) (by decide)
        · exact absurd (numeral.digits '-' (by simp)) (by decide)
        · rw [read]
          rfl

/-! ## White space -/

theorem exists_around (text : List Char) :
    ∃ front back, text = front ++ trimBlank text ++ back ∧
      (∀ c ∈ front, isBlank c = true) ∧ ∀ c ∈ back, isBlank c = true := by
  -- White space at the end is what the text begins with when it is read backwards.
  have front := List.takeWhile_append_dropWhile (p := isBlank) (l := text)
  have back := List.takeWhile_append_dropWhile (p := isBlank)
    (l := (text.dropWhile isBlank).reverse)
  have last : trimBlank text ++ ((text.dropWhile isBlank).reverse.takeWhile isBlank).reverse =
      text.dropWhile isBlank := by
    rw [trimBlank, trimBlankEnd, ← List.reverse_append, back, List.reverse_reverse]
  refine ⟨text.takeWhile isBlank, ((text.dropWhile isBlank).reverse.takeWhile isBlank).reverse,
    ?_, ?_, ?_⟩
  · rw [List.append_assoc, last, front]
  · intro c member
    exact List.mem_takeWhile_imp member
  · intro c member
    exact List.mem_takeWhile_imp (List.mem_reverse.mp member)

theorem dropWhile_blanks {blanks solid : List Char} (blank : ∀ c ∈ blanks, isBlank c = true)
    (nonempty : solid ≠ []) (stops : ∀ c ∈ solid, isBlank c = false) (rest : List Char) :
    (blanks ++ (solid ++ rest)).dropWhile isBlank = solid ++ rest := by
  obtain ⟨first, others, rfl⟩ := List.exists_cons_of_ne_nil nonempty
  rw [List.dropWhile_append_of_pos blank, List.cons_append, List.dropWhile_cons_of_neg]
  simp [stops first (by simp)]

theorem trimBlank_around {front solid back : List Char} (before : ∀ c ∈ front, isBlank c = true)
    (after : ∀ c ∈ back, isBlank c = true) (nonempty : solid ≠ [])
    (stops : ∀ c ∈ solid, isBlank c = false) :
    trimBlank (front ++ solid ++ back) = solid := by
  have last := @dropWhile_blanks back.reverse solid.reverse
    (by simpa using after) (by simpa using nonempty) (by simpa using stops) []
  rw [trimBlank, List.append_assoc, dropWhile_blanks before nonempty stops, trimBlankEnd,
    List.reverse_append]
  rw [List.append_nil] at last
  rw [last, List.reverse_reverse]

theorem isBlank_of_isDigit {c : Char} (digit : c.isDigit = true) : isBlank c = false := by
  simp only [Char.isDigit, Bool.and_eq_true, decide_eq_true_eq, ge_iff_le,
    UInt32.le_iff_toNat_le] at digit
  have low : 48 ≤ c.toNat := digit.1
  have high : c.toNat ≤ 57 := digit.2
  simp only [isBlank, Bool.or_eq_false_iff, Bool.and_eq_false_iff, decide_eq_false_iff_not,
    beq_eq_false_iff_ne]
  omega

namespace WrittenNumber

variable {text : List Char} {value : Int} (written : WrittenNumber text value)
include written

theorem nonempty : text ≠ [] := by
  cases written with
  | unsigned numeral => exact numeral.nonempty
  | positive => exact List.cons_ne_nil _ _
  | negative => exact List.cons_ne_nil _ _

theorem isBlank_eq_false : ∀ c ∈ text, isBlank c = false := by
  cases written with
  | unsigned numeral => exact fun c member => isBlank_of_isDigit (numeral.digits c member)
  | positive numeral =>
      refine List.forall_mem_cons.mpr ⟨by decide, fun c member => ?_⟩
      exact isBlank_of_isDigit (numeral.digits c member)
  | negative numeral =>
      refine List.forall_mem_cons.mpr ⟨by decide, fun c member => ?_⟩
      exact isBlank_of_isDigit (numeral.digits c member)

end WrittenNumber

theorem denotes_iff {text : List Char} {value : Int} :
    Denotes text value ↔ readInteger? (trimBlank text) = some value := by
  rw [readInteger?_eq_some_iff]
  constructor
  · rintro ⟨front, number, back, rfl, before, after, written⟩
    rwa [trimBlank_around before after written.nonempty written.isBlank_eq_false]
  · intro written
    obtain ⟨front, back, around, before, after⟩ := exists_around text
    exact ⟨front, trimBlank text, back, around, before, after, written⟩

theorem Denotes.unique {text : List Char} {value other : Int} (denotes : Denotes text value)
    (also : Denotes text other) : value = other :=
  Option.some.inj ((denotes_iff.mp denotes).symm.trans (denotes_iff.mp also))

/-- The reader accepts the texts that denote a number of 64 bits, and no others. -/
theorem readInteger64?_eq_some_iff {text : List Char} {value : Int} :
    readInteger64? text = some value ↔
      Denotes text value ∧ -2 ^ 63 ≤ value ∧ value ≤ 2 ^ 63 - 1 := by
  have limits : -signedLimit ≤ value ∧ value < signedLimit ↔
      -2 ^ 63 ≤ value ∧ value ≤ 2 ^ 63 - 1 := by
    rw [signedLimit]
    omega
  rw [readInteger64?, Option.filter_eq_some_iff, ← denotes_iff, decide_eq_true_iff, limits]

end PipeShell
