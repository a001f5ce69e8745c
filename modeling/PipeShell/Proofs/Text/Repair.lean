import Mathlib.Algebra.Group.Nat.Defs
import Mathlib.Tactic.SplitIfs
import PipeShell.Text.Octets

/-!
# Text with octets that are no text

What is repaired is read octet by octet. Main statement: it becomes the text in which every
character stands for its own octets, and a replacement character for each maximal subpart of what is
ill-formed, which is the longest beginning of a character there, or one octet if there is none.
-/

namespace PipeShell

/-! ## The octets of a character -/

def continuation : Nat → Nat → Bytes
  | 0, _ => []
  | count + 1, value => UInt8.ofNat (value / 64 ^ count % 64 + 128) :: continuation count value

def leadOctet (value : Nat) : Nat :=
  if value ≤ 0x7F then value
  else if value ≤ 0x7FF then value / 64 + 0xC0
  else if value ≤ 0xFFFF then value / 4096 + 0xE0
  else value / 262144 + 0xF0

def continuationCount (value : Nat) : Nat :=
  if value ≤ 0x7F then 0 else if value ≤ 0x7FF then 1 else if value ≤ 0xFFFF then 2 else 3

theorem toNat_ofNat_of_isValidChar {value : Nat} (valid : value.isValidChar) :
    (Char.ofNat value).toNat = value := by
  rw [Char.ofNat, dif_pos valid]
  rfl

theorem toNat_ofNat_byte (byte : UInt8) : (Char.ofNat byte.toNat).toNat = byte.toNat := by
  have small := byte.toNat_lt
  have valid : byte.toNat.isValidChar := Or.inl (by omega)
  exact toNat_ofNat_of_isValidChar valid

theorem toNat_lt_of_char (c : Char) : c.toNat < 0x110000 := by
  have valid : c.toNat < 0xD800 ∨ 0xDFFF < c.toNat ∧ c.toNat < 0x110000 := c.valid
  omega

theorem leadOctet_lt (c : Char) : leadOctet c.toNat < 256 := by
  have bounded := toNat_lt_of_char c
  unfold leadOctet
  split_ifs <;> omega

theorem utf8EncodeChar_eq (c : Char) :
    String.utf8EncodeChar c =
      UInt8.ofNat (leadOctet c.toNat) :: continuation (continuationCount c.toNat) c.toNat := by
  have bounded := toNat_lt_of_char c
  have same : c.val.toNat = c.toNat := rfl
  simp only [String.utf8EncodeChar, leadOctet, continuationCount, same]
  generalize c.toNat = value at bounded
  split_ifs with one two three
  · rfl
  · have lead : value / 64 % 32 = value / 64 := by omega
    simp [continuation, lead]
  · have lead : value / 4096 % 16 = value / 4096 := by omega
    simp [continuation, lead]
  · have lead : value / 262144 % 8 = value / 262144 := by omega
    simp [continuation, lead]

theorem le_of_mem_continuation {octet : UInt8} {count value : Nat}
    (member : octet ∈ continuation count value) : 128 ≤ octet.toNat := by
  induction count with
  | zero => cases member
  | succ count ih =>
      obtain rfl | inRest := List.mem_cons.mp member
      · rw [UInt8.toNat_ofNat_of_lt' (show _ < 256 by omega)]
        omega
      · exact ih inRest

theorem toNat_eq_of_mem_utf8EncodeChar {octet : UInt8} {c : Char} (ascii : octet.toNat < 128)
    (member : octet ∈ String.utf8EncodeChar c) : c.toNat = octet.toNat := by
  rw [utf8EncodeChar_eq] at member
  obtain rfl | inRest := List.mem_cons.mp member
  · rw [UInt8.toNat_ofNat_of_lt' (leadOctet_lt c)] at ascii ⊢
    unfold leadOctet at ascii ⊢
    split_ifs at ascii ⊢ <;> omega
  · have above := le_of_mem_continuation inRest
    omega

/-! ## Between characters -/

def Begun.Allows (state : Begun) (value : Nat) : Prop :=
  value / 64 ^ (state.owed + 1) = state.value ∧
    state.low.toNat ≤ value / 64 ^ state.owed % 64 + 128 ∧
    value / 64 ^ state.owed % 64 + 128 ≤ state.high.toNat

theorem div_pow_succ (value count : Nat) : value / 64 ^ (count + 1) = value / 64 ^ count / 64 := by
  rw [Nat.div_div_eq_div_mul, Nat.pow_succ]

/-- The octets that begin a character of several octets. After some of them the next octet has less
room: the value would be too small for so many octets, too large, or that of a surrogate. -/
theorem begun_of_lead {octet : UInt8} {state : Begun} (begun : lead octet = .begun state) :
    (0xC2 ≤ octet.toNat ∧ octet.toNat ≤ 0xDF ∧ state = ⟨0, 0x80, 0xBF, octet.toNat - 0xC0⟩) ∨
    (octet.toNat = 0xE0 ∧ state = ⟨1, 0xA0, 0xBF, 0⟩) ∨
    (octet.toNat = 0xED ∧ state = ⟨1, 0x80, 0x9F, 0xD⟩) ∨
    (0xE1 ≤ octet.toNat ∧ octet.toNat ≤ 0xEF ∧ octet.toNat ≠ 0xED ∧
      state = ⟨1, 0x80, 0xBF, octet.toNat - 0xE0⟩) ∨
    (octet.toNat = 0xF0 ∧ state = ⟨2, 0x90, 0xBF, 0⟩) ∨
    (octet.toNat = 0xF4 ∧ state = ⟨2, 0x80, 0x8F, 4⟩) ∨
    (0xF1 ≤ octet.toNat ∧ octet.toNat ≤ 0xF3 ∧ state = ⟨2, 0x80, 0xBF, octet.toNat - 0xF0⟩) := by
  unfold lead at begun
  simp only [UInt8.le_iff_toNat_le, Bool.and_eq_true, decide_eq_true_eq, beq_iff_eq,
    ← UInt8.toNat_inj, UInt8.reduceToNat] at begun
  split_ifs at begun <;> simp only [Lead.begun.injEq] at begun <;> subst begun <;> simp [*]

theorem allows_iff_of_lead {octet : UInt8} {state : Begun} (begun : lead octet = .begun state)
    (value : Nat) :
    state.Allows value ↔ value.isValidChar ∧ leadOctet value = octet.toNat := by
  unfold Begun.Allows leadOctet Nat.isValidChar
  obtain ⟨_, _, rfl⟩ | ⟨_, rfl⟩ | ⟨_, rfl⟩ | ⟨_, _, _, rfl⟩ | ⟨_, rfl⟩ | ⟨_, rfl⟩ | ⟨_, _, rfl⟩ :=
    begun_of_lead begun
  all_goals
    simp only [UInt8.reduceToNat, Nat.reduceAdd, Nat.reducePow, Nat.pow_zero, Nat.div_one]
    split_ifs <;> omega

theorem continuationCount_of_lead {octet : UInt8} {state : Begun}
    (begun : lead octet = .begun state) {value : Nat} (same : leadOctet value = octet.toNat)
    (bounded : value < 0x110000) : continuationCount value = state.owed + 1 := by
  unfold leadOctet at same
  unfold continuationCount
  obtain ⟨_, _, rfl⟩ | ⟨_, rfl⟩ | ⟨_, rfl⟩ | ⟨_, _, _, rfl⟩ | ⟨_, rfl⟩ | ⟨_, rfl⟩ | ⟨_, _, rfl⟩ :=
    begun_of_lead begun
  all_goals
    dsimp only
    split_ifs at same ⊢ <;> omega

theorem range_of_lead {octet : UInt8} {state : Begun} (begun : lead octet = .begun state) :
    128 ≤ state.low.toNat ∧ state.low.toNat ≤ state.high.toNat ∧ state.high.toNat ≤ 191 := by
  obtain ⟨_, _, rfl⟩ | ⟨_, rfl⟩ | ⟨_, rfl⟩ | ⟨_, _, _, rfl⟩ | ⟨_, rfl⟩ | ⟨_, rfl⟩ | ⟨_, _, rfl⟩ :=
    begun_of_lead begun <;> simp

theorem eq_ofNat_iff (octet : UInt8) {value : Nat} (small : value < 256) :
    octet = UInt8.ofNat value ↔ value = octet.toNat := by
  rw [← UInt8.toNat_inj, UInt8.toNat_ofNat_of_lt' small, eq_comm]

theorem eq_continuation_iff (octet : UInt8) (tail : Bytes) (count value : Nat) :
    octet :: tail = continuation (count + 1) value ↔
      value / 64 ^ count % 64 + 128 = octet.toNat ∧ tail = continuation count value := by
  have small : value / 64 ^ count % 64 + 128 < 256 := by omega
  rw [continuation, List.cons.injEq, eq_ofNat_iff octet small]

theorem utf8EncodeChar_eq_cons_iff (c : Char) (octet : UInt8) (tail : Bytes) :
    String.utf8EncodeChar c = octet :: tail ↔
      leadOctet c.toNat = octet.toNat ∧
        tail = continuation (continuationCount c.toNat) c.toNat := by
  rw [utf8EncodeChar_eq, eq_comm, List.cons.injEq, eq_ofNat_iff octet (leadOctet_lt c)]

theorem utf8EncodeChar_of_lead {octet : UInt8} {c : Char} (whole : lead octet = .whole c) :
    String.utf8EncodeChar c = [octet] := by
  unfold lead at whole
  split at whole
  · rename_i ascii
    cases whole
    have small : octet.toNat ≤ 0x7F := UInt8.le_iff_toNat_le.mp ascii
    rw [utf8EncodeChar_eq_cons_iff, toNat_ofNat_byte, leadOctet, if_pos small, continuationCount,
      if_pos small]
    exact ⟨rfl, rfl⟩
  · repeat' split at whole
    all_goals cases whole

theorem utf8EncodeChar_ne_of_lead {octet : UInt8} (refused : lead octet = .refused) (c : Char)
    (tail : Bytes) : String.utf8EncodeChar c ≠ octet :: tail := by
  intro spelled
  have same := ((utf8EncodeChar_eq_cons_iff c octet tail).mp spelled).1
  have bounded := toNat_lt_of_char c
  unfold lead at refused
  simp only [UInt8.le_iff_toNat_le, Bool.and_eq_true, decide_eq_true_eq, beq_iff_eq,
    ← UInt8.toNat_inj, UInt8.reduceToNat] at refused
  unfold leadOctet at same
  split_ifs at refused same
  all_goals omega

/-! ## Inside a character -/

/-- What was read of a character: which values the character can still have, and that its octets are
those of such a value from here on. -/
structure Begun.Reads (state : Begun) (front : Bytes) : Prop where
  nonempty : front ≠ []
  range : 128 ≤ state.low.toNat ∧ state.low.toNat ≤ state.high.toNat ∧ state.high.toNat ≤ 191
  valid : ∀ value, state.Allows value → value.isValidChar
  spelled : ∀ c tail, String.utf8EncodeChar c = front ++ tail ↔
    state.Allows c.toNat ∧ tail = continuation (state.owed + 1) c.toNat

theorem Begun.reads_of_lead {octet : UInt8} {state : Begun} (begun : lead octet = .begun state) :
    state.Reads [octet] where
  nonempty := List.cons_ne_nil octet []
  range := range_of_lead begun
  valid value allowed := ((allows_iff_of_lead begun value).mp allowed).1
  spelled c tail := by
    have valid : c.toNat.isValidChar := c.valid
    rw [List.singleton_append, utf8EncodeChar_eq_cons_iff, allows_iff_of_lead begun,
      and_iff_right valid]
    refine and_congr_right fun same => ?_
    rw [continuationCount_of_lead begun same (toNat_lt_of_char c)]

def Begun.next (state : Begun) (owed : Nat) (octet : UInt8) : Begun :=
  ⟨owed, 0x80, 0xBF, state.value * 64 + (octet.toNat - 0x80)⟩

namespace Begun.Reads

variable {state : Begun} {front : Bytes} {octet : UInt8} (reads : state.Reads front)
include reads

theorem allows_next_iff {owed : Nat} (more : state.owed = owed + 1)
    (within : state.low ≤ octet ∧ octet ≤ state.high) (value : Nat) :
    (state.next owed octet).Allows value ↔
      state.Allows value ∧ value / 64 ^ state.owed % 64 + 128 = octet.toNat := by
  obtain ⟨low, _, high⟩ := reads.range
  simp only [UInt8.le_iff_toNat_le] at within
  simp only [Begun.Allows, next, UInt8.reduceToNat]
  rw [← more, div_pow_succ]
  omega

theorem next {owed : Nat} (more : state.owed = owed + 1)
    (within : state.low ≤ octet ∧ octet ≤ state.high) :
    (state.next owed octet).Reads (front ++ [octet]) where
  nonempty := by simp
  range := by simp [Begun.next]
  valid value allowed := reads.valid value ((reads.allows_next_iff more within value).mp allowed).1
  spelled c tail := by
    rw [List.append_assoc, List.singleton_append, reads.spelled, reads.allows_next_iff more within,
      eq_continuation_iff, and_assoc, more]
    rfl

theorem last (none : state.owed = 0) (within : state.low ≤ octet ∧ octet ≤ state.high) :
    String.utf8EncodeChar (Char.ofNat (state.value * 64 + (octet.toNat - 0x80))) =
      front ++ [octet] := by
  obtain ⟨low, _, high⟩ := reads.range
  simp only [UInt8.le_iff_toNat_le] at within
  have allowed : state.Allows (state.value * 64 + (octet.toNat - 0x80)) := by
    simp only [Begun.Allows, none, Nat.zero_add, Nat.pow_one, Nat.pow_zero, Nat.div_one]
    omega
  rw [reads.spelled, toNat_ofNat_of_isValidChar (reads.valid _ allowed), none]
  refine ⟨allowed, (eq_continuation_iff octet [] 0 _).mpr ⟨?_, rfl⟩⟩
  rw [Nat.pow_zero, Nat.div_one]
  omega

theorem within_of_spelled {c : Char} {tail : Bytes}
    (spelled : String.utf8EncodeChar c = front ++ octet :: tail) :
    state.low ≤ octet ∧ octet ≤ state.high := by
  obtain ⟨⟨_, low, high⟩, rest⟩ := (reads.spelled c _).mp spelled
  have same := ((eq_continuation_iff octet tail state.owed c.toNat).mp rest).1
  rw [same] at low high
  exact ⟨UInt8.le_iff_toNat_le.mpr low, UInt8.le_iff_toNat_le.mpr high⟩

theorem not_whole (c : Char) : String.utf8EncodeChar c ≠ front := by
  intro whole
  have rest := ((reads.spelled c []).mp (by rw [whole, List.append_nil])).2
  cases rest

/-- What was read is the beginning of some character. -/
theorem exists_spelled : ∃ c, front <+: String.utf8EncodeChar c := by
  obtain ⟨low, ordered, high⟩ := reads.range
  -- The least octet of the range goes on, and after it any octets do.
  let value := (state.value * 64 + (state.low.toNat - 128)) * 64 ^ state.owed
  have parts : value / 64 ^ state.owed = state.value * 64 + (state.low.toNat - 128) :=
    Nat.mul_div_cancel _ (Nat.pow_pos (by decide))
  have allowed : state.Allows value := by
    rw [Begun.Allows, div_pow_succ, parts]
    omega
  have valid := reads.valid value allowed
  refine ⟨Char.ofNat value, continuation (state.owed + 1) value, ?_⟩
  refine ((reads.spelled _ _).mpr ?_).symm
  rw [toNat_ofNat_of_isValidChar valid]
  exact ⟨allowed, rfl⟩

end Begun.Reads

/-! ## What is kept and what is replaced -/

/-- The octets are the beginning of a character, or one octet alone. -/
def MayStand (octets : Bytes) : Prop :=
  octets.length = 1 ∨ ∃ c, octets <+: String.utf8EncodeChar c

/-- What is replaced where no character stands: the longest beginning of a character that there is,
or one octet if there is none. -/
structure MaximalSubpart (subpart rest : Bytes) : Prop where
  nonempty : subpart ≠ []
  unconvertible : ∀ c, ¬ String.utf8EncodeChar c <+: subpart ++ rest
  mayStand : MayStand subpart
  longest : ∀ other, other <+: subpart ++ rest → MayStand other → other.length ≤ subpart.length

/-- The text that octets become: characters where they stand, and one replacement character for each
maximal subpart of anything else. -/
inductive Substituted : Bytes → List Char → Prop where
  | done : Substituted [] []
  | kept {rest : Bytes} {text : List Char} (c : Char) :
      Substituted rest text → Substituted (String.utf8EncodeChar c ++ rest) (c :: text)
  | replaced {subpart rest : Bytes} {text : List Char} :
      MaximalSubpart subpart rest → Substituted rest text →
        Substituted (subpart ++ rest) ('\uFFFD' :: text)

/-- No character is the beginning of another. -/
theorem eq_of_utf8EncodeChar_append {c d : Char} {rest after : Bytes}
    (same : String.utf8EncodeChar c ++ rest = String.utf8EncodeChar d ++ after) : c = d := by
  have first : ((String.utf8EncodeChar c).toByteArray ++ rest.toByteArray).utf8DecodeChar? 0 =
      some c := ByteArray.utf8DecodeChar?_utf8EncodeChar_append
  rw [← List.toByteArray_append, same, List.toByteArray_append,
    ByteArray.utf8DecodeChar?_utf8EncodeChar_append] at first
  exact (Option.some.inj first).symm

theorem MaximalSubpart.unique {subpart other rest after : Bytes}
    (first : MaximalSubpart subpart rest) (second : MaximalSubpart other after)
    (same : subpart ++ rest = other ++ after) : subpart = other := by
  have lies : subpart <+: other ++ after := ⟨rest, same⟩
  have otherLies : other <+: other ++ after := List.prefix_append other after
  have short := second.longest subpart lies first.mayStand
  have otherShort := first.longest other (same ▸ otherLies) second.mayStand
  have length : subpart.length = other.length := by omega
  exact (List.prefix_of_prefix_length_le lies otherLies short).eq_of_length length

/-- The octets decide the text. -/
theorem Substituted.unique {octets : Bytes} {text other : List Char}
    (first : Substituted octets text) (second : Substituted octets other) : text = other := by
  induction first generalizing other with
  | done =>
      generalize empty : ([] : Bytes) = octets at second
      cases second with
      | done => rfl
      | kept c =>
          obtain ⟨none, _⟩ := List.append_eq_nil_iff.mp empty.symm
          exact absurd none String.utf8EncodeChar_ne_nil
      | replaced maximal =>
          obtain ⟨none, _⟩ := List.append_eq_nil_iff.mp empty.symm
          exact absurd none maximal.nonempty
  | @kept rest text c _ ih =>
      generalize same : String.utf8EncodeChar c ++ rest = octets at second
      cases second with
      | done =>
          obtain ⟨none, _⟩ := List.append_eq_nil_iff.mp same
          exact absurd none String.utf8EncodeChar_ne_nil
      | @kept after later d more =>
          obtain rfl := eq_of_utf8EncodeChar_append same
          rw [List.append_cancel_left_eq] at same
          subst same
          rw [ih more]
      | replaced maximal => exact absurd ⟨rest, same⟩ (maximal.unconvertible c)
  | @replaced subpart rest text maximal _ ih =>
      generalize same : subpart ++ rest = octets at second
      cases second with
      | done =>
          obtain ⟨none, _⟩ := List.append_eq_nil_iff.mp same
          exact absurd none maximal.nonempty
      | @kept after later d => exact absurd ⟨after, same.symm⟩ (maximal.unconvertible d)
      | replaced other more =>
          obtain rfl := maximal.unique other same
          rw [List.append_cancel_left_eq] at same
          subst same
          rw [ih more]

/-! ## What the machine does -/

/-- Octets after which no character can go on are a maximal subpart. -/
theorem MaximalSubpart.of_stuck {front rest : Bytes} (nonempty : front ≠ [])
    (mayStand : MayStand front) (incomplete : ∀ c, String.utf8EncodeChar c ≠ front)
    (stuck : ∀ c octet tail, String.utf8EncodeChar c = front ++ octet :: tail →
      rest.head? ≠ some octet) : MaximalSubpart front rest := by
  -- Nothing that may stand goes on after the octets.
  have longest : ∀ c, ∀ other, front.length < other.length → other <+: front ++ rest →
      ¬ other <+: String.utf8EncodeChar c := by
    intro c other longer lies begins
    have frontBegins : front <+: other :=
      List.prefix_of_prefix_length_le (List.prefix_append front rest) lies (Nat.le_of_lt longer)
    obtain ⟨more, rfl⟩ := frontBegins
    obtain ⟨after, split⟩ := lies
    obtain ⟨tail, spelled⟩ := begins
    cases more with
    | nil => simp at longer
    | cons octet more =>
        rw [List.append_assoc, List.append_cancel_left_eq] at split
        rw [List.append_assoc] at spelled
        exact stuck c octet (more ++ tail) spelled.symm (by rw [← split]; rfl)
  have frontLength := List.length_pos_iff.mpr nonempty
  refine ⟨nonempty, ?_, mayStand, ?_⟩
  · intro c lies
    rcases Nat.lt_or_ge front.length (String.utf8EncodeChar c).length with longer | short
    · exact longest c _ longer lies (List.prefix_refl _)
    · have begins : String.utf8EncodeChar c <+: front :=
        List.prefix_of_prefix_length_le lies (List.prefix_append front rest) short
      have filled : 0 < (String.utf8EncodeChar c).length :=
        List.length_pos_iff.mpr String.utf8EncodeChar_ne_nil
      obtain single | ⟨d, more⟩ := mayStand
      · exact incomplete c (begins.eq_of_length (by omega))
      · -- The character is then the beginning of another, so it is the other.
        obtain ⟨tail, spelled⟩ := begins.trans more
        obtain rfl : c = d :=
          eq_of_utf8EncodeChar_append (spelled.trans (List.append_nil _).symm)
        exact incomplete c (begins.eq_of_length_le more.length_le)
  · intro other lies otherStands
    refine Nat.le_of_not_lt fun longer => ?_
    obtain single | ⟨c, begins⟩ := otherStands
    · omega
    · exact longest c other longer lies begins

def FirstPiece (octets rest : Bytes) : Option Char → Prop
  | some c => octets = String.utf8EncodeChar c ++ rest
  | none => ∃ subpart, octets = subpart ++ rest ∧ MaximalSubpart subpart rest

theorem FirstPiece.length_lt {octets rest : Bytes} {piece : Option Char}
    (stands : FirstPiece octets rest piece) : rest.length < octets.length := by
  cases piece with
  | some c =>
      have filled : 0 < (String.utf8EncodeChar c).length :=
        List.length_pos_iff.mpr String.utf8EncodeChar_ne_nil
      rw [show octets = _ from stands, List.length_append]
      omega
  | none =>
      obtain ⟨subpart, rfl, maximal⟩ := stands
      have filled := List.length_pos_iff.mpr maximal.nonempty
      rw [List.length_append]
      omega

theorem FirstPiece.substituted {octets rest : Bytes} {piece : Option Char} {text : List Char}
    (stands : FirstPiece octets rest piece) (later : Substituted rest text) :
    Substituted octets (piece.getD '\uFFFD' :: text) := by
  cases piece with
  | some c =>
      rw [show octets = _ from stands]
      exact .kept c later
  | none =>
      obtain ⟨subpart, rfl, maximal⟩ := stands
      exact .replaced maximal later

theorem Begun.Reads.maximalSubpart {state : Begun} {front : Bytes} (reads : state.Reads front)
    {rest : Bytes}
    (outside : ∀ octet, rest.head? = some octet → ¬ (state.low ≤ octet ∧ octet ≤ state.high)) :
    MaximalSubpart front rest := by
  refine .of_stuck reads.nonempty (.inr reads.exists_spelled) reads.not_whole ?_
  intro c octet tail spelled first
  exact outside octet first (reads.within_of_spelled spelled)

theorem utf8Pieces_outside (state : Begun) {octet : UInt8} (rest : Bytes)
    (outside : ¬ (state.low ≤ octet ∧ octet ≤ state.high)) :
    utf8Pieces (some state) (octet :: rest) = none :: utf8Pieces none (octet :: rest) := by
  have refused : ¬ (decide (state.low ≤ octet) && decide (octet ≤ state.high)) = true := by
    simpa using outside
  conv =>
    lhs
    rw [utf8Pieces, if_neg refused]
  rw [utf8Pieces]
  cases lead octet <;> rfl

theorem exists_piece_of_reads {state : Begun} {front : Bytes} (reads : state.Reads front)
    (octets : Bytes) :
    ∃ piece rest, FirstPiece (front ++ octets) rest piece ∧
      utf8Pieces (some state) octets = piece :: utf8Pieces none rest := by
  induction octets generalizing state front with
  | nil => exact ⟨none, [], ⟨front, rfl, reads.maximalSubpart nofun⟩, rfl⟩
  | cons octet rest ih =>
      by_cases within : state.low ≤ octet ∧ octet ≤ state.high
      · have taken : (decide (state.low ≤ octet) && decide (octet ≤ state.high)) = true := by
          simpa using within
        rw [utf8Pieces, if_pos taken]
        cases more : state.owed with
        | zero =>
            refine ⟨_, rest, ?_, rfl⟩
            rw [FirstPiece, reads.last more within, List.append_assoc]
            rfl
        | succ owed =>
            obtain ⟨piece, after, stands, pieces⟩ := ih (reads.next more within)
            rw [List.append_assoc] at stands
            exact ⟨piece, after, stands, pieces⟩
      · refine ⟨none, octet :: rest, ⟨front, rfl, reads.maximalSubpart ?_⟩,
          utf8Pieces_outside state rest within⟩
        intro other first
        cases first
        exact within

theorem exists_piece (octet : UInt8) (octets : Bytes) :
    ∃ piece rest, FirstPiece (octet :: octets) rest piece ∧
      utf8Pieces none (octet :: octets) = piece :: utf8Pieces none rest := by
  cases kind : lead octet with
  | whole c =>
      refine ⟨some c, octets, ?_, by rw [utf8Pieces, kind]⟩
      rw [FirstPiece, utf8EncodeChar_of_lead kind]
      rfl
  | begun state =>
      obtain ⟨piece, rest, stands, pieces⟩ :=
        exists_piece_of_reads (Begun.reads_of_lead kind) octets
      exact ⟨piece, rest, stands, by rw [utf8Pieces, kind, ← pieces]⟩
  | refused =>
      refine ⟨none, octets, ⟨[octet], rfl, ?_⟩, by rw [utf8Pieces, kind]⟩
      refine .of_stuck (List.cons_ne_nil octet []) (.inl rfl) ?_ ?_
      · exact fun c => utf8EncodeChar_ne_of_lead kind c []
      · exact fun c next tail spelled => absurd spelled (utf8EncodeChar_ne_of_lead kind c _)

/-! ## Whole texts -/

theorem substituted_repairUtf8 (octets : Bytes) : Substituted octets (repairUtf8 octets) := by
  -- What follows a piece is shorter, whatever the piece stands for.
  induction length : octets.length using Nat.strongRecOn generalizing octets with
  | _ length ih =>
      cases octets with
      | nil => exact .done
      | cons octet more =>
          obtain ⟨piece, rest, stands, pieces⟩ := exists_piece octet more
          have repaired : repairUtf8 (octet :: more) =
              piece.getD '\uFFFD' :: repairUtf8 rest := by
            rw [repairUtf8, pieces]
            rfl
          rw [repaired]
          exact stands.substituted (ih rest.length (length ▸ stands.length_lt) rest rfl)

/-- A text is repaired to what its octets become, and to nothing else. -/
theorem repairUtf8_eq_iff (octets : Bytes) (text : List Char) :
    repairUtf8 octets = text ↔ Substituted octets text := by
  constructor
  · rintro rfl
    exact substituted_repairUtf8 octets
  · exact (substituted_repairUtf8 octets).unique

example :
    repairUtf8 [0xE2, 0x82, 0x41, 0xF0, 0x80] = ['\uFFFD', 'A', '\uFFFD', '\uFFFD'] := by
  decide +kernel

theorem substituted_utf8 (text : List Char) : Substituted (utf8 text) text := by
  induction text with
  | nil => exact .done
  | cons c rest ih => exact .kept c ih

theorem repair_encode (text : String) : repair (encode text) = text := by
  rw [repair, encode, (repairUtf8_eq_iff _ _).mpr (substituted_utf8 text.toList)]
  exact String.ofList_toList

theorem map_getD_of_mapM {pieces : List (Option Char)} {chars : List Char}
    (known : pieces.mapM id = some chars) (other : Char) : pieces.map (·.getD other) = chars := by
  induction pieces generalizing chars with
  | nil =>
      cases known
      rfl
  | cons piece rest ih =>
      rw [List.mapM_cons] at known
      obtain ⟨c, first, others⟩ := Option.bind_eq_some_iff.mp known
      obtain ⟨later, read, made⟩ := Option.bind_eq_some_iff.mp others
      cases made
      rw [List.map_cons, ih read, show piece = some c from first]
      rfl

theorem repair_eq_of_decode? {octets : Bytes} {text : String} (read : decode? octets = some text) :
    repair octets = text := by
  obtain ⟨chars, known, rfl⟩ := Option.map_eq_some_iff.mp read
  exact congrArg String.ofList (map_getD_of_mapM known '\uFFFD')

end PipeShell
