import PipeShell.Proofs.Session.VariableLists
import PipeShell.Proofs.Text.Repair

/-!
# The environment of a program

A program gets its variables as texts, one `NAME=value` for each, and no text with a NUL character
can be handed over. Main statement: without such a character the texts are the variables, in order
and each to be read back; otherwise the first variable that has one is told by the octet it is at.
-/

namespace PipeShell

/-- The text has a NUL character, and the first one comes after so many octets. -/
def FirstNul (text : String) (position : Nat) : Prop :=
  ∃ front back, text.toList = front ++ '\x00' :: back ∧ '\x00' ∉ front ∧
    position = (String.ofList front).utf8ByteSize

namespace Environment

def Sendable (entry : String × String) : Prop :=
  '\x00' ∉ entry.1.toList ∧ '\x00' ∉ entry.2.toList

instance : DecidablePred Sendable := fun entry =>
  inferInstanceAs (Decidable ('\x00' ∉ entry.1.toList ∧ '\x00' ∉ entry.2.toList))

theorem sendable_iff (entry : String × String) :
    Sendable entry ↔ '\x00' ∉ (assignmentText entry).toList := by
  simp [Sendable, assignmentText]

/-! ## Octets of a text -/

theorem findIdx?_zero_of_not_mem {chars : List Char} (absent : '\x00' ∉ chars) :
    (utf8 chars).findIdx? (· == 0) = none := by
  refine List.findIdx?_eq_none_iff.mpr fun octet member => ?_
  rw [beq_eq_false_iff_ne]
  rintro rfl
  obtain ⟨c, inChars, inOctets⟩ := List.mem_flatMap.mp member
  have zero : c.toNat = 0 := toNat_eq_of_mem_utf8EncodeChar (by decide) inOctets
  have same : c = '\x00' := Char.ext (UInt32.toNat_inj.mp zero)
  exact absent (same ▸ inChars)

theorem findIdx?_zero {front : List Char} (absent : '\x00' ∉ front) (back : List Char) :
    (utf8 (front ++ '\x00' :: back)).findIdx? (· == 0) =
      some (String.ofList front).utf8ByteSize := by
  have size : (utf8 front).length = (String.ofList front).utf8ByteSize := by
    simp [String.ofList, String.utf8ByteSize, List.utf8Encode, utf8]
  have split : utf8 (front ++ '\x00' :: back) = utf8 front ++ 0 :: utf8 back := by
    simp [utf8, String.utf8EncodeChar]
  rw [split, List.findIdx?_append, findIdx?_zero_of_not_mem absent, ← size]
  simp [List.findIdx?_cons]

theorem nulPosition?_eq_none_iff (text : String) :
    nulPosition? text = none ↔ '\x00' ∉ text.toList := by
  constructor
  · intro none member
    obtain ⟨front, back, split, absent⟩ := List.eq_append_cons_of_mem member
    rw [nulPosition?, encode, split, findIdx?_zero absent] at none
    cases none
  · exact findIdx?_zero_of_not_mem

theorem nulPosition?_eq_some_iff (text : String) (position : Nat) :
    nulPosition? text = some position ↔ FirstNul text position := by
  constructor
  · intro found
    have member : '\x00' ∈ text.toList := by
      by_contra absent
      rw [(nulPosition?_eq_none_iff text).mpr absent] at found
      cases found
    obtain ⟨front, back, split, absent⟩ := List.eq_append_cons_of_mem member
    rw [nulPosition?, encode, split, findIdx?_zero absent] at found
    exact ⟨front, back, split, absent, (Option.some.inj found).symm⟩
  · rintro ⟨front, back, split, absent, rfl⟩
    rw [nulPosition?, encode, split, findIdx?_zero absent]

/-! ## Lists of variables -/

theorem toStrings_of_sendable {entries : List (String × String)}
    (sendable : ∀ entry ∈ entries, Sendable entry) :
    toStrings entries = .ok (entries.map assignmentText) := by
  induction entries with
  | nil => rfl
  | cons entry rest ih =>
      obtain ⟨here, others⟩ := List.forall_mem_cons.mp sendable
      have clean : nulPosition? (assignmentText entry) = none :=
        (nulPosition?_eq_none_iff _).mpr ((sendable_iff entry).mp here)
      simp only [toStrings, clean, ih others, List.map_cons]
      rfl

theorem toStrings_of_unsendable {sent : List (String × String)}
    (sendable : ∀ other ∈ sent, Sendable other) {entry : String × String} {position : Nat}
    (found : FirstNul (assignmentText entry) position) (rest : List (String × String)) :
    toStrings (sent ++ entry :: rest) = .error position := by
  induction sent with
  | nil => simp only [List.nil_append, toStrings, (nulPosition?_eq_some_iff _ _).mpr found]
  | cons other others ih =>
      obtain ⟨here, more⟩ := List.forall_mem_cons.mp sendable
      have clean : nulPosition? (assignmentText other) = none :=
        (nulPosition?_eq_none_iff _).mpr ((sendable_iff other).mp here)
      simp only [List.cons_append, toStrings, clean, ih more]
      rfl

/-- Either all variables can be handed over, or there is a first that cannot. -/
theorem sendable_or_first (entries : List (String × String)) :
    (∀ entry ∈ entries, Sendable entry) ∨
      ∃ sent entry rest position, entries = sent ++ entry :: rest ∧
        (∀ other ∈ sent, Sendable other) ∧ FirstNul (assignmentText entry) position := by
  induction entries with
  | nil => exact .inl (by simp)
  | cons entry rest ih =>
      cases found : nulPosition? (assignmentText entry) with
      | some position =>
          have first := (nulPosition?_eq_some_iff _ _).mp found
          exact .inr ⟨[], entry, rest, position, rfl, by simp, first⟩
      | none =>
          have here := (sendable_iff entry).mpr ((nulPosition?_eq_none_iff _).mp found)
          obtain others | ⟨sent, stuck, later, position, rfl, sendable, first⟩ := ih
          · exact .inl (List.forall_mem_cons.mpr ⟨here, others⟩)
          · exact .inr ⟨entry :: sent, stuck, later, position, rfl,
              List.forall_mem_cons.mpr ⟨here, sendable⟩, first⟩

theorem toStrings_ok_iff {entries : List (String × String)} {texts : List String} :
    toStrings entries = .ok texts ↔
      (∀ entry ∈ entries, Sendable entry) ∧ texts = entries.map assignmentText := by
  constructor
  · intro made
    obtain sendable | ⟨_, _, rest, _, rfl, sendable, found⟩ := sendable_or_first entries
    · rw [toStrings_of_sendable sendable] at made
      exact ⟨sendable, (Except.ok.inj made).symm⟩
    · rw [toStrings_of_unsendable sendable found rest] at made
      cases made
  · rintro ⟨sendable, rfl⟩
    exact toStrings_of_sendable sendable

theorem toStrings_error_iff {entries : List (String × String)} {position : Nat} :
    toStrings entries = .error position ↔
      ∃ sent entry rest, entries = sent ++ entry :: rest ∧ (∀ other ∈ sent, Sendable other) ∧
        FirstNul (assignmentText entry) position := by
  constructor
  · intro failed
    obtain sendable | ⟨sent, entry, rest, here, rfl, sendable, found⟩ := sendable_or_first entries
    · rw [toStrings_of_sendable sendable] at failed
      cases failed
    · rw [toStrings_of_unsendable sendable found rest] at failed
      cases failed
      exact ⟨sent, entry, rest, rfl, sendable, found⟩
  · rintro ⟨sent, entry, rest, rfl, sendable, found⟩
    exact toStrings_of_unsendable sendable found rest

/-- The environment of a program is that of the session. It can be made exactly if no variable has a
NUL character, and then it is one text for each variable, in order, that is cut into its name and
its value at the first `=` if no name has one of its own. Otherwise the failure is the position of
the first NUL character in the text of the first variable that has one. -/
theorem toArguments_faithful (environment : Environment) :
    (∀ texts, environment.toArguments = .ok texts ↔
      (∀ entry ∈ environment.entries, Sendable entry) ∧
        texts = environment.entries.map assignmentText) ∧
    (∀ texts, environment.toArguments = .ok texts →
      (∀ name ∈ environment.names, '=' ∉ name.toList) →
        texts.map Scene.splitAssignment =
          environment.entries.map fun (name, value) => (name.toList, some value)) ∧
    ∀ position, environment.toArguments = .error position ↔
      ∃ sent entry rest, environment.entries = sent ++ entry :: rest ∧
        (∀ other ∈ sent, Sendable other) ∧ FirstNul (assignmentText entry) position := by
  refine ⟨fun _ => toStrings_ok_iff, ?_, fun _ => toStrings_error_iff⟩
  intro texts made plain
  obtain ⟨_, rfl⟩ := toStrings_ok_iff.mp made
  rw [List.map_map]
  refine List.map_congr_left fun entry member => ?_
  exact splitAssignment_joined (plain entry.1 (List.mem_map_of_mem member)) entry.2

def oddVariables : Environment :=
  ⟨[("PATH", "/bin:/a=b"), ("EMPTY", ""), ("", "nameless"), ("É", "=")]⟩

def unsendableVariables : Environment :=
  ⟨[("PATH", "/bin"), ("É=", "ü\x00a\x00"), ("\x00", "")]⟩

theorem toArguments_faithful_oddVariables :
    oddVariables.toArguments = .ok ["PATH=/bin:/a=b", "EMPTY=", "=nameless", "É=="] ∧
      (∀ name ∈ oddVariables.names, '=' ∉ name.toList) ∧
      ["PATH=/bin:/a=b", "EMPTY=", "=nameless", "É=="].map Scene.splitAssignment =
        [("PATH".toList, some "/bin:/a=b"), ("EMPTY".toList, some ""), ([], some "nameless"),
          (['É'], some "=")] ∧
      unsendableVariables.toArguments = .error 6 := by
  obtain ⟨made, readBack, _⟩ := toArguments_faithful oddVariables
  obtain ⟨_, _, failed⟩ := toArguments_faithful unsendableVariables
  have plain : ∀ name ∈ oddVariables.names, '=' ∉ name.toList := by decide
  have texts := (made _).mpr ⟨by decide, rfl⟩
  refine ⟨texts, plain, readBack _ texts plain, (failed 6).mpr ?_⟩
  exact ⟨[("PATH", "/bin")], ("É=", "ü\x00a\x00"), [("\x00", "")], rfl, by decide,
    "É==ü".toList, ['a', '\x00'], by decide, by decide, by decide⟩

end Environment

end PipeShell
