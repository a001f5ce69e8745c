import Mathlib.Data.List.Perm.Subperm
import PipeShell.System.Descriptors

/-!
# Numbers of a process

What opening, letting go and duplicating do to the numbers by which a process knows its streams.
Main statements: the lowest free number stands for nothing, and a stream that was opened and let go
of again leaves no trace.
-/

namespace PipeShell

namespace Descriptors

/-! ## Free numbers -/

theorem lookup_isSome_iff (number : Nat) (slots : List (Nat × Stream)) :
    (lookup number slots).isSome ↔ number ∈ slots.map Prod.fst := by
  induction slots with
  | nil => simp [lookup]
  | cons slot rest ih =>
      by_cases same : slot.1 = number
      · simp [lookup, same]
      · have other : ¬ number = slot.1 := fun equal => same equal.symm
        simp only [lookup, same, ↓reduceIte, ih, List.map_cons, List.mem_cons, other, false_or]

theorem exists_free (descriptors : Descriptors) :
    ∃ number < descriptors.slots.length + 1, descriptors.stream? number = none := by
  -- More numbers than there are slots cannot all be in use.
  apply Classical.byContradiction
  intro full
  -- Otherwise the numbers up to that of the slots would all be among theirs.
  have used : List.range (descriptors.slots.length + 1) ⊆ descriptors.slots.map Prod.fst := by
    intro number member
    rw [← lookup_isSome_iff, Option.isSome_iff_ne_none]
    intro free
    exact full ⟨number, List.mem_range.mp member, free⟩
  have short := (List.subperm_of_subset List.nodup_range used).length_le
  rw [List.length_range, List.length_map] at short
  omega

theorem lowestFree_spec (descriptors : Descriptors) :
    descriptors.stream? descriptors.lowestFree = none ∧
      descriptors.lowestFree ≤ descriptors.slots.length := by
  unfold lowestFree
  cases found : (List.range (descriptors.slots.length + 1)).find? fun number =>
      (descriptors.stream? number).isNone with
  | none =>
      obtain ⟨number, small, free⟩ := descriptors.exists_free
      have used := List.find?_eq_none.mp found number (List.mem_range.mpr small)
      simp [free] at used
  | some number =>
      have free := List.find?_some found
      have small := List.mem_range.mp (List.mem_of_find?_eq_some found)
      simp only [Option.isNone_iff_eq_none] at free
      exact ⟨free, by simpa using Nat.le_of_lt_succ small⟩

theorem stream?_lowestFree (descriptors : Descriptors) :
    descriptors.stream? descriptors.lowestFree = none :=
  descriptors.lowestFree_spec.1

theorem lowestFree_le (descriptors : Descriptors) :
    descriptors.lowestFree ≤ descriptors.slots.length :=
  descriptors.lowestFree_spec.2

/-! ## Opening and letting go -/

theorem close_of_free (descriptors : Descriptors) (number : Nat)
    (free : descriptors.stream? number = none) : descriptors.close number = descriptors := by
  have kept : ∀ slot ∈ descriptors.slots, decide (slot.1 ≠ number) = true := by
    intro slot member
    rw [decide_eq_true_eq]
    intro same
    have used := (lookup_isSome_iff number descriptors.slots).mpr
      (List.mem_map.mpr ⟨slot, member, same⟩)
    rw [← stream?, free] at used
    cases used
  rw [close, List.filter_eq_self.mpr kept]

theorem close_place (descriptors : Descriptors) (number : Nat) (stream : Stream)
    (free : descriptors.stream? number = none) :
    (descriptors.place number stream).close number = descriptors := by
  have again : (descriptors.place number stream).close number =
      (descriptors.close number).close number := by
    simp [place, close]
  rw [again, close_of_free descriptors number free, close_of_free descriptors number free]

theorem length_close_of_used (descriptors : Descriptors) (number : Nat)
    (used : (descriptors.stream? number).isSome) :
    (descriptors.close number).slots.length + 1 ≤ descriptors.slots.length := by
  obtain ⟨slot, member, same⟩ := List.mem_map.mp ((lookup_isSome_iff _ _).mp used)
  exact List.length_filter_lt_length_iff_exists.mpr ⟨slot, member, by simp [same]⟩

theorem length_place_of_used (descriptors : Descriptors) (number : Nat) (stream : Stream)
    (used : (descriptors.stream? number).isSome) :
    (descriptors.place number stream).slots.length ≤ descriptors.slots.length :=
  descriptors.length_close_of_used number used

theorem length_place_of_free (descriptors : Descriptors) (number : Nat) (stream : Stream)
    (free : descriptors.stream? number = none) :
    (descriptors.place number stream).slots.length = descriptors.slots.length + 1 := by
  simp [place, close_of_free descriptors number free]

theorem closeAll_append (descriptors : Descriptors) (front back : List Nat) :
    descriptors.closeAll (front ++ back) = (descriptors.closeAll front).closeAll back :=
  List.foldl_append

theorem stream?_closeAll (descriptors : Descriptors) (numbers : List Nat) (other : Nat) :
    (descriptors.closeAll numbers).stream? other =
      if other ∈ numbers then none else descriptors.stream? other := by
  induction numbers generalizing descriptors with
  | nil => simp [closeAll]
  | cons number rest ih =>
      have step : descriptors.closeAll (number :: rest) =
          (descriptors.close number).closeAll rest := rfl
      rw [step, ih, stream?_close]
      by_cases same : other = number <;> by_cases later : other ∈ rest <;> simp [same, later]

/-! ## Streams at new numbers -/

/-- Streams were opened at numbers that stood for nothing; the other numbers are what they were. -/
structure Gains (before after : Descriptors) (new : List (Nat × Stream)) : Prop where
  free : ∀ slot ∈ new, before.stream? slot.1 = none
  opened : ∀ slot ∈ new, after.stream? slot.1 = some slot.2
  kept : ∀ number, number ∉ new.map Prod.fst → after.stream? number = before.stream? number
  length : after.slots.length = before.slots.length + new.length

namespace Gains

variable {first second third : Descriptors} {new newer : List (Nat × Stream)}

theorem refl (descriptors : Descriptors) : descriptors.Gains descriptors [] :=
  ⟨by simp, by simp, fun _ _ => rfl, rfl⟩

theorem place {descriptors : Descriptors} {number : Nat} (stream : Stream)
    (free : descriptors.stream? number = none) :
    descriptors.Gains (descriptors.place number stream) [(number, stream)] := by
  refine ⟨by simpa using free, by simp [stream?_place], ?_,
    descriptors.length_place_of_free number stream free⟩
  intro other absent
  rw [stream?_place, if_neg (by simpa using absent)]

theorem trans (left : first.Gains second new) (right : second.Gains third newer) :
    first.Gains third (new ++ newer) where
  free := by
    intro slot member
    rcases List.mem_append.mp member with old | late
    · exact left.free slot old
    · -- What is free later was free before, since nothing was closed.
      apply Classical.byContradiction
      intro used
      have absent : slot.1 ∉ new.map Prod.fst := by
        intro inNew
        obtain ⟨other, inOthers, same⟩ := List.mem_map.mp inNew
        exact used (same ▸ left.free other inOthers)
      rw [← left.kept slot.1 absent, right.free slot late] at used
      exact used rfl
  opened := by
    intro slot member
    rcases List.mem_append.mp member with old | late
    · have known := left.opened slot old
      rw [right.kept slot.1, known]
      intro inNewer
      obtain ⟨other, inOthers, same⟩ := List.mem_map.mp inNewer
      rw [← same, right.free other inOthers] at known
      cases known
    · exact right.opened slot late
  kept := by
    intro number absent
    rw [List.map_append, List.mem_append, not_or] at absent
    rw [right.kept number absent.2, left.kept number absent.1]
  length := by rw [right.length, left.length, List.length_append, Nat.add_assoc]

end Gains

/-! ## Duplicating -/

theorem stream?_duplicate_of_ne (descriptors : Descriptors) (source : Nat) {target other : Nat}
    (different : other ≠ target) :
    (descriptors.duplicate source target).stream? other = descriptors.stream? other := by
  unfold duplicate
  split
  · rfl
  · split
    · simp [stream?_place, different]
    · rfl

theorem stream?_duplicate (descriptors : Descriptors) {source : Nat} (target : Nat)
    {stream : Stream} (used : descriptors.stream? source = some stream) :
    (descriptors.duplicate source target).stream? target = some stream := by
  unfold duplicate
  split
  · rename_i same
    rw [← same, used]
  · simp [used, stream?_place]

theorem length_duplicate_of_used (descriptors : Descriptors) (source target : Nat)
    (used : (descriptors.stream? target).isSome) :
    (descriptors.duplicate source target).slots.length ≤ descriptors.slots.length := by
  unfold duplicate
  split
  · exact Nat.le_refl _
  · split
    · exact descriptors.length_place_of_used target _ used
    · exact Nat.le_refl _

/-! ## The standard streams -/

theorem ne_standardInput {number : Nat} (high : 2 ≤ number) : number ≠ standardInput := by
  rintro rfl
  exact absurd high (by decide)

theorem ne_standardOutput {number : Nat} (high : 2 ≤ number) : number ≠ standardOutput := by
  rintro rfl
  exact absurd high (by decide)

/-- Something is open at each of the numbers of the standard streams. -/
def Standard (descriptors : Descriptors) : Prop :=
  ∀ number < 3, (descriptors.stream? number).isSome

def SameStandard (before after : Descriptors) : Prop :=
  ∀ number < 3, after.stream? number = before.stream? number

theorem Standard.three_le_of_free {descriptors : Descriptors} (standard : descriptors.Standard)
    {number : Nat} (free : descriptors.stream? number = none) : 3 ≤ number := by
  apply Classical.byContradiction
  intro small
  have used := standard number (by omega)
  rw [free] at used
  cases used

theorem Standard.of_same {before after : Descriptors} (standard : before.Standard)
    (same : before.SameStandard after) : after.Standard := by
  intro number small
  rw [same number small]
  exact standard number small

/-- Where the standard streams are open, new numbers are above theirs. -/
theorem Gains.three_le {before after : Descriptors} {new : List (Nat × Stream)}
    (gains : before.Gains after new) (standard : before.Standard) :
    ∀ slot ∈ new, 3 ≤ slot.1 :=
  fun slot member => standard.three_le_of_free (gains.free slot member)

theorem Gains.sameStandard {before after : Descriptors} {new : List (Nat × Stream)}
    (gains : before.Gains after new) (standard : before.Standard) :
    before.SameStandard after := by
  intro number small
  apply gains.kept number
  intro member
  obtain ⟨slot, inNew, rfl⟩ := List.mem_map.mp member
  have := gains.three_le standard slot inNew
  omega

theorem SameStandard.trans {first second third : Descriptors}
    (left : first.SameStandard second) (right : second.SameStandard third) :
    first.SameStandard third := by
  intro number small
  rw [right number small, left number small]

theorem sameStandard_place (descriptors : Descriptors) {number : Nat} (stream : Stream)
    (large : 3 ≤ number) : descriptors.SameStandard (descriptors.place number stream) := by
  intro other small
  rw [stream?_place, if_neg (by omega)]

theorem sameStandard_close (descriptors : Descriptors) {number : Nat} (large : 3 ≤ number) :
    descriptors.SameStandard (descriptors.close number) := by
  intro other small
  rw [stream?_close, if_neg (by omega)]

theorem sameStandard_closeAll (descriptors : Descriptors) {numbers : List Nat}
    (large : ∀ number ∈ numbers, 3 ≤ number) :
    descriptors.SameStandard (descriptors.closeAll numbers) := by
  intro other small
  rw [stream?_closeAll, if_neg]
  intro member
  have := large other member
  omega

theorem Standard.duplicate {descriptors : Descriptors} (standard : descriptors.Standard)
    (source target : Nat) : (descriptors.duplicate source target).Standard := by
  intro number small
  by_cases same : number = target
  · subst same
    unfold Descriptors.duplicate
    split
    · exact standard number small
    · split
      · simp [stream?_place]
      · exact standard number small
  · rw [stream?_duplicate_of_ne _ _ same]
    exact standard number small

/-! ## Redirecting -/

/-- A stream opened at `number` becomes that of `target`, and is known by this number alone. -/
def redirect (descriptors : Descriptors) (number : Nat) (stream : Stream) (target : Nat) :
    Descriptors :=
  ((descriptors.place number stream).duplicate number target).close number

theorem stream?_redirect (descriptors : Descriptors) {number target : Nat} (stream : Stream)
    (different : target ≠ number) :
    (descriptors.redirect number stream target).stream? target = some stream := by
  rw [redirect, stream?_close, if_neg different]
  apply stream?_duplicate
  rw [stream?_place, if_pos rfl]

theorem stream?_redirect_of_ne (descriptors : Descriptors) {number target other : Nat}
    (stream : Stream) (fresh : other ≠ number) (different : other ≠ target) :
    (descriptors.redirect number stream target).stream? other = descriptors.stream? other := by
  rw [redirect, stream?_close, if_neg fresh, stream?_duplicate_of_ne _ _ different,
    stream?_place, if_neg fresh]

/-- The number by which the stream was opened stands for nothing again. -/
theorem stream?_redirect_self (descriptors : Descriptors) (number : Nat) (stream : Stream)
    (target : Nat) : (descriptors.redirect number stream target).stream? number = none := by
  rw [redirect, stream?_close, if_pos rfl]

theorem Standard.redirect {descriptors : Descriptors} (standard : descriptors.Standard)
    {number : Nat} (stream : Stream) (target : Nat) (large : 3 ≤ number) :
    (descriptors.redirect number stream target).Standard :=
  ((standard.of_same (descriptors.sameStandard_place stream large)).duplicate number
    target).of_same (sameStandard_close _ large)

theorem length_redirect_le (descriptors : Descriptors) {number target : Nat} (stream : Stream)
    (free : descriptors.stream? number = none) (used : (descriptors.stream? target).isSome) :
    (descriptors.redirect number stream target).slots.length ≤ descriptors.slots.length := by
  have different : target ≠ number := by
    rintro rfl
    rw [free] at used
    cases used
  have placed := descriptors.length_place_of_free number stream free
  have duplicated := length_duplicate_of_used (descriptors.place number stream) number target
    (by rwa [stream?_place, if_neg different])
  have closed := length_close_of_used ((descriptors.place number stream).duplicate number target)
    number (by rw [stream?_duplicate_of_ne _ _ different.symm, stream?_place, if_pos rfl]; rfl)
  rw [redirect]
  omega

end Descriptors

end PipeShell
