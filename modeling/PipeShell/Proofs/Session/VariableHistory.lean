import Mathlib.Data.Set.Card
import PipeShell.Environment

/-!
# The history behind the variables

The variables are what a history of sets and removals leaves. Main statement: whatever the history,
every variable has the value it was last set to, unless it was removed since, and the variables are
listed in the order in which they came in: with the first set after the last removal.
-/

namespace PipeShell

inductive Change where
  | set (name value : String)
  | remove (name : String)
  deriving DecidableEq, Repr

namespace Change

def name : Change → String
  | .set name _ => name
  | .remove name => name

def apply (environment : Environment) : Change → Environment
  | .set name value => environment.set name value
  | .remove name => environment.remove name

end Change

def Environment.replay (history : List Change) : Environment :=
  history.foldl Change.apply .empty

theorem Environment.replay_concat (history : List Change) (change : Change) :
    replay (history ++ [change]) = change.apply (replay history) := by
  rw [replay, List.foldl_append]
  rfl

/-! ## Reading a history -/

/-- The last change to the variable gave it the value. -/
def LastSet (history : List Change) (name value : String) : Prop :=
  ∃ before after, history = before ++ .set name value :: after ∧
    ∀ change ∈ after, change.name ≠ name

/-- Since the variable was last set, if it ever was, it was removed. -/
def Unset (history : List Change) (name : String) : Prop :=
  ∀ before value after, history = before ++ .set name value :: after → .remove name ∈ after

/-- At this place of the history the variable was set for the first time since its last removal. -/
def EntersAt (history : List Change) (name : String) (place : Nat) : Prop :=
  ∃ before value after, history = before ++ .set name value :: after ∧
    before.length = place ∧ .remove name ∉ after ∧ Unset before name

section OneMore

variable {history : List Change} {change : Change} {name value : String} {place : Nat}

theorem concat_eq_append_cons_iff {before after : List Change} {middle : Change} :
    history ++ [change] = before ++ middle :: after ↔
      (history = before ∧ change = middle ∧ after = []) ∨
        ∃ rest, after = rest ++ [change] ∧ history = before ++ middle :: rest := by
  constructor
  · intro split
    rcases List.eq_nil_or_concat after with rfl | ⟨rest, last, rfl⟩
    · obtain ⟨front, same⟩ := List.append_singleton_inj.mp split
      exact .inl ⟨front, same, rfl⟩
    · have joined : history ++ [change] = (before ++ middle :: rest) ++ [last] := by
        simpa using split
      obtain ⟨front, rfl⟩ := List.append_singleton_inj.mp joined
      exact .inr ⟨rest, List.concat_eq_append, front⟩
  · rintro (⟨rfl, rfl, rfl⟩ | ⟨rest, rfl, rfl⟩)
    · rfl
    · simp

theorem lastSet_concat :
    LastSet (history ++ [change]) name value ↔
      change = .set name value ∨ change.name ≠ name ∧ LastSet history name value := by
  constructor
  · rintro ⟨before, after, split, later⟩
    rcases concat_eq_append_cons_iff.mp split with ⟨_, last, _⟩ | ⟨rest, rfl, earlier⟩
    · exact .inl last
    · refine .inr ⟨later change (by simp), before, rest, earlier, ?_⟩
      exact fun change member => later change (List.mem_append_left _ member)
  · rintro (rfl | ⟨different, before, after, rfl, later⟩)
    · exact ⟨history, [], rfl, by simp⟩
    · refine ⟨before, after ++ [change], by simp, ?_⟩
      exact List.forall_mem_append.mpr ⟨later, List.forall_mem_singleton.mpr different⟩

theorem unset_concat :
    Unset (history ++ [change]) name ↔
      change = .remove name ∨ change.name ≠ name ∧ Unset history name := by
  constructor
  · intro unset
    by_cases same : change.name = name
    · cases change with
      | set known value =>
          cases same
          cases unset history value [] rfl
      | remove known => exact .inl (congrArg Change.remove same)
    · refine .inr ⟨same, fun before value after split => ?_⟩
      have removed := unset before value (after ++ [change]) (by simp [split])
      rcases List.mem_append.mp removed with earlier | last
      · exact earlier
      · exact absurd (congrArg Change.name (List.mem_singleton.mp last)).symm same
  · intro unset before value after split
    rcases concat_eq_append_cons_iff.mp split with ⟨_, rfl, _⟩ | ⟨rest, rfl, earlier⟩
    · rcases unset with removed | ⟨different, _⟩
      · cases removed
      · exact absurd rfl different
    · rcases unset with rfl | ⟨_, unset⟩
      · simp
      · exact List.mem_append_left _ (unset before value rest earlier)

theorem entersAt_concat :
    EntersAt (history ++ [change]) name place ↔
      (change ≠ .remove name ∧ EntersAt history name place) ∨
        (∃ value, change = .set name value) ∧ Unset history name ∧ place = history.length := by
  constructor
  · rintro ⟨before, value, after, split, here, kept, unset⟩
    rcases concat_eq_append_cons_iff.mp split with ⟨rfl, last, _⟩ | ⟨rest, rfl, earlier⟩
    · exact .inr ⟨⟨value, last⟩, unset, here.symm⟩
    · refine .inl ⟨fun same => kept (by simp [same]), before, value, rest, earlier, here, ?_, unset⟩
      exact fun member => kept (List.mem_append_left _ member)
  · rintro (⟨different, before, value, after, rfl, here, kept, unset⟩ | ⟨⟨value, rfl⟩, unset, rfl⟩)
    · refine ⟨before, value, after ++ [change], by simp, here, ?_, unset⟩
      intro member
      rcases List.mem_append.mp member with earlier | last
      · exact kept earlier
      · exact different (List.mem_singleton.mp last).symm
    · exact ⟨history, value, [], rfl, rfl, by simp, unset⟩

end OneMore

theorem EntersAt.not_unset {history : List Change} {name : String} {place : Nat}
    (enters : EntersAt history name place) : ¬ Unset history name := by
  obtain ⟨before, value, after, split, _, kept, _⟩ := enters
  exact fun unset => kept (unset before value after split)

theorem EntersAt.lt_length {history : List Change} {name : String} {place : Nat}
    (enters : EntersAt history name place) : place < history.length := by
  obtain ⟨before, value, after, rfl, rfl, _⟩ := enters
  simp

theorem entersAt_concat_of_known {history : List Change} {change : Change} {name : String}
    {place : Nat} (known : ¬ Unset history name) (kept : change ≠ .remove name) :
    EntersAt (history ++ [change]) name place ↔ EntersAt history name place := by
  rw [entersAt_concat]
  constructor
  · rintro (⟨_, enters⟩ | ⟨_, unset, _⟩)
    · exact enters
    · exact absurd unset known
  · exact fun enters => .inl ⟨kept, enters⟩

theorem entersAt_concat_of_unset {history : List Change} {name value : String} {place : Nat}
    (unset : Unset history name) :
    EntersAt (history ++ [.set name value]) name place ↔ place = history.length := by
  rw [entersAt_concat]
  constructor
  · rintro (⟨_, enters⟩ | ⟨_, _, last⟩)
    · exact absurd unset enters.not_unset
    · exact last
  · exact fun last => .inr ⟨⟨value, rfl⟩, unset, last⟩

/-! ## What the history leaves -/

def Precedes (history : List Change) (first second : String) : Prop :=
  ∀ earlier later, EntersAt history first earlier → EntersAt history second later → earlier < later

/-- The variables are what the history left: each one that was set and not removed since has the
value of its last set, and they are listed in the order of the places where they came in. -/
structure Environment.Records (environment : Environment) (history : List Change) : Prop where
  distinct : environment.names.Nodup
  value : ∀ name value, environment.get? name = some value ↔ LastSet history name value
  known : ∀ name, name ∈ environment.names ↔ ¬ Unset history name
  enters : ∀ name ∈ environment.names, ∃! place, EntersAt history name place
  ordered : environment.names.Pairwise (Precedes history)

namespace Environment.Records

variable {environment : Environment} {history : List Change}

theorem empty : Environment.empty.Records [] where
  distinct := List.nodup_nil
  value := by simp [get?, Environment.empty, lookup, LastSet]
  known := by simp [names, Environment.empty, Unset]
  enters := by simp [names, Environment.empty]
  ordered := List.Pairwise.nil

section Step

variable (records : environment.Records history)
include records

/-- What is known before and after a change keeps its order. -/
theorem ordered_of_sublist {change : Change} {names : List String}
    (sublist : names.Sublist environment.names) (kept : ∀ name ∈ names, change ≠ .remove name) :
    names.Pairwise (Precedes (history ++ [change])) := by
  refine (records.ordered.sublist sublist).imp_of_mem ?_
  intro first second member other precedes earlier later enters entersLater
  have known := (records.known first).mp (sublist.subset member)
  have knownToo := (records.known second).mp (sublist.subset other)
  exact precedes earlier later
    ((entersAt_concat_of_known known (kept first member)).mp enters)
    ((entersAt_concat_of_known knownToo (kept second other)).mp entersLater)

theorem enters_of_known {change : Change} {name : String} (member : name ∈ environment.names)
    (kept : change ≠ .remove name) : ∃! place, EntersAt (history ++ [change]) name place := by
  simpa only [entersAt_concat_of_known ((records.known name).mp member) kept]
    using records.enters name member

theorem set (name value : String) :
    (environment.set name value).Records (history ++ [.set name value]) where
  distinct := nodup_names_set name value records.distinct
  value := by
    intro other found
    rw [get?_set, lastSet_concat]
    by_cases same : name = other
    · simp [Change.name, same]
    · simp [Change.name, same, records.value]
  known := by
    intro other
    rw [names_set, unset_concat]
    by_cases same : name = other
    · subst same
      split <;> simp [Change.name, *]
    · have different : other ≠ name := fun equal => same equal.symm
      split <;> simp [Change.name, same, different, records.known]
  enters := by
    intro other member
    rw [names_set] at member
    by_cases old : other ∈ environment.names
    · exact records.enters_of_known old (by simp)
    · have new : other = name := by
        split at member
        · exact absurd member old
        · exact (List.mem_append.mp member).elim (absurd · old) List.mem_singleton.mp
      subst new
      have unset : Unset history other := by
        by_contra known
        exact old ((records.known other).mpr known)
      simp only [entersAt_concat_of_unset unset]
      exact existsUnique_eq
  ordered := by
    rw [names_set]
    split
    · exact records.ordered_of_sublist (List.Sublist.refl _) (by simp)
    · rename_i new
      have unset : Unset history name := by
        by_contra known
        exact new ((records.known name).mpr known)
      refine List.pairwise_append.mpr ⟨records.ordered_of_sublist (List.Sublist.refl _) (by simp),
        List.pairwise_singleton _ _, ?_⟩
      intro first member second single
      cases List.mem_singleton.mp single
      -- The new variable comes in last of all.
      intro earlier later enters entersLater
      have known := (records.known first).mp member
      rw [(entersAt_concat_of_unset unset).mp entersLater]
      exact ((entersAt_concat_of_known known (by simp)).mp enters).lt_length

theorem remove (name : String) :
    (environment.remove name).Records (history ++ [.remove name]) where
  distinct := nodup_names_remove name records.distinct
  value := by
    intro other found
    rw [get?_eq_some_iff (nodup_names_remove name records.distinct),
      entries_remove records.distinct, lastSet_concat, ← records.value,
      get?_eq_some_iff records.distinct]
    by_cases same : name = other
    · simp [Change.name, same]
    · simp [Change.name, same, Ne.symm same]
  known := by
    intro other
    rw [names_remove, records.distinct.mem_erase_iff, unset_concat, records.known]
    by_cases same : name = other
    · simp [same]
    · simp [Change.name, same, Ne.symm same]
  enters := by
    intro other member
    rw [names_remove, records.distinct.mem_erase_iff] at member
    exact records.enters_of_known member.2 (by simp [Ne.symm member.1])
  ordered := by
    rw [names_remove]
    refine records.ordered_of_sublist List.erase_sublist fun other member => ?_
    have different := (records.distinct.mem_erase_iff.mp member).1
    simp [Ne.symm different]

end Step

end Environment.Records

theorem Environment.records_replay (history : List Change) :
    (replay history).Records history := by
  induction history using List.reverseRecOn with
  | nil => exact Records.empty
  | append_singleton history change ih =>
      rw [replay_concat]
      cases change with
      | set name value => exact ih.set name value
      | remove name => exact ih.remove name

theorem Environment.size_eq_ncard {environment : Environment} {history : List Change}
    (records : environment.Records history) :
    environment.size = {name | ∃ value, LastSet history name value}.ncard := by
  have live : {name | ∃ value, LastSet history name value} = ↑environment.names.toFinset := by
    ext name
    simp only [Set.mem_ofPred_eq, ← records.value, get?_eq_some_iff records.distinct,
      List.coe_toFinset, names, List.mem_map]
    constructor
    · exact fun ⟨value, member⟩ => ⟨_, member, rfl⟩
    · rintro ⟨⟨_, value⟩, member, rfl⟩
      exact ⟨value, member⟩
  rw [live, Set.ncard_coe_finset, List.toFinset_card_of_nodup records.distinct, size, names,
    List.length_map]

/-- Whatever was set and removed, in any order, the variables are an insertion-ordered map: each
name is listed once, with the value of its last set, if it was not removed since, and in the order
of the first sets after the last removals. Removing a variable gives that same value. There are as
many entries as there are such names; overwriting one moves nothing, and removing one keeps the
others in order. -/
theorem Environment.replay_insertion_ordered (history : List Change) :
    let environment := replay history
    environment.Records history ∧
    (∀ name value, (name, value) ∈ environment.entries ↔ LastSet history name value) ∧
    environment.size = {name | ∃ value, LastSet history name value}.ncard ∧
    (∀ name, environment.take? name =
      (environment.get? name).map fun value => (value, environment.remove name)) ∧
    (∀ name ∈ environment.names, ∀ value, (environment.set name value).entries =
      environment.entries.map fun entry => if entry.1 = name then (name, value) else entry) ∧
    ∀ name, (environment.remove name).entries = environment.entries.filter (·.1 ≠ name) := by
  intro environment
  have records : environment.Records history := records_replay history
  refine ⟨records, ?_, size_eq_ncard records, environment.take?_eq, ?_, ?_⟩
  · intro name value
    rw [← get?_eq_some_iff records.distinct, records.value]
  · exact fun name known value => entries_set_of_known records.distinct known value
  · exact entries_remove records.distinct

end PipeShell
