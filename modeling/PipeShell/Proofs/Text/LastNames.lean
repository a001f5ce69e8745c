import Mathlib.Data.List.DropRight
import PipeShell.Prompt

/-!
# The last name of a path

The prompt shows the last name of the working directory's path. Main statement: a path with a name
in it has exactly one last name, and that is shown; a path of slashes is shown as it is.
-/

namespace PipeShell

/-- The name is the last one in the path: it stands at the beginning or after a slash, and nothing
but slashes comes after it. -/
structure LastName (path name : List Char) : Prop where
  nonempty : name ≠ []
  solid : '/' ∉ name
  placed : ∃ front slashes, path = front ++ name ++ slashes ∧
    (front = [] ∨ front.getLast? = some '/') ∧ ∀ c ∈ slashes, c = '/'

/-- The slashes at the end go first; then the name is what follows the last slash. -/
theorem basename_eq (path : List Char) :
    basename path =
      if path.rdropWhile (· = '/') = [] then path
      else (path.rdropWhile (· = '/')).rtakeWhile (· ≠ '/') := by
  simp only [basename, List.isEmpty_iff]
  rfl

theorem basename_of_slashes {path : List Char} (only : ∀ c ∈ path, c = '/') :
    basename path = path := by
  rw [basename_eq, if_pos (List.rdropWhile_eq_nil_iff.mpr (by simpa using only))]

theorem rdropWhile_slashes (path : List Char) {slashes : List Char}
    (only : ∀ c ∈ slashes, c = '/') :
    (path ++ slashes).rdropWhile (· = '/') = path.rdropWhile (· = '/') := by
  rw [List.rdropWhile, List.reverse_append, List.dropWhile_append_of_pos (by simpa using only)]
  rfl

theorem lastName_basename {path : List Char} (named : ∃ c ∈ path, c ≠ '/') :
    LastName path (basename path) := by
  let trimmed := path.rdropWhile (· = '/')
  have trims : trimmed ≠ [] := by simpa [trimmed] using named
  have last : ¬ trimmed.getLast trims = '/' := by
    simpa using List.rdropWhile_last_not (· = '/') path trims
  have split : path = trimmed.rdropWhile (· ≠ '/') ++ trimmed.rtakeWhile (· ≠ '/') ++
      path.rtakeWhile (· = '/') := by
    rw [List.rdropWhile_append_rtakeWhile, List.rdropWhile_append_rtakeWhile]
  rw [basename_eq, if_neg trims]
  refine ⟨?_, ?_, _, _, split, ?_, ?_⟩
  · intro none
    exact List.rtakeWhile_eq_nil_iff.mp none trims (by simpa using last)
  · intro slash
    simpa using List.mem_rtakeWhile_imp slash
  · by_cases first : trimmed.rdropWhile (· ≠ '/') = []
    · exact .inl first
    · have slash := List.rdropWhile_last_not (· ≠ '/') trimmed first
      rw [List.getLast?_eq_some_getLast first]
      exact .inr (by simpa using slash)
  · intro c member
    simpa using List.mem_rtakeWhile_imp member

namespace LastName

variable {path name : List Char} (last : LastName path name)
include last

/-- No other name is the last one. -/
theorem eq_basename : basename path = name := by
  obtain ⟨nonempty, solid, front, slashes, rfl, begins, only⟩ := last
  have trims : (front ++ name ++ slashes).rdropWhile (· = '/') = front ++ name := by
    rw [rdropWhile_slashes _ only, List.rdropWhile_eq_self_iff]
    intro _ slash
    rw [List.getLast_append_of_ne_nil _ nonempty, decide_eq_true_iff] at slash
    exact solid (slash ▸ List.getLast_mem nonempty)
  have inside : ∀ c ∈ name, decide (c ≠ '/') = true := by
    intro c member
    exact decide_eq_true fun slash => solid (slash ▸ member)
  rw [basename_eq, trims, if_neg (by simp [nonempty])]
  obtain rfl | slash := begins
  · exact List.rtakeWhile_eq_self_iff.mpr inside
  · obtain ⟨before, rfl⟩ := List.getLast?_eq_some_iff.mp slash
    rw [List.rtakeWhile, List.reverse_append, List.takeWhile_append_of_pos (by simpa using inside)]
    simp

theorem named : ∃ c ∈ path, c ≠ '/' := by
  obtain ⟨nonempty, solid, front, slashes, rfl, _⟩ := last
  obtain ⟨c, rest, rfl⟩ := List.exists_cons_of_ne_nil nonempty
  exact ⟨c, by simp, fun slash => solid (by simp [slash])⟩

theorem self : LastName name name :=
  ⟨last.nonempty, last.solid, [], [], by simp, .inl rfl, by simp⟩

theorem append {more : List Char} (only : ∀ c ∈ more, c = '/') : LastName (path ++ more) name := by
  obtain ⟨nonempty, solid, front, slashes, rfl, begins, others⟩ := last
  refine ⟨nonempty, solid, front, slashes ++ more, by simp, begins, ?_⟩
  exact List.forall_mem_append.mpr ⟨others, only⟩

end LastName

/-- The last name is found in every path that has one, and a path without a name stands for its own.
So finding it twice is finding it once, and slashes after a name make no difference. -/
theorem basename_finds_last_name (path : List Char) :
    ((∀ c ∈ path, c = '/') → basename path = path) ∧
    (∀ name, LastName path name ↔ (∃ c ∈ path, c ≠ '/') ∧ basename path = name) ∧
    basename (basename path) = basename path ∧
    ∀ slashes : List Char, (∃ c ∈ path, c ≠ '/') → (∀ c ∈ slashes, c = '/') →
      basename (path ++ slashes) = basename path := by
  refine ⟨basename_of_slashes, fun name => ⟨fun last => ⟨last.named, last.eq_basename⟩, ?_⟩, ?_, ?_⟩
  · rintro ⟨named, rfl⟩
    exact lastName_basename named
  · by_cases named : ∃ c ∈ path, c ≠ '/'
    · exact (lastName_basename named).self.eq_basename
    · have only : ∀ c ∈ path, c = '/' := by simpa using named
      rw [basename_of_slashes only, basename_of_slashes only]
  · exact fun slashes named only => ((lastName_basename named).append only).eq_basename

def crowdedPath : List Char := "//srv//old name//".toList

theorem basename_finds_last_name_crowdedPath :
    basename ['/', '/'] = ['/', '/'] ∧
      LastName crowdedPath "old name".toList ∧
      basename (crowdedPath ++ ['/']) = "old name".toList := by
  have named : ∃ c ∈ crowdedPath, c ≠ '/' := ⟨'s', by decide, by decide⟩
  have found : basename crowdedPath = "old name".toList := by decide
  obtain ⟨slashes, _⟩ := basename_finds_last_name ['/', '/']
  obtain ⟨_, last, _, trailing⟩ := basename_finds_last_name crowdedPath
  exact ⟨slashes (by simp), (last _).mpr ⟨named, found⟩,
    (trailing ['/'] named (by simp)).trans found⟩

end PipeShell
