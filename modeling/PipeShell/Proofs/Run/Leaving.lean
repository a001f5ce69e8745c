import PipeShell.Proofs.System.Writing
import PipeShell.Proofs.Text.WholeNumbers

/-!
# Leaving the shell

Main statement: `exit` takes one argument at most, which must be a written number of 64 bits, and
leaves with that number modulo 256. In all other cases the session stays as it is, and the status
tells a first argument that is no such number from one argument too many.
-/

namespace PipeShell

/-- The argument is a number that `exit` takes. -/
def ExitNumber (argument : String) (value : Int) : Prop :=
  Denotes argument.toList value ∧ -2 ^ 63 ≤ value ∧ value ≤ 2 ^ 63 - 1

/-- The arguments with which `exit` does what it is for. -/
inductive Leaves : List String → Prop where
  | plain : Leaves []
  | number {argument : String} {value : Int} (number : ExitNumber argument value) :
      Leaves [argument]

def Session.leaving (session : Session) : Session := { session with shouldExit := true }

namespace Scene

variable (scene : Scene) {first : String} {value : Int}

/-! ## The argument -/

theorem exitCode?_of_number (number : ExitNumber first value) :
    exitCode? first = some (value % 256) := by
  rw [exitCode?, readInteger64?_eq_some_iff.mpr number, Option.map_some]

theorem exitCode?_of_other (other : ¬ ∃ value, ExitNumber first value) :
    exitCode? first = none := by
  rw [exitCode?, Option.map_eq_none_iff, Option.eq_none_iff_forall_ne_some]
  intro value read
  exact other ⟨value, readInteger64?_eq_some_iff.mp read⟩

/-! ## The three ends -/

theorem exit_number (number : ExitNumber first value) :
    scene.exit [first] = scene.leave (value % 256) := by
  rw [exit, exitCode?_of_number number]
  rfl

theorem exit_many (number : ExitNumber first value) (second : String) (rest : List String) :
    scene.exit (first :: second :: rest) = scene.fail (labelled "exit" "too many arguments") := by
  rw [exit, exitCode?_of_number number]
  rfl

theorem exit_other (other : ¬ ∃ value, ExitNumber first value) (rest : List String) :
    scene.exit (first :: rest) = scene.refuse Status.misuse
      (labelled "exit" (labelled first "numeric argument required")) := by
  rw [exit, exitCode?_of_other other]

theorem output_exit (arguments : List String) : (scene.exit arguments).output = [] := by
  unfold exit
  split
  · rfl
  · split
    · rfl
    · split <;> rfl

theorem session_exit_of_leaves {arguments : List String} (leaves : Leaves arguments) :
    (scene.exit arguments).session = scene.session.leaving := by
  cases leaves with
  | plain => rfl
  | number number =>
      rw [exit_number scene number]
      rfl

theorem session_exit_of_not_leaves {arguments : List String} (stays : ¬ Leaves arguments) :
    (scene.exit arguments).session = scene.session := by
  cases arguments with
  | nil => exact absurd .plain stays
  | cons first rest =>
      -- A number that comes first does not help if more arguments follow it.
      by_cases known : ∃ value, ExitNumber first value
      · obtain ⟨value, number⟩ := known
        cases rest with
        | nil => exact absurd (.number number) stays
        | cons second rest =>
            rw [exit_many scene number]
            rfl
      · rw [exit_other scene known]
        rfl

end Scene

/-- `exit` stops the shell if and only if it is given nothing or one number of 64 bits, with the
status of the session or the number modulo 256. Otherwise it leaves the session as it is, with
status 2 if the first argument is no such number, and 1 if more arguments follow it. -/
theorem runBuiltin_exit (scene : Scene) {writer : Writer} (flushes : writer.flush.2 = none) :
    let ran arguments := runBuiltin scene ("exit" :: arguments) writer
    ((ran []).session = scene.session.leaving ∧ (ran []).status = scene.session.exitStatus) ∧
    (∀ argument value, ExitNumber argument value →
      (ran [argument]).session = scene.session.leaving ∧ (ran [argument]).status = value % 256) ∧
    (∀ argument, (¬ ∃ value, ExitNumber argument value) →
      (ran [argument]).session = scene.session ∧ (ran [argument]).status = Status.misuse) ∧
    (∀ first second rest, (ran (first :: second :: rest)).session = scene.session ∧
      ((∃ value, ExitNumber first value) →
        (ran (first :: second :: rest)).status = Status.failure) ∧
      ((¬ ∃ value, ExitNumber first value) →
        (ran (first :: second :: rest)).status = Status.misuse)) ∧
    (∀ arguments, (ran arguments).session.environment = scene.session.environment ∧
      (ran arguments).session.exitStatus = scene.session.exitStatus) ∧
    (scene.session.shouldExit = false → ∀ arguments,
      (ran arguments).session.shouldExit = true ↔ Leaves arguments) := by
  intro ran
  have session arguments : (ran arguments).session = (scene.exit arguments).session :=
    session_print _ "exit" writer
  have status arguments : (ran arguments).status = (scene.exit arguments).status :=
    status_print_silent (scene.output_exit arguments) "exit" flushes
  simp only [session, status]
  refine ⟨⟨rfl, rfl⟩, ?_, ?_, ?_, ?_, ?_⟩
  · intro argument value number
    rw [scene.exit_number number]
    exact ⟨rfl, rfl⟩
  · intro argument other
    rw [scene.exit_other other]
    exact ⟨rfl, rfl⟩
  · intro first second rest
    have stays : ¬ Leaves (first :: second :: rest) := by
      intro leaves
      cases leaves
    refine ⟨scene.session_exit_of_not_leaves stays, ?_, ?_⟩
    · rintro ⟨value, number⟩
      rw [scene.exit_many number]
      rfl
    · intro other
      rw [scene.exit_other other]
      rfl
  · intro arguments
    by_cases leaves : Leaves arguments
    · rw [scene.session_exit_of_leaves leaves]
      exact ⟨rfl, rfl⟩
    · rw [scene.session_exit_of_not_leaves leaves]
      exact ⟨rfl, rfl⟩
  · intro running arguments
    by_cases leaves : Leaves arguments
    · rw [scene.session_exit_of_leaves leaves]
      exact iff_of_true rfl leaves
    · rw [scene.session_exit_of_not_leaves leaves, running]
      exact iff_of_false Bool.false_ne_true leaves

theorem runBuiltin_exit_numbers :
    let scene : Scene := { files := ⟨[]⟩, directory := [], session := { exitStatus := 7 } }
    let ran arguments := runBuiltin scene ("exit" :: arguments) {}
    (Writer.flush {}).2 = none ∧ ExitNumber " -0007\t" (-7) ∧ ExitNumber "+300" 300 ∧
    (¬ ∃ value, ExitNumber "9223372036854775808" value) ∧
    (ran []).status = 7 ∧ (ran [" -0007\t"]).session = scene.session.leaving ∧
    (ran [" -0007\t"]).status = 249 ∧
    (ran ["9223372036854775808"]).session = scene.session ∧
    (ran ["9223372036854775808"]).status = 2 ∧
    (ran ["+300", "x"]).session = scene.session ∧ (ran ["+300", "x"]).status = 1 := by
  intro scene ran
  have flushes : (Writer.flush {}).2 = none := rfl
  have negative : ExitNumber " -0007\t" (-7) := readInteger64?_eq_some_iff.mp (by decide)
  have positive : ExitNumber "+300" 300 := readInteger64?_eq_some_iff.mp (by decide)
  have large : ¬ ∃ value, ExitNumber "9223372036854775808" value := by
    rintro ⟨value, number⟩
    have read := readInteger64?_eq_some_iff.mpr number
    have refused : readInteger64? "9223372036854775808".toList = none := by decide
    rw [refused] at read
    cases read
  obtain ⟨plain, one, other, more, _⟩ := runBuiltin_exit scene flushes
  exact ⟨flushes, negative, positive, large, plain.2, (one _ _ negative).1, (one _ _ negative).2,
    (other _ large).1, (other _ large).2, (more _ _ _).1, (more _ _ _).2.1 ⟨_, positive⟩⟩

end PipeShell
