import PipeShell.Proofs.System.Processes

/-!
# Worlds in which nothing was done

Prompts, messages and records are only written. Main statement: whatever is written through a
stream that is open already, no file, number, pipe or child comes or goes, and files that nobody has
open stay as they are.
-/

namespace PipeShell

def OpenFile.opening (file : OpenFile) : FileHome × OpenMode := (file.home, file.mode)

namespace World

/-- Nothing was opened, created, emptied, removed or started. -/
structure Undisturbed (before after : World) : Prop extends before.Wrote after where
  pipes : after.pipes.length = before.pipes.length
  openings : after.openFiles.map OpenFile.opening = before.openFiles.map OpenFile.opening
  names : ∀ place, (after.files.node? place).isSome = (before.files.node? place).isSome
  contents : ∀ place, (∀ file ∈ before.openFiles, file.home ≠ .named place) →
    after.files.node? place = before.files.node? place

namespace Undisturbed

theorem refl (world : World) : world.Undisturbed world where
  toWrote := .refl world
  pipes := rfl
  openings := rfl
  names := fun _ => rfl
  contents := fun _ _ => rfl

theorem trans {first second third : World} (left : first.Undisturbed second)
    (right : second.Undisturbed third) : first.Undisturbed third where
  toWrote := left.toWrote.trans right.toWrote
  pipes := right.pipes.trans left.pipes
  openings := right.openings.trans left.openings
  names := fun place => (right.names place).trans (left.names place)
  contents := by
    intro place closed
    have stillClosed : ∀ file ∈ second.openFiles, file.home ≠ .named place := by
      intro file member
      have opening : file.opening ∈ first.openFiles.map OpenFile.opening :=
        left.openings ▸ List.mem_map_of_mem member
      obtain ⟨known, among, same⟩ := List.mem_map.mp opening
      have home : known.home = file.home := congrArg Prod.fst same
      exact home ▸ closed known among
    exact (right.contents place stillClosed).trans (left.contents place closed)

end Undisturbed

variable (world : World)

theorem openings_set {index : Nat} {file : OpenFile} (found : world.openFiles[index]? = some file)
    (position : Nat) :
    (world.openFiles.set index { file with position }).map OpenFile.opening =
      world.openFiles.map OpenFile.opening := by
  obtain ⟨inside, rfl⟩ := List.getElem?_eq_some_iff.mp found
  rw [List.map_set]
  exact (List.getElem_map OpenFile.opening (h := by simpa using inside)) ▸ List.set_getElem_self _

/-- Writing to a file changes no more than its content. -/
theorem node?_writeFile (index : Nat) (file : OpenFile) (bytes : Bytes) (place : Place) :
    (world.writeFile index file bytes).files.node? place = world.files.node? place ∨
      file.home = .named place ∧ (world.files.node? place).isSome = true ∧
        ((world.writeFile index file bytes).files.node? place).isSome = true := by
  obtain ⟨home, mode, position⟩ := file
  unfold writeFile
  split
  · rename_i content permissions node
    cases home with
    | unnamed slot => exact .inl rfl
    | named known =>
        simp only [nodeOf?] at node
        by_cases root : place = []
        · exact .inl (by simp [FileTree.node?, root])
        · simp only [putNode, FileTree.node?_put _ _ _ _ root]
          by_cases same : known = place
          · subst same
            exact .inr (by simp [node])
          · exact .inl (if_neg same)
  · exact .inl rfl

theorem openings_writeFile {index : Nat} {file : OpenFile}
    (found : world.openFiles[index]? = some file) (bytes : Bytes) :
    (world.writeFile index file bytes).openFiles.map OpenFile.opening =
      world.openFiles.map OpenFile.opening := by
  unfold writeFile
  split
  · exact world.openings_set found _
  · rfl

theorem length_pipes_deliver (stream : Stream) (bytes : Bytes) :
    (world.deliver stream bytes).pipes.length = world.pipes.length := by
  cases stream with
  | pipeWriter pipe => exact List.length_set
  | file index =>
      simp only [deliver]
      split
      · rw [pipes_writeFile]
      · rfl
  | _ => rfl

theorem undisturbed_deliver (stream : Stream) (bytes : Bytes) :
    world.Undisturbed (world.deliver stream bytes) := by
  have wrote := world.wrote_deliver stream bytes
  have pipes := world.length_pipes_deliver stream bytes
  cases stream with
  | file index =>
      simp only [deliver] at wrote pipes ⊢
      cases found : world.openFiles[index]? with
      | none => exact .refl world
      | some file =>
          simp only [found] at wrote pipes
          refine ⟨wrote, pipes, world.openings_writeFile found bytes, fun place => ?_,
            fun place closed => ?_⟩
          · obtain same | ⟨_, before, after⟩ := world.node?_writeFile index file bytes place
            · exact congrArg Option.isSome same
            · exact after.trans before.symm
          · obtain same | ⟨home, _⟩ := world.node?_writeFile index file bytes place
            · exact same
            · exact absurd home (closed file (List.mem_of_getElem? found))
  | _ => exact ⟨wrote, pipes, rfl, fun _ => rfl, fun _ _ => rfl⟩

theorem undisturbed_write (number : Nat) (bytes : Bytes) :
    world.Undisturbed (world.write number bytes).1 := by
  unfold write
  split
  · exact .refl world
  · exact world.undisturbed_deliver _ _

theorem undisturbed_report (message : String) : world.Undisturbed (world.report message) :=
  world.undisturbed_write _ _

theorem undisturbed_log (level : LogLevel) (text : String) :
    world.Undisturbed (world.log level text) := by
  unfold log
  split
  · exact .refl world
  · unfold record
    split
    · split
      · exact (world.undisturbed_deliver _ _).trans (undisturbed_write _ _ _)
      · exact world.undisturbed_deliver _ _
    · exact .refl world

end World

end PipeShell
