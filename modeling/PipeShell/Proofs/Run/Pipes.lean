import PipeShell.Plumbing
import PipeShell.Proofs.System.Processes

/-!
# The numbers of a pipeline's pipes

Main statement: the pipes of a pipeline take new numbers above those of the standard streams, which
stay what they are.
-/

namespace PipeShell

theorem exists_of_bind_ok {ε α β : Type} {first : Except ε α} {next : α → Except ε β} {value : β}
    (done : first >>= next = .ok value) : ∃ known, first = .ok known ∧ next known = .ok value := by
  cases first with
  | error error => cases done
  | ok known => exact ⟨known, rfl, done⟩

theorem of_mapError_ok {ε δ α : Type} {change : ε → δ} {result : Except ε α} {value : α}
    (mapped : result.mapError change = .ok value) : result = .ok value := by
  cases result with
  | error error => cases mapped
  | ok known =>
      cases mapped
      rfl

theorem of_mapError_error {ε δ α : Type} {change : ε → δ} {result : Except ε α} {error : δ}
    (mapped : result.mapError change = .error error) :
    ∃ known, result = .error known ∧ error = change known := by
  cases result with
  | error known =>
      cases mapped
      exact ⟨known, rfl, rfl⟩
  | ok value => cases mapped

/-! ## What is made -/

/-- The numbers of the ends of pipes of which the first has this index, with what they stand for. -/
def pipeEnds (first : Nat) : List (Nat × Nat) → List (Nat × Stream)
  | [] => []
  | (reader, writer) :: rest =>
    (reader, .pipeReader first) :: (writer, .pipeWriter first) :: pipeEnds (first + 1) rest

theorem pipeEnds_append (first : Nat) (pipes others : List (Nat × Nat)) :
    pipeEnds first (pipes ++ others) =
      pipeEnds first pipes ++ pipeEnds (first + pipes.length) others := by
  induction pipes generalizing first with
  | nil => rfl
  | cons pipe rest ih =>
      have index : first + 1 + rest.length = first + (rest.length + 1) := by omega
      simp only [List.cons_append, pipeEnds, ih, index, List.length_cons]

theorem length_pipeEnds (first : Nat) (pipes : List (Nat × Nat)) :
    (pipeEnds first pipes).length = 2 * pipes.length := by
  induction pipes generalizing first with
  | nil => rfl
  | cons pipe rest ih =>
      simp only [pipeEnds, List.length_cons, ih]
      omega

theorem numbers_pipeEnds (first : Nat) (pipes : List (Nat × Nat)) :
    (pipeEnds first pipes).map Prod.fst = pipes.flatMap fun pipe => [pipe.1, pipe.2] := by
  induction pipes generalizing first with
  | nil => rfl
  | cons pipe rest ih => simp only [pipeEnds, List.map_cons, ih, List.flatMap_cons]; rfl

def HeredocPipe.ends (pipe : HeredocPipe) : Nat × Nat := (pipe.reader, pipe.writer)

def Plumbing.allPipes (plumbing : Plumbing) : List (Nat × Nat) :=
  plumbing.pipes ++ plumbing.heredocs.flatten.map HeredocPipe.ends

theorem Plumbing.numbers_eq (plumbing : Plumbing) (first : Nat) :
    plumbing.numbers = (pipeEnds first plumbing.allPipes).map Prod.fst := by
  rw [numbers_pipeEnds, allPipes, List.flatMap_append, List.flatMap_map]
  rfl

/-- Empty pipes were made, known by these numbers, and nothing else is different. -/
structure World.Piped (before after : World) (pipes : List (Nat × Nat)) : Prop where
  gains : before.process.descriptors.Gains after.process.descriptors
    (pipeEnds before.pipes.length pipes)
  same : after = { before with
    process := before.process.withDescriptors after.process.descriptors
    pipes := before.pipes ++ List.replicate pipes.length [] }

namespace World

variable {world after : World}

theorem Piped.refl (world : World) : world.Piped world [] :=
  ⟨Descriptors.Gains.refl _, by simp⟩

theorem Piped.pipes_eq {pipes : List (Nat × Nat)} (piped : world.Piped after pipes) :
    after.pipes = world.pipes ++ List.replicate pipes.length [] := by
  rw [piped.same]

theorem Piped.trans {middle : World} {pipes others : List (Nat × Nat)}
    (left : world.Piped middle pipes) (right : middle.Piped after others) :
    world.Piped after (pipes ++ others) where
  gains := by
    have later := right.gains
    rw [left.pipes_eq, List.length_append, List.length_replicate] at later
    rw [pipeEnds_append]
    exact left.gains.trans later
  same := by
    rw [right.same, left.same]
    simp [List.replicate_append_replicate]

theorem openStream_ok {stream : Stream} {number : Nat}
    (done : world.openStream stream = .ok (after, number)) :
    world.stream? number = none ∧ after = world.mapDescriptors (·.place number stream) := by
  simp only [openStream] at done
  split at done
  · cases done
  · cases done
    exact ⟨Descriptors.stream?_lowestFree _, rfl⟩

theorem piped_openPipe {reader writer : Nat}
    (done : world.openPipe = .ok (after, reader, writer)) :
    world.Piped after [(reader, writer)] := by
  obtain ⟨⟨middle, read⟩, first, done⟩ := exists_of_bind_ok done
  obtain ⟨⟨last, write⟩, second, done⟩ := exists_of_bind_ok done
  cases done
  obtain ⟨readFree, rfl⟩ := openStream_ok first
  obtain ⟨writeFree, rfl⟩ := openStream_ok second
  exact ⟨(Descriptors.Gains.place _ readFree).trans (Descriptors.Gains.place _ writeFree), rfl⟩

end World

variable {world after : World}

theorem piped_openPipes {count : Nat} {pipes : List (Nat × Nat)}
    (done : openPipes world count = .ok (after, pipes)) :
    world.Piped after pipes ∧ pipes.length = count := by
  induction count generalizing world pipes with
  | zero =>
      cases done
      exact ⟨.refl _, rfl⟩
  | succ count ih =>
      obtain ⟨⟨middle, pipe⟩, first, done⟩ := exists_of_bind_ok done
      obtain ⟨⟨last, rest⟩, others, done⟩ := exists_of_bind_ok done
      cases done
      obtain ⟨piped, length⟩ := ih others
      exact ⟨(World.piped_openPipe first).trans piped, by rw [List.length_cons, length]⟩

theorem piped_openBodies {bodies : List String} {pipes : List HeredocPipe}
    (done : openBodies world bodies = .ok (after, pipes)) :
    world.Piped after (pipes.map HeredocPipe.ends) ∧ pipes.map HeredocPipe.body = bodies := by
  induction bodies generalizing world pipes with
  | nil =>
      cases done
      exact ⟨.refl _, rfl⟩
  | cons body bodies ih =>
      obtain ⟨⟨middle, reader, writer⟩, first, done⟩ := exists_of_bind_ok done
      obtain ⟨⟨last, rest⟩, others, done⟩ := exists_of_bind_ok done
      cases done
      obtain ⟨piped, same⟩ := ih others
      exact ⟨(World.piped_openPipe first).trans piped, by rw [List.map_cons, same]⟩

theorem piped_openHeredocs {bodies : List (List String)} {pipes : List (List HeredocPipe)}
    (done : openHeredocs world bodies = .ok (after, pipes)) :
    world.Piped after (pipes.flatten.map HeredocPipe.ends) ∧
      pipes.map (·.map HeredocPipe.body) = bodies := by
  induction bodies generalizing world pipes with
  | nil =>
      cases done
      exact ⟨.refl _, rfl⟩
  | cons stage stages ih =>
      obtain ⟨⟨middle, here⟩, first, done⟩ := exists_of_bind_ok done
      obtain ⟨⟨last, rest⟩, others, done⟩ := exists_of_bind_ok done
      cases done
      obtain ⟨piped, same⟩ := piped_openBodies first
      obtain ⟨pipedMore, sameMore⟩ := ih others
      rw [List.flatten_cons, List.map_append]
      exact ⟨piped.trans pipedMore, by rw [List.map_cons, same, sameMore]⟩

/-! ## The pipes of a pipeline -/

theorem World.Piped.three_le_numbers {plumbing : Plumbing}
    (piped : world.Piped after plumbing.allPipes) (standard : world.process.descriptors.Standard) :
    ∀ number ∈ plumbing.numbers, 3 ≤ number := by
  intro number member
  rw [plumbing.numbers_eq world.pipes.length] at member
  obtain ⟨slot, inEnds, rfl⟩ := List.mem_map.mp member
  exact piped.gains.three_le standard slot inEnds

/-- A process after so many streams were opened in it at new numbers. -/
structure Process.Opened (before after : Process) (count : Nat) : Prop where
  directory : after.directory = before.directory
  standard : before.descriptors.SameStandard after.descriptors
  length : after.descriptors.slots.length = before.descriptors.slots.length + count

namespace Plumbing

variable {stages : Nat} {bodies : List (List String)} {plumbing : Plumbing}

/-- A pipe for any two stages and one for each here-document, and nothing else. -/
theorem piped_lay (laid : lay world stages bodies = .ok (after, plumbing)) :
    world.Piped after plumbing.allPipes ∧ plumbing.pipes.length = stages - 1 ∧
      plumbing.heredocs.map (·.map HeredocPipe.body) = bodies := by
  have opened := of_mapError_ok laid
  obtain ⟨⟨middle, pipes⟩, first, opened⟩ := exists_of_bind_ok opened
  obtain ⟨⟨last, heredocs⟩, second, opened⟩ := exists_of_bind_ok opened
  cases opened
  obtain ⟨piped, length⟩ := piped_openPipes first
  obtain ⟨pipedMore, same⟩ := piped_openHeredocs second
  exact ⟨piped.trans pipedMore, length, same⟩

/-- A pipeline's pipes take new numbers: two for each pipe between stages, and more for
here-documents. -/
theorem opened_lay (standard : world.process.descriptors.Standard)
    (laid : lay world stages bodies = .ok (after, plumbing)) :
    (∃ count, world.process.Opened after.process (2 * (stages - 1) + count)) ∧
      plumbing.pipes.length = stages - 1 ∧ ∀ number ∈ plumbing.numbers, 3 ≤ number := by
  obtain ⟨piped, length, _⟩ := piped_lay laid
  have directory := congrArg (·.process.directory) piped.same
  have more := piped.gains.length
  rw [length_pipeEnds, allPipes, List.length_append, length, Nat.mul_add] at more
  exact ⟨⟨_, directory, piped.gains.sameStandard standard, more⟩, length,
    piped.three_le_numbers standard⟩

end Plumbing

end PipeShell
