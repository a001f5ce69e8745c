import PipeShell.Proofs.Run.BodyPipes
import PipeShell.Proofs.Run.Redirections

/-!
# How stages are wired up

Main statement: a stage that was wired up reads from the target of its last input redirection, or
else from the stage before; it writes to that of its last output redirection, or else to the stage
after; and it holds no other end of any pipe of its pipeline.
-/

namespace PipeShell

/-! ## The last redirection of a kind -/

theorem lastOf_eq_some {kind : RedirectOperator → Bool} {redirections : List Redirection}
    {last : Redirection} (found : lastOf kind redirections = some last) :
    kind last.operator = true ∧ ∃ before after, redirections = before ++ last :: after ∧
      ∀ later ∈ after, kind later.operator = false := by
  obtain ⟨holds, front, back, split, others⟩ := List.find?_eq_some_iff_append.mp found
  refine ⟨holds, back.reverse, front.reverse, ?_, ?_⟩
  · rw [← List.reverse_reverse redirections, split, List.reverse_append, List.reverse_cons,
      List.append_assoc, List.singleton_append]
  · intro later member
    simpa using others later (List.mem_reverse.mp member)

theorem lastOf_eq_none {kind : RedirectOperator → Bool} {redirections : List Redirection}
    (absent : lastOf kind redirections = none) :
    ∀ redirection ∈ redirections, kind redirection.operator = false := by
  intro redirection member
  simpa using List.find?_eq_none.mp absent redirection (List.mem_reverse.mpr member)

theorem isLastInput_of_others {later : List Redirection}
    (others : ∀ redirection ∈ later, redirection.operator.isInput = false) :
    isLastInput later = true := by
  simpa [isLastInput] using others

theorem isLastOutput_of_others {later : List Redirection}
    (others : ∀ redirection ∈ later, redirection.operator.isOutput = false) :
    isLastOutput later = true := by
  simpa [isLastOutput] using others

/-! ## Places in lists -/

theorem mem_pipeEnds {first index : Nat} {pipes : List (Nat × Nat)} {ends : Nat × Nat}
    (found : pipes[index]? = some ends) :
    (ends.1, .pipeReader (first + index)) ∈ pipeEnds first pipes ∧
      (ends.2, .pipeWriter (first + index)) ∈ pipeEnds first pipes := by
  induction pipes generalizing first index with
  | nil => cases found
  | cons pipe rest ih =>
      cases index with
      | zero =>
          cases found
          simp [pipeEnds]
      | succ index =>
          obtain ⟨reader, writer⟩ := @ih (first + 1) index found
          have same : first + 1 + index = first + (index + 1) := by omega
          rw [same] at reader writer
          exact ⟨List.mem_cons_of_mem _ (List.mem_cons_of_mem _ reader),
            List.mem_cons_of_mem _ (List.mem_cons_of_mem _ writer)⟩

theorem getElem?_flatten {α : Type} {lists : List (List α)} {index place : Nat} {list : List α}
    (found : lists[index]? = some list) (inside : place < list.length) :
    lists.flatten[(lists.take index).flatten.length + place]? = list[place]? := by
  induction lists generalizing index with
  | nil => cases found
  | cons head rest ih =>
      cases index with
      | zero =>
          cases found
          rw [List.take_zero, List.flatten_nil, List.length_nil, Nat.zero_add, List.flatten_cons,
            List.getElem?_append_left inside]
      | succ index =>
          rw [List.take_succ_cons, List.flatten_cons, List.flatten_cons, List.length_append,
            Nat.add_assoc, List.getElem?_append_right (Nat.le_add_right _ _),
            Nat.add_sub_cancel_left]
          exact ih found

/-! ## Connecting -/

namespace Plumbing

variable (plumbing : Plumbing)

def joinInput (index : Nat) (descriptors : Descriptors) : Descriptors :=
  match index with
  | 0 => descriptors
  | previous + 1 =>
    match plumbing.pipes[previous]? with
    | some (reader, _) => descriptors.duplicate reader Descriptors.standardInput
    | none => descriptors

def joinOutput (index : Nat) (descriptors : Descriptors) : Descriptors :=
  match plumbing.pipes[index]? with
  | some (_, writer) => descriptors.duplicate writer Descriptors.standardOutput
  | none => descriptors

theorem connect_eq (index : Nat) (world : World) :
    plumbing.connect index world =
      world.mapDescriptors fun descriptors =>
        plumbing.joinOutput index (plumbing.joinInput index descriptors) := by
  unfold connect joinOutput joinInput
  cases index with
  | zero => cases plumbing.pipes[0]? <;> rfl
  | succ previous =>
      simp only
      cases plumbing.pipes[previous]? <;> cases plumbing.pipes[previous + 1]? <;> rfl

theorem stream?_joinInput_of_ne (index : Nat) (descriptors : Descriptors) {number : Nat}
    (other : number ≠ Descriptors.standardInput) :
    (plumbing.joinInput index descriptors).stream? number = descriptors.stream? number := by
  unfold joinInput
  split
  · rfl
  · split
    · exact Descriptors.stream?_duplicate_of_ne _ _ other
    · rfl

theorem stream?_joinOutput_of_ne (index : Nat) (descriptors : Descriptors) {number : Nat}
    (other : number ≠ Descriptors.standardOutput) :
    (plumbing.joinOutput index descriptors).stream? number = descriptors.stream? number := by
  unfold joinOutput
  split
  · exact Descriptors.stream?_duplicate_of_ne _ _ other
  · rfl

theorem standard_joinInput (index : Nat) {descriptors : Descriptors}
    (standard : descriptors.Standard) : (plumbing.joinInput index descriptors).Standard := by
  unfold joinInput
  split
  · exact standard
  · split
    · exact standard.duplicate _ _
    · exact standard

theorem standard_joinOutput (index : Nat) {descriptors : Descriptors}
    (standard : descriptors.Standard) : (plumbing.joinOutput index descriptors).Standard := by
  unfold joinOutput
  split
  · exact standard.duplicate _ _
  · exact standard

def inputEnd (index first : Nat) (own : Option Stream) : Option Stream :=
  match index with
  | 0 => own
  | previous + 1 => some (.pipeReader (first + previous))

def outputEnd (index first : Nat) (own : Option Stream) : Option Stream :=
  if index < plumbing.pipes.length then some (.pipeWriter (first + index)) else own

variable {plumbing} {index first : Nat} {descriptors : Descriptors}

theorem stream?_joinInput (inside : index ≤ plumbing.pipes.length)
    (knows : ∀ slot ∈ pipeEnds first plumbing.pipes, descriptors.stream? slot.1 = some slot.2) :
    (plumbing.joinInput index descriptors).stream? Descriptors.standardInput =
      inputEnd index first (descriptors.stream? Descriptors.standardInput) := by
  cases index with
  | zero => rfl
  | succ previous =>
      have found := List.getElem?_eq_getElem inside
      simp only [joinInput, found, inputEnd]
      exact Descriptors.stream?_duplicate _ _ (knows _ (mem_pipeEnds found).1)

theorem stream?_joinOutput
    (knows : ∀ slot ∈ pipeEnds first plumbing.pipes, descriptors.stream? slot.1 = some slot.2) :
    (plumbing.joinOutput index descriptors).stream? Descriptors.standardOutput =
      plumbing.outputEnd index first (descriptors.stream? Descriptors.standardOutput) := by
  unfold joinOutput outputEnd
  by_cases inside : index < plumbing.pipes.length
  · have found := List.getElem?_eq_getElem inside
    simp only [found, if_pos inside]
    exact Descriptors.stream?_duplicate _ _ (knows _ (mem_pipeEnds found).2)
  · have absent := List.getElem?_eq_none (Nat.le_of_not_lt inside)
    simp only [absent, if_neg inside]

/-- What is connected: the two standard streams, and nothing else. -/
theorem connect_spec {world : World} (inside : index ≤ plumbing.pipes.length)
    (knows : world.Knows (pipeEnds first plumbing.pipes))
    (large : ∀ slot ∈ pipeEnds first plumbing.pipes, 3 ≤ slot.1)
    (standard : world.process.descriptors.Standard) :
    let connected := plumbing.connect index world
    connected.process.descriptors.Standard ∧
    connected.stream? Descriptors.standardInput =
      inputEnd index first (world.stream? Descriptors.standardInput) ∧
    connected.stream? Descriptors.standardOutput =
      plumbing.outputEnd index first (world.stream? Descriptors.standardOutput) ∧
    ∀ number, 2 ≤ number → connected.stream? number = world.stream? number := by
  rw [connect_eq]
  let joined := plumbing.joinInput index world.process.descriptors
  have joins : ∀ number, number ≠ Descriptors.standardInput →
      joined.stream? number = world.stream? number :=
    fun _ other => plumbing.stream?_joinInput_of_ne index world.process.descriptors other
  have knowsToo : ∀ slot ∈ pipeEnds first plumbing.pipes, joined.stream? slot.1 = some slot.2 := by
    intro slot member
    have high := large slot member
    rw [joins slot.1 (Descriptors.ne_standardInput (by omega))]
    exact knows slot member
  -- Each join replaces one standard stream and takes it from a number above both.
  refine ⟨?_, ?_, ?_, ?_⟩
  · exact plumbing.standard_joinOutput index (plumbing.standard_joinInput index standard)
  · exact (plumbing.stream?_joinOutput_of_ne index joined (by decide)).trans
      (stream?_joinInput inside knows)
  · have output : (plumbing.joinOutput index joined).stream? Descriptors.standardOutput = _ :=
      stream?_joinOutput knowsToo
    rw [joins _ (by decide)] at output
    exact output
  · intro number high
    exact (plumbing.stream?_joinOutput_of_ne index joined
      (Descriptors.ne_standardOutput high)).trans (joins number (Descriptors.ne_standardInput high))

end Plumbing

/-! ## Wired stages -/

theorem Plumbing.wireStage_ok {plumbing : Plumbing} {index : Nat} {command : Command}
    {world wired : World} (done : plumbing.wireStage index command world = (wired, .ok ())) :
    ∃ applied, applyRedirections (plumbing.connect index world) command.redirections
        (plumbing.heredocs.getD index []) = (applied, .ok ()) ∧
      wired = applied.mapDescriptors (·.closeAll plumbing.numbers) := by
  unfold wireStage at done
  simp only at done
  split at done
  · cases done
  · rename_i applied applies
    cases done
    exact ⟨applied, applies, rfl⟩

section Wired

variable {shell laid world wired : World} {plumbing : Plumbing} {index : Nat} {command : Command}

/-- The numbers of a stage that was wired up in a child of the shell that laid the pipes: those of
the standard streams are connected and redirected, and the others are the shell's own. -/
structure Plumbing.Wired (plumbing : Plumbing) (shell laid world wired : World) (index : Nat)
    (command : Command) : Prop where
  input : isLastInput command.redirections = true →
    wired.stream? Descriptors.standardInput = inputEnd index shell.pipes.length
      (shell.stream? Descriptors.standardInput)
  output : isLastOutput command.redirections = true →
    wired.stream? Descriptors.standardOutput = plumbing.outputEnd index shell.pipes.length
      (shell.stream? Descriptors.standardOutput)
  opened : ∀ before last after, command.redirections = before ++ last :: after →
    last.operator.isLast after = true → last.operator ≠ .heredoc →
      last.OpenedAs world wired before (wired.stream? last.operator.standardStream)
  fed : ∀ before last after pipe, command.redirections = before ++ last :: after →
    last.operator.isLast after = true → last.operator = .heredoc →
      (plumbing.heredocs.getD index [])[countHeredocs before]? = some pipe →
        wired.stream? Descriptors.standardInput = laid.stream? pipe.reader
  closed : ∀ number ∈ plumbing.numbers, wired.stream? number = none
  others : ∀ number, 2 ≤ number → wired.stream? number = shell.stream? number

theorem reader_mem_pipeEnds {pipe : HeredocPipe} (first : Nat)
    (member : pipe ∈ plumbing.heredocs.getD index []) :
    ∃ stream, (pipe.reader, stream) ∈ pipeEnds first plumbing.allPipes := by
  have inHeredocs : pipe ∈ plumbing.heredocs.flatten := by
    rw [List.getD_eq_getElem?_getD] at member
    cases found : plumbing.heredocs[index]? with
    | none =>
        rw [found] at member
        cases member
    | some stage =>
        rw [found] at member
        exact List.mem_flatten.mpr ⟨stage, List.mem_of_getElem? found, member⟩
  have inPipes : pipe.ends ∈ plumbing.allPipes :=
    List.mem_append_right _ (List.mem_map_of_mem inHeredocs)
  obtain ⟨place, found⟩ := List.mem_iff_getElem?.mp inPipes
  exact ⟨_, (mem_pipeEnds found).1⟩

theorem Plumbing.wired_wireStage (piped : shell.Piped laid plumbing.allPipes)
    (standard : shell.process.descriptors.Standard) (inside : index ≤ plumbing.pipes.length)
    (child : world.process.descriptors = laid.process.descriptors)
    (done : plumbing.wireStage index command world = (wired, .ok ())) :
    plumbing.Wired shell laid world wired index command := by
  have gains := piped.gains
  rw [← child] at gains
  have own := gains.sameStandard standard
  have large := piped.three_le_numbers standard
  have knows : world.Knows (pipeEnds shell.pipes.length plumbing.allPipes) := gains.opened
  have high := gains.three_le standard
  have ends := pipeEnds_append shell.pipes.length plumbing.pipes
    (plumbing.heredocs.flatten.map HeredocPipe.ends)
  obtain ⟨standardToo, input, output, others⟩ := connect_spec inside
    (List.forall_mem_append.mp (ends ▸ knows)).1 (List.forall_mem_append.mp (ends ▸ high)).1
    (standard.of_same own)
  obtain ⟨applied, applies, rfl⟩ := wireStage_ok done
  -- The numbers of the here-documents' pipes are still what they were.
  have ready : (plumbing.connect index world).Ready (plumbing.heredocs.getD index []) := by
    refine ⟨standardToo, ?_⟩
    intro pipe member
    obtain ⟨stream, inEnds⟩ := reader_mem_pipeEnds shell.pipes.length member
    have threeLe : 3 ≤ pipe.reader := high _ inEnds
    rw [others pipe.reader (by omega), knows _ inEnds]
    exact ⟨threeLe, rfl⟩
  have rewired := rewired_applyRedirections ready applies
  have closed (number : Nat) :
      (applied.mapDescriptors (·.closeAll plumbing.numbers)).stream? number =
        if number ∈ plumbing.numbers then none else applied.stream? number :=
    Descriptors.stream?_closeAll _ _ _
  -- Letting go of the pipes leaves the standard streams, whatever they stand for by now.
  have small (number : Nat) (low : number < 3) :
      (applied.mapDescriptors (·.closeAll plumbing.numbers)).stream? number =
        applied.stream? number := by
    rw [closed, if_neg]
    intro member
    have := large number member
    omega
  refine ⟨?_, ?_, ?_, ?_, ?_, ?_⟩
  · intro isLast
    rw [small _ (by decide), rewired.kept _ (by decide) ((isLastInput_iff _).mp isLast), input]
    exact congrArg _ (own _ (by decide))
  · intro isLast
    rw [small _ (by decide), rewired.kept _ (by decide) ((isLastOutput_iff _).mp isLast), output]
    exact congrArg _ (own _ (by decide))
  · intro before last after split isLast isFile
    have opened := rewired.opened before last after split isLast isFile
    rw [connect_eq] at opened
    obtain ⟨fine, target, stream⟩ := opened.of_mapDescriptors
    rw [small _ (Nat.lt_succ_of_lt (standardStream_lt _))]
    exact ⟨fine, target, stream⟩
  · intro before last after pipe split isLast isHeredoc found
    have threeLe := ready.large pipe (List.mem_of_getElem? found)
    rw [small _ (by decide), rewired.fed before last after pipe split isLast isHeredoc found,
      others pipe.reader (by omega), World.stream?, child]
    rfl
  · intro number member
    rw [closed, if_pos member]
  · intro number above
    rw [closed]
    split
    · rename_i member
      rw [plumbing.numbers_eq shell.pipes.length] at member
      obtain ⟨slot, inEnds, rfl⟩ := List.mem_map.mp member
      exact (gains.free slot inEnds).symm
    · rename_i absent
      rw [plumbing.numbers_eq shell.pipes.length] at absent
      rw [rewired.others number above, others number above]
      exact gains.kept number absent

end Wired

/-! ## The here-documents of a stage -/

/-- The here-documents of a pipeline that are written before a redirection of a stage. -/
def heredocsBefore (commands : List Command) (index : Nat) (before : List Redirection) :
    List Redirection :=
  (commands.take index).flatMap Command.heredocs ++ before.filter (·.operator = .heredoc)

section Heredocs

variable {commands : List Command} {command : Command} {index : Nat} {bodies : List (List String)}
  {before after : List Redirection} {last : Redirection} {plumbing : Plumbing}

theorem heredocs_of_split (split : command.redirections = before ++ last :: after)
    (isHeredoc : last.operator = .heredoc) :
    command.heredocs = before.filter (·.operator = .heredoc) ++
      last :: after.filter (·.operator = .heredoc) := by
  rw [Command.heredocs, split, List.filter_append, List.filter_cons_of_pos (by simp [isHeredoc])]

theorem flatMap_heredocs (stage : commands[index]? = some command)
    (split : command.redirections = before ++ last :: after)
    (isHeredoc : last.operator = .heredoc) :
    ∃ later, commands.flatMap Command.heredocs =
      heredocsBefore commands index before ++ last :: later := by
  obtain ⟨inside, rfl⟩ := List.getElem?_eq_some_iff.mp stage
  refine ⟨after.filter (·.operator = .heredoc) ++
    (commands.drop (index + 1)).flatMap Command.heredocs, ?_⟩
  conv_lhs => rw [← List.take_append_drop index commands, List.drop_eq_getElem_cons inside]
  rw [List.flatMap_append, List.flatMap_cons, heredocs_of_split split isHeredoc, heredocsBefore]
  simp only [List.append_assoc, List.cons_append]

theorem exists_heredocPipe (shape : plumbing.heredocs.map (·.map HeredocPipe.body) = bodies)
    (lengths : bodies.map List.length = commands.map fun command => command.heredocs.length)
    (stage : commands[index]? = some command)
    (split : command.redirections = before ++ last :: after)
    (isHeredoc : last.operator = .heredoc) :
    ∃ pipe, (plumbing.heredocs.getD index [])[countHeredocs before]? = some pipe ∧
      plumbing.heredocs.flatten[(heredocsBefore commands index before).length]? = some pipe := by
  -- There are as many pipes for every stage as it has here-documents.
  have counts : plumbing.heredocs.map List.length =
      commands.map fun command => command.heredocs.length := by
    rw [← lengths, ← shape, List.map_map]
    exact List.map_congr_left fun pipes _ => (List.length_map _).symm
  have here := congrArg (·[index]?) counts
  simp only [List.getElem?_map, stage, Option.map_some] at here
  obtain ⟨pipes, found, count⟩ := Option.map_eq_some_iff.mp here
  have inside : countHeredocs before < pipes.length := by
    rw [count, heredocs_of_split split isHeredoc, List.length_append, List.length_cons]
    simp only [countHeredocs]
    omega
  have earlier : (plumbing.heredocs.take index).flatten.length =
      ((commands.take index).flatMap Command.heredocs).length := by
    rw [List.length_flatten, List.length_flatMap, List.map_take, counts, List.map_take]
  have place := getElem?_flatten found inside
  rw [earlier] at place
  refine ⟨pipes[countHeredocs before], ?_, ?_⟩
  · rw [List.getD_eq_getElem?_getD, found, Option.getD_some, List.getElem?_eq_getElem inside]
  · rw [heredocsBefore, List.length_append]
    exact place.trans (List.getElem?_eq_getElem inside)

end Heredocs

/-! ## Whole pipelines -/

/-- Every pipe of which the process knows an end has been made. -/
def World.PipesMade (world : World) : Prop :=
  ∀ number stream pipe, world.stream? number = some stream → stream.EndOf pipe →
    pipe < world.pipes.length

section Pipelines

variable {shell laid : World} {plumbing : Plumbing}

/-- When the stages were started, the pipe of every here-document holds its body. -/
theorem pipes_sent (piped : shell.Piped laid plumbing.allPipes)
    (standard : shell.process.descriptors.Standard) (made : shell.PipesMade)
    (commands : List Command) {place : Nat} {pipe : HeredocPipe}
    (found : plumbing.heredocs.flatten[place]? = some pipe) :
    (plumbing.finish (startStages laid 0 commands).1).pipes[
      shell.pipes.length + plumbing.pipes.length + place]? = some (encode pipe.body) := by
  obtain ⟨inside, _⟩ := List.getElem?_eq_some_iff.mp found
  have errors : laid.ErrorsBefore shell.pipes.length := by
    intro pipe used
    rw [World.stream?, piped.gains.sameStandard standard _ (by decide)] at used
    exact made _ _ pipe used (.inr rfl)
  have process := process_startStages laid 0 commands
  have kept := pipes_startStages commands errors 0
  generalize (startStages laid 0 commands).1 = started at process kept ⊢
  have knows : started.Knows (pipeEnds shell.pipes.length plumbing.allPipes) := by
    intro slot member
    rw [World.stream?, process]
    exact piped.gains.opened slot member
  rw [piped.pipes_eq, List.drop_left, Plumbing.allPipes, List.length_append, List.length_map]
    at kept
  -- Reports may go into older pipes, but the new ones are all empty.
  have empty : started.pipes.drop (shell.pipes.length + plumbing.pipes.length) =
      List.replicate plumbing.heredocs.flatten.length [] := by
    rw [← List.drop_drop, kept, List.drop_replicate, Nat.add_sub_cancel_left]
  have count := congrArg List.length kept
  rw [List.length_drop, List.length_replicate] at count
  have length : (started.pipes.take (shell.pipes.length + plumbing.pipes.length)).length =
      shell.pipes.length + plumbing.pipes.length := by
    rw [List.length_take]
    omega
  have whole := List.take_append_drop (shell.pipes.length + plumbing.pipes.length) started.pipes
  rw [empty] at whole
  rw [Plumbing.pipes_finish knows length whole.symm, List.getElem?_append_right (by omega), length,
    Nat.add_sub_cancel_left, List.getElem?_map, found]
  rfl

end Pipelines

section Stage

variable {shell laid world wired : World} {plumbing : Plumbing} {commands : List Command}
  {bodies : List (List String)} {index : Nat} {command : Command}
  {before after : List Redirection} {last : Redirection}

namespace Plumbing.Wired

theorem from_heredoc (wiring : plumbing.Wired shell laid world wired index command)
    (piped : shell.Piped laid plumbing.allPipes)
    (shape : plumbing.heredocs.map (·.map HeredocPipe.body) = bodies)
    (lengths : bodies.map List.length = commands.map fun command => command.heredocs.length)
    (stage : commands[index]? = some command)
    (split : command.redirections = before ++ last :: after) (isLast : isLastInput after = true)
    (isHeredoc : last.operator = .heredoc) :
    ∃ pipe, (plumbing.heredocs.getD index [])[countHeredocs before]? = some pipe ∧
      plumbing.heredocs.flatten[(heredocsBefore commands index before).length]? = some pipe ∧
      wired.stream? Descriptors.standardInput = some (.pipeReader
        (shell.pipes.length + plumbing.pipes.length +
          (heredocsBefore commands index before).length)) := by
  obtain ⟨pipe, here, place⟩ := exists_heredocPipe shape lengths stage split isHeredoc
  refine ⟨pipe, here, place, ?_⟩
  have isLastToo : last.operator.isLast after = true := by
    rw [isHeredoc]
    exact isLast
  have ends : plumbing.allPipes[plumbing.pipes.length +
      (heredocsBefore commands index before).length]? = some pipe.ends := by
    rw [allPipes, List.getElem?_append_right (Nat.le_add_right _ _), Nat.add_sub_cancel_left,
      List.getElem?_map, place]
    rfl
  rw [wiring.fed before last after pipe split isLastToo isHeredoc here, Nat.add_assoc]
  exact piped.gains.opened _ (mem_pipeEnds ends).1

theorem from_file (wiring : plumbing.Wired shell laid world wired index command)
    (split : command.redirections = before ++ last :: after) (isLast : isLastInput after = true)
    (isFile : last.operator = .input) :
    last.OpenedAs world wired before (wired.stream? Descriptors.standardInput) := by
  have opened := wiring.opened before last after split
  rw [isFile] at opened
  exact opened isLast nofun

theorem to_file (wiring : plumbing.Wired shell laid world wired index command)
    (split : command.redirections = before ++ last :: after) (isLast : isLastOutput after = true)
    (isOutput : last.operator.isOutput = true) :
    last.OpenedAs world wired before (wired.stream? Descriptors.standardOutput) := by
  have opened := wiring.opened before last after split
  cases operator : last.operator <;> rw [operator] at opened isOutput
  · cases isOutput
  · exact opened isLast nofun
  · exact opened isLast nofun
  · cases isOutput

theorem not_writer_input (wiring : plumbing.Wired shell laid world wired index command)
    (piped : shell.Piped laid plumbing.allPipes) (made : shell.PipesMade)
    (shape : plumbing.heredocs.map (·.map HeredocPipe.body) = bodies)
    (lengths : bodies.map List.length = commands.map fun command => command.heredocs.length)
    (stage : commands[index]? = some command) {pipe : Nat}
    (used : wired.stream? Descriptors.standardInput = some (.pipeWriter pipe)) :
    pipe < shell.pipes.length := by
  cases found : command.input with
  | none =>
      rw [wiring.input (isLastInput_of_others (lastOf_eq_none found))] at used
      cases index with
      | zero => exact made _ _ pipe used (.inr rfl)
      | succ previous => cases used
  | some last =>
      obtain ⟨isInput, before, after, split, others⟩ := lastOf_eq_some found
      have isLast := isLastInput_of_others others
      cases operator : last.operator <;> rw [operator] at isInput
      · have stream := (wiring.from_file split isLast operator).stream
        rw [used] at stream
        cases stream
      · cases isInput
      · cases isInput
      · obtain ⟨_, _, _, stream⟩ :=
          wiring.from_heredoc piped shape lengths stage split isLast operator
        rw [used] at stream
        cases stream

/-- If a stage writes into a new pipe, that is the pipe to the stage after. -/
theorem writer_output (wiring : plumbing.Wired shell laid world wired index command)
    (made : shell.PipesMade) {pipe : Nat}
    (used : wired.stream? Descriptors.standardOutput = some (.pipeWriter pipe))
    (new : shell.pipes.length ≤ pipe) :
    pipe = shell.pipes.length + index ∧ index < plumbing.pipes.length := by
  cases found : command.output with
  | none =>
      rw [wiring.output (isLastOutput_of_others (lastOf_eq_none found)), outputEnd] at used
      split at used
      · rename_i inside
        cases used
        exact ⟨rfl, inside⟩
      · exact absurd (made _ _ pipe used (.inr rfl)) (Nat.not_lt.mpr new)
  | some last =>
      obtain ⟨isOutput, before, after, split, others⟩ := lastOf_eq_some found
      have stream := (wiring.to_file split (isLastOutput_of_others others) isOutput).stream
      rw [used] at stream
      cases stream

end Plumbing.Wired

end Stage

/-- How the stages of a pipeline are wired up. With the standard streams open, the numbers of its
pipes are above theirs. The pipes themselves are counted from `first` on: one after each stage but
the last, then one for each here-document. A stage for which wiring succeeds reads
from the file of its last input redirection, or the pipe that holds exactly what was read for that
here-document, or else from the stage before; it writes to the file of its last output redirection,
or else to the stage after. None of the numbers of the pipes is left, all others mean what they mean
in the shell, and the only end to write into a new pipe that it may hold is that to the stage
after. -/
theorem Plumbing.wireStage_spec {session : Session} {world shell laid now wired : World}
    {source left : Source} {commands : List Command} {bodies : List (List String)}
    {plumbing : Plumbing} {index number : Nat} {command : Command}
    (collected : collectHeredocs session world source commands =
      (shell, left, .ok (some bodies)))
    (lays : lay shell commands.length bodies = .ok (laid, plumbing))
    (standard : shell.process.descriptors.Standard) (made : shell.PipesMade)
    (stage : commands[index]? = some command)
    (wires : plumbing.wireStage index command
      (now.inProcess (laid.process.child number)) = (wired, .ok ())) :
    let child := now.inProcess (laid.process.child number)
    let first := shell.pipes.length
    let input := wired.stream? Descriptors.standardInput
    let output := wired.stream? Descriptors.standardOutput
    laid.Knows (pipeEnds first plumbing.allPipes) ∧
    plumbing.pipes.length = commands.length - 1 ∧
    (∀ last, command.input = some last → ∃ before after,
      command.redirections = before ++ last :: after ∧ isLastInput after = true ∧
      (last.operator = .input → last.OpenedAs child wired before input) ∧
      (last.operator = .heredoc → ∃ body,
        let earlier := heredocsBefore commands index before
        let pipe := first + (commands.length - 1) + earlier.length
        (bodies.getD index [])[countHeredocs before]? = some body ∧
        BodyRead session world source earlier last body ∧
        input = some (.pipeReader pipe) ∧
        (plumbing.finish (startStages laid 0 commands).1).pipes[pipe]? = some (encode body))) ∧
    (command.input = none →
      input = inputEnd index first (shell.stream? Descriptors.standardInput)) ∧
    (∀ last, command.output = some last → ∃ before after,
      command.redirections = before ++ last :: after ∧ isLastOutput after = true ∧
      last.OpenedAs child wired before output) ∧
    (command.output = none →
      output = if index < commands.length - 1 then some (.pipeWriter (first + index))
        else shell.stream? Descriptors.standardOutput) ∧
    (∀ known ∈ plumbing.numbers, wired.stream? known = none) ∧
    (∀ other, 2 ≤ other → wired.stream? other = shell.stream? other) ∧
    ∀ held pipe, wired.stream? held = some (.pipeWriter pipe) → first ≤ pipe →
      held = Descriptors.standardOutput ∧ pipe = first + index ∧ index < commands.length - 1 := by
  intro child first input output
  obtain ⟨piped, count, shape⟩ := piped_lay lays
  obtain ⟨all, lengths⟩ := readBodies_of_collected collected
  have inside : index ≤ plumbing.pipes.length := by
    have := (List.getElem?_eq_some_iff.mp stage).1
    omega
  have wiring : plumbing.Wired shell laid child wired index command :=
    wired_wireStage piped standard inside rfl wires
  refine ⟨piped.gains.opened, count, ?_, ?_, ?_, ?_, wiring.closed, wiring.others, ?_⟩
  · intro last found
    obtain ⟨_, before, after, split, others⟩ := lastOf_eq_some found
    have isLast := isLastInput_of_others others
    refine ⟨before, after, split, isLast, wiring.from_file split isLast, ?_⟩
    intro isHeredoc
    obtain ⟨pipe, here, place, stream⟩ :=
      wiring.from_heredoc piped shape lengths stage split isLast isHeredoc
    obtain ⟨later, order⟩ := flatMap_heredocs stage split isHeredoc
    rw [order, ← shape, ← List.map_flatten] at all
    -- The body that was read stands in the same place as the pipe, so it is the body of the pipe.
    obtain ⟨body, stands, read⟩ := bodyRead_of_readBodies all
    rw [List.getElem?_map, place] at stands
    cases stands
    have moved : bodies.getD index [] = (plumbing.heredocs.getD index []).map HeredocPipe.body := by
      rw [← shape, List.getD_eq_getElem?_getD, List.getD_eq_getElem?_getD, List.getElem?_map]
      cases plumbing.heredocs[index]? <;> rfl
    refine ⟨pipe.body, ?_, read, count ▸ stream, ?_⟩
    · rw [moved, List.getElem?_map, here]
      rfl
    · exact count ▸ pipes_sent piped standard made commands place
  · intro absent
    exact wiring.input (isLastInput_of_others (lastOf_eq_none absent))
  · intro last found
    obtain ⟨isOutput, before, after, split, others⟩ := lastOf_eq_some found
    have isLast := isLastOutput_of_others others
    exact ⟨before, after, split, isLast, wiring.to_file split isLast isOutput⟩
  · intro absent
    have own := wiring.output (isLastOutput_of_others (lastOf_eq_none absent))
    rw [outputEnd, count] at own
    exact own
  · intro held pipe used new
    rcases Nat.lt_or_ge held 2 with low | high
    · have standardStream :
          held = Descriptors.standardInput ∨ held = Descriptors.standardOutput := by
        simp only [Descriptors.standardInput, Descriptors.standardOutput]
        omega
      rcases standardStream with rfl | rfl
      · have old := wiring.not_writer_input piped made shape lengths stage used
        exact absurd old (Nat.not_lt.mpr new)
      · obtain ⟨same, inside⟩ := wiring.writer_output made used new
        exact ⟨rfl, same, count ▸ inside⟩
    · rw [wiring.others held high] at used
      exact absurd (made _ _ pipe used (.inr rfl)) (Nat.not_lt.mpr new)

def sortBodies : Command :=
  { arguments := ["sort"]
    redirections := [{ operator := .heredoc, target := "A" },
      { operator := .heredoc, target := "B" }] }

def stagesWithBodies : List Command :=
  [{ arguments := ["cat"] }, sortBodies, { arguments := ["cat"] }]

def bodiesOfStages : Source := { events := [.line "one", .line "A", .line "two", .line "B"] }

def stagesWithBodiesLaid : World :=
  { process := { descriptors := ⟨[(10, .pipeWriter 3), (9, .pipeReader 3), (8, .pipeWriter 2),
      (7, .pipeReader 2), (6, .pipeWriter 1), (5, .pipeReader 1), (4, .pipeWriter 0),
      (3, .pipeReader 0), (0, .input), (1, .output), (2, .errors)]⟩ }
    pipes := [[], [], [], []] }

def stagesWithBodiesPlumbing : Plumbing :=
  { pipes := [(3, 4), (5, 6)], heredocs := [[], [⟨7, 8, "one\n"⟩, ⟨9, 10, "two\n"⟩], []] }

theorem Plumbing.wireStage_spec_sortBodies :
    collectHeredocs {} {} bodiesOfStages stagesWithBodies =
      ({}, { prompts := ["> ", "> ", "> ", "> "] }, .ok (some [[], ["one\n", "two\n"], []])) ∧
    lay {} stagesWithBodies.length [[], ["one\n", "two\n"], []] =
      .ok (stagesWithBodiesLaid, stagesWithBodiesPlumbing) ∧
    ({} : World).process.descriptors.Standard ∧ ({} : World).PipesMade ∧
    stagesWithBodies[1]? = some sortBodies ∧
    let wiring := stagesWithBodiesPlumbing.wireStage 1 sortBodies
      (stagesWithBodiesLaid.inProcess (stagesWithBodiesLaid.process.child 102))
    let sent := stagesWithBodiesPlumbing.finish
      (startStages stagesWithBodiesLaid 0 stagesWithBodies).1
    wiring = (wiring.1, .ok ()) ∧
    wiring.1.stream? Descriptors.standardInput = some (.pipeReader 3) ∧
    sent.pipes[3]? = some (encode "two\n") ∧
    wiring.1.stream? Descriptors.standardOutput = some (.pipeWriter 1) := by
  have collected : collectHeredocs {} {} bodiesOfStages stagesWithBodies =
      ({}, { prompts := ["> ", "> ", "> ", "> "] },
        .ok (some [[], ["one\n", "two\n"], []])) := by rfl
  have lays : lay {} stagesWithBodies.length [[], ["one\n", "two\n"], []] =
      .ok (stagesWithBodiesLaid, stagesWithBodiesPlumbing) := by rfl
  have standard : ({} : World).process.descriptors.Standard := by
    unfold Descriptors.Standard
    decide
  have made : ({} : World).PipesMade := by
    intro number stream pipe used isEnd
    simp only [World.stream?, Descriptors.stream?, Descriptors.lookup] at used
    rcases isEnd with rfl | rfl <;> grind
  have stage : stagesWithBodies[1]? = some sortBodies := rfl
  have wires : stagesWithBodiesPlumbing.wireStage 1 sortBodies
      (stagesWithBodiesLaid.inProcess (stagesWithBodiesLaid.process.child 102)) =
        ((stagesWithBodiesPlumbing.wireStage 1 sortBodies
          (stagesWithBodiesLaid.inProcess (stagesWithBodiesLaid.process.child 102))).1,
          .ok ()) := by rfl
  obtain ⟨_, _, input, _, _, output, _⟩ :=
    wireStage_spec collected lays standard made stage wires
  obtain ⟨before, after, split, _, _, fed⟩ := input { operator := .heredoc, target := "B" } rfl
  have first : before = [{ operator := .heredoc, target := "A" }] := by
    rcases before with _ | ⟨one, _ | ⟨two, more⟩⟩ <;> simp [sortBodies] at split
    rw [split.1]
  subst first
  obtain ⟨body, found, _, stream, sent⟩ := fed rfl
  cases found
  exact ⟨collected, lays, standard, made, stage, wires, stream, sent, output rfl⟩

end PipeShell
