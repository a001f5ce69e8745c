import PipeShell.Plumbing
import PipeShell.Proofs.Run.Targets

/-!
# Targets in the shell and in a stage

A builtin in the shell keeps one file open; a stage makes files its standard streams, over the
pipes. Main statements: both have the same targets tried, and output goes to the same stream.
-/

namespace PipeShell

/-! ## Targets in the shell -/

section InShell

variable {world : World}

/-- What the shell has after a trial: the last output target is open at `number`. -/
def Trial.inShell (trial : Trial) (number : Nat) : World × Except ShellError (Option Nat) :=
  match trial.failure?, trial.output? with
  | some error, _ => (trial.world, .error error)
  | none, none => (trial.world, .ok none)
  | none, some stream => (trial.world.mapDescriptors (·.place number stream), .ok (some number))

theorem Trial.inShell_after {redirection : Redirection} (trial : Trial) (stream : Stream)
    (number : Nat)
    (idle : redirection.operator.isOutput = true → trial.failure? = none →
      trial.output?.isSome) :
    (trial.after ⟨redirection, .ok stream⟩).inShell number = trial.inShell number := by
  unfold inShell
  rw [failure?_after, output?_after]
  cases failed : trial.failure? with
  | some error => rfl
  | none =>
      cases output : redirection.operator.isOutput with
      | false =>
          rw [if_neg Bool.false_ne_true, Option.or_none]
          rfl
      | true =>
          obtain ⟨last, found⟩ := Option.isSome_iff_exists.mp (idle output failed)
          rw [found]
          rfl

theorem openInShell_heredoc {redirection : Redirection} {rest : List Redirection}
    (isHeredoc : redirection.operator = .heredoc) :
    openInShell world (redirection :: rest) = openInShell world rest := by
  rw [openInShell, if_pos isHeredoc]

theorem openInShell_failed {redirection : Redirection} {rest : List Redirection}
    {error : ShellError} (room : world.HasRoom 1) (isFile : redirection.operator ≠ .heredoc)
    (failed : tryTarget world redirection = .error error) :
    openInShell world (redirection :: rest) = (world, .error error) := by
  rw [openInShell, if_neg isFile, openTarget_eq room, failed]
  rfl

theorem openInShell_idle {opened : World} {redirection : Redirection} {rest : List Redirection}
    (room : world.HasRoom 1) (isFile : redirection.operator ≠ .heredoc)
    (done : tryTarget world redirection = .ok opened)
    (idle : ¬ (redirection.operator.isOutput && isLastOutput rest) = true) :
    openInShell world (redirection :: rest) = openInShell opened rest := by
  have free : opened.stream? world.process.descriptors.lowestFree = none := by
    rw [World.stream?, process_tryTarget done]
    exact Descriptors.stream?_lowestFree _
  rw [openInShell, if_neg isFile, openTarget_eq room, done]
  simp only [Except.map, if_neg idle, close_placed free]

theorem openInShell_of_inputs (redirections : List Redirection) (room : world.HasRoom 1)
    (inputs : isLastOutput redirections = true) (number : Nat) :
    openInShell world redirections = (tryTargets world redirections).inShell number := by
  fun_induction tryTargets world redirections with
  | case1 => rfl
  | case2 world redirection rest isHeredoc ih =>
      rw [isLastOutput_cons, Bool.and_eq_true] at inputs
      rw [openInShell_heredoc isHeredoc, ih room inputs.2]
  | case3 world redirection rest isFile error failed =>
      rw [openInShell_failed room isFile failed]
      rfl
  | case4 world redirection rest isFile opened done ih =>
      rw [isLastOutput_cons, Bool.and_eq_true, Bool.not_eq_true'] at inputs
      rw [openInShell_idle room isFile done (by simp [inputs.1]),
        ih (hasRoom_tryTarget done room) inputs.2, Trial.inShell_after]
      intro output
      rw [inputs.1] at output
      cases output

theorem openInShell_last {opened : World} {redirection : Redirection} {rest : List Redirection}
    (room : world.HasRoom 2) (isFile : redirection.operator ≠ .heredoc)
    (done : tryTarget world redirection = .ok opened)
    (output : redirection.operator.isOutput = true) (inputs : isLastOutput rest = true) :
    openInShell world (redirection :: rest) =
      ((tryTargets opened rest).after ⟨redirection, .ok (.file world.openFiles.length)⟩).inShell
        world.process.descriptors.lowestFree := by
  have one : world.HasRoom 1 := room.mono rfl (by omega)
  rw [openInShell, if_neg isFile, openTarget_eq one, done]
  simp only [Except.map, output, inputs, Bool.and_self, ↓reduceIte]
  have free := Descriptors.stream?_lowestFree world.process.descriptors
  have roomOpened := hasRoom_tryTarget done room
  rw [← process_tryTarget done] at free ⊢
  generalize opened.process.descriptors.lowestFree = number at free
  generalize Stream.file world.openFiles.length = stream
  -- The others are tried with one number less, and none of them is for output.
  have roomLeft : (opened.mapDescriptors (·.place number stream)).HasRoom 1 := by
    refine World.HasRoom.mono roomOpened rfl ?_
    have length := Descriptors.length_place_of_free _ number stream free
    simp only [World.mapDescriptors_eq, World.process_inProcess,
      Process.descriptors_withDescriptors, length]
    omega
  have freeLater : (tryTargets opened rest).world.stream? number = none := by
    rw [World.stream?, process_tryTargets]
    exact free
  have noOutput : (tryTargets opened rest).output? = none := output?_of_inputs rest inputs
  rw [openInShell_of_inputs rest roomLeft inputs number, tryTargets_mapDescriptors]
  cases failed : (tryTargets opened rest).failure? with
  | some error =>
      simp only [Trial.inShell, Trial.failure?_mapWorld, Trial.failure?_after, failed,
        Trial.world_mapWorld, close_placed freeLater]
      rfl
  | none =>
      simp only [Trial.inShell, Trial.failure?_mapWorld, Trial.output?_mapWorld,
        Trial.failure?_after, Trial.output?_after, failed, noOutput, output, ↓reduceIte,
        Option.none_or]
      rfl

/-- A builtin in the shell has its targets tried in order. Its numbers are as before, apart from
that of the last output target, which was free. -/
theorem openInShell_eq (redirections : List Redirection) (room : world.HasRoom 2) :
    ∃ number, world.stream? number = none ∧
      openInShell world redirections = (tryTargets world redirections).inShell number := by
  have unused (world : World) : world.stream? world.process.descriptors.lowestFree = none :=
    Descriptors.stream?_lowestFree _
  fun_induction tryTargets world redirections with
  | case1 world => exact ⟨_, unused world, rfl⟩
  | case2 world redirection rest isHeredoc ih =>
      rw [openInShell_heredoc isHeredoc]
      exact ih room
  | case3 world redirection rest isFile error failed =>
      have one : world.HasRoom 1 := room.mono rfl (by omega)
      rw [openInShell_failed one isFile failed]
      exact ⟨_, unused world, rfl⟩
  | case4 world redirection rest isFile opened done ih =>
      have one : world.HasRoom 1 := room.mono rfl (by omega)
      by_cases last : (redirection.operator.isOutput && isLastOutput rest) = true
      · rw [Bool.and_eq_true] at last
        exact ⟨_, unused world, openInShell_last room isFile done last.1 last.2⟩
      · obtain ⟨number, free, result⟩ := ih (hasRoom_tryTarget done room)
        rw [World.stream?, process_tryTarget done] at free
        refine ⟨number, free, ?_⟩
        rw [openInShell_idle one isFile done last, result, Trial.inShell_after]
        intro output succeeds
        apply output?_of_output rest _ succeeds
        rw [output, Bool.true_and] at last
        simpa using last

end InShell

/-! ## Targets in a stage -/

section InStage

variable {world : World}

def Trial.outcome (trial : Trial) : Except ShellError Unit :=
  match trial.failure? with
  | some error => .error error
  | none => .ok ()

/-- What a trial does to the numbers of a stage: standard error stays, and standard output is the
last output target, if there is one. -/
structure Trial.Wires (trial : Trial) (before after : Descriptors) : Prop where
  standard : after.Standard
  errors : after.stream? Descriptors.standardError = before.stream? Descriptors.standardError
  output : trial.failure? = none → after.stream? Descriptors.standardOutput =
    trial.output?.or (before.stream? Descriptors.standardOutput)

def Trial.Applied (trial : Trial) (before : Descriptors) (result : World × Except ShellError Unit) :
    Prop :=
  ∃ after, trial.Wires before after ∧
    result = (trial.world.mapDescriptors fun _ => after, trial.outcome)

theorem Trial.Applied.of_input {trial : Trial} {before middle : Descriptors}
    {change : Descriptors → Descriptors} {result : World × Except ShellError Unit}
    (applied : (trial.mapWorld (·.mapDescriptors change)).Applied middle result)
    (same : ∀ number, number ≠ Descriptors.standardInput → number < 3 →
      middle.stream? number = before.stream? number) : trial.Applied before result := by
  obtain ⟨after, wires, rfl⟩ := applied
  have errors := same Descriptors.standardError (by decide) (by decide)
  have output := same Descriptors.standardOutput (by decide) (by decide)
  refine ⟨after, ⟨wires.standard, ?_, ?_⟩, rfl⟩
  · rw [wires.errors, errors]
  · intro fine
    rw [wires.output fine, output]
    rfl

theorem Trial.Applied.after {trial : Trial} {before middle : Descriptors}
    {change : Descriptors → Descriptors} {result : World × Except ShellError Unit}
    {redirection : Redirection} {stream : Stream}
    (applied : (trial.mapWorld (·.mapDescriptors change)).Applied middle result)
    (errors : middle.stream? Descriptors.standardError = before.stream? Descriptors.standardError)
    (output : trial.failure? = none → trial.output? = none →
      middle.stream? Descriptors.standardOutput =
        if redirection.operator.isOutput then some stream
        else before.stream? Descriptors.standardOutput) :
    (trial.after ⟨redirection, .ok stream⟩).Applied before result := by
  obtain ⟨after, wires, rfl⟩ := applied
  refine ⟨after, ⟨wires.standard, ?_, ?_⟩, rfl⟩
  · rw [wires.errors, errors]
  · intro fine
    rw [failure?_after] at fine
    rw [output?_after, wires.output fine, output?_mapWorld]
    cases found : trial.output? with
    | some last => rfl
    | none =>
        rw [Option.none_or, output fine found, Option.none_or]
        split <;> rfl

theorem isInput_of_file {operator : RedirectOperator} (isFile : operator ≠ .heredoc) :
    operator.isInput = !operator.isOutput := by
  cases operator with
  | heredoc => exact absurd rfl isFile
  | _ => rfl

theorem standardStream_lt (operator : RedirectOperator) : operator.standardStream < 2 := by
  unfold RedirectOperator.standardStream
  split <;> decide

theorem stream?_redirect_output {descriptors : Descriptors} {operator : RedirectOperator}
    {number : Nat} (isFile : operator ≠ .heredoc) (large : 3 ≤ number) (stream : Stream) :
    (descriptors.redirect number stream operator.standardStream).stream?
        Descriptors.standardOutput =
      if operator.isOutput then some stream
      else descriptors.stream? Descriptors.standardOutput := by
  have input := isInput_of_file isFile
  cases output : operator.isOutput with
  | true =>
      have target : operator.standardStream = Descriptors.standardOutput := by
        simp [RedirectOperator.standardStream, input, output]
      rw [target, if_pos rfl]
      exact Descriptors.stream?_redirect _ stream (by simp [Descriptors.standardOutput]; omega)
  | false =>
      have target : operator.standardStream = Descriptors.standardInput := by
        simp [RedirectOperator.standardStream, input, output]
      rw [target, if_neg Bool.false_ne_true]
      exact Descriptors.stream?_redirect_of_ne _ stream
        (by simp [Descriptors.standardOutput]; omega) (by decide)

theorem Trial.Applied.of_redirected {trial : Trial} {before : Descriptors}
    {redirection : Redirection} {number : Nat} {stream : Stream}
    {result : World × Except ShellError Unit} (isFile : redirection.operator ≠ .heredoc)
    (large : 3 ≤ number)
    (applied : (trial.mapWorld (·.mapDescriptors
      (·.redirect number stream redirection.operator.standardStream))).Applied
        (before.redirect number stream redirection.operator.standardStream) result) :
    (trial.after ⟨redirection, .ok stream⟩).Applied before result := by
  have small := standardStream_lt redirection.operator
  refine applied.after ?_ fun _ _ => stream?_redirect_output isFile large stream
  exact Descriptors.stream?_redirect_of_ne _ stream
    (by simp only [Descriptors.standardError]; omega)
    (by simp only [Descriptors.standardError]; omega)

theorem Trial.Applied.of_idle {trial : Trial} {before : Descriptors} {redirection : Redirection}
    {stream : Stream} {result : World × Except ShellError Unit}
    (applied : trial.Applied before result)
    (idle : redirection.operator.isOutput = true → trial.failure? = none →
      trial.output?.isSome) :
    (trial.after ⟨redirection, .ok stream⟩).Applied before result := by
  have unchanged : (trial.mapWorld (·.mapDescriptors id)).Applied before result := applied
  refine unchanged.after rfl fun fine noOutput => ?_
  split
  · rename_i output
    have some_ := idle output fine
    rw [noOutput] at some_
    cases some_
  · rfl

theorem applyRedirections_last {opened : World} {redirection : Redirection}
    {rest : List Redirection} (heredocs : List HeredocPipe) (room : world.HasRoom 1)
    (isFile : redirection.operator ≠ .heredoc) (done : tryTarget world redirection = .ok opened)
    (last : redirection.operator.isLast rest = true) :
    applyRedirections world (redirection :: rest) heredocs =
      applyRedirections (opened.mapDescriptors
        (·.redirect opened.process.descriptors.lowestFree (.file world.openFiles.length)
          redirection.operator.standardStream)) rest heredocs := by
  conv_lhs => unfold applyRedirections
  rw [if_neg isFile, openTarget_eq room, done, process_tryTarget done]
  simp only [Except.map, if_pos last]
  rfl

theorem applyRedirections_idle {opened : World} {redirection : Redirection}
    {rest : List Redirection} (heredocs : List HeredocPipe) (room : world.HasRoom 1)
    (isFile : redirection.operator ≠ .heredoc) (done : tryTarget world redirection = .ok opened)
    (notLast : ¬ redirection.operator.isLast rest = true) :
    applyRedirections world (redirection :: rest) heredocs =
      applyRedirections opened rest heredocs := by
  have free : opened.stream? world.process.descriptors.lowestFree = none := by
    rw [World.stream?, process_tryTarget done]
    exact Descriptors.stream?_lowestFree _
  conv_lhs => unfold applyRedirections
  rw [if_neg isFile, openTarget_eq room, done]
  simp only [Except.map, if_neg notLast, close_placed free]

/-- A stage has its targets tried in order, whatever its here-documents are. -/
theorem applied_applyRedirections (redirections : List Redirection) (heredocs : List HeredocPipe)
    (room : world.HasRoom 1) (standard : world.process.descriptors.Standard) :
    (tryTargets world redirections).Applied world.process.descriptors
      (applyRedirections world redirections heredocs) := by
  -- The numbers change on the way, so the induction is over the targets for every world.
  induction redirections generalizing world heredocs with
  | nil => exact ⟨_, ⟨standard, rfl, fun _ => rfl⟩, rfl⟩
  | cons redirection rest ih =>
      by_cases isHeredoc : redirection.operator = .heredoc
      · rw [tryTargets_heredoc isHeredoc]
        unfold applyRedirections
        rw [if_pos isHeredoc]
        cases heredocs with
        | nil => exact ih [] room standard
        | cons pipe pipes =>
            simp only
            split
            · -- The here-document becomes standard input, which no target depends on.
              have used := standard Descriptors.standardInput (by decide)
              have shorter := Descriptors.length_duplicate_of_used _ pipe.reader _ used
              have applied := @ih (world.duplicate pipe.reader Descriptors.standardInput) pipes
                (room.mono rfl (Nat.add_le_add_right shorter 1)) (standard.duplicate _ _)
              rw [World.duplicate, tryTargets_mapDescriptors] at applied
              refine applied.of_input fun number other _ => ?_
              exact Descriptors.stream?_duplicate_of_ne _ _ other
            · exact ih pipes room standard
      · cases tried : tryTarget world redirection with
        | error error =>
            rw [tryTargets_failed isHeredoc tried]
            unfold applyRedirections
            rw [if_neg isHeredoc, openTarget_eq room, tried]
            exact ⟨_, ⟨standard, rfl, fun fine => by cases fine⟩, rfl⟩
        | ok opened =>
            have roomLeft := hasRoom_tryTarget tried room
            rw [tryTargets_opened isHeredoc tried]
            rw [← process_tryTarget tried] at standard ⊢
            by_cases last : redirection.operator.isLast rest = true
            · rw [applyRedirections_last heredocs room isHeredoc tried last]
              have unused := Descriptors.stream?_lowestFree opened.process.descriptors
              have large := standard.three_le_of_free unused
              have small := standardStream_lt redirection.operator
              have shorter := Descriptors.length_redirect_le _ (.file world.openFiles.length)
                unused (standard _ (Nat.lt_succ_of_lt small))
              have applied := @ih (opened.mapDescriptors
                (·.redirect opened.process.descriptors.lowestFree _ _)) heredocs
                (roomLeft.mono rfl (Nat.add_le_add_right shorter 1))
                (standard.redirect _ _ large)
              rw [tryTargets_mapDescriptors] at applied
              exact applied.of_redirected isHeredoc large
            · rw [applyRedirections_idle heredocs room isHeredoc tried last]
              refine (ih heredocs roomLeft standard).of_idle fun output fine => ?_
              have input := isInput_of_file isHeredoc
              apply output?_of_output rest _ fine
              simpa [RedirectOperator.isLast, input, output] using last

end InStage

/-! ## Targets in a pipeline -/

section InPipeline

variable {world : World} {plumbing : Plumbing}

theorem Plumbing.connect_last {index : Nat} (last : plumbing.pipes[index]? = none)
    (standard : world.process.descriptors.Standard) :
    ∃ change : Descriptors → Descriptors,
      plumbing.connect index world = world.mapDescriptors change ∧
      (change world.process.descriptors).Standard ∧
      (change world.process.descriptors).slots.length ≤ world.process.descriptors.slots.length ∧
      ∀ number, number ≠ Descriptors.standardInput →
        (change world.process.descriptors).stream? number = world.stream? number := by
  have nothing : world = world.mapDescriptors id := rfl
  unfold connect
  simp only [last]
  cases index with
  | zero => exact ⟨id, nothing, standard, Nat.le_refl _, fun _ _ => rfl⟩
  | succ before =>
      simp only
      split
      · rename_i reader _ _
        exact ⟨_, rfl, standard.duplicate _ _,
          Descriptors.length_duplicate_of_used _ reader _ (standard _ (by decide)),
          fun number other => Descriptors.stream?_duplicate_of_ne _ _ other⟩
      · exact ⟨id, nothing, standard, Nat.le_refl _, fun _ _ => rfl⟩

theorem Trial.Wires.closeAll {trial : Trial} {before after : Descriptors} {numbers : List Nat}
    (wires : trial.Wires before after) (large : ∀ number ∈ numbers, 3 ≤ number) :
    trial.Wires before (after.closeAll numbers) := by
  have same := after.sameStandard_closeAll large
  refine ⟨wires.standard.of_same same, ?_, ?_⟩
  · rw [same _ (by decide), wires.errors]
  · intro fine
    rw [same _ (by decide), wires.output fine]

/-- The last stage of a pipeline has its targets tried in order. -/
theorem Plumbing.applied_wireStage {index : Nat} (last : plumbing.pipes[index]? = none)
    (large : ∀ number ∈ plumbing.numbers, 3 ≤ number) (room : world.HasRoom 1)
    (standard : world.process.descriptors.Standard) (command : Command) :
    (tryTargets world command.redirections).Applied world.process.descriptors
      (plumbing.wireStage index command world) := by
  obtain ⟨change, connected, standardToo, shorter, same⟩ := connect_last last standard
  have roomLeft : (world.mapDescriptors change).HasRoom 1 :=
    room.mono rfl (Nat.add_le_add_right shorter 1)
  have applied := applied_applyRedirections command.redirections (plumbing.heredocs.getD index [])
    roomLeft standardToo
  rw [tryTargets_mapDescriptors] at applied
  obtain ⟨after, wires, result⟩ := applied.of_input fun number other _ => same number other
  simp only [wireStage, connected, result, Trial.Applied, Trial.outcome]
  cases (tryTargets world command.redirections).failure? with
  | some error => exact ⟨after, wires, rfl⟩
  | none => exact ⟨_, wires.closeAll large, rfl⟩

end InPipeline

end PipeShell
