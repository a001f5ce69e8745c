import PipeShell.Proofs.System.Processes
import PipeShell.Redirect

/-!
# Trying the targets of redirections

Which files redirections open, in which order and up to which failure, is described here without
any numbers. Main statements: a builtin in the shell and a stage in its own process both try the
targets in this way, and the last output target that was opened is where output goes.
-/

namespace PipeShell

/-! ## What is tried -/

def World.withOpenFile (world : World) (files : FileTree) (file : OpenFile) : World :=
  { world with files, openFiles := world.openFiles ++ [file] }

def World.openFile (world : World) (mode : OpenMode) (path : String) : Except Errno World :=
  match world.files.walkPath world.process.directory (OpenMode.aim mode) path with
  | .error errno => .error errno
  | .ok reached =>
    match prepareFile world.files mode reached with
    | .error errno => .error errno
    | .ok (files, place) => .ok (world.withOpenFile files { home := .named place, mode })

def tryTarget (world : World) (redirection : Redirection) : Except ShellError World :=
  match redirection.path with
  | .error error => .error error
  | .ok path =>
    match redirection.operator.openMode? with
    | none => .error (.redirection path "here-document has no target file")
    | some mode =>
      match checkPath path with
      | .error failure => .error (.ofFailure path failure)
      | .ok () => (world.openFile mode path).mapError fun errno => .ofFailure path (.system errno)

/-- A target that was tried: what it was opened as, or why it was not. -/
structure Attempt where
  redirection : Redirection
  outcome : Except ShellError Stream

def Attempt.failure? (attempt : Attempt) : Option ShellError :=
  match attempt.outcome with
  | .ok _ => none
  | .error error => some error

def Attempt.output? (attempt : Attempt) : Option Stream :=
  match attempt.outcome with
  | .ok stream => if attempt.redirection.operator.isOutput then some stream else none
  | .error _ => none

/-- The targets that were tried, in order, and the world afterwards. -/
structure Trial where
  world : World
  attempts : List Attempt := []

namespace Trial

def after (attempt : Attempt) (trial : Trial) : Trial :=
  { trial with attempts := attempt :: trial.attempts }

def failure? (trial : Trial) : Option ShellError :=
  trial.attempts.findSome? Attempt.failure?

def output? (trial : Trial) : Option Stream :=
  (trial.attempts.filterMap Attempt.output?).getLast?

def mapWorld (trial : Trial) (change : World → World) : Trial :=
  { trial with world := change trial.world }

variable (trial : Trial) (change : World → World)

@[simp]
theorem world_mapWorld : (trial.mapWorld change).world = change trial.world := rfl

@[simp]
theorem failure?_mapWorld : (trial.mapWorld change).failure? = trial.failure? := rfl

@[simp]
theorem output?_mapWorld : (trial.mapWorld change).output? = trial.output? := rfl

end Trial

/-- Tries the targets in order, up to the first that cannot be opened. -/
def tryTargets (world : World) : List Redirection → Trial
  | [] => { world }
  | redirection :: rest =>
    if redirection.operator = .heredoc then tryTargets world rest
    else
      match tryTarget world redirection with
      | .error error => { world, attempts := [⟨redirection, .error error⟩] }
      | .ok opened =>
        (tryTargets opened rest).after ⟨redirection, .ok (.file world.openFiles.length)⟩

/-! ## Facts about trials -/

section Trials

variable {world opened : World} {redirection : Redirection} {rest : List Redirection}

theorem tryTargets_heredoc (isHeredoc : redirection.operator = .heredoc) :
    tryTargets world (redirection :: rest) = tryTargets world rest := by
  rw [tryTargets, if_pos isHeredoc]

theorem tryTargets_failed {error : ShellError} (isFile : redirection.operator ≠ .heredoc)
    (failed : tryTarget world redirection = .error error) :
    tryTargets world (redirection :: rest) =
      { world, attempts := [⟨redirection, .error error⟩] } := by
  rw [tryTargets, if_neg isFile, failed]

theorem tryTargets_opened (isFile : redirection.operator ≠ .heredoc)
    (done : tryTarget world redirection = .ok opened) :
    tryTargets world (redirection :: rest) =
      (tryTargets opened rest).after ⟨redirection, .ok (.file world.openFiles.length)⟩ := by
  rw [tryTargets, if_neg isFile, done]

theorem Trial.failure?_after (trial : Trial) (stream : Stream) :
    (trial.after ⟨redirection, .ok stream⟩).failure? = trial.failure? :=
  rfl

theorem Trial.output?_after (trial : Trial) (stream : Stream) :
    (trial.after ⟨redirection, .ok stream⟩).output? =
      trial.output?.or (if redirection.operator.isOutput then some stream else none) := by
  unfold output? after
  cases output : redirection.operator.isOutput with
  | true =>
      simp only [List.filterMap_cons, Attempt.output?, output, ↓reduceIte, List.getLast?_cons]
      cases (trial.attempts.filterMap Attempt.output?).getLast? <;> rfl
  | false => simp [Attempt.output?, output]

theorem isLastOutput_cons (redirection : Redirection) (rest : List Redirection) :
    isLastOutput (redirection :: rest) =
      (!redirection.operator.isOutput && isLastOutput rest) := by
  simp [isLastOutput]

theorem output?_of_inputs (redirections : List Redirection)
    (inputs : isLastOutput redirections = true) :
    (tryTargets world redirections).output? = none := by
  fun_induction tryTargets world redirections with
  | case1 => rfl
  | case2 world redirection rest isHeredoc ih =>
      rw [isLastOutput_cons, Bool.and_eq_true] at inputs
      exact ih inputs.2
  | case3 => rfl
  | case4 world redirection rest isFile opened done ih =>
      rw [isLastOutput_cons, Bool.and_eq_true, Bool.not_eq_true'] at inputs
      rw [Trial.output?_after, ih inputs.2, inputs.1]
      rfl

theorem output?_of_output (redirections : List Redirection)
    (output : isLastOutput redirections = false)
    (succeeds : (tryTargets world redirections).failure? = none) :
    (tryTargets world redirections).output?.isSome := by
  fun_induction tryTargets world redirections with
  | case1 => cases output
  | case2 world redirection rest isHeredoc ih =>
      have later : isLastOutput rest = false := by
        simpa [isLastOutput_cons, isHeredoc, RedirectOperator.isOutput] using output
      exact ih later succeeds
  | case3 => cases succeeds
  | case4 world redirection rest isFile opened done ih =>
      rw [isLastOutput_cons] at output
      rw [Trial.failure?_after] at succeeds
      rw [Trial.output?_after, Option.isSome_or]
      cases later : isLastOutput rest with
      | false => rw [ih later succeeds, Bool.true_or]
      | true =>
          have here : redirection.operator.isOutput = true := by simpa [later] using output
          rw [if_pos here, Option.isSome_some, Bool.or_true]

/-- The targets were tried as they are written: all of them, or those up to the first failure. -/
def Trial.Follows (trial : Trial) (targets : List Redirection) : Prop :=
  (trial.failure? = none ∧ trial.attempts.map Attempt.redirection = targets) ∨
    ∃ opened failed error skipped,
      trial.attempts = opened ++ [⟨failed, .error error⟩] ∧
      (∀ attempt ∈ opened, attempt.failure? = none) ∧
      targets = opened.map Attempt.redirection ++ failed :: skipped

theorem follows_tryTargets (world : World) (redirections : List Redirection) :
    (tryTargets world redirections).Follows (redirections.filter (·.operator ≠ .heredoc)) := by
  fun_induction tryTargets world redirections with
  | case1 => exact .inl ⟨rfl, rfl⟩
  | case2 world redirection rest isHeredoc ih =>
      rw [List.filter_cons_of_neg (by simp [isHeredoc])]
      exact ih
  | case3 world redirection rest isFile error failed =>
      rw [List.filter_cons_of_pos (by simp [isFile])]
      exact .inr ⟨[], redirection, error, _, rfl, by simp, rfl⟩
  | case4 world redirection rest isFile opened done ih =>
      rw [List.filter_cons_of_pos (by simp [isFile])]
      rcases ih with ⟨succeeds, all⟩ | ⟨before, failed, error, skipped, stop, fine, cut⟩
      · exact .inl ⟨succeeds, congrArg (redirection :: ·) all⟩
      · refine .inr ⟨⟨redirection, .ok (.file world.openFiles.length)⟩ :: before, failed, error,
          skipped, ?_, ?_, ?_⟩
        · rw [Trial.after, stop, List.cons_append]
        · exact List.forall_mem_cons.mpr ⟨rfl, fine⟩
        · rw [cut, List.map_cons, List.cons_append]

end Trials

/-! ## Trials in another process -/

section Processes

variable {world : World} {process : Process}

theorem openFile_inProcess (same : process.directory = world.process.directory) (mode : OpenMode)
    (path : String) :
    (world.inProcess process).openFile mode path =
      (world.openFile mode path).map (·.inProcess process) := by
  simp only [World.openFile, World.files_inProcess, World.process_inProcess, same]
  split
  · rfl
  · split <;> rfl

theorem tryTarget_inProcess (same : process.directory = world.process.directory)
    (redirection : Redirection) :
    tryTarget (world.inProcess process) redirection =
      (tryTarget world redirection).map (·.inProcess process) := by
  unfold tryTarget
  split
  · rfl
  · split
    · rfl
    · split
      · rfl
      · rw [openFile_inProcess same]
        cases world.openFile _ _ <;> rfl

theorem World.openFile_ok {opened : World} {mode : OpenMode} {path : String}
    (done : world.openFile mode path = .ok opened) :
    ∃ files place, opened = world.withOpenFile files { home := .named place, mode } := by
  unfold World.openFile at done
  split at done
  · cases done
  · split at done
    · cases done
    · exact ⟨_, _, (Except.ok.inj done).symm⟩

theorem tryTarget_ok {opened : World} {redirection : Redirection}
    (done : tryTarget world redirection = .ok opened) :
    ∃ files file, opened = world.withOpenFile files file := by
  unfold tryTarget at done
  split at done
  · cases done
  · split at done
    · cases done
    · split at done
      · cases done
      · cases tried : world.openFile _ _ with
        | error errno =>
            rw [tried] at done
            cases done
        | ok last =>
            rw [tried] at done
            obtain ⟨files, place, shape⟩ := World.openFile_ok tried
            exact ⟨files, _, (Except.ok.inj done).symm.trans shape⟩

theorem process_tryTarget {opened : World} {redirection : Redirection}
    (done : tryTarget world redirection = .ok opened) : opened.process = world.process := by
  obtain ⟨files, file, rfl⟩ := tryTarget_ok done
  rfl

theorem hasRoom_tryTarget {opened : World} {redirection : Redirection} {count : Nat}
    (done : tryTarget world redirection = .ok opened) (room : world.HasRoom count) :
    opened.HasRoom count := by
  obtain ⟨files, file, rfl⟩ := tryTarget_ok done
  exact room

/-- The same targets are tried in every process that is in the same directory. -/
theorem tryTargets_inProcess (world : World)
    (same : process.directory = world.process.directory) (redirections : List Redirection) :
    tryTargets (world.inProcess process) redirections =
      (tryTargets world redirections).mapWorld (·.inProcess process) := by
  fun_induction tryTargets world redirections with
  | case1 => rfl
  | case2 world redirection rest isHeredoc ih => rw [tryTargets_heredoc isHeredoc, ih same]
  | case3 world redirection rest isFile error failed =>
      have moved := tryTarget_inProcess same redirection
      rw [failed] at moved
      rw [tryTargets_failed isFile moved]
      rfl
  | case4 world redirection rest isFile opened done ih =>
      have moved := tryTarget_inProcess same redirection
      rw [done] at moved
      rw [tryTargets_opened isFile moved, ih (by rw [process_tryTarget done, same])]
      rfl

@[simp]
theorem process_tryTargets (world : World) (redirections : List Redirection) :
    (tryTargets world redirections).world.process = world.process := by
  -- The trial can be moved into the process that is there already.
  have again := tryTargets_inProcess world rfl redirections
  rw [World.inProcess_self] at again
  rw [again]
  rfl

theorem tryTargets_mapDescriptors (world : World) (change : Descriptors → Descriptors)
    (redirections : List Redirection) :
    tryTargets (world.mapDescriptors change) redirections =
      (tryTargets world redirections).mapWorld (·.mapDescriptors change) := by
  rw [World.mapDescriptors_eq, tryTargets_inProcess _ (Process.directory_withDescriptors _ _)]
  simp only [Trial.mapWorld, World.mapDescriptors_eq, process_tryTargets]

end Processes

/-! ## Opening targets -/

section Opening

variable {world : World}

/-- With room for it, a file is opened at the lowest free number. -/
theorem openPlace_eq (room : world.HasRoom 1) (mode : OpenMode) (path : String) :
    world.openPlace mode path =
      (world.openFile mode path).map fun opened =>
        (opened.mapDescriptors
          (·.place world.process.descriptors.lowestFree (.file world.openFiles.length)),
          world.process.descriptors.lowestFree) := by
  simp only [World.openPlace, World.openStream_eq room, World.openFile, bind, Except.bind, pure,
    Except.pure]
  cases world.files.walkPath world.process.directory (World.OpenMode.aim mode) path with
  | error errno => rfl
  | ok reached =>
      simp only
      cases World.prepareFile world.files mode reached <;> rfl

theorem openTarget_eq (room : world.HasRoom 1) (redirection : Redirection) :
    openTarget world redirection =
      (tryTarget world redirection).map fun opened =>
        (opened.mapDescriptors
          (·.place world.process.descriptors.lowestFree (.file world.openFiles.length)),
          world.process.descriptors.lowestFree) := by
  unfold openTarget tryTarget
  cases redirection.path with
  | error error => rfl
  | ok path =>
      cases redirection.operator.openMode? with
      | none => rfl
      | some mode =>
          simp only [World.openPath]
          cases checkPath path with
          | error failure => rfl
          | ok _ =>
              simp only [openPlace_eq room]
              cases world.openFile mode path <;> rfl

theorem close_placed {number : Nat} (free : world.stream? number = none) (stream : Stream) :
    (world.mapDescriptors (·.place number stream)).close number = world := by
  simp only [World.close, World.mapDescriptors_eq, World.process_inProcess,
    World.inProcess_inProcess, Process.descriptors_withDescriptors,
    Process.withDescriptors_withDescriptors, Descriptors.close_place _ number stream free]
  rfl

end Opening

end PipeShell
