import PipeShell.Proofs.Run.Pipes
import PipeShell.Proofs.Run.Wiring

/-!
# What redirections leave of a stage's numbers

Of all redirections of a stage, only the last one of each direction counts. Main statement: if they
could all be applied, the standard input is the last input target or the pipe of that here-document,
the standard output is the last output target, and no other number was touched.
-/

namespace PipeShell

/-! ## Opening a target -/

theorem openPlace_ok {world opened : World} {mode : OpenMode} {path : String} {number : Nat}
    (done : world.openPlace mode path = .ok (opened, number)) :
    world.stream? number = none ∧ ∃ tried, world.openFile mode path = .ok tried ∧
      opened = tried.mapDescriptors (·.place number (.file world.openFiles.length)) := by
  obtain ⟨⟨placed, found⟩, first, done⟩ := exists_of_bind_ok done
  obtain ⟨reached, walked, done⟩ := exists_of_bind_ok done
  obtain ⟨⟨files, place⟩, prepared, done⟩ := exists_of_bind_ok done
  cases done
  obtain ⟨free, rfl⟩ := World.openStream_ok first
  refine ⟨free, world.withOpenFile files { home := .named place, mode }, ?_, rfl⟩
  simp only [World.openFile, walked, prepared]

/-- A target that could be opened is open at a number that stood for nothing. -/
theorem openTarget_ok {world opened : World} {redirection : Redirection} {number : Nat}
    (done : openTarget world redirection = .ok (opened, number)) :
    world.stream? number = none ∧ ∃ tried, tryTarget world redirection = .ok tried ∧
      opened = tried.mapDescriptors (·.place number (.file world.openFiles.length)) := by
  unfold openTarget at done
  unfold tryTarget
  cases path : redirection.path with
  | error error =>
      rw [path] at done
      cases done
  | ok target =>
      cases mode : redirection.operator.openMode? with
      | none =>
          rw [path, mode] at done
          cases done
      | some opening =>
          rw [path, mode] at done
          have opens := of_mapError_ok done
          unfold World.openPath at opens
          split at opens
          · cases opens
          · rename_i checked
            obtain ⟨free, tried, found, same⟩ := openPlace_ok (of_mapError_ok opens)
            refine ⟨free, tried, ?_, same⟩
            simp only [checked, found]
            rfl

/-! ## The last of a direction -/

theorem isLastInput_iff (later : List Redirection) :
    isLastInput later = true ↔
      ∀ redirection ∈ later, redirection.operator.standardStream ≠ Descriptors.standardInput := by
  simp only [isLastInput, Bool.not_eq_true', List.any_eq_false]
  refine forall₂_congr fun redirection _ => ?_
  cases redirection.operator <;> decide

theorem isLastOutput_iff (later : List Redirection) :
    isLastOutput later = true ↔
      ∀ redirection ∈ later, redirection.operator.standardStream ≠ Descriptors.standardOutput := by
  simp only [isLastOutput, Bool.not_eq_true', List.any_eq_false]
  refine forall₂_congr fun redirection _ => ?_
  cases redirection.operator <;> decide

theorem isLast_iff (operator : RedirectOperator) (later : List Redirection) :
    operator.isLast later = true ↔
      ∀ redirection ∈ later, redirection.operator.standardStream ≠ operator.standardStream := by
  cases operator with
  | input => exact isLastInput_iff later
  | heredoc => exact isLastInput_iff later
  | output => exact isLastOutput_iff later
  | append => exact isLastOutput_iff later

/-! ## Redirections one after another -/

/-- The target was opened after those of the redirections before it, and `stream?` is the file it
was opened as. -/
structure Redirection.OpenedAs (last : Redirection) (world wired : World)
    (before : List Redirection) (stream? : Option Stream) : Prop where
  others : (tryTargets world before).failure? = none
  target : ∃ opened, tryTarget (tryTargets world before).world last = .ok opened ∧
    opened.openFiles <+: wired.openFiles
  stream : stream? = some (.file (tryTargets world before).world.openFiles.length)

def countHeredocs (redirections : List Redirection) : Nat :=
  (redirections.filter (·.operator = .heredoc)).length

/-- What redirections leave of the numbers of a process. Only the last redirection for a standard
stream counts, and only the standard streams are replaced. -/
structure Rewired (world wired : World) (redirections : List Redirection)
    (heredocs : List HeredocPipe) : Prop where
  files : world.openFiles <+: wired.openFiles
  others : ∀ number, 2 ≤ number → wired.stream? number = world.stream? number
  kept : ∀ number < 2,
    (∀ redirection ∈ redirections, redirection.operator.standardStream ≠ number) →
      wired.stream? number = world.stream? number
  opened : ∀ before last after, redirections = before ++ last :: after →
    last.operator.isLast after = true → last.operator ≠ .heredoc →
      last.OpenedAs world wired before (wired.stream? last.operator.standardStream)
  fed : ∀ before last after pipe, redirections = before ++ last :: after →
    last.operator.isLast after = true → last.operator = .heredoc →
      heredocs[countHeredocs before]? = some pipe →
        wired.stream? Descriptors.standardInput = world.stream? pipe.reader

namespace Rewired

variable {world reached wired : World} {redirection : Redirection} {rest : List Redirection}
  {heredocs later : List HeredocPipe}

theorem refl (world : World) (heredocs : List HeredocPipe) : Rewired world world [] heredocs where
  files := List.prefix_refl _
  others := fun _ _ => rfl
  kept := fun _ _ _ => rfl
  opened := by simp
  fed := by simp

/-- One redirection before others. What is tried later does not depend on it, other numbers and the
other standard stream are left alone, and it has its own effect if it is the last of its kind. -/
theorem cons (rewired : Rewired reached wired rest later)
    (files : world.openFiles <+: reached.openFiles)
    (others : ∀ number, number ≠ redirection.operator.standardStream →
      reached.stream? number = world.stream? number)
    (tried : ∀ before (last : Redirection) stream?, last.OpenedAs reached wired before stream? →
      last.OpenedAs world wired (redirection :: before) stream?)
    (opened : redirection.operator ≠ .heredoc → redirection.operator.isLast rest = true →
      redirection.OpenedAs world wired []
        (reached.stream? redirection.operator.standardStream))
    (fed : redirection.operator = .heredoc → redirection.operator.isLast rest = true →
      ∀ pipe, heredocs[0]? = some pipe →
        reached.stream? Descriptors.standardInput = world.stream? pipe.reader)
    (pipes : ∀ before, heredocs[countHeredocs (redirection :: before)]? =
      later[countHeredocs before]?)
    (large : ∀ pipe ∈ later, 3 ≤ pipe.reader) :
    Rewired world wired (redirection :: rest) heredocs := by
  have small := standardStream_lt redirection.operator
  refine ⟨files.trans rewired.files, ?_, ?_, ?_, ?_⟩
  · intro number high
    rw [rewired.others number high, others number (by omega)]
  · intro number low unused
    obtain ⟨here, below⟩ := List.forall_mem_cons.mp unused
    rw [rewired.kept number low below, others number here.symm]
  · intro before last after split isLast isFile
    -- The last one is this redirection or one of the others, and then this one has no effect.
    rcases List.cons_eq_append_iff.mp split with ⟨rfl, same⟩ | ⟨front, rfl, below⟩
    · cases same
      rw [rewired.kept _ small ((isLast_iff _ _).mp isLast)]
      exact opened isFile isLast
    · exact tried front last _ (rewired.opened front last after below isLast isFile)
  · intro before last after pipe split isLast isHeredoc found
    rcases List.cons_eq_append_iff.mp split with ⟨rfl, same⟩ | ⟨front, rfl, below⟩
    · cases same
      have input : redirection.operator.standardStream = Descriptors.standardInput := by
        rw [isHeredoc]
        rfl
      rw [rewired.kept _ (by decide) (input ▸ (isLast_iff _ _).mp isLast)]
      exact fed isHeredoc isLast pipe found
    · rw [pipes front] at found
      have high := large pipe (List.mem_of_getElem? found)
      rw [rewired.fed front last after pipe below isLast isHeredoc found,
        others pipe.reader (by omega)]

end Rewired

/-! ## Steps -/

namespace Redirection.OpenedAs

variable {world tried wired : World} {redirection last : Redirection}
  {before : List Redirection} {stream? : Option Stream}

theorem of_mapDescriptors {change : Descriptors → Descriptors}
    (opened : last.OpenedAs (world.mapDescriptors change) wired before stream?) :
    last.OpenedAs world wired before stream? := by
  obtain ⟨others, ⟨after, target, grown⟩, stream⟩ := opened
  rw [tryTargets_mapDescriptors] at others target stream
  rw [Trial.world_mapWorld, World.mapDescriptors_eq,
    tryTarget_inProcess (Process.directory_withDescriptors _ _)] at target
  refine ⟨others, ?_, stream⟩
  cases found : tryTarget (tryTargets world before).world last with
  | error error =>
      rw [found] at target
      cases target
  | ok opened =>
      rw [found] at target
      cases target
      exact ⟨opened, rfl, grown⟩

theorem after_heredoc (isHeredoc : redirection.operator = .heredoc)
    (opened : last.OpenedAs world wired before stream?) :
    last.OpenedAs world wired (redirection :: before) stream? := by
  obtain ⟨others, target, stream⟩ := opened
  rw [← tryTargets_heredoc isHeredoc] at others target stream
  exact ⟨others, target, stream⟩

theorem after_target (isFile : redirection.operator ≠ .heredoc)
    (done : tryTarget world redirection = .ok tried)
    (opened : last.OpenedAs tried wired before stream?) :
    last.OpenedAs world wired (redirection :: before) stream? := by
  obtain ⟨others, target, stream⟩ := opened
  have all : tryTargets world (redirection :: before) = (tryTargets tried before).after _ :=
    tryTargets_opened isFile done
  refine ⟨?_, ?_, ?_⟩ <;> rw [all] <;> assumption

end Redirection.OpenedAs

theorem countHeredocs_cons (redirection : Redirection) (rest : List Redirection) :
    countHeredocs (redirection :: rest) =
      countHeredocs rest + if redirection.operator = .heredoc then 1 else 0 := by
  unfold countHeredocs
  rw [List.filter_cons]
  by_cases isHeredoc : redirection.operator = .heredoc <;> simp [isHeredoc]

namespace Rewired

variable {world tried wired : World} {redirection : Redirection} {rest : List Redirection}
  {heredocs : List HeredocPipe}

theorem cons_heredoc {pipe : HeredocPipe} (isHeredoc : redirection.operator = .heredoc)
    (used : (world.stream? pipe.reader).isSome) (large : ∀ later ∈ heredocs, 3 ≤ later.reader)
    (rewired : Rewired (if isLastInput rest then
      world.duplicate pipe.reader Descriptors.standardInput else world) wired rest heredocs) :
    Rewired world wired (redirection :: rest) (pipe :: heredocs) := by
  have input : redirection.operator.standardStream = Descriptors.standardInput := by
    rw [isHeredoc]
    rfl
  have pipes (before : List Redirection) :
      (pipe :: heredocs)[countHeredocs (redirection :: before)]? =
        heredocs[countHeredocs before]? := by
    rw [countHeredocs_cons, if_pos isHeredoc, List.getElem?_cons_succ]
  by_cases last : isLastInput rest = true
  · rw [if_pos last] at rewired
    have files : world.openFiles <+:
        (world.duplicate pipe.reader Descriptors.standardInput).openFiles := List.prefix_refl _
    apply rewired.cons files ?_ ?_ (absurd isHeredoc) ?_ pipes large
    · intro number other
      exact Descriptors.stream?_duplicate_of_ne _ _ (input ▸ other)
    · intro before later stream? opened
      exact .after_heredoc isHeredoc opened.of_mapDescriptors
    · rintro _ _ _ ⟨⟩
      obtain ⟨stream, found⟩ := Option.isSome_iff_exists.mp used
      rw [found]
      exact Descriptors.stream?_duplicate _ _ found
  · rw [if_neg last] at rewired
    apply rewired.cons (List.prefix_refl _) (fun _ _ => rfl) ?_ (absurd isHeredoc) ?_ pipes large
    · intro before later stream? opened
      exact .after_heredoc isHeredoc opened
    · intro _ isLast
      rw [isHeredoc] at isLast
      exact absurd isLast last

theorem cons_unpiped (isHeredoc : redirection.operator = .heredoc)
    (rewired : Rewired world wired rest []) : Rewired world wired (redirection :: rest) [] := by
  apply rewired.cons (List.prefix_refl _) (fun _ _ => rfl) ?_ (absurd isHeredoc) ?_ ?_ ?_
  · intro before later stream? opened
    exact .after_heredoc isHeredoc opened
  · rintro _ _ pipe ⟨⟩
  · intro before
    rfl
  · simp

theorem cons_target {number : Nat} (isFile : redirection.operator ≠ .heredoc)
    (done : tryTarget world redirection = .ok tried)
    (standard : world.process.descriptors.Standard) (free : world.stream? number = none)
    (large : ∀ pipe ∈ heredocs, 3 ≤ pipe.reader)
    (rewired : Rewired (if redirection.operator.isLast rest then
      tried.mapDescriptors (·.redirect number (.file world.openFiles.length)
        redirection.operator.standardStream) else tried) wired rest heredocs) :
    Rewired world wired (redirection :: rest) heredocs := by
  have small := standardStream_lt redirection.operator
  have high := standard.three_le_of_free free
  have process := process_tryTarget done
  have files : world.openFiles <+: tried.openFiles := by
    obtain ⟨_, _, rfl⟩ := tryTarget_ok done
    exact List.prefix_append _ _
  have pipes (before : List Redirection) :
      heredocs[countHeredocs (redirection :: before)]? = heredocs[countHeredocs before]? := by
    rw [countHeredocs_cons, if_neg isFile, Nat.add_zero]
  by_cases last : redirection.operator.isLast rest = true
  · rw [if_pos last] at rewired
    have grown := rewired.files
    apply rewired.cons files ?_ ?_ ?_ (fun isHeredoc => absurd isHeredoc isFile) pipes large
    · intro other different
      rw [World.stream?, World.stream?, ← process]
      -- The number that the file was opened at stands for nothing before and after.
      by_cases same : other = number
      · rw [World.stream?, ← process] at free
        rw [same, free]
        exact Descriptors.stream?_redirect_self _ _ _ _
      · exact Descriptors.stream?_redirect_of_ne _ _ same different
    · intro before later stream? opened
      exact opened.of_mapDescriptors.after_target isFile done
    · intro _ _
      refine ⟨rfl, ⟨tried, done, grown⟩, ?_⟩
      exact Descriptors.stream?_redirect _ _ (by omega)
  · rw [if_neg last] at rewired
    apply rewired.cons files ?_ ?_ (fun _ isLast => absurd isLast last)
      (fun isHeredoc => absurd isHeredoc isFile) pipes large
    · intro other _
      rw [World.stream?, process]
      rfl
    · intro before later stream? opened
      exact opened.after_target isFile done

end Rewired

theorem close_target {world : World} {number : Nat} (free : world.stream? number = none)
    (stream : Stream) (target : Nat) (last : Bool) :
    (if last then (world.mapDescriptors (·.place number stream)).duplicate number target
      else world.mapDescriptors (·.place number stream)).close number =
      if last then world.mapDescriptors (·.redirect number stream target) else world := by
  cases last with
  | true => rfl
  | false => exact close_placed free stream

/-- A process in which redirections with these pipes can be applied: its standard streams are open,
and the pipes are known by other numbers. -/
structure World.Ready (world : World) (heredocs : List HeredocPipe) : Prop where
  standard : world.process.descriptors.Standard
  used : ∀ pipe ∈ heredocs, 3 ≤ pipe.reader ∧ (world.stream? pipe.reader).isSome

namespace World.Ready

variable {world other : World} {heredocs : List HeredocPipe}

theorem large (ready : world.Ready heredocs) : ∀ pipe ∈ heredocs, 3 ≤ pipe.reader :=
  fun pipe member => (ready.used pipe member).1

theorem of_process (ready : world.Ready heredocs) (same : other.process = world.process) :
    other.Ready heredocs := by
  constructor
  · rw [same]
    exact ready.standard
  · intro pipe member
    rw [stream?, same]
    exact ready.used pipe member

theorem duplicate (ready : world.Ready heredocs) (source : Nat) :
    (world.duplicate source Descriptors.standardInput).Ready heredocs := by
  constructor
  · exact ready.standard.duplicate _ _
  · intro pipe member
    obtain ⟨large, isOpen⟩ := ready.used pipe member
    have kept := Descriptors.stream?_duplicate_of_ne world.process.descriptors source
      (Descriptors.ne_standardInput (by omega : 2 ≤ pipe.reader))
    exact ⟨large, (congrArg Option.isSome kept).trans isOpen⟩

theorem redirect (ready : world.Ready heredocs) {number target : Nat} (stream : Stream)
    (free : world.stream? number = none) (small : target < 2) :
    (world.mapDescriptors (·.redirect number stream target)).Ready heredocs := by
  constructor
  · exact ready.standard.redirect _ _ (ready.standard.three_le_of_free free)
  · intro pipe member
    obtain ⟨large, isOpen⟩ := ready.used pipe member
    have fresh : pipe.reader ≠ number := by
      rintro rfl
      exact absurd free (Option.isSome_iff_ne_none.mp isOpen)
    have kept := Descriptors.stream?_redirect_of_ne world.process.descriptors stream fresh
      (by omega : pipe.reader ≠ target)
    exact ⟨large, (congrArg Option.isSome kept).trans isOpen⟩

end World.Ready

/-- Redirections that could all be applied leave a process rewired. -/
theorem rewired_applyRedirections {world wired : World} {redirections : List Redirection}
    {heredocs : List HeredocPipe} (ready : world.Ready heredocs)
    (done : applyRedirections world redirections heredocs = (wired, .ok ())) :
    Rewired world wired redirections heredocs := by
  -- Every redirection may change the numbers, so the induction is for every world that is ready.
  induction redirections generalizing world heredocs with
  | nil =>
      cases done
      exact .refl _ _
  | cons redirection rest ih =>
      unfold applyRedirections at done
      by_cases isHeredoc : redirection.operator = .heredoc
      · rw [if_pos isHeredoc] at done
        cases heredocs with
        | nil => exact .cons_unpiped isHeredoc (ih ready done)
        | cons pipe pipes =>
            obtain ⟨⟨_, isOpen⟩, used⟩ := List.forall_mem_cons.mp ready.used
            have later : world.Ready pipes := ⟨ready.standard, used⟩
            refine .cons_heredoc isHeredoc isOpen later.large (ih ?_ done)
            split
            · exact later.duplicate pipe.reader
            · exact later
      · rw [if_neg isHeredoc] at done
        cases opens : openTarget world redirection with
        | error error =>
            rw [opens] at done
            cases done
        | ok placed =>
            obtain ⟨opened, number⟩ := placed
            obtain ⟨free, tried, target, rfl⟩ := openTarget_ok opens
            have readyToo : tried.Ready heredocs := ready.of_process (process_tryTarget target)
            have freeToo : tried.stream? number = none := by
              rw [World.stream?, process_tryTarget target]
              exact free
            rw [opens] at done
            simp only [close_target freeToo] at done
            refine .cons_target isHeredoc target ready.standard free ready.large (ih ?_ done)
            split
            · exact readyToo.redirect _ freeToo (standardStream_lt _)
            · exact readyToo

end PipeShell
