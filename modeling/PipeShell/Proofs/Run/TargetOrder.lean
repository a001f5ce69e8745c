import PipeShell.Proofs.Run.Pipes
import PipeShell.Proofs.Run.Targets
import PipeShell.Proofs.System.Opening

/-!
# Targets in order

What redirections do to a tree of files if their targets are opened one after another. Main
statement: each is opened in the tree that the one before it left, up to the first that is no single
name or cannot be opened.
-/

namespace PipeShell

/-! ## Opening targets in order -/

structure Opening where
  redirection : Redirection
  place : Place

namespace Opening

def isOutput (opening : Opening) : Bool := opening.redirection.operator.isOutput

def mode (opening : Opening) : OpenMode := opening.redirection.operator.openMode?.getD .read

def openFile (opening : Opening) : OpenFile :=
  { home := .named opening.place, mode := opening.mode }

theorem mode_of_input (opening : Opening) : opening.isOutput = false → opening.mode = .read := by
  unfold isOutput mode
  cases opening.redirection.operator <;> decide

theorem writes_mode (opening : Opening) :
    opening.isOutput = true → opening.mode.writes = true := by
  unfold isOutput mode
  cases opening.redirection.operator <;> decide

theorem common_mode (opening : Opening) : FileTree.OpenMode.Common opening.mode := by
  unfold mode FileTree.OpenMode.Common
  cases opening.redirection.operator <;> decide

end Opening

/-- Opens the target in a tree, if it is a single name and the file can be opened. -/
def Redirection.openIn (redirection : Redirection) (files : FileTree) (here : Place)
    (room : Room) : Except ShellError (FileTree × Place) :=
  match redirection.path with
  | .error error => .error error
  | .ok path =>
    match redirection.operator.openMode? with
    | none => .error (.redirection path "here-document has no target file")
    | some mode => (files.openAt here room mode path).mapError (ShellError.ofFailure path)

/-- The targets that were opened, the tree afterwards, and why the next one was not opened. -/
structure Openings where
  files : FileTree
  opened : List Opening := []
  failure? : Option ShellError := none

def Openings.after (opening : Opening) (openings : Openings) : Openings :=
  { openings with opened := opening :: openings.opened }

/-- Opens targets from left to right, up to the first that cannot be opened. There is less room by
one number once the last output target is open. -/
def openInOrder (here : Place) : Room → FileTree → List Redirection → Openings
  | _, files, [] => { files }
  | room, files, redirection :: rest =>
    if redirection.operator = .heredoc then openInOrder here room files rest
    else
      match redirection.openIn files here room with
      | .error error => { files, failure? := some error }
      | .ok (files, place) =>
        let isLast := redirection.operator.isOutput && isLastOutput rest
        (openInOrder here (if isLast then room.less else room) files rest).after
          ⟨redirection, place⟩

def Opened (here : Place) : FileTree → List Opening → FileTree → Prop
  | first, [], last => last = first
  | first, opening :: rest, last =>
    ∃ next, opening.redirection.openIn first here {} = .ok (next, opening.place) ∧
      first.Opens opening.place opening.mode next ∧ Opened here next rest last

/-- All targets were opened in the order in which they are written, or all before the first that
cannot be opened. A number is in use meanwhile if there is an output target. -/
structure Openings.InOrder (openings : Openings) (here : Place) (room : Room)
    (before : FileTree) (redirections : List Redirection) : Prop where
  trees : Opened here before openings.opened openings.files
  all : openings.failure? = none →
    openings.opened.map Opening.redirection = redirections.filter (·.operator ≠ .heredoc)
  stopped : ∀ error, openings.failure? = some error → ∃ failed skipped free,
    redirections.filter (·.operator ≠ .heredoc) =
      openings.opened.map Opening.redirection ++ failed :: skipped ∧
    (free = room ∨ free = room.less ∧ isLastOutput redirections = false) ∧
    failed.openIn openings.files here free = .error error

section Trees

variable {here : Place} {first last : FileTree} {front back : List Opening}

theorem opened_append :
    Opened here first (front ++ back) last ↔
      ∃ middle, Opened here first front middle ∧ Opened here middle back last := by
  induction front generalizing first with
  | nil => simp [Opened]
  | cons opening rest ih =>
      simp only [List.cons_append, Opened, ih]
      constructor
      · rintro ⟨next, done, opens, middle, rest, later⟩
        exact ⟨middle, ⟨next, done, opens, rest⟩, later⟩
      · rintro ⟨middle, ⟨next, done, opens, rest⟩, later⟩
        exact ⟨next, done, opens, middle, rest, later⟩

/-- Opening input targets leaves the tree as it is. -/
theorem Opened.eq_of_inputs (opened : Opened here first front last)
    (inputs : ∀ opening ∈ front, opening.isOutput = false) : last = first := by
  induction front generalizing first with
  | nil => exact opened
  | cons opening rest ih =>
      obtain ⟨input, others⟩ := List.forall_mem_cons.mp inputs
      obtain ⟨next, _, opens, later⟩ := opened
      rw [opening.mode_of_input input] at opens
      rw [ih later others, opens.eq_of_read]

/-- The last output target is a file when all targets are open. -/
theorem Opened.file_of_output {target : Opening}
    (opened : Opened here first (front ++ target :: back) last)
    (output : target.isOutput = true) (inputs : ∀ opening ∈ back, opening.isOutput = false) :
    ∃ content permissions, last.node? target.place = some (.file content permissions) ∧
      (target.mode = .append ∨ content = []) := by
  obtain ⟨middle, _, next, _, opens, later⟩ := opened_append.mp opened
  rw [later.eq_of_inputs inputs]
  exact opens.file (target.writes_mode output)

end Trees

/-! ## What was opened -/

theorem Redirection.openIn_eq_ok_iff {redirection : Redirection} {files : FileTree} {here : Place}
    {room : Room} {result : FileTree × Place} :
    redirection.openIn files here room = .ok result ↔
      ∃ path mode, redirection.path = .ok path ∧ redirection.operator.openMode? = some mode ∧
        files.openAt here room mode path = .ok result := by
  unfold openIn
  cases redirection.path with
  | error error => simp
  | ok path =>
      cases redirection.operator.openMode? with
      | none => simp
      | some mode =>
          simp only [Except.ok.injEq, Option.some.injEq]
          constructor
          · intro done
            exact ⟨path, mode, rfl, rfl, of_mapError_ok done⟩
          · rintro ⟨_, _, rfl, rfl, done⟩
            rw [done]
            rfl

theorem Redirection.openIn_opens {redirection : Redirection} {files after : FileTree}
    {here place : Place} {room : Room} (plain : files.Plain)
    (done : redirection.openIn files here room = .ok (after, place)) :
    files.Opens place (Opening.mode ⟨redirection, place⟩) after := by
  obtain ⟨path, mode, _, known, opens⟩ := openIn_eq_ok_iff.mp done
  have common := Opening.common_mode ⟨redirection, place⟩
  unfold Opening.mode at common ⊢
  rw [known] at common ⊢
  exact FileTree.opens_of_openAt plain common opens

theorem Redirection.status_of_openIn {redirection : Redirection} {files : FileTree} {here : Place}
    {room : Room} {error : ShellError}
    (failed : redirection.openIn files here room = .error error) : error.status = 1 := by
  unfold openIn path at failed
  split at failed
  · rename_i unknown
    split at unknown
    · cases unknown
      cases failed
      rfl
    · cases unknown
  · split at failed
    · cases failed
      rfl
    · cases opens : files.openAt here room _ _ with
      | error failure =>
          rw [opens] at failed
          cases failed
          rfl
      | ok result =>
          rw [opens] at failed
          cases failed

theorem Redirection.openIn_unlimited {redirection : Redirection} {files : FileTree} {here : Place}
    {room : Room} {result : FileTree × Place}
    (done : redirection.openIn files here room = .ok result) :
    redirection.openIn files here {} = .ok result := by
  obtain ⟨path, mode, single, known, opens⟩ := openIn_eq_ok_iff.mp done
  exact openIn_eq_ok_iff.mpr ⟨path, mode, single, known, FileTree.openAt_unlimited opens⟩

theorem Redirection.left_of_openIn {redirection : Redirection} {files : FileTree} {here : Place}
    {room : Room} {result : FileTree × Place}
    (done : redirection.openIn files here room = .ok result) : room.left ≠ some 0 := by
  obtain ⟨_, _, _, _, opens⟩ := openIn_eq_ok_iff.mp done
  exact FileTree.left_of_openAt opens

section Order

variable (here : Place) (room : Room) {files : FileTree} (redirections : List Redirection)

theorem opened_openInOrder (plain : files.Plain) :
    Opened here files (openInOrder here room files redirections).opened
      (openInOrder here room files redirections).files := by
  fun_induction openInOrder here room files redirections with
  | case1 => rfl
  | case2 room files redirection rest isHeredoc ih => exact ih plain
  | case3 => rfl
  | case4 room files redirection rest isFile after place done isLast ih =>
      have opens := Redirection.openIn_opens plain done
      exact ⟨after, Redirection.openIn_unlimited done, opens, ih (opens.plain plain)⟩

theorem targets_openInOrder
    (fine : (openInOrder here room files redirections).failure? = none) :
    (openInOrder here room files redirections).opened.map Opening.redirection =
      redirections.filter (·.operator ≠ .heredoc) := by
  fun_induction openInOrder here room files redirections with
  | case1 => rfl
  | case2 room files redirection rest isHeredoc ih =>
      rw [List.filter_cons_of_neg (by simp [isHeredoc])]
      exact ih fine
  | case3 => cases fine
  | case4 room files redirection rest isFile after place done isLast ih =>
      rw [List.filter_cons_of_pos (by simp [isFile]), ← ih fine]
      rfl

theorem stopped_openInOrder {error : ShellError}
    (stopped : (openInOrder here room files redirections).failure? = some error) :
    ∃ failed skipped free,
      redirections.filter (·.operator ≠ .heredoc) =
        (openInOrder here room files redirections).opened.map Opening.redirection ++
          failed :: skipped ∧
      (free = room ∨ free = room.less ∧ isLastOutput redirections = false) ∧
      failed.openIn (openInOrder here room files redirections).files here free = .error error := by
  fun_induction openInOrder here room files redirections with
  | case1 => cases stopped
  | case2 room files redirection rest isHeredoc ih =>
      rw [List.filter_cons_of_neg (by simp [isHeredoc]), isLastOutput_cons, isHeredoc]
      exact ih stopped
  | case3 room files redirection rest isFile other failed =>
      cases stopped
      refine ⟨redirection, rest.filter (·.operator ≠ .heredoc), room, ?_, .inl rfl, failed⟩
      rw [List.filter_cons_of_pos (by simp [isFile])]
      rfl
  | case4 room files redirection rest isFile after place done isLast ih =>
      obtain ⟨failed, skipped, free, cut, numbers, refused⟩ := ih stopped
      refine ⟨failed, skipped, free, ?_, ?_, refused⟩
      · rw [List.filter_cons_of_pos (by simp [isFile]), cut]
        rfl
      · cases kept : isLast with
        | true =>
            -- No output target is left, so the number stays in use.
            obtain ⟨output, inputs⟩ := Bool.and_eq_true_iff.mp kept
            simp only [kept, inputs, ↓reduceIte] at numbers
            exact .inr ⟨numbers.resolve_right (by simp), by simp [isLastOutput_cons, output]⟩
        | false =>
            simp only [kept, Bool.false_eq_true, ↓reduceIte] at numbers
            refine numbers.imp_right fun ⟨less, outputs⟩ => ⟨less, ?_⟩
            rw [isLastOutput_cons, outputs, Bool.and_false]

theorem targets_prefix_openInOrder :
    (openInOrder here room files redirections).opened.map Opening.redirection <+:
      redirections.filter (·.operator ≠ .heredoc) := by
  cases failed : (openInOrder here room files redirections).failure? with
  | none => exact targets_openInOrder here room redirections failed ▸ List.prefix_refl _
  | some error =>
      obtain ⟨_, _, _, cut, _⟩ := stopped_openInOrder here room redirections failed
      exact cut ▸ List.prefix_append _ _

theorem inOrder_openInOrder (plain : files.Plain) :
    (openInOrder here room files redirections).InOrder here room files redirections where
  trees := opened_openInOrder here room redirections plain
  all := targets_openInOrder here room redirections
  stopped := fun _ => stopped_openInOrder here room redirections

theorem inputs_openInOrder (inputs : isLastOutput redirections = true) :
    ∀ opening ∈ (openInOrder here room files redirections).opened, opening.isOutput = false := by
  intro opening member
  have among := (targets_prefix_openInOrder here room redirections).subset
    (List.mem_map_of_mem member)
  simp only [isLastOutput, Bool.not_eq_true', List.any_eq_false] at inputs
  exact Bool.not_eq_true _ ▸ inputs _ (List.mem_of_mem_filter among)

theorem output_openInOrder (outputs : isLastOutput redirections = false)
    (fine : (openInOrder here room files redirections).failure? = none) :
    ∃ opening ∈ (openInOrder here room files redirections).opened, opening.isOutput = true := by
  simp only [isLastOutput, Bool.not_eq_false', List.any_eq_true] at outputs
  obtain ⟨redirection, member, output⟩ := outputs
  have isFile : redirection.operator ≠ .heredoc := by
    intro isHeredoc
    rw [isHeredoc] at output
    cases output
  have kept : redirection ∈ redirections.filter (·.operator ≠ .heredoc) :=
    List.mem_filter.mpr ⟨member, by simp [isFile]⟩
  rw [← targets_openInOrder here room redirections fine] at kept
  obtain ⟨opening, among, rfl⟩ := List.mem_map.mp kept
  exact ⟨opening, among, output⟩

end Order

end PipeShell
