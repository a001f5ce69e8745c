import PipeShell.Proofs.Run.Builtins
import PipeShell.Proofs.Run.TargetOrder

/-!
# Targets of a builtin in the shell

A builtin alone has its targets opened by the shell, which keeps only the last output target open.
Main statement: this comes to opening them in order; if one cannot be opened, nothing else happens,
and otherwise what the builtin prints is added to the last output target, and goes to standard
output only if there is none.
-/

namespace PipeShell

/-! ## The shell opens targets in order -/

section InShell

def World.withOpenings (world : World) (openings : Openings) : World :=
  { world with
    files := openings.files
    openFiles := world.openFiles ++ openings.opened.map Opening.openFile }

def World.openTargets (world : World) (redirections : List Redirection) : Openings :=
  openInOrder world.process.directory world.room world.files redirections

variable {world opened : World} {redirection : Redirection} {rest : List Redirection}

theorem openTarget_eq_openIn (world : World) (redirection : Redirection) :
    openTarget world redirection =
      (redirection.openIn world.files world.process.directory world.room).map
        fun (files, place) =>
          ((world.withOpenFile files (Opening.openFile ⟨redirection, place⟩)).mapDescriptors
            (·.place world.process.descriptors.lowestFree (.file world.openFiles.length)),
            world.process.descriptors.lowestFree) := by
  unfold openTarget Redirection.openIn Opening.openFile Opening.mode
  cases redirection.path with
  | error error => rfl
  | ok path =>
      cases kind : redirection.operator.openMode? with
      | none => rfl
      | some mode =>
          simp only [kind, Option.getD_some, World.openPath, FileTree.openAt, World.openPlace, bind,
            Except.bind]
          cases checkPath path with
          | error failure => rfl
          | ok _ =>
              by_cases full : world.room.left = some 0
              · simp only [World.openStream_of_none_left full, full, ↓reduceIte]
                rfl
              · simp only [World.openStream_of_left full, full, ↓reduceIte]
                cases world.files.walkPath world.process.directory _ path with
                | error errno => rfl
                | ok reached =>
                    simp only
                    cases World.prepareFile world.files mode reached <;> rfl

/-- What the shell has once it tried to open the targets: the last output target, if all could be
opened and there is one, is open at a number that stood for nothing. -/
inductive LeftOpen (world : World) (openings : Openings) :
    World × Except ShellError (Option Nat) → Prop where
  | failed {error : ShellError} :
      openings.failure? = some error →
      LeftOpen world openings (world.withOpenings openings, .error error)
  | inputs :
      openings.failure? = none → (∀ opening ∈ openings.opened, opening.isOutput = false) →
      LeftOpen world openings (world.withOpenings openings, .ok none)
  | output {front back : List Opening} {target : Opening} {number : Nat} :
      openings.failure? = none → openings.opened = front ++ target :: back →
      target.isOutput = true → (∀ opening ∈ back, opening.isOutput = false) →
      world.stream? number = none →
      LeftOpen world openings
        ((world.withOpenings openings).mapDescriptors
          (·.place number (.file (world.openFiles.length + front.length))), .ok (some number))

theorem openTargets_heredoc (isHeredoc : redirection.operator = .heredoc) :
    world.openTargets (redirection :: rest) = world.openTargets rest := by
  rw [World.openTargets, openInOrder, if_pos isHeredoc]
  rfl

theorem openTargets_failed {error : ShellError} (isFile : redirection.operator ≠ .heredoc)
    (failed : openTarget world redirection = .error error) :
    world.openTargets (redirection :: rest) = { files := world.files, failure? := some error } := by
  rw [openTarget_eq_openIn] at failed
  rw [World.openTargets, openInOrder, if_neg isFile]
  cases tried : redirection.openIn world.files world.process.directory world.room with
  | error other =>
      rw [tried] at failed
      cases failed
      rfl
  | ok result =>
      rw [tried] at failed
      cases failed

theorem openTargets_opened {number : Nat} (rest : List Redirection)
    (isFile : redirection.operator ≠ .heredoc)
    (done : openTarget world redirection = .ok (opened, number)) :
    ∃ files place,
      opened = (world.withOpenFile files (Opening.openFile ⟨redirection, place⟩)).mapDescriptors
        (·.place number (.file world.openFiles.length)) ∧
      world.stream? number = none ∧
      world.openTargets (redirection :: rest) =
        ((if redirection.operator.isOutput && isLastOutput rest then opened
          else world.withOpenFile files (Opening.openFile ⟨redirection, place⟩)).openTargets
            rest).after ⟨redirection, place⟩ := by
  rw [openTarget_eq_openIn] at done
  cases opens : redirection.openIn world.files world.process.directory world.room with
  | error error =>
      rw [opens] at done
      cases done
  | ok result =>
      obtain ⟨files, place⟩ := result
      rw [opens] at done
      cases done
      refine ⟨files, place, rfl, Descriptors.stream?_lowestFree _, ?_⟩
      rw [World.openTargets, openInOrder, if_neg isFile, opens]
      simp only
      split
      · have less := World.room_place (Redirection.left_of_openIn opens)
          (.file world.openFiles.length)
        rw [← less]
        rfl
      · rfl

theorem withOpenings_after (world : World) (files : FileTree) (opening : Opening)
    (openings : Openings) :
    (world.withOpenFile files opening.openFile).withOpenings openings =
      world.withOpenings (openings.after opening) := by
  simp [World.withOpenings, World.withOpenFile, Openings.after]

theorem LeftOpen.after {files : FileTree} {opening : Opening} {openings : Openings}
    {result : World × Except ShellError (Option Nat)}
    (left : LeftOpen (world.withOpenFile files opening.openFile) openings result)
    (idle : opening.isOutput = true → openings.failure? = none →
      ∃ other ∈ openings.opened, other.isOutput = true) :
    LeftOpen world (openings.after opening) result := by
  have same := withOpenings_after world files opening openings
  cases left with
  | failed failed =>
      rw [same]
      exact .failed failed
  | inputs fine inputs =>
      rw [same]
      refine .inputs fine (List.forall_mem_cons.mpr ⟨?_, inputs⟩)
      by_contra output
      obtain ⟨other, member, isOutput⟩ := idle (Bool.eq_true_of_not_eq_false output) fine
      rw [inputs other member] at isOutput
      cases isOutput
  | @output front back target number fine cut output inputs free =>
      have index : (world.withOpenFile files opening.openFile).openFiles.length + front.length =
          world.openFiles.length + (opening :: front).length := by
        simp [World.withOpenFile]
        omega
      rw [same, index]
      exact .output fine (congrArg (opening :: ·) cut) output inputs free

section Keep

variable {files : FileTree} {opening : Opening} {openings : Openings} {number : Nat} {later : World}

theorem withOpenings_kept (world : World) (files : FileTree) (opening : Opening)
    (openings : Openings) (change : Descriptors → Descriptors) :
    ((world.withOpenFile files opening.openFile).mapDescriptors change).withOpenings openings =
      (world.withOpenings (openings.after opening)).mapDescriptors change := by
  rw [← withOpenings_after world files opening openings]
  rfl

/-- The last output target stays open if the targets after it can be opened. -/
theorem LeftOpen.keep {kept : Option Nat}
    (left : LeftOpen ((world.withOpenFile files opening.openFile).mapDescriptors
      (·.place number (.file world.openFiles.length))) openings (later, .ok kept))
    (free : world.stream? number = none) (output : opening.isOutput = true)
    (inputs : ∀ other ∈ openings.opened, other.isOutput = false) :
    LeftOpen world (openings.after opening) (later, .ok (some number)) := by
  cases left with
  | inputs fine _ =>
      have stillFine : (openings.after opening).failure? = none := fine
      have cut : (openings.after opening).opened = [] ++ opening :: openings.opened := rfl
      rw [withOpenings_kept]
      exact .output stillFine cut output inputs free
  | output fine cut isOutput =>
      have input := inputs _ (cut ▸ List.mem_append_right _ List.mem_cons_self)
      rw [isOutput] at input
      cases input

theorem LeftOpen.letGo {error : ShellError}
    (left : LeftOpen ((world.withOpenFile files opening.openFile).mapDescriptors
      (·.place number (.file world.openFiles.length))) openings (later, .error error))
    (free : world.stream? number = none) :
    LeftOpen world (openings.after opening) (later.close number, .error error) := by
  have freeStill : (world.withOpenings (openings.after opening)).stream? number = none := free
  cases left with
  | failed failed =>
      rw [withOpenings_kept, close_placed freeStill]
      exact .failed failed

end Keep

/-- Opening the targets in the shell comes to opening them in order. -/
theorem leftOpen_openInShell (world : World) (redirections : List Redirection) :
    LeftOpen world (world.openTargets redirections) (openInShell world redirections) := by
  fun_induction openInShell world redirections with
  | case1 world =>
      have none : world.openTargets [] = { files := world.files } := by
        rw [World.openTargets, openInOrder]
      have same : world.withOpenings { files := world.files } = world := by
        simp [World.withOpenings]
      have left : LeftOpen world { files := world.files } _ := .inputs rfl (by simp)
      rwa [same, ← none] at left
  | case2 world redirection rest isHeredoc ih =>
      rw [openTargets_heredoc isHeredoc]
      exact ih
  | case3 world redirection rest isFile error failed =>
      have same : world.withOpenings { files := world.files, failure? := some error } = world := by
        simp [World.withOpenings]
      have left : LeftOpen world { files := world.files, failure? := some error } _ := .failed rfl
      rwa [same, ← openTargets_failed isFile failed] at left
  | case4 world redirection rest isFile opened number done last later kept tried ih =>
      obtain ⟨files, place, rfl, free, targets⟩ := openTargets_opened rest isFile done
      rw [targets, if_pos last]
      rw [Bool.and_eq_true] at last
      rw [tried] at ih
      exact ih.keep free last.1 (inputs_openInOrder _ _ rest last.2)
  | case5 world redirection rest isFile opened number done last later error tried ih =>
      obtain ⟨files, place, rfl, free, targets⟩ := openTargets_opened rest isFile done
      rw [targets, if_pos last]
      rw [tried] at ih
      exact ih.letGo free
  | case6 world redirection rest isFile opened number done notLast ih =>
      obtain ⟨files, place, rfl, free, targets⟩ := openTargets_opened rest isFile done
      have freeStill : (world.withOpenFile files
          (Opening.openFile ⟨redirection, place⟩)).stream? number = none := free
      rw [close_placed freeStill] at ih ⊢
      rw [targets, if_neg notLast]
      refine ih.after fun output fine => output_openInOrder _ _ rest ?_ fine
      have isOutput : redirection.operator.isOutput = true := output
      simpa [isOutput] using notLast

end InShell

/-! ## Printing to the last output target -/

theorem overwriteAt_end (content bytes : Bytes) :
    overwriteAt content content.length bytes = content ++ bytes := by
  simp [overwriteAt]

/-- What becomes of the world when `bytes` are printed once the targets are open: they are added to
the last output target, or go to standard output if there is none. -/
inductive Openings.Printed (openings : Openings) (world : World) (bytes : Bytes) :
    World → Prop where
  | standardOutput :
      (∀ opening ∈ openings.opened, opening.isOutput = false) →
      openings.Printed world bytes ((world.withOpenings openings).deliver
        ((world.stream? Descriptors.standardOutput).getD .output) bytes)
  | added {front back : List Opening} {target : Opening} {content : Bytes}
      {permissions : Permissions} {openFiles : List OpenFile} :
      openings.opened = front ++ target :: back →
      target.isOutput = true → (∀ opening ∈ back, opening.isOutput = false) →
      openings.files.node? target.place = some (.file content permissions) →
      openings.Printed world bytes
        { world with
          files := openings.files.put target.place (.file (content ++ bytes) permissions)
          openFiles := world.openFiles ++ openFiles }

/-- Where there is no output target, what standard output stands for accepts what is printed. -/
def Openings.Accepts (openings : Openings) (world : World) : Prop :=
  openings.failure? = none → (∀ opening ∈ openings.opened, opening.isOutput = false) →
    (world.withOpenings openings).sink
      ((world.stream? Descriptors.standardOutput).getD .output) = {}

section Printing

variable {world : World} {openings : Openings} {front back : List Opening} {target : Opening}
  {index : Nat} {file : OpenFile} {place : Place} {content : Bytes} {permissions : Permissions}

theorem deliver_file (found : world.openFiles[index]? = some file) (home : file.home = .named place)
    (there : world.files.node? place = some (.file content permissions))
    (atEnd : file.mode = .append ∨ file.position = content.length) (bytes : Bytes) :
    ∃ position, world.deliver (.file index) bytes =
      { world with
        files := world.files.put place (.file (content ++ bytes) permissions)
        openFiles := world.openFiles.set index { file with position } } := by
  have node : world.nodeOf? file = some (.file content permissions) := by
    rw [World.nodeOf?, home]
    exact there
  have position : (if file.mode = .append then content.length else file.position) =
      content.length := by
    split
    · rfl
    · rename_i notAppend
      exact atEnd.resolve_left notAppend
  refine ⟨content.length + bytes.length, ?_⟩
  simp only [World.deliver, found, World.writeFile, node, position, overwriteAt_end, World.putNode,
    home]

theorem sink_file (found : world.openFiles[index]? = some file) (home : file.home = .named place)
    (writes : file.mode.writes = true)
    (there : world.files.node? place = some (.file content permissions)) :
    world.sink (.file index) = {} := by
  simp [World.sink, found, writes, World.nodeOf?, home, there]

theorem openFile_of_output (world : World) (cut : openings.opened = front ++ target :: back) :
    (world.withOpenings openings).openFiles[world.openFiles.length + front.length]? =
      some target.openFile := by
  simp [World.withOpenings, cut]

theorem printed_of_output {here : Place}
    (trees : Opened here world.files openings.opened openings.files)
    (cut : openings.opened = front ++ target :: back) (output : target.isOutput = true)
    (inputs : ∀ opening ∈ back, opening.isOutput = false) (bytes : Bytes) :
    openings.Printed world bytes ((world.withOpenings openings).deliver
      (.file (world.openFiles.length + front.length)) bytes) := by
  obtain ⟨content, permissions, there, atEnd⟩ := (cut ▸ trees).file_of_output output inputs
  have found := openFile_of_output world cut
  obtain ⟨position, delivered⟩ := deliver_file found rfl there
    (atEnd.imp_right fun empty => by rw [empty]; rfl) bytes
  rw [delivered, World.withOpenings, List.set_append_right _ _ (Nat.le_add_right _ _)]
  exact .added cut output inputs there

end Printing

/-! ## The builtin -/

section Builtin

variable {world : World} {session : Session} {command : Command}

theorem runInShell_failed {error : ShellError}
    (failed : (world.openTargets command.redirections).failure? = some error) :
    runInShell world session command =
      ((world.withOpenings (world.openTargets command.redirections)).report error.message, session,
        error.status) := by
  have left := leftOpen_openInShell world command.redirections
  unfold runInShell
  generalize openInShell world command.redirections = tried at left
  generalize world.openTargets command.redirections = openings at failed left
  cases left with
  | failed same =>
      cases failed.symm.trans same
      rfl
  | inputs fine => cases failed.symm.trans fine
  | output fine => cases failed.symm.trans fine

theorem runInShell_opened (session : Session) (standard : world.process.descriptors.Standard)
    (plain : world.files.Plain)
    (accepts : (world.openTargets command.redirections).Accepts world)
    (fine : (world.openTargets command.redirections).failure? = none) :
    ∃ stream, (∀ bytes, (world.openTargets command.redirections).Printed world bytes
        ((world.withOpenings (world.openTargets command.redirections)).deliver stream bytes)) ∧
      runInShell world session command =
        (world.withOpenings (world.openTargets command.redirections)).perform session
          command.arguments stream := by
  have left := leftOpen_openInShell world command.redirections
  have trees := opened_openInOrder world.process.directory world.room command.redirections
    plain
  change Opened _ _ (world.openTargets _).opened (world.openTargets _).files at trees
  unfold runInShell
  generalize openInShell world command.redirections = tried at left
  generalize world.openTargets command.redirections = openings at fine left accepts trees
  cases left with
  | failed failed => cases fine.symm.trans failed
  | inputs fine inputs =>
      exact ⟨_, fun bytes => .standardOutput inputs,
        World.runBuiltinOn_eq _ _ _ true (accepts fine inputs)⟩
  | @output front back target number fine cut output inputs free =>
      obtain ⟨content, permissions, there, _⟩ := (cut ▸ trees).file_of_output output inputs
      have sink := sink_file (openFile_of_output world cut) rfl
        (target.writes_mode output) there
      exact ⟨_, printed_of_output trees cut output inputs,
        runBuiltinAt_placed (world.withOpenings openings) session command.arguments false standard
          free sink⟩

end Builtin

/-- The redirections of a builtin are followed from left to right, in any tree of regular files and
directories. Here-documents aside, the targets are opened as they are written, each in the tree that
the one before it left: `<` changes nothing, `>` creates or empties its file, and `>>` creates its
file or keeps it. The first that is no single name or cannot be opened ends the command with a
message and the status 1; what was opened before it stays opened, and the session is as it was. If
all could be opened, what the builtin prints is added to the last output target as it is then, and
nothing else is written to; without an output target it goes to standard output. -/
theorem runInShell_in_order [Launching] (world : World) (session : Session) (command : Command)
    (standard : world.process.descriptors.Standard) (plain : world.files.Plain)
    (accepts : (world.openTargets command.redirections).Accepts world) :
    let openings := world.openTargets command.redirections
    let opened := world.withOpenings openings
    let ran := runInShell world session command
    openings.InOrder world.process.directory world.room world.files
      command.redirections ∧
    (∀ error, openings.failure? = some error →
      ran = (opened.report error.message, session, 1)) ∧
    (openings.failure? = none →
      let effect := (opened.scene session).effectOf command.arguments
      ran.2 = (effect.session, effect.status) ∧
      ∃ printed, openings.Printed world (effect.output.flatMap encode) printed ∧
        ran.1 = effect.messages.foldl World.report
          (printed.inProcess (world.process.inDirectory effect.directory))) ∧
    (isBuiltin command.program = true → ∀ bodies,
      runCommands world session [command] bodies = (ran.1, ran.2.1.setStatus ran.2.2)) := by
  intro openings opened ran
  have order := inOrder_openInOrder world.process.directory world.room command.redirections
    plain
  refine ⟨order, ?_, ?_, ?_⟩
  · intro error failed
    obtain ⟨_, _, _, _, _, refused⟩ := order.stopped error failed
    have status := Redirection.status_of_openIn refused
    exact status ▸ runInShell_failed failed
  · intro fine effect
    obtain ⟨stream, printed, performed⟩ :=
      runInShell_opened session standard plain accepts fine
    have same : ran = _ := performed
    rw [same]
    exact ⟨rfl, _, printed _, rfl⟩
  · intro builtin bodies
    simp only [runCommands, builtin, ↓reduceIte]
    rfl

def echoOverLog : Command :=
  { arguments := ["echo", "hi"]
    redirections := [{ operator := .output, target := "log" },
      { operator := .input, target := "log" }, { operator := .append, target := "log" }] }

def emptyLog : FileTree := ⟨[(["log"], .file [] {})]⟩

def logOpenings : Openings :=
  { files := emptyLog, opened := echoOverLog.redirections.map (⟨·, ["log"]⟩) }

open scoped Launching in
/-- The command empties its file first, and then adds to it. -/
theorem runInShell_in_order_echoOverLog :
    shellWithLog.process.descriptors.Standard ∧ shellWithLog.files.Plain ∧
    (shellWithLog.openTargets echoOverLog.redirections).Accepts shellWithLog ∧
    let ran := runInShell shellWithLog {} echoOverLog
    ran.1.files = ⟨[(["log"], .file (encode "hi\n") {})]⟩ ∧ ran.1.output = [] ∧
      ran.2 = ({}, 0) := by
  have emptied : Redirection.openIn { operator := .output, target := "log" } shellWithLog.files []
      {} = .ok (emptyLog, ["log"]) := by
    unfold Redirection.openIn FileTree.openAt FileTree.walkPath walk
    rfl
  have read : Redirection.openIn { operator := .input, target := "log" } emptyLog []
      {} = .ok (emptyLog, ["log"]) := by
    unfold Redirection.openIn FileTree.openAt FileTree.walkPath walk
    rfl
  have kept : Redirection.openIn { operator := .append, target := "log" } emptyLog []
      {} = .ok (emptyLog, ["log"]) := by
    unfold Redirection.openIn FileTree.openAt FileTree.walkPath walk
    rfl
  have openings : shellWithLog.openTargets echoOverLog.redirections = logOpenings := by
    have here : shellWithLog.process.directory = [] := rfl
    have room : shellWithLog.room = {} := rfl
    have less : Room.less {} = {} := rfl
    simp [World.openTargets, echoOverLog, openInOrder, here, room, less, emptied, read, kept,
      Openings.after, logOpenings]
  have standard : shellWithLog.process.descriptors.Standard := by
    unfold Descriptors.Standard
    decide
  have plain : shellWithLog.files.Plain := by
    intro place node found
    simp only [FileTree.node?, shellWithLog, FileTree.lookup] at found
    split at found
    · exact .inl (Option.some.inj found).symm
    · split at found
      · exact .inr ⟨_, _, (Option.some.inj found).symm⟩
      · cases found
  have accepts : (shellWithLog.openTargets echoOverLog.redirections).Accepts shellWithLog := by
    rw [openings]
    intro _ inputs
    cases inputs _ List.mem_cons_self
  obtain ⟨_, _, printing, _⟩ :=
    runInShell_in_order shellWithLog {} echoOverLog standard plain accepts
  rw [openings] at printing
  obtain ⟨result, world, printed, same⟩ := printing rfl
  refine ⟨standard, plain, accepts, ?_⟩
  intro ran
  have settled : ran.1 = world.inProcess (shellWithLog.process.inDirectory []) := same
  rw [settled]
  cases printed with
  | standardOutput inputs => cases inputs _ List.mem_cons_self
  | @added front back target content permissions openFiles cut _ _ there =>
      have member : target ∈ logOpenings.opened := cut ▸ List.mem_append_right _ List.mem_cons_self
      obtain ⟨_, _, rfl⟩ := List.mem_map.mp member
      cases there
      exact ⟨rfl, rfl, result.trans (by decide +kernel)⟩

end PipeShell
