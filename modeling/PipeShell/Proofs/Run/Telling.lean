import PipeShell.Proofs.Run.Reports
import PipeShell.Proofs.Run.Stages

/-!
# What commands say

On the way from one world to another, whatever gets to standard error is accounted for: a report has
a reason in a world before it, and all else is the log, the end of a process, or the output of a
command. Main statement: a pipeline makes no report without a reason, and none about a failed read.
-/

namespace PipeShell

/-- Nothing is different but numbers, pipes, the record of children and standard output. -/
structure World.Still (before after : World) : Prop where
  directory : after.process.directory = before.process.directory
  same : after = { before with
    process := after.process, pipes := after.pipes, output := after.output
    endings := after.endings, children := after.children, processLimit := after.processLimit }

section Still

variable {before middle after : World}

theorem World.Still.refl (world : World) : world.Still world := ⟨rfl, rfl⟩

theorem World.Still.trans (first : before.Still middle) (second : middle.Still after) :
    before.Still after where
  directory := second.directory.trans first.directory
  same := second.same.trans (by rw [first.same])

theorem still_close (world : World) (number : Nat) : world.Still (world.close number) := ⟨rfl, rfl⟩

theorem still_duplicate (world : World) (source target : Nat) :
    world.Still (world.duplicate source target) := ⟨rfl, rfl⟩

theorem still_connect (world : World) (plumbing : Plumbing) (index : Nat) :
    world.Still (plumbing.connect index world) := by
  rw [plumbing.connect_eq]
  exact ⟨rfl, rfl⟩

theorem still_fork {world forked : World} {child : Nat}
    (done : world.fork = .ok (forked, child)) : world.Still forked := by
  unfold World.fork at done
  split at done <;> cases done
  exact ⟨rfl, rfl⟩

end Still

/-! ## What fails -/

theorem writeFailure_of_blames {world : World} {stream : Stream}
    {result : Writer × Option IoFailure}
    (blames : Writer.Blames (world.sink stream) result) {failure : IoFailure}
    (failed : result.2 = some failure) : (world.sink stream).writeFailure = some failure := by
  obtain ⟨flushes, unlimited⟩ := world.faultless_sink stream
  rcases blames.failing failure failed with writing | flushing | ⟨limited, _⟩
  · exact writing
  · rw [flushes] at flushing
    cases flushing
  · exact absurd unlimited limited

theorem mem_afterWrite {result : BuiltinResult} {name message : String}
    {failed : Option IoFailure} (member : message ∈ (result.afterWrite name failed).messages) :
    message ∈ result.messages ∨
      ∃ failure, failed = some failure ∧ message = writeError name failure := by
  cases failed with
  | none => exact .inl member
  | some failure =>
      simp only [BuiltinResult.afterWrite] at member
      split at member
      · rcases List.mem_append.mp member with earlier | here
        · exact .inl earlier
        · exact .inr ⟨failure, rfl, List.mem_singleton.mp here⟩
      · exact .inl member

theorem mem_afterFlush {result : BuiltinResult} {name message : String}
    {failed : Option IoFailure} (member : message ∈ (result.afterFlush name failed).messages) :
    message ∈ result.messages ∨
      ∃ failure, failed = some failure ∧ message = writeError name failure := by
  cases failed with
  | none => exact .inl member
  | some failure =>
      rcases List.mem_append.mp member with earlier | here
      · exact .inl earlier
      · exact .inr ⟨failure, rfl, List.mem_singleton.mp here⟩

theorem own_search {files : FileTree} {here : Place} {name : String} {denied : Option String}
    {directories : List String} {error : ShellError}
    (failed : files.search here name denied directories = .error error) : error.IsOwn := by
  induction directories generalizing denied with
  | nil =>
      unfold FileTree.search at failed
      split at failed <;> cases failed <;> exact trivial
  | cons directory rest ih =>
      unfold FileTree.search at failed
      simp only at failed
      split at failed
      · cases failed
      all_goals exact ih failed

theorem own_resolve {files : FileTree} {here : Place} {name : String} {directories : List String}
    {error : ShellError} (failed : files.resolve here name directories = .error error) :
    error.IsOwn := by
  unfold FileTree.resolve at failed
  split at failed
  · cases failed
    exact trivial
  · split at failed
    · unfold FileTree.inspect at failed
      split at failed <;> cases failed <;> exact trivial
    · exact own_search failed

theorem command_of_started {world : World} {index : Nat} {commands : List Command}
    {stage : Started}
    (member : stage ∈ (startStages world index commands).2.1) : stage.command ∈ commands := by
  induction commands generalizing world index with
  | nil => cases member
  | cons command rest ih =>
      unfold startStages at member
      split at member
      · cases member
      · rcases List.mem_cons.mp member with rfl | later
        · exact List.mem_cons_self
        · exact List.mem_cons_of_mem _ (ih later)

/-! ## What is said -/

variable [Launching]

def World.printed (world : World) (session : Session) (command : Command) (lineBuffered : Bool)
    (number : Nat) : World :=
  let stream := (world.stream? number).getD .output
  let result := runBuiltin (world.scene session) command.arguments
    { sink := world.sink stream, lineBuffered }
  world.settle stream { result with messages := [] }

/-- From one world to the other the shell made these reports, while it did what these commands ask
for. Nothing else happened but what the other cases allow. -/
inductive World.Tells (does : Session → Command → Prop) : World → List Report → World → Prop where
  | still {before after : World} : before.Still after → Tells does before [] after
  | logs (world : World) (level : LogLevel) (text : String) :
      Tells does world [] (world.log level text)
  | announces (world : World) {line : String} :
      line = "exit" ∨ (∃ ending : Ending, ending.report = some line) →
        Tells does world [] (world.complain line)
  | opens {world opened : World} {session : Session} {command : Command}
      {redirection : Redirection} {number : Nat} :
      does session command → redirection ∈ command.redirections →
        openTarget world redirection = .ok (opened, number) → Tells does world [] opened
  | prints (world : World) {session : Session} {command : Command} (lineBuffered : Bool)
      (number : Nat) :
      does session command → isBuiltin command.program = true →
        Tells does world [] (world.printed session command lineBuffered number)
  | runs {world after : World} {session : Session} {command : Command} {ending : Ending} :
      does session command → isBuiltin command.program = false →
        runProgram world session command = .ok (after, ending) → Tells does world [] after
  | inChild {world ran : World} {reports : List Report} {origin : Process} (number : Nat) :
      origin.directory = world.process.directory →
        Tells does (world.inProcess (origin.child number)) reports ran →
          Tells does world reports (ran.inProcess world.process)
  | reports {before after : World} {earlier : List Report} {report : Report} :
      report.Arises before → Tells does before earlier after →
        Tells does before (earlier ++ [report]) (after.report report.text)
  | trans {first second third : World} {early late : List Report} :
      Tells does first early second → Tells does second late third →
        Tells does first (early ++ late) third

/-- The reports between two worlds, with just these failed reads among them. -/
def World.Speaks (does : Session → Command → Prop) (failed : List ShellError)
    (before after : World) : Prop :=
  ∃ reports, before.Tells does reports after ∧ reports.filterMap Report.readError? = failed

def World.Explains (world : World) (message : String) : Prop :=
  ∃ report : Report, report.Arises world ∧ report.readError? = none ∧ report.text = message

/-- How trying ends: without a word, or in an error for which there was a reason on the way. -/
inductive World.Tries (does : Session → Command → Prop) (world after : World) {α : Type} :
    Except ShellError α → Prop where
  | done {value : α} : world.Tells does [] after → Tries does world after (.ok value)
  | failed {middle : World} {error : ShellError} :
      world.Tells does [] middle → middle.Explains error.message → middle.Tells does [] after →
        Tries does world after (.error error)

section Relations

variable {does : Session → Command → Prop} {world before middle after : World}
  {failed early late : List ShellError} {error : ShellError}

namespace World.Tells

theorem quiet (world : World) : world.Tells does [] world := .still (.refl world)

theorem arises {reports : List Report} (tells : before.Tells does reports after) :
    ∀ report ∈ reports, ∃ world, report.Arises world := by
  induction tells with
  | inChild _ _ _ ih => exact ih
  | @reports before _ _ report arises _ ih =>
      rw [List.forall_mem_append, List.forall_mem_singleton]
      exact ⟨ih, before, arises⟩
  | trans _ _ first second => exact List.forall_mem_append.mpr ⟨first, second⟩
  | _ => exact List.forall_mem_nil _

end World.Tells

namespace World.Speaks

theorem silent (tells : before.Tells does [] after) : before.Speaks does [] after :=
  ⟨[], tells, rfl⟩

theorem still (still : before.Still after) : before.Speaks does [] after := silent (.still still)

theorem trans (first : before.Speaks does early middle) (second : middle.Speaks does late after) :
    before.Speaks does (early ++ late) after := by
  obtain ⟨reports, tells, rfl⟩ := first
  obtain ⟨more, later, rfl⟩ := second
  exact ⟨reports ++ more, .trans tells later, List.filterMap_append⟩

theorem next (first : before.Speaks does failed middle) (second : middle.Speaks does [] after) :
    before.Speaks does failed after := by
  have both := first.trans second
  rwa [List.append_nil] at both

theorem report (speaks : before.Speaks does failed after) {message : String}
    (explains : before.Explains message) : before.Speaks does failed (after.report message) := by
  obtain ⟨reports, tells, rfl⟩ := speaks
  obtain ⟨report, arises, other, rfl⟩ := explains
  exact ⟨reports ++ [report], .reports arises tells, by simp [other]⟩

theorem messages {messages : List String}
    (explained : ∀ message ∈ messages, before.Explains message)
    (speaks : before.Speaks does failed after) :
    before.Speaks does failed (messages.foldl World.report after) := by
  induction messages generalizing after with
  | nil => exact speaks
  | cons message rest ih =>
      rw [List.forall_mem_cons] at explained
      apply ih explained.2
      exact speaks.report explained.1

theorem read (speaks : before.Speaks does [] after) (error : ShellError) :
    before.Speaks does [error] (after.report error.message) := by
  obtain ⟨reports, tells, none⟩ := speaks
  have arises : (Report.read error).Arises before := trivial
  have told : before.Tells does (reports ++ [.read error])
      (after.report (Report.read error).text) :=
    .reports arises tells
  exact ⟨_, told, by simp [none, Report.readError?]⟩

theorem inChild {ran : World} {origin : Process} (number : Nat)
    (here : origin.directory = world.process.directory)
    (speaks : (world.inProcess (origin.child number)).Speaks does failed ran) :
    world.Speaks does failed (ran.inProcess world.process) := by
  obtain ⟨reports, tells, same⟩ := speaks
  exact ⟨reports, .inChild number here tells, same⟩

end World.Speaks

namespace World.Tries

variable {α : Type} {result : Except ShellError α}

theorem silent {value : α} (tries : world.Tries does after (.ok value)) :
    world.Tells does [] after := by
  cases tries with
  | done tells => exact tells

theorem speaks (tries : world.Tries does after (.error error : Except ShellError α)) :
    world.Speaks does [] (after.report error.message) := by
  cases tries with
  | failed early explains late =>
      have reported := (Speaks.silent late).report explains
      exact (Speaks.silent early).next reported

theorem after_silent (silent : world.Tells does [] middle)
    (tries : middle.Tries does after result) : world.Tries does after result := by
  cases tries with
  | done tells => exact .done (silent.trans tells)
  | failed early explains late => exact .failed (silent.trans early) explains late

end World.Tries

end Relations

/-! ## Builtins -/

section Builtins

variable (world : World)

theorem explains_complaint {complaint : String} (listed : complaint ∈ complaints)
    (front : String) : world.Explains (front ++ complaint) :=
  ⟨.misused (front ++ complaint), ⟨complaint, listed, suffix_append _ _⟩, rfl, rfl⟩

theorem explains_invalid (builtin argument : String) :
    world.Explains (labelled builtin (Scene.invalidIdentifier argument)) := by
  refine ⟨.misused _, ⟨"not a valid identifier", by decide, ?_⟩, rfl, rfl⟩
  have ending : "not a valid identifier".toList <:+ "': not a valid identifier".toList := by
    decide
  exact (ending.trans (suffix_append _ _)).trans (suffix_append _ _)

def Effect.Explained (effect : Effect) : Prop :=
  ∀ message ∈ effect.messages, world.Explains message

variable {world}

theorem explained_reject {effect : Effect} (explained : effect.Explained world)
    (builtin argument : String) :
    (Scene.reject effect builtin argument).Explained world := by
  intro message member
  rcases List.mem_append.mp member with earlier | here
  · exact explained message earlier
  · rw [List.mem_singleton.mp here]
    exact explains_invalid world builtin argument

theorem explained_foldl {one : Effect → String → Effect}
    (step : ∀ effect argument, effect.Explained world → (one effect argument).Explained world)
    (arguments : List String) {effect : Effect} (explained : effect.Explained world) :
    (arguments.foldl one effect).Explained world := by
  induction arguments generalizing effect with
  | nil => exact explained
  | cons argument rest ih => exact ih (step effect argument explained)

theorem explained_exportOne (effect : Effect) (argument : String)
    (explained : effect.Explained world) :
    (Scene.exportOne effect argument).Explained world := by
  simp only [Scene.exportOne]
  split
  · split <;> exact explained
  · exact explained_reject explained _ _

theorem explained_unsetOne (effect : Effect) (argument : String)
    (explained : effect.Explained world) :
    (Scene.unsetOne effect argument).Explained world := by
  unfold Scene.unsetOne
  split
  · exact explained
  · exact explained_reject explained _ _

variable (world) (session : Session)

theorem explained_cd (arguments : List String) :
    ((world.scene session).cd arguments).Explained world := by
  unfold Scene.cd
  split
  · rename_i text aimless
    have listed : text ∈ complaints := by
      unfold Scene.cdTarget at aimless
      split at aimless
      · split at aimless <;> cases aimless
        decide
      · split at aimless <;> cases aimless
        decide
      · cases aimless
      · cases aimless
        decide
    exact List.forall_mem_singleton.mpr (explains_complaint world listed _)
  · split
    · rename_i path _ _ _ failure unreached
      exact List.forall_mem_singleton.mpr ⟨.directory path failure, unreached, rfl, rfl⟩
    · exact List.forall_mem_nil _

theorem explained_pwd : ((world.scene session).pwd).Explained world := by
  unfold Scene.pwd
  split
  · exact List.forall_mem_nil _
  · rename_i failure removed
    exact List.forall_mem_singleton.mpr ⟨.workingDirectory failure, removed, rfl, rfl⟩

theorem explained_exit (arguments : List String) :
    ((world.scene session).exit arguments).Explained world := by
  unfold Scene.exit
  split
  · exact List.forall_mem_nil _
  · split
    · refine List.forall_mem_singleton.mpr
        ⟨.misused _, ⟨"numeric argument required", by decide, ?_⟩, rfl, rfl⟩
      exact (suffix_append _ _).trans (suffix_append _ _)
    · split
      · exact List.forall_mem_nil _
      · exact List.forall_mem_singleton.mpr (explains_complaint world (by decide) _)

/-- Whatever a builtin has to say has a reason in the world that it runs in. -/
theorem explained_effect (builtin : Builtin) (arguments : List String) :
    ((world.scene session).effect builtin arguments).Explained world := by
  have still : ((world.scene session).still).Explained world := List.forall_mem_nil _
  cases builtin with
  | echo =>
      simp only [Scene.effect, Scene.echo]
      split <;> exact List.forall_mem_nil _
  | cd => exact explained_cd world session arguments
  | pwd => exact explained_pwd world session
  | «export» =>
      simp only [Scene.effect, Scene.exportAll]
      split
      · exact List.forall_mem_nil _
      · exact explained_foldl explained_exportOne arguments still
  | unset => exact explained_foldl explained_unsetOne arguments still
  | env =>
      simp only [Scene.effect, Scene.env]
      split
      · exact List.forall_mem_nil _
      · exact List.forall_mem_singleton.mpr (explains_complaint world (by decide) _)
  | exit => exact explained_exit world session arguments

theorem explained_print {effect : Effect} (explained : effect.Explained world) (name : String)
    (lineBuffered : Bool) (stream : Stream) :
    ∀ message ∈ (effect.print name { sink := world.sink stream, lineBuffered }).messages,
      world.Explains message := by
  intro message member
  have same : ({ sink := world.sink stream, lineBuffered } : Writer).sink = world.sink stream := rfl
  have written := Writer.blames_writePieces same effect.output
  have flushed := Writer.blames_flush written.same
  have failing : ∀ {failure}, (world.sink stream).writeFailure = some failure →
      message = writeError name failure → world.Explains message := by
    rintro failure fails rfl
    exact ⟨.write name failure, ⟨stream, fails⟩, rfl, rfl⟩
  -- The last message may be about flushing, the one before it about writing.
  rcases mem_afterFlush member with earlier | ⟨failure, failed, text⟩
  · rcases mem_afterWrite earlier with own | ⟨failure, failed, text⟩
    · exact explained message own
    · exact failing (writeFailure_of_blames written failed) text
  · exact failing (writeFailure_of_blames flushed failed) text

variable {does : Session → Command → Prop} {command : Command} {session}

theorem speaks_runBuiltinAt (doing : does session command)
    (named : isBuiltin command.program = true) (lineBuffered : Bool) (number : Nat) :
    world.Speaks does []
      (runBuiltinAt world session command.arguments lineBuffered number).1 := by
  have printed := World.Speaks.silent (.prints world lineBuffered number doing named)
  refine World.Speaks.messages ?_ printed
  cases command.arguments with
  | nil => exact List.forall_mem_nil _
  | cons name rest =>
      apply explained_print
      split
      · exact explained_effect world session _ rest
      · exact List.forall_mem_singleton.mpr (explains_complaint world (by decide) _)

end Builtins

/-! ## Redirections -/

section Redirecting

variable {does : Session → Command → Prop} {session : Session} {command : Command}
  {world after : World} {error : ShellError}

theorem explains_openTarget {redirection : Redirection}
    (failed : openTarget world redirection = .error error) : world.Explains error.message := by
  unfold openTarget at failed
  split at failed
  · rename_i ambiguous refuses
    cases failed
    unfold Redirection.path at refuses
    split at refuses <;> cases refuses
    exact ⟨.refused (.ambiguousRedirect redirection.target), trivial, rfl, rfl⟩
  · rename_i path _
    split at failed
    · cases failed
      exact ⟨.refused (.redirection path "here-document has no target file"), rfl, rfl, rfl⟩
    · rename_i mode _
      obtain ⟨failure, fails, rfl⟩ := of_mapError_error failed
      exact ⟨.target path failure, ⟨mode, fails⟩, rfl, rfl⟩

theorem tries_openInShell {redirections : List Redirection} (doing : does session command)
    (world : World) (written : ∀ redirection ∈ redirections, redirection ∈ command.redirections) :
    world.Tries does (openInShell world redirections).1 (openInShell world redirections).2 := by
  induction redirections generalizing world with
  | nil => exact .done (.quiet world)
  | cons redirection rest ih =>
      rw [List.forall_mem_cons] at written
      unfold openInShell
      split
      · exact ih world written.2
      · split
        · rename_i refused
          exact .failed (.quiet world) (explains_openTarget refused) (.quiet world)
        · rename_i opened number done
          have opens := World.Tells.opens doing written.1 done
          split
          · -- The target stays open, unless something after it fails.
            have later := ih opened written.2
            split
            · rename_i more
              rw [more] at later
              exact .done (opens.trans later.silent)
            · rename_i more
              rw [more] at later
              cases later with
              | failed early explains late =>
                  have closed := late.trans (.still (still_close _ number))
                  exact .failed (opens.trans early) explains closed
          · have closed := opens.trans (.still (still_close opened number))
            exact .after_silent closed (ih _ written.2)

theorem tries_applyRedirections {redirections : List Redirection} (heredocs : List HeredocPipe)
    (doing : does session command) (world : World)
    (written : ∀ redirection ∈ redirections, redirection ∈ command.redirections) :
    world.Tries does (applyRedirections world redirections heredocs).1
      (applyRedirections world redirections heredocs).2 := by
  induction redirections generalizing world heredocs with
  | nil => exact .done (.quiet world)
  | cons redirection rest ih =>
      rw [List.forall_mem_cons] at written
      unfold applyRedirections
      split
      · split
        · exact ih [] world written.2
        · refine .after_silent (.still ?_) (ih _ _ written.2)
          split
          · exact still_duplicate world _ _
          · exact .refl world
      · split
        · rename_i refused
          exact .failed (.quiet world) (explains_openTarget refused) (.quiet world)
        · rename_i opened number done
          have opens := World.Tells.opens doing written.1 done
          refine .after_silent (opens.trans (.still ?_)) (ih heredocs _ written.2)
          split
          · exact (still_duplicate opened _ _).trans (still_close _ number)
          · exact still_close opened number

theorem tries_wireStage (doing : does session command) (plumbing : Plumbing) (index : Nat)
    (world : World) :
    world.Tries does (plumbing.wireStage index command world).1
      (plumbing.wireStage index command world).2 := by
  have applied := tries_applyRedirections (plumbing.heredocs.getD index []) doing
    (plumbing.connect index world) fun _ => id
  have tries := World.Tries.after_silent (.still (still_connect world plumbing index)) applied
  unfold Plumbing.wireStage
  simp only
  split <;> rename_i same <;> rw [same] at tries
  · exact tries
  · exact .done (tries.silent.trans (.still ⟨rfl, rfl⟩))

end Redirecting

/-! ## Commands -/

section Commands

variable {does : Session → Command → Prop} {world after : World} {session : Session}
  {command : Command} {error : ShellError}

theorem World.Explains.of_own (own : error.IsOwn) (world : World) :
    world.Explains error.message :=
  ⟨.refused error, own, rfl, rfl⟩

theorem explains_runProgram (failed : runProgram world session command = .error error) :
    world.Explains error.message := by
  unfold runProgram at failed
  simp only at failed
  split at failed
  · rename_i unresolved
    cases failed
    exact .of_own (own_resolve unresolved) world
  · split at failed
    · cases failed
      have own : (ShellError.io .nulInData).IsOwn := rfl
      exact .of_own own world
    · split at failed
      · cases failed
      · rename_i errno refused
        cases failed
        exact ⟨.launch command.program errno, ⟨_, _, refused⟩, rfl, rfl⟩

theorem speaks_runCommand (doing : does session command) (world : World) :
    world.Speaks does [] (runCommand world session command).1 := by
  unfold runCommand
  by_cases named : isBuiltin command.program = true
  · rw [if_pos named]
    exact speaks_runBuiltinAt world doing named true _
  · rw [if_neg named]
    rw [Bool.not_eq_true] at named
    split
    · rename_i done
      exact .silent (.runs doing named done)
    · rename_i failed
      exact (World.Speaks.still (.refl world)).report (explains_runProgram failed)

theorem speaks_runInShell (doing : does session command)
    (named : isBuiltin command.program = true) (world : World) :
    world.Speaks does [] (runInShell world session command).1 := by
  have tries := tries_openInShell doing world fun _ => id
  unfold runInShell
  split <;> rename_i same <;> rw [same] at tries
  · exact tries.speaks
  · exact (World.Speaks.silent tries.silent).next (speaks_runBuiltinAt _ doing named true _)
  · rename_i number
    have ran := (World.Speaks.silent tries.silent).next
      (speaks_runBuiltinAt _ doing named false number)
    exact ran.next (.still (still_close _ number))

theorem speaks_runStage (doing : does session command) (plumbing : Plumbing) (index : Nat)
    (world : World) : world.Speaks does [] (runStage plumbing session index command world).1 := by
  have tries := tries_wireStage doing plumbing index world
  unfold runStage
  split <;> rename_i same <;> rw [same] at tries
  · exact tries.speaks
  · exact (World.Speaks.silent tries.silent).next (speaks_runCommand doing _)

end Commands

/-! ## Pipelines -/

section Pipelines

variable {does : Session → Command → Prop} {session : Session} {commands : List Command}

theorem speaks_runChild {started : Started} (doing : does session started.command)
    (plumbing : Plumbing) {origin : Process} {world : World}
    (here : origin.directory = world.process.directory) :
    world.Speaks does [] (runChild plumbing session origin world started) := by
  have ran := speaks_runStage doing plumbing started.index
    (world.inProcess (origin.child (World.childNumber started.child)))
  exact (World.Speaks.inChild _ here ran).next (.still ⟨rfl, rfl⟩)

theorem speaks_runChildren (plumbing : Plumbing) {origin : Process} (started : List Started)
    (doing : ∀ stage ∈ started, does session stage.command) (world : World)
    (here : origin.directory = world.process.directory) :
    world.Speaks does [] (started.foldl (runChild plumbing session origin) world) := by
  -- The shell stays in the directory that its children are started in.
  induction started generalizing world with
  | nil => exact .still (.refl world)
  | cons stage rest ih =>
      rw [List.forall_mem_cons] at doing
      have ran := speaks_runChild doing.1 plumbing here
      exact ran.next (ih doing.2 _ here)

theorem speaks_startStages (world : World) (index : Nat) :
    world.Speaks does [] (startStages world index commands).1 := by
  induction commands generalizing world index with
  | nil => exact .still (.refl world)
  | cons command rest ih =>
      unfold startStages
      split
      · rename_i errno refused
        have explains : world.Explains s!"fork: {errno.description}" :=
          ⟨.fork errno, refused, rfl, rfl⟩
        exact (World.Speaks.silent (.logs ..)).report explains
      · rename_i forked child done
        exact (World.Speaks.still (still_fork done)).next (ih forked (index + 1))

theorem tells_finish {plumbing : Plumbing} {world : World} {first : Nat}
    (knows : world.Knows (pipeEnds first plumbing.allPipes)) :
    world.Tells does [] (plumbing.finish world) := by
  -- Each pipe is filled while the numbers of those after it are still known.
  have sends : ∀ (pipes : List HeredocPipe) (world : World) (first : Nat),
      world.Knows (pipeEnds first (pipes.map HeredocPipe.ends)) →
        world.Tells does [] (pipes.foldl Plumbing.sendBody world) := by
    intro pipes
    induction pipes with
    | nil => exact fun world _ _ => .quiet world
    | cons pipe rest ih =>
        intro world first knows
        have later := ih _ (first + 1) (Plumbing.knows_sendBody knows)
        obtain ⟨reader, others⟩ := List.forall_mem_cons.mp knows
        have sent := Plumbing.sendBody_eq reader (List.forall_mem_cons.mp others).1
        have still : world.Still (Plumbing.sendBody world pipe) := by
          rw [sent]
          exact ⟨rfl, rfl⟩
        exact (World.Tells.still still).trans later
  apply World.Tells.trans (.still ?_) (sends _ _ _ (Plumbing.knows_closeStages knows))
  exact ⟨rfl, rfl⟩

theorem speaks_waitFor (world : World) (child : Nat) :
    world.Speaks does [] (world.waitFor child).1 := by
  have waits : world.Still { world with endings := world.endings.filter (·.1 ≠ child) } :=
    ⟨rfl, rfl⟩
  unfold World.waitFor
  split
  · exact (World.Speaks.still waits).next (.silent (.logs ..))
  · exact .still waits

theorem speaks_waitStage (last : Nat) (waited : World × Int) (stage : Nat × Nat) :
    waited.1.Speaks does [] (World.waitStage last waited stage).1 := by
  have waits : waited.1.Speaks does [] _ := speaks_waitFor waited.1 stage.2
  unfold World.waitStage
  simp only
  split
  · split
    · rename_i line ended
      exact waits.next (.silent (.announces _ (.inr ⟨_, ended⟩)))
    · exact waits
  · exact waits

theorem speaks_waitPipeline (world : World) (children : List (Nat × Nat)) (last : Nat) :
    world.Speaks does [] (world.waitPipeline children last).1 := by
  have waits : ∀ waited : World × Int,
      waited.1.Speaks does [] (children.foldl (World.waitStage last) waited).1 := by
    induction children with
    | nil => exact fun waited => .still (.refl waited.1)
    | cons stage rest ih => exact fun waited => (speaks_waitStage last waited stage).next (ih _)
  exact waits (world, Status.failure)

theorem speaks_runForked (doing : ∀ command ∈ commands, does session command) (world : World)
    (bodies : List (List String)) :
    world.Speaks does [] (runForked world session commands bodies).1 := by
  unfold runForked
  split
  · rename_i error refused
    obtain ⟨errno, _, rfl⟩ := of_mapError_error refused
    have explains : world.Explains (noPipe errno).message :=
      ⟨.pipe errno, ⟨_, _, refused⟩, rfl, rfl⟩
    exact (World.Speaks.silent (.logs ..)).report explains
  · rename_i laid plumbing done
    obtain ⟨piped, _⟩ := Plumbing.piped_lay done
    have lays : world.Still laid := by
      rw [piped.same]
      exact ⟨rfl, rfl⟩
    have starts : laid.Speaks does [] (startStages laid 0 commands).1 :=
      speaks_startStages laid 0
    have process := process_startStages laid 0 commands
    have started : ∀ stage ∈ (startStages laid 0 commands).2.1, does session stage.command :=
      fun stage member => doing _ (command_of_started member)
    simp only
    generalize (startStages laid 0 commands).1 = forked at starts process ⊢
    -- A report on a stage that was not started leaves the numbers of the pipes as they were laid.
    have knows : forked.Knows (pipeEnds world.pipes.length plumbing.allPipes) := by
      intro slot member
      rw [World.stream?, process]
      exact piped.gains.opened slot member
    have here : laid.process.directory = (plumbing.finish forked).process.directory := by
      rw [process_finish, process]
      rfl
    have sent := ((World.Speaks.still lays).next starts).next (.silent (tells_finish knows))
    have ran := sent.next (speaks_runChildren plumbing _ started _ here)
    exact ran.next (speaks_waitPipeline _ _ _)

/-- Whatever a pipeline reports has a reason, and is about no failed read. -/
theorem speaks_runCommands (doing : ∀ command ∈ commands, does session command) (world : World)
    (bodies : List (List String)) :
    world.Speaks does [] (runCommands world session commands bodies).1 := by
  have forks := speaks_runForked doing world bodies
  unfold runCommands
  split
  · split
    · rename_i command named
      exact speaks_runInShell (doing command (List.mem_singleton_self command)) named world
    · exact forks
  · exact forks

end Pipelines

end PipeShell
