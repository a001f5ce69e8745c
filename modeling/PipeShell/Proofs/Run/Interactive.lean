import PipeShell.Proofs.Run.Standing
import PipeShell.Proofs.System.Writing

/-!
# Interactive sources

The lines of a script can come from a source that is interactive or from one that is not. Main
statement: the two runs come to the same. Only the interactive one has its prompts rendered, and
says on standard error that it leaves.
-/

namespace PipeShell

/-! ## Here-documents -/

/-- The source of a script, interactive or not, which was asked with these prompts so far. It shows
nothing of them. -/
def Source.scripted (interactive : Bool) (prompts : List String) (source : Source) : Source :=
  { source with interactive, prompts, terminal := false }

/-- The same comes of it whatever the source is like, and so many lines are asked for on the way. -/
def ReadsAlike {α : Type} (result : Bool → List String → World × Source × α) : Prop :=
  ∃ (world : World) (left : Source) (value : α) (count : Nat), ∀ interactive prompts,
    result interactive prompts =
      (world, left.scripted interactive (prompts ++ List.replicate count heredocPrompt), value)

namespace ReadsAlike

variable {α β : Type}

theorem done (world : World) (source : Source) (value : α) :
    ReadsAlike fun interactive prompts => (world, source.scripted interactive prompts, value) :=
  ⟨world, source, value, 0, fun interactive prompts => by
    rw [List.replicate_zero, List.append_nil]⟩

theorem next {result : Bool → List String → World × Source × α} (alike : ReadsAlike result) :
    ReadsAlike fun interactive prompts => result interactive (prompts ++ [heredocPrompt]) := by
  obtain ⟨world, left, value, count, same⟩ := alike
  refine ⟨world, left, value, count + 1, fun interactive prompts => ?_⟩
  simp only [same, List.append_assoc, List.singleton_append, List.replicate_succ]

theorem bind {first : Bool → List String → Collected α}
    {next : World → Source → α → Collected β} (alike : ReadsAlike first)
    (more : ∀ world (left : Source) value, ReadsAlike fun interactive prompts =>
      next world (left.scripted interactive prompts) value) :
    ReadsAlike fun interactive prompts => (first interactive prompts).bind next := by
  obtain ⟨world, left, outcome, count, same⟩ := alike
  simp only [same]
  match outcome with
  | .error error => exact ⟨world, left, .error error, count, fun _ _ => rfl⟩
  | .ok none => exact ⟨world, left, .ok none, count, fun _ _ => rfl⟩
  | .ok (some value) =>
      obtain ⟨after, rest, result, others, later⟩ := more world left value
      refine ⟨after, rest, result, count + others, fun interactive prompts => ?_⟩
      rw [← List.replicate_append_replicate, ← List.append_assoc, ← later]
      rfl

end ReadsAlike

theorem readsAlike_readBody (session : Session) (heredoc : Redirection) (world : World)
    (source : Source) (body : String) (events : List Event) :
    ReadsAlike fun interactive prompts =>
      readBody session heredoc world (source.scripted interactive prompts) body events := by
  -- The next step finds the source asked once more, and nothing was shown.
  have given : ∀ (source : Source) event rest interactive prompts,
      (source.scripted interactive prompts).give heredocPrompt event rest =
        (source.give heredocPrompt event rest).scripted interactive
          (prompts ++ [heredocPrompt]) :=
    fun _ _ _ _ _ => rfl
  have silent : ∀ (source : Source) (world : World) interactive prompts,
      (source.scripted interactive prompts).showPrompt world heredocPrompt = world :=
    fun _ _ _ _ => rfl
  induction events generalizing world source body with
  | nil =>
      simp only [readBody, given, silent]
      exact .next (.done _ _ _)
  | cons event rest ih =>
      simp only [readBody, given, silent]
      split
      · exact .next (.done _ _ _)
      · exact .next (.done _ _ _)
      · exact .next (.done _ _ _)
      · split
        · exact .next (.done _ _ _)
        · exact .next (ih _ _ _)

theorem readsAlike_readBodies (session : Session) (world : World) (source : Source)
    (heredocs : List Redirection) :
    ReadsAlike fun interactive prompts =>
      readBodies session world (source.scripted interactive prompts) heredocs := by
  induction heredocs generalizing world source with
  | nil => exact .done world source _
  | cons heredoc rest ih =>
      refine .bind (readsAlike_readBody session heredoc world source "" source.events) ?_
      exact fun world left body => .bind (ih world left) fun _ _ _ => .done _ _ _

theorem readsAlike_collectHeredocs (session : Session) (world : World) (source : Source)
    (commands : List Command) :
    ReadsAlike fun interactive prompts =>
      collectHeredocs session world (source.scripted interactive prompts) commands := by
  induction commands generalizing world source with
  | nil => exact .done world source _
  | cons command rest ih =>
      refine .bind (readsAlike_readBodies session world source command.heredocs) ?_
      exact fun world left bodies => .bind (ih world left) fun _ _ _ => .done _ _ _

theorem readsAlike_execute [Launching] (world : World) (source : Source) (session : Session)
    (pipeline : Pipeline) :
    ReadsAlike fun interactive prompts =>
      execute world (source.scripted interactive prompts) session pipeline := by
  obtain ⟨read, left, outcome, count, same⟩ :=
    readsAlike_collectHeredocs session world source pipeline.commands
  unfold execute
  split
  · exact .done world source session
  · simp only [same]
    match outcome with
    | .error error => exact ⟨_, left, _, count, fun _ _ => rfl⟩
    | .ok none => exact ⟨_, left, _, count, fun _ _ => rfl⟩
    | .ok (some bodies) => exact ⟨_, left, _, count, fun _ _ => rfl⟩

/-! ## Lines -/

namespace Shell

def scripted (interactive : Bool) (prompts : List String) (shell : Shell) : Shell :=
  { shell with source := shell.source.scripted interactive prompts }

theorem handleInput_scripted [Launching] (shell : Shell) (line : String) :
    ∃ (after : Shell) (count : Nat), ∀ interactive prompts,
      (shell.scripted interactive prompts).handleInput line =
        after.scripted interactive (prompts ++ List.replicate count heredocPrompt) := by
  cases space : isSpace line with
  | true =>
      refine ⟨shell, 0, fun interactive prompts => ?_⟩
      rw [handleInput_space _ space, List.replicate_zero, List.append_nil]
  | false =>
      simp only [handleInput_text _ space]
      have parses : ∀ interactive prompts,
          parseLine (shell.scripted interactive prompts).session line =
            parseLine shell.session line := fun _ _ => rfl
      simp only [parses]
      cases parseLine shell.session line with
      | error error =>
          refine ⟨{ shell with source := shell.source.remember line }.fail error error.status, 0,
            fun interactive prompts => ?_⟩
          rw [List.replicate_zero, List.append_nil]
          rfl
      | ok pipeline =>
          obtain ⟨world, left, session, count, same⟩ := readsAlike_execute shell.world
            (shell.source.remember line) shell.session pipeline
          refine ⟨{ shell with world, source := left, session }.forgetInterrupt, count,
            fun interactive prompts => ?_⟩
          have executed : execute (shell.scripted interactive prompts).world
              ((shell.scripted interactive prompts).source.remember line)
              (shell.scripted interactive prompts).session pipeline = _ := same interactive prompts
          simp only [executed]
          rfl

theorem noticeInterrupt_scripted (interactive : Bool) (prompts : List String) (shell : Shell) :
    (shell.scripted interactive prompts).noticeInterrupt =
      shell.noticeInterrupt.scripted interactive prompts := by
  rw [noticeInterrupt_eq, noticeInterrupt_eq]
  rfl

/-! ## Prompts -/

def themePrompt (shell : Shell) : String :=
  (shell.theme.render shell.colored shell.world shell.session.exitStatus).2

/-- Rendering the prompt leaves no record: there is no log, or the working directory has a name. -/
def Unlogged (shell : Shell) : Prop :=
  shell.process.journal = none ∨ ∃ path, shell.world.currentDirectory = .ok path

theorem Unlogged.render {shell : Shell} (unlogged : shell.Unlogged) :
    shell.theme.render shell.colored shell.world shell.session.exitStatus =
      (shell.world, shell.themePrompt) := by
  refine Prod.ext ?_ rfl
  rcases unlogged with silent | ⟨path, named⟩
  · unfold Theme.render
    split
    · rfl
    · have silent : shell.world.process.journal = none := silent
      simp only [World.log, silent]
  · simp only [Theme.render, named]

end Shell

/-- Why a line was asked for: by the prompt of a shell, or for a here-document. -/
inductive Asked where
  | prompt (shell : Shell)
  | heredoc

namespace Asked

def text (interactive : Bool) : Asked → String
  | .prompt shell => if interactive then shell.themePrompt else ""
  | .heredoc => heredocPrompt

def shell? : Asked → Option Shell
  | .prompt shell => some shell
  | .heredoc => none

end Asked

namespace Shell

theorem readLine_scripted {shell : Shell} (unlogged : shell.Unlogged) :
    ∃ after : Shell, ∀ interactive prompts,
      (shell.scripted interactive prompts).readLine =
        (after.scripted interactive (prompts ++ [(Asked.prompt shell).text interactive]),
          shell.source.next.outcome) := by
  refine ⟨{ shell with
    world := shell.source.next.arrive shell.world
    source := shell.source.give "" shell.source.next (shell.source.events.drop 1) },
    fun interactive prompts => ?_⟩
  have prompted : (shell.scripted interactive prompts).prompt =
      (shell.scripted interactive prompts, (Asked.prompt shell).text interactive) := by
    cases interactive with
    | true => simp only [prompt, scripted, Source.scripted, unlogged.render, Asked.text, if_true]
    | false => rfl
  simp only [readLine, prompted]
  rfl

/-! ## Turns -/

def saysExit (leaves : Bool) (shell : Shell) : Shell :=
  if leaves then shell.sayExit else shell

theorem saysExit_scripted (leaves : Bool) (shell : Shell) (prompts : List String) :
    (shell.scripted false prompts).saysExit leaves = shell.scripted false prompts := by
  cases leaves <;> rfl

end Shell

def Moment.leaves [Launching] (moment : Moment) : Bool :=
  match moment.shell.readLine with
  | (_, .ok .endOfInput) => true
  | (read, .ok (.line line)) => (read.noticeInterrupt.handleInput line).session.shouldExit
  | _ => false

namespace Shell

/-- What a turn does of a shell whose source was asked like this, interactive or not. -/
inductive TurnsAlike [Launching] (shell : Shell) (failures : Nat) : List Asked → Prop where
  | stop (ended : Shell) (leaves : Bool) (asked : List Asked)
      (same : ∀ interactive prompts,
        (shell.scripted interactive prompts).turn failures =
            .stop ((ended.scripted interactive
              (prompts ++ asked.map (Asked.text interactive))).saysExit leaves) ∧
          Moment.leaves ⟨shell.scripted interactive prompts, failures⟩ = leaves) :
      TurnsAlike shell failures asked
  | goOn (next : Shell) (failed : Nat) (asked : List Asked)
      (same : ∀ interactive prompts,
        (shell.scripted interactive prompts).turn failures =
          .goOn (next.scripted interactive (prompts ++ asked.map (Asked.text interactive)))
            failed) :
      TurnsAlike shell failures asked

def Next.scripted (interactive : Bool) (prompts : List String) : Next → Next
  | .stop shell => .stop (shell.scripted interactive prompts)
  | .goOn shell failures => .goOn (shell.scripted interactive prompts) failures

theorem afterFailure_scripted (interactive : Bool) (prompts : List String) (shell : Shell)
    (error : ShellError) (failures : Nat) :
    (shell.scripted interactive prompts).afterFailure error failures =
      (shell.afterFailure error failures).scripted interactive prompts := by
  unfold afterFailure
  split
  · rfl
  · simp only
    split <;> rfl

theorem turnsAlike [Launching] {shell : Shell} (unlogged : shell.Unlogged) (failures : Nat) :
    ∃ count, shell.TurnsAlike failures (.prompt shell :: List.replicate count .heredoc) := by
  obtain ⟨after, reads⟩ := readLine_scripted unlogged
  cases outcome : shell.source.next.outcome with
  | error error =>
      rw [outcome] at reads
      refine ⟨0, ?_⟩
      cases came : after.afterFailure error failures with
      | stop ended =>
          refine .stop ended false _ fun interactive prompts => ?_
          simp only [turn, Moment.leaves, reads, afterFailure_scripted, came, and_true]
          rfl
      | goOn next failed =>
          refine .goOn next failed _ fun interactive prompts => ?_
          simp only [turn, reads, afterFailure_scripted, came]
          rfl
  | ok answer =>
      rw [outcome] at reads
      cases answer with
      | interrupted =>
          refine ⟨0, .goOn (after.afterInterrupt failures).shell failures _
            fun interactive prompts => ?_⟩
          simp only [turn, reads]
          rfl
      | endOfInput =>
          refine ⟨0, .stop after true _ fun interactive prompts => ?_⟩
          simp only [turn, Moment.leaves, reads, and_true]
          rfl
      | line line =>
          -- Only here can there be more reads than the one at the prompt.
          obtain ⟨handled, count, handles⟩ := handleInput_scripted after.noticeInterrupt line
          have asked : ∀ interactive (prompts : List String),
              prompts ++ [(Asked.prompt shell).text interactive] ++
                  List.replicate count heredocPrompt =
                prompts ++ (Asked.prompt shell :: List.replicate count .heredoc).map
                  (Asked.text interactive) := by
            intro interactive prompts
            rw [List.map_cons, List.map_replicate, List.append_assoc, List.singleton_append]
            rfl
          refine ⟨count, ?_⟩
          cases exits : handled.session.shouldExit with
          | true =>
              refine .stop handled true _ fun interactive prompts => ?_
              simp only [turn, Moment.leaves, reads, afterLine, noticeInterrupt_scripted, handles,
                asked]
              exact ⟨if_pos exits, exits⟩
          | false =>
              refine .goOn handled 0 _ fun interactive prompts => ?_
              simp only [turn, reads, afterLine, noticeInterrupt_scripted, handles, asked]
              exact if_neg (by simpa [scripted] using exits)

end Shell

/-! ## Whole runs -/

/-- The same run with the plain source instead of the interactive one. -/
theorem Run.runLoop_scripted [Launching] {shell ended : Shell} {failures : Nat}
    {moments : List Moment} {prompts : List String}
    (run : Run (shell.scripted true prompts) failures moments ended)
    (unlogged : ∀ moment ∈ moments, moment.shell.Unlogged) :
    ∃ (left : Shell) (asked : List Asked) (last : Moment),
      moments.getLast? = some last ∧ asked.filterMap Asked.shell? = moments.map Moment.shell ∧
      ended = (left.scripted true (prompts ++ asked.map (Asked.text true))).saysExit last.leaves ∧
      ∀ others, (shell.scripted false others).runLoop failures =
        (left.scripted false (others ++ asked.map (Asked.text false))).saysExit last.leaves := by
  have prompted : ∀ (shown : Shell) count,
      (Asked.prompt shown :: List.replicate count .heredoc).filterMap Asked.shell? = [shown] := by
    intro shown count
    rw [List.filterMap_cons, List.filterMap_replicate_of_none rfl]
    rfl
  generalize start : shell.scripted true prompts = shown at run
  induction run generalizing shell prompts with
  | @stop shown ended failures stops =>
      -- Turns of the two sources are alike, so the plain one stops here as well.
      subst start
      obtain ⟨count, turns⟩ :=
        Shell.turnsAlike (unlogged _ (List.mem_singleton.mpr rfl)) failures
      cases turns with
      | goOn next failed _ same =>
          cases stops.symm.trans (same true prompts)
      | stop left leaves _ same =>
          obtain ⟨turn, leave⟩ := same true prompts
          refine ⟨left, _, _, rfl, prompted _ count, ?_, fun others => ?_⟩
          · exact leave ▸ Shell.Next.stop.inj (stops.symm.trans turn)
          · exact leave ▸ Shell.runLoop_of_stop (same false others).1
  | @goOn shown next ended failures failed moments goes run ih =>
      subst start
      obtain ⟨here, others⟩ := List.forall_mem_cons.mp unlogged
      obtain ⟨count, turns⟩ := Shell.turnsAlike here failures
      cases turns with
      | stop left leaves _ same =>
          cases goes.symm.trans (same true prompts).1
      | goOn reached counted _ same =>
          obtain ⟨rfl, rfl⟩ := Shell.Next.goOn.inj (goes.symm.trans (same true prompts))
          obtain ⟨left, asked, last, final, shells, ends, plain⟩ := ih others rfl
          refine ⟨left, .prompt (shell.scripted true prompts) ::
            List.replicate count .heredoc ++ asked, last, ?_, ?_, ?_, fun plainPrompts => ?_⟩
          · rw [List.getLast?_cons, final]
            rfl
          · rw [List.filterMap_append, prompted, shells]
            rfl
          · rw [ends, List.map_append, List.append_assoc]
          · have turn : (shell.scripted false plainPrompts).turn failures = _ :=
              same false plainPrompts
            rw [Shell.runLoop_of_goOn turn, plain, List.map_append, List.append_assoc]

namespace Shell

variable [Launching]

structure Complains (shell : Shell) : Prop where
  standard : shell.process.descriptors.Standard
  shown : shell.world.stream? Descriptors.standardError = some .errors

theorem Complains.run {shell : Shell} (complains : shell.Complains) : shell.run.Complains := by
  have stands := (shell.run_runLoop 0).stands.2.standard complains.standard
  exact ⟨complains.standard.of_same stands, (stands 2 (by decide)).trans complains.shown⟩

/-- If there is no log, or each prompt finds its working directory, then an interactive source
changes only what is shown: a log would have a record of each prompt whose directory was removed.
The prompts are those of the theme instead of empty ones, and leaving adds a line on standard error;
of the session, the world and what is left to read, all else is as with the plain source. -/
theorem run_interactive (shell : Shell) :
    let shown := shell.scripted true shell.source.prompts
    let plain := shell.scripted false shell.source.prompts
    (shell.process.journal = none ∨
      ∀ moment ∈ shown.moments 0, ∃ path, moment.shell.world.currentDirectory = .ok path) →
    ∃ (asked : List Asked) (last : Moment),
      asked.filterMap Asked.shell? = (shown.moments 0).map Moment.shell ∧
      (shown.moments 0).getLast? = some last ∧
      plain.run.source.prompts = shell.source.prompts ++ asked.map (Asked.text false) ∧
      shown.run = { plain.run with
        source := { plain.run.source with
          interactive := true
          prompts := shell.source.prompts ++ asked.map (Asked.text true) }
        world := if last.leaves then plain.run.world.complain "exit" else plain.run.world } ∧
      (shell.Complains →
        shown.run.world = { plain.run.world with
          errors := plain.run.world.errors ++ if last.leaves then encode "exit\n" else [] }) := by
  intro shown plain unlogged
  have run := shown.run_runLoop 0
  have unloggedAll : ∀ moment ∈ shown.moments 0, moment.shell.Unlogged := by
    intro moment member
    rcases unlogged with silent | named
    · -- No command of the run opens a log.
      exact .inl ((run.stands.1 moment member).journal.trans silent)
    · exact .inr (named moment member)
  obtain ⟨left, asked, last, final, shells, ends, runs⟩ := run.runLoop_scripted unloggedAll
  simp only [saysExit_scripted] at runs
  have ended : shown.run = { plain.run with
      source := { plain.run.source with
        interactive := true
        prompts := shell.source.prompts ++ asked.map (Asked.text true) }
      world := if last.leaves then plain.run.world.complain "exit" else plain.run.world } := by
    simp only [Shell.run, ends, runs, plain]
    cases last.leaves <;> rfl
  refine ⟨asked, last, shells, final, ?_, ended, fun complains => ?_⟩
  · simp only [Shell.run, runs, plain]
    rfl
  · have complaining : plain.Complains := ⟨complains.standard, complains.shown⟩
    rw [ended]
    cases last.leaves with
    | true => exact World.write_accepted complaining.run.shown rfl _
    | false => simp

end Shell

def leavingShell : Shell :=
  { source :=
      { events := [.line "echo on <<E", .line "body", .line "E", .line "exit 3", .line "pwd"] } }

open scoped Launching in
theorem Shell.run_interactive_leavingShell :
    let shown := leavingShell.scripted true []
    let plain := leavingShell.scripted false []
    leavingShell.process.journal = none ∧ leavingShell.Complains ∧
      plain.run.source.prompts = ["", "> ", "> ", ""] ∧
      shown.run.source.prompts = ["♡ / minish$ ", "> ", "> ", "♡ / minish$ "] ∧
      shown.run.source.events = plain.run.source.events ∧
      shown.run.session = plain.run.session ∧
      shown.run.world = { plain.run.world with
        errors := plain.run.world.errors ++ encode "exit\n" } := by
  intro shown plain
  have complains : leavingShell.Complains := by
    refine ⟨?_, rfl⟩
    unfold Descriptors.Standard
    decide
  have leaves : (shown.moments 0).getLast?.map Moment.leaves = some true := by decide +kernel
  obtain ⟨asked, last, _, final, _, same, errors⟩ := leavingShell.run_interactive (.inl rfl)
  have final : (shown.moments 0).getLast? = some last := final
  rw [final, Option.map_some, Option.some_inj] at leaves
  have world := errors complains
  rw [leaves] at world
  have events := congrArg (fun shell => shell.source.events) same
  have session := congrArg Shell.session same
  exact ⟨rfl, complains, by decide +kernel, by decide +kernel, events, session, world⟩

end PipeShell
