import PipeShell.Proofs.Run.Behaviours
import PipeShell.Proofs.Run.Pipes

/-!
# Starting and waiting

Stages are started in order, up to the first that cannot be; those that were started are waited for
in the same order. Main statement: however the stages of a pipeline behave, its status is that of
the last one, and a failure if a pipe or a stage was missing.
-/

namespace PipeShell

/-! ## Endings -/

theorem findEnding_filter (child other : Nat) (endings : List (Nat × Ending)) :
    findEnding other (endings.filter (·.1 ≠ child)) =
      if other = child then none else findEnding other endings := by
  induction endings with
  | nil => simp [findEnding]
  | cons entry rest ih => grind [findEnding]

namespace World

variable (world : World)

/-- The world after waiting for the children, one after another and for each once. -/
def reap (children : List Nat) : World :=
  children.foldl (fun world child => (world.waitFor child).1) world

theorem ending_waitFor (child : Nat) : (world.waitFor child).2 = world.endingOf child := by
  unfold waitFor
  split
  · rename_i errno lost
    rw [lost]
  · rfl

theorem endings_waitFor (child : Nat) :
    (world.waitFor child).1.endings = world.endings.filter (·.1 ≠ child) := by
  unfold waitFor
  split
  · exact (World.wrote_log _ _ _).endings
  · rfl

theorem endingOf_waitFor_of_ne {child other : Nat} (different : other ≠ child) :
    (world.waitFor child).1.endingOf other = world.endingOf other := by
  rw [endingOf, endings_waitFor, findEnding_filter, if_neg different, endingOf]

theorem endingOf_recordEnding (child : Nat) (ending : Ending) :
    (world.recordEnding child ending).endingOf child = ending := by
  simp only [endingOf, recordEnding, findEnding, if_true, Option.getD_some]

theorem reap_concat (children : List Nat) (child : Nat) :
    world.reap (children ++ [child]) = ((world.reap children).waitFor child).1 := by
  rw [reap, List.foldl_concat]
  rfl

theorem endings_reap (children : List Nat) :
    (world.reap children).endings = world.endings.filter (·.1 ∉ children) := by
  induction children generalizing world with
  | nil => simp [reap]
  | cons child rest ih =>
      have step : world.reap (child :: rest) = (world.waitFor child).1.reap rest := rfl
      rw [step, ih, endings_waitFor, List.filter_filter]
      simp only [List.mem_cons, not_or, ne_eq, Bool.decide_and, Bool.and_comm]

theorem endingOf_reap {children : List Nat} {other : Nat} (absent : other ∉ children) :
    (world.reap children).endingOf other = world.endingOf other := by
  induction children generalizing world with
  | nil => rfl
  | cons child rest ih =>
      rw [List.mem_cons, not_or] at absent
      have step : world.reap (child :: rest) = (world.waitFor child).1.reap rest := rfl
      rw [step, ih _ absent.2, endingOf_waitFor_of_ne world absent.1]

/-! ## Waiting for stages -/

def tell (ending : Ending) : World :=
  match ending.report with
  | some line => world.complain line
  | none => world

theorem waitStage_last (last : Nat) (status : Int) (child : Nat) :
    waitStage last (world, status) (last, child) =
      ((world.waitFor child).1.tell (world.endingOf child), (world.endingOf child).status) := by
  unfold waitStage tell
  simp only [if_true, ending_waitFor]
  cases (world.endingOf child).report <;> rfl

theorem foldl_waitStage {last : Nat} {stages : List (Nat × Nat)}
    (others : ∀ stage ∈ stages, stage.1 ≠ last) (status : Int) :
    stages.foldl (waitStage last) (world, status) =
      (world.reap (stages.map Prod.snd), status) := by
  induction stages generalizing world with
  | nil => rfl
  | cons stage rest ih =>
      obtain ⟨first, later⟩ := List.forall_mem_cons.mp others
      have step : waitStage last (world, status) stage = ((world.waitFor stage.2).1, status) := by
        simp only [waitStage, if_neg first]
      rw [List.foldl_cons, step, ih _ later]
      rfl

theorem waitPipeline_others {last : Nat} {stages : List (Nat × Nat)}
    (others : ∀ stage ∈ stages, stage.1 ≠ last) :
    world.waitPipeline stages last = (world.reap (stages.map Prod.snd), Status.failure) :=
  world.foldl_waitStage others Status.failure

/-- The last stage alone is reported on and decides the status. -/
theorem waitPipeline_last {last child : Nat} {stages : List (Nat × Nat)}
    (others : ∀ stage ∈ stages, stage.1 ≠ last) (fresh : child ∉ stages.map Prod.snd) :
    world.waitPipeline (stages ++ [(last, child)]) last =
      ((world.reap (stages.map Prod.snd ++ [child])).tell (world.endingOf child),
        (world.endingOf child).status) := by
  have before := world.foldl_waitStage others Status.failure
  have known := world.endingOf_reap fresh
  rw [waitPipeline, List.foldl_concat, before, waitStage_last, known, reap_concat]

end World

/-! ## Starting stages -/

/-- The stages of the commands, numbered from `index` on, in children numbered from `child` on. -/
def stagesFrom (index child : Nat) : List Command → List Started
  | [] => []
  | command :: rest => ⟨index, child, command⟩ :: stagesFrom (index + 1) (child + 1) rest

theorem stagesFrom_append (index child : Nat) (first second : List Command) :
    stagesFrom index child (first ++ second) =
      stagesFrom index child first ++
        stagesFrom (index + first.length) (child + first.length) second := by
  induction first generalizing index child with
  | nil => rfl
  | cons command rest ih =>
      have indexes : index + 1 + rest.length = index + (rest.length + 1) := by omega
      have children : child + 1 + rest.length = child + (rest.length + 1) := by omega
      rw [List.cons_append, stagesFrom, ih, stagesFrom, List.length_cons, indexes, children,
        List.cons_append]

theorem children_stagesFrom (index child : Nat) (commands : List Command) :
    (stagesFrom index child commands).map Started.child = List.range' child commands.length := by
  induction commands generalizing index child with
  | nil => rfl
  | cons command rest ih => simp only [stagesFrom, List.map_cons, ih, List.range', List.length_cons]

theorem index_lt_of_mem_stagesFrom {index child : Nat} {commands : List Command} {stage : Started}
    (member : stage ∈ stagesFrom index child commands) :
    stage.index < index + commands.length := by
  induction commands generalizing index child with
  | nil => cases member
  | cons command rest ih =>
      rw [List.length_cons]
      rcases List.mem_cons.mp member with rfl | later
      · simp
      · have := ih later
        omega

theorem World.fork_eq {world : World} (allowed : world.processLimit ≠ some 0) :
    world.fork = .ok ({ world with
      children := world.children + 1, processLimit := world.processLimit.map (· - 1) },
      world.children) := by
  rw [fork, if_neg allowed]

/-- If the system allows for all stages, all are started. -/
theorem startStages_all {world : World} {index : Nat} {commands : List Command}
    (allowed : ∀ limit, world.processLimit = some limit → commands.length ≤ limit) :
    (startStages world index commands).2 = (stagesFrom index world.children commands, true) := by
  induction commands generalizing world index with
  | nil => rfl
  | cons command rest ih =>
      have one : world.processLimit ≠ some 0 := by
        intro none
        have := allowed 0 none
        simp at this
      have others : ∀ limit, (world.processLimit.map (· - 1)) = some limit →
          rest.length ≤ limit := by
        intro limit found
        obtain ⟨before, known, rfl⟩ := Option.map_eq_some_iff.mp found
        have := allowed before known
        rw [List.length_cons] at this
        omega
      have later := @ih { world with
        children := world.children + 1, processLimit := world.processLimit.map (· - 1) }
        (index + 1) others
      simp only [startStages, World.fork_eq one, later]
      rfl

theorem startStages_some {world : World} {index count : Nat} {commands : List Command}
    (limit : world.processLimit = some count) (fewer : count < commands.length) :
    (startStages world index commands).2 =
      (stagesFrom index world.children (commands.take count), false) := by
  induction commands generalizing world index count with
  | nil => simp at fewer
  | cons command rest ih =>
      cases count with
      | zero =>
          have refused : world.fork = .error world.processErrno := by rw [World.fork, if_pos limit]
          simp only [startStages, refused]
          rfl
      | succ count =>
          have one : world.processLimit ≠ some 0 := by simp [limit]
          have later := @ih { world with
            children := world.children + 1, processLimit := world.processLimit.map (· - 1) }
            (index + 1) count (by simp [limit]) (by simpa using fewer)
          simp only [startStages, World.fork_eq one, later]
          rfl

/-! ## Stages as they are waited for -/

def Started.waited (stage : Started) : Nat × Nat := (stage.index, stage.child)

theorem snd_waited (stages : List Started) :
    (stages.map Started.waited).map Prod.snd = stages.map Started.child :=
  List.map_map

/-- Stages of which the last was not started are waited for, and have failed. -/
theorem waitPipeline_short (world : World) (child : Nat) {commands : List Command} {last : Nat}
    (short : commands.length ≤ last) :
    world.waitPipeline ((stagesFrom 0 child commands).map Started.waited) last =
      (world.reap (List.range' child commands.length), Status.failure) := by
  rw [world.waitPipeline_others, snd_waited, children_stagesFrom]
  intro stage member
  obtain ⟨started, inStages, rfl⟩ := List.mem_map.mp member
  have := index_lt_of_mem_stagesFrom inStages
  simp only [Started.waited]
  omega

/-- Stages that were all started are waited for in order, and the last decides. -/
theorem waitPipeline_whole (world : World) (child : Nat) {commands : List Command}
    (nonempty : commands ≠ []) :
    let ending := world.endingOf (child + (commands.length - 1))
    world.waitPipeline ((stagesFrom 0 child commands).map Started.waited) (commands.length - 1) =
      ((world.reap (List.range' child commands.length)).tell ending, ending.status) := by
  obtain rfl | ⟨front, command, rfl⟩ := commands.eq_nil_or_concat'
  · exact absurd rfl nonempty
  · have split : (stagesFrom 0 child (front ++ [command])).map Started.waited =
        (stagesFrom 0 child front).map Started.waited ++
          [(front.length, child + front.length)] := by
      rw [stagesFrom_append, List.map_append, Nat.zero_add]
      rfl
    have count : (front ++ [command]).length = front.length + 1 := List.length_append
    have others : ∀ stage ∈ (stagesFrom 0 child front).map Started.waited,
        stage.1 ≠ front.length := by
      intro stage member
      obtain ⟨started, inStages, rfl⟩ := List.mem_map.mp member
      have := index_lt_of_mem_stagesFrom inStages
      simp only [Started.waited]
      omega
    have fresh : child + front.length ∉
        ((stagesFrom 0 child front).map Started.waited).map Prod.snd := by
      rw [snd_waited, children_stagesFrom, List.mem_range'_1]
      omega
    rw [count, Nat.add_sub_cancel, split, world.waitPipeline_last others fresh, snd_waited,
      children_stagesFrom, List.range'_concat, Nat.one_mul]

/-! ## Whole pipelines -/

namespace Behaviour

variable (behaviour : Behaviour)

/-- The world when the children of these stages have run, before any of them is waited for. -/
def runStarted (laid : World) (plumbing : Plumbing) (commands : List Command)
    (started : List Started) : World :=
  started.foldl (behaviour.runChild plumbing laid.process)
    (plumbing.finish (startStages laid 0 commands).1)

variable {world laid : World} {plumbing : Plumbing} {commands : List Command}
  {bodies : List (List String)}

theorem runForked_noPipe {error : ShellError}
    (failed : Plumbing.lay world commands.length bodies = .error error) :
    world.Wrote (behaviour.runForked world commands bodies).1 ∧
      (behaviour.runForked world commands bodies).2 = Status.failure := by
  simp only [runForked, failed]
  exact ⟨(world.wrote_log _ _).trans (World.wrote_report _ _), trivial⟩

theorem runForked_laid {started : List Started} {complete : Bool}
    (lays : Plumbing.lay world commands.length bodies = .ok (laid, plumbing))
    (starts : (startStages laid 0 commands).2 = (started, complete)) :
    behaviour.runForked world commands bodies =
      let (waited, status) := (behaviour.runStarted laid plumbing commands started).waitPipeline
        (started.map Started.waited) (commands.length - 1)
      (waited, if complete then status else Status.failure) := by
  simp only [runForked, lays, starts]
  rfl

/-- The ending of the last stage is the one that its behaviour came to, after all stages before it
had run and in a process of its own. -/
theorem endingOf_runStarted {last : Command} (found : commands.getLast? = some last)
    (first : Nat) :
    let started := stagesFrom 0 first commands
    let child := first + (commands.length - 1)
    let earlier := behaviour.runStarted laid plumbing commands started.dropLast
    (behaviour.runStarted laid plumbing commands started).endingOf child =
      (behaviour plumbing (commands.length - 1) last
        (earlier.inProcess (laid.process.child (World.childNumber child)))).2 := by
  intro started child earlier
  obtain ⟨front, split⟩ := List.getLast?_eq_some_iff.mp found
  have count : commands.length - 1 = front.length := by simp [split]
  have stages : started = stagesFrom 0 first front ++ [⟨front.length, child, last⟩] := by
    simp only [started, child, count]
    rw [split, stagesFrom_append, Nat.zero_add]
    rfl
  have step : behaviour.runStarted laid plumbing commands started =
      behaviour.runChild plumbing laid.process earlier ⟨front.length, child, last⟩ := by
    simp only [earlier, stages, List.dropLast_concat]
    rw [runStarted, List.foldl_concat]
    rfl
  rw [step, count]
  exact World.endingOf_recordEnding _ _ _

end Behaviour

theorem World.endings_tell (world : World) (ending : Ending) :
    (world.tell ending).endings = world.endings := by
  unfold tell
  split
  · exact (world.wrote_complain _).endings
  · rfl

theorem exitStatus_setStatus_ending (session : Session) (ending : Ending) :
    (∀ code, ending = .exited code → 0 ≤ code → code < 256 →
      (session.setStatus ending.status).exitStatus = code) ∧
    (∀ signal coreDumped, ending = .signaled signal coreDumped →
      (session.setStatus ending.status).exitStatus = 128 + signal.number) ∧
    ∀ errno, ending = .lost errno → (session.setStatus ending.status).exitStatus = 1 := by
  refine ⟨?_, ?_, ?_⟩
  · rintro code rfl low high
    exact Int.emod_eq_of_lt low high
  · rintro signal coreDumped rfl
    have range := signal.in_range
    exact Int.emod_eq_of_lt (by simp only [Ending.status]; omega)
      (by simp only [Ending.status]; omega)
  · rintro errno rfl
    rfl

/-- How a pipeline whose stages are children sets the status, however the stages behave. If a pipe
cannot be made, no child is started and the pipeline has failed. If the system allows for fewer
children than there are stages, the stages before that are started and each is waited for once, and
the pipeline has failed. Otherwise all stages are waited for once, in order, and the ending that the
last of them came to decides the status, whatever the others came to; only that ending is
reported. -/
theorem Behaviour.execute_status [Launching] (behaviour : Behaviour) {world read : World}
    {source left : Source} {session : Session} {pipeline : Pipeline}
    {bodies : List (List String)} (nonempty : pipeline.isEmpty = false)
    (forks : pipeline.isBuiltinAlone = false)
    (collected : collectHeredocs session world source pipeline.commands =
      (read, left, .ok (some bodies))) :
    let commands := pipeline.commands
    let done := behaviour.execute world source session pipeline
    PipeShell.execute world source session pipeline =
      (ofCommands session).execute world source session pipeline ∧
    (∀ error, Plumbing.lay read commands.length bodies = .error error →
      done.1.children = read.children ∧ done.1.endings = read.endings ∧
      done.2 = (left, session.setStatus Status.failure)) ∧
    ∀ laid plumbing, Plumbing.lay read commands.length bodies = .ok (laid, plumbing) →
      (∀ count, read.processLimit = some count → count < commands.length →
        let started := stagesFrom 0 read.children (commands.take count)
        let children := List.range' read.children count
        let ran := behaviour.runStarted laid plumbing commands started
        (startStages laid 0 commands).2 = (started, false) ∧
        done = (ran.reap children, left, session.setStatus Status.failure) ∧
        done.1.endings = ran.endings.filter (·.1 ∉ children)) ∧
      ((∀ limit, read.processLimit = some limit → commands.length ≤ limit) →
        let started := stagesFrom 0 read.children commands
        let children := List.range' read.children commands.length
        let ran := behaviour.runStarted laid plumbing commands started
        let child := read.children + (commands.length - 1)
        let ending := ran.endingOf child
        let earlier := behaviour.runStarted laid plumbing commands started.dropLast
        (startStages laid 0 commands).2 = (started, true) ∧
        (∀ last, commands.getLast? = some last →
          ending = (behaviour plumbing (commands.length - 1) last
            (earlier.inProcess (laid.process.child (World.childNumber child)))).2) ∧
        done = ((ran.reap children).tell ending, left, session.setStatus ending.status) ∧
        done.1.endings = ran.endings.filter (·.1 ∉ children) ∧
        (∀ code, ending = .exited code → 0 ≤ code → code < 256 →
          done.2.2.exitStatus = code) ∧
        (∀ signal coreDumped, ending = .signaled signal coreDumped →
          done.2.2.exitStatus = 128 + signal.number) ∧
        ∀ errno, ending = .lost errno → done.2.2.exitStatus = 1) := by
  intro commands done
  have forked : done = ((behaviour.runForked read commands bodies).1, left,
      session.setStatus (behaviour.runForked read commands bodies).2) :=
    behaviour.execute_forked nonempty forks collected
  refine ⟨execute_ofCommands world source session pipeline, ?_, ?_⟩
  · intro error failed
    obtain ⟨wrote, status⟩ := behaviour.runForked_noPipe failed
    rw [forked, status]
    exact ⟨wrote.children, wrote.endings, rfl⟩
  · intro laid plumbing lays
    have same := (Plumbing.piped_lay lays).1.same
    have known : laid.children = read.children := by rw [same]
    have limited : laid.processLimit = read.processLimit := by rw [same]
    constructor
    · intro count limit fewer started children ran
      have starts : (startStages laid 0 commands).2 = _ :=
        startStages_some (limited.trans limit) fewer
      have short : (commands.take count).length = count :=
        List.length_take_of_le (Nat.le_of_lt fewer)
      have waits := waitPipeline_short ran read.children
        (show (commands.take count).length ≤ commands.length - 1 by omega)
      rw [known] at starts
      rw [short] at waits
      have ended := behaviour.runForked_laid lays starts
      rw [waits] at ended
      rw [forked, ended]
      exact ⟨starts, rfl, ran.endings_reap children⟩
    · intro allowed started children ran child ending earlier
      have starts : (startStages laid 0 commands).2 = _ := startStages_all (limited ▸ allowed)
      have stages : commands ≠ [] := by simpa [Pipeline.isEmpty] using nonempty
      have waits := waitPipeline_whole ran read.children stages
      rw [known] at starts
      have ended := behaviour.runForked_laid lays starts
      rw [waits] at ended
      rw [forked, ended]
      refine ⟨starts, fun last found => behaviour.endingOf_runStarted found read.children, rfl, ?_,
        exitStatus_setStatus_ending session ending⟩
      exact (World.endings_tell _ _).trans (ran.endings_reap children)

def threeStages : Pipeline :=
  ⟨[{ arguments := ["cat"] }, { arguments := ["sort"] }, { arguments := ["echo", "done"] }]⟩

def killedLast : Behaviour := fun _ index _ world =>
  (world, if index = 2 then .signaled .SIGKILL false else .exited 7)

def threeStagesLaid : World :=
  { process := { descriptors := ⟨[(6, .pipeWriter 1), (5, .pipeReader 1), (4, .pipeWriter 0),
      (3, .pipeReader 0), (0, .input), (1, .output), (2, .errors)]⟩ }
    pipes := [[], []] }

open scoped Launching in
theorem Behaviour.execute_status_killedLast :
    threeStages.isEmpty = false ∧ threeStages.isBuiltinAlone = false ∧
    collectHeredocs {} {} {} threeStages.commands = ({}, {}, .ok (some [[], [], []])) ∧
    Plumbing.lay {} 3 [[], [], []] =
      .ok (threeStagesLaid, { pipes := [(3, 4), (5, 6)], heredocs := [[], [], []] }) ∧
    (killedLast.execute {} {} {} threeStages).2.2.exitStatus = 137 ∧
    (killedLast.execute {} {} {} threeStages).1.endings = [] := by
  have collected : collectHeredocs {} {} {} threeStages.commands =
      ({}, {}, .ok (some [[], [], []])) := rfl
  have lays : Plumbing.lay {} 3 [[], [], []] =
      .ok (threeStagesLaid, { pipes := [(3, 4), (5, 6)], heredocs := [[], [], []] }) := rfl
  obtain ⟨_, _, ends⟩ := killedLast.execute_status (by decide) (by decide) collected
  obtain ⟨_, behaved, _, endings, _, killed, _⟩ := (ends _ _ lays).2 nofun
  exact ⟨by decide, by decide, collected, lays, killed .SIGKILL false (behaved _ rfl), endings⟩

end PipeShell
