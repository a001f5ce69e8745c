import PipeShell.Proofs.Run.Builtins
import PipeShell.Proofs.Run.Sessions

/-!
# Changing directory

`cd` tells from its argument and two variables where to go, and either goes there or does nothing.
Main statement: a `cd` that is refused leaves everything as it is, one that succeeds records where
it went and where it came from, and `cd -` after it goes back and forth between the two.
-/

namespace PipeShell

/-! ## Setting two variables -/

namespace Environment

theorem assign_assign (name first second : String) (entries : List (String × String)) :
    assign name second (assign name first entries) = assign name second entries := by
  induction entries with
  | nil => simp [assign]
  | cons entry rest ih =>
      by_cases known : entry.1 = name <;> simp [assign, known, ih]

theorem assign_comm {name other : String} (different : name ≠ other) (first second : String)
    {entries : List (String × String)} (known : other ∈ entries.map Prod.fst) :
    assign other second (assign name first entries) =
      assign name first (assign other second entries) := by
  induction entries with
  | nil => cases known
  | cons entry rest ih =>
      obtain ⟨key, value⟩ := entry
      by_cases here : key = other
      · have elsewhere : key ≠ name := fun same => different (same.symm.trans here)
        simp [assign, here, different.symm]
      · have later : other ∈ rest.map Prod.fst := by
          rcases List.mem_cons.mp known with same | more
          · exact absurd same.symm here
          · exact more
        by_cases same : key = name
        · simp [assign, same, different]
        · simp [assign, same, here, ih later]

theorem set_set (environment : Environment) (name first second : String) :
    (environment.set name first).set name second = environment.set name second :=
  congrArg Environment.mk (assign_assign name first second environment.entries)

theorem set_comm {environment : Environment} {name other : String} (different : name ≠ other)
    (first second : String) (known : other ∈ environment.names) :
    (environment.set name first).set other second =
      (environment.set other second).set name first :=
  congrArg Environment.mk (assign_comm different first second known)

theorem mem_names_set (environment : Environment) (name value : String) :
    name ∈ (environment.set name value).names := by
  rw [names_set]
  split
  · assumption
  · simp

theorem names_prefix_set (environment : Environment) (name value : String) :
    environment.names <+: (environment.set name value).names := by
  rw [names_set]
  split
  · exact List.prefix_refl _
  · exact List.prefix_append _ _

end Environment

namespace Scene

theorem enter_enter (environment : Environment) (previous current earlier next : String) :
    enter (enter environment (some previous) current) (some earlier) next =
      enter environment (some earlier) next := by
  let moved := environment.set "OLDPWD" previous
  have known : "OLDPWD" ∈ moved.names := environment.mem_names_set _ _
  calc ((moved.set "PWD" current).set "OLDPWD" earlier).set "PWD" next
      = ((moved.set "OLDPWD" earlier).set "PWD" current).set "PWD" next := by
        rw [Environment.set_comm (by decide) current earlier known]
    _ = ((environment.set "OLDPWD" earlier).set "PWD" current).set "PWD" next := by
        rw [environment.set_set]
    _ = (environment.set "OLDPWD" earlier).set "PWD" next := by rw [Environment.set_set]

theorem pwd_enter (environment : Environment) (previous : Option String) (current : String) :
    (enter environment previous current).get? "PWD" = some current := by
  cases previous <;> simp [enter, Environment.get?_set]

theorem oldPwd_enter (environment : Environment) (previous : Option String) (current : String) :
    (enter environment previous current).get? "OLDPWD" =
      previous.or (environment.get? "OLDPWD") := by
  cases previous <;> simp [enter, Environment.get?_set]

theorem get?_enter_of_ne (environment : Environment) (previous : Option String) (current : String)
    {name : String} (notPwd : name ≠ "PWD") (notOldPwd : name ≠ "OLDPWD") :
    (enter environment previous current).get? name = environment.get? name := by
  cases previous <;> simp [enter, Environment.get?_set, notPwd.symm, notOldPwd.symm]

theorem names_prefix_enter (environment : Environment) (previous : Option String)
    (current : String) : environment.names <+: (enter environment previous current).names := by
  cases previous with
  | none => exact environment.names_prefix_set _ _
  | some previous =>
      exact (environment.names_prefix_set _ _).trans (Environment.names_prefix_set _ _ _)

/-! ## Where to go -/

/-- The directory that the arguments ask for. -/
inductive Aims (session : Session) : List String → String → Prop where
  | home {directory : String} :
      session.valueOf? "HOME" = some directory → Aims session [] directory
  | back {directory : String} :
      session.valueOf? "OLDPWD" = some directory → Aims session ["-"] directory
  | given {directory : String} : directory ≠ "-" → Aims session [directory] directory

/-- There is more than one argument, or the variable that would say where to go is not set. -/
inductive Aimless (session : Session) : List String → Prop where
  | home : session.valueOf? "HOME" = none → Aimless session []
  | back : session.valueOf? "OLDPWD" = none → Aimless session ["-"]
  | several (first second : String) (rest : List String) :
      Aimless session (first :: second :: rest)

theorem cdTarget_of_aims {session : Session} {arguments : List String} {target : String}
    (aims : Aims session arguments target) :
    cdTarget session arguments = .ok (target, decide (arguments = ["-"])) := by
  cases aims with
  | home known => simp [cdTarget, known]
  | back known => simp [cdTarget, known]
  | given named => simp [cdTarget, named]

theorem cdTarget_of_aimless {session : Session} {arguments : List String}
    (aimless : Aimless session arguments) : ∃ text, cdTarget session arguments = .error text := by
  cases aimless with
  | home unset => exact ⟨"HOME not set", by simp only [cdTarget, unset]⟩
  | back unset => exact ⟨"OLDPWD not set", by simp only [cdTarget, unset]⟩
  | several => exact ⟨"too many arguments", by simp [cdTarget]⟩

/-! ## What becomes of the scene -/

/-- Nothing but one message and the status shows that something was tried. -/
structure Refused (scene : Scene) (done : Effect) : Prop where
  session : done.session = scene.session
  directory : done.directory = scene.directory
  output : done.output = []
  message : ∃ text, done.messages = [text]
  status : done.status = 1

/-- The place was reached by way of `target`, and the two variables say so: where a path cannot be
read, the target stands for the new directory and `PWD` for the old one. -/
structure Entered (scene : Scene) (target : String) (place : Place) (done : Effect) : Prop where
  directory : done.directory = place
  pwd : ∀ path, scene.files.directoryPath place = .ok path →
    done.session.valueOf? "PWD" = some path
  pwd_unread : ∀ failure, scene.files.directoryPath place = .error failure →
    done.session.valueOf? "PWD" = some target
  oldPwd : ∀ path, scene.files.directoryPath scene.directory = .ok path →
    done.session.valueOf? "OLDPWD" = some path
  oldPwd_unread : ∀ failure, scene.files.directoryPath scene.directory = .error failure →
    done.session.valueOf? "OLDPWD" =
      (scene.session.valueOf? "PWD").or (scene.session.valueOf? "OLDPWD")
  others : ∀ name, name ≠ "PWD" → name ≠ "OLDPWD" →
    done.session.valueOf? name = scene.session.valueOf? name
  order : scene.session.environment.names <+: done.session.environment.names
  rest : done.session = { scene.session with environment := done.session.environment }
  success : done.messages = [] ∧ done.status = 0

variable {scene : Scene} {arguments : List String} {target : String} {place : Place}

theorem refused_fail (scene : Scene) (text : String) : scene.Refused (scene.fail text) :=
  ⟨rfl, rfl, rfl, ⟨text, rfl⟩, rfl⟩

theorem refused_cd_of_aimless (aimless : Aimless scene.session arguments) :
    scene.Refused (scene.cd arguments) := by
  obtain ⟨text, unknown⟩ := cdTarget_of_aimless aimless
  rw [cd, unknown]
  exact scene.refused_fail _

theorem refused_cd_of_unreached (aims : Aims scene.session arguments target) {failure : IoFailure}
    (unreached : scene.files.directoryAt scene.directory target = .error failure) :
    scene.Refused (scene.cd arguments) := by
  simp only [cd, cdTarget_of_aims aims, unreached]
  exact scene.refused_fail _

def pathOr (files : FileTree) (place : Place) (target : String) : String :=
  match files.directoryPath place with
  | .ok path => path
  | .error _ => target

theorem cd_of_reached (aims : Aims scene.session arguments target)
    (reached : scene.files.directoryAt scene.directory target = .ok place) :
    scene.cd arguments =
      { session := { scene.session with
          environment := enter scene.session.environment scene.previousDirectory
            (pathOr scene.files place target) }
        directory := place
        output := if arguments = ["-"] then [pathOr scene.files place target, "\n"] else [] } := by
  simp only [cd, cdTarget_of_aims aims, reached, decide_eq_true_eq]
  rfl

theorem entered_cd (aims : Aims scene.session arguments target)
    (reached : scene.files.directoryAt scene.directory target = .ok place) :
    scene.Entered target place (scene.cd arguments) := by
  rw [cd_of_reached aims reached]
  refine ⟨rfl, ?_, ?_, ?_, ?_, ?_, names_prefix_enter _ _ _, rfl, rfl, rfl⟩
  · intro path known
    simp only [Session.valueOf?, pathOr, known, pwd_enter]
  · intro failure unread
    simp only [Session.valueOf?, pathOr, unread, pwd_enter]
  · intro path known
    simp only [Session.valueOf?, previousDirectory, known, oldPwd_enter, Option.some_or]
  · intro failure unread
    simp only [Session.valueOf?, previousDirectory, unread, oldPwd_enter]
  · intro name notPwd notOldPwd
    exact get?_enter_of_ne _ _ _ notPwd notOldPwd

/-! ## Back and forth -/

def after (scene : Scene) (done : Effect) : Scene :=
  { scene with directory := done.directory, session := done.session }

/-- A change of directory between two places whose paths are known. -/
theorem cd_known {here there : String} (aims : Aims scene.session arguments target)
    (reached : scene.files.directoryAt scene.directory target = .ok place)
    (known : scene.files.directoryPath scene.directory = .ok here)
    (found : scene.files.directoryPath place = .ok there) :
    scene.cd arguments =
      { session := { scene.session with
          environment := enter scene.session.environment (some here) there }
        directory := place
        output := if arguments = ["-"] then [there, "\n"] else [] } := by
  rw [cd_of_reached aims reached]
  simp only [previousDirectory, known, pathOr, found]

/-- After a change of directory, `cd -` goes back if the path still leads there. -/
theorem cd_back {here there : String} (aims : Aims scene.session arguments target)
    (reached : scene.files.directoryAt scene.directory target = .ok place)
    (known : scene.files.directoryPath scene.directory = .ok here)
    (found : scene.files.directoryPath place = .ok there)
    (leads : scene.files.directoryAt place here = .ok scene.directory) :
    (scene.after (scene.cd arguments)).cd ["-"] =
      { session := { scene.session with
          environment := enter scene.session.environment (some there) here }
        directory := scene.directory
        output := [here, "\n"] } := by
  have left := cd_known aims reached known found
  have oldPwd : (scene.after (scene.cd arguments)).session.valueOf? "OLDPWD" = some here := by
    rw [left]
    exact oldPwd_enter _ _ _
  have directory : (scene.after (scene.cd arguments)).directory = place := by
    rw [left]
    rfl
  have back : (scene.after (scene.cd arguments)).cd ["-"] = _ :=
    cd_known (.back oldPwd) (directory ▸ leads) (directory ▸ found) known
  rw [back, left]
  simp only [after, enter_enter, ↓reduceIte]

/-- A second `cd -` goes there again and leaves the session as the first change of directory did. -/
theorem cd_forth {here there : String} (aims : Aims scene.session arguments target)
    (reached : scene.files.directoryAt scene.directory target = .ok place)
    (known : scene.files.directoryPath scene.directory = .ok here)
    (found : scene.files.directoryPath place = .ok there)
    (leadsBack : scene.files.directoryAt place here = .ok scene.directory)
    (leadsAgain : scene.files.directoryAt scene.directory there = .ok place) :
    (scene.after ((scene.after (scene.cd arguments)).cd ["-"])).cd ["-"] =
      { session := (scene.cd arguments).session, directory := place, output := [there, "\n"] } := by
  have left := cd_known aims reached known found
  have returned := cd_back aims reached known found leadsBack
  generalize (scene.after (scene.cd arguments)).cd ["-"] = back at returned
  have oldPwd : (scene.after back).session.valueOf? "OLDPWD" = some there := by
    rw [returned]
    exact oldPwd_enter _ _ _
  have directory : (scene.after back).directory = scene.directory := by rw [returned, after]
  have forth : (scene.after back).cd ["-"] = _ :=
    cd_known (.back oldPwd) (directory ▸ leadsAgain) (directory ▸ known) found
  rw [forth, returned, left]
  simp only [after, enter_enter, ↓reduceIte]

end Scene

/-- `cd` is all or nothing, and can be undone. With more than one argument, without a variable that
it needs, or if the directory cannot be entered, one message and the status 1 are all that comes of
it. Otherwise `PWD` is the path of the directory it went to and `OLDPWD` that of the one it left,
as far as these can be read, and the other variables keep their values and places. If both paths can
be read and still lead to their directories, `cd -` goes back, prints the path and exchanges the two
variables, and a second `cd -` restores the directory and the session. Printing has no part in this:
a writer that takes everything gets the output, and no writer changes the session or directory. -/
theorem Scene.cd_all_or_nothing (scene : Scene) (arguments : List String) :
    let done := scene.cd arguments
    (Aimless scene.session arguments → scene.Refused done) ∧
    (∀ target, Aims scene.session arguments target →
      (∀ failure, scene.files.directoryAt scene.directory target = .error failure →
        scene.Refused done) ∧
      ∀ place, scene.files.directoryAt scene.directory target = .ok place →
        scene.Entered target place done ∧
        ∀ here there, scene.files.directoryPath scene.directory = .ok here →
          scene.files.directoryPath place = .ok there →
          scene.files.directoryAt place here = .ok scene.directory →
          scene.files.directoryAt scene.directory there = .ok place →
          let back := (scene.after done).cd ["-"]
          let again := ((scene.after done).after back).cd ["-"]
          back.directory = scene.directory ∧ back.output = [here, "\n"] ∧
          back.session.valueOf? "PWD" = some here ∧
          back.session.valueOf? "OLDPWD" = some there ∧
          again.directory = place ∧ again.output = [there, "\n"] ∧
          again.session.valueOf? "PWD" = some there ∧
          again.session.valueOf? "OLDPWD" = some here ∧ again.session = done.session) ∧
    (∀ lineBuffered, ∃ writer : Writer, writer.accepted = done.output.flatMap encode ∧
      runBuiltin scene ("cd" :: arguments) { lineBuffered } =
        { session := done.session, directory := done.directory, messages := done.messages
          status := done.status, writer }) ∧
    ∀ writer, (runBuiltin scene ("cd" :: arguments) writer).session = done.session ∧
      (runBuiltin scene ("cd" :: arguments) writer).directory = done.directory := by
  intro done
  refine ⟨refused_cd_of_aimless, ?_, runBuiltin_accepted scene ("cd" :: arguments), ?_⟩
  · intro target aims
    refine ⟨fun failure => refused_cd_of_unreached aims, fun place reached => ?_⟩
    refine ⟨entered_cd aims reached, fun here there known found leadsBack leadsAgain => ?_⟩
    intro back again
    have left := cd_known aims reached known found
    have returned : back = _ := cd_back aims reached known found leadsBack
    have forth : again = _ := cd_forth aims reached known found leadsBack leadsAgain
    rw [forth, returned]
    refine ⟨rfl, rfl, pwd_enter _ _ _, oldPwd_enter _ _ _, rfl, rfl, ?_, ?_, rfl⟩
    · rw [left]
      exact pwd_enter _ _ _
    · rw [left]
      exact oldPwd_enter _ _ _
  · intro writer
    exact ⟨session_print _ _ _, directory_print _ _ _⟩

def twoDirectories : Scene :=
  { files := ⟨[(["a"], .directory), (["b"], .directory)]⟩, directory := ["a"], session := {} }

theorem Scene.cd_all_or_nothing_twoDirectories :
    Aims twoDirectories.session ["../b"] "../b" ∧
    twoDirectories.files.directoryAt ["a"] "../b" = .ok ["b"] ∧
    twoDirectories.files.directoryAt ["b"] "/a" = .ok ["a"] ∧
    twoDirectories.files.directoryAt ["a"] "/b" = .ok ["b"] ∧
    let done := twoDirectories.cd ["../b"]
    let back := (twoDirectories.after done).cd ["-"]
    twoDirectories.Entered "../b" ["b"] done ∧
      back.directory = ["a"] ∧ back.output = ["/a", "\n"] ∧
      (((twoDirectories.after done).after back).cd ["-"]).session = done.session := by
  have aims : Aims twoDirectories.session ["../b"] "../b" := .given (by decide)
  have reached : twoDirectories.files.directoryAt ["a"] "../b" = .ok ["b"] := by
    have text : PathText.ofString "../b" = ⟨false, ["..", "b"], false⟩ := by decide +kernel
    simp only [FileTree.directoryAt, FileTree.status, FileTree.locate, FileTree.walkPath, text,
      walk]
    decide +kernel
  have leadsBack : twoDirectories.files.directoryAt ["b"] "/a" = .ok ["a"] := by
    have text : PathText.ofString "/a" = ⟨true, ["a"], false⟩ := by decide +kernel
    simp only [FileTree.directoryAt, FileTree.status, FileTree.locate, FileTree.walkPath, text,
      walk]
    decide +kernel
  have leadsAgain : twoDirectories.files.directoryAt ["a"] "/b" = .ok ["b"] := by
    have text : PathText.ofString "/b" = ⟨true, ["b"], false⟩ := by decide +kernel
    simp only [FileTree.directoryAt, FileTree.status, FileTree.locate, FileTree.walkPath, text,
      walk]
    decide +kernel
  obtain ⟨_, reachable, _⟩ := Scene.cd_all_or_nothing twoDirectories ["../b"]
  obtain ⟨entered, reversible⟩ := (reachable "../b" aims).2 ["b"] reached
  obtain ⟨directory, output, _, _, _, _, _, _, restored⟩ :=
    reversible "/a" "/b" (by decide +kernel) (by decide +kernel) leadsBack leadsAgain
  exact ⟨aims, reached, leadsBack, leadsAgain, entered, directory, output, restored⟩

end PipeShell
