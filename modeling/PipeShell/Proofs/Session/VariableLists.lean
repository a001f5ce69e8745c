import Mathlib.Data.List.TakeWhile
import PipeShell.Builtin

/-!
# Lists of variables

`export` and `unset` take their arguments one after another and refuse those that name no variable.
Main statement: what they do is what the accepted arguments do one by one, and what they say is one
message for each refused one, wherever it stands.
-/

namespace PipeShell

namespace Environment

def setAll (environment : Environment) (pairs : List (String × String)) : Environment :=
  pairs.foldl (fun environment pair => environment.set pair.1 pair.2) environment

def removeAll (environment : Environment) (names : List String) : Environment :=
  names.foldl remove environment

theorem entries_removeAll {environment : Environment} (distinct : environment.names.Nodup)
    (names : List String) :
    (environment.removeAll names).entries = environment.entries.filter (·.1 ∉ names) := by
  induction names generalizing environment with
  | nil => exact (List.filter_eq_self.mpr (by simp)).symm
  | cons name rest ih =>
      have step : environment.removeAll (name :: rest) = (environment.remove name).removeAll rest :=
        rfl
      rw [step, ih (nodup_names_remove name distinct), entries_remove distinct, List.filter_filter]
      simp [not_or, Bool.and_comm]

end Environment

/-- Arguments are taken one after another: the refused ones are reported and counted against the
status, and the others change the environment. -/
def Effect.taking (effect : Effect) (builtin : String) (accepts : String → Bool)
    (change : Environment → String → Environment) (arguments : List String) : Effect :=
  { effect with
    session := { effect.session with
      environment := (arguments.filter accepts).foldl change effect.session.environment }
    messages := effect.messages ++ (arguments.filter (!accepts ·)).map fun argument =>
      labelled builtin (Scene.invalidIdentifier argument)
    status := if arguments.all accepts then effect.status else Status.failure }

theorem foldl_eq_taking {one : Effect → String → Effect} {builtin : String}
    {accepts : String → Bool} {change : Environment → String → Environment}
    (accepted : ∀ effect argument, accepts argument = true →
      one effect argument = Scene.mapEnvironment effect (change · argument))
    (refused : ∀ effect argument, accepts argument = false →
      one effect argument = Scene.reject effect builtin argument)
    (arguments : List String) (effect : Effect) :
    arguments.foldl one effect = effect.taking builtin accepts change arguments := by
  induction arguments generalizing effect with
  | nil => simp [Effect.taking]
  | cons argument rest ih =>
      rw [List.foldl_cons, ih]
      cases fine : accepts argument with
      | true => simp [accepted effect argument fine, Effect.taking, Scene.mapEnvironment, fine]
      | false => simp [refused effect argument fine, Effect.taking, Scene.reject, fine]

/-! ## Arguments of `export` -/

def namePart (argument : String) : List Char := argument.toList.takeWhile (· ≠ '=')

def namesVariable (argument : String) : Bool := isValidName (namePart argument)

def valuePart? (argument : String) : Option String :=
  if '=' ∈ argument.toList then some (String.ofList (argument.toList.dropWhile (· ≠ '=')).tail)
  else none

/-- The assignment that an argument is, if it names a variable and gives a value. -/
def assignment? (argument : String) : Option (String × String) :=
  if namesVariable argument then
    (valuePart? argument).map fun value => (String.ofList (namePart argument), value)
  else none

theorem splitAssignment_eq (argument : String) :
    Scene.splitAssignment argument = (namePart argument, valuePart? argument) := by
  have joined : namePart argument ++ argument.toList.dropWhile (· ≠ '=') = argument.toList :=
    List.takeWhile_append_dropWhile
  have named : argument.toList.takeWhile (· ≠ '=') = namePart argument := rfl
  simp only [Scene.splitAssignment, named, valuePart?]
  -- The name is shorter than the argument if and only if the `=` is left over.
  by_cases assigned : '=' ∈ argument.toList
  · have later : argument.toList.dropWhile (· ≠ '=') ≠ [] := by
      intro none
      simpa using List.dropWhile_eq_nil_iff.mp none '=' assigned
    have shorter : (namePart argument).length < argument.toList.length := by
      rw [← joined, List.length_append]
      exact Nat.lt_add_of_pos_right (List.length_pos_iff.mpr later)
    have rest : argument.toList.drop ((namePart argument).length + 1) =
        (argument.toList.dropWhile (· ≠ '=')).tail := by
      have cut := @List.drop_left _ (namePart argument) (argument.toList.dropWhile (· ≠ '='))
      rw [joined] at cut
      rw [← List.tail_drop, cut]
    rw [if_pos shorter, if_pos assigned, rest]
  · have whole : argument.toList.dropWhile (· ≠ '=') = [] := by
      refine List.dropWhile_eq_nil_iff.mpr fun c member => ?_
      exact decide_eq_true fun same => assigned (same ▸ member)
    rw [whole, List.append_nil] at joined
    rw [joined, if_neg (Nat.lt_irrefl _), if_neg assigned]

theorem splitAssignment_joined {name : String} (plain : '=' ∉ name.toList) (value : String) :
    Scene.splitAssignment (Environment.assignmentText (name, value)) =
      (name.toList, some value) := by
  have chars : (Environment.assignmentText (name, value)).toList =
      name.toList ++ '=' :: value.toList := by
    simp [Environment.assignmentText]
  have inName : ∀ c ∈ name.toList, decide (c ≠ '=') = true :=
    fun c member => decide_eq_true fun same => plain (same ▸ member)
  have cut : (name.toList ++ '=' :: value.toList).takeWhile (· ≠ '=') = name.toList ∧
      (name.toList ++ '=' :: value.toList).dropWhile (· ≠ '=') = '=' :: value.toList := by
    rw [List.takeWhile_append_of_pos inName, List.dropWhile_append_of_pos inName]
    simp
  rw [splitAssignment_eq, namePart, valuePart?, chars, cut.1, cut.2, if_pos (by simp)]
  simp

def assign (environment : Environment) (argument : String) : Environment :=
  match valuePart? argument with
  | some value => environment.set (String.ofList (namePart argument)) value
  | none => environment

theorem exportOne_accepted (effect : Effect) {argument : String}
    (named : namesVariable argument = true) :
    Scene.exportOne effect argument = Scene.mapEnvironment effect (assign · argument) := by
  have valid : isValidName (namePart argument) = true := named
  simp only [Scene.exportOne, splitAssignment_eq, valid, ↓reduceIte, assign]
  cases valuePart? argument <;> rfl

theorem exportOne_refused (effect : Effect) {argument : String}
    (nameless : namesVariable argument = false) :
    Scene.exportOne effect argument = Scene.reject effect "export" argument := by
  have invalid : isValidName (namePart argument) = false := nameless
  simp [Scene.exportOne, splitAssignment_eq, invalid]

theorem foldl_assign (environment : Environment) (arguments : List String) :
    (arguments.filter namesVariable).foldl assign environment =
      environment.setAll (arguments.filterMap assignment?) := by
  induction arguments generalizing environment with
  | nil => rfl
  | cons argument rest ih =>
      cases named : namesVariable argument with
      | false => simp [assignment?, named, ih]
      | true =>
          cases given : valuePart? argument with
          | none => simp [assignment?, named, given, assign, ih]
          | some value =>
              rw [List.filter_cons_of_pos named, List.foldl_cons, ih]
              simp [assignment?, named, given, assign, Environment.setAll]

/-! ## Both lists -/

def isVariable (argument : String) : Bool := isValidName argument.toList

namespace Scene

variable (scene : Scene)

theorem exportAll_eq {arguments : List String} (given : arguments ≠ []) :
    scene.exportAll arguments = scene.still.taking "export" namesVariable assign arguments := by
  rw [exportAll, if_neg (by simpa using given)]
  exact foldl_eq_taking (fun effect _ => exportOne_accepted effect)
    (fun effect _ => exportOne_refused effect) arguments scene.still

theorem unsetAll_eq (arguments : List String) :
    scene.unsetAll arguments =
      scene.still.taking "unset" isVariable Environment.remove arguments := by
  apply foldl_eq_taking
  · intro effect argument valid
    exact if_pos valid
  · intro effect argument invalid
    exact if_neg (Bool.eq_false_iff.mp invalid)

theorem session_exportAll (arguments : List String) :
    (scene.exportAll arguments).session =
      { scene.session with
        environment := scene.session.environment.setAll (arguments.filterMap assignment?) } := by
  by_cases given : arguments = []
  · rw [given]
    rfl
  · rw [exportAll_eq scene given, ← foldl_assign]
    rfl

theorem filterMap_assignment?_filter (arguments : List String) :
    (arguments.filter namesVariable).filterMap assignment? = arguments.filterMap assignment? := by
  have same : (fun argument => if namesVariable argument then assignment? argument else none) =
      assignment? := by
    funext argument
    cases named : namesVariable argument <;> simp [assignment?, named]
  rw [List.filterMap_filter, same]

/-- The arguments of `export` and `unset` do not get in each other's way. `export` sets, from left
to right, the variables of those arguments that assign a value to a valid name, and `unset` leaves
the entries whose names are not among its valid arguments, in their order. The status says whether
each argument is or begins with a valid name, and each that does not gets a message, in order. The
other arguments do the same without these. -/
theorem arguments_taken_alone (distinct : scene.session.environment.names.Nodup)
    (arguments : List String) :
    (arguments ≠ [] → scene.exportAll arguments =
      { session := { scene.session with
          environment := scene.session.environment.setAll (arguments.filterMap assignment?) }
        directory := scene.directory
        messages := (arguments.filter (!namesVariable ·)).map fun argument =>
          labelled "export" (invalidIdentifier argument)
        status := if arguments.all namesVariable then Status.success else Status.failure }) ∧
    scene.unsetAll arguments =
      { session := { scene.session with
          environment := ⟨scene.session.environment.entries.filter
            (·.1 ∉ arguments.filter isVariable)⟩ }
        directory := scene.directory
        messages := (arguments.filter (!isVariable ·)).map fun argument =>
          labelled "unset" (invalidIdentifier argument)
        status := if arguments.all isVariable then Status.success else Status.failure } ∧
    (scene.exportAll (arguments.filter namesVariable)).session =
      (scene.exportAll arguments).session ∧
    (scene.unsetAll (arguments.filter isVariable)).session =
      (scene.unsetAll arguments).session := by
  refine ⟨fun given => ?_, ?_, ?_, ?_⟩
  · rw [exportAll_eq scene given, ← foldl_assign]
    rfl
  · rw [unsetAll_eq, ← Environment.entries_removeAll distinct]
    rfl
  · rw [session_exportAll, session_exportAll, filterMap_assignment?_filter]
  · rw [unsetAll_eq, unsetAll_eq]
    simp only [Effect.taking, List.filter_filter, Bool.and_self]

end Scene

def sceneWithVariables : Scene :=
  { files := ⟨[]⟩, directory := []
    session := { environment := ⟨[("HOME", "/"), ("A", "1"), ("B", "2")]⟩ } }

theorem Scene.arguments_taken_alone_mixedList :
    sceneWithVariables.session.environment.names.Nodup ∧
    let exported := sceneWithVariables.exportAll ["1X=a", "C=x=y", "A=3", "=z", "D", "A="]
    let unset := sceneWithVariables.unsetAll ["A", "A=1", "HOME", "A", "E"]
    exported.session.environment = ⟨[("HOME", "/"), ("A", ""), ("B", "2"), ("C", "x=y")]⟩ ∧
    exported.messages =
      ["export: `1X=a': not a valid identifier", "export: `=z': not a valid identifier"] ∧
    exported.status = 1 ∧
    unset.session.environment = ⟨[("B", "2")]⟩ ∧
    unset.messages = ["unset: `A=1': not a valid identifier"] ∧ unset.status = 1 := by
  have distinct : sceneWithVariables.session.environment.names.Nodup := by decide
  obtain ⟨exported, _⟩ := sceneWithVariables.arguments_taken_alone distinct
    ["1X=a", "C=x=y", "A=3", "=z", "D", "A="]
  obtain ⟨_, unset, _⟩ := sceneWithVariables.arguments_taken_alone distinct
    ["A", "A=1", "HOME", "A", "E"]
  rw [exported (by simp), unset]
  refine ⟨distinct, ?_⟩
  decide +kernel

end PipeShell
