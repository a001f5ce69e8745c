import PipeShell.Proofs.Line.References
import PipeShell.Proofs.Run.LineUse
import PipeShell.Proofs.Run.Sessions
import PipeShell.Proofs.Session.VariableLists

/-!
# Variables that a line sets

A value in single quotes, each quote in it written outside of them after a backslash, is the value
as it is. Main statement: a line that exports a variable so written sets that variable and no other,
and references to it come to what was written, whatever the value is.
-/

namespace PipeShell

/-! ## The line -/

def singleQuotedChar (c : Char) : List Char :=
  -- A quote ends the quotes, follows a backslash, and opens them again.
  if c = '\'' then ['\'', '\\', '\'', '\''] else [c]

def inSingleQuotes (text : List Char) : List Char :=
  '\'' :: (text.flatMap singleQuotedChar ++ ['\''])

def exportLine (name value : String) : String :=
  "export " ++ name ++ "=" ++ String.ofList (inSingleQuotes value.toList)

theorem exists_segments (text : List Char) {front : List Char} (unbroken : '\'' ∉ front) :
    ∃ segments : List Segment,
      segments.flatMap Segment.written =
        '\'' :: (front ++ (text.flatMap singleQuotedChar ++ ['\''])) ∧
      segments.flatMap Segment.text = front ++ text := by
  -- `front` is what stands since the last quote; the next one closes its segment.
  induction text generalizing front with
  | nil => exact ⟨[.single front unbroken], by simp [Segment.written], by simp [Segment.text]⟩
  | cons c rest ih =>
      by_cases quote : c = '\''
      · obtain ⟨later, written, spelled⟩ := ih (List.not_mem_nil (a := '\''))
        refine ⟨.single front unbroken :: .escaped ['\''] :: later, ?_, ?_⟩
        · simp [Segment.written, written, singleQuotedChar, quote]
        · simp [Segment.text, spelled, quote]
      · have grown : '\'' ∉ front ++ [c] := by simp [unbroken, Ne.symm quote]
        obtain ⟨segments, written, spelled⟩ := ih grown
        refine ⟨segments, ?_, ?_⟩
        · simp [written, singleQuotedChar, quote]
        · simp [spelled]

theorem toList_exportLine (name value : String) :
    (exportLine name value).toList =
      "export".toList ++ ([' '] ++ (name.toList ++ '=' :: inSingleQuotes value.toList)) := by
  simp [exportLine]

open Environment (assignmentText)

section Line

variable {name : String} (valid : isValidName name.toList = true) (value : String)
include valid

theorem exists_spelling :
    ∃ spelling : Spelling (assignmentText (name, value)),
      spelling.written = name.toList ++ '=' :: inSingleQuotes value.toList := by
  obtain ⟨segments, written, spelled⟩ := exists_segments value.toList (List.not_mem_nil (a := '\''))
  have safe : ∀ c ∈ name.toList ++ ['='], IsPlain c :=
    List.forall_mem_append.mpr ⟨isPlain_of_isValidName valid,
      List.forall_mem_singleton.mpr (by decide)⟩
  refine ⟨⟨.plain _ safe :: segments, ?_, ?_⟩, ?_⟩
  · simp [Segment.text, spelled, assignmentText]
  · -- An assignment is never empty: there is the `=`.
    intro empty
    have length := congrArg String.length empty
    simp [assignmentText] at length
  · simp [Spelling.written, Segment.written, written, inSingleQuotes]

theorem parseLine_exportLine (session : Session) :
    parseLine session (exportLine name value) =
      .ok ⟨[{ arguments := ["export", assignmentText (name, value)] }]⟩ := by
  obtain ⟨assignment, written⟩ := exists_spelling valid value
  have letters : isValidName "export".toList = true := by decide
  let command : Spelling "export" :=
    ⟨[.plain "export".toList (isPlain_of_isValidName letters)], rfl, by simp⟩
  let space : Gap := ⟨[' '], by simp, by simp [isBlank]⟩
  obtain ⟨words, split, fields⟩ := lexFrom_spelled (.more command space (.last assignment))
  have tokens : tokenize (exportLine name value) = .ok (words.map .word ++ [.lineEnd]) := by
    have chars : (exportLine name value).toList =
        (SpelledLine.more command space (.last assignment)).written := by
      rw [toList_exportLine, SpelledLine.written, SpelledLine.written, written]
      rfl
    rw [tokenize, tokenizeChars, chars, split]
    rfl
  have spoken : words.flatMap (expandFields session) ≠ [] := by simp [fields session]
  rw [parseLine_of_tokenize tokens, parse_words session words spoken, fields session]
  simp [String.ofList_toList]

theorem splitAssignment_assignmentText :
    Scene.splitAssignment (assignmentText (name, value)) = (name.toList, some value) := by
  obtain ⟨_, _, _, _, named⟩ := exists_of_isValidName valid
  have plain : '=' ∉ name.toList :=
    fun member => ne_of_isNameChar (named '=' member) (by decide) rfl
  exact splitAssignment_joined plain value

end Line

/-! ## What the line does -/

section Execution

variable (world : World) (session : Session) {name : String} {builtin : Builtin}
  (named : Builtin.ofName? name = some builtin) (arguments : List String)
  (silent : ((world.scene session).effect builtin arguments).output = [])
include named silent

/-- A builtin that prints nothing leaves the session and the status that are its effect. -/
theorem runBuiltinAt_silent (lineBuffered : Bool) (number : Nat) :
    (runBuiltinAt world session (name :: arguments) lineBuffered number).2 =
      (((world.scene session).effect builtin arguments).session,
        ((world.scene session).effect builtin arguments).status) := by
  have flushes : ∀ stream, (Writer.flush { sink := world.sink stream, lineBuffered }).2 = none :=
    fun stream => (world.faultless_sink stream).1
  simp only [runBuiltinAt, runBuiltinOn, runBuiltin, named, session_print]
  rw [status_print_silent silent name (flushes _)]

theorem execute_silent [Launching] (source : Source) :
    (execute world source session ⟨[{ arguments := name :: arguments }]⟩).2.2 =
      ((world.scene session).effect builtin arguments).session.setStatus
        ((world.scene session).effect builtin arguments).status := by
  have known : isBuiltin (Command.mk (name :: arguments) []).program = true := by
    rw [isBuiltin, Command.program, List.headD_cons, named]
    rfl
  have read : collectHeredocs session world source [{ arguments := name :: arguments }] =
      (world, source, .ok (some [[]])) := rfl
  have ran := runBuiltinAt_silent world session named arguments silent true
    Descriptors.standardOutput
  simp only [execute, read, runCommands, known, ↓reduceIte, runInShell, openInShell, ran]
  rfl

end Execution

/-- From one environment to another, the variable gets the value: every other one keeps its own, and
all keep their places, a new one coming last. -/
structure Environment.Stores (before : Environment) (name value : String) (after : Environment) :
    Prop where
  value : after.get? name = some value
  others : ∀ other, other ≠ name → after.get? other = before.get? other
  names : after.names = if name ∈ before.names then before.names else before.names ++ [name]

theorem Environment.stores_set (environment : Environment) (name value : String) :
    environment.Stores name value (environment.set name value) where
  value := by rw [get?_set, if_pos rfl]
  others := fun other different => by rw [get?_set, if_neg different.symm]
  names := names_set environment name value

section Exporting

variable {name : String} (valid : isValidName name.toList = true) (value : String)
include valid

theorem exportAll_assignment (scene : Scene) :
    scene.exportAll [assignmentText (name, value)] =
      Scene.mapEnvironment scene.still (·.set name value) := by
  simp [Scene.exportAll, Scene.exportOne, splitAssignment_assignmentText valid value, valid]

theorem session_handleInput_exportLine [Launching] (shell : Shell) :
    (shell.handleInput (exportLine name value)).session =
      { shell.session with
        environment := shell.session.environment.set name value
        exitStatus := Status.success } := by
  have text : isSpace (exportLine name value) = false := by
    rw [isSpace, toList_exportLine]
    rfl
  have effect := exportAll_assignment valid value (shell.world.scene shell.session)
  have silent : ((shell.world.scene shell.session).effect .export
      [assignmentText (name, value)]).output = [] := congrArg Effect.output effect
  have named : Builtin.ofName? "export" = some .export := rfl
  have executed := execute_silent shell.world shell.session named _ silent
    (shell.source.remember (exportLine name value))
  rw [Scene.effect, effect] at executed
  rw [handleInput_text shell text, parseLine_exportLine valid value]
  exact executed

end Exporting

/-- A line that exports a variable with its value in single quotes succeeds and sets it to that
value, and nothing else of the environment. After it, the references to the variable come to the
value: as one field between double quotes, and to its pieces between white space outside quotes. -/
theorem Shell.export_then_expand [Launching] (shell : Shell) {name : String}
    (valid : isValidName name.toList = true) (value : String) :
    let after := (shell.handleInput (exportLine name value)).session
    after.exitStatus = Status.success ∧
    shell.session.environment.Stores name value after.environment ∧
    ∀ form : ReferenceForm,
      after.ExpandsTo ('"' :: (form.written name.toList ++ ['"'])) [value.toList] ∧
      after.ExpandsTo (form.written name.toList) (blankSeparated value.toList) := by
  intro after
  have same : after = _ := session_handleInput_exportLine valid value shell
  have stores := shell.session.environment.stores_set name value
  rw [same]
  refine ⟨rfl, stores, fun form => ?_⟩
  refine Session.expandsTo_reference _ form valid ?_
  rw [String.ofList_toList]
  exact stores.value

def knottedValue : String := "it's  $A |\n'>b="

def shellWithA : Shell :=
  { session := { environment := ⟨[("HOME", "/"), ("A", "old"), ("B", "b")]⟩, exitStatus := 3 } }

open scoped Launching in
theorem Shell.export_then_expand_knottedValue :
    isValidName "A".toList = true ∧
    exportLine "A" knottedValue = "export A='it'\\''s  $A |\n'\\''>b='" ∧
    let after := (shellWithA.handleInput (exportLine "A" knottedValue)).session
    after.exitStatus = 0 ∧
    after.environment.names = ["HOME", "A", "B"] ∧
    after.valueOf? "A" = some knottedValue ∧ after.valueOf? "B" = some "b" ∧
    after.ExpandsTo "\"$A\"".toList [knottedValue.toList] ∧
    after.ExpandsTo "$A".toList (["it's", "$A", "|", "'>b="].map String.toList) ∧
    after.ExpandsTo (ReferenceForm.braced.written ['A'])
      (["it's", "$A", "|", "'>b="].map String.toList) := by
  have valid : isValidName "A".toList = true := by decide
  refine ⟨valid, by decide +kernel, ?_⟩
  obtain ⟨status, stores, expands⟩ := shellWithA.export_then_expand valid knottedValue
  have pieces : blankSeparated knottedValue.toList =
      ["it's", "$A", "|", "'>b="].map String.toList := by
    decide +kernel
  rw [pieces] at expands
  exact ⟨status, stores.names, stores.value, stores.others "B" (by decide), (expands .bare).1,
    (expands .bare).2, (expands .braced).2⟩

end PipeShell
