import Mathlib.Control.Monad.Basic
import PipeShell.Execution

/-!
# Which file a command name means

A name without a `/` is looked for at one candidate path for each entry of the search path. Main
statement: the first candidate that can be run is found, whatever stands before it; if there is
none, the first candidate that is a file is reported, and otherwise the name is not known. A name
with a `/` is a path, and what is there decides alone.
-/

namespace PipeShell

/-- The item is the first of the list that has the property. -/
def FirstWith {α : Type} (has : α → Prop) (items : List α) (item : α) : Prop :=
  ∃ before after, items = before ++ item :: after ∧ has item ∧ ∀ other ∈ before, ¬ has other

theorem find?_eq_some_iff_firstWith {α : Type} (keeps : α → Bool) (items : List α) (item : α) :
    items.find? keeps = some item ↔ FirstWith (keeps · = true) items item := by
  simp only [FirstWith, List.find?_eq_some_iff_append, Bool.not_eq_true', Bool.not_eq_true]
  constructor
  · rintro ⟨kept, before, after, split, others⟩
    exact ⟨before, after, split, kept, others⟩
  · rintro ⟨before, after, split, kept, others⟩
    exact ⟨kept, before, after, split, others⟩

theorem FirstWith.congr {α : Type} {has holds : α → Prop} {items : List α} {item : α}
    (same : ∀ other ∈ items, has other ↔ holds other) :
    FirstWith has items item ↔ FirstWith holds items item := by
  refine exists_congr fun before => exists_congr fun after => and_congr_right fun split => ?_
  rw [same item (by simp [split])]
  refine and_congr_right fun _ => forall₂_congr fun other member => ?_
  rw [same other (by simp [split, member])]

/-! ## The candidates -/

/-- The path of a name in the directory that an entry of the search path stands for. An empty entry
stands for the working directory. -/
def pathInEntry (name entry : List Char) : List Char :=
  if entry = [] then '.' :: '/' :: name
  else if entry.getLast? = some '/' then entry ++ name
  else entry ++ '/' :: name

def candidatePaths (path name : String) : List String :=
  if path = "" then []
  else (path.toList.splitOn ':').map fun entry => String.ofList (pathInEntry name.toList entry)

theorem joinPath_ofList {name : String} (relative : '/' ∉ name.toList) {entry : List Char}
    (nonempty : entry ≠ []) :
    joinPath (String.ofList entry) name = String.ofList (pathInEntry name.toList entry) := by
  have notAbsolute : name.toList.head? ≠ some '/' :=
    fun first => relative (List.mem_of_mem_head? first)
  have written : String.ofList entry ≠ "" := by simpa using nonempty
  rw [joinPath, if_neg (not_or.mpr ⟨notAbsolute, written⟩), String.toList_ofList, pathInEntry,
    if_neg nonempty, ← String.toList_inj]
  by_cases slash : entry.getLast? = some '/'
  · simp [slash]
  · simp [slash]

theorem joinPath_searchDirectories {name : String} (relative : '/' ∉ name.toList)
    (path : String) :
    (searchDirectories path).map (joinPath · name) = candidatePaths path name := by
  rw [searchDirectories, candidatePaths, splitAtEach_eq_splitOn]
  by_cases unset : path = ""
  · rw [if_pos unset, if_pos unset, List.map_nil]
  · rw [if_neg unset, if_neg unset, List.map_map]
    apply List.map_congr_left
    intro entry _
    cases entry with
    | nil => exact joinPath_ofList relative (List.cons_ne_nil '.' [])
    | cons c rest => exact joinPath_ofList relative (List.cons_ne_nil c rest)

namespace FileTree

variable (files : FileTree) (here : Place)

def LeadsTo (path : String) (kind : Node → Prop) : Prop :=
  ∃ place node, files.status here path = .ok (place, node) ∧ kind node

def HasFile (path : String) : Prop := files.LeadsTo here path (· ≠ .directory)

def HasExecutable (path : String) : Prop :=
  files.LeadsTo here path fun node => node ≠ .directory ∧ node.isExecutable = true

def HasDirectory (path : String) : Prop := files.LeadsTo here path (· = .directory)

/-- What a lookup finds that is there but cannot be run. A directory counts only if the name is its
path. -/
def FindsUnusable (path name : String) : Prop :=
  if '/' ∈ name.toList then
    (files.HasFile here name ∧ ¬ files.HasExecutable here name) ∨ files.HasDirectory here name
  else
    ∃ candidate ∈ candidatePaths path name,
      files.HasFile here candidate ∧ ¬ files.HasExecutable here candidate

variable {files here}

theorem leadsTo_of_node {path : String} {place : Place} {node : Node}
    (found : files.status here path = .ok (place, node)) (kind : Node → Prop) :
    files.LeadsTo here path kind ↔ kind node := by
  constructor
  · rintro ⟨other, same, known, holds⟩
    cases found.symm.trans known
    exact holds
  · exact fun holds => ⟨place, node, found, holds⟩

theorem not_leadsTo_of_failure {path : String} {failure : IoFailure}
    (failed : files.status here path = .error failure) (kind : Node → Prop) :
    ¬ files.LeadsTo here path kind := by
  rintro ⟨place, node, found, _⟩
  cases failed.symm.trans found

theorem HasExecutable.hasFile {path : String} (executable : files.HasExecutable here path) :
    files.HasFile here path := by
  obtain ⟨place, node, found, file, _⟩ := executable
  exact ⟨place, node, found, file⟩

theorem candidate_iff (path : String) :
    (files.candidate here path = .executable ↔ files.HasExecutable here path) ∧
    (files.candidate here path = .notExecutable ↔
      files.HasFile here path ∧ ¬ files.HasExecutable here path) ∧
    (files.candidate here path = .directory ↔ files.HasDirectory here path) ∧
    (files.candidate here path = .missing ↔
      ¬ files.HasFile here path ∧ ¬ files.HasDirectory here path) := by
  rcases status : files.status here path with failure | ⟨place, node⟩
  · simp [candidate, status, HasFile, HasExecutable, HasDirectory, not_leadsTo_of_failure status]
  · simp only [candidate, status, HasFile, HasExecutable, HasDirectory, leadsTo_of_node status]
    by_cases directory : node = .directory
    · simp [directory]
    · cases executable : node.isExecutable <;> simp [directory, executable]

/-! ## The search -/

/-- The search finds the first candidate that can be run; without one it reports the first that is
there, which may have been met before. -/
theorem search_eq (name : String) (denied : Option String) (directories : List String) :
    files.search here name denied directories =
      match (directories.map (joinPath · name)).find? (files.candidate here · = .executable) with
      | some path => .ok path
      | none =>
        match denied.or ((directories.map (joinPath · name)).find?
          (files.candidate here · = .notExecutable)) with
        | some path => .error (.permissionDenied path)
        | none => .error (.commandNotFound name) := by
  induction directories generalizing denied with
  | nil => cases denied <;> rfl
  | cons directory rest ih =>
    rw [search.eq_def]
    cases kind : files.candidate here (joinPath directory name) <;> simp [kind, ih]

theorem find?_executable (candidates : List String) (found : String) :
    candidates.find? (files.candidate here · = .executable) = some found ↔
      FirstWith (files.HasExecutable here) candidates found := by
  simp only [find?_eq_some_iff_firstWith, decide_eq_true_eq, (candidate_iff _).1]

theorem find?_executable_eq_none_iff (candidates : List String) :
    candidates.find? (files.candidate here · = .executable) = none ↔
      ∀ candidate ∈ candidates, ¬ files.HasExecutable here candidate := by
  simp only [List.find?_eq_none, decide_eq_true_eq, (candidate_iff _).1]

theorem find?_notExecutable_eq_none_iff (candidates : List String) :
    candidates.find? (files.candidate here · = .notExecutable) = none ↔
      ∀ candidate ∈ candidates,
        ¬ (files.HasFile here candidate ∧ ¬ files.HasExecutable here candidate) := by
  simp only [List.find?_eq_none, decide_eq_true_eq, (candidate_iff _).2.1]

theorem find?_notExecutable {candidates : List String}
    (none : ∀ candidate ∈ candidates, ¬ files.HasExecutable here candidate) (denied : String) :
    candidates.find? (files.candidate here · = .notExecutable) = some denied ↔
      FirstWith (files.HasFile here) candidates denied := by
  rw [find?_eq_some_iff_firstWith]
  refine FirstWith.congr fun candidate member => ?_
  rw [decide_eq_true_eq, (candidate_iff candidate).2.1]
  exact and_iff_left (none candidate member)

/-- What a name without a `/` comes to, as the search along the path has it. -/
theorem resolve_eq {name : String} (named : name ≠ "") (relative : '/' ∉ name.toList)
    (path : String) :
    files.resolve here name (searchDirectories path) =
      match (candidatePaths path name).find? (files.candidate here · = .executable) with
      | some found => .ok found
      | none =>
        match (candidatePaths path name).find? (files.candidate here · = .notExecutable) with
        | some denied => .error (.permissionDenied denied)
        | none => .error (.commandNotFound name) := by
  have searched : name.toList.contains '/' = false := by simpa using relative
  rw [resolve, if_neg named, searched, if_neg Bool.false_ne_true, search_eq,
    joinPath_searchDirectories relative, Option.none_or]

section Searched

variable {name : String} (named : name ≠ "") (relative : '/' ∉ name.toList) (path : String)
include named relative

theorem resolve_ok_iff (found : String) :
    files.resolve here name (searchDirectories path) = .ok found ↔
      FirstWith (files.HasExecutable here) (candidatePaths path name) found := by
  rw [resolve_eq named relative, ← find?_executable]
  split
  · rename_i first known
    simp [known]
  · rename_i known
    split <;> simp [known]

theorem resolve_denied_iff (denied : String) :
    files.resolve here name (searchDirectories path) = .error (.permissionDenied denied) ↔
      (∀ candidate ∈ candidatePaths path name, ¬ files.HasExecutable here candidate) ∧
        FirstWith (files.HasFile here) (candidatePaths path name) denied := by
  rw [resolve_eq named relative, ← find?_executable_eq_none_iff]
  split
  · rename_i first known
    simp [known]
  · rename_i none
    have unrunnable := (find?_executable_eq_none_iff _).mp none
    rw [← find?_notExecutable unrunnable]
    split <;> simp [*]

theorem resolve_unknown_iff :
    files.resolve here name (searchDirectories path) = .error (.commandNotFound name) ↔
      ∀ candidate ∈ candidatePaths path name, ¬ files.HasFile here candidate := by
  rw [resolve_eq named relative]
  constructor
  · intro unknown candidate member file
    split at unknown
    · cases unknown
    · rename_i unrunnable
      split at unknown
      · cases unknown
      · rename_i undenied
        have executable := (find?_executable_eq_none_iff _).mp unrunnable candidate member
        exact (find?_notExecutable_eq_none_iff _).mp undenied candidate member ⟨file, executable⟩
  · intro none
    have unrunnable := (find?_executable_eq_none_iff (candidatePaths path name)).mpr
      fun candidate member executable => none candidate member executable.hasFile
    have undenied := (find?_notExecutable_eq_none_iff (candidatePaths path name)).mpr
      fun candidate member denied => none candidate member denied.1
    rw [unrunnable, undenied]

theorem status_of_searched {error : ShellError}
    (failed : files.resolve here name (searchDirectories path) = .error error) :
    (error.status = 126 ∧ files.FindsUnusable here path name) ∨
      (error.status = 127 ∧ ¬ files.FindsUnusable here path name) := by
  rw [FindsUnusable, if_neg relative]
  rw [resolve_eq named relative] at failed
  split at failed
  · cases failed
  · split at failed
    · rename_i denied known
      cases failed
      have kind : files.candidate here denied = .notExecutable := by
        simpa using List.find?_some known
      exact .inl ⟨rfl, denied, List.mem_of_find?_eq_some known, (candidate_iff denied).2.1.mp kind⟩
    · rename_i undenied
      cases failed
      refine .inr ⟨rfl, ?_⟩
      rintro ⟨candidate, member, unusable⟩
      exact (find?_notExecutable_eq_none_iff _).mp undenied candidate member unusable

end Searched

/-! ## Names that are paths -/

theorem inspect_iff (name : String) :
    (files.inspect here name = .ok name ↔ files.HasExecutable here name) ∧
    (files.inspect here name = .error (.permissionDenied name) ↔
      files.HasFile here name ∧ ¬ files.HasExecutable here name) ∧
    (files.inspect here name = .error (.isDirectory name) ↔ files.HasDirectory here name) ∧
    (files.inspect here name = .error (.noSuchFile name) ↔
      ¬ files.HasFile here name ∧ ¬ files.HasDirectory here name) := by
  obtain ⟨executable, notExecutable, directory, missing⟩ := @candidate_iff files here name
  rw [← notExecutable, ← missing, ← executable, ← directory, inspect]
  cases files.candidate here name <;> simp

theorem resolve_eq_inspect {name : String} (slash : '/' ∈ name.toList)
    (directories : List String) :
    files.resolve here name directories = files.inspect here name := by
  have named : name ≠ "" := by
    rintro rfl
    cases slash
  rw [resolve, if_neg named, if_pos (List.contains_iff_mem.mpr slash)]

theorem status_of_inspected {path name : String} (slash : '/' ∈ name.toList) {error : ShellError}
    (failed : files.inspect here name = .error error) :
    (error.status = 126 ∧ files.FindsUnusable here path name) ∨
      (error.status = 127 ∧ ¬ files.FindsUnusable here path name) := by
  obtain ⟨_, notExecutable, directory, missing⟩ := @candidate_iff files here name
  rw [FindsUnusable, if_pos slash, ← notExecutable, ← directory]
  unfold inspect at failed
  cases kind : files.candidate here name <;> rw [kind] at failed <;> cases failed
  · exact .inl ⟨rfl, .inl rfl⟩
  · exact .inl ⟨rfl, .inr rfl⟩
  · exact .inr ⟨rfl, by simp⟩

/-! ## Commands -/

theorem runCommand_of_unresolved [Launching] {world : World} {session : Session} {command : Command}
    {error : ShellError} (external : isBuiltin command.program = false)
    (failed : world.files.resolve world.process.directory command.program
      (searchDirectories ((session.valueOf? "PATH").getD "")) = .error error) :
    runCommand world session command = world.failProcess error := by
  have unrun : runProgram world session command = .error error := by rw [runProgram, failed]
  rw [runCommand, external, if_neg Bool.false_ne_true, unrun]

/-- A name without a `/` means the first of its candidates that can be run, whatever stands before
it. If there is none, the first candidate that is a file is denied, and if there is no file either,
the name is unknown. A name with a `/` is what is there, whatever the search path. A lookup that
fails ends the command with 126 if something was found that cannot be run, and with 127 if not. -/
theorem resolve_along_path [Launching] (files : FileTree) (here : Place) (path : String)
    {name : String} (named : name ≠ "") :
    ('/' ∉ name.toList →
      (∀ found, files.resolve here name (searchDirectories path) = .ok found ↔
        FirstWith (files.HasExecutable here) (candidatePaths path name) found) ∧
      (∀ denied,
        files.resolve here name (searchDirectories path) = .error (.permissionDenied denied) ↔
          (∀ candidate ∈ candidatePaths path name, ¬ files.HasExecutable here candidate) ∧
            FirstWith (files.HasFile here) (candidatePaths path name) denied) ∧
      (files.resolve here name (searchDirectories path) = .error (.commandNotFound name) ↔
        ∀ candidate ∈ candidatePaths path name, ¬ files.HasFile here candidate)) ∧
    ('/' ∈ name.toList → ∀ directories,
      (files.resolve here name directories = .ok name ↔ files.HasExecutable here name) ∧
      (files.resolve here name directories = .error (.permissionDenied name) ↔
        files.HasFile here name ∧ ¬ files.HasExecutable here name) ∧
      (files.resolve here name directories = .error (.isDirectory name) ↔
        files.HasDirectory here name) ∧
      (files.resolve here name directories = .error (.noSuchFile name) ↔
        ¬ files.HasFile here name ∧ ¬ files.HasDirectory here name)) ∧
    ∀ error, files.resolve here name (searchDirectories path) = .error error →
      ((error.status = 126 ∧ files.FindsUnusable here path name) ∨
        (error.status = 127 ∧ ¬ files.FindsUnusable here path name)) ∧
      ∀ (world : World) (session : Session) (command : Command),
        world.files = files → world.process.directory = here → command.program = name →
        (session.valueOf? "PATH").getD "" = path → isBuiltin name = false →
          runCommand world session command = world.failProcess error := by
  refine ⟨fun relative => ?_, fun slash directories => ?_, fun error failed => ⟨?_, ?_⟩⟩
  · exact ⟨resolve_ok_iff named relative path, resolve_denied_iff named relative path,
      resolve_unknown_iff named relative path⟩
  · rw [resolve_eq_inspect slash]
    exact inspect_iff name
  · by_cases slash : '/' ∈ name.toList
    · rw [resolve_eq_inspect slash] at failed
      exact status_of_inspected slash failed
    · exact status_of_searched named slash path failed
  · rintro world session command rfl rfl rfl rfl external
    exact runCommand_of_unresolved external failed

def treeOfTools : FileTree :=
  ⟨[(["a"], .directory), (["a", "tool"], .file [] {}), (["c"], .directory),
    (["c", "tool"], .file [] { execute := true })]⟩

open scoped Launching in
theorem resolve_along_path_treeOfTools :
    "tool" ≠ "" ∧ '/' ∉ "tool".toList ∧
    candidatePaths "/a::/c/" "tool" = ["/a/tool", "./tool", "/c/tool"] ∧
    treeOfTools.HasFile [] "/a/tool" ∧
    treeOfTools.resolve [] "tool" (searchDirectories "/a::/c/") = .ok "/c/tool" ∧
    treeOfTools.resolve [] "tool" (searchDirectories "/a:") =
      .error (.permissionDenied "/a/tool") := by
  have named : "tool" ≠ "" := by decide
  have relative : '/' ∉ "tool".toList := by decide
  have paths : candidatePaths "/a::/c/" "tool" = ["/a/tool", "./tool", "/c/tool"] := by
    decide +kernel
  have fewer : candidatePaths "/a:" "tool" = ["/a/tool", "./tool"] := by decide +kernel
  have first : treeOfTools.candidate [] "/a/tool" = .notExecutable := by
    have text : PathText.ofString "/a/tool" = ⟨true, ["a", "tool"], false⟩ := by decide +kernel
    simp only [candidate, status, locate, walkPath, text, walk]
    decide +kernel
  have second : treeOfTools.candidate [] "./tool" = .missing := by
    have text : PathText.ofString "./tool" = ⟨false, [".", "tool"], false⟩ := by decide +kernel
    simp only [candidate, status, locate, walkPath, text, walk]
    decide +kernel
  have third : treeOfTools.candidate [] "/c/tool" = .executable := by
    have text : PathText.ofString "/c/tool" = ⟨true, ["c", "tool"], false⟩ := by decide +kernel
    simp only [candidate, status, locate, walkPath, text, walk]
    decide +kernel
  have file := (candidate_iff _).2.1.mp first
  have absent : ¬ treeOfTools.HasFile [] "./tool" := ((candidate_iff _).2.2.2.mp second).1
  have executable := (candidate_iff _).1.mp third
  have unrunnable : ∀ path ∈ ["/a/tool", "./tool"], ¬ treeOfTools.HasExecutable [] path := by
    simpa using ⟨file.2, fun runs => absent runs.hasFile⟩
  refine ⟨named, relative, paths, file.1, ?_, ?_⟩
  · refine (((resolve_along_path treeOfTools [] "/a::/c/" named).1 relative).1 _).mpr ?_
    rw [paths]
    exact ⟨["/a/tool", "./tool"], [], rfl, executable, unrunnable⟩
  · refine (((resolve_along_path treeOfTools [] "/a:" named).1 relative).2.1 _).mpr ?_
    rw [fewer]
    exact ⟨unrunnable, [], ["./tool"], rfl, file.1, by simp⟩

end FileTree

end PipeShell
