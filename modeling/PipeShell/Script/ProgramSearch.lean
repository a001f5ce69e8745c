import PipeShell.Script.Redirection

/-!
# Programs that scripts start

A name with a slash is a path; any other is looked for in the directories of the search path. What
was found once is not looked for again.
-/

namespace PipeShell

namespace Script

def candidatePaths (path name : String) : List String :=
  (splitAtEach ':' path.toList).map fun entry =>
    if entry.isEmpty then name
    else String.ofList (if entry.getLast? = some '/' then entry else entry ++ ['/']) ++ name

def runMessage (errno : Errno) : String :=
  if errno = .ENOENT || errno = .ENOTDIR then "not found" else errno.libraryText

def runFailure (errno : Errno) : Nat :=
  if [Errno.ENOENT, .ENOTDIR, .ELOOP, .ENAMETOOLONG].contains errno then 127 else 126

def firstFile (world : World) (index : Nat) (failure : Errno) :
    List String → Except Errno (Nat × String)
  | [] => .error failure
  | path :: rest =>
    match world.files.status world.process.directory (nameOf path) with
    | .ok (_, .file _ _) | .ok (_, .program _) => .ok (index, path)
    | .ok _ => firstFile world (index + 1) .EACCES rest
    | .error (.system errno) =>
      if errno = .ENOENT || errno = .ENOTDIR then firstFile world (index + 1) failure rest
      else firstFile world (index + 1) errno rest
    | .error _ => firstFile world (index + 1) failure rest

def findProgram (path name : String) : Act (Except Errno (Nat × String)) := do
  let state ← get
  let usual := path = state.searchPath
  let known := state.remembered.find? fun entry => entry.name = name && !entry.stale
  match if usual then known else none with
  | some entry => return .ok (entry.index, entry.path)
  | none =>
    let others := state.remembered.filter (·.name ≠ name)
    match firstFile state.world 0 .ENOENT (candidatePaths path name) with
    | .ok (index, file) =>
      let entry : Remembered := { name, index, path := file }
      if usual then set { state with remembered := others ++ [entry] }
      return .ok (index, file)
    | .error errno =>
      if usual then set { state with remembered := others }
      return .error errno

def Remembered.rank (entry : Remembered) : Nat :=
  let codes := entry.name.toList.map Char.toNat
  (codes.headD 0 * 16 + codes.foldl (· + ·) 0) % 0x8000 % 31

namespace Engine

variable (engine : Engine)

/-- Puts the program at a path in the place of this process. A text that names no program to run it
is a script. There is only an answer if that is not possible. -/
def become (path : String) (words : List String) : Act Errno := do
  let state ← get
  let call : Call :=
    { arguments := words, environment := state.environment, ignored := state.ignoredSignals }
  let scriptCall := { call with arguments := "/bin/sh" :: path :: words.drop 1 }
  let started :=
    match engine.launch state.world path call with
    | .error .ENOEXEC => engine.launch state.world "/bin/sh" scriptCall
    | started => started
  match started with
  | .ok (world, outcome) =>
    set { state with world }
    throw (.gone outcome)
  | .error errno => return errno

def becomeFirst (words : List String) (failure : Errno) : List String → Act Errno
  | [] => return failure
  | path :: rest => do
    let errno ← engine.become path words
    let missing := errno = .ENOENT || errno = .ENOTDIR
    becomeFirst words (if missing then failure else errno) rest

/-- Puts a program in the place of this process, or ends this one if that is not possible. The first
`index` entries of the search path are left out. -/
def replaceProcess {α : Type} (path : String) (index : Nat) (words : List String) : Act α := do
  let name := words.headD ""
  let paths :=
    if name.toList.contains '/' then [name] else (candidatePaths path name).drop index
  let errno ← engine.becomeFirst words .ENOENT paths
  Act.warn s!"{name}: {runMessage errno}"
  modify fun state => { state with status := runFailure errno }
  throw .finished

def hasTraps : Act Bool := return (← get).traps.any (·.2 ≠ "")

def runProgram (path : String) (last : Bool) (words : List String) : Act Nat := do
  let name := words.headD ""
  let found ←
    if name.toList.contains '/' then pure (.ok (0, name)) else findProgram path name
  match found with
  | .error errno =>
    Act.warn s!"{name}: {runMessage errno}"
    return 127
  | .ok (index, _) =>
    if last && !(← hasTraps) then engine.replaceProcess path index words
    else settle (← engine.inChild (engine.replaceProcess path index words))

end Engine

end Script

end PipeShell
