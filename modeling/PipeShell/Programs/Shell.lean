import PipeShell.Script.Evaluation

/-!
# The script interpreter

`sh` reads its options, then runs a command from its arguments, a script file, or what it reads from
standard input.
-/

namespace PipeShell

namespace Programs

namespace Shell

open Script

/-! ## Variables at the start -/

def startVariables (call : Call) (parent : Nat) : List Variable :=
  let own : List (String × String) :=
    [("IFS", " \t\n"), ("OPTIND", "1"), ("PPID", toString parent)]
  let standard : List (String × String) := [("PS1", "# "), ("PS2", "> "), ("PS4", "+ ")]
  let given : List Variable :=
    (call.environment.filter fun pair => isValidName pair.1.toList).map fun (name, value) =>
      { name, value := some value, exported := true }
  let begun := standard.map fun (name, value) => { name, value := some value : Variable }
  let put (known : List Variable) (entry : Variable) : List Variable :=
    if known.any (·.name = entry.name) then
      known.map fun old => if old.name = entry.name then entry else old
    else known ++ [entry]
  let all := given.foldl put begun
  own.foldl (fun known (name, value) =>
    let exported := known.any fun entry => entry.name = name && entry.exported
    put known { name, value := some value, exported }) all

def isHere (world : World) (path : String) : Bool :=
  path.toList.head? = some '/' &&
    match world.files.directoryAt world.process.directory (nameOf path) with
    | .ok place => place = world.process.directory && world.files.isDirectory place
    | .error _ => false

def findDirectory : Act Unit := do
  let state ← get
  match (state.value? "PWD").filter (isHere state.world) with
  | some path => DirectoryCommands.note path
  | none => DirectoryCommands.note (← DirectoryCommands.systemPath)

/-! ## Options -/

structure Called where
  command : Bool := false
  named : List String := []

def setLetters (value : Bool) : Called → List Char → List String → Act (Called × List String)
  | called, [], words => return (called, words)
  | called, 'c' :: letters, words => setLetters value { called with command := true } letters words
  | called, 'l' :: letters, words => setLetters value called letters words
  | called, 'o' :: letters, words => do
    match words with
    | [] =>
      VariableCommands.listOptions value
      let _ ← Act.flush
      setLetters value called letters []
    | name :: rest =>
      VariableCommands.setNamed name value
      setLetters value { called with named := name :: called.named } letters rest
  | called, letter :: letters, words => do
    VariableCommands.setLetter letter value
    let name := ((optionNames.find? (·.2 = some letter)).map (·.1)).toList
    setLetters value { called with named := name ++ called.named } letters words

def readOptions : Nat → Called → List String → Act (Called × List String)
  | 0, called, words => return (called, words)
  | _, called, [] => return (called, [])
  | fuel + 1, called, word :: rest => do
    match word.toList with
    | ['-'] | ['-', '-'] => return (called, rest)
    | '-' :: letters =>
      let (called, rest) ← setLetters true called letters rest
      readOptions fuel called rest
    | '+' :: letters =>
      let (called, rest) ← setLetters false called letters rest
      readOptions fuel called rest
    | _ => return (called, word :: rest)

def takeOptions (words : List String) : Act (Bool × List String) := do
  -- Options that were not said count as on until all are read.
  modify fun state => { state with options := optionNames.map (·.1) }
  let (called, rest) ← readOptions (words.length + 1) {} words
  modify fun state => { state with options := state.options.filter called.named.contains }
  return (called.command, rest)

/-! ## Scripts -/

def inputText : Act String := do
  let world ← Act.world
  match world.stream? Descriptors.standardInput with
  | none => return ""
  | some stream =>
    let (world, content) := world.drain stream
    Act.changeWorld fun _ => world
    return byteText (content.toOption.getD [])

def runCalled (engine : Engine) (words : List String) : Act Nat := do
  findDirectory
  let (isCommand, operands) ← takeOptions words
  if operands.isEmpty then
    if isCommand then Act.fail "-c requires an argument"
    VariableCommands.setOption "stdin" true
  let readsInput ← Act.isOn "stdin"
  let fromInput : Act Nat := do engine.runFile (← inputText)
  match operands with
  | command :: name :: parameters =>
    if isCommand then
      modify fun state => { state with name, parameters }
      let status ← engine.runText command false !readsInput
      if readsInput then fromInput else return status
    else if readsInput then
      modify fun state => { state with parameters := operands }
      fromInput
    else
      let content ← FlowCommands.scriptContent command
      modify fun state => { state with name := command, parameters := name :: parameters }
      engine.runFile (byteText content)
  | [word] =>
    if isCommand then
      let status ← engine.runText word false !readsInput
      if readsInput then fromInput else return status
    else if readsInput then
      modify fun state => { state with parameters := operands }
      fromInput
    else
      let content ← FlowCommands.scriptContent word
      modify fun state => { state with name := word }
      engine.runFile (byteText content)
  | [] => fromInput

end Shell

/-- The script interpreter; `launch` starts the programs that scripts run. -/
def sh (launch : Launcher) : Tool := fun call world =>
  let engine := Script.engineOf launch Script.evaluationDepth
  let process := world.process
  let state : Script.State :=
    { world, name := call.self, root := process.number, ignored := call.ignored
      bindings := Shell.startVariables call (process.ancestors.headD 1) }
  let (result, state) := (Shell.runCalled engine call.operands).run state
  let (outcome, ended) := engine.conclude result state
  (ended.world, outcome)

end Programs

end PipeShell
