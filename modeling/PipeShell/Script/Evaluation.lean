import PipeShell.Script.FlowCommands

/-!
# Running commands

Each kind of command has a rule of its own. What they share is done around it: signals that came are
seen to, and a status that nobody looks at can end the script.
-/

namespace PipeShell

namespace Script

namespace Engine

variable (engine : Engine)

/-! ## Simple commands -/

inductive Target where
  | nothing
  | function (body : Command)
  | builtin (name : String)
  | program

def expandFirst : List Word → Act (List String × List Word)
  | [] => return ([], [])
  | word :: rest => do
    match ← Act.expandFields engine.capture word with
    | [] => expandFirst rest
    | fields => return (fields, rest)

def expandAll (words : List Word) : Act (List String) := do
  return (← words.mapM (Act.expandFields engine.capture)).flatten

/-- The words of a command as far as they have been expanded: fields that were looked at (last
first), fields that are there, and words to come. -/
structure Words where
  passed : List String := []
  fields : List String := []
  words : List Word := []

def Words.next (words : Words) : Act (Option (String × Words)) := do
  let take (field : String) (fields : List String) (rest : List Word) : String × Words :=
    (field, ⟨field :: words.passed, fields, rest⟩)
  match words.fields with
  | field :: fields => return some (take field fields words.words)
  | [] =>
    match ← engine.expandFirst words.words with
    | (field :: fields, rest) => return some (take field fields rest)
    | ([], _) => return none

def afterCommand : Nat → Bool → Words → Act (Bool × Option String × Words)
  | 0, usual, words => return (usual, none, words)
  | fuel + 1, usual, words => do
    match ← words.next engine with
    | none => return (usual, none, words)
    | some (field, rest) =>
      let refused : Bool × Option String × Words :=
        (usual, none, { rest with passed := words.passed, fields := field :: rest.fields })
      match field.toList with
      | ['-', '-'] =>
        match ← rest.next engine with
        | none => return refused
        | some (field, rest) => return (usual, some field, rest)
      | '-' :: letter :: letters =>
        if (letter :: letters).all (· = 'p') then
          match ← afterCommand fuel true rest with
          | (_, none, after) =>
            return (usual, none,
              { after with passed := words.passed, fields := field :: after.fields })
          | found => return found
        else return refused
      | _ => return (usual, some field, rest)

/-- What a command turns out to be. `special` is that of the first builtin met, if any; `usual` says
that programs are looked for in the usual places. -/
structure Resolved where
  target : Target := .nothing
  first : String := ""
  words : Words := {}
  special : Option Bool := none
  usual : Bool := false

def resolve : Nat → Bool → Resolved → Act Resolved
  | 0, _, found => return found
  | fuel + 1, noFunctions, found => do
    let first := found.first
    let functions := (← get).functions
    let function? := if noFunctions then none else functions.lookup first
    if first.toList.contains '/' then return { found with target := .program }
    else if let some body := function? then return { found with target := .function body }
    else if (builtin? engine false first).isNone then return { found with target := .program }
    else
      let special := found.special.or (some (specialBuiltins.contains first))
      let found := { found with target := .builtin first, special }
      if first ≠ "command" then return found
      match ← engine.afterCommand fuel found.usual found.words with
      | (_, none, words) => return { found with words }
      | (usual, some first, words) => resolve fuel true { found with first, words, usual }

def prefixLimit : Nat := 100000

def assigningBuiltins : List String := ["alias", "export", "local", "readonly"]

def splitWord (word : Word) : String × Word :=
  let name := word.takeWhile fun piece =>
    match piece with
    | .char '=' false => false
    | _ => true
  (unquotedText name, word.drop (name.length + 1))

def expandRest (assigns : Bool) (words : Words) : Act (List String) := do
  let others ← words.words.mapM fun word => do
    if assigns && Reader.isAssignment word then
      let (name, value) := splitWord word
      return [name ++ "=" ++ (← Act.expandAssignment engine.capture value)]
    else Act.expandFields engine.capture word
  return words.fields ++ others.flatten

def assignAll (isLocal exported : Bool) (assignments : List Word) : Act (List String) :=
  assignments.mapM fun assignment => do
    let (name, word) := splitWord assignment
    let value ← Act.expandAssignment engine.capture word
    let text := name ++ "=" ++ value
    if isLocal then VariableCommands.makeLocal true text
    else Act.setVariable name (some value) exported
    return text

def trace (messages : Option Stream) (words : List String) : Act Unit := do
  let state ← get
  if state.options.contains "xtrace" && !state.tracing then
    let sign := (state.value? "PS4").getD ""
    set { state with tracing := true }
    let reading := Reading.ofText sign.toList
    let before : String ←
      match (Reader.gather Reader.substitutions false reading.limit .document {}).run reading with
      | .ok (gathering, _) => Act.expandDocument engine.capture gathering.pieces.reverse
      | .error _ => pure sign
    let line := before ++ " ".intercalate words ++ "\n"
    modify fun now => { now with tracing := false }
    if let some stream := messages then
      Act.changeWorld fun world =>
        if (world.sink stream).writeFailure.isNone then world.deliver stream (textBytes line)
        else world

def runBuiltin (tested : Bool) (special : Bool) (name : String) (arguments : List String) :
    Act Nat := do
  let speaker := (← get).speaker
  modify fun state => { state with speaker := some name }
  let run := ((builtin? engine tested name).getD fun _ => return 0) arguments
  let finished : Act Nat := do
    let status ← run
    if ← Act.flush then return status
    Act.warn s!"{name}: I/O error"
    return status ||| 1
  Act.thenAlways
    (tryCatch finished fun stop => do
      let _ ← Act.flush
      if stop = .error && !special then return (← get).status
      throw stop)
    (modify fun state => { state with speaker })

def runFunction (tested : Bool) (body : Command) (parameters : List String) : Act Nat := do
  let before ← get
  set { before with parameters, loops := 0, optionIndex := 1, optionOffset := none }
  let run : Act Nat := do
    let _ ← engine.run tested false body
    return (← get).status
  Act.thenAlways run (modify fun state =>
    { state with
      parameters := before.parameters, loops := before.loops
      optionIndex := before.optionIndex, optionOffset := before.optionOffset
      skip :=
        match state.skip with
        | .leaveFunction _ => .none
        | skip => skip })

def runTarget (tested last : Bool) (found : Resolved) (words : List String) : Act Nat := do
  match found.target with
  | .nothing => return (← get).outputStatus
  | .function body => engine.runFunction tested body (words.drop 1)
  | .builtin name => engine.runBuiltin tested (found.special.getD false) name (words.drop 1)
  | .program =>
    let state ← get
    let path := if found.usual then Act.standardPath else state.searchPath
    engine.runProgram path last words

/-- Does something with variables of its own, which are given back at its end. If it ends the script
they are kept, for the last trap to see. -/
def withLocals (isLocal : Bool) (body : Act Nat) : Act Nat := do
  if !isLocal then body
  else
    let outer := (← get).locals
    modify fun state => { state with locals := some [] }
    let status ← body
    VariableCommands.giveBack ((← get).locals.getD [])
    modify fun state => { state with locals := outer }
    return status

def runSimple (tested last : Bool) (line : Nat) (assignments words : List Word)
    (redirects : List Redirect) : Act Nat := do
  modify fun state => { state with line, outputStatus := 0 }
  let begun : Words := { words }
  let found ←
    match ← begun.next engine with
    | none => pure {}
    | some (first, words) => engine.resolve prefixLimit false { first, words }
  let arguments ← engine.expandRest (assigningBuiltins.contains found.first) found.words
  let isEmpty := found.words.passed.isEmpty
  let words := if isEmpty then [] else found.first :: arguments
  let isLocal := !isEmpty && found.special ≠ some true
  let replaces := found.first = "exec" && found.special.isSome
  withLocals isLocal do
    let messages := (← Act.world).stream? Descriptors.standardError
    let targets ← redirects.mapM engine.workOut
    let failed : Act Nat := do
      modify fun state => { state with status := 2 }
      if found.special = some true then throw .error
      return 2
    engine.redirected targets replaces failed do
      let texts ← engine.assignAll isLocal (replaces && !arguments.isEmpty) assignments
      engine.trace messages (texts ++ found.words.passed.reverse ++ arguments)
      engine.runTarget tested last found words

/-! ## Children -/

def runSubshell (tested last : Bool) (line : Nat) (body : Command) (redirects : List Redirect) :
    Act Nat := do
  modify fun state => { state with line }
  let targets ← redirects.mapM engine.workOut
  let inside : Act Nat := do
    targets.forM engine.apply
    engine.run tested true body
  if last && !(← hasTraps) then inside
  else settle (← engine.inChild inside)

def runBackground (body : Command) (redirects : List Redirect) : Act Nat := do
  -- The child has no input, and an interrupt does nothing to it.
  let targets ← redirects.mapM engine.workOut
  let process := World.childNumber (← Act.world).children
  let outcome ← engine.inChild do
    modify fun state => { state with ignored := [2, 3] ++ state.ignored }
    Act.changeWorld (·.close Descriptors.standardInput)
    match (← Act.world).openPath .read "/dev/null" with
    | .ok (world, _) => Act.changeWorld fun _ => world
    | .error _ => Act.fail "Can't open /dev/null"
    targets.forM engine.apply
    engine.run false true body
  let background : Background :=
    match outcome with
    | .exited status => { process, status }
    | .killed signal => { process, status := 128 + signal, signal := some signal }
  modify fun state =>
    { state with
      lastBackground := some process, backgrounds := state.backgrounds ++ [background] }
  return 0

/-- Looks for the program of a stage before its child starts, so that it is remembered. -/
def prepareStage : Command → Act Unit
  | .simple _ _ (word :: _) _ => do
    let state ← get
    if let some name := bareText? word then
      if Reader.isGoodName name && (state.functions.lookup name).isNone &&
          (builtin? engine false name).isNone then
        let _ ← findProgram state.searchPath name
  | _ => return

def runStages (tested : Bool) (reader : Option Nat) : List Command → Act Nat
  | [] => return 0
  | stage :: rest => do
    engine.prepareStage stage
    let before ← Act.world
    let pipe? ←
      if rest.isEmpty then pure none
      else
        match before.openPipe with
        | .error _ => Act.fail "Pipe call failed"
        | .ok (opened, next, writer) =>
          Act.changeWorld fun _ => opened
          pure (some (next, writer))
    let outcome ← engine.inChild do
      Act.changeWorld fun world =>
        let world := (pipe?.map fun pipe => world.close pipe.1).getD world
        let world := (reader.map fun number =>
          moveDescriptor world number Descriptors.standardInput).getD world
        (pipe?.map fun pipe =>
          moveDescriptor world pipe.2 Descriptors.standardOutput).getD world
      engine.run tested true stage
    Act.changeWorld fun world =>
      let world := (reader.map world.close).getD world
      (pipe?.map fun pipe => world.close pipe.2).getD world
    let status ← settle outcome
    if rest.isEmpty then return status
    else runStages tested (pipe?.map (·.1)) rest

/-! ## Loops -/

def endRound : Act Bool := do
  let goOn (skip : Skip) (goesOn : Bool) : Act Bool := do
    modify fun state => { state with skip }
    return goesOn
  match (← get).skip with
  | .none => return true
  | .leaveLoops count => goOn (if count ≤ 1 then .none else .leaveLoops (count - 1)) false
  | .nextRound count =>
    if count ≤ 1 then goOn .none true else goOn (.nextRound (count - 1)) false
  | .leaveFunction _ => return false

def inLoop (body : Act Nat) : Act Nat := do
  modify fun state => { state with loops := state.loops + 1 }
  let status ← body
  modify fun state => { state with loops := state.loops - 1 }
  return status

def runEach (tested : Bool) (name : String) (body : Command) (status : Nat) :
    List String → Act Nat
  | [] => return status
  | word :: rest => do
    Act.assign name word
    let status ← engine.run tested false body
    if ← endRound then runEach tested name body status rest else return status

def roundLimit : Nat := 100000000

def runLoop (tested untilTrue : Bool) (test body : Command) (status : Nat) : Nat → Act Nat
  | 0 => return status
  | rounds + 1 => do
    let found ← engine.run true false test
    let skipped := (← get).skip
    if skipped ≠ .none then
      let goesOn ← endRound
      let status := if skipped = .leaveFunction true then found else status
      if goesOn then runLoop tested untilTrue test body status rounds else return status
    else if (found = 0) = !untilTrue then
      let status ← engine.run tested false body
      if ← endRound then runLoop tested untilTrue test body status rounds else return status
    else return status

/-! ## All commands -/

def chooseCase (text : List Char) :
    List (List Word × Option Command) → Act (Option Command)
  | [] => return none
  | (patterns, body) :: rest => do
    if ← matchesAny patterns then return body else chooseCase text rest
where
  matchesAny : List Word → Act Bool
    | [] => return false
    | pattern :: rest => do
      let pattern ← Act.expandPattern engine.capture pattern
      if matchesPattern pattern text then return true else matchesAny rest

def runRow (tested last : Bool) : List Command → Act Nat
  | [] => return (← get).status
  | [command] => engine.run tested last command
  | command :: rest => do
    let status ← engine.run tested false command
    if (← get).skip ≠ .none then return status
    runRow tested last rest

def runChosen (tested last : Bool) : Option Command → Act Nat
  | some command => engine.run tested last command
  | none => return 0

def perform (tested last : Bool) : Command → Act (Option Nat)
  | .simple line assignments words redirects =>
    some <$> engine.runSimple tested last line assignments words redirects
  | .pipeline stages => some <$> engine.runStages tested none stages
  | .background _ body redirects => some <$> engine.runBackground body redirects
  | .negation body => do
    let status ← engine.run true false body
    return some (if status = 0 then 1 else 0)
  | .both first second => do
    let status ← engine.run true false first
    if status ≠ 0 || (← get).skip ≠ .none then return none
    some <$> engine.run tested last second
  | .either first second => do
    let status ← engine.run true false first
    if status = 0 || (← get).skip ≠ .none then return none
    some <$> engine.run tested last second
  | .sequence commands => some <$> engine.runRow tested last commands
  | .redirected line body redirects => do
    modify fun state => { state with line }
    let targets ← redirects.mapM engine.workOut
    let failed : Act Nat := do
      modify fun state => { state with status := 2 }
      if !tested && (← Act.isOn "errexit") then throw .finished
      return 2
    some <$> engine.redirected targets false failed (engine.run tested false body)
  | .subshell line body redirects => some <$> engine.runSubshell tested last line body redirects
  | .conditional test body otherwise => do
    let status ← engine.run true false test
    if (← get).skip ≠ .none then return none
    some <$> engine.runChosen tested last (if status = 0 then some body else otherwise)
  | .loop untilTrue test body =>
    some <$> inLoop (engine.runLoop tested untilTrue test body 0 roundLimit)
  | .each line name words body => do
    modify fun state => { state with line }
    let words ← engine.expandAll words
    some <$> inLoop (engine.runEach tested name body 0 words)
  | .choice line word cases => do
    modify fun state => { state with line }
    let text ← Act.expandText engine.capture word
    match ← engine.chooseCase text.toList cases with
    | some body => some <$> engine.run tested last body
    | none => return some 0
  | .define name body => do
    modify fun state =>
      { state with functions := (name, body) :: state.functions.filter (·.1 ≠ name) }
    return some 0

def isChecked : Command → Bool
  | .simple .. | .pipeline _ | .background .. | .subshell .. => true
  | _ => false

def evaluate (tested last : Bool) (command : Command) : Act Nat := do
  if !(← Act.isOn "noexec") then
    engine.runTraps Act.signalCount
    let status ← engine.perform tested last command
    if let some status := status then modify fun state => { state with status }
    engine.runTraps Act.signalCount
    let failed := isChecked command && !tested && (status.getD 0) ≠ 0
    if failed && (← Act.isOn "errexit") then throw .finished
  if last then throw .finished
  return (← get).status

end Engine

def evaluationDepth : Nat := 20000

def engineOf (launch : Launcher) : Nat → Engine
  | 0 => { launch, run := fun _ _ _ => throw (.killed 11) }
  | depth + 1 =>
    { launch, run := fun tested last command =>
        (engineOf launch depth).evaluate tested last command }

end Script

end PipeShell
