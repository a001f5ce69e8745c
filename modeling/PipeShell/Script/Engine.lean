import PipeShell.Script.Expansion

/-!
# Running scripts: texts, children and ends

What the commands of a script have in common: a text is read and run row by row, a child runs from a
copy of the state, and the end of a script is the time for its last trap.
-/

namespace PipeShell

namespace Script

/-- What starts programs, and what runs commands: whether the status is looked at by another
command, and whether the command is the last one. -/
structure Engine where
  launch : Launcher
  run (tested last : Bool) (command : Command) : Act Nat

namespace Engine

variable (engine : Engine)

/-! ## Texts -/

def linesRead (text rest : List Char) : List Char :=
  let read := text.take (text.length - rest.length)
  if read.isEmpty || read.getLast? = some '\n' then read
  else read ++ rest.takeWhile (· ≠ '\n') ++ (rest.dropWhile (· ≠ '\n')).take 1

def showLines (shows : Bool) (lines : Unit → List Char) : Act Unit := do
  if shows && (← Act.isOn "verbose") then Act.printError (String.ofList (lines ()))

def runReading (shows tested last : Bool) : Nat → Reading → Nat → Act Nat
  | 0, _, status => return status
  | fuel + 1, reading, status => do
    let state ← get
    match Reader.nextLine.run { reading with aliases := state.aliases } with
    | .error fault =>
      showLines shows fun _ => reading.rest
      Act.failToRead fault.line fault.message
    | .ok (.ended, _) =>
      showLines shows fun _ => reading.rest
      return status
    | .ok (.commands commands, next) =>
      showLines shows fun _ => linesRead reading.rest next.rest
      modify fun state =>
        { state with
          documents := next.documents, nextDocument := next.nextDocument, readLine := next.line }
      if commands.isEmpty then runReading shows tested last fuel next status
      else
        let isEnd := next.again && next.token = .finish
        let status ← engine.run tested (last && isEnd) (Reader.joined commands)
        if (← get).skip ≠ .none then return status
        runReading shows tested last fuel next status

def runSource (shows tested last : Bool) (text : String) : Act Nat := do
  let state ← get
  let reading :=
    { Reading.ofText text.toList with
      documents := state.documents, nextDocument := state.nextDocument }
  Act.thenAlways (engine.runReading shows tested last (text.length + 2) reading 0)
    (modify fun now => { now with readLine := state.readLine })

def runText (text : String) (tested last : Bool) : Act Nat :=
  engine.runSource false tested last text

def runFile (text : String) : Act Nat := engine.runSource true false false text

/-! ## Traps -/

def runTraps : Nat → Act Unit
  | 0 => return
  | count + 1 => do
    let state ← get
    match state.pending.min? with
    | none => return
    | some signal =>
      if state.skip ≠ .none then return
      let outer := state.leaving
      let status := outer.getD state.status
      set { state with
        pending := state.pending.filter (· ≠ signal), leaving := some status }
      if let some action := state.trap? signal then
        let _ ← engine.runText action false false
        modify fun now =>
          { now with
            status := if now.skip = .leaveFunction true then now.status else status }
      modify fun now => { now with leaving := outer }
      runTraps count

def statusAt (result : Except Stop Nat) (state : State) : Nat :=
  match result with
  | .error .exit => state.leaving.getD state.status
  | _ =>
    if state.skip = .leaveFunction false then state.leaving.getD state.status else state.status

def conclude (result : Except Stop Nat) : StateM State Outcome := do
  match result with
  | .error (.killed signal) => return .killed signal
  | .error (.gone outcome) => return outcome
  | result =>
    let state ← get
    let status := statusAt result state
    match state.trap? 0 with
    | none => return .exited (status % 256)
    | some action =>
      set { state with
        status, leaving := some status, skip := .none, loops := 0, tracing := false
        traps := state.traps.filter (·.1 ≠ 0) }
      match ← (engine.runText action false false).run with
      | .error (.killed signal) => return .killed signal
      | .error (.gone outcome) => return outcome
      | .error .exit | .ok _ => return .exited (((← get).leaving.getD status) % 256)
      | .error _ => return .exited ((← get).status % 256)

/-! ## Children -/

/-- The state of a child as it starts. Only what ignores a signal is handed down. -/
def childState (state : State) : State :=
  let number := World.childNumber state.world.children
  { state with
    world := { state.world with
      children := state.world.children + 1, process := state.world.process.child number }
    traps := state.traps.filter (·.2 = ""), pending := [], backgrounds := [], printed := [] }

def afterChild (parent world : World) : World :=
  -- What the child did to the shared part stays; what only it had open is forgotten.
  { world with
    process := parent.process
    openFiles := world.openFiles.take parent.openFiles.length
    pipes := world.pipes.take parent.pipes.length }

def inChild (body : Act Nat) : Act Outcome := do
  let state ← get
  let (result, ended) := body.run (childState state)
  let (outcome, ended) := engine.conclude result ended
  set { state with world := afterChild state.world ended.world }
  Act.collectSignals
  return outcome

def settle : Outcome → Act Nat
  | .exited status => return status
  | .killed signal => do
    unless signal = 2 || signal = 13 do Act.printError (signalText signal ++ "\n")
    return 128 + signal

def moveDescriptor (world : World) (source target : Nat) : World :=
  if source = target then world
  else (world.mapDescriptors (·.duplicate source target)).close source

def capture (commands : List Command) : Act Bytes := do
  if commands.isEmpty then return []
  let before ← Act.world
  match before.openPipe with
  | .error _ => Act.fail "Pipe call failed"
  | .ok (opened, reader, writer) =>
    Act.changeWorld fun _ => opened
    let outcome ← engine.inChild do
      Act.changeWorld fun world =>
        moveDescriptor (world.close reader) writer Descriptors.standardOutput
      engine.run false true (Reader.joined commands)
    let outputStatus ← settle outcome
    let world ← Act.world
    let content := world.pipes.getD before.pipes.length []
    modify fun state =>
      { state with
        outputStatus
        world := { world with
          process := before.process, pipes := world.pipes.take before.pipes.length } }
    return content

end Engine

end Script

end PipeShell
