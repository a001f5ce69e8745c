import PipeShell.Script.Condition
import PipeShell.Script.DirectoryCommands
import PipeShell.Script.NameCommands
import PipeShell.Script.Printing
import PipeShell.Script.SignalCommands

/-!
# Commands on the course of a script, and the table of all commands

Loops and functions are left by noting why the following commands are passed over.
-/

namespace PipeShell

namespace Script

namespace FlowCommands

def loopCount (words : List String) : Act Nat := do
  let word := words.headD "1"
  let count ← numberOf word
  if count = 0 then Act.fail s!"Illegal number: {word}"
  return min count (← get).loops

def break_ : Builtin := fun words => do
  let count ← loopCount words
  if count ≠ 0 then modify fun state => { state with skip := .leaveLoops count }
  return 0

def continue_ : Builtin := fun words => do
  let count ← loopCount words
  if count ≠ 0 then modify fun state => { state with skip := .nextRound count }
  return 0

def return_ : Builtin := fun words => do
  let status ← (words.head?.map numberOf).getD (return (← get).status)
  modify fun state => { state with skip := .leaveFunction !words.isEmpty }
  return status

def exit : Builtin := fun words => do
  if let some word := words.head? then
    let status ← numberOf word
    modify fun state => { state with leaving := some status }
  throw .exit

def times : Builtin := fun _ => do
  let line := "0m0.000000s 0m0.000000s\n"
  Act.print (line ++ line)
  return 0

variable (engine : Engine)

def eval (tested : Bool) : Builtin := fun words =>
  if words.isEmpty then return 0
  else engine.runText (" ".intercalate words) tested false

def exec : Builtin := fun words => do
  let words ← operandsOf words
  if words.isEmpty then return 0
  engine.replaceProcess (← get).searchPath 0 words

def scriptPath (name : String) : Act String := do
  if name.toList.contains '/' then return name
  let state ← get
  match firstFile state.world 0 .ENOENT (candidatePaths state.searchPath name) with
  | .ok (_, path) => return path
  | .error _ => Act.fail s!"{name}: not found"

def scriptContent (path : String) : Act Bytes := do
  let world ← Act.world
  match world.openPath .read (nameOf path) with
  | .error failure => Act.fail (Engine.openMessage false path failure)
  | .ok (opened, number) =>
    match opened.stream? number |>.map (opened.readable 0) with
    | some (.ok content) => return content
    | _ => return []

def include_ : Builtin := fun words => do
  match ← operandsOf words with
  | [] => return 0
  | name :: _ =>
    let path ← scriptPath name
    let content ← scriptContent path
    modify fun state => { state with speaker := some path }
    let status ← engine.runFile (byteText content)
    modify fun state =>
      match state.skip with
      | .leaveFunction _ => { state with skip := .none }
      | _ => state
    return status

end FlowCommands

def builtin? (engine : Engine) (tested : Bool) (name : String) : Option Builtin :=
  match name with
  | "." => some (FlowCommands.include_ engine)
  | ":" | "true" => some fun _ => return 0
  | "[" => some (Condition.test true)
  | "alias" => some NameCommands.alias_
  | "bg" | "fg" => some SignalCommands.resume
  | "break" => some FlowCommands.break_
  | "cd" | "chdir" => some DirectoryCommands.cd
  | "command" => some NameCommands.command
  | "continue" => some FlowCommands.continue_
  | "echo" => some Printing.echo
  | "eval" => some (FlowCommands.eval engine tested)
  | "exec" => some (FlowCommands.exec engine)
  | "exit" => some FlowCommands.exit
  | "export" => some VariableCommands.export_
  | "false" => some fun _ => return 1
  | "getopts" => some VariableCommands.getopts
  | "hash" => some NameCommands.hash
  | "jobs" => some SignalCommands.jobs
  | "kill" => some SignalCommands.kill
  | "local" => some VariableCommands.local_
  | "printf" => some Printing.printf
  | "pwd" => some DirectoryCommands.pwd
  | "read" => some VariableCommands.read
  | "readonly" => some VariableCommands.readonly
  | "return" => some FlowCommands.return_
  | "set" => some VariableCommands.set_
  | "shift" => some VariableCommands.shift
  | "test" => some (Condition.test false)
  | "times" => some FlowCommands.times
  | "trap" => some SignalCommands.trap
  | "type" => some NameCommands.type
  | "ulimit" => some DirectoryCommands.ulimit
  | "umask" => some DirectoryCommands.umask
  | "unalias" => some NameCommands.unalias
  | "unset" => some VariableCommands.unset
  | "wait" => some SignalCommands.wait
  | _ => none

end Script

end PipeShell
