import PipeShell.Programs.Installed
import PipeShell.Startup

/-!
# The command

Runs the lines of standard input in a newly installed world and shows what the shell wrote there. A
terminal gets prompts.
-/

open PipeShell

def handedOn : List String :=
  ["PATH", "HOME", "TERM", "MINISH_THEME", "MINISH_EDITOR", "MINISH_HISTORY", "MINISH_LOG_LEVEL",
    "MINISH_LOG_DIR", "MINISH_LOG_ECHO"]

def readEnvironment : IO ProcessEnvironment := do
  let entries ← handedOn.filterMapM fun name => do
    return (← IO.getEnv name).map fun value => encode (name ++ "=" ++ value)
  return .ofEntries entries

def toByteArray (bytes : Bytes) : ByteArray := ⟨bytes.toArray⟩

partial def readAll (stream : IO.FS.Stream) (sofar : Bytes) : IO Bytes := do
  let chunk ← stream.read 4096
  if chunk.isEmpty then return sofar
  readAll stream (sofar ++ chunk.toList)

def main : IO UInt32 := do
  let environment ← readEnvironment
  let stdin ← IO.getStdin
  let bytes ← readAll stdin []
  let input := if ← stdin.isTty then Input.terminal bytes else Input.plain bytes
  let stamp : Stamp := { process := "1", time := "1970-01-01 00:00:00", date := "1970-01-01" }
  let (world, status) := runSession (.installed ["root"]) environment stamp false input
  (← IO.getStdout).write (toByteArray world.output)
  (← IO.getStderr).write (toByteArray world.errors)
  return status.toNat.toUInt32
