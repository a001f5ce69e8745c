import PipeShell.Error
import PipeShell.System.Journal

/-!
# Children of the shell

Children are numbered as they are started, and each can be waited for once. The children of a
pipeline are waited for in the order in which they were started; the last stage alone decides the
status.
-/

namespace PipeShell

def findEnding (child : Nat) : List (Nat × Ending) → Option Ending
  | [] => none
  | (known, ending) :: rest => if known = child then some ending else findEnding child rest

def Ending.ofExit (status : Int) : Ending := .exited (status % 256)

namespace World

def fork (world : World) : Except Errno (World × Nat) :=
  if world.processLimit = some 0 then .error world.processErrno
  else
    .ok ({ world with
      children := world.children + 1, processLimit := world.processLimit.map (· - 1) },
      world.children)

def recordEnding (world : World) (child : Nat) (ending : Ending) : World :=
  { world with endings := (child, ending) :: world.endings }

def endingOf (world : World) (child : Nat) : Ending :=
  (findEnding child world.endings).getD (.lost .ECHILD)

def waitFor (world : World) (child : Nat) : World × Ending :=
  let waited := { world with endings := world.endings.filter (·.1 ≠ child) }
  match world.endingOf child with
  | .lost errno =>
    let number := childNumber child
    (waited.log .error s!"waitpid {number} 出错: {errno.name}: {errno.description}", .lost errno)
  | ending => (waited, ending)

def waitStage (last : Nat) (waited : World × Int) (stage : Nat × Nat) : World × Int :=
  -- `waited` holds the status as far as it is known; only the last stage replaces it.
  let (world, ending) := waited.1.waitFor stage.2
  if stage.1 = last then
    match ending.report with
    | some line => (world.complain line, ending.status)
    | none => (world, ending.status)
  else (world, waited.2)

/-- Waits for the children, each given with the number of its stage. The status is that of the last
stage, and a failure if that was never started. -/
def waitPipeline (world : World) (children : List (Nat × Nat)) (last : Nat) : World × Int :=
  children.foldl (waitStage last) (world, Status.failure)

end World

end PipeShell
