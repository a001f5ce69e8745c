import PipeShell.System.World

/-!
# Starting programs

What the shell hands to a program it starts, and what it sees of it in the end. The program itself
is no part of the shell: it can be anything, and whatever is said about the shell holds for all
programs.
-/

namespace PipeShell

structure Call where
  arguments : List String
  environment : List (String × String) := []
  ignored : List Nat := []
  deriving DecidableEq, Repr

namespace Call

def self (call : Call) : String := call.arguments.headD ""

def operands (call : Call) : List String := call.arguments.drop 1

end Call

inductive Outcome where
  | exited (status : Nat)
  | killed (signal : Nat)
  deriving DecidableEq, Repr

def Outcome.ending : Outcome → Ending
  | .exited status => .exited status
  -- A signal beyond those that the shell knows cannot be waited for.
  | .killed signal =>
    match Signal.ofNumber? signal with
    | some signal => .signaled signal false
    | none => .lost .EINVAL

abbrev Launcher := World → String → Call → Except Errno (World × Outcome)

/-- The programs that commands can start, given as what starts them. -/
class Launching where
  launch : Launcher

namespace Launching

scoped instance (priority := high) noPrograms : Launching := ⟨fun _ _ _ => .error .ENOENT⟩

end Launching

end PipeShell
