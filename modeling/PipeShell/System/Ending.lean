import PipeShell.System.Errno
import PipeShell.System.Signal

/-!
# How a child process ends

A child exits with a status or is ended by a signal; a child that can no longer be waited for is
lost. What the user is told about it is decided here.
-/

namespace PipeShell

inductive Ending where
  | exited (code : Int)
  | signaled (signal : Signal) (coreDumped : Bool)
  | lost (errno : Errno)
  deriving DecidableEq, Repr

namespace Ending

def status : Ending → Int
  | .exited code => code
  | .signaled signal _ => 128 + signal.number
  | .lost _ => 1

def name : Ending → String
  | .exited _ => "Exited"
  | .signaled _ _ => "Signaled"
  | .lost _ => "Error"

def debugText (ending : Ending) : String :=
  String.join ["WaitStatus \x7b name: \"", ending.name, "\", status: ", toString ending.status,
    " \x7d"]

def signalText (signal : Signal) : Option String :=
  -- An interrupt only ends the line, and a broken pipe is the normal end of a command whose reader
  -- left.
  if signal = .SIGINT then some ""
  else if signal = .SIGPIPE then none
  else if signal = .SIGQUIT then some "Quit"
  else if signal = .SIGKILL then some "Killed"
  else if signal = .SIGTERM then some "Terminated"
  else if signal = .SIGSEGV then some "Segmentation fault"
  else if signal = .SIGABRT then some "Aborted"
  else some signal.name

def report : Ending → Option String
  | .signaled signal coreDumped =>
    (signalText signal).map fun text =>
      if coreDumped ∧ signal ≠ .SIGINT then text ++ " (core dumped)" else text
  | _ => none

end Ending

end PipeShell
