import PipeShell.Environment

/-!
# The session

What one command leaves for the next: the variables, the exit status of the last pipeline, and
whether `exit` was run.
-/

namespace PipeShell

structure Session where
  environment : Environment := {}
  exitStatus : Int := 0
  shouldExit : Bool := false
  deriving DecidableEq, Repr

namespace Session

def valueOf? (session : Session) (name : String) : Option String :=
  session.environment.get? name

def setStatus (session : Session) (status : Int) : Session :=
  { session with exitStatus := status % 256 }

theorem exitStatus_setStatus_range (session : Session) (status : Int) :
    0 ≤ (session.setStatus status).exitStatus ∧ (session.setStatus status).exitStatus < 256 := by
  simp only [setStatus]
  omega

end Session

end PipeShell
