/-!
# Signals
-/

namespace PipeShell

/-- A signal number of the system, 1 to 31. -/
structure Signal where
  number : Nat
  in_range : 1 ≤ number ∧ number ≤ 31
  deriving DecidableEq, Repr

namespace Signal

def names : List String := [
  "SIGHUP", "SIGINT", "SIGQUIT", "SIGILL", "SIGTRAP", "SIGABRT", "SIGBUS", "SIGFPE",
  "SIGKILL", "SIGUSR1", "SIGSEGV", "SIGUSR2", "SIGPIPE", "SIGALRM", "SIGTERM", "SIGSTKFLT",
  "SIGCHLD", "SIGCONT", "SIGSTOP", "SIGTSTP", "SIGTTIN", "SIGTTOU", "SIGURG", "SIGXCPU",
  "SIGXFSZ", "SIGVTALRM", "SIGPROF", "SIGWINCH", "SIGIO", "SIGPWR", "SIGSYS"]

theorem length_names : names.length = 31 := rfl

def name (signal : Signal) : String :=
  names.get ⟨signal.number - 1, by
    have range := signal.in_range
    have length := length_names
    omega⟩

def ofNumber? (number : Nat) : Option Signal :=
  if valid : 1 ≤ number ∧ number ≤ 31 then some ⟨number, valid⟩ else none

def ofName? (name : String) : Option Signal :=
  match names.findIdx? (fun known => known == name || known == "SIG" ++ name) with
  | some index => ofNumber? (index + 1)
  | none => none

def SIGINT : Signal := ⟨2, by decide⟩
def SIGQUIT : Signal := ⟨3, by decide⟩
def SIGABRT : Signal := ⟨6, by decide⟩
def SIGKILL : Signal := ⟨9, by decide⟩
def SIGSEGV : Signal := ⟨11, by decide⟩
def SIGPIPE : Signal := ⟨13, by decide⟩
def SIGTERM : Signal := ⟨15, by decide⟩

end Signal

end PipeShell
