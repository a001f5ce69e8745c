import PipeShell.Line.Pipeline
import PipeShell.System.World

/-!
# Redirections

Targets are opened strictly in the order in which they were written, up to the first that fails.
All are opened; only the last one of each direction has an effect.
-/

namespace PipeShell

def RedirectOperator.openMode? : RedirectOperator → Option OpenMode
  | .input => some .read
  | .output => some .overwrite
  | .append => some .append
  | .heredoc => none

def openTarget (world : World) (redirection : Redirection) : Except ShellError (World × Nat) :=
  match redirection.path with
  | .error error => .error error
  | .ok path =>
    match redirection.operator.openMode? with
    | none => .error (.redirection path "here-document has no target file")
    | some mode => (world.openPath mode path).mapError (ShellError.ofFailure path)

def isLastInput (later : List Redirection) : Bool :=
  !later.any fun redirection => redirection.operator.isInput

def isLastOutput (later : List Redirection) : Bool :=
  !later.any fun redirection => redirection.operator.isOutput

/-- The redirections of a builtin that runs in the shell itself: the number of the last output
target stays open. Input targets are only opened, since no builtin reads. -/
def openInShell (world : World) : List Redirection → World × Except ShellError (Option Nat)
  | [] => (world, .ok none)
  | redirection :: rest =>
    if redirection.operator = .heredoc then openInShell world rest
    else
      match openTarget world redirection with
      | .error error => (world, .error error)
      | .ok (opened, number) =>
        if redirection.operator.isOutput && isLastOutput rest then
          match openInShell opened rest with
          | (world, .ok _) => (world, .ok (some number))
          | (world, .error error) => (world.close number, .error error)
        else openInShell (opened.close number) rest

structure HeredocPipe where
  reader : Nat
  writer : Nat
  body : String
  deriving DecidableEq, Repr

/-- Makes a standard number mean what another number means. The system has no reason to refuse it:
the number that is copied is open, as the end of a pipe of the pipeline or as a target opened just
now, and the other one is 0 or 1. -/
def World.duplicate (world : World) (source target : Nat) : World :=
  world.mapDescriptors (·.duplicate source target)

def RedirectOperator.standardStream (operator : RedirectOperator) : Nat :=
  if operator.isInput then Descriptors.standardInput else Descriptors.standardOutput

def RedirectOperator.isLast (operator : RedirectOperator) (later : List Redirection) : Bool :=
  if operator.isInput then isLastInput later else isLastOutput later

/-- The redirections of a stage, applied in its own process. `heredocs` are the pipes of the
here-documents still to come. -/
def applyRedirections (world : World) :
    List Redirection → List HeredocPipe → World × Except ShellError Unit
  | [], _ => (world, .ok ())
  | redirection :: rest, heredocs =>
    if redirection.operator = .heredoc then
      match heredocs with
      | [] => applyRedirections world rest []
      | pipe :: pipes =>
        applyRedirections
          (if isLastInput rest then world.duplicate pipe.reader Descriptors.standardInput
            else world) rest pipes
    else
      match openTarget world redirection with
      | .error error => (world, .error error)
      | .ok (opened, number) =>
        let wired :=
          if redirection.operator.isLast rest then
            opened.duplicate number redirection.operator.standardStream
          else opened
        applyRedirections (wired.close number) rest heredocs

end PipeShell
