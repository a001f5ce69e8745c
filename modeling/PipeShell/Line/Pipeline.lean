import PipeShell.Error
import PipeShell.Line.Token

/-!
# Pipelines

What a line means: commands joined by pipes, each with its arguments and its redirections in the
order in which they were written.
-/

namespace PipeShell

/-- `target` is the file, the delimiter of a here-document, or, if the word did not expand to
exactly one field, the word as written. `expandBody` is of use for here-documents only. -/
structure Redirection where
  operator : RedirectOperator
  target : String
  expandBody : Bool := false
  ambiguous : Bool := false
  deriving DecidableEq, Repr

structure Command where
  arguments : List String := []
  redirections : List Redirection := []
  deriving DecidableEq, Repr

structure Pipeline where
  commands : List Command := []
  deriving DecidableEq, Repr

def Redirection.path (redirection : Redirection) : Except ShellError String :=
  if redirection.ambiguous then .error (.ambiguousRedirect redirection.target)
  else .ok redirection.target

namespace RedirectOperator

def isInput : RedirectOperator → Bool
  | .input | .heredoc => true
  | _ => false

def isOutput : RedirectOperator → Bool
  | .output | .append => true
  | _ => false

end RedirectOperator

def lastOf (kind : RedirectOperator → Bool) (redirections : List Redirection) :
    Option Redirection :=
  redirections.reverse.find? fun redirection => kind redirection.operator

namespace Command

def program (command : Command) : String := command.arguments.headD ""

def input (command : Command) : Option Redirection :=
  lastOf RedirectOperator.isInput command.redirections

def output (command : Command) : Option Redirection :=
  lastOf RedirectOperator.isOutput command.redirections

def heredocs (command : Command) : List Redirection :=
  command.redirections.filter fun redirection => redirection.operator = .heredoc

end Command

namespace Pipeline

def size (pipeline : Pipeline) : Nat := pipeline.commands.length

def isEmpty (pipeline : Pipeline) : Bool := pipeline.commands.isEmpty

end Pipeline

end PipeShell
