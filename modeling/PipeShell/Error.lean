import PipeShell.System.Errno

/-!
# Errors of the shell

Each error is its cause. Its text, and the exit status it leads to, are decided here only.
-/

namespace PipeShell

inductive EditorFailure where
  | endOfInput
  | interrupted
  | other (text : String)
  deriving DecidableEq, Repr

def EditorFailure.message : EditorFailure → String
  | .endOfInput => "EOF"
  | .interrupted => "Interrupted"
  | .other text => text

inductive ShellError where
  | unexpectedToken (token : String)
  | unmatchedQuote (quote : Char)
  | missingCommand
  | ambiguousRedirect (target : String)
  | commandNotFound (name : String)
  | noSuchFile (name : String)
  | permissionDenied (name : String)
  | isDirectory (name : String)
  | cannotExecute (path reason : String)
  | redirection (path reason : String)
  | system (context : String) (errno : Errno)
  | io (failure : IoFailure)
  | lineEditor (failure : EditorFailure)
  deriving DecidableEq, Repr

namespace Status

def success : Int := 0
def failure : Int := 1
def misuse : Int := 2
def cannotExecute : Int := 126
def notFound : Int := 127
def interrupted : Int := 130

end Status

namespace ShellError

def ofFailure (path : String) (failure : IoFailure) : ShellError :=
  .redirection path failure.description

def message : ShellError → String
  | .unexpectedToken token => s!"syntax error near unexpected token `{token}'"
  | .unmatchedQuote quote =>
    s!"syntax error: unexpected end of file while looking for matching `{quote}'"
  | .missingCommand => "syntax error: missing command"
  | .ambiguousRedirect target => s!"{target}: ambiguous redirect"
  | .commandNotFound name => s!"{name}: command not found"
  | .noSuchFile name => s!"{name}: No such file or directory"
  | .permissionDenied name => s!"{name}: Permission denied"
  | .isDirectory name => s!"{name}: Is a directory"
  | .cannotExecute path reason => s!"{path}: cannot execute: {reason}"
  | .redirection path reason => s!"{path}: {reason}"
  | .system context errno => s!"{context}: {errno.name}: {errno.description}"
  | .io failure => failure.display
  | .lineEditor failure => failure.message

def isSyntax : ShellError → Bool
  | .unexpectedToken _ | .unmatchedQuote _ | .missingCommand => true
  | _ => false

def status : ShellError → Int
  | .unexpectedToken _ | .unmatchedQuote _ | .missingCommand => Status.misuse
  | .commandNotFound _ | .noSuchFile _ => Status.notFound
  | .permissionDenied _ | .isDirectory _ | .cannotExecute _ _ => Status.cannotExecute
  | _ => Status.failure

end ShellError

end PipeShell
