import PipeShell.System.Journal
import PipeShell.Text.Blank

/-!
# Configuration

The shell's settings: defaults under the home directory, each of which a variable can override.
-/

namespace PipeShell

inductive EditMode where
  | vi
  | emacs
  deriving DecidableEq, Repr

structure Config where
  name : String := shellName
  directory : String
  theme : String := "default"
  historyFile : String
  editorMode : String := "emacs"
  logLevel : String := "info"
  logDirectory : String
  logEcho : Bool := false
  deriving DecidableEq, Repr

inductive Home where
  | unset
  | unreadable
  | path (text : String)
  deriving DecidableEq, Repr

/-- What the account database is assumed to give as the home directory of the shell's user, who is
then the superuser. Whoever runs the shell for another user says so where this is a default. -/
def accountHome : String := "/root"

/-- The directory that a leading `~` means. Assumed is that a variable which is missing or empty is
made up for by the account database, and that one which is no text is not. -/
def Home.tilde (account : String) : Home → Option String
  | .unset => some account
  | .unreadable => none
  | .path text => some (if text = "" then account else text)

/-- A path with a leading `~` replaced by the home directory. Assumed is that nothing else of a path
is replaced: a `~` counts alone or before a `/` only, so `~name` is no one's home directory. -/
def expandHome (account : String) (home : Home) (path : String) : String :=
  match path.toList, home.tilde account with
  | '~' :: rest, some directory =>
    if rest.isEmpty ∨ rest.head? = some '/' then directory ++ String.ofList rest else path
  | _, _ => path

def isTruthy (value : String) : Bool :=
  ["1", "true", "yes", "on"].contains (String.ofList (trimBlank value.toList)).toLower

namespace Config

def standard (home : Home) : Config :=
  let directory :=
    match home with
    | .path text => joinPath text ".config/minish"
    | _ => "tmp"
  { directory, historyFile := joinPath directory ".minish_history"
    logDirectory := joinPath directory "logs" }

def override (config : Config) (home : Home) (lookup : String → Option String)
    (account : String := accountHome) : Config :=
  let expand := expandHome account home
  { config with
    theme := (lookup "MINISH_THEME").getD config.theme
    editorMode := (lookup "MINISH_EDITOR").getD config.editorMode
    historyFile := ((lookup "MINISH_HISTORY").map expand).getD config.historyFile
    logLevel := (lookup "MINISH_LOG_LEVEL").getD config.logLevel
    logDirectory := ((lookup "MINISH_LOG_DIR").map expand).getD config.logDirectory
    logEcho := ((lookup "MINISH_LOG_ECHO").map isTruthy).getD config.logEcho }

def editMode (config : Config) : EditMode :=
  if config.editorMode.toLower = "vi" then .vi else .emacs

def threshold (config : Config) : LogLevel := .ofString config.logLevel

end Config

end PipeShell
