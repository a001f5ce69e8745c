import PipeShell.Error
import PipeShell.Session
import PipeShell.System.PathWalk
import PipeShell.System.Writer
import PipeShell.Text.Integer

/-!
# Builtin commands

A builtin changes the session and the working directory and says what is to be printed; only then
is that written. So a writer that fails can change the status and nothing else.
-/

namespace PipeShell

inductive Builtin where
  | echo
  | cd
  | pwd
  | export
  | unset
  | env
  | exit
  deriving DecidableEq, Repr

def Builtin.ofName? : String → Option Builtin
  | "echo" => some .echo
  | "cd" => some .cd
  | "pwd" => some .pwd
  | "export" => some .export
  | "unset" => some .unset
  | "env" => some .env
  | "exit" => some .exit
  | _ => none

def isBuiltin (name : String) : Bool := (Builtin.ofName? name).isSome

structure Scene where
  files : FileTree
  directory : Place
  session : Session

/-- What a builtin does: the new session and directory, the pieces to be printed, the messages, and
the status if printing succeeds. -/
structure Effect where
  session : Session
  directory : Place
  output : List String := []
  messages : List String := []
  status : Int := Status.success
  deriving DecidableEq, Repr

def labelled (subject text : String) : String := s!"{subject}: {text}"

namespace Scene

def still (scene : Scene) : Effect :=
  { session := scene.session, directory := scene.directory }

def refuse (scene : Scene) (status : Int) (message : String) : Effect :=
  { scene.still with messages := [message], status }

def fail (scene : Scene) (message : String) : Effect := scene.refuse Status.failure message

def print (scene : Scene) (output : List String) : Effect := { scene.still with output }

/-! ## `echo` and `pwd` -/

def spaced (words : List String) : String := " ".intercalate words

def echo (scene : Scene) : List String → Effect
  | "-n" :: words => scene.print [spaced words]
  | words => scene.print [spaced words ++ "\n"]

def pwd (scene : Scene) : Effect :=
  match scene.files.directoryPath scene.directory with
  | .ok path => scene.print [path, "\n"]
  | .error failure => scene.fail (labelled "pwd" failure.description)

/-! ## `cd` -/

def cdTarget (session : Session) : List String → Except String (String × Bool)
  -- The flag says that the directory is shown, as it is when `-` leads back to it.
  | [] =>
    match session.valueOf? "HOME" with
    | some home => .ok (home, false)
    | none => .error "HOME not set"
  | ["-"] =>
    match session.valueOf? "OLDPWD" with
    | some previous => .ok (previous, true)
    | none => .error "OLDPWD not set"
  | [path] => .ok (path, false)
  | _ => .error "too many arguments"

def previousDirectory (scene : Scene) : Option String :=
  -- The last one known stands in for a working directory that was removed.
  match scene.files.directoryPath scene.directory with
  | .ok path => some path
  | .error _ => scene.session.valueOf? "PWD"

def enter (environment : Environment) (previous : Option String) (current : String) : Environment :=
  match previous with
  | some previous => (environment.set "OLDPWD" previous).set "PWD" current
  | none => environment.set "PWD" current

def cd (scene : Scene) (arguments : List String) : Effect :=
  match cdTarget scene.session arguments with
  | .error text => scene.fail (labelled "cd" text)
  | .ok (target, announce) =>
    match scene.files.directoryAt scene.directory target with
    | .error failure => scene.fail (labelled (labelled "cd" target) failure.description)
    | .ok place =>
      let current :=
        match scene.files.directoryPath place with
        | .ok path => path
        | .error _ => target
      { session := { scene.session with
          environment := enter scene.session.environment scene.previousDirectory current }
        directory := place
        output := if announce then [current, "\n"] else [] }

/-! ## Variables -/

def list (scene : Scene) : Effect := scene.print [scene.session.environment.listing]

def splitAssignment (argument : String) : List Char × Option String :=
  let chars := argument.toList
  let name := chars.takeWhile (· ≠ '=')
  if name.length < chars.length then (name, some (String.ofList (chars.drop (name.length + 1))))
  else (name, none)

def invalidIdentifier (argument : String) : String := s!"`{argument}': not a valid identifier"

def reject (effect : Effect) (builtin argument : String) : Effect :=
  { effect with
    messages := effect.messages ++ [labelled builtin (invalidIdentifier argument)]
    status := Status.failure }

def mapEnvironment (effect : Effect) (change : Environment → Environment) : Effect :=
  { effect with
    session := { effect.session with environment := change effect.session.environment } }

def exportOne (effect : Effect) (argument : String) : Effect :=
  -- A name without a value is accepted and changes nothing.
  let (name, value) := splitAssignment argument
  if isValidName name then
    match value with
    | some value => mapEnvironment effect (·.set (String.ofList name) value)
    | none => effect
  else reject effect "export" argument

def unsetOne (effect : Effect) (argument : String) : Effect :=
  if isValidName argument.toList then mapEnvironment effect (·.remove argument)
  else reject effect "unset" argument

def exportAll (scene : Scene) (arguments : List String) : Effect :=
  if arguments.isEmpty then scene.list else arguments.foldl exportOne scene.still

def unsetAll (scene : Scene) (arguments : List String) : Effect :=
  arguments.foldl unsetOne scene.still

def env (scene : Scene) (arguments : List String) : Effect :=
  if arguments.isEmpty then scene.list else scene.fail (labelled "env" "too many arguments")

/-! ## `exit` -/

/-- The exit status that an argument stands for: a 64-bit number, modulo 256. -/
def exitCode? (argument : String) : Option Int :=
  (readInteger64? argument.toList).map (· % 256)

def leave (scene : Scene) (status : Int) : Effect :=
  { scene.still with session := { scene.session with shouldExit := true }, status }

def exit (scene : Scene) : List String → Effect
  | [] => scene.leave scene.session.exitStatus
  | first :: rest =>
    match exitCode? first with
    | none =>
      scene.refuse Status.misuse (labelled "exit" (labelled first "numeric argument required"))
    | some code =>
      if rest.isEmpty then scene.leave code else scene.fail (labelled "exit" "too many arguments")

def effect (scene : Scene) (builtin : Builtin) (arguments : List String) : Effect :=
  match builtin with
  | .echo => scene.echo arguments
  | .cd => scene.cd arguments
  | .pwd => scene.pwd
  | .export => scene.exportAll arguments
  | .unset => scene.unsetAll arguments
  | .env => scene.env arguments
  | .exit => scene.exit arguments

end Scene

structure BuiltinResult where
  session : Session
  directory : Place
  messages : List String
  status : Int
  writer : Writer
  deriving DecidableEq, Repr

def writeError (name : String) (failure : IoFailure) : String :=
  labelled name (labelled "write error" failure.description)

/-- `echo` says nothing about a failed write: its reader may just have left. -/
def reportsWriteFailure (name : String) : Bool := name ≠ "echo"

namespace BuiltinResult

def afterWrite (result : BuiltinResult) (name : String) : Option IoFailure → BuiltinResult
  | none => result
  | some failure =>
    { result with
      messages :=
        if reportsWriteFailure name then result.messages ++ [writeError name failure]
        else result.messages
      status := Status.failure }

def afterFlush (result : BuiltinResult) (name : String) : Option IoFailure → BuiltinResult
  | none => result
  | some failure =>
    { result with
      messages := result.messages ++ [writeError name failure], status := Status.failure }

end BuiltinResult

def Effect.print (effect : Effect) (name : String) (writer : Writer) : BuiltinResult :=
  let written := writer.writePieces effect.output
  let flushed := written.1.flush
  let result : BuiltinResult :=
    { session := effect.session, directory := effect.directory, messages := effect.messages
      status := effect.status, writer := flushed.1 }
  (result.afterWrite name written.2).afterFlush name flushed.2

def runBuiltin (scene : Scene) (arguments : List String) (writer : Writer) : BuiltinResult :=
  match arguments with
  | [] =>
    { session := scene.session, directory := scene.directory, messages := []
      status := Status.success, writer }
  | name :: rest =>
    let effect :=
      match Builtin.ofName? name with
      | some builtin => scene.effect builtin rest
      | none => scene.fail (labelled name "not a shell builtin")
    effect.print name writer

end PipeShell
