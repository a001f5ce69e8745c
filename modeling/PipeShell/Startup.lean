import PipeShell.Config
import PipeShell.EnvironmentFile
import PipeShell.History
import PipeShell.Shell

/-!
# A session from start to end

The environment of the process and a file of variables make up the configuration; then the log is
opened, the lines are read from a terminal or from plain input, and the status is handed over.
-/

namespace PipeShell

/-! ## The environment of the process -/

def splitEntry (entry : Bytes) : Option (Bytes × Bytes) :=
  -- The name has at least one byte, so an `=` in front belongs to it.
  match entry with
  | [] => none
  | first :: rest =>
    let name := rest.takeWhile (· ≠ 61)
    if name.length < rest.length then some (first :: name, rest.drop (name.length + 1)) else none

structure ProcessEnvironment where
  entries : List (Bytes × Bytes) := []
  deriving DecidableEq, Repr

namespace ProcessEnvironment

def ofEntries (entries : List Bytes) : ProcessEnvironment := ⟨entries.filterMap splitEntry⟩

def afterBeginning? (beginning bytes : Bytes) : Option Bytes :=
  if beginning.isPrefixOf bytes then some (bytes.drop beginning.length) else none

/-- The value of a name: what follows the name and an `=` in the first entry that begins with
these. So a name with an `=` in it can reach into a value. -/
def find? (environment : ProcessEnvironment) (name : String) : Option Bytes :=
  if name = "" then none
  else environment.entries.findSome? fun entry =>
    afterBeginning? (encode name ++ [61]) (entry.1 ++ [61] ++ entry.2)

def text? (environment : ProcessEnvironment) (name : String) : Option String :=
  (environment.find? name).bind decode?

def assign (name value : Bytes) : List (Bytes × Bytes) → List (Bytes × Bytes)
  | [] => [(name, value)]
  | entry :: rest =>
    if entry.1 = name then (name, value) :: rest else entry :: assign name value rest

/-- Sets a variable unless it has a value that is text. -/
def define (environment : ProcessEnvironment) (name value : String) : ProcessEnvironment :=
  match environment.text? name with
  | some _ => environment
  | none => ⟨assign (encode name) (encode value) environment.entries⟩

def home (environment : ProcessEnvironment) : Home :=
  match environment.find? "HOME" with
  | none => .unset
  | some value =>
    match decode? value with
    | some text => .path text
    | none => .unreadable

def textEntries (environment : ProcessEnvironment) : Environment :=
  .ofList (environment.entries.filterMap fun entry =>
    match decode? entry.1, decode? entry.2 with
    | some name, some value => some (name, value)
    | _, _ => none)

end ProcessEnvironment

/-! ## The file of variables -/

def environmentFileName : String := ".env.development"

def findEnvironmentFile (files : FileTree) : Nat → Place → Option Place
  -- A file that cannot be looked at ends the search.
  | levels, directory =>
    match files.status directory environmentFileName with
    | .ok (place, .file _ _) => some place
    | .error (.system .ENOENT) | .ok _ =>
      match levels with
      | 0 => none
      | levels + 1 => findEnvironmentFile files levels directory.dropLast
    | .error _ => none

def loadEnvironmentFile (world : World) (environment : ProcessEnvironment) : ProcessEnvironment :=
  let directory := world.process.directory
  if world.files.isDirectory directory then
    match (findEnvironmentFile world.files directory.length directory).bind world.files.node? with
    | some (.file content permissions) =>
      if permissions.read then
        EnvironmentFile.load (fun environment => environment.text?) ProcessEnvironment.define {}
          environment ((rawLines content).map readUtf8?)
      else environment
    | _ => environment
  else environment

/-! ## The log -/

structure Stamp where
  process : String
  time : String
  date : String
  deriving DecidableEq, Repr

def logFileName (config : Config) (stamp : Stamp) : String :=
  s!"{config.name}_{stamp.date}.log"

def openLog (world : World) (config : Config) (stamp : Stamp) : World × Option IoFailure :=
  match world.files.makeAll world.process.directory config.logDirectory with
  | (files, some failure) => ({ world with files }, some failure)
  | (files, none) =>
    let path := joinPath config.logDirectory (logFileName config stamp)
    let world := { world with files }
    match world.openPath .append path with
    | .error failure => (world, some failure)
    | .ok (opened, number) =>
      let closed := opened.close number
      let journal :=
        { file := world.openFiles.length, threshold := config.threshold.capped
          echo := config.logEcho, process := stamp.process, time := stamp.time }
      ({ closed with process := { closed.process with journal := some journal } }, none)

def startLog (world : World) (config : Config) (stamp : Stamp) : World :=
  match openLog world config stamp with
  | (world, none) => world
  | (world, some failure) => world.report s!"warning: logging disabled: {failure.display}"

/-! ## The session -/

inductive Input where
  | plain (bytes : Bytes)
  | terminal (bytes : Bytes)
  deriving DecidableEq, Repr

def startSession (world : World) (environment : ProcessEnvironment) : Session :=
  match world.currentDirectory with
  | .ok path => { environment := environment.textEntries.set "PWD" path }
  | .error _ => { environment := environment.textEntries }

def runTerminal [Launching] (shell : Shell) (config : Config) (bytes : Bytes) : Shell :=
  let (world, history) := History.loadOrLog shell.world config.historyFile
  let ended := { shell with world, source := .typed bytes }.run
  let history := ended.source.history.foldl History.add history
  { ended with world := history.saveOrLog ended.world config.historyFile }

def runSession [Launching] (world : World) (environment : ProcessEnvironment) (stamp : Stamp)
    (colored : Bool) (input : Input) (account : String := accountHome) : World × Int :=
  let environment := loadEnvironmentFile world environment
  let home := environment.home
  let config := (Config.standard home).override home environment.text? account
  let world := startLog world config stamp
  let shell : Shell :=
    { session := startSession world environment, world, theme := .ofName config.theme, colored }
  let ended :=
    match input with
    | .plain bytes => { shell with source := .piped bytes }.run
    | .terminal bytes => runTerminal shell config bytes
  (ended.world, ended.session.exitStatus % 256)

end PipeShell
