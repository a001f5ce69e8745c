import PipeShell.Programs.Call
import PipeShell.Script.Parser
import PipeShell.Text.Numeral

/-!
# The state of a running script

What a script has: its variables, functions, parameters and options, what it does on signals, and
where in loops and functions it is.
-/

namespace PipeShell

namespace Script

structure Variable where
  name : String
  value : Option String := none
  exported : Bool := false
  readonly : Bool := false
  deriving DecidableEq, Repr

inductive Skip where
  | none
  | leaveLoops (count : Nat)
  | nextRound (count : Nat)
  | leaveFunction (withStatus : Bool)
  deriving DecidableEq, Repr

inductive Stop where
  | exit
  | finished
  | error
  | killed (signal : Nat)
  | gone (outcome : Outcome)
  deriving DecidableEq, Repr

inductive Saved where
  | entry (name : String) (entry : Option Variable)
  | options (options : List String)
  deriving DecidableEq, Repr

structure Background where
  process : Nat
  status : Nat
  signal : Option Nat := none
  deriving DecidableEq, Repr

structure Remembered where
  name : String
  index : Nat
  path : String
  stale : Bool := false
  deriving DecidableEq, Repr

/-- What a script is in the middle of. `name` and `line` are those that messages begin with, and
`speaker` is the builtin that is being run; `printed` is what it has not yet handed over, newest
first. `root` is the number of the process that the script began in. -/
structure State where
  world : World
  name : String := "sh"
  speaker : Option String := none
  line : Nat := 0
  parameters : List String := []
  bindings : List Variable := []
  functions : List (String × Command) := []
  aliases : List (String × String) := []
  options : List String := []
  /-- The path of the working directory as it was gone to; empty if it is not known. -/
  directory : String := ""
  status : Nat := 0
  /-- The status to exit with, once it was said. -/
  leaving : Option Nat := none
  /-- The status of the last command that was run for what it prints. -/
  outputStatus : Nat := 0
  skip : Skip := .none
  loops : Nat := 0
  /-- What the function being run gives back when it ends, newest first. -/
  locals : Option (List Saved) := none
  traps : List (Nat × String) := []
  /-- Signals that were ignored from the start; nothing changes that. -/
  ignored : List Nat := []
  pending : List Nat := []
  root : Nat := 0
  lastBackground : Option Nat := none
  backgrounds : List Background := []
  remembered : List Remembered := []
  documents : List (Nat × Word) := []
  nextDocument : Nat := 0
  /-- The line up to which the script was read. -/
  readLine : Nat := 1
  /-- The parameter that options are read from next, and how far the one before was read. -/
  optionIndex : Nat := 1
  optionOffset : Option Nat := none
  tracing : Bool := false
  mask : Nat := 0o22
  printed : List Bytes := []

abbrev Act := ExceptT Stop (StateM State)

namespace Act

def thenAlways {α : Type} (body : Act α) (after : Act Unit) : Act α := fun state =>
  let (result, state) := body.run state
  (result, (after.run state).2)

def world : Act World := return (← get).world

def changeWorld (change : World → World) : Act Unit :=
  modify fun state => { state with world := change state.world }

/-! ## Messages -/

def printError (text : String) : Act Unit :=
  changeWorld fun world => (world.write Descriptors.standardError (textBytes text)).1

def warn (text : String) : Act Unit := do
  let state ← get
  let speaker := (state.speaker.map (· ++ ": ")).getD ""
  printError s!"{state.name}: {state.line}: {speaker}{text}\n"

def fail {α : Type} (text : String) : Act α := do
  warn text
  modify fun state => { state with status := 2 }
  throw .error

def failToRead {α : Type} (line : Nat) (text : String) : Act α := do
  modify fun state => { state with line }
  fail s!"Syntax error: {text}"

/-! ## Output -/

def print (text : String) : Act Unit :=
  modify fun state => { state with printed := textBytes text :: state.printed }

def flush : Act Bool := do
  match (← get).printed with
  | [] => return true
  | printed =>
    let (world, failure) := (← world).write Descriptors.standardOutput printed.reverse.flatten
    modify fun state => { state with world, printed := [] }
    return failure.isNone

/-! ## Options -/

def isOn (option : String) : Act Bool := return (← get).options.contains option

end Act

def optionNames : List (String × Option Char) :=
  [("errexit", some 'e'), ("noglob", some 'f'), ("ignoreeof", some 'I'),
    ("interactive", some 'i'), ("monitor", some 'm'), ("noexec", some 'n'), ("stdin", some 's'),
    ("xtrace", some 'x'), ("verbose", some 'v'), ("vi", some 'V'), ("emacs", some 'E'),
    ("noclobber", some 'C'), ("allexport", some 'a'), ("notify", some 'b'), ("nounset", some 'u'),
    ("privileged", some 'p'), ("nolog", none), ("debug", none)]

def withOption (options : List String) (name : String) (value : Bool) : List String :=
  let others := options.filter (· ≠ name)
  if value then name :: others else others

namespace State

def optionLetters (state : State) : String :=
  String.ofList (optionNames.reverse.filterMap fun option =>
    if state.options.contains option.1 then option.2 else none)

/-! ## Variables -/

def known? (state : State) (name : String) : Option Variable :=
  state.bindings.find? (·.name == name)

def value? (state : State) (name : String) : Option String :=
  (state.known? name).bind (·.value)

def putVariable (state : State) (entry : Variable) : State :=
  if state.bindings.any (·.name == entry.name) then
    { state with
      bindings := state.bindings.map fun known =>
        if known.name = entry.name then entry else known }
  else { state with bindings := state.bindings ++ [entry] }

def removeVariable (state : State) (name : String) : State :=
  { state with bindings := state.bindings.filter (·.name ≠ name) }

def environment (state : State) : List (String × String) :=
  state.bindings.filterMap fun entry =>
    if entry.exported then entry.value.map (entry.name, ·) else none

def searchPath (state : State) : String := (state.value? "PATH").getD ""

def trap? (state : State) (signal : Nat) : Option String := state.traps.lookup signal

def ignoredSignals (state : State) : List Nat :=
  (state.ignored ++ (state.traps.filter fun trap => trap.2 = "" && trap.1 ≠ 0).map (·.1)).eraseDups

end State

def isNumber (text : String) : Bool := !text.isEmpty && text.toList.all Char.isDigit

namespace Act

def standardPath : String := "/usr/local/sbin:/usr/local/bin:/usr/sbin:/usr/bin:/sbin:/bin"

def noteChange (name : String) : Act Unit := do
  if name = "PATH" then modify fun state => { state with remembered := [] }
  if name = "OPTIND" then
    let value := ((← get).value? name).getD ""
    if !isNumber value then fail s!"Illegal number: {value}"
    let index := digitsValue 10 value.toList
    modify fun state => { state with optionIndex := max index 1, optionOffset := none }

def setVariable (name : String) (value : Option String) (exported : Bool := false) : Act Unit := do
  if !isValidName name.toList then fail s!"{name}: bad variable name"
  let state ← get
  let known := (state.known? name).getD { name }
  if known.readonly then fail s!"{name}: is read only"
  let exported := known.exported || exported || state.options.contains "allexport"
  set (state.putVariable { known with value, exported })
  noteChange name

def assign (name value : String) : Act Unit := setVariable name (some value)

def standingNames : List String :=
  ["IFS", "MAIL", "MAILPATH", "OPTIND", "PATH", "PS1", "PS2", "PS4"]

def unsetVariable (name : String) : Act Unit := do
  -- What stays otherwise, and what a function gives back later, keeps its other marks.
  if !isValidName name.toList then fail s!"{name}: bad variable name"
  let state ← get
  match state.known? name with
  | none => return
  | some entry =>
    if entry.readonly then fail s!"{name}: is read only"
    let isLocal := (state.locals.getD []).any fun saved =>
      match saved with
      | .entry known _ => known = name
      | .options _ => false
    if isLocal || standingNames.contains name then
      set (state.putVariable { entry with value := none })
    else set (state.removeVariable name)
    if name = "PATH" then noteChange name

/-! ## Signals -/

def signalCount : Nat := 65

def isHarmless (signal : Nat) : Bool := [17, 18, 23, 28].contains signal

def receive (signal : Nat) : Act Unit := do
  let state ← get
  if signal = 0 || state.ignored.contains signal then return
  if signal = 9 then throw (.killed 9)
  match state.trap? signal with
  | some "" => return
  | some _ => set { state with pending := (state.pending ++ [signal]).eraseDups }
  | none => unless isHarmless signal do throw (.killed signal)

def send (process signal : Nat) : Act Bool := do
  let own := (← world).process
  if process = own.number then
    receive signal
    return true
  if own.ancestors.contains process then
    changeWorld fun world => { world with signals := world.signals ++ [(process, signal)] }
    return true
  return (← get).backgrounds.any (·.process = process)

def collectSignals : Act Unit := do
  let world ← world
  let own := world.signals.filter (·.1 = world.process.number)
  changeWorld fun world =>
    { world with signals := world.signals.filter (·.1 ≠ world.process.number) }
  own.forM fun sent => receive sent.2

end Act

def signalNames : List String :=
  ["EXIT", "HUP", "INT", "QUIT", "ILL", "TRAP", "ABRT", "BUS", "FPE", "KILL", "USR1", "SEGV",
    "USR2", "PIPE", "ALRM", "TERM", "16", "CHLD", "CONT", "STOP", "TSTP", "TTIN", "TTOU", "URG",
    "XCPU", "XFSZ", "VTALRM", "PROF", "WINCH", "IO", "PWR", "SYS", "32", "33", "RTMIN"] ++
    (List.range 15).map (fun index => s!"RTMIN+{index + 1}") ++
    (List.range 14).map (fun index => s!"RTMAX-{14 - index}") ++ ["RTMAX"]

def signalNumber? (least : Nat) (text : String) : Option Nat :=
  if isNumber text then
    let number := digitsValue 10 text.toList
    if number < Act.signalCount then some number else none
  else
    (signalNames.findIdx? fun name =>
      name.map Char.toUpper == text.map Char.toUpper).filter (least ≤ ·)

def signalText (signal : Nat) : String :=
  let texts := ["", "Hangup", "Interrupt", "Quit", "Illegal instruction", "Trace/breakpoint trap",
    "Aborted", "Bus error", "Floating point exception", "Killed", "User defined signal 1",
    "Segmentation fault", "User defined signal 2", "Broken pipe", "Alarm clock", "Terminated",
    "Stack fault", "Child exited", "Continued", "Stopped (signal)", "Stopped",
    "Stopped (tty input)", "Stopped (tty output)", "Urgent I/O condition",
    "CPU time limit exceeded", "File size limit exceeded", "Virtual timer expired",
    "Profiling timer expired", "Window changed", "I/O possible", "Power failure",
    "Bad system call"]
  match texts[signal]? with
  | some text => text
  | none =>
    if 34 ≤ signal then s!"Real-time signal {signal - 34}" else s!"Unknown signal {signal}"

end Script

end PipeShell
