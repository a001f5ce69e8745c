import PipeShell.System.World

/-!
# Log records

Records go to the log file, and to standard error if the log is echoed. The shell's own records
count up to the log's threshold; those of its parts count from warnings on, whatever it is.
-/

namespace PipeShell

namespace LogLevel

def rank : LogLevel → Nat
  | .error => 1
  | .warn => 2
  | .info => 3
  | .debug => 4
  | .trace => 5

def capped (level : LogLevel) : LogLevel := if info.rank < level.rank then .info else level

def name : LogLevel → String
  | .error => "ERROR"
  | .warn => "WARN"
  | .info => "INFO"
  | .debug => "DEBUG"
  | .trace => "TRACE"

def ofString (text : String) : LogLevel :=
  ([.error, .warn, .info, .debug, .trace].find? fun level =>
    level.name.toLower == text.toLower).getD .info

end LogLevel

def Journal.line (journal : Journal) (level : LogLevel) (text : String) : String :=
  s!"[PID:{journal.process}][{level.name}] {journal.time} - {text}\n"

namespace World

def record (world : World) (journal : Journal) (threshold level : LogLevel) (text : String) :
    World :=
  if level.rank ≤ threshold.rank then
    let bytes := encode (journal.line level text)
    let world := world.deliver (.file journal.file) bytes
    if journal.echo then (world.write Descriptors.standardError bytes).1 else world
  else world

def log (world : World) (level : LogLevel) (text : String) : World :=
  match world.process.journal with
  | none => world
  | some journal => world.record journal journal.threshold level text

def logOther (world : World) (level : LogLevel) (text : String) : World :=
  match world.process.journal with
  | none => world
  | some journal => world.record journal .warn level text

end World

end PipeShell
