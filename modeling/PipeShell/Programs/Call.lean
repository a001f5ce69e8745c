import PipeShell.Launching
import PipeShell.Programs.Options
import PipeShell.Text.Octets
import PipeShell.Text.Quoted

/-!
# What programs are made of

A program reads and writes through the descriptors of its process. Its texts have one character for
each byte.
-/

namespace PipeShell

abbrev Tool := Call → World → World × Outcome

def IoFailure.libraryText : IoFailure → String
  | .system errno => errno.libraryText
  | .message text => text

/-! ## A running program -/

/-- A program in the middle of its work: what it has printed but not yet handed over, newest first,
and the failure of an earlier attempt to hand over. -/
structure Job where
  world : World
  self : String := ""
  pending : List Bytes := []
  broken : Option IoFailure := none

abbrev Work := StateM Job

namespace Work

def world : Work World := return (← get).world

def change (f : World → World) : Work Unit := modify fun job => { job with world := f job.world }

def flush : Work Unit := modify fun job =>
  match job.pending with
  | [] => job
  | pending =>
    let (world, failure) :=
      job.world.write Descriptors.standardOutput pending.reverse.flatten
    { job with world, pending := [], broken := job.broken.or failure }

def printBytes (bytes : Bytes) : Work Unit :=
  modify fun job => { job with pending := bytes :: job.pending }

def print (text : String) : Work Unit := printBytes (textBytes text)

def printError (text : String) : Work Unit := do
  flush
  change fun world => (world.write Descriptors.standardError (textBytes text)).1

def complain (text : String) : Work Unit := do
  printError s!"{(← get).self}: {text}\n"

def misused (text : String) : Work Unit := do
  complain text
  printError s!"Try '{(← get).self} --help' for more information.\n"

def finish (status failure : Nat) : Work Nat := do
  flush
  match (← get).broken with
  | none => return status
  | some reason =>
    complain s!"write error: {reason.libraryText}"
    return failure

/-! ## Reading -/

def withInput {α : Type} (name : String) (use : Stream → Work α) : Work (Except IoFailure α) := do
  if name = "-" then
    match (← world).stream? Descriptors.standardInput with
    | none => return .error (.system .EBADF)
    | some stream => return .ok (← use stream)
  else
    match (← world).openPath .read (nameOf name) with
    | .error failure => return .error failure
    | .ok (opened, number) =>
      change fun _ => opened
      let result ← use ((opened.stream? number).getD .input)
      change (·.close number)
      return .ok result

def drain (stream : Stream) : Work (Except IoFailure Bytes) := do
  let (world, content) := (← world).drain stream
  change fun _ => world
  return content.mapError .system

def readAll (name : String) : Work (Except IoFailure Bytes) := do
  match ← withInput name drain with
  | .ok content => return content
  | .error failure => return .error failure

def status (name : String) : Work (Except IoFailure (Place × Node)) := do
  let world ← world
  return world.files.status world.process.directory (nameOf name)

end Work

def toolOfWork (work : List String → Work Nat) : Tool := fun call world =>
  let (status, job) := (work call.operands).run { world, self := call.self }
  (job.world, .exited status)

/-! ## Lines -/

def inputsOf (operands : List String) : List String :=
  if operands.isEmpty then ["-"] else operands

def linesOf (separator : UInt8) (content : Bytes) : List Bytes :=
  -- A last line without its end counts.
  let pieces := splitAtEach separator content
  if pieces.getLast? = some [] then pieces.dropLast else pieces

def listedNames (content : Bytes) : List String := (linesOf 0 content).map byteText

end PipeShell
