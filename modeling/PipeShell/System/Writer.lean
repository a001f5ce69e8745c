import PipeShell.System.Errno
import PipeShell.Text.Utf8

/-!
# Writers

A writer sends bytes to a sink, at once or line by line. Sinks can fail; what a writer was able to
hand over is a prefix of what it was given.
-/

namespace PipeShell

/-- How a sink behaves: whether writing or flushing fails, and how many bytes it takes in all. -/
structure Sink where
  writeFailure : Option IoFailure := none
  flushFailure : Option IoFailure := none
  capacity : Option Nat := none
  deriving DecidableEq, Repr

/-- A line-buffered writer holds back what follows the last newline in `pending`. -/
structure Writer where
  sink : Sink := {}
  lineBuffered : Bool := false
  accepted : Bytes := []
  pending : Bytes := []
  deriving DecidableEq, Repr

def bufferSize : Nat := 1024

def splitLastLine (bytes : Bytes) : Bytes × Bytes :=
  let tail := (bytes.reverse.takeWhile (· ≠ 10)).reverse
  (bytes.take (bytes.length - tail.length), tail)

namespace Writer

def room (writer : Writer) (bytes : Bytes) : Nat :=
  match writer.sink.capacity with
  | none => bytes.length
  | some capacity => min bytes.length (capacity - writer.accepted.length)

def send (writer : Writer) (bytes : Bytes) : Writer × Option IoFailure :=
  -- Sending nothing always succeeds.
  if bytes.isEmpty then (writer, none)
  else
    match writer.sink.writeFailure with
    | some failure => (writer, some failure)
    | none =>
      let room := writer.room bytes
      ({ writer with accepted := writer.accepted ++ bytes.take room },
        if room < bytes.length then some .shortWrite else none)

def sendPending (writer : Writer) : Writer × Option IoFailure :=
  let (sent, failure) := writer.send writer.pending
  ({ sent with pending := writer.pending.drop (sent.accepted.length - writer.accepted.length) },
    failure)

def hold (writer : Writer) (bytes : Bytes) : Writer × Option IoFailure :=
  if writer.pending.length + bytes.length < bufferSize then
    ({ writer with pending := writer.pending ++ bytes }, none)
  else
    let (emptied, failure) :=
      if bufferSize < writer.pending.length + bytes.length then writer.sendPending
      else (writer, none)
    match failure with
    | some failure => (emptied, some failure)
    | none =>
      if bufferSize ≤ bytes.length then emptied.send bytes
      else ({ emptied with pending := emptied.pending ++ bytes }, none)

def andThen (first : Writer × Option IoFailure) (second : Writer → Writer × Option IoFailure) :
    Writer × Option IoFailure :=
  match first with
  | (writer, none) => second writer
  | failed => failed

def writeLines (writer : Writer) (bytes : Bytes) : Writer × Option IoFailure :=
  let (lines, tail) := splitLastLine bytes
  if lines.isEmpty then
    andThen (if writer.pending.getLast? = some 10 then writer.sendPending else (writer, none))
      (·.hold tail)
  else if writer.pending.isEmpty then andThen (writer.send lines) (·.hold tail)
  else andThen (andThen (writer.hold lines) sendPending) (·.hold tail)

def write (writer : Writer) (bytes : Bytes) : Writer × Option IoFailure :=
  if writer.lineBuffered then writer.writeLines bytes else writer.send bytes

def writePieces (writer : Writer) : List String → Writer × Option IoFailure
  | [] => (writer, none)
  | piece :: rest => andThen (writer.write (encode piece)) (·.writePieces rest)

def flush (writer : Writer) : Writer × Option IoFailure :=
  andThen writer.sendPending fun emptied => (emptied, emptied.sink.flushFailure)

end Writer

end PipeShell
