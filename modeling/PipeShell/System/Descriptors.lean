import PipeShell.System.FileTree

/-!
# Descriptors

The numbers by which a process knows its open streams. A new stream takes the lowest free number;
`duplicate` makes a number stand for the stream of another one.
-/

namespace PipeShell

/-- An open stream. Pipes and files are known by their index in the system's tables, so two numbers
for one open file share its position. -/
inductive Stream where
  | input
  | output
  | errors
  | pipeReader (pipe : Nat)
  | pipeWriter (pipe : Nat)
  | file (index : Nat)
  deriving DecidableEq, Repr

structure Descriptors where
  slots : List (Nat × Stream) := [(0, .input), (1, .output), (2, .errors)]
  deriving DecidableEq, Repr

namespace Descriptors

def standardInput : Nat := 0
def standardOutput : Nat := 1
def standardError : Nat := 2

def lookup (number : Nat) : List (Nat × Stream) → Option Stream
  | [] => none
  | (known, stream) :: rest => if known = number then some stream else lookup number rest

def stream? (descriptors : Descriptors) (number : Nat) : Option Stream :=
  lookup number descriptors.slots

def streams (descriptors : Descriptors) : List Stream := descriptors.slots.map (·.2)

def close (descriptors : Descriptors) (number : Nat) : Descriptors :=
  ⟨descriptors.slots.filter (·.1 ≠ number)⟩

def closeAll (descriptors : Descriptors) (numbers : List Nat) : Descriptors :=
  numbers.foldl close descriptors

def place (descriptors : Descriptors) (number : Nat) (stream : Stream) : Descriptors :=
  ⟨(number, stream) :: (descriptors.close number).slots⟩

def lowestFree (descriptors : Descriptors) : Nat :=
  ((List.range (descriptors.slots.length + 1)).find? fun number =>
    (descriptors.stream? number).isNone).getD descriptors.slots.length

def duplicate (descriptors : Descriptors) (source target : Nat) : Descriptors :=
  if source = target then descriptors
  else
    match descriptors.stream? source with
    | some stream => descriptors.place target stream
    | none => descriptors

theorem lookup_filter (number other : Nat) (slots : List (Nat × Stream)) :
    lookup other (slots.filter (·.1 ≠ number)) =
      if other = number then none else lookup other slots := by
  induction slots with
  | nil => simp [lookup]
  | cons slot rest ih => grind [lookup]

theorem stream?_close (descriptors : Descriptors) (number other : Nat) :
    (descriptors.close number).stream? other =
      if other = number then none else descriptors.stream? other :=
  lookup_filter number other descriptors.slots

theorem stream?_place (descriptors : Descriptors) (number other : Nat) (stream : Stream) :
    (descriptors.place number stream).stream? other =
      if other = number then some stream else descriptors.stream? other := by
  have closed := stream?_close descriptors number other
  grind [place, stream?, lookup]

end Descriptors

end PipeShell
