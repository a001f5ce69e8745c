import PipeShell.Text.Utf8

/-!
# Regular expressions

What an expression means is a relation between places of a line: `Regex.step` takes a set of places,
each with what the groups hold there, to the places that a match from one of them ends at.
-/

namespace PipeShell

structure ByteSet where
  bits : Nat
  deriving DecidableEq, Repr

namespace ByteSet

def contains (set : ByteSet) (byte : UInt8) : Bool := set.bits.testBit byte.toNat

def ofPredicate (holds : UInt8 → Bool) : ByteSet :=
  ⟨(List.range 256).foldl (fun bits code =>
    if holds (UInt8.ofNat code) then bits ||| (1 <<< code) else bits) 0⟩

def all : ByteSet := ofPredicate fun _ => true

def union (left right : ByteSet) : ByteSet := ⟨left.bits ||| right.bits⟩

def complement (set : ByteSet) : ByteSet := ⟨set.bits ^^^ all.bits⟩

end ByteSet

inductive Anchor where
  | lineStart
  | lineEnd
  | wordStart
  | wordEnd
  | wordEdge
  | noEdge
  deriving DecidableEq, Repr

inductive Regex where
  | empty
  | bytes (set : ByteSet)
  | anchor (kind : Anchor)
  | seq (first second : Regex)
  | alt (left right : Regex)
  | repeated (body : Regex) (least : Nat) (most : Option Nat)
  | group (number : Nat) (body : Regex)
  | again (number : Nat)
  deriving DecidableEq, Repr

def lowerByte (byte : UInt8) : UInt8 := if 65 ≤ byte && byte ≤ 90 then byte + 32 else byte

def isWordByte (byte : UInt8) : Bool :=
  (65 ≤ byte && byte ≤ 90) || (97 ≤ byte && byte ≤ 122) || (48 ≤ byte && byte ≤ 57) || byte == 95

structure Subject where
  line : Array UInt8
  fold : Bool := false
  deriving DecidableEq, Repr

structure Spot where
  position : Nat
  groups : List (Nat × Nat × Nat) := []
  deriving DecidableEq, Repr

namespace Subject

def isWordAt (subject : Subject) (position : Nat) : Bool :=
  subject.line[position]?.any isWordByte

def isWordBefore (subject : Subject) (position : Nat) : Bool :=
  0 < position && subject.isWordAt (position - 1)

def holds (subject : Subject) (position : Nat) : Anchor → Bool
  | .lineStart => position = 0
  | .lineEnd => position = subject.line.size
  | .wordStart => !subject.isWordBefore position && subject.isWordAt position
  | .wordEnd => subject.isWordBefore position && !subject.isWordAt position
  | .wordEdge => subject.isWordBefore position != subject.isWordAt position
  | .noEdge => subject.isWordBefore position == subject.isWordAt position

def part (subject : Subject) (start stop : Nat) : List UInt8 :=
  let bytes := (subject.line.extract start stop).toList
  if subject.fold then bytes.map lowerByte else bytes

end Subject

namespace Spot

def union : List Spot → List Spot → List Spot
  | [], right => right
  | left, [] => left
  | first :: left, second :: right =>
    if first = second then first :: union left right
    else if first.position ≤ second.position then first :: union left (second :: right)
    else second :: union (first :: left) right
termination_by left right => left.length + right.length

def without : List Spot → List Spot → List Spot
  | [], _ => []
  | spots, [] => spots
  | spot :: spots, known :: rest =>
    if known.position < spot.position then without (spot :: spots) rest
    else if spot.position < known.position then spot :: without spots (known :: rest)
    else if (known :: rest.takeWhile (·.position = spot.position)).contains spot then
      without spots (known :: rest)
    else spot :: without spots (known :: rest)
termination_by spots known => spots.length + known.length

/-- The places inside and at the end of the stretches of bytes out of a set that begin at the given
spots, up to `covered` being listed before. -/
def runs (subject : Subject) (set : ByteSet) (covered : Nat) : List Spot → List Spot
  | [] => []
  | spot :: rest =>
    if spot.position < covered then runs subject set covered rest
    else
      let after := (subject.line.toSubarray spot.position subject.line.size).toArray
      let length := (after.findIdx? fun byte => !set.contains byte).getD after.size
      (List.range (length + 1)).map (fun offset => ⟨spot.position + offset, []⟩) ++
        runs subject set (spot.position + length + 1) rest

end Spot

def reachable (step : List Spot → List Spot) : Nat → List Spot → List Spot → List Spot
  | 0, reached, _ => reached
  | rounds + 1, reached, front =>
    match Spot.without (step front) reached with
    | [] => reached
    | fresh => reachable step rounds (Spot.union reached fresh) fresh

def stepTimes (step : List Spot → List Spot) : Nat → List Spot → List Spot
  | 0, spots => spots
  | _, [] => []
  | times + 1, spots => stepTimes step times (step spots)

def stepAtMost (step : List Spot → List Spot) : Nat → List Spot → List Spot
  | 0, spots => spots
  | _, [] => []
  | times + 1, spots => Spot.union spots (stepAtMost step times (step spots))

namespace Regex

def step (subject : Subject) : Regex → List Spot → List Spot
  | .empty, spots => spots
  | .bytes set, spots =>
    spots.filterMap fun spot =>
      if subject.line[spot.position]?.any set.contains then
        some { spot with position := spot.position + 1 }
      else none
  | .anchor kind, spots => spots.filter fun spot => subject.holds spot.position kind
  | .seq first second, spots => step subject second (step subject first spots)
  | .alt left right, spots => Spot.union (step subject left spots) (step subject right spots)
  | .repeated body least most, spots =>
    let started := stepTimes (step subject body) least spots
    match most with
    | some most => stepAtMost (step subject body) (most - least) started
    | none =>
      let plain := started.all (·.groups.isEmpty)
      match body with
      | .bytes set =>
        if plain then Spot.runs subject set 0 started
        else reachable (step subject body) (subject.line.size + 2) started started
      | _ => reachable (step subject body) (subject.line.size + 2) started started
  | .group number body, spots =>
    let ended := spots.flatMap fun spot =>
      (step subject body [spot]).map fun stop =>
        { stop with
          groups := (number, spot.position, stop.position) ::
            stop.groups.filter (·.1 ≠ number) }
    (ended.mergeSort fun left right => left.position ≤ right.position)
  | .again number, spots =>
    let ended := spots.filterMap fun spot =>
      match spot.groups.find? (·.1 = number) with
      | none => none
      | some (_, start, stop) =>
        let after := spot.position + (stop - start)
        if subject.part start stop = subject.part spot.position after ∧
            after ≤ subject.line.size then some { spot with position := after }
        else none
    (ended.mergeSort fun left right => left.position ≤ right.position)

def refersBack : Regex → Bool
  | .again _ => true
  | .seq left right | .alt left right => left.refersBack || right.refersBack
  | .repeated body _ _ | .group _ body => body.refersBack
  | .empty | .bytes _ | .anchor _ => false

def ungrouped : Regex → Regex
  | .group _ body => body.ungrouped
  | .seq first second => .seq first.ungrouped second.ungrouped
  | .alt left right => .alt left.ungrouped right.ungrouped
  | .repeated body least most => .repeated body.ungrouped least most
  | other => other

def simplified (regex : Regex) : Regex := if regex.refersBack then regex else regex.ungrouped

def ends (regex : Regex) (subject : Subject) (start : Nat) : List Nat :=
  (regex.step subject [⟨start, []⟩]).map (·.position)

def isIn (regex : Regex) (subject : Subject) : Bool :=
  !(regex.step subject ((List.range (subject.line.size + 1)).map (⟨·, []⟩))).isEmpty

end Regex

end PipeShell
