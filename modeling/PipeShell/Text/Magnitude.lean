/-!
# Numbers with a unit

A count can be followed by a letter that multiplies it: `b` is 512, `K` and `M` and the letters
after these are powers of 1024, or of 1000 with a `B` behind them. A letter alone stands for one of
its units.
-/

namespace PipeShell

inductive MagnitudeFault where
  | invalid
  | tooLarge
  deriving DecidableEq, Repr

def largestCount : Nat := 0xFFFFFFFFFFFFFFFF

def unitPower? (units : List Char) (letter : Char) : Option Nat :=
  if !units.contains letter then none
  else
    match letter with
    | 'k' | 'K' => some 1
    | 'm' | 'M' => some 2
    | 'G' => some 3
    | 'T' => some 4
    | 'P' => some 5
    | 'E' => some 6
    | 'Z' => some 7
    | 'Y' => some 8
    | 'R' => some 9
    | 'Q' => some 10
    | _ => none

def unitFactor? (units : List Char) : List Char → Option Nat
  | [] => some 1
  | ['b'] => if units.contains 'b' then some 512 else none
  | ['B'] => if units.contains 'B' then some 1024 else none
  | ['c'] => if units.contains 'c' then some 1 else none
  | ['w'] => if units.contains 'w' then some 2 else none
  | [letter] | [letter, 'i', 'B'] => (unitPower? units letter).map (Nat.pow 1024)
  | [letter, 'B'] | [letter, 'D'] => (unitPower? units letter).map (Nat.pow 1000)
  | _ => none

def readMagnitude (units : List Char) (text : String) : Except MagnitudeFault Nat :=
  let isSpace (c : Char) : Bool := c = ' ' || ('\t' ≤ c && c ≤ '\r')
  let trimmed := text.toList.dropWhile isSpace
  let unsigned := if trimmed.head? = some '+' then trimmed.drop 1 else trimmed
  let digits := unsigned.takeWhile Char.isDigit
  let rest := unsigned.drop digits.length
  let value := digits.foldl (fun value c => value * 10 + (c.toNat - '0'.toNat)) 0
  if digits.isEmpty ∧ (rest.isEmpty ∨ trimmed.head? = some '+') then .error .invalid
  else
    match unitFactor? units rest with
    | none => .error .invalid
    | some factor =>
      let count := (if digits.isEmpty then 1 else value) * factor
      if largestCount < count then .error .tooLarge else .ok count

end PipeShell
