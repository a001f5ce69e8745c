import PipeShell.Text.Blank

/-!
# Whole numbers as text
-/

namespace PipeShell

def readDigits? (text : List Char) : Option Nat :=
  if text.isEmpty ∨ !text.all Char.isDigit then none
  else some (text.foldl (fun value c => value * 10 + (c.toNat - '0'.toNat)) 0)

def readInteger? : List Char → Option Int
  | '+' :: digits => (readDigits? digits).map fun value : Nat => (value : Int)
  | '-' :: digits => (readDigits? digits).map fun value : Nat => -(value : Int)
  | digits => (readDigits? digits).map fun value : Nat => (value : Int)

def signedLimit : Int := 0x8000000000000000

/-- A number of 64 bits with sign, white space around it allowed. -/
def readInteger64? (text : List Char) : Option Int :=
  (readInteger? (trimBlank text)).filter fun value => -signedLimit ≤ value ∧ value < signedLimit

end PipeShell
