import PipeShell.Text.Floating

/-!
# Numerals with a base of their own

A whole number that is written in decimal, or after `0x` in hexadecimal, after `0b` in binary and
after a plain `0` in octal digits. Reading takes as much of a text as fits.
-/

namespace PipeShell

structure NumeralRead where
  value : Int := 0
  rest : List Char
  deriving DecidableEq, Repr

def isOctalDigit (c : Char) : Bool := '0' ≤ c && c ≤ '7'

def isBinaryDigit (c : Char) : Bool := c = '0' || c = '1'

def takeDigits (base : Nat) (isDigit : Char → Bool) (text : List Char) : Nat × List Char :=
  let digits := text.takeWhile isDigit
  (digitsValue base digits, text.drop digits.length)

def readUnsignedNumeral (text : List Char) : Option (Nat × List Char) :=
  match text with
  | '0' :: letter :: digit :: rest =>
    if letter.toLower = 'x' ∧ isHexDigit digit then some (takeDigits 16 isHexDigit (digit :: rest))
    else if letter.toLower = 'b' ∧ isBinaryDigit digit then
      some (takeDigits 2 isBinaryDigit (digit :: rest))
    else some (takeDigits 8 isOctalDigit text)
  | '0' :: _ => some (takeDigits 8 isOctalDigit text)
  | first :: _ => if first.isDigit then some (takeDigits 10 Char.isDigit text) else none
  | [] => none

def isSpaceChar (c : Char) : Bool := c = ' ' || ('\t' ≤ c && c ≤ '\r')

def readNumeral (text : List Char) : NumeralRead :=
  let trimmed := text.dropWhile isSpaceChar
  let (negative, digits) :=
    match trimmed with
    | '-' :: rest => (true, rest)
    | '+' :: rest => (false, rest)
    | rest => (false, rest)
  match readUnsignedNumeral digits with
  | none => { rest := text }
  | some (value, rest) => { value := if negative then -(value : Int) else value, rest }

def clampSigned (value : Int) : Int × Bool :=
  if value < -0x8000000000000000 then (-0x8000000000000000, true)
  else if 0x7FFFFFFFFFFFFFFF < value then (0x7FFFFFFFFFFFFFFF, true)
  else (value, false)

/-- The number of 64 bits without a sign: a negative one counts down from the end of the range, and
one beyond the range is its last. -/
def clampUnsigned (value : Int) : Nat × Bool :=
  if 0xFFFFFFFFFFFFFFFF < value.natAbs then (0xFFFFFFFFFFFFFFFF, true)
  else ((value % 0x10000000000000000).toNat, false)

end PipeShell
