import PipeShell.Text.Numeral

/-!
# Values in fields

A conversion says how a value is shown: in which base or notation, with how many digits, and in how
wide a field.
-/

namespace PipeShell

structure Conversion where
  flags : List Char := []
  width : Nat := 0
  precision : Option Nat := none
  letter : Char := 's'
  deriving DecidableEq, Repr

namespace Conversion

def hasFlag (conversion : Conversion) (c : Char) : Bool := conversion.flags.contains c

def withWidth (conversion : Conversion) (width : Int) : Conversion :=
  if width < 0 then
    { conversion with width := width.natAbs, flags := '-' :: conversion.flags }
  else { conversion with width := width.toNat }

def withPrecision (conversion : Conversion) (precision : Int) : Conversion :=
  { conversion with precision := if precision < 0 then none else some precision.toNat }

def pad (conversion : Conversion) (text : List Char) : List Char :=
  let gap := List.replicate (conversion.width - text.length) ' '
  if conversion.hasFlag '-' then text ++ gap else gap ++ text

def text (conversion : Conversion) (text : List Char) : List Char :=
  conversion.pad (text.take (conversion.precision.getD text.length))

def sign (conversion : Conversion) (negative : Bool) : List Char :=
  if negative then ['-']
  else if conversion.hasFlag '+' then ['+']
  else if conversion.hasFlag ' ' then [' ']
  else []

/-- What stands before the digits, the digits, and zeros between them if the field is to be filled
with these. -/
def numberField (conversion : Conversion) (before digits : List Char) (zeros : Bool) : List Char :=
  let gap := conversion.width - (before.length + digits.length)
  if zeros && conversion.hasFlag '0' && !conversion.hasFlag '-' then
    before ++ List.replicate gap '0' ++ digits
  else conversion.pad (before ++ digits)

def digits (conversion : Conversion) (base value : Nat) : List Char :=
  let digits :=
    if value = 0 ∧ conversion.precision = some 0 then [] else Nat.toDigits base value
  List.replicate (conversion.precision.getD 1 - digits.length) '0' ++ digits

def signed (conversion : Conversion) (value : Int) : List Char :=
  conversion.numberField (conversion.sign (value < 0)) (conversion.digits 10 value.natAbs)
    conversion.precision.isNone

def unsigned (conversion : Conversion) (value : Nat) : List Char :=
  let field := fun before digits => conversion.numberField before digits conversion.precision.isNone
  match conversion.letter with
  | 'o' =>
    let digits := conversion.digits 8 value
    field [] (if conversion.hasFlag '#' && digits.head? ≠ some '0' then '0' :: digits else digits)
  | 'x' => field (if conversion.hasFlag '#' && value ≠ 0 then ['0', 'x'] else [])
      (conversion.digits 16 value)
  | 'X' => field (if conversion.hasFlag '#' && value ≠ 0 then ['0', 'X'] else [])
      ((conversion.digits 16 value).map Char.toUpper)
  | _ => field [] (conversion.digits 10 value)

def leadBits (format : FloatFormat) : Nat := if format.bits = 64 then 4 else 1

def floating (conversion : Conversion) (format : FloatFormat) (value : Floating) : List Char :=
  let sign := conversion.sign value.isNegative
  let upper := conversion.letter.isUpper
  let always := conversion.hasFlag '#'
  let word (text : String) : List Char :=
    conversion.pad (sign ++ if upper then text.toList.map Char.toUpper else text.toList)
  match value with
  | .infinite _ => word "inf"
  | .nan _ => word "nan"
  | .finite _ mantissa exponent =>
    let places := conversion.precision.getD 6
    match conversion.letter.toLower with
    | 'f' => conversion.numberField sign (fixedText mantissa exponent places always) true
    | 'e' =>
      conversion.numberField sign
        (scientificText mantissa exponent places always (if upper then 'E' else 'e')) true
    | 'a' =>
      conversion.numberField (sign ++ if upper then ['0', 'X'] else ['0', 'x'])
        (hexText format (leadBits format) mantissa exponent conversion.precision always upper) true
    | _ =>
      conversion.numberField sign
        (generalText mantissa exponent places always (if upper then 'E' else 'e')) true

end Conversion

end PipeShell
