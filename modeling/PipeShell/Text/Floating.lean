/-!
# Binary floating-point numbers as text

A finite number is a whole number times a power of two. A text is read by rounding the number it
names to the nearest one that a format holds, a tie to the even neighbour; a number is written by
rounding its exact value to the digits asked for, by the same rule.
-/

namespace PipeShell

inductive Floating where
  | finite (negative : Bool) (mantissa : Nat) (exponent : Int)
  | infinite (negative : Bool)
  | nan (negative : Bool)
  deriving DecidableEq, Repr

/-- A binary format: how many bits a mantissa has, the exponent of the least positive number, and
the power of two that no number reaches. -/
structure FloatFormat where
  bits : Nat
  leastExponent : Int
  limit : Int
  deriving DecidableEq, Repr

namespace FloatFormat

def double : FloatFormat := ⟨53, -1074, 1024⟩

def extended : FloatFormat := ⟨64, -16445, 16384⟩

end FloatFormat

def roundQuotient (numerator denominator : Nat) : Nat :=
  let quotient := numerator / denominator
  let twice := numerator % denominator * 2
  if twice < denominator ∨ twice = denominator ∧ quotient % 2 = 0 then quotient else quotient + 1

def scale (base : Nat) (power : Int) (numerator denominator : Nat) : Nat × Nat :=
  if 0 ≤ power then (numerator * base.pow power.toNat, denominator)
  else (numerator, denominator * base.pow (-power).toNat)

def bitLength (number : Nat) : Nat := if number = 0 then 0 else number.log2 + 1

def FloatFormat.round (format : FloatFormat) (negative : Bool) (numerator denominator : Nat) :
    Floating :=
  if numerator = 0 then .finite negative 0 0
  else
    let guess : Int := (bitLength numerator : Int) - bitLength denominator - format.bits
    -- The quotient has one bit more or less than the guess supposes.
    let (low, high) := scale 2 (-guess) numerator denominator
    let exponent := if high * Nat.pow 2 format.bits ≤ low then guess + 1 else guess
    let exponent := if low < high * Nat.pow 2 (format.bits - 1) then guess - 1 else exponent
    let exponent := max exponent format.leastExponent
    let (low, high) := scale 2 (-exponent) numerator denominator
    let mantissa := roundQuotient low high
    if format.limit < bitLength mantissa + exponent then .infinite negative
    else .finite negative mantissa exponent

namespace Floating

def isNegative : Floating → Bool
  | .finite negative _ _ | .infinite negative | .nan negative => negative

def quotient (mantissa : Nat) (exponent : Int) : Nat × Nat := scale 2 exponent mantissa 1

def compare? : Floating → Floating → Option Ordering
  | .nan _, _ | _, .nan _ => none
  | .infinite left, .infinite right => some (compare right left)
  | .infinite negative, _ => some (if negative then .lt else .gt)
  | _, .infinite negative => some (if negative then .gt else .lt)
  | .finite leftSign leftMantissa leftExponent, .finite rightSign rightMantissa rightExponent =>
    let (a, b) := quotient leftMantissa leftExponent
    let (c, d) := quotient rightMantissa rightExponent
    let signed (negative : Bool) (value : Nat) : Int := if negative then -(value : Int) else value
    some (compare (signed leftSign (a * d)) (signed rightSign (c * b)))

end Floating

/-! ## Reading -/

structure FloatRead where
  value : Floating
  rest : List Char
  outOfRange : Bool := false
  deriving DecidableEq, Repr

def hexValue (c : Char) : Nat :=
  if c.isDigit then c.toNat - '0'.toNat else c.toLower.toNat - 'a'.toNat + 10

def isHexDigit (c : Char) : Bool := c.isDigit || ('a' ≤ c.toLower && c.toLower ≤ 'f')

def digitsValue (base : Nat) (digits : List Char) : Nat :=
  digits.foldl (fun value c => value * base + hexValue c) 0

def readPoint (isDigit : Char → Bool) (text : List Char) : List Char × List Char × List Char :=
  let whole := text.takeWhile isDigit
  match text.drop whole.length with
  | '.' :: rest =>
    let fraction := rest.takeWhile isDigit
    if whole.isEmpty ∧ fraction.isEmpty then ([], [], text)
    else (whole, fraction, rest.drop fraction.length)
  | rest => (whole, [], rest)

def readExponent (letter : Char) (text : List Char) : Int × List Char :=
  match text with
  | c :: rest =>
    if c.toLower = letter then
      let (negative, digits) :=
        match rest with
        | '-' :: digits => (true, digits)
        | '+' :: digits => (false, digits)
        | digits => (false, digits)
      let number := digits.takeWhile Char.isDigit
      if number.isEmpty then (0, text)
      else
        let value : Int := digitsValue 10 number
        (if negative then -value else value, digits.drop number.length)
    else (0, text)
  | [] => (0, text)

/-- Exponents beyond this are out of every format's range, whatever the digits. -/
def exponentBound : Nat := 100000

def assemble (format : FloatFormat) (negative : Bool) (base : Nat) (digits : List Char)
    (places : Nat) (power : Int) (powerBase : Nat) (rest : List Char) : FloatRead :=
  let value := digitsValue base digits
  if value = 0 then ⟨.finite negative 0 0, rest, false⟩
  else if exponentBound < power.natAbs then
    ⟨if 0 < power then .infinite negative else .finite negative 0 0, rest, true⟩
  else
    let (numerator, denominator) := scale powerBase power value (base.pow places)
    match format.round negative numerator denominator with
    | .infinite negative => ⟨.infinite negative, rest, true⟩
    | .finite negative mantissa exponent =>
      ⟨.finite negative mantissa exponent, rest, mantissa = 0⟩
    | number => ⟨number, rest, false⟩

def startsWithWord (word : String) (text : List Char) : Bool :=
  word.toList.isPrefixOf (text.map Char.toLower)

def readMagnitudeFloat? (format : FloatFormat) (negative : Bool) (text : List Char) :
    Option FloatRead :=
  if startsWithWord "infinity" text then some ⟨.infinite negative, text.drop 8, false⟩
  else if startsWithWord "inf" text then some ⟨.infinite negative, text.drop 3, false⟩
  else if startsWithWord "nan" text then some ⟨.nan negative, text.drop 3, false⟩
  else
    let hex :=
      match text with
      | '0' :: x :: rest =>
        let (whole, fraction, rest) := readPoint isHexDigit rest
        if x.toLower = 'x' ∧ (!whole.isEmpty ∨ !fraction.isEmpty) then
          let (power, rest) := readExponent 'p' rest
          some (assemble format negative 16 (whole ++ fraction) fraction.length power 2 rest)
        else none
      | _ => none
    match hex with
    | some read => some read
    | none =>
      let (whole, fraction, rest) := readPoint Char.isDigit text
      if whole.isEmpty ∧ fraction.isEmpty then none
      else
        let (power, rest) := readExponent 'e' rest
        some (assemble format negative 10 (whole ++ fraction) fraction.length power 10 rest)

def readFloat? (format : FloatFormat) (text : List Char) : Option FloatRead :=
  match text.dropWhile fun c => c = ' ' || ('\t' ≤ c && c ≤ '\r') with
  | '-' :: rest => readMagnitudeFloat? format true rest
  | '+' :: rest => readMagnitudeFloat? format false rest
  | rest => readMagnitudeFloat? format false rest

/-! ## Writing -/

def paddedDigits (least number : Nat) : List Char :=
  let digits := Nat.toDigits 10 number
  List.replicate (least - digits.length) '0' ++ digits

def withPoint (whole fraction : List Char) (always : Bool) : List Char :=
  if fraction.isEmpty ∧ !always then whole else whole ++ '.' :: fraction

def fixedText (mantissa : Nat) (exponent : Int) (places : Nat) (always : Bool) : List Char :=
  let (numerator, denominator) := Floating.quotient mantissa exponent
  let digits :=
    paddedDigits (places + 1) (roundQuotient (numerator * Nat.pow 10 places) denominator)
  withPoint (digits.take (digits.length - places)) (digits.drop (digits.length - places)) always

def decimalExponent (numerator denominator : Nat) : Nat → Int → Int
  -- Searched from an estimate downwards.
  | 0, power => power
  | steps + 1, power =>
    let (low, high) := scale 10 (-power) numerator denominator
    if low < high then decimalExponent numerator denominator steps (power - 1) else power

def scientificDigits (mantissa : Nat) (exponent : Int) (places : Nat) : List Char × Int :=
  if mantissa = 0 then (List.replicate (places + 1) '0', 0)
  else
    let (numerator, denominator) := Floating.quotient mantissa exponent
    let estimate : Int := (Nat.toDigits 10 numerator).length - (Nat.toDigits 10 denominator).length
    let power := decimalExponent numerator denominator 3 (estimate + 1)
    let (low, high) := scale 10 (places - power) numerator denominator
    let digits := Nat.toDigits 10 (roundQuotient low high)
    if places + 1 < digits.length then (digits.take (places + 1), power + 1) else (digits, power)

def exponentText (letter : Char) (least : Nat) (power : Int) : List Char :=
  letter :: (if power < 0 then '-' else '+') :: paddedDigits least power.natAbs

def scientificText (mantissa : Nat) (exponent : Int) (places : Nat) (always : Bool)
    (letter : Char) : List Char :=
  let (digits, power) := scientificDigits mantissa exponent places
  withPoint (digits.take 1) (digits.drop 1) always ++ exponentText letter 2 power

def dropZeros (digits : List Char) : List Char := (digits.reverse.dropWhile (· = '0')).reverse

def generalText (mantissa : Nat) (exponent : Int) (digits : Nat) (always : Bool)
    (letter : Char) : List Char :=
  let count := max digits 1
  let (shown, power) := scientificDigits mantissa exponent (count - 1)
  let keep (fraction : List Char) : List Char := if always then fraction else dropZeros fraction
  if power < -4 ∨ (count : Int) ≤ power then
    withPoint (shown.take 1) (keep (shown.drop 1)) always ++ exponentText letter 2 power
  else if power < 0 then
    withPoint ['0'] (keep (List.replicate ((-power).toNat - 1) '0' ++ shown)) always
  else
    withPoint (shown.take (power.toNat + 1)) (keep (shown.drop (power.toNat + 1))) always

/-- The bits of a mantissa as hexadecimal digits, the first before the point. `lead` is the number
of bits before the point. -/
def hexText (format : FloatFormat) (lead mantissa : Nat) (exponent : Int) (places : Option Nat)
    (always upper : Bool) : List Char :=
  let letter := if upper then 'P' else 'p'
  let width := (format.bits - lead + 3) / 4
  let fractionBits := width * 4
  let show_ (digits : List Char) : List Char := if upper then digits.map Char.toUpper else digits
  if mantissa = 0 then
    withPoint ['0'] (List.replicate (places.getD 0) '0') always ++ exponentText letter 1 0
  else
    -- The first bit of the mantissa becomes the first bit before the point.
    let shift : Int := (lead + fractionBits : Nat) - (bitLength mantissa : Int)
    let bits := (scale 2 shift mantissa 1).1
    let power := exponent - shift + fractionBits
    let (kept, length) :=
      match places with
      | none => (bits, width)
      | some places =>
        if places < width then (roundQuotient bits (Nat.pow 16 (width - places)), places)
        else (bits * Nat.pow 16 (places - width), places)
    let digits := Nat.toDigits 16 kept
    let padded := List.replicate (length + 1 - digits.length) '0' ++ digits
    let whole := padded.take (padded.length - length)
    let fraction := padded.drop (padded.length - length)
    let fraction := if places.isNone then dropZeros fraction else fraction
    show_ (withPoint whole fraction always) ++ exponentText letter 1 power

end PipeShell
