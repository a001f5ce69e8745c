import PipeShell.Programs.Call
import PipeShell.Text.Conversion

/-!
# Formatted printing

`printf` reads its format into a list of items and works through these again and again until its
arguments are used up. An item that is not well-formed ends the program when it is its turn.
-/

namespace PipeShell

namespace Programs

inductive Measure where
  | absent
  | number (value : Nat)
  | argument
  deriving DecidableEq, Repr

inductive FormatItem where
  | text (text : List Char)
  | stop
  | fault (text : String)
  | escaped
  | quoted
  | conversion (flags : List Char) (width precision : Measure) (letter : Char)
  deriving DecidableEq, Repr

/-! ## Escapes -/

def escapedChar? : Char → Option Char
  | '"' => some '"'
  | '\\' => some '\\'
  | 'a' => some '\x07'
  | 'b' => some '\x08'
  | 'e' => some '\x1B'
  | 'f' => some '\x0C'
  | 'n' => some '\n'
  | 'r' => some '\r'
  | 't' => some '\t'
  | 'v' => some '\x0B'
  | _ => none

def hexDigitsUpper (least number : Nat) : List Char :=
  let digits := (Nat.toDigits 16 number).map Char.toUpper
  List.replicate (least - digits.length) '0' ++ digits

def missingHex : FormatItem := .fault "missing hexadecimal number in escape"

def universalEscape (letter : Char) (length : Nat) (text : List Char) : FormatItem × Nat :=
  -- Only bytes can be printed, so a character beyond ASCII is written as its escape.
  let digits := (text.take length).takeWhile isHexDigit
  if digits.length < length then (missingHex, 1 + digits.length)
  else
    let value := digitsValue 16 digits
    let item : FormatItem :=
      if value ≤ 0x9F ∧ value ≠ 0x24 ∧ value ≠ 0x40 ∧ value ≠ 0x60 ∨
          0xD800 ≤ value ∧ value ≤ 0xDFFF then
        let name := (hexDigitsUpper length value).map Char.toLower
        .fault (String.ofList ("invalid universal character name \\".toList ++ letter :: name))
      else if value < 0x80 then .text [Char.ofNat value]
      else if value < 0x10000 then .text ('\\' :: 'u' :: hexDigitsUpper 4 value)
      else .text ('\\' :: 'U' :: hexDigitsUpper 8 value)
    (item, 1 + length)

/-- The escape whose text follows a backslash, and how many characters it takes. In a text an octal
number has a `0` before its three digits. -/
def readEscape (zeroFirst : Bool) (text : List Char) : FormatItem × Nat :=
  match text with
  | [] => (.text ['\\'], 0)
  | 'x' :: rest =>
    let digits := (rest.take 2).takeWhile isHexDigit
    if digits.isEmpty then (missingHex, 1)
    else (.text [Char.ofNat (digitsValue 16 digits)], 1 + digits.length)
  | 'c' :: _ => (.stop, 1)
  | 'u' :: rest => universalEscape 'u' 4 rest
  | 'U' :: rest => universalEscape 'U' 8 rest
  | c :: rest =>
    if isOctalDigit c then
      let skipped := if zeroFirst && c = '0' then 1 else 0
      let digits := (((c :: rest).drop skipped).take 3).takeWhile isOctalDigit
      (.text [Char.ofNat (digitsValue 8 digits % 256)], skipped + digits.length)
    else
      match escapedChar? c with
      | some escaped => (.text [escaped], 1)
      | none => (.text ['\\', c], 1)

def readEscapes : Nat → List Char → List FormatItem
  | _, [] => []
  | skip + 1, _ :: rest => readEscapes skip rest
  | 0, c :: rest =>
    if c = '\\' then
      let (item, length) := readEscape true rest
      item :: readEscapes length rest
    else .text [c] :: readEscapes 0 rest

/-! ## Formats -/

def readMeasure : List Char → Measure × Nat
  | '*' :: _ => (.argument, 1)
  | text =>
    let digits := text.takeWhile Char.isDigit
    if digits.isEmpty then (.absent, 0) else (.number (digitsValue 10 digits), digits.length)

def admitsLetter (flags : List Char) (dotted : Bool) (letter : Char) : Bool :=
  let all := "aAcdeEfFgGiosuxX".toList
  let without (barred : String) (condition : Bool) : Bool :=
    !(condition && barred.toList.contains letter)
  all.contains letter && without "aAceEosxX" (flags.contains '\'' || flags.contains 'I') &&
    without "cdisu" (flags.contains '#') && without "cs" (flags.contains '0') && without "c" dotted

def readConversion (text : List Char) : FormatItem × Nat :=
  match text with
  | '%' :: _ => (.text ['%'], 1)
  | 'b' :: _ => (.escaped, 1)
  | 'q' :: _ => (.quoted, 1)
  | _ =>
    let flags := text.takeWhile "I'-+ #0".toList.contains
    let afterFlags := text.drop flags.length
    let (width, widthLength) := readMeasure afterFlags
    let afterWidth := afterFlags.drop widthLength
    let dotted := afterWidth.head? = some '.'
    let (precision, precisionLength) :=
      if dotted then
        let (precision, length) := readMeasure (afterWidth.drop 1)
        (if precision = .absent then .number 0 else precision, length + 1)
      else (.absent, 0)
    let afterPrecision := afterWidth.drop precisionLength
    let sizes := afterPrecision.takeWhile "lLhjtz".toList.contains
    let length := flags.length + widthLength + precisionLength + sizes.length
    match afterPrecision.drop sizes.length with
    | letter :: _ =>
      if admitsLetter flags dotted letter then
        (.conversion flags width precision letter, length + 1)
      else
        let shown := String.ofList ('%' :: text.take (length + 1))
        (.fault s!"{shown}: invalid conversion specification", length + 1)
    | [] =>
      let shown := String.ofList ('%' :: text.take length)
      (.fault s!"{shown}: invalid conversion specification", length)

def readFormat : Nat → List Char → List FormatItem
  | _, [] => []
  | skip + 1, _ :: rest => readFormat skip rest
  | 0, c :: rest =>
    if c = '%' then
      let (item, length) := readConversion rest
      item :: readFormat length rest
    else if c = '\\' then
      let (item, length) := readEscape false rest
      item :: readFormat length rest
    else .text [c] :: readFormat 0 rest

/-! ## Printing -/

structure Printing where
  arguments : List String
  used : Bool := false
  status : Nat := 0
  deriving DecidableEq, Repr

abbrev Printer := StateT Printing (ExceptT Nat Work)

namespace Printer

def work {α : Type} (step : Work α) : Printer α := liftM (m := Work) step

def fail {α : Type} (text : String) : Printer α := do
  work (Work.complain text)
  throw 1

def note (text : String) : Printer Unit := do
  work (Work.complain text)
  modify fun printing => { printing with status := 1 }

def next? : Printer (Option String) := do
  match (← get).arguments with
  | [] => return none
  | argument :: rest =>
    modify fun printing => { printing with arguments := rest, used := true }
    return some argument

def verify (argument : String) (rest : List Char) (outOfRange : Bool) : Printer Unit := do
  if outOfRange then note s!"{quoted argument}: Numerical result out of range"
  else if !rest.isEmpty then
    if rest.length = argument.length then note s!"{quoted argument}: expected a numeric value"
    else note s!"{quoted argument}: value not completely converted"

def quotedCode? (argument : String) : Printer (Option Nat) := do
  match argument.toList with
  | quote :: c :: rest =>
    if quote = '\'' ∨ quote = '"' then
      if !rest.isEmpty then
        work (Work.complain (s!"warning: {String.ofList rest}: character(s) following " ++
          "character constant have been ignored"))
      return some c.toNat
    else return none
  | _ => return none

def signed (argument : String) : Printer Int := do
  match ← quotedCode? argument with
  | some code => return code
  | none =>
    let read := readNumeral argument.toList
    let (value, outOfRange) := clampSigned read.value
    verify argument read.rest outOfRange
    return value

def unsigned (argument : String) : Printer Nat := do
  match ← quotedCode? argument with
  | some code => return code
  | none =>
    let read := readNumeral argument.toList
    let (value, outOfRange) := clampUnsigned read.value
    verify argument read.rest outOfRange
    return value

def floating (argument : String) : Printer Floating := do
  match ← quotedCode? argument with
  | some code => return .finite false code 0
  | none =>
    match readFloat? .extended argument.toList with
    | some read =>
      verify argument read.rest read.outOfRange
      return read.value
    | none =>
      verify argument argument.toList false
      return .finite false 0 0

def measureLimit : Int := 0x7FFFFFFF

def measured (measure : Measure) (kind : String) (absent : Int) : Printer Int := do
  match measure with
  | .absent => return absent
  | .number value => return value
  | .argument =>
    match ← next? with
    | none => return 0
    | some argument =>
      let value ← signed argument
      if measureLimit < value ∨ (kind = "field width" ∧ value < -measureLimit - 1) then
        fail s!"invalid {kind}: {quoted argument}"
      else return value

def show_ (text : List Char) : Printer Unit := work (Work.print (String.ofList text))

def convert (conversion : Conversion) (argument : String) : Printer Unit := do
  match conversion.letter with
  | 's' => show_ (conversion.text argument.toList)
  | 'c' => show_ (conversion.pad [argument.toList.headD '\x00'])
  | 'd' | 'i' => show_ (conversion.signed (← signed argument))
  | 'o' | 'u' | 'x' | 'X' => show_ (conversion.unsigned (← unsigned argument))
  | _ => show_ (conversion.floating .extended (← floating argument))

def escapeItem : FormatItem → Printer Unit
  | .text text => show_ text
  | .fault text => fail text
  | _ => throw 0

def item : FormatItem → Printer Unit
  | .escaped => do
    if let some argument ← next? then
      (readEscapes 0 argument.toList).forM escapeItem
  | .quoted => do
    if let some argument ← next? then
      show_ (shownName argument).toList
  | .conversion flags width precision letter => do
    let fieldWidth ← measured width "field width" 0
    let digits ← measured precision "precision" (-1)
    let argument := (← next?).getD ""
    let plain : Conversion := { flags := flags.filter fun c => c ≠ '\'' && c ≠ 'I', letter }
    convert ((plain.withWidth fieldWidth).withPrecision digits) argument
  | other => escapeItem other

/-- So many rounds at most. Each but the first needs an argument that is left, and one that used
none is the last. -/
def rounds (items : List FormatItem) : Nat → Printer Unit
  | 0 => return
  | count + 1 => do
    modify fun printing => { printing with used := false }
    items.forM item
    let printing ← get
    if printing.used && !printing.arguments.isEmpty then rounds items count

end Printer

def printf : Tool := toolOfWork fun words => do
  let words := if words.head? = some "--" then words.drop 1 else words
  match words with
  | [] =>
    Work.misused "missing operand"
    return 1
  | format :: arguments =>
    let items := readFormat 0 format.toList
    match ← ((Printer.rounds items (arguments.length + 1)).run { arguments }).run with
    | .error status => Work.finish status 1
    | .ok ((), printing) =>
      match printing.arguments with
      | [] => Work.finish printing.status 1
      | argument :: _ =>
        Work.complain
          s!"warning: ignoring excess arguments, starting with {quoted argument}"
        Work.finish printing.status 1

end Programs

end PipeShell
