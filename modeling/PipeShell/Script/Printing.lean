import PipeShell.Programs.Printf
import PipeShell.Script.Options

/-!
# Printing from scripts

`echo` and `printf` as scripts have them: escapes stand for characters in all that `echo` prints,
and `\c` in a text ends what is printed.
-/

namespace PipeShell

namespace Script

namespace Printing

open Programs (Measure readMeasure)

/-! ## Escapes -/

def readEscape (text : List Char) : Char × Nat :=
  let digits := (text.take 3).takeWhile isOctalDigit
  if !digits.isEmpty then (Char.ofNat (digitsValue 8 digits % 256), digits.length)
  else
    match text with
    | '\\' :: _ => ('\\', 1)
    | 'a' :: _ => ('\x07', 1)
    | 'b' :: _ => ('\x08', 1)
    | 'e' :: _ => ('\x1B', 1)
    | 'f' :: _ => ('\x0C', 1)
    | 'n' :: _ => ('\n', 1)
    | 'r' :: _ => ('\r', 1)
    | 't' :: _ => ('\t', 1)
    | 'v' :: _ => ('\x0B', 1)
    | _ => ('\\', 0)

/-- The text with its escapes replaced, behind what was read before (last first), and whether `\c`
ended it. The next `skip` characters belong to an escape. -/
def unescape : List Char → Nat → List Char → List Char × Bool
  | done, _, [] => (done.reverse, false)
  | done, skip + 1, _ :: rest => unescape done skip rest
  | done, 0, c :: rest =>
    if c ≠ '\\' then unescape (c :: done) 0 rest
    else
      match rest with
      | 'c' :: _ => (done.reverse, true)
      | '0' :: digit :: _ =>
        let skipped := if isOctalDigit digit then 1 else 0
        let (escaped, length) := readEscape (rest.drop skipped)
        unescape (escaped :: done) (skipped + length) rest
      | _ =>
        let (escaped, length) := readEscape rest
        unescape (escaped :: done) length rest

/-! ## Echo -/

def echoed (ending : List Char) : List String → List Char
  | [] => ending
  | word :: rest =>
    let (text, cut) := unescape [] 0 word.toList
    if cut then text
    else text ++ if rest.isEmpty then ending else ' ' :: echoed ending rest

def echo : Builtin := fun words => do
  match words with
  | "-n" :: words => Act.print (String.ofList (echoed [] words))
  | words => Act.print (String.ofList (echoed ['\n'] words))
  return 0

/-! ## Formats -/

inductive Item where
  | text (text : List Char)
  | fault (text : String)
  | value (flags : List Char) (width precision : Measure) (letter : Char)
  deriving DecidableEq, Repr

def valueLetters : List Char := "bcsdiouxXaAeEfFgG".toList

def readValue (text : List Char) : Item × Nat :=
  let flags := text.takeWhile "#-+ 0".toList.contains
  let afterFlags := text.drop flags.length
  let (width, widthLength) := readMeasure afterFlags
  let afterWidth := afterFlags.drop widthLength
  let dotted := afterWidth.head? = some '.'
  let (precision, precisionLength) :=
    if dotted then
      let (precision, length) := readMeasure (afterWidth.drop 1)
      (if precision = .absent then .number 0 else precision, length + 1)
    else (.absent, 0)
  let length := flags.length + widthLength + precisionLength
  match text.drop length with
  | [] => (.fault "missing format character", length)
  | letter :: _ =>
    if valueLetters.contains letter then (.value flags width precision letter, length + 1)
    else
      let shown := String.ofList ('%' :: text.take (length + 1))
      (.fault s!"{shown}: invalid directive", length + 1)

def readItems : Nat → List Char → List Item
  | _, [] => []
  | skip + 1, _ :: rest => readItems skip rest
  | 0, '%' :: '%' :: rest => .text ['%'] :: readItems 1 ('%' :: rest)
  | 0, '%' :: rest =>
    let (item, length) := readValue rest
    item :: readItems length rest
  | 0, '\\' :: rest =>
    let (escaped, length) := readEscape rest
    .text [escaped] :: readItems length rest
  | 0, c :: rest => .text [c] :: readItems 0 rest

/-! ## Values -/

/-- The arguments that are left, whether one was used, and the status so far. -/
structure Progress where
  arguments : List String
  used : Bool := false
  status : Nat := 0
  deriving DecidableEq, Repr

abbrev Printer := StateT Progress Act

def next? : Printer (Option String) := do
  match (← get).arguments with
  | [] => return none
  | argument :: rest =>
    modify fun progress => { progress with arguments := rest, used := true }
    return some argument

def note (text : String) : Printer Unit := do
  liftM (m := Act) (Act.warn text)
  modify fun progress => { progress with status := 1 }

def verify (argument : String) (rest : List Char) (outOfRange : Bool) : Printer Unit := do
  if !rest.isEmpty then
    if rest.length = argument.length then note s!"{argument}: expected numeric value"
    else note s!"{argument}: not completely converted"
  else if outOfRange then note s!"{argument}: Numerical result out of range"

def quotedCode? (argument : String) : Option Nat :=
  match argument.toList with
  | quote :: rest =>
    if quote = '\'' || quote = '"' then some ((rest.head?.map Char.toNat).getD 0) else none
  | [] => none

def signed (argument : String) : Printer Int := do
  match quotedCode? argument with
  | some code => return code
  | none =>
    let read := readNumeral argument.toList
    let (value, outOfRange) := clampSigned read.value
    verify argument read.rest outOfRange
    return value

def unsigned (argument : String) : Printer Nat := do
  match quotedCode? argument with
  | some code => return code
  | none =>
    let read := readNumeral argument.toList
    let (value, outOfRange) := clampUnsigned read.value
    verify argument read.rest outOfRange
    return value

def floating (argument : String) : Printer Floating := do
  match quotedCode? argument with
  | some code => return .finite false code 0
  | none =>
    match readFloat? .double argument.toList with
    | some read =>
      verify argument read.rest read.outOfRange
      return read.value
    | none =>
      verify argument argument.toList false
      return .finite false 0 0

def measured (measure : Measure) (absent : Int) : Printer Int := do
  match measure with
  | .absent => return absent
  | .number value => return value
  | .argument =>
    match ← next? with
    | none => return 0
    | some argument => return Int.bmod (← signed argument) 0x100000000

def show_ (text : List Char) : Printer Unit := liftM (m := Act) (Act.print (String.ofList text))

def showValue (conversion : Conversion) : Printer Bool := do
  let argument? ← next?
  let argument := argument?.getD ""
  match conversion.letter with
  | 'b' =>
    let (text, cut) := unescape [] 0 argument.toList
    show_ (conversion.text text)
    return !cut
  | 's' => show_ (conversion.text argument.toList)
  | 'c' => show_ (conversion.pad [argument.toList.headD '\x00'])
  | 'd' | 'i' => show_ (conversion.signed (← (argument?.map signed).getD (pure 0)))
  | 'o' | 'u' | 'x' | 'X' =>
    show_ (conversion.unsigned (← (argument?.map unsigned).getD (pure 0)))
  | _ =>
    show_ (conversion.floating .double (← (argument?.map floating).getD (pure (.finite false 0 0))))
  return true

def items : List Item → Printer Bool
  | [] => return true
  | .text text :: rest => do
    show_ text
    items rest
  | .fault text :: _ => liftM (m := Act) (Act.fail text)
  | .value flags width precision letter :: rest => do
    let fieldWidth ← measured width 0
    let digits ← measured precision (-1)
    let plain : Conversion := { flags, letter }
    if ← showValue ((plain.withWidth fieldWidth).withPrecision digits) then items rest
    else return false

def rounds (format : List Item) : Nat → Printer Unit
  | 0 => return
  | count + 1 => do
    if ← items format then
      let progress ← get
      if progress.used && !progress.arguments.isEmpty then rounds format count

def printf : Builtin := fun words => do
  match ← operandsOf words with
  | [] => Act.fail "usage: printf format [arg ...]"
  | format :: arguments =>
    let format := readItems 0 format.toList
    let ((), progress) ← (rounds format (arguments.length + 1)).run { arguments }
    return progress.status

end Printing

end Script

end PipeShell
