import PipeShell.Programs.Call
import PipeShell.Text.Magnitude

/-!
# Beginnings of files

`head` prints the first lines or bytes of its inputs, or all but the last ones. Of a file that it
shares with others it takes no more than it prints; from a pipe it takes whole buffers.
-/

namespace PipeShell

namespace Programs

inductive HeadUnit where
  | lines
  | bytes
  deriving DecidableEq, Repr

structure HeadForm where
  unit : HeadUnit := .lines
  count : Nat := 10
  fromEnd : Bool := false
  titles : Option Bool := none
  separator : UInt8 := 10
  deriving DecidableEq, Repr

inductive HeadFault where
  | plain (text : String)
  | misuse (text : String)
  deriving DecidableEq, Repr

def HeadUnit.name : HeadUnit → String
  | .lines => "lines"
  | .bytes => "bytes"

def headUnits : List Char := "bkKmMGTPEZYRQ".toList

def HeadForm.withCount (form : HeadForm) (unit : HeadUnit) (text : String) :
    Except HeadFault HeadForm :=
  let fromEnd := text.toList.head? = some '-'
  let count := if fromEnd then String.ofList (text.toList.drop 1) else text
  match readMagnitude headUnits count with
  | .ok count => .ok { form with unit, count, fromEnd }
  | .error .invalid => .error (.plain s!"invalid number of {unit.name}: {quoted count}")
  | .error .tooLarge =>
    .error (.plain (s!"invalid number of {unit.name}: {quoted count}: " ++
      "Value too large for defined data type"))

def HeadForm.add (form : HeadForm) (option : String × String) : Except HeadFault HeadForm :=
  match option.1 with
  | "n" => form.withCount .lines option.2
  | "c" => form.withCount .bytes option.2
  | "q" => .ok { form with titles := some false }
  | "v" => .ok { form with titles := some true }
  | "z" => .ok { form with separator := 0 }
  | digit => .error (.misuse s!"invalid trailing option -- {digit}")

def HeadForm.addOld (form : HeadForm) (digits : List Char) (unit : HeadUnit)
    (multiplier : List Char) : List Char → Except HeadFault HeadForm
  | [] => form.withCount unit (String.ofList (digits ++ multiplier))
  | 'c' :: rest => form.addOld digits .bytes [] rest
  | 'l' :: rest => form.addOld digits .lines multiplier rest
  | 'q' :: rest => { form with titles := some false }.addOld digits unit multiplier rest
  | 'v' :: rest => { form with titles := some true }.addOld digits unit multiplier rest
  | 'z' :: rest => { form with separator := 0 }.addOld digits unit multiplier rest
  | c :: rest =>
    if c = 'b' ∨ c = 'k' ∨ c = 'm' then form.addOld digits .bytes [c] rest
    else .error (.misuse s!"invalid trailing option -- {c}")

def headForms : List OptionForm :=
  [valued 'c' "bytes", valued 'n' "lines", flag 'q' "quiet", flag 'q' "silent", flag 'v' "verbose",
    flag 'z' "zero-terminated", longFlag "-presume-input-pipe"] ++
    "0123456789".toList.map fun digit => flag digit ""

def readHead (words : List String) : Except HeadFault (HeadForm × List String) := do
  let (form, words) ←
    match words with
    | first :: rest =>
      match first.toList with
      | '-' :: text =>
        let digits := text.takeWhile Char.isDigit
        if digits.isEmpty then pure ({}, words)
        else
          let old ← ({} : HeadForm).addOld digits .lines [] (text.drop digits.length)
          pure (old, rest)
      | _ => pure ({}, words)
    | [] => pure (({} : HeadForm), words)
  let read := readOptions headForms words
  let form ← read.options.foldlM (fun form option =>
    if option.1 = "-presume-input-pipe" then .ok form else form.add option) form
  match read.fault with
  | some text => .error (.misuse text)
  | none => return (form, read.operands)

def lengthOfLines (separator : UInt8) : Nat → Bytes → Nat
  | 0, _ => 0
  | _, [] => 0
  | lines + 1, byte :: rest =>
    1 + lengthOfLines separator (if byte = separator then lines else lines + 1) rest

def HeadForm.length (form : HeadForm) (content : Bytes) : Nat :=
  match form.unit, form.fromEnd with
  | .bytes, false => min form.count content.length
  | .bytes, true => content.length - form.count
  | .lines, false => lengthOfLines form.separator form.count content
  | .lines, true =>
    let lines := (linesOf form.separator content).length
    lengthOfLines form.separator (lines - form.count) content

def headBuffer : Nat := 8192

/-- How much is taken from an input of which so many bytes are shown: from a pipe whole buffers,
from its end everything. -/
def HeadForm.taken (form : HeadForm) (stream : Stream) (shown available : Nat) : Nat :=
  if form.fromEnd then available
  else
    match form.unit, stream with
    | .lines, .pipeReader _ =>
      if form.count = 0 then 0
      else min available ((shown + headBuffer - 1) / headBuffer * headBuffer)
    | _, _ => shown

def HeadForm.wanted (form : HeadForm) : Nat :=
  match form.unit with
  | .bytes => form.count
  | .lines => 0

def headStream (form : HeadForm) (title : String) (stream : Stream) : Work (Option IoFailure) := do
  if form.titles = some true then Work.print title
  match (← Work.world).readable form.wanted stream with
  | .error errno => return if form.count = 0 ∧ !form.fromEnd then none else some (.system errno)
  | .ok content =>
    let shown := form.length content
    Work.change (·.advance stream (form.taken stream shown content.length))
    Work.printBytes (content.take shown)
    return none

def headAll (form : HeadForm) (first : Bool) (status : Nat) : List String → Work Nat
  | [] => Work.finish status 1
  | name :: rest => do
    let shown := if name = "-" then "standard input" else name
    let title := (if first then "" else "\n") ++ s!"==> {shown} <==\n"
    match ← Work.withInput name (headStream form title) with
    | .error failure =>
      if name = "-" then
        if form.titles = some true then Work.print title
        Work.complain s!"error reading {shellQuoted shown}: {failure.libraryText}"
        headAll form false 1 rest
      else
        Work.complain s!"cannot open {shellQuoted shown} for reading: {failure.libraryText}"
        headAll form first 1 rest
    | .ok (some failure) =>
      Work.complain s!"error reading {shellQuoted shown}: {failure.libraryText}"
      headAll form false 1 rest
    | .ok none => headAll form false status rest

def head : Tool := toolOfWork fun words => do
  match readHead words with
  | .error (.plain text) =>
    Work.complain text
    return 1
  | .error (.misuse text) =>
    Work.misused text
    return 1
  | .ok (form, operands) =>
    let titles := form.titles.getD (1 < operands.length)
    let inputs := inputsOf operands
    let status ← headAll { form with titles := some titles } true 0 inputs
    if inputs.contains "-" && ((← Work.world).stream? Descriptors.standardInput).isNone then
      Work.complain s!"-: {Errno.EBADF.libraryText}"
      return 1
    return status

end Programs

end PipeShell
