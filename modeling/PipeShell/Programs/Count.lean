import PipeShell.Programs.Call

/-!
# Counting

`wc` counts lines, words, characters and bytes and measures the longest line. The columns are as
wide as the sizes of all inputs together need.
-/

namespace PipeShell

namespace Programs

structure Counts where
  lines : Nat := 0
  words : Nat := 0
  bytes : Nat := 0
  longest : Nat := 0
  deriving DecidableEq, Repr

def isPrintableByte (byte : UInt8) : Bool := 32 ≤ byte && byte ≤ 126

structure Counting where
  counts : Counts := {}
  inWord : Bool := false
  column : Nat := 0
  deriving DecidableEq, Repr

namespace Counting

def endWord (counting : Counting) : Counting :=
  let counts := counting.counts
  { counting with
    counts := { counts with words := counts.words + if counting.inWord then 1 else 0 }
    inWord := false }

def endLine (counting : Counting) : Counting :=
  let counts := counting.counts
  { counting.endWord with
    counts := { counting.endWord.counts with longest := max counts.longest counting.column }
    column := 0 }

def step (counting : Counting) (byte : UInt8) : Counting :=
  let counting :=
    { counting with counts := { counting.counts with bytes := counting.counts.bytes + 1 } }
  if byte = 10 then
    let ended := counting.endLine
    { ended with counts := { ended.counts with lines := ended.counts.lines + 1 } }
  else if byte = 13 || byte = 12 then counting.endLine
  else if byte = 9 then
    { counting.endWord with column := counting.column + (8 - counting.column % 8) }
  else if byte = 32 then { counting.endWord with column := counting.column + 1 }
  else if byte = 11 then counting.endWord
  else if isPrintableByte byte then
    { counting with inWord := true, column := counting.column + 1 }
  else counting

end Counting

def Counts.of (content : Bytes) : Counts := (content.foldl Counting.step {}).endLine.counts

def Counts.add (left right : Counts) : Counts :=
  ⟨left.lines + right.lines, left.words + right.words, left.bytes + right.bytes,
    max left.longest right.longest⟩

structure CountForm where
  lines : Bool := false
  words : Bool := false
  chars : Bool := false
  bytes : Bool := false
  longest : Bool := false
  deriving DecidableEq, Repr

namespace CountForm

def add (form : CountForm) : String → CountForm
  | "l" => { form with lines := true }
  | "w" => { form with words := true }
  | "m" => { form with chars := true }
  | "c" => { form with bytes := true }
  | "L" => { form with longest := true }
  | _ => form

def orStandard (form : CountForm) : CountForm :=
  if form = {} then { lines := true, words := true, bytes := true } else form

def columns (form : CountForm) (counts : Counts) : List Nat :=
  [(form.lines, counts.lines), (form.words, counts.words), (form.chars, counts.bytes),
    (form.bytes, counts.bytes), (form.longest, counts.longest)].filterMap fun column =>
    if column.1 then some column.2 else none

end CountForm

def padTo (width : Nat) (text : String) : String :=
  String.ofList (List.replicate (width - text.length) ' ') ++ text

def countRow (width : Nat) (columns : List Nat) (name : Option String) : String :=
  let numbers := " ".intercalate (columns.map fun number => padTo width (toString number))
  let label :=
    match name with
    | none => ""
    | some name => " " ++ if name.toList.contains '\n' then shownName name else name
  numbers ++ label ++ "\n"

def sizeOf? (world : World) (name : String) : Except IoFailure (Option Nat) :=
  let ofNode : Node → Option Nat
    | .file content _ => some content.length
    | _ => none
  if name = "-" then
    match world.stream? Descriptors.standardInput with
    | none => .error (.system .EBADF)
    | some (.file index) => .ok (((world.openFiles[index]?).bind world.nodeOf?).bind ofNode)
    | some _ => .ok none
  else (world.files.status world.process.directory (nameOf name)).map fun found => ofNode found.2

def countWidth (sizes : List (Except IoFailure (Option Nat))) : Nat :=
  let known := sizes.filterMap fun size => size.toOption
  let total := (known.filterMap id).foldl (· + ·) 0
  let needed := (toString total).length
  if known.any (·.isNone) then max needed 7 else needed

def countForms : List OptionForm :=
  [flag 'c' "bytes", flag 'm' "chars", flag 'l' "lines", flag 'w' "words",
    flag 'L' "max-line-length", longValued "files0-from", longValued "total"]

inductive TotalWhen where
  | auto
  | always
  | only
  | never
  deriving DecidableEq, Repr

def totalWords : List (String × TotalWhen) :=
  [("auto", .auto), ("always", .always), ("only", .only), ("never", .never)]

def badTotal (kind argument : String) : String :=
  s!"{kind} argument {quoted argument} for '--total'\nValid arguments are:" ++
    String.join (totalWords.map fun word => s!"\n  - {quoted word.1}")

def TotalWhen.ofName (name : String) : Except String TotalWhen :=
  match totalWords.lookup name with
  | some when_ => .ok when_
  | none =>
    match totalWords.filter fun word => name.toList.isPrefixOf word.1.toList with
    | [word] => .ok word.2
    | [] => .error (badTotal "invalid" name)
    | _ => .error (badTotal "ambiguous" name)

/-! ## What is asked for -/

/-- The columns, when a total is shown, and the file that lists the names of the inputs. -/
structure CountRequest where
  form : CountForm := {}
  total : TotalWhen := .auto
  list : Option String := none
  deriving DecidableEq, Repr

def CountRequest.add (request : CountRequest) (option : String × String) :
    Except String CountRequest :=
  match option with
  | ("total", word) => return { request with total := ← TotalWhen.ofName word }
  | ("files0-from", name) => return { request with list := some name }
  | (letter, _) => return { request with form := request.form.add letter }

def readCounts (words : List String) : Except String (CountRequest × List String) := do
  let read := readOptions countForms words
  let request ← read.options.foldlM CountRequest.add {}
  if let some text := read.fault then throw text
  if let (some _, first :: _) := (request.list, read.operands) then
    throw s!"extra operand {shellQuoted first}\nfile operands cannot be combined with --files0-from"
  return ({ request with form := request.form.orStandard }, read.operands)

structure CountInputs where
  names : List String := []
  ahead : Bool := false
  failure : Option String := none
  deriving DecidableEq, Repr

/-- The inputs that a list names. Only those in a regular file are all known before the first is
read. -/
def listedInputs (list : String) : Work (Except String CountInputs) := do
  let unread (failure : IoFailure) : CountInputs :=
    { failure := some s!"{shownName list}: read error: {failure.libraryText}" }
  let found ← Work.withInput list fun stream => do
    let world ← Work.world
    let ahead :=
      match stream with
      | .file index =>
        match (world.openFiles[index]?).bind world.nodeOf? with
        | some (.file _ _) => true
        | _ => false
      | _ => false
    match ← Work.drain stream with
    | .error failure => return unread failure
    | .ok content => return { names := listedNames content, ahead }
  match found with
  | .ok inputs => return .ok inputs
  | .error failure =>
    if list = "-" then return .ok (unread failure)
    else
      return .error s!"cannot open {shellQuoted list} for reading: {failure.libraryText}"

def badName? (list : Option String) (number : Nat) (name : String) : Option String :=
  if list = some "-" ∧ name = "-" then
    some s!"when reading file names from stdin, no file name of {shellQuoted name} allowed"
  else if name = "" then
    let origin := list.elim "" fun list => s!"{shownName list}:{number}: "
    some (origin ++ "invalid zero-length file name")
  else none

/-! ## Counting the inputs -/

def countAll (request : CountRequest) (width : Nat) (named : Bool) (status : Nat)
    (total : Counts) (number : Nat) : List String → Work (Nat × Counts)
  | [] => return (status, total)
  | name :: rest => do
    let show_ (counts : Counts) : Work Unit := do
      if request.total ≠ .only then
        Work.print
          (countRow width (request.form.columns counts) (if named then some name else none))
    if let some text := badName? request.list number name then
      Work.complain text
      countAll request width named 1 total (number + 1) rest
    else
      match ← Work.withInput name Work.drain with
      | .error failure =>
        Work.complain s!"{shownName name}: {failure.libraryText}"
        if name = "-" then show_ {}
        countAll request width named 1 total (number + 1) rest
      | .ok (.error failure) =>
        Work.complain s!"{shownName name}: {failure.libraryText}"
        show_ {}
        countAll request width named 1 total (number + 1) rest
      | .ok (.ok content) =>
        let counts := Counts.of content
        show_ counts
        countAll request width named status (total.add counts) (number + 1) rest

def countInputs (request : CountRequest) (named : Bool) (inputs : CountInputs) : Work Nat := do
  let world ← Work.world
  let names := inputs.names
  let alone := names.length = 1 ∧ (request.form.columns {}).length = 1
  let width :=
    if request.total = .only ∨ alone ∨ !inputs.ahead then 1
    else countWidth (names.map (sizeOf? world))
  let (status, total) ← countAll request width named 0 {} 1 names
  if let some text := inputs.failure then Work.complain text
  let status := if inputs.failure.isSome then 1 else status
  if request.total = .always ∨ request.total = .only ∨
      (request.total = .auto ∧ 1 < names.length) then
    Work.print (countRow width (request.form.columns total)
      (if request.total = .only then none else some "total"))
  let status ← Work.finish status 1
  if request.list ≠ some "-" ∧ names.contains "-" ∧
      (world.stream? Descriptors.standardInput).isNone then
    Work.complain s!"-: {Errno.EBADF.libraryText}"
    return 1
  return status

def wc : Tool := toolOfWork fun words => do
  match readCounts words with
  | .error text =>
    Work.misused text
    return 1
  | .ok (request, operands) =>
    match request.list with
    | none =>
      countInputs request (!operands.isEmpty) { names := inputsOf operands, ahead := true }
    | some list =>
      match ← listedInputs list with
      | .ok inputs => countInputs request true inputs
      | .error text =>
        Work.complain text
        return 1

end Programs

end PipeShell
