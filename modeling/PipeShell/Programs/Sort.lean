import PipeShell.Programs.Call
import PipeShell.Programs.SortKey
import PipeShell.Text.Magnitude

/-!
# Sorting lines

`sort` sorts the lines of all its inputs together, merges inputs that are sorted, or checks one.
Lines are compared by their keys, and those with equal keys byte by byte unless their order is to
stay.
-/

namespace PipeShell

namespace Programs

inductive SortCheck where
  | diagnose
  | quiet
  deriving DecidableEq, Repr

structure SortForm where
  order : SortOrder := {}
  keys : List SortKey := []
  separator : Option UInt8 := none
  lineEnd : UInt8 := 10
  unique : Bool := false
  stable : Bool := false
  merge : Bool := false
  check : Option SortCheck := none
  output : Option String := none
  list : Option String := none
  compressor : Option String := none
  randomSource : Option String := none
  deriving DecidableEq, Repr

inductive SortFault where
  | plain (text : String)
  | double (first second : String)
  | misuse (text : String) (status : Nat)
  deriving DecidableEq, Repr

/-! ## Options -/

def badKey (reason text : String) : SortFault :=
  .plain s!"{reason}: invalid field specification {quoted text}"

def readKeyCount (reason : String) (text : List Char) : Except SortFault (Nat × List Char) :=
  let trimmed := text.dropWhile fun c => c = ' ' || ('\t' ≤ c && c ≤ '\r')
  let unsigned := if trimmed.head? = some '+' then trimmed.drop 1 else trimmed
  let digits := unsigned.takeWhile Char.isDigit
  if digits.isEmpty then
    .error (.plain s!"{reason}: invalid count at start of {quoted (String.ofList text)}")
  else
    .ok (min (digitsValue 10 digits) 0xFFFFFFFFFFFFFFFF, unsigned.drop digits.length)

def readKey (text : String) : Except SortFault SortKey := do
  let (field, rest) ← readKeyCount "invalid number at field start" text.toList
  if field = 0 then throw (badKey "field number is zero" text)
  let (char, rest) ←
    match rest with
    | '.' :: rest => do
      let (char, rest) ← readKeyCount "invalid number after '.'" rest
      if char = 0 then throw (badKey "character offset is zero" text)
      pure (char, rest)
    | rest => pure (1, rest)
  let (order, rest) := ({} : SortOrder).addLetters true false rest
  let key : SortKey := { startField := field - 1, startChar := char - 1, order }
  match rest with
  | [] => return key
  | ',' :: rest => do
    let (field, rest) ← readKeyCount "invalid number after ','" rest
    if field = 0 then throw (badKey "field number is zero" text)
    let (char, rest) ←
      match rest with
      | '.' :: rest => readKeyCount "invalid number after '.'" rest
      | rest => pure (0, rest)
    let (order, rest) := order.addLetters false true rest
    if rest.isEmpty then return { key with stop := some (field - 1, char), order }
    throw (badKey "stray character in field spec" text)
  | _ => throw (badKey "stray character in field spec" text)

def readSeparator (form : SortForm) (text : String) : Except SortFault SortForm := do
  let separator ←
    match text.toList with
    | [] => throw (.plain "empty tab")
    | [c] => pure (UInt8.ofNat c.toNat)
    | ['\\', '0'] => pure 0
    | _ => throw (.plain s!"multi-character tab {quoted text}")
  if form.separator.any (· ≠ separator) then throw (.plain "incompatible tabs")
  return { form with separator := some separator }

def readSortCount (option : String) (units : List Char) (text : String) :
    Except SortFault (Nat × Bool) :=
  let trimmed := text.toList.dropWhile fun c => c = ' ' || ('\t' ≤ c && c ≤ '\r')
  let unsigned := if trimmed.head? = some '+' then trimmed.drop 1 else trimmed
  let digits := unsigned.takeWhile Char.isDigit
  let bare := digits.isEmpty && text.toList.head?.any units.contains
  let rest := if bare then text.toList else unsigned.drop digits.length
  let count := if bare then 1 else digitsValue 10 digits
  let tooLarge : SortFault := .plain s!"{option} argument '{text}' too large"
  let wrongUnit : SortFault := .plain s!"invalid suffix in {option} argument '{text}'"
  if digits.isEmpty && !bare then .error (.plain s!"invalid {option} argument '{text}'")
  else
    match rest with
    | [] => if largestCount < count then .error tooLarge else .ok (count, false)
    | unit :: more =>
      match sortUnitPower? units unit with
      | none => .error wrongUnit
      | some power =>
        if !more.isEmpty then .error wrongUnit
        else if largestCount < count * Nat.pow 1024 power then .error tooLarge
        else .ok (count * Nat.pow 1024 power, true)
where
  sortUnitPower? (units : List Char) : Char → Option Nat
    | 'g' => unitPower? (units.map Char.toUpper) 'G'
    | 't' => unitPower? (units.map Char.toUpper) 'T'
    | letter => unitPower? units letter

def bufferUnits : List Char := "EgGkKmMPQRtTYZ".toList

def checkBufferSize (option text : String) : Except SortFault Unit := do
  let chars := text.toList
  let last := chars.getLast?
  let whole := chars.dropLast
  let direct := (last = some 'b' || last = some '%') && whole.getLast?.any Char.isDigit
  if direct && (readSortCount option [] (String.ofList whole)).toBool then return
  let (count, hasUnit) ← readSortCount option bufferUnits text
  if !hasUnit && largestCount / 1024 < count then
    throw (.plain s!"{option} argument '{text}' too large")

def checkBatchSize (text : String) : Except SortFault Unit := do
  let (count, _) ← readSortCount "--batch-size" [] text
  if count < 2 then
    throw (.double s!"invalid --batch-size argument {quoted text}"
      "minimum --batch-size argument is '2'")

def checkThreads (text : String) : Except SortFault Unit :=
  match readSortCount "--parallel" [] text with
  | .ok (0, _) => .error (.plain "number in parallel must be nonzero")
  | .ok _ => .ok ()
  | .error fault =>
    if fault = .plain s!"--parallel argument '{text}' too large" then .ok () else .error fault

def chooseWord {α : Type} [DecidableEq α] (option : String) (words : List (List String × α))
    (text : String) : Except SortFault α :=
  let lines := words.map fun word => "\n  - " ++ ", ".intercalate (word.1.map quoted)
  let fault (kind : String) : SortFault :=
    .misuse (s!"{kind} argument {quoted text} for '--{option}'\nValid arguments are:" ++
      String.join lines) 1
  match words.find? fun word => word.1.contains text with
  | some word => .ok word.2
  | none =>
    match words.filter fun word => word.1.any fun name => text.toList.isPrefixOf name.toList with
    | [] => .error (fault "invalid")
    | [word] => .ok word.2
    | _ => .error (fault "ambiguous")

def sortWords : List (List String × Char) :=
  [(["general-numeric"], 'g'), (["human-numeric"], 'h'), (["month"], 'M'), (["numeric"], 'n'),
    (["random"], 'R'), (["version"], 'V')]

def checkWords : List (List String × SortCheck) :=
  [(["quiet", "silent"], .quiet), (["diagnose-first"], .diagnose)]

def SortForm.withCheck (form : SortForm) (check : SortCheck) : Except SortFault SortForm :=
  if form.check.any (· ≠ check) then .error (.plain "options '-cC' are incompatible")
  else .ok { form with check := some check }

def SortForm.withOrder (form : SortForm) (letter : Char) : SortForm :=
  { form with order := (form.order.add? true true letter).getD form.order }

def SortForm.add (form : SortForm) (option : String × String) : Except SortFault SortForm :=
  match option.1, option.2 with
  | "c", _ => form.withCheck .diagnose
  | "C", _ => form.withCheck .quiet
  | "check", "" => form.withCheck .diagnose
  | "check", word => do form.withCheck (← chooseWord "check" checkWords word)
  | "sort", word => do return form.withOrder (← chooseWord "sort" sortWords word)
  | "k", text => do return { form with keys := form.keys ++ [← readKey text] }
  | "m", _ => .ok { form with merge := true }
  | "o", name =>
    if form.output.any (· ≠ name) then .error (.plain "multiple output files specified")
    else .ok { form with output := some name }
  | "s", _ => .ok { form with stable := true }
  | "t", text => readSeparator form text
  | "u", _ => .ok { form with unique := true }
  | "z", _ => .ok { form with lineEnd := 0 }
  | "T", _ => .ok form
  | "S", size => do
    checkBufferSize "-S" size
    return form
  | "buffer-size", size => do
    checkBufferSize "--buffer-size" size
    return form
  | "parallel", count => do
    checkThreads count
    return form
  | "batch-size", count => do
    checkBatchSize count
    return form
  | "compress-program", name =>
    if form.compressor.any (· ≠ name) then .error (.plain "multiple compress programs specified")
    else .ok { form with compressor := some name }
  | "random-source", name =>
    if form.randomSource.any (· ≠ name) then .error (.plain "multiple random sources specified")
    else .ok { form with randomSource := some name }
  | "files0-from", name => .ok { form with list := some name }
  | letter, _ => .ok (letter.toList.foldl SortForm.withOrder form)

def sortForms : List OptionForm :=
  [flag 'b' "ignore-leading-blanks", flag 'c' "", flag 'C' "", flag 'd' "dictionary-order",
    flag 'f' "ignore-case", flag 'g' "general-numeric-sort", flag 'h' "human-numeric-sort",
    flag 'i' "ignore-nonprinting", flag 'M' "month-sort", flag 'n' "numeric-sort",
    flag 'R' "random-sort", flag 'r' "reverse", flag 'V' "version-sort", flag 'm' "merge",
    flag 's' "stable", flag 'u' "unique", flag 'z' "zero-terminated", valued 'k' "key",
    valued 'o' "output", valued 't' "field-separator", valued 'S' "",
    valued 'T' "temporary-directory", longOptional "check", longValued "sort",
    longValued "buffer-size", longValued "parallel", longValued "batch-size",
    longValued "compress-program", longValued "random-source", longValued "files0-from"]

/-- Keys without an order of their own take that of the whole; without keys the whole line is one if
there is an order for it. -/
def SortForm.settled (form : SortForm) : SortForm :=
  let keys := form.keys.map fun key =>
    if key.order.isStandard && !key.order.reverse then { key with order := form.order } else key
  if keys.isEmpty && !form.order.isStandard then { form with keys := [{ order := form.order }] }
  else { form with keys }

def readSort (words : List String) : Except SortFault (SortForm × List String) := do
  let read := readOptions sortForms words
  let form ← read.options.foldlM SortForm.add ({} : SortForm)
  if let some text := read.fault then throw (.misuse text 2)
  if let (some _, first :: _) := (form.list, read.operands) then
    throw (.misuse (s!"extra operand {shellQuoted first}\n" ++
      "file operands cannot be combined with --files0-from") 2)
  return (form, read.operands)

def SortForm.checked (form : SortForm) (inputs : List String) : Except SortFault SortForm := do
  let settled := form.settled
  if let some letters := settled.keys.findSome? fun key => key.order.clash? then
    throw (.plain s!"options '-{letters}' are incompatible")
  if let some check := form.check then
    let letter := if check = .quiet then 'C' else 'c'
    if let _ :: second :: _ := inputs then
      throw (.plain s!"extra operand {quoted second} not allowed with -{letter}")
    if form.output.isSome then throw (.plain s!"options '-{letter}o' are incompatible")
  return settled

def sortNames (list : String) (content : Bytes) : Except SortFault (List String) := do
  let names := listedNames content
  if names.isEmpty then throw (.plain s!"no input from {shellQuoted list}")
  names.zipIdx.forM fun (name, place) =>
    if name = "-" then
      throw (.plain ("when reading file names from stdin, " ++
        s!"no file name of {shellQuoted name} allowed"))
    else if name = "" then
      throw (.plain s!"{shownName list}:{place + 1}: invalid zero-length file name")
    else pure ()
  return names

/-! ## Sorting -/

namespace SortForm

def prepare (form : SortForm) (line : Bytes) : SortLine :=
  ⟨line, form.keys.map fun key => key.order.filtered (key.part form.separator line)⟩

def compare (form : SortForm) (left right : SortLine) : Ordering :=
  let result := compareKeys form.keys left.parts right.parts
  if !form.keys.isEmpty && (form.unique || form.stable) then result
  else result.then (form.order.directed (compareBytes left.line right.line))

def le (form : SortForm) (left right : SortLine) : Bool := form.compare left right ≠ .gt

def distinct (form : SortForm) : List SortLine → List SortLine
  | [] => []
  | first :: rest => first :: go first rest
where
  go (last : SortLine) : List SortLine → List SortLine
    | [] => []
    | line :: rest => if form.compare last line = .eq then go last rest else line :: go line rest

def mergeAll (form : SortForm) (inputs : List (List SortLine)) : List SortLine :=
  -- Of equal lines that of the first input is next.
  inputs.foldl (fun merged input => List.merge merged input form.le) []

def arrange (form : SortForm) (inputs : List (List SortLine)) : List SortLine :=
  let lines :=
    if form.merge then form.mergeAll inputs else inputs.flatten.mergeSort form.le
  if form.unique then form.distinct lines else lines

def disorder? (form : SortForm) (last : SortLine) (number : Nat) :
    List SortLine → Option (Nat × Bytes)
  | [] => none
  | line :: rest =>
    let order := form.compare last line
    if order = .gt ∨ order = .eq ∧ form.unique then some (number, line.line)
    else form.disorder? line (number + 1) rest

end SortForm

/-! ## The program -/

abbrev SortWork := ExceptT Nat Work

def sortDie {α : Type} (text : String) : SortWork α := do
  liftM (m := Work) (Work.complain text)
  throw 2

def readSortInput (form : SortForm) (name : String) : SortWork (List SortLine) := do
  match ← liftM (m := Work) (Work.withInput name Work.drain) with
  | .ok (.ok content) => return (linesOf form.lineEnd content).map form.prepare
  | .ok (.error failure) => sortDie s!"read failed: {shownName name}: {failure.libraryText}"
  | .error failure =>
    let step := if name = "-" then "stat failed" else "open failed"
    sortDie s!"{step}: {shownName name}: {failure.libraryText}"

def checkSortInput (name : String) : SortWork Unit := do
  if name ≠ "-" then
    let found ← liftM (m := Work) (Work.status name)
    let refuse (failure : IoFailure) : SortWork Unit :=
      sortDie s!"cannot read: {shownName name}: {failure.libraryText}"
    match found with
    | .error failure => refuse failure
    | .ok (_, .file _ permissions) => if !permissions.read then refuse (.system .EACCES)
    | .ok _ => return

def sortBuffer : Nat := 4096

def writeSorted (shown : String) (content : Bytes) : SortWork Unit := do
  liftM (m := Work) (Work.printBytes content)
  liftM (m := Work) Work.flush
  if let some failure := (← liftM (m := Work) get).broken then
    let step := if content.length ≤ sortBuffer then "fflush" else "write"
    liftM (m := Work) (Work.complain s!"{step} failed: {shown}: {failure.libraryText}")
    sortDie "write error"

/-- Opens the file for the result in the place of standard output; it is emptied when the inputs
have been read. -/
def openSorted (name : String) : SortWork Unit := do
  match (← liftM (m := Work) Work.world).openPath .overwrite (nameOf name) with
  | .error failure => sortDie s!"open failed: {shownName name}: {failure.libraryText}"
  | .ok (world, number) =>
    liftM (m := Work) (Work.change fun _ =>
      (world.mapDescriptors (·.duplicate number Descriptors.standardOutput)).close number)

def checkSorted (name : String) : SortWork Unit := do
  match (← liftM (m := Work) Work.world).openPath .append (nameOf name) with
  | .error failure => sortDie s!"open failed: {shownName name}: {failure.libraryText}"
  | .ok (world, number) => liftM (m := Work) (Work.change fun _ => world.close number)

def checkOrder (form : SortForm) (check : SortCheck) (name : String) : SortWork Nat := do
  let lines ← readSortInput form name
  match lines with
  | [] => return 0
  | first :: rest =>
    match form.disorder? first 2 rest with
    | none => return 0
    | some (number, line) =>
      if check = .diagnose then
        let text := byteText (line ++ [form.lineEnd])
        let self := (← liftM (m := Work) get).self
        liftM (m := Work)
          (Work.printError s!"{self}: {shownName name}:{number}: disorder: {text}")
      return 1

def sortInputs (form : SortForm) (inputs : List String) : SortWork Nat := do
  inputs.forM checkSortInput
  if let some name := form.output then checkSorted name
  let lines ← inputs.mapM (readSortInput form)
  if let some name := form.output then openSorted name
  let sorted := (form.arrange lines).flatMap fun line => line.line ++ [form.lineEnd]
  writeSorted (form.output.elim "'standard output'" shownName) sorted
  return 0

def listedSortInputs (list : String) : Work (Except SortFault (List String)) := do
  match ← Work.withInput list Work.drain with
  | .ok (.ok content) => return sortNames list content
  | .ok (.error _) => return .error (.plain s!"cannot read file names from {shellQuoted list}")
  | .error failure =>
    return .error (.plain s!"open failed: {shownName list}: {failure.libraryText}")

def SortFault.report : SortFault → Work Nat
  | .plain text => do
    Work.complain text
    return 2
  | .double first second => do
    Work.complain first
    Work.complain second
    return 2
  | .misuse text status => do
    Work.misused text
    return status

def sort : Tool := toolOfWork fun words => do
  match readSort words with
  | .error fault => fault.report
  | .ok (form, operands) =>
    let inputs ←
      match form.list with
      | none => pure (.ok (inputsOf operands))
      | some list => listedSortInputs list
    match inputs.bind fun inputs => (form.checked inputs).map (·, inputs) with
    | .error fault => fault.report
    | .ok (form, inputs) =>
      let work : SortWork Nat :=
        match form.check, inputs with
        | some check, [name] => checkOrder form check name
        | _, _ => sortInputs form inputs
      match ← work.run with
      | .ok status => return status
      | .error status => return status

end Programs

end PipeShell
