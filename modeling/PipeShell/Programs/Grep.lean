import PipeShell.Programs.GrepForm

/-!
# Searching lines

`grep` shows the lines of its inputs that its patterns match, or those that they do not, with lines
around them on demand.
-/

namespace PipeShell

namespace Programs

structure NumberedLine where
  number : Nat
  offset : Nat
  line : Bytes
  deriving DecidableEq, Repr

def numberLines (number offset : Nat) : List Bytes → List NumberedLine
  | [] => []
  | line :: rest =>
    ⟨number, offset, line⟩ :: numberLines (number + 1) (offset + line.length + 1) rest

/-! ## Output -/

structure GrepPrinter where
  form : GrepForm
  matcher : LineMatcher
  name : Option String
  width : Nat := 0

def padNumber (width number : Nat) : String :=
  let digits := toString number
  String.ofList (List.replicate (width - digits.length) ' ') ++ digits

def GrepPrinter.heading (printer : GrepPrinter) (line : NumberedLine) (start length : Nat)
    (mark : String) : String :=
  let form := printer.form
  let mark := form.painted GrepForm.markColour mark
  let name :=
    match printer.name with
    | none => ""
    | some name =>
      form.painted GrepForm.nameColour name ++ (if form.nameEnd.isSome then "\x00" else mark)
  let padded (number : Nat) : String :=
    form.painted GrepForm.numberColour (padNumber printer.width number) ++ mark
  let number := if form.numbers then padded line.number else ""
  let offset := if form.offsets then padded (line.offset + start) else ""
  let headed := printer.name.isSome || form.numbers || form.offsets
  name ++ number ++ offset ++ if form.aligned && headed && 0 < length then "\t" else ""

def GrepPrinter.printMatch (printer : GrepPrinter) (bytes : Bytes) : Work Unit :=
  Work.print (printer.form.painted GrepForm.matchColour (byteText bytes))

def GrepPrinter.printMarked (printer : GrepPrinter) (line : Array UInt8) (column : Nat) :
    List (Nat × Nat) → Work Unit
  | [] => Work.printBytes (line.extract column line.size).toList
  | (start, stop) :: rest => do
    Work.printBytes (line.extract column start).toList
    printer.printMatch (line.extract start stop).toList
    printer.printMarked line stop rest

def GrepPrinter.print (printer : GrepPrinter) (selected : Bool) (line : NumberedLine) :
    Work Unit := do
  let form := printer.form
  let mark := if selected then ":" else "-"
  let finish : Bytes := [form.lineEnd]
  if form.onlyMatching then
    if selected != form.invert then
      let mark := if form.invert then "-" else ":"
      let bytes := line.line.toArray
      for (start, stop) in printer.matcher.all bytes do
        Work.print (printer.heading line start (stop - start) mark)
        printer.printMatch (bytes.extract start stop).toList
        Work.printBytes finish
  else
    Work.print (printer.heading line 0 line.line.length mark)
    if form.colored && selected != form.invert then
      let bytes := line.line.toArray
      printer.printMarked bytes 0 (printer.matcher.all bytes)
    else Work.printBytes line.line
    Work.printBytes finish

/-! ## Going through the lines -/

/-- How far the search in an input is: how many more lines may be selected, how many were, how many
of the following lines are shown, the lines before that may be shown (last first), and whether there
are others since the last line shown. -/
structure GrepState where
  left : Option Nat
  selected : Nat := 0
  pending : Nat := 0
  held : List NumberedLine := []
  gap : Bool := true
  used : Bool := false
  taken : Nat := 0
  deriving Repr

def GrepPrinter.lead (printer : GrepPrinter) (state : GrepState) : Work Unit := do
  let form := printer.form
  let contexts := form.linesBefore.isSome || form.linesAfter.isSome
  if contexts && state.used && state.gap then
    if let some separator := form.separator then
      Work.print (form.painted GrepForm.markColour separator ++ "\n")
  state.held.reverse.forM (printer.print false)

def GrepState.hold (state : GrepState) (limit : Nat) (line : NumberedLine) : GrepState :=
  let held := (line :: state.held).take limit
  { state with held, gap := state.gap || held.length ≤ state.held.length }

def grepLines (printer : GrepPrinter) (shown : Bool) (state : GrepState) :
    List NumberedLine → Work GrepState
  | [] => return state
  | line :: rest => do
    let form := printer.form
    let printPending : Work GrepState := do
      if shown then printer.print false line
      return { state with pending := state.pending - 1, held := [], gap := false }
    if state.left = some 0 then
      if 0 < state.pending then grepLines printer shown (← printPending) rest else return state
    else if printer.matcher.isIn line.line.toArray != form.invert then
      if shown then
        printer.lead state
        printer.print true line
      let state :=
        { state with
          left := state.left.map (· - 1), selected := state.selected + 1
          pending := form.linesAfter.getD 0, held := [], gap := false, used := true
          taken := line.offset + line.line.length + 1 }
      if form.endsAtFirst || !shown && !form.count then return state
      grepLines printer shown state rest
    else if 0 < state.pending then grepLines printer shown (← printPending) rest
    else grepLines printer shown (state.hold (form.linesBefore.getD 0) line) rest

/-! ## Inputs -/

structure GrepResult where
  found : Bool := false
  failed : Bool := false
  used : Bool := false
  deriving DecidableEq, Repr

abbrev GrepWork := ExceptT Nat Work

structure Search where
  form : GrepForm
  matcher : LineMatcher
  many : Bool
  discarded : Bool
  deriving DecidableEq, Repr

def Search.shownName (search : Search) (name : String) : String :=
  if name = "-" then search.form.label.getD "(standard input)" else name

def Search.fail (search : Search) (result : GrepResult) (name : String) (text : String) :
    Work GrepResult := do
  if !search.form.silent then Work.complain s!"{search.shownName name}: {text}"
  return { result with failed := true }

def isOwnOutput (world : World) (stream : Stream) : Bool :=
  match stream, world.stream? Descriptors.standardOutput with
  | .file input, some (.file output) =>
    match world.openFiles[input]?, world.openFiles[output]? with
    | some input, some output =>
      match world.nodeOf? input with
      | some (.file _ _) => input.home = output.home
      | _ => false
    | _, _ => false
  | _, _ => false

def numberWidth (world : World) (stream : Stream) : Nat :=
  match stream with
  | .file index =>
    match (world.openFiles[index]?).bind world.nodeOf? with
    | some (.file content _) => (toString content.length).length
    | _ => 19
  | _ => 19

def Search.conclude (search : Search) (name : String) (headed : Bool) (selected : Nat) :
    Work Unit := do
  let form := search.form
  let named := form.painted GrepForm.nameColour (search.shownName name)
  let nameEnd := if form.nameEnd.isSome then "\x00" else "\n"
  if search.discarded then return
  match form.show_ with
  | .count =>
    let colon :=
      if form.nameEnd.isSome then "\x00" else form.painted GrepForm.markColour ":"
    let heading := if headed then named ++ colon else ""
    Work.print s!"{heading}{selected}\n"
  | .matching => if 0 < selected then Work.print (named ++ nameEnd)
  | .nonmatching => if selected = 0 then Work.print (named ++ nameEnd)
  | .lines => return

def Search.searchContent (search : Search) (result : GrepResult) (name : String) (headed : Bool)
    (width : Nat) (content : Bytes) : GrepWork (GrepResult × Nat) := do
  let form := search.form
  let lines := form.show_ = .lines && !form.quiet && !search.discarded
  let isBinary := form.lineEnd = 10 && form.binary ≠ .text && content.contains 0
  if isBinary && form.binary = .skip then
    liftM (m := Work) (search.conclude name headed 0)
    return (result, content.length)
  -- In an input that is no text, zeros end lines too.
  let text := if isBinary then content.map fun byte => if byte = 0 then 10 else byte else content
  let printer : GrepPrinter :=
    { form, matcher := search.matcher, width := if form.aligned then width else 0
      name := if headed then some (search.shownName name) else none }
  let start : GrepState := { left := form.limit, used := result.used }
  let state ← liftM (m := Work)
    (grepLines printer (lines && !isBinary) start (numberLines 1 0 (linesOf form.lineEnd text)))
  if form.quiet && 0 < state.selected then throw 0
  liftM (m := Work) (search.conclude name headed state.selected)
  if isBinary && lines && 0 < state.selected then
    liftM (m := Work) do
      Work.complain s!"{search.shownName name}: binary file matches"
  let taken := if state.left = some 0 then min state.taken content.length else content.length
  return ({ result with found := result.found || 0 < state.selected, used := state.used }, taken)

def Search.searchStream (search : Search) (result : GrepResult) (name : String) (headed : Bool)
    (stream : Stream) : GrepWork GrepResult := do
  let form := search.form
  let world ← liftM (m := Work) Work.world
  let lines := form.show_ = .lines && !form.quiet && !search.discarded
  if lines && form.limit.all (1 < ·) && isOwnOutput world stream then
    return ← liftM (m := Work) do
      search.fail result name "input file is also the output"
  match world.readable 0 stream with
  | .error errno =>
    let failed ← liftM (m := Work) (search.fail result name errno.libraryText)
    liftM (m := Work) (search.conclude name headed 0)
    return failed
  | .ok content =>
    let (searched, taken) ←
      search.searchContent result name headed (numberWidth world stream) content
    let count :=
      match stream with
      | .file _ => taken
      | _ => content.length
    liftM (m := Work) (Work.change (·.advance stream count))
    return searched

def Search.searchFile (search : Search) (result : GrepResult) (name : String) (headed : Bool) :
    GrepWork GrepResult := do
  match ← liftM (m := Work) (Work.withInput name fun stream =>
      (search.searchStream result name headed stream).run) with
  | .error failure => liftM (m := Work) (search.fail result name failure.libraryText)
  | .ok (.error status) => throw status
  | .ok (.ok result) => return result

def Search.omits (search : Search) (given : Bool) (path shown : String) (node : Node) : Bool :=
  let form := search.form
  let name := if given then path else ((splitAtEach '/' path.toList).getLast?.elim "" String.ofList)
  match node with
  | .directory =>
    form.directories = .skip || (shown ≠ "" && leftOut form.directoryRules (!given) name)
  | .device _ => !form.devices.getD given || leftOut form.fileRules (!given) name
  | _ => leftOut form.fileRules (!given) name

/-- Searches what is at a path, down to `depth` levels of directories. A directory is read as a file
is, left out, or gone through; `given` says that the path is an operand. -/
def Search.searchPath (search : Search) (given : Bool) :
    Nat → GrepResult → String → String → GrepWork GrepResult
  | 0, result, _, _ => return result
  | depth + 1, result, path, shown => do
    let form := search.form
    let headed (inside : Bool) : Bool := form.names.getD (search.many || inside)
    let world ← liftM (m := Work) Work.world
    let here := world.process.directory
    let aim : WalkAim := if given || form.follow then .target else .entry
    match world.files.locate here aim (nameOf path) with
    | .ok (.node place node) =>
      if search.omits given path shown node then return result
      match form.directories, node with
      | .recurse, .directory =>
        (world.files.names place).foldlM (fun result name => do
          let inner := octets (joinPath (nameOf path) name)
          let innerShown :=
            if shown = "" then octets name else octets (joinPath (nameOf shown) name)
          search.searchPath false depth result inner innerShown) result
      | .recurse, .link _ => return result
      | _, _ => search.searchFile result shown (headed (!given))
    | _ => search.searchFile result shown (headed (!given))

def Search.searchOperand (search : Search) (result : GrepResult) (name : String) :
    GrepWork GrepResult := do
  if name = "-" then search.searchFile result name (search.form.names.getD search.many)
  else
    let levels := (← liftM (m := Work) Work.world).files.entries.length + 2
    search.searchPath true levels result name name

/-! ## The program -/

def grepUsage : Work Unit := do
  let self := (← get).self
  Work.printError s!"Usage: {self} [OPTION]... PATTERNS [FILE]...\n"
  Work.printError s!"Try '{self} --help' for more information.\n"

abbrev GrepReading := ExceptT GrepFault Work

def addGrepOption (state : GrepForm × Bool) (option : String × String) :
    GrepReading (GrepForm × Bool) := do
  let (form, follows) := state
  if isDigitOption option then
    return (form.addDigit (follows && option.2 = sharedDash) option.1, true)
  if option.1 = "u" then
    liftM (m := Work) (Work.complain "warning: --unix-byte-offsets (-u) is obsolete")
  if option.1 = "f" then
    match ← liftM (m := Work) (Work.readAll option.2) with
    | .error failure => throw (.plain s!"{option.2}: {failure.libraryText}")
    | .ok content => return (form.addPatternFile option.2 content, false)
  if option.1 = "exclude-from" then
    match ← liftM (m := Work) (Work.readAll option.2) with
    | .error failure => throw (.plain s!"{option.2}: {failure.libraryText}")
    | .ok content =>
      let lines := (linesOf 10 content).map byteText
      return ({ form with fileRules := addRuleLines form.fileRules lines }, false)
  match form.add option with
  | .ok form => return (form, false)
  | .error fault => throw fault

def readGrep (words : List String) : GrepReading (GrepForm × List String) := do
  let read := readOptions grepForms words
  let (form, _) ← read.options.foldlM addGrepOption (({} : GrepForm), false)
  if let some text := read.fault then throw (.usage (some text) 2)
  if form.patternsGiven then return (form, read.operands)
  match read.operands with
  | [] => throw (.usage none 2)
  | pattern :: operands => return (form.addPatterns pattern, operands)

def isNullStream (world : World) (stream : Stream) : Bool :=
  match stream with
  | .file index => (world.openFiles[index]?).bind world.nodeOf? = some (.device .null)
  | _ => false

def grepInputs (search : Search) (operands : List String) : Work Nat := do
  let found : GrepWork GrepResult := do
    if operands.isEmpty && search.form.directories = .recurse then
      let levels := (← liftM (m := Work) Work.world).files.entries.length + 2
      search.searchPath true levels {} "." ""
    else (inputsOf operands).foldlM search.searchOperand {}
  match ← found.run with
  | .error status => Work.finish status 2
  | .ok result => Work.finish (if result.failed then 2 else if result.found then 0 else 1) 2

def grep : Tool := toolOfWork fun words => do
  match ← (readGrep words).run with
  | .error (.plain text) =>
    Work.complain text
    return 2
  | .error (.usage text status) =>
    if let some text := text then Work.complain text
    grepUsage
    return status
  | .ok (form, operands) =>
    if form.selectsNothing && form.listing ≠ some false then return 1
    let (regexes?, complaints) :=
      readPatterns (form.kind.getD .basic) form.fold form.distinctPatterns
    complaints.forM Work.complain
    match regexes? with
    | none => return 2
    | some regexes =>
      let world ← Work.world
      let matcher : LineMatcher :=
        { regexes, fold := form.fold, wholeWords := form.wholeWords && !form.wholeLines
          wholeLines := form.wholeLines }
      let discarded := (world.stream? Descriptors.standardOutput).any (isNullStream world)
      grepInputs { form, matcher, many := 1 < operands.length, discarded } operands

end Programs

end PipeShell
