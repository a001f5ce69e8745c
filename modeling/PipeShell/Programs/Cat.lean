import PipeShell.Programs.Call

/-!
# Printing files

`cat` prints its inputs one after the other. It can number lines, squeeze empty ones and make marks
of what is not seen; what it knows of the line it is in goes on from one input to the next.
-/

namespace PipeShell

namespace Programs

structure CatForm where
  numbered : Bool := false
  nonblankOnly : Bool := false
  squeeze : Bool := false
  ends : Bool := false
  tabs : Bool := false
  visible : Bool := false
  deriving DecidableEq, Repr

namespace CatForm

def isPlain (form : CatForm) : Bool := form = {}

def add (form : CatForm) : String → CatForm
  | "b" => { form with numbered := true, nonblankOnly := true }
  | "e" => { form with ends := true, visible := true }
  | "n" => { form with numbered := true }
  | "s" => { form with squeeze := true }
  | "t" => { form with tabs := true, visible := true }
  | "v" => { form with visible := true }
  | "A" => { form with ends := true, tabs := true, visible := true }
  | "E" => { form with ends := true }
  | "T" => { form with tabs := true }
  | _ => form

end CatForm

/-- Where in the lines the output is: how many lines were numbered, how many line ends in a row came
last (none inside a line), and whether a carriage return waits for what follows it. -/
structure CatState where
  numbers : Nat := 0
  inLine : Bool := false
  blanks : Nat := 0
  heldReturn : Bool := false
  deriving DecidableEq, Repr

def padLeft (width : Nat) (text : String) : String :=
  String.ofList (List.replicate (width - text.length) ' ') ++ text

def lineNumber (number : Nat) : List Char :=
  (padLeft 6 (toString number)).toList ++ ['\t']

def CatState.number (state : CatState) : CatState × List Char :=
  ({ state with numbers := state.numbers + 1 }, lineNumber (state.numbers + 1))

def visibleLow (code : Nat) : List Char :=
  if code < 32 then ['^', Char.ofNat (code + 64)]
  else if code = 127 then ['^', '?']
  else [Char.ofNat code]

def visibleByte (code : Nat) : List Char :=
  if code < 128 then visibleLow code else ['M', '-'] ++ visibleLow (code - 128)

def shownChar (form : CatForm) (c : Char) : List Char :=
  if c = '\t' then (if form.tabs then ['^', 'I'] else [c])
  else if form.visible then visibleByte c.toNat
  else [c]

def catNewline (form : CatForm) (state : CatState) : CatState × List Char :=
  let blanks := if state.inLine then 0 else state.blanks + 1
  if form.squeeze && 2 ≤ blanks then ({ state with blanks := 2, inLine := false }, [])
  else
    let (state, number) :=
      if 0 < blanks && form.numbered && !form.nonblankOnly then state.number else (state, [])
    let mark :=
      if form.ends then (if state.heldReturn then ['^', 'M', '$'] else ['$'])
      else if state.heldReturn then ['\r'] else []
    ({ state with blanks, inLine := false, heldReturn := false }, number ++ mark ++ ['\n'])

def catChar (form : CatForm) (state : CatState) (c : Char) : CatState × List Char :=
  let returned := if state.heldReturn then ['\r'] else []
  let (state, number) :=
    if !state.inLine && form.numbered then state.number else (state, [])
  let state := { state with inLine := true, blanks := 0, heldReturn := false }
  if c = '\r' && form.ends && !form.visible then
    ({ state with heldReturn := true }, returned ++ number)
  else (state, returned ++ number ++ shownChar form c)

def catStep (form : CatForm) (state : CatState) (c : Char) : CatState × List Char :=
  if c = '\n' then catNewline form state else catChar form state c

def catPieces (form : CatForm) (state : CatState) (content : Bytes) :
    CatState × List (List Char) :=
  content.foldl (fun (state, pieces) byte =>
    let (state, piece) := catStep form state (Char.ofNat byte.toNat)
    (state, piece :: pieces)) (state, [])

def catForms : List OptionForm :=
  [flag 'b' "number-nonblank", flag 'n' "number", flag 's' "squeeze-blank",
    flag 'v' "show-nonprinting", flag 'E' "show-ends", flag 'T' "show-tabs", flag 'A' "show-all",
    flag 'e' "", flag 't' "", flag 'u' ""]

def readsOwnOutput (world : World) (stream : Stream) : Bool :=
  match stream, world.stream? Descriptors.standardOutput with
  | .file input, some (.file output) =>
    match world.openFiles[input]?, world.openFiles[output]? with
    | some input, some output =>
      match world.nodeOf? input with
      | some (.file content _) => input.home = output.home && input.position < content.length
      | _ => false
    | _, _ => false
  | _, _ => false

inductive CatResult where
  | printed
  | refused (text : String)
  | stopped
  deriving DecidableEq, Repr

def catStream (form : CatForm) (state : CatState) (name : String) (stream : Stream) :
    Work (CatState × CatResult) := do
  if readsOwnOutput (← Work.world) stream then
    return (state, .refused s!"{shownName name}: input file is output file")
  match ← Work.drain stream with
  | .error failure => return (state, .refused s!"{shownName name}: {failure.libraryText}")
  | .ok content =>
    let (state, pieces) :=
      if form.isPlain then (state, []) else catPieces form state content
    if form.isPlain then Work.printBytes content
    else Work.print (String.ofList pieces.reverse.flatten)
    Work.flush
    return (state, if (← get).broken.isSome then .stopped else .printed)

def catAll (form : CatForm) (state : CatState) (status : Nat) : List String → Work Nat
  | [] => do
    if state.heldReturn then Work.print "\r"
    Work.finish status 1
  | name :: rest => do
    match ← Work.withInput name (catStream form state name) with
    | .error failure =>
      Work.complain s!"{shownName name}: {failure.libraryText}"
      catAll form state 1 rest
    | .ok (state, .refused text) =>
      Work.complain text
      catAll form state 1 rest
    | .ok (_, .stopped) => Work.finish 1 1
    | .ok (state, .printed) => catAll form state status rest

def cat : Tool := toolOfWork fun words => do
  let read := readOptions catForms words
  match read.fault with
  | some text =>
    Work.misused text
    return 1
  | none =>
    if ((← Work.world).stream? Descriptors.standardOutput).isNone then
      Work.complain s!"standard output: {Errno.EBADF.libraryText}"
      return 1
    let form := read.options.foldl (fun form option => form.add option.1) {}
    let inputs := inputsOf read.operands
    let status ← catAll form {} 0 inputs
    if inputs.contains "-" && ((← Work.world).stream? Descriptors.standardInput).isNone then
      Work.complain s!"closing standard input: {Errno.EBADF.libraryText}"
      return 1
    return status

end Programs

end PipeShell
