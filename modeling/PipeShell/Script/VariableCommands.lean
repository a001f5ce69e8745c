import PipeShell.Script.Options

/-!
# Commands on variables and parameters

Listing, marking and unsetting variables, the options and parameters of a script, and reading lines
into variables.
-/

namespace PipeShell

namespace Script

def singleQuoted : Nat → List Char → List Char
  | 0, _ => []
  | fuel + 1, text =>
    let plain := text.takeWhile (· ≠ '\'')
    let rest := text.drop plain.length
    let quotes := rest.takeWhile (· = '\'')
    let after := rest.drop quotes.length
    '\'' :: plain ++ '\'' ::
      (if quotes.isEmpty then [] else '"' :: quotes ++ ['"']) ++
        if after.isEmpty then [] else singleQuoted fuel after

def inSingleQuotes (text : String) : String :=
  String.ofList (singleQuoted (text.length + 1) text.toList)

namespace VariableCommands

def list (before : String) (chosen : Variable → Bool) : Act Unit := do
  let shown := ((← get).bindings.filter chosen).mergeSort fun left right =>
    left.name ≤ right.name
  shown.forM fun entry =>
    let value := (entry.value.map fun value => "=" ++ inSingleQuotes value).getD ""
    Act.print s!"{before}{entry.name}{value}\n"

def splitAssignment (word : String) : String × Option String :=
  let chars := word.toList
  let name := chars.takeWhile (· ≠ '=')
  (String.ofList name,
    if name.length < chars.length then some (String.ofList (chars.drop (name.length + 1)))
    else none)

def requireName (name : String) : Act Unit := do
  if !isValidName name.toList then Act.fail s!"{name}: bad variable name"

def mark (change : Variable → Variable) (word : String) : Act Unit := do
  let (name, value) := splitAssignment word
  match value, (← get).known? name with
  | none, some entry => modify fun state => state.putVariable (change entry)
  | none, none =>
    requireName name
    modify fun state => state.putVariable (change { name })
  | some value, _ =>
    Act.assign name value
    modify fun state =>
      match state.known? name with
      | some entry => state.putVariable (change entry)
      | none => state

def marking (word : String) (isMarked : Variable → Bool) (change : Variable → Variable) :
    Builtin := fun words => do
  let (lists, names) ←
    match words with
    | "--" :: rest => pure (false, rest)
    | first :: rest =>
      match first.toList with
      | '-' :: c :: _ =>
        if c = 'p' then pure (true, rest) else Act.fail s!"Illegal option -{c}"
      | _ => pure (false, first :: rest)
    | [] => pure (false, [])
  if lists || names.isEmpty then list (word ++ " ") isMarked
  else names.forM (mark change)
  return 0

def export_ : Builtin := marking "export" (·.exported) fun entry => { entry with exported := true }

def readonly : Builtin :=
  marking "readonly" (·.readonly) fun entry => { entry with readonly := true }

def keep (saved : Saved) : Act Unit :=
  modify fun state => { state with locals := state.locals.map (saved :: ·) }

def makeLocal (exported : Bool) (word : String) : Act Unit := do
  if word = "-" then keep (.options (← get).options)
  else
    let (name, value) := splitAssignment word
    let before := (← get).known? name
    requireName name
    keep (.entry name before)
    match value, before with
    | none, some _ => return
    | value, _ => Act.setVariable name value exported

def local_ : Builtin := fun words => do
  if (← get).locals.isNone then Act.fail "not in a function"
  words.forM (makeLocal false)
  return 0

def giveBack (saved : List Saved) : Act Unit :=
  saved.forM fun item =>
    match item with
    | .options options => modify fun state => { state with options }
    | .entry name (some entry) => do
      modify fun state => state.putVariable { entry with name }
      if name = "PATH" then Act.noteChange name
    | .entry name none => do
      modify fun state => state.removeVariable name
      if name = "PATH" then Act.noteChange name

def unset : Builtin := fun words => do
  let (options, names) ← readOptions "vf" "" words
  if options.getLast?.map (·.1) = some 'f' then
    modify fun state =>
      { state with functions := state.functions.filter fun entry => !names.contains entry.1 }
  else names.forM Act.unsetVariable
  return 0

/-! ## Options and parameters -/

def setParameters (parameters : List String) : Act Unit :=
  modify fun state => { state with parameters, optionIndex := 1, optionOffset := none }

def setOption (name : String) (value : Bool) : Act Unit := do
  if name = "monitor" && value then Act.warn "can't access tty; job control turned off"
  else
    modify fun state => { state with options := withOption state.options name value }
    if value && name = "vi" then
      modify fun state => { state with options := withOption state.options "emacs" false }
    if value && name = "emacs" then
      modify fun state => { state with options := withOption state.options "vi" false }

def setLetter (letter : Char) (value : Bool) : Act Unit := do
  match optionNames.find? (·.2 = some letter) with
  | some (name, _) => setOption name value
  | none => Act.fail s!"Illegal option -{letter}"

def setNamed (name : String) (value : Bool) : Act Unit := do
  if optionNames.any (·.1 = name) then setOption name value
  else Act.fail s!"Illegal option -o {name}"

def listOptions (value : Bool) : Act Unit := do
  let options := (← get).options
  if value then
    Act.print "Current option settings\n"
    optionNames.forM fun option =>
      let gap := String.ofList (List.replicate (16 - option.1.length) ' ')
      let shown := if options.contains option.1 then "on" else "off"
      Act.print s!"{option.1}{gap}{shown}\n"
  else
    optionNames.forM fun option =>
      let sign := if options.contains option.1 then "-" else "+"
      Act.print s!"set {sign}o {option.1}\n"

def setLetters (value : Bool) : List Char → List String → Act (List String)
  | [], words => return words
  | 'o' :: letters, words => do
    match words with
    | [] =>
      listOptions value
      setLetters value letters []
    | name :: rest =>
      setNamed name value
      setLetters value letters rest
  | letter :: letters, words => do
    setLetter letter value
    setLetters value letters words

def setOptions : Nat → List String → Act (Option (List String))
  | 0, _ => return none
  | _, [] => return none
  | fuel + 1, word :: rest => do
    match word.toList with
    | ['-'] =>
      setOption "xtrace" false
      setOption "verbose" false
      return if rest.isEmpty then none else some rest
    | ['-', '-'] => return some rest
    | '-' :: letters => setOptions fuel (← setLetters true letters rest)
    | '+' :: letters => setOptions fuel (← setLetters false letters rest)
    | _ => return some (word :: rest)

def set_ : Builtin := fun words => do
  if words.isEmpty then list "" (·.value.isSome)
  else if let some parameters ← setOptions (words.length + 1) words then
    setParameters parameters
  return 0

def shift : Builtin := fun words => do
  let count ← (words.head?.map numberOf).getD (pure 1)
  let parameters := (← get).parameters
  if parameters.length < count then Act.fail "can't shift that many"
  setParameters (parameters.drop count)
  return 0

/-! ## Options of a script -/

structure OptionFound where
  letter : Char := '?'
  argument : Option String := none
  message : Option String := none
  index : Nat
  offset : Option Nat := none
  ended : Bool := false
  deriving DecidableEq, Repr

def optionSort (letter : Char) : List Char → Option Bool
  | [] => none
  | c :: rest =>
    let valued := rest.head? = some ':'
    if c = letter then some valued
    else
      match rest with
      | ':' :: rest => optionSort letter rest
      | rest => optionSort letter rest

/-- Reads the next option of the arguments. `text` is what is left of the current argument, and
`index` the number of the one after it. -/
def nextOption (letters : String) (arguments : List String) (index : Nat) (text : List Char) :
    OptionFound :=
  let silent := letters.toList.head? = some ':'
  match text with
  | [] => { index, ended := true }
  | c :: rest =>
    let offset (rest : List Char) : Option Nat :=
      (arguments[index - 2]?).map fun argument => argument.length - rest.length
    let refused (text : String) : OptionFound :=
      { index, offset := offset rest
        argument := if silent then some (String.singleton c) else none
        message := if silent then none else some text }
    match optionSort c letters.toList with
    | none => refused s!"Illegal option -{c}"
    | some false => { letter := c, argument := some "", index, offset := offset rest }
    | some true =>
      if !rest.isEmpty then { letter := c, argument := some (String.ofList rest), index }
      else
        match arguments[index - 1]? with
        | some argument => { letter := c, argument, index := index + 1 }
        | none =>
          { refused s!"No arg for -{c} option" with
            letter := if silent then ':' else '?', offset := none }

def optionText (arguments : List String) (index : Nat) (offset : Option Nat) : Nat × List Char :=
  let current :=
    match offset with
    | some offset => if index ≤ 1 then [] else ((arguments[index - 2]?).getD "").toList.drop offset
    | none => []
  if !current.isEmpty then (index, current)
  else
    match (arguments[index - 1]?).map String.toList with
    | some ['-', '-'] => (index + 1, [])
    | some ('-' :: c :: rest) => (index + 1, c :: rest)
    | _ => (index, [])

def getopts : Builtin := fun words => do
  match ← operandsOf words with
  | letters :: name :: given =>
    let state ← get
    let arguments := if given.isEmpty then state.parameters else given
    let restart := arguments.length + 1 < state.optionIndex
    let index := if restart then 1 else state.optionIndex
    let offset := if restart then none else state.optionOffset
    let (index, text) := optionText arguments index offset
    let found := nextOption letters arguments index text
    if !found.ended then
      if let some message := found.message then Act.printError (message ++ "\n")
      match found.argument with
      | some argument => Act.assign "OPTARG" argument
      | none => Act.unsetVariable "OPTARG"
    Act.assign "OPTIND" (toString found.index)
    Act.assign name (String.singleton found.letter)
    modify fun state =>
      { state with optionIndex := found.index, optionOffset := found.offset }
    return if found.ended then 1 else 0
  | _ => Act.fail "Usage: getopts optstring var [arg...]"

/-! ## Reading lines -/

def readLine (raw : Bool) (line : List (Char × Bool)) (count : Nat) :
    Bytes → List (Char × Bool) × Nat × Bool
  | [] => (line.reverse, count, false)
  | 10 :: _ => (line.reverse, count + 1, true)
  | byte :: rest =>
    if byte = 92 && !raw then
      match rest with
      | [] => (line.reverse, count + 1, false)
      | next :: rest =>
        if next = 10 then readLine raw line (count + 2) rest
        else readLine raw ((Char.ofNat next.toNat, true) :: line) (count + 2) rest
    else if byte = 0 then readLine raw line (count + 1) rest
    else readLine raw ((Char.ofNat byte.toNat, false) :: line) (count + 1) rest

/-- The fields found so far and the one begun, both last first; how many more can begin, whether the
last separator was a blank, and from where on the last field is to be cut. -/
structure Fields where
  found : List (List Char) := []
  current : List Char := []
  wanted : Nat
  afterBlank : Bool := false
  cut : Option Nat := none

def Fields.step (separators : List Char) (fields : Fields) (item : Char × Bool) : Fields :=
  -- Separators in the last field are kept, but for one that ends it and for
  -- blanks at its end.
  let (c, escaped) := item
  let longer := c :: fields.current
  let separates := separators.contains c
  let isBlank := separates && (c = ' ' || c = '\t' || c = '\n')
  if escaped then { fields with current := longer, afterBlank := false }
  else if fields.wanted = 0 then
    if isBlank then
      { fields with current := longer, cut := fields.cut.or (some fields.current.length) }
    else
      { fields with
        current := longer, afterBlank := false
        cut := if separates && fields.afterBlank then fields.cut else none }
  else if fields.afterBlank then
    { fields with current := if separates then [] else [c], afterBlank := isBlank }
  else if !separates then { fields with current := longer }
  else if fields.current.isEmpty && isBlank then fields
  else if fields.wanted = 1 then
    { fields with
      current := longer, wanted := 0, afterBlank := isBlank, cut := some fields.current.length }
  else
    { fields with
      found := fields.current :: fields.found, current := [], wanted := fields.wanted - 1
      afterBlank := isBlank }

def fieldsOfLine (separators : List Char) (wanted : Nat) (line : List (Char × Bool)) :
    List String :=
  let fields := line.foldl (Fields.step separators) { wanted }
  let last := fields.current.reverse
  let last := (fields.cut.map last.take).getD last
  let found := fields.found.map List.reverse
  ((if last.isEmpty then found else last :: found).reverse).map String.ofList

def assignFields : List String → List String → Act Unit
  | [], _ => return
  | name :: names, fields => do
    Act.assign name (fields.headD "")
    assignFields names (fields.drop 1)

def read : Builtin := fun words => do
  let (options, names) ← readOptions "pr" "p" words
  if names.isEmpty then Act.fail "arg count"
  let world ← Act.world
  let stream? := world.stream? Descriptors.standardInput
  let content :=
    match stream?.map (world.readable 0) with
    | some (.ok content) => content
    | _ => []
  let (line, count, ended) := readLine (options.any (·.1 = 'r')) [] 0 content
  if let some stream := stream? then Act.changeWorld (·.advance stream count)
  let separators := (((← get).value? "IFS").getD " \t\n").toList
  assignFields names (fieldsOfLine separators names.length line)
  return if ended then 0 else 1

end VariableCommands

end Script

end PipeShell
