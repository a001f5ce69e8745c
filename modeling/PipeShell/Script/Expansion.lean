import PipeShell.Script.Arithmetic
import PipeShell.Script.Paths
import PipeShell.Script.State

/-!
# Expansion of words

A word is expanded into characters, each with what it may still do: be split at, or stand for others
in a pattern. Then it is cut into fields, and these into paths.
-/

namespace PipeShell

namespace Script

inductive Expanded where
  | char (c : Char) (quoted splits : Bool)
  | mark
  | cut
  deriving DecidableEq, Repr

/-- What is done with an expanded word: whether it is cut into fields, whether it stands inside a
reference without quotes, and where a tilde means a directory. -/
structure Purpose where
  fields : Bool := false
  inner : Bool := false
  tildeStart : Bool := false
  tildeColon : Bool := false
  deriving DecidableEq, Repr

namespace Act

def valueChars (quoted : Bool) (value : String) : List Expanded :=
  value.toList.map (.char · quoted !quoted)

def homeOf? (name : String) : Act (Option String) := do
  if name = "" then return (← get).value? "HOME"
  return if name = "root" then some "/root" else none

def tildeName? (purpose : Purpose) (name : List Char) :
    List Piece → Option (String × List Piece)
  | [] => some (String.ofList name.reverse, [])
  | piece :: rest =>
    match piece with
    | .char c false =>
      if c = '/' || purpose.tildeColon && c = ':' then
        some (String.ofList name.reverse, piece :: rest)
      else tildeName? purpose (c :: name) rest
    | .char _ true | .quoteMark => none
    | _ => none

def tilde? (purpose : Purpose) (pieces : List Piece) :
    Act (Option (List Expanded × List Piece)) := do
  match pieces with
  | .char '~' false :: rest =>
    match tildeName? purpose [] rest with
    | none => return none
    | some (name, rest) =>
      match ← homeOf? name with
      | none => return none
      | some home => return some (home.toList.map (.char · true false), rest)
  | _ => return none

/-! ## Parameters -/

inductive Value where
  | text (text : String)
  | list (texts : List String)
  deriving DecidableEq, Repr

def value? (name : String) : Act (Option Value) := do
  let state ← get
  let number (value : Nat) : Option Value := some (.text (toString value))
  match name with
  | "@" | "*" => return some (.list state.parameters)
  | "#" => return number state.parameters.length
  | "?" => return number state.status
  | "$" => return number state.root
  | "!" => return state.lastBackground.bind number
  | "-" => return some (.text state.optionLetters)
  | "0" => return some (.text state.name)
  | name =>
    if name.toList.all Char.isDigit then
      let index := digitsValue 10 name.toList
      return if index = 0 then some (.text state.name)
        else state.parameters[index - 1]?.map .text
    else return (state.value? name).map .text

def joint : Act String := do
  match (← get).value? "IFS" with
  | none => return " "
  | some separators => return String.ofList (separators.toList.take 1)

def Value.length (value : Value) : Nat :=
  match value with
  | .text single => single.length
  | .list texts => (" ".intercalate texts).length

def staysApart (purpose : Purpose) (name : String) (quoted : Bool) : Bool :=
  purpose.fields && (!quoted || name = "@")

def showValue (purpose : Purpose) (name : String) (quoted : Bool) (value : Value) :
    Act (List Expanded) := do
  match value with
  | .text text => return valueChars quoted text
  | .list texts =>
    if staysApart purpose name quoted then
      let shown (text : String) : List Expanded :=
        if quoted then .mark :: valueChars true text else valueChars false text
      return [Expanded.cut].intercalate (texts.map shown)
    else return valueChars quoted ((← joint).intercalate texts)

def plainOf (expanded : List Expanded) : String :=
  String.ofList (expanded.filterMap fun item =>
    match item with
    | .char c _ _ => some c
    | _ => none)

def patternOf (expanded : List Expanded) : List Marked :=
  expanded.filterMap fun item =>
    match item with
    | .char c quoted _ => some (c, quoted)
    | _ => none

def missing {α : Type} (name : String) (nullCounts : Bool) (message : Option String) : Act α := do
  let standard := "parameter not set" ++ if nullCounts then " or null" else ""
  fail s!"{name}: {message.getD standard}"

def arithmetic (text : String) : Act Int := do
  match evaluateArithmetic (← get).value? text with
  | .error (.wrong reason) =>
    fail (String.join ["arithmetic expression: ", reason, ": \"", text, "\""])
  | .error (.badNumber number) => fail s!"Illegal number: {number}"
  | .ok (value, assigned) =>
    assigned.forM fun change => assign change.1 (toString change.2)
    return value

def outputText (bytes : Bytes) : String :=
  let text := (bytes.filter (· ≠ 0)).reverse.dropWhile (· = 10)
  byteText text.reverse

/-! ## Words -/

def isQuotedList : List Piece → Bool
  | .quoteMark :: .parameter "@" .plain _ true _ :: .quoteMark :: _ => true
  | _ => false

def afterChar (purpose : Purpose) (c : Char) : Purpose :=
  { purpose with tildeStart := purpose.tildeColon && c = ':' }

def expandPieces (capture : List Command → Act Bytes) :
    Nat → Purpose → List Expanded → List Piece → Act (List Expanded)
  | 0, _, done, _ => return done.reverse
  | _, _, done, [] => return done.reverse
  | fuel + 1, purpose, done, piece :: rest => do
    let found ← if purpose.tildeStart then tilde? purpose (piece :: rest) else pure none
    let later := { purpose with tildeStart := false }
    if let some (home, after) := found then
      expandPieces capture fuel later (home.reverse ++ done) after
    else if isQuotedList (piece :: rest) && (← get).parameters.isEmpty && purpose.fields then
      expandPieces capture fuel later done (rest.drop 2)
    else
      match piece with
      | .char c quoted =>
        let next := if quoted then later else afterChar purpose c
        expandPieces capture fuel next
          (.char c quoted (purpose.inner && !quoted) :: done) rest
      | .quoteMark => expandPieces capture fuel later (.mark :: done) rest
      | .output commands quoted =>
        let text := outputText (← capture commands)
        expandPieces capture fuel later ((valueChars quoted text).reverse ++ done) rest
      | .arithmetic word quoted =>
        let text := plainOf (← expandPieces capture fuel {} [] word)
        let value ← arithmetic text
        expandPieces capture fuel later
          ((valueChars quoted (toString value)).reverse ++ done) rest
      | .parameter name form nullCounts quoted word =>
        let shown ← expandParameter fuel later name form nullCounts quoted word
        expandPieces capture fuel later (shown.reverse ++ done) rest
where
  /-- The expansion of a reference to a parameter. -/
  expandParameter : Nat → Purpose → String → ParameterForm → Bool → Bool → Word →
      Act (List Expanded)
    | 0, _, _, _, _, _, _ => return []
    | fuel + 1, purpose, name, form, nullCounts, quoted, word => do
      if form = .bad then fail "Bad substitution"
      let value ← value? name
      let value := value.filter fun value => !(nullCounts && value.length = 0)
      let inner : Purpose :=
        { purpose with inner := !quoted, tildeStart := !quoted, tildeColon := false }
      let shown : Act (List Expanded) := do
        match value with
        | some value => showValue purpose name quoted value
        | none => return []
      let required : Act Unit := do
        if value.isNone && (← isOn "nounset") then missing name false none
      match form with
      | .plain =>
        required
        shown
      | .length =>
        required
        return valueChars quoted (toString ((value.map Value.length).getD 0))
      | .orElse => if value.isSome then shown else expandPieces capture fuel inner [] word
      | .ifSet => if value.isSome then expandPieces capture fuel inner [] word else return []
      | .orFail =>
        if value.isSome then shown
        else
          let message ← expandPieces capture fuel { tildeStart := true } [] word
          missing name nullCounts (if word.isEmpty then none else some (plainOf message))
      | .orAssign =>
        if value.isSome then shown
        else
          let text ← expandPieces capture fuel { tildeStart := true } [] word
          assign name (plainOf text)
          showValue purpose name quoted (.text (plainOf text))
      | .trimStart longest =>
        required
        trimmed fuel purpose name quoted value word trimStarts trimStart longest
      | .trimEnd longest =>
        required
        trimmed fuel purpose name quoted value word trimEnds trimEnd longest
      | .bad => return []
  /-- A value without what the pattern in the word stands for. Without a value the word is not
  looked at. Parameters that stay apart are trimmed together. -/
  trimmed : Nat → Purpose → String → Bool → Option Value → Word →
      (Bool → List Marked → List (List Char) → List (List Char)) →
      (Bool → List Marked → List Char → List Char) → Bool → Act (List Expanded)
    | 0, _, _, _, _, _, _, _, _ => return []
    | fuel + 1, purpose, name, quoted, value, word, trimList, trim, longest => do
      match value with
      | none => return []
      | some value =>
        let pattern ← expandPieces capture fuel { tildeStart := true } [] word
        let pattern := patternOf pattern
        match value with
        | .text text =>
          showValue purpose name quoted (.text (String.ofList (trim longest pattern text.toList)))
        | .list texts =>
          if staysApart purpose name quoted then
            let trimmed := trimList longest pattern (texts.map String.toList)
            showValue purpose name quoted (.list (trimmed.map String.ofList))
          else
            let text := ((← joint).intercalate texts).toList
            showValue purpose name quoted (.text (String.ofList (trim longest pattern text)))

/-! ## Fields -/

structure Splitting where
  fields : List (List Marked) := []
  current : Option (List Marked) := none
  afterBlank : Bool := false

def Splitting.finish (splitting : Splitting) : Splitting :=
  match splitting.current with
  | none => splitting
  | some field =>
    { splitting with fields := field.reverse :: splitting.fields, current := none }

def Splitting.step (separators : List Char) (splitting : Splitting) :
    Expanded → Splitting
  -- Separators that are blanks end a field together with any others around them; each other one
  -- ends a field of its own.
  | .mark => { splitting with current := some (splitting.current.getD []) }
  | .cut => { splitting.finish with afterBlank := false }
  | .char c quoted splits =>
    if splits && separators.contains c then
      if c = ' ' || c = '\t' || c = '\n' then
        if splitting.current.isSome then { splitting.finish with afterBlank := true }
        else splitting
      else if splitting.current.isSome then { splitting.finish with afterBlank := false }
      else if splitting.afterBlank then { splitting with afterBlank := false }
      else { splitting with fields := [] :: splitting.fields }
    else
      { splitting with
        current := some ((c, quoted) :: splitting.current.getD []), afterBlank := false }

def standardSeparators : String := " \t\n"

def fieldsOf (separators : String) (expanded : List Expanded) : List (List Marked) :=
  (expanded.foldl (Splitting.step separators.toList) {}).finish.fields.reverse

/-! ## Uses -/

variable (capture : List Command → Act Bytes)

/-- How deep references can stand in words of references, and how long a word can be. -/
def wordFuel (word : Word) : Nat := word.length + 1000000

def expandFields (word : Word) : Act (List String) := do
  let expanded ← expandPieces capture (wordFuel word) { fields := true, tildeStart := true } [] word
  let separators := ((← get).value? "IFS").getD standardSeparators
  let fields := fieldsOf separators expanded
  if ← isOn "noglob" then return fields.map fun field => String.ofList (plainText field)
  let world ← world
  return fields.flatMap (pathsOf world)

def expandText (word : Word) : Act String := do
  return plainOf (← expandPieces capture (wordFuel word) { tildeStart := true } [] word)

def expandAssignment (word : Word) : Act String := do
  return plainOf (← expandPieces capture (wordFuel word) { tildeStart := true, tildeColon := true }
    [] word)

def expandDocument (word : Word) : Act String := do
  return plainOf (← expandPieces capture (wordFuel word) {} [] word)

def expandPattern (word : Word) : Act (List Marked) := do
  return patternOf (← expandPieces capture (wordFuel word) { tildeStart := true } [] word)

end Act

end Script

end PipeShell
