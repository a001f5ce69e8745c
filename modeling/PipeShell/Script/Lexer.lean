import PipeShell.Environment
import PipeShell.Script.Syntax

/-!
# Reading words and tokens of scripts

The text is read character by character. A backslash at the end of a line joins it with the next
one, and what stands between quotes, braces or parentheses belongs to one word.
-/

namespace PipeShell

namespace Script

structure SyntaxFault where
  line : Nat
  message : String
  deriving DecidableEq, Repr

structure Announced where
  number : Nat
  delimiter : String
  quoted : Bool
  stripTabs : Bool
  deriving DecidableEq, Repr

structure Looking where
  skipLines : Bool := false
  keywords : Bool := false
  aliases : Bool := false
  deriving DecidableEq, Repr

/-- A script being read. The last token can be taken back (`again`); `documents` are the texts of
the here-documents read so far, by number. Nothing takes more than `limit` steps to read. -/
structure Reading where
  rest : List Char
  limit : Nat
  line : Nat := 1
  again : Bool := false
  token : Token := .newline
  word : Word := []
  isQuoted : Bool := false
  redirect : Redirect := default
  redirectMark : Option Bool := none
  announced : List Announced := []
  documents : List (Nat × Word) := []
  nextDocument : Nat := 0
  aliases : List (String × String) := []
  aliasesInUse : List (String × Nat) := []

def Reading.ofText (text : List Char) : Reading :=
  { rest := text, limit := 4 * text.length + 64 }

abbrev Reader := StateT Reading (Except SyntaxFault)

namespace Reader

def fail {α : Type} (message : String) : Reader α := do
  throw ⟨(← get).line, message⟩

/-! ## Characters -/

def skipJoints (joints : Nat) : List Char → List Char × Nat
  | '\\' :: '\n' :: rest => skipJoints (joints + 1) rest
  | text => (text, joints)

def rawChar? : Reader (Option Char) := do
  match (← get).rest with
  | [] => return none
  | c :: rest =>
    modify fun reading => { reading with rest }
    return some c

def char? : Reader (Option Char) := do
  modify fun reading =>
    let (rest, joints) := skipJoints 0 reading.rest
    { reading with rest, line := reading.line + joints }
  rawChar?

def unread (c : Option Char) : Reader Unit :=
  modify fun reading => { reading with rest := c.toList ++ reading.rest }

def countLine : Reader Unit := modify fun reading => { reading with line := reading.line + 1 }

def takeIf (wanted : Char) : Reader Bool := do
  let c ← char?
  if c = some wanted then return true
  unread c
  return false

/-! ## Words -/

inductive Surround where
  | word
  | doubleQuotes
  | brace (double : Bool)
  | parentheses
  | document
  deriving DecidableEq, Repr

namespace Surround

def isDouble : Surround → Bool
  | .word => false
  | .doubleQuotes | .parentheses | .document => true
  | .brace double => double

end Surround

def endsWord (c : Char) : Bool := "\n \t;&|<>()".toList.contains c

def isSpecialParameter (c : Char) : Bool := "!#$*-?@".toList.contains c || c.isDigit

def singleQuoted (text : List Char) : List Char → Reader (List Char)
  | [] => do
    modify fun reading => { reading with rest := [] }
    fail "Unterminated quoted string"
  | c :: rest => do
    if c = '\n' then countLine
    if c = '\'' then
      modify fun reading => { reading with rest }
      return text.reverse
    singleQuoted (c :: text) rest

def nameChars : Nat → List Char → Reader (List Char)
  | 0, name => return name.reverse
  | fuel + 1, name => do
    match ← char? with
    | some c =>
      if isNameChar c then nameChars fuel (c :: name)
      else
        unread (some c)
        return name.reverse
    | none => return name.reverse

def digitChars : Nat → List Char → Reader (List Char)
  | 0, digits => return digits.reverse
  | fuel + 1, digits => do
    match ← char? with
    | some c =>
      if c.isDigit then digitChars fuel (c :: digits)
      else
        unread (some c)
        return digits.reverse
    | none => return digits.reverse

def parameterForm : Reader (ParameterForm × Bool) := do
  let first ← char?
  let nullCounts := first = some ':'
  let sign ← if nullCounts then char? else pure first
  let form? : Option ParameterForm :=
    match sign with
    | some '}' => some .plain
    | some '-' => some .orElse
    | some '+' => some .ifSet
    | some '?' => some .orFail
    | some '=' => some .orAssign
    | _ => none
  match form?, sign with
  | some .plain, _ => return (if nullCounts then .bad else .plain, false)
  | some form, _ => return (form, nullCounts)
  | none, some '#' =>
    if nullCounts then return (.bad, false)
    return (.trimStart (← takeIf '#'), false)
  | none, some '%' =>
    if nullCounts then return (.bad, false)
    return (.trimEnd (← takeIf '%'), false)
  | none, _ => return (.bad, false)

/-- The name of a parameter in braces and what is done with it. The text goes on with the word that
belongs to it, up to the closing brace, unless the parameter is taken as it is. -/
def bracedParameter (fuel : Nat) : Reader (String × ParameterForm × Bool) := do
  let withForm (name : String) : Reader (String × ParameterForm × Bool) := do
    let (form, nullCounts) ← parameterForm
    return (name, form, nullCounts)
  let measured (name : String) : Reader (String × ParameterForm × Bool) := do
    if ← takeIf '}' then return (name, .length, false) else return (name, .bad, false)
  match ← char? with
  | some '#' =>
    match ← char? with
    | some c =>
      if isNameStart c then measured (String.ofList (← nameChars fuel [c]))
      else if c.isDigit then measured (String.ofList (← digitChars fuel [c]))
      else
        let after ← char?
        unread after
        if c ≠ '}' && after = some '}' then
          if isSpecialParameter c then measured (String.singleton c)
          else return ("", .bad, false)
        else
          unread (some c)
          withForm "#"
    | none => withForm "#"
  | some c =>
    if isNameStart c then withForm (String.ofList (← nameChars fuel [c]))
    else if c.isDigit then withForm (String.ofList (← digitChars fuel [c]))
    else if isSpecialParameter c then withForm (String.singleton c)
    else
      if c = '}' then unread (some c)
      return ("", .bad, false)
  | none => return ("", .bad, false)

def backquoted (double : Bool) : Nat → List Char → Reader (List Char)
  | 0, text => return text.reverse
  | fuel + 1, text => do
    match ← char? with
    | none => fail "EOF in backquote substitution"
    | some '\x60' => return text.reverse
    | some '\\' =>
      match ← rawChar? with
      | none => fail "EOF in backquote substitution"
      | some c =>
        if c = '\n' then countLine
        if c = '\\' || c = '\x60' || c = '$' || double && c = '"' then
          backquoted double fuel (c :: text)
        else backquoted double fuel (c :: '\\' :: text)
    | some c =>
      if c = '\n' then countLine
      backquoted double fuel (c :: text)

/-- How far the reading of a text is: the pieces so far (last first), whether quotes are open inside
braces that are quoted themselves, open parentheses, and whether anything was quoted. -/
structure Gathering where
  pieces : List Piece := []
  innerQuotes : Bool := false
  depth : Nat := 0
  quoted : Bool := false

def Gathering.add (gathering : Gathering) (piece : Piece) : Gathering :=
  { gathering with pieces := piece :: gathering.pieces }

def Gathering.quote (gathering : Gathering) : Gathering :=
  { gathering with quoted := true, pieces := .quoteMark :: gathering.pieces }

def unfinished (surround : Surround) (inBrace : Bool) : Option String :=
  match surround with
  | .word => if inBrace then some "Missing '\x7d'" else none
  | .document => none
  | .doubleQuotes => some "Unterminated quoted string"
  | .brace double => some (if double then "Unterminated quoted string" else "Missing '\x7d'")
  | .parentheses => some "Missing '))'"

structure Substitution where
  inParentheses : Reader (List Command)
  ofText : List Char → Reader (List Command)

def gather (substitution : Substitution) (marksOnly : Bool) :
    Nat → Surround → Gathering → Reader Gathering
  | 0, _, gathering => return gathering
  | fuel + 1, surround, gathering => do
    let again := gather substitution marksOnly fuel surround
    let double := surround.isDouble
    let add (c : Char) (quoted : Bool) : Reader Gathering := again (gathering.add (.char c quoted))
    match ← char? with
    | none =>
      match unfinished surround false with
      | some message => fail message
      | none => return gathering
    | some '\n' =>
      if surround = .word then
        unread (some '\n')
        return gathering
      countLine
      add '\n' double
    | some '\\' =>
      match ← rawChar? with
      | none => add '\\' true
      | some c =>
        let inBrace :=
          match surround with
          | .brace _ => true
          | _ => false
        let kept :=
          double && c ≠ '\\' && c ≠ '\x60' && c ≠ '$' && (c ≠ '"' || surround = .document) &&
            (c ≠ '\x7d' || !inBrace)
        let gathering := { gathering with quoted := true }
        again ((if kept then gathering.add (.char '\\' true) else gathering).add (.char c true))
    | some '\'' =>
      if double then add '\'' (surround ≠ .parentheses)
      else
        let text ← singleQuoted [] (← get).rest
        let quoted := text.foldl (fun gathering c => gathering.add (.char c true)) gathering.quote
        again quoted.quote
    | some '"' =>
      match surround with
      | .doubleQuotes => return gathering
      | .word | .brace false =>
        let inner ← gather substitution marksOnly fuel .doubleQuotes {}
        again { gathering with
          quoted := true
          pieces := .quoteMark :: (inner.pieces ++ .quoteMark :: gathering.pieces) }
      | .brace true =>
        again { gathering with
          quoted := true, innerQuotes := !gathering.innerQuotes
          pieces := .quoteMark :: gathering.pieces }
      | .parentheses | .document => add '"' true
    | some '\x60' =>
      if marksOnly then add '\x60' double
      else
        let text ← backquoted double (fuel + 1) []
        let commands ← substitution.ofText text
        again (gathering.add (.output commands double))
    | some '$' =>
      if marksOnly then add '$' double
      else
        match ← char? with
        | some '(' =>
          if ← takeIf '(' then
            let inner ← gather substitution marksOnly fuel .parentheses {}
            again (gathering.add (.arithmetic inner.pieces.reverse double))
          else
            let commands ← substitution.inParentheses
            again (gathering.add (.output commands double))
        | some '\x7b' =>
          let (name, form, nullCounts) ← bracedParameter fuel
          let reference (word : Word) : Piece := .parameter name form nullCounts double word
          match form with
          | .plain | .length => again (gathering.add (reference []))
          | .trimStart _ | .trimEnd _ =>
            let inner ← gather substitution marksOnly fuel (.brace false) {}
            again { gathering.add (reference inner.pieces.reverse) with
              quoted := gathering.quoted || inner.quoted }
          | _ =>
            let inner ← gather substitution marksOnly fuel (.brace double) {}
            again { gathering.add (reference inner.pieces.reverse) with
              quoted := gathering.quoted || inner.quoted }
        | some c =>
          if isNameStart c then
            let name ← nameChars fuel [c]
            again (gathering.add (.parameter (String.ofList name) .plain false double []))
          else if isSpecialParameter c then
            again (gathering.add (.parameter (String.singleton c) .plain false double []))
          else
            unread (some c)
            add '$' double
        | none => add '$' double
    | some '\x7d' =>
      match surround with
      | .brace _ =>
        if gathering.innerQuotes then add '\x7d' double else return gathering
      | _ => add '\x7d' double
    | some '(' =>
      match surround with
      | .word =>
        unread (some '(')
        return gathering
      | .parentheses =>
        again { gathering.add (.char '(' true) with depth := gathering.depth + 1 }
      | _ => add '(' double
    | some ')' =>
      match surround with
      | .word =>
        unread (some ')')
        return gathering
      | .parentheses =>
        if 0 < gathering.depth then
          again { gathering.add (.char ')' true) with depth := gathering.depth - 1 }
        else if ← takeIf ')' then return gathering
        else add ')' true
      | _ => add ')' double
    | some c =>
      if surround = .word && endsWord c then
        unread (some c)
        return gathering
      add c double

/-! ## Tokens -/

def skipBlanks : Nat → Reader Unit
  | 0 => return
  | fuel + 1 => do
    match ← char? with
    | some ' ' | some '\t' => skipBlanks fuel
    | some '#' =>
      modify fun reading => { reading with rest := reading.rest.dropWhile (· ≠ '\n') }
      skipBlanks fuel
    | c => unread c

def redirection (sign : Char) (digit : Option Char) : Reader Unit := do
  let descriptor (standard : Nat) : Nat :=
    (digit.map fun c => c.toNat - '0'.toNat).getD standard
  let file (standard : Nat) (kind : RedirectKind) : Reader Unit :=
    modify fun reading =>
      { reading with
        redirect := .file (descriptor standard) kind [], redirectMark := none, token := .redirect }
  if sign = '>' then
    if ← takeIf '>' then file 1 .append
    else if ← takeIf '|' then file 1 .replace
    else if ← takeIf '&' then file 1 .copy
    else file 1 .output
  else if ← takeIf '<' then
    let stripTabs ← takeIf '-'
    modify fun reading =>
      { reading with
        redirect := .document (descriptor 0) 0, redirectMark := some stripTabs
        token := .redirect }
  else if ← takeIf '&' then file 0 .copy
  else if ← takeIf '>' then file 0 .update
  else file 0 .input

def plainToken (substitution : Substitution) (marksOnly : Bool) : Reader Unit := do
  let fuel := (← get).limit
  skipBlanks fuel
  let found (token : Token) : Reader Unit := modify fun reading => { reading with token }
  match ← char? with
  | none => found .finish
  | some '\n' =>
    countLine
    found .newline
  | some '&' => if ← takeIf '&' then found .andIf else found .ampersand
  | some '|' => if ← takeIf '|' then found .orIf else found .bar
  | some ';' => if ← takeIf ';' then found .caseEnd else found .semicolon
  | some '(' => found .opening
  | some ')' => found .closing
  | some c =>
    unread (some c)
    let gathering ← gather substitution marksOnly fuel .word {}
    let sign? ← char?
    let digit? : Option (Option Char) :=
      match gathering.pieces with
      | [] => some none
      | [.char c false] => if c.isDigit then some (some c) else none
      | _ => none
    match sign?, digit? with
    | some '<', some digit => redirection '<' digit
    | some '>', some digit => redirection '>' digit
    | sign?, _ =>
      unread sign?
      modify fun reading =>
        { reading with
          token := .word, word := gathering.pieces.reverse, isQuoted := gathering.quoted }

/-! ## Here-documents -/

def isJoined (line : List Char) : Bool := (line.reverse.takeWhile (· = '\\')).length % 2 = 1

def documentLines (announced : Announced) (joined : Bool) (count : Nat) (lines : List (List Char)) :
    Nat → List Char → List Char × List Char × Nat
  | 0, rest => (lines.reverse.flatten, rest, count)
  | _, [] => (lines.reverse.flatten, [], count)
  | fuel + 1, rest =>
    let line := rest.takeWhile (· ≠ '\n')
    let after := rest.drop line.length
    let shown := if announced.stripTabs && !joined then line.dropWhile (· = '\t') else line
    let next := after.drop 1
    let count := if after.isEmpty then count else count + 1
    if !joined && shown = announced.delimiter.toList then (lines.reverse.flatten, next, count)
    else
      documentLines announced (!announced.quoted && isJoined line) count
        ((shown ++ after.take 1) :: lines) fuel next

def document (substitution : Substitution) (announced : Announced) : Reader Unit := do
  let reading ← get
  let (text, rest, count) :=
    documentLines announced false 0 [] reading.limit reading.rest
  let word : Word ←
    if announced.quoted then pure (text.map (.char · true))
    else do
      modify fun reading => { reading with rest := text }
      let inner ← gather substitution false (2 * text.length + 16) .document {}
      pure inner.pieces.reverse
  modify fun now =>
    { now with
      rest, line := reading.line + count
      documents := (announced.number, word) :: now.documents }

def allDocuments (substitution : Substitution) : Reader Unit := do
  let announced := (← get).announced
  modify fun reading => { reading with announced := [] }
  announced.forM (document substitution)

/-! ## Words for words -/

def replaceAlias (looking : Looking) : Reader Bool := do
  let reading ← get
  let inUse := reading.aliasesInUse.filter (·.2 < reading.rest.length)
  match if looking.aliases then bareText? reading.word else none with
  | none => return false
  | some name =>
    match if inUse.any (·.1 == name) then none else reading.aliases.lookup name with
    | none => return false
    | some text =>
      set { reading with
        rest := text.toList ++ reading.rest, limit := reading.limit + 4 * text.length
        aliasesInUse := (name, reading.rest.length) :: inUse }
      return true

def nextToken (substitution : Substitution) (marksOnly : Bool) (looking : Looking) :
    Nat → Reader Token
  | 0 => return .finish
  | fuel + 1 => do
    let reading ← get
    if reading.again then set { reading with again := false }
    else plainToken substitution marksOnly
    let reading ← get
    if looking.skipLines && reading.token = .newline then
      allDocuments substitution
      nextToken substitution marksOnly looking fuel
    else if reading.token ≠ .word || reading.isQuoted then return reading.token
    else
      match if looking.keywords then bareText? reading.word else none with
      | some text =>
        if keywords.contains text then
          modify fun reading => { reading with token := .keyword text }
          return .keyword text
        else if ← replaceAlias looking then nextToken substitution marksOnly looking fuel
        else return .word
      | none =>
        if ← replaceAlias looking then nextToken substitution marksOnly looking fuel
        else return .word

end Reader

end Script

end PipeShell
