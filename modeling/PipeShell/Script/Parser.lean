import PipeShell.Script.Lexer

/-!
# Reading commands

A script is read one line at a time, a line going on as long as a command in it is not complete.
-/

namespace PipeShell

namespace Script

def specialBuiltins : List String :=
  [".", ":", "break", "continue", "eval", "exec", "exit", "export", "local", "readonly", "return",
    "set", "shift", "times", "trap", "unset"]

namespace Reader

/-- How a row of commands ends: with its line, where an operand is missing otherwise, or before the
word that closes it; the last kind can be empty. -/
inductive RowKind where
  | line
  | body
  | inner
  deriving DecidableEq, Repr

/-- What the reading of a row comes to; nothing is left when the script ends before it. -/
inductive Row where
  | commands (commands : List Command)
  | ended

def Row.toList : Row → List Command
  | .commands found => found
  | .ended => []

def joined : List Command → Command
  | [command] => command
  | commands => .sequence commands

def pushBack : Reader Unit := modify fun reading => { reading with again := true }

def unexpected {α : Type} (expected : Option Token) : Reader α := do
  let shown := (← get).token.shown
  match expected with
  | none => fail s!"{shown} unexpected"
  | some token => fail s!"{shown} unexpected (expecting {token.shown})"

def isAssignment (word : Word) : Bool :=
  let name := word.takeWhile fun piece =>
    match piece with
    | .char c false => isNameChar c
    | _ => false
  let starts :=
    match name.head? with
    | some (.char c _) => isNameStart c
    | _ => false
  starts &&
    match word[name.length]? with
    | some (.char '=' false) => true
    | _ => false

def isGoodName (text : String) : Bool := isValidName text.toList

def withTarget (target : Word) : Redirect → Redirect
  | .file descriptor kind _ => .file descriptor kind target
  | other => other

variable (substitution : Substitution)

def token (looking : Looking) : Reader Token := do
  nextToken substitution false looking (← get).limit

def plain : Looking := {}
def commandStart : Looking := { keywords := true, aliases := true }
def afterLines : Looking := { skipLines := true, keywords := true, aliases := true }

def expect (looking : Looking) (wanted : Token) : Reader Unit := do
  if (← token substitution looking) ≠ wanted then unexpected (some wanted)

def redirectTarget : Reader Redirect := do
  let begun := (← get).redirect
  let mark := (← get).redirectMark
  let fuel := (← get).limit
  let found ← nextToken substitution mark.isSome {} fuel
  if found ≠ .word then unexpected none
  let reading ← get
  match begun, mark with
  | .document descriptor _, some stripTabs =>
    let number := reading.nextDocument
    let announced : Announced :=
      ⟨number, unquotedText reading.word, reading.isQuoted, stripTabs⟩
    set { reading with
      nextDocument := number + 1, announced := reading.announced ++ [announced] }
    return .document descriptor number
  | begun, _ => return withTarget reading.word begun

def redirects : Nat → Looking → List Redirect → Reader (List Redirect)
  | 0, _, found => return found
  | fuel + 1, looking, found => do
    if (← token substitution looking) = .redirect then
      redirects fuel plain (found ++ [← redirectTarget substitution])
    else
      pushBack
      return found

def words : Nat → List Word → Reader (List Word)
  | 0, found => return found
  | fuel + 1, found => do
    if (← token substitution plain) = .word then words fuel (found ++ [(← get).word])
    else return found

def patterns : Nat → List Word → Reader (List Word)
  | 0, found => return found
  | fuel + 1, found => do
    let found := found ++ [(← get).word]
    if (← token substitution plain) = .bar then
      let _ ← token substitution plain
      patterns fuel found
    else if (← get).token = .closing then return found
    else unexpected (some .closing)

structure SimpleParts where
  assignments : List Word := []
  words : List Word := []
  redirects : List Redirect := []

def inBackground : Command → Command
  | .redirected line body redirects => .background line body redirects
  | command => .background 0 command []

def withRedirects (line : Nat) (command : Command) (fuel : Nat) : Reader Command := do
  let found ← redirects substitution fuel commandStart []
  return match found, command with
    | [], command => command
    | found, .subshell line inside _ => .subshell line inside found
    | found, command => .redirected line command found

def forWords : Reader (List Word) := do
  match ← token substitution afterLines with
  | .keyword "in" =>
    let found ← words substitution (← get).limit []
    let last := (← get).token
    if last ≠ .newline && last ≠ .semicolon then unexpected none
    return found
  | .semicolon => return [[.quoteMark, .parameter "@" .plain false true [], .quoteMark]]
  | _ =>
    pushBack
    return [[.quoteMark, .parameter "@" .plain false true [], .quoteMark]]

mutual

def row (kind : RowKind) (first : Bool) (found : List Command) : Nat → Reader Row
  | 0 => fail "out of stack"
  | fuel + 1 => do
    let looking := { commandStart with skipLines := kind ≠ .line }
    match ← token substitution looking with
    | .newline =>
      allDocuments substitution
      return .commands found
    | .finish =>
      allDocuments substitution
      pushBack
      return if found.isEmpty && kind = .line then .ended else .commands found
    | next =>
      pushBack
      if next.endsList && (kind = .inner || kind = .body && !first) then return .commands found
      let command ← andOr fuel
      match ← token substitution plain with
      | .ampersand => row kind false (found ++ [inBackground command]) fuel
      | .semicolon => row kind false (found ++ [command]) fuel
      | .newline =>
        pushBack
        row kind false (found ++ [command]) fuel
      | .finish =>
        allDocuments substitution
        pushBack
        return .commands (found ++ [command])
      | _ =>
        if kind = .line then unexpected none
        pushBack
        return .commands (found ++ [command])

def andOr : Nat → Reader Command
  | 0 => fail "out of stack"
  | fuel + 1 => do
    let first ← pipeline plain fuel
    moreAndOr first fuel

def moreAndOr (first : Command) : Nat → Reader Command
  | 0 => fail "out of stack"
  | fuel + 1 => do
    match ← token substitution plain with
    | .andIf =>
      let second ← pipeline afterLines fuel
      moreAndOr (.both first second) fuel
    | .orIf =>
      let second ← pipeline afterLines fuel
      moreAndOr (.either first second) fuel
    | _ =>
      pushBack
      return first

def pipeline (looking : Looking) : Nat → Reader Command
  | 0 => fail "out of stack"
  | fuel + 1 => do
    let negated := (← token substitution looking) = .keyword "!"
    if !negated then pushBack
    let first ← command (if negated then commandStart else plain) fuel
    let stages ← moreStages fuel [first]
    let whole : Command :=
      match stages with
      | [single] => single
      | stages => .pipeline stages
    return if negated then .negation whole else whole

def moreStages : Nat → List Command → Reader (List Command)
  | 0, _ => fail "out of stack"
  | fuel + 1, stages => do
    if (← token substitution plain) = .bar then
      let next ← command afterLines fuel
      moreStages fuel (stages ++ [next])
    else
      pushBack
      return stages

def body : Nat → Reader Command
  | 0 => fail "out of stack"
  | fuel + 1 => do return joined (← row .body true [] fuel).toList

def command (looking : Looking) : Nat → Reader Command
  | 0 => fail "out of stack"
  | fuel + 1 => do
    -- The line counts before the first word of the command is looked at.
    let before := (← get).line
    let next ← token substitution looking
    let after := (← get).line
    let line := if looking.skipLines then after else before
    let finishWith (command : Command) (closer : Token) : Reader Command := do
      expect substitution plain closer
      withRedirects substitution line command fuel
    match next with
    | .keyword "if" =>
      let test ← body fuel
      expect substitution plain (.keyword "then")
      let yes ← body fuel
      let otherwise ← elsePart fuel
      finishWith (.conditional test yes otherwise) (.keyword "fi")
    | .keyword "while" | .keyword "until" =>
      let test ← body fuel
      expect substitution plain (.keyword "do")
      let inside ← body fuel
      finishWith (.loop (next = .keyword "until") test inside) (.keyword "done")
    | .keyword "for" =>
      let found ← token substitution plain
      let name := (bareText? (← get).word).getD ""
      if found ≠ .word || (← get).isQuoted || !isGoodName name then fail "Bad for loop variable"
      let items ← forWords substitution
      expect substitution afterLines (.keyword "do")
      let inside ← body fuel
      finishWith (.each line name items inside) (.keyword "done")
    | .keyword "case" =>
      expect substitution plain .word
      let word := (← get).word
      expect substitution afterLines (.keyword "in")
      let found ← cases [] fuel
      withRedirects substitution line (.choice line word found) fuel
    | .opening =>
      let inside ← body fuel
      finishWith (.subshell line inside []) .closing
    | .keyword "\x7b" =>
      let inside ← body fuel
      finishWith inside (.keyword "\x7d")
    | .word | .redirect =>
      pushBack
      simple line true {} fuel
    | _ => unexpected none

def elsePart : Nat → Reader (Option Command)
  | 0 => fail "out of stack"
  | fuel + 1 => do
    match ← token substitution plain with
    | .keyword "elif" =>
      let test ← body fuel
      expect substitution plain (.keyword "then")
      let yes ← body fuel
      return some (.conditional test yes (← elsePart fuel))
    | .keyword "else" => return some (← body fuel)
    | _ =>
      pushBack
      return none

def cases (found : List (List Word × Option Command)) :
    Nat → Reader (List (List Word × Option Command))
  | 0 => fail "out of stack"
  | fuel + 1 => do
    match ← token substitution { skipLines := true, keywords := true } with
    | .keyword "esac" => return found
    | next =>
      if next = .opening then
        let _ ← token substitution plain
      let choices ← patterns substitution (← get).limit []
      let inside ← row .inner true [] fuel
      let inside :=
        match inside.toList with
        | [] => none
        | commands => some (joined commands)
      let found := found ++ [(choices, inside)]
      match ← token substitution { skipLines := true, keywords := true } with
      | .keyword "esac" => return found
      | .caseEnd => cases found fuel
      | _ => unexpected (some .caseEnd)

def simple (line : Nat) (open_ : Bool) (parts : SimpleParts) : Nat → Reader Command
  | 0 => fail "out of stack"
  | fuel + 1 => do
    let next ← token substitution (if open_ then { aliases := true } else plain)
    let reading ← get
    let ended : Reader Command := do
      pushBack
      return .simple line parts.assignments parts.words parts.redirects
    match next with
    | .word =>
      if open_ && isAssignment reading.word then
        simple line true { parts with assignments := parts.assignments ++ [reading.word] } fuel
      else simple line false { parts with words := parts.words ++ [reading.word] } fuel
    | .redirect =>
      let redirect ← redirectTarget substitution
      simple line open_ { parts with redirects := parts.redirects ++ [redirect] } fuel
    | .opening =>
      match parts.words, parts.assignments, parts.redirects with
      | [word], [], [] =>
        expect substitution plain .closing
        let name := (bareText? word).getD ""
        if !isGoodName name || specialBuiltins.contains name then fail "Bad function name"
        return .define name (← command afterLines fuel)
      | _, _, _ => ended
    | _ => ended

end

def inParentheses : Nat → Reader (List Command)
  | 0 => fail "out of stack"
  | fuel + 1 => do
    let outer ← get
    let substitution : Substitution := ⟨inParentheses fuel, ofText fuel⟩
    set { outer with again := false, announced := [] }
    let commands ← row substitution .inner true [] outer.limit
    expect substitution plain .closing
    modify fun reading => { reading with announced := outer.announced ++ reading.announced }
    return commands.toList
where
  /-- The commands of a text that stands in the script in another form. -/
  ofText : Nat → List Char → Reader (List Command)
    | 0, _ => fail "out of stack"
    | fuel + 1, text => do
      let outer ← get
      let substitution : Substitution := ⟨inParentheses fuel, ofText fuel⟩
      set { outer with
        rest := text, line := 1, again := false, announced := [], aliasesInUse := [] }
      let commands ← row substitution .inner true [] (4 * text.length + 64)
      allDocuments substitution
      modify fun reading =>
        { reading with
          rest := outer.rest, line := outer.line, again := false, announced := outer.announced
          aliasesInUse := outer.aliasesInUse }
      return commands.toList

def substitutionDepth : Nat := 200

def substitutions : Substitution :=
  ⟨inParentheses substitutionDepth, inParentheses.ofText substitutionDepth⟩

def nextLine : Reader Row := do
  modify fun reading => { reading with again := false, announced := [] }
  row substitutions .line true [] (← get).limit

end Reader

end Script

end PipeShell
