import PipeShell.Script.Options

/-!
# Conditions

`test` looks at texts, numbers and files. Its arguments are an expression of conditions joined by
`-a` and `-o`; what an argument is depends on the arguments after it.
-/

namespace PipeShell

namespace Script

namespace Condition

inductive Kind where
  | unary
  | binary
  | negation
  | both
  | either
  | opening
  | closing
  deriving DecidableEq, Repr

def unaryWords : List String :=
  ["-r", "-w", "-x", "-e", "-f", "-d", "-c", "-b", "-p", "-u", "-g", "-k", "-s", "-t", "-z", "-n",
    "-h", "-O", "-G", "-L", "-S"]

def binaryWords : List String :=
  ["=", "!=", "<", ">", "-eq", "-ne", "-ge", "-gt", "-le", "-lt", "-nt", "-ot", "-ef"]

def kindOf? (word : String) : Option Kind :=
  if unaryWords.contains word then some .unary
  else if binaryWords.contains word then some .binary
  else
    match word with
    | "!" => some .negation
    | "-a" => some .both
    | "-o" => some .either
    | "(" => some .opening
    | ")" => some .closing
    | _ => none

inductive Reading where
  | finished
  | operator (kind : Kind)
  | operand
  deriving DecidableEq, Repr

structure Position where
  arguments : List String
  index : Nat := 0
  deriving DecidableEq, Repr

abbrev Reader := StateT Position (Except String)

def argument? (offset : Nat) : Reader (Option String) := do
  let position ← get
  return position.arguments[position.index + offset]?

def advance (count : Nat) : Reader Unit :=
  modify fun position => { position with index := position.index + count }

/-- What the argument so many places further on is. An operator of one operand has to have one, and
is an operand itself before an operator of two. -/
def readAt (offset : Nat) : Reader Reading := do
  match ← argument? offset with
  | none => return .finished
  | some word =>
    let next := ← argument? (offset + 1)
    match kindOf? word with
    | none => return .operand
    | some .unary =>
      match next with
      | none => return .operand
      | some next =>
        let isOperand := (← argument? (offset + 2)).isSome && kindOf? next = some .binary
        return if isOperand then .operand else .operator .unary
    | some .opening => return if next.isNone then .operand else .operator .opening
    | some kind => return .operator kind

def wrong {α : Type} (word text : String) : Reader α :=
  throw (if word = "" then text else s!"{word}: {text}")

def number (text : String) : Reader Int := do
  let digits := text.toList.dropWhile isSpaceChar
  let (negative, digits) :=
    match digits with
    | '-' :: rest => (true, rest)
    | '+' :: rest => (false, rest)
    | rest => (false, rest)
  let whole := digits.takeWhile Char.isDigit
  let value : Int := digitsValue 10 whole
  let (value, outOfRange) := clampSigned (if negative then -value else value)
  if whole.isEmpty || outOfRange || !(digits.drop whole.length).all isSpaceChar then
    throw s!"Illegal number: {text}"
  return value

/-! ## Operators -/

variable (world : World)

def node? (path : String) : Option Node :=
  match world.files.status world.process.directory (nameOf path) with
  | .ok (_, node) => some node
  | .error _ => none

def isLink (path : String) : Bool :=
  match world.files.locate world.process.directory .entry (nameOf path) with
  | .ok (.node _ (.link _)) => true
  | _ => false

def access (node : Node) : Permissions :=
  match node with
  | .file _ permissions => permissions
  | .device _ => { execute := false }
  | _ => { execute := true }

def holdsFor (word operand : String) : Bool :=
  let node := node? world operand
  match word with
  | "-z" => operand = ""
  | "-n" => operand ≠ ""
  | "-r" => node.any fun node => (access node).read
  | "-w" => node.any fun node => (access node).write
  | "-x" => node.any fun node => (access node).execute
  | "-e" | "-O" | "-G" => node.isSome
  | "-f" =>
    match node with
    | some (.file _ _) | some (.program _) => true
    | _ => false
  | "-d" => node = some .directory
  | "-c" =>
    match node with
    | some (.device _) => true
    | _ => false
  | "-s" =>
    match node with
    | some (.file content _) => !content.isEmpty
    | some (.device _) | none => false
    | some _ => true
  | "-h" | "-L" => isLink world operand
  | _ => false

def isSame (left right : String) : Bool :=
  let place? (path : String) : Option Place :=
    match world.files.status world.process.directory (nameOf path) with
    | .ok (place, _) => some place
    | .error _ => none
  (place? left).isSome && place? left = place? right

def holdsBetween (word left right : String) : Reader Bool := do
  match word with
  | "=" => return left = right
  | "!=" => return left ≠ right
  | "<" => return left < right
  | ">" => return right < left
  | "-nt" | "-ot" => return false
  | "-ef" => return isSame world left right
  | _ =>
    let left ← number left
    let right ← number right
    match word with
    | "-eq" => return left = right
    | "-ne" => return left ≠ right
    | "-ge" => return right ≤ left
    | "-gt" => return right < left
    | "-le" => return left ≤ right
    | _ => return left < right

/-! ## Expressions -/

def simple (reading : Reading) : Reader Bool := do
  let word := (← argument? 0).getD ""
  if reading = .operator .unary then
    advance 1
    match ← argument? 0 with
    | none => wrong word "argument expected"
    | some operand =>
      if word = "-t" then
        let _ ← number operand
        return false
      return holdsFor world word operand
  else
    match ← readAt 1 with
    | .operator .binary =>
      let operator := (← argument? 1).getD ""
      advance 2
      match ← argument? 0 with
      | none => wrong operator "argument expected"
      | some operand => holdsBetween world operator word operand
    | _ => return word ≠ ""

mutual

def disjunction (reading : Reading) (found : Bool) : Nat → Reader Bool
  | 0 => return found
  | fuel + 1 => do
    let found := (← conjunction reading true fuel) || found
    if (← readAt 1) = .operator .either then
      advance 2
      disjunction (← readAt 0) found fuel
    else return found

def conjunction (reading : Reading) (found : Bool) : Nat → Reader Bool
  | 0 => return found
  | fuel + 1 => do
    let found := (← negation reading fuel) && found
    if (← readAt 1) = .operator .both then
      advance 2
      conjunction (← readAt 0) found fuel
    else return found

def negation (reading : Reading) : Nat → Reader Bool
  | 0 => return false
  | fuel + 1 => do
    if reading = .operator .negation then
      let next ← readAt 1
      if next ≠ .finished then advance 1
      return !(← negation next fuel)
    else primary reading fuel

def primary (reading : Reading) : Nat → Reader Bool
  | 0 => return false
  | fuel + 1 => do
    match reading with
    | .finished => return false
    | .operator .opening =>
      advance 1
      let next ← readAt 0
      if next = .operator .closing then return false
      let found ← disjunction next false fuel
      advance 1
      if (← readAt 0) ≠ .operator .closing then wrong "" "closing paren expected"
      return found
    | reading => simple world reading

end

def whole (reading : Reading) (fuel : Nat) : Reader Bool := do
  let found ← disjunction world reading false fuel
  if (← argument? 1).isSome then
    wrong ((← argument? 0).getD "") "unexpected operator"
  return found

def evaluate : Nat → Bool → List String → Except String Bool
  -- Of few arguments, parentheses around the others and a negation before them are taken off first.
  | 0, _, _ => .ok false
  | fuel + 1, negated, arguments =>
    let run (reading? : Option Reading) (arguments : List String) : Except String Bool :=
      let reader : Reader Bool := do
        let reading ← (reading?.map pure).getD (readAt 0)
        whole world reading (8 * arguments.length + 8)
      (reader.run { arguments }).map fun result => negated != result.1
    if arguments.isEmpty then .ok negated
    else
      let isTriple := arguments.length = 3
      let isBinary := (arguments[1]?.bind kindOf?) = some .binary
      if isTriple && isBinary then run (some .operand) arguments
      else if isTriple || arguments.length = 4 then
        if arguments.head? = some "(" && arguments.getLast? = some ")" then
          run none (arguments.drop 1).dropLast
        else if arguments.head? = some "!" then evaluate fuel (!negated) (arguments.drop 1)
        else run none arguments
      else run none arguments

def test (bracketed : Bool) : Builtin := fun words => do
  if bracketed && ((words.getLast?.bind fun word => word.toList.head?) ≠ some ']') then
    Act.fail "missing ]"
  let words := if bracketed then words.dropLast else words
  match evaluate (← Act.world) (words.length + 1) false words with
  | .ok holds => return if holds then 0 else 1
  | .error text => Act.fail text

end Condition

end Script

end PipeShell
