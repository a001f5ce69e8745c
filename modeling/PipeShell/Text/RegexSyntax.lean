import PipeShell.Text.RegexBracket
import PipeShell.Text.Floating

/-!
# Reading regular expressions

There are two ways to write an expression. In the extended one the operators stand as they are; in
the basic one some of them need a backslash, and where they cannot be operators they stand for
themselves.
-/

namespace PipeShell

structure RegexStyle where
  extended : Bool := false
  fold : Bool := false
  /-- Whether `\d` and `\D` stand for digits and the rest. -/
  digitClass : Bool := false
  deriving DecidableEq, Repr

inductive RegexToken where
  | finish
  | literal (c : Char)
  | any
  | set (set : ByteSet)
  | bracket
  | anchor (kind : Anchor)
  | again (number : Nat)
  | opening
  | closing
  | bar
  | repetition (sign : Char)
  | trailing
  deriving DecidableEq, Repr

namespace RegexToken

def ofEscaped (style : RegexStyle) (c : Char) : RegexToken :=
  match c with
  | 'w' => .set (.ofPredicate isWordByte)
  | 'W' => .set (.ofPredicate fun byte => !isWordByte byte)
  | 's' => .set (.ofPredicate fun byte => byte == 32 || (9 ≤ byte && byte ≤ 13))
  | 'S' => .set (.ofPredicate fun byte => !(byte == 32 || (9 ≤ byte && byte ≤ 13)))
  | 'b' => .anchor .wordEdge
  | 'B' => .anchor .noEdge
  | '<' => .anchor .wordStart
  | '>' => .anchor .wordEnd
  | '\x60' => .anchor .lineStart
  | '\'' => .anchor .lineEnd
  | 'd' => if style.digitClass then .set (.ofPredicate isDecimalByte) else .literal c
  | 'D' =>
    if style.digitClass then .set (.ofPredicate fun byte => !isDecimalByte byte) else .literal c
  | c => if '1' ≤ c ∧ c ≤ '9' then .again (c.toNat - '0'.toNat) else .literal c

def operator? : Char → Option RegexToken
  | '(' => some .opening
  | ')' => some .closing
  | '|' => some .bar
  | '+' => some (.repetition '+')
  | '?' => some (.repetition '?')
  | '\x7b' => some (.repetition '\x7b')
  | _ => none

def next (style : RegexStyle) (start : Bool) (text : List Char) : RegexToken × List Char :=
  match text with
  | [] => (.finish, [])
  | ['\\'] => (.trailing, [])
  | '\\' :: c :: rest =>
    match if style.extended then none else operator? c with
    | some token => (token, rest)
    | none => (ofEscaped style c, rest)
  | '.' :: rest => (.any, rest)
  | '[' :: rest => (.bracket, rest)
  | '*' :: rest => (.repetition '*', rest)
  | '^' :: rest => (if style.extended || start then .anchor .lineStart else .literal '^', rest)
  | '$' :: rest =>
    let ends :=
      match rest with
      | [] => true
      | '\\' :: c :: _ => c = ')' || c = '|'
      | _ => false
    (if style.extended || ends then .anchor .lineEnd else .literal '$', rest)
  | c :: rest =>
    match if style.extended then operator? c else none with
    | some token => (token, rest)
    | none => (.literal c, rest)

end RegexToken

/-! ## Intervals -/

def repetitionLimit : Nat := 32767

inductive IntervalRead where
  | counts (least : Nat) (most : Option Nat) (rest : List Char)
  | noInterval
  | fault (reason : RegexFault)

def readCount (text : List Char) : Option Nat × List Char :=
  let digits := text.takeWhile Char.isDigit
  (if digits.isEmpty then none else some (digitsValue 10 digits), text.drop digits.length)

def hasIntervalEnd : List Char → Bool
  | [] => false
  | '\\' :: '\x7d' :: _ => true
  | '\\' :: _ :: rest => hasIntervalEnd rest
  | ',' :: _ => true
  | _ :: rest => hasIntervalEnd rest

def brokenInterval (style : RegexStyle) (rest : List Char) : IntervalRead :=
  if style.extended then .noInterval
  else .fault (if hasIntervalEnd rest then .invalidInterval else .unmatchedBrace)

def afterInterval? (style : RegexStyle) (text : List Char) : Option (List Char) :=
  match text with
  | '\x7d' :: rest => if style.extended then some rest else none
  | '\\' :: '\x7d' :: rest => if style.extended then none else some rest
  | _ => none

def readInterval (style : RegexStyle) (text : List Char) : IntervalRead :=
  let (least, afterLeast) := readCount text
  let build (least : Nat) (most : Option Nat) (rest : List Char) : IntervalRead :=
    if most.any (· < least) then .fault .invalidInterval
    else if repetitionLimit < most.getD least then .fault .tooBig
    else .counts least most rest
  match afterInterval? style afterLeast, least, afterLeast with
  | some rest, some least, _ => build least (some least) rest
  | some _, none, _ => .fault .invalidInterval
  | none, least, ',' :: afterComma =>
    let (most, afterMost) := readCount afterComma
    match afterInterval? style afterMost with
    | some rest => build (least.getD 0) most rest
    | none =>
      if afterMost.head? = some ',' then .fault .invalidInterval
      else brokenInterval style afterMost
  | none, _, rest => brokenInterval style rest

/-! ## The reader -/

/-- What is left to read; `start` says that a part of the expression begins here, and `fresh` that
no operand has been read in it. A sign for repetition is `dangling` if it comes where an operand
should begin, which is so as long as `bare` holds; the end of a group right after it counts as
`unclosed` until one more comes. The first fault that is only looked for at last is `late`. -/
structure RegexReading where
  rest : List Char
  start : Bool := true
  fresh : Bool := true
  groups : Nat := 0
  closed : List Nat := []
  warnings : List String := []
  late : Option RegexFault := none
  bare : Bool := true
  dangling : Bool := false
  unclosed : Nat := 0
  deriving DecidableEq, Repr

abbrev RegexReader := StateT RegexReading (Except RegexFault)

namespace RegexReader

variable (style : RegexStyle)

def peek : RegexReader (RegexToken × List Char) := do
  let reading ← get
  return RegexToken.next style reading.start reading.rest

def moveTo (rest : List Char) (start fresh : Bool) : RegexReader Unit :=
  modify fun reading => { reading with rest, start, fresh, bare := false, dangling := false }

def foldedSingle (c : Char) : ByteSet := if style.fold then (single c).folded else single c

def warn (sign : String) : RegexReader Unit :=
  modify fun reading =>
    if reading.late.isSome then reading
    else { reading with warnings := reading.warnings ++ [s!"{sign} at start of expression"] }

def postpone (fault : RegexFault) : RegexReader Unit :=
  modify fun reading => { reading with late := reading.late.or (some fault) }

/-- How often an operand is to be repeated, if the text goes on with that. In the basic style the
signs mean nothing before the first operand. -/
def repetition? : RegexReader (Option (Nat × Option Nat)) := do
  let reading ← get
  match ← peek style with
  | (.repetition sign, rest) =>
    if reading.fresh && !style.extended then return none
    if sign = '\x7b' then
      match readInterval style rest with
      | .noInterval => return none
      | .fault .tooBig =>
        if !reading.bare then throw .tooBig
        if reading.fresh then warn "\x7b...\x7d"
        postpone .tooOften
        return none
      | .fault reason =>
        if !reading.bare then throw reason
        if !style.extended then postpone .badCounts
        return none
      | .counts least most rest =>
        if reading.fresh then warn "\x7b...\x7d"
        moveTo rest false false
        return some (least, most)
    else
      if reading.fresh then warn (String.singleton sign)
      modify fun now =>
        { now with rest, start := false, dangling := reading.bare && style.extended }
      return some (match sign with
        | '*' => (0, none)
        | '+' => (1, none)
        | _ => (0, some 1))
  | _ => return none

def repetitions : Nat → Regex → RegexReader Regex
  | 0, operand => return operand
  | fuel + 1, operand => do
    match ← repetition? style with
    | none => return operand
    | some (least, most) => repetitions fuel (.repeated operand least most)

def literal (c : Char) (rest : List Char) : RegexReader Regex := do
  moveTo rest false false
  return .bytes (foldedSingle style c)

def alternatives : Nat → Nat → Option Regex → List Nat → RegexReader Regex
  | 0, _, _, _ => throw .tooBig
  | fuel + 1, depth, left, before => do
    let branch ← sequence fuel depth .empty
    let whole := left.elim branch fun left => .alt left branch
    match ← peek style with
    | (.bar, rest) =>
      let known := (← get).closed
      modify fun reading => { reading with
          rest, start := true, fresh := true, bare := true, dangling := false, closed := before }
      let result ← alternatives fuel depth (some whole) before
      modify fun reading => { reading with closed := reading.closed ++ known }
      return result
    | _ => return whole
where
  /-- The operands up to the next bar or the end of the group, after those read before. -/
  sequence : Nat → Nat → Regex → RegexReader Regex
    | 0, _, _ => throw .tooBig
    | fuel + 1, depth, sofar => do
      let more (operand : Regex) : RegexReader Regex := do
        let repeated ← repetitions style fuel operand
        sequence fuel depth (if sofar = .empty then repeated else .seq sofar repeated)
      match ← peek style with
      | (.finish, _) | (.bar, _) => return sofar
      | (.trailing, _) => throw .trailingBackslash
      | (.closing, rest) =>
        if 0 < depth then return sofar
        else if style.extended then
          modify fun reading => { reading with unclosed := reading.unclosed - 1 }
          more (← literal style ')' rest)
        else throw .unmatchedClose
      | (.literal c, rest) => more (← literal style c rest)
      | (.any, rest) =>
        moveTo rest false false
        more (.bytes .all)
      | (.set set, rest) =>
        moveTo rest false false
        more (.bytes set)
      | (.bracket, rest) =>
        let read ← readBracket style.fold rest
        modify fun reading =>
          { reading with
            rest := read.rest, start := false, fresh := false, bare := false, dangling := false }
        if read.isBareClass then postpone .bareClass
        more (.bytes read.set)
      | (.anchor kind, rest) =>
        modify fun reading =>
          { reading with rest, start := false, bare := true, dangling := false }
        more (.anchor kind)
      | (.again number, rest) =>
        if !(← get).closed.contains number then throw .invalidReference
        moveTo rest false false
        more (.again number)
      | (.opening, rest) =>
        let number := (← get).groups + 1
        modify fun reading =>
          { reading with
            rest, start := true, fresh := true, bare := true, dangling := false
            groups := number }
        let body ← alternatives fuel (depth + 1) none (← get).closed
        match ← peek style with
        | (.closing, rest) =>
          modify fun reading =>
            { reading with
              rest, start := false, fresh := false, bare := false, dangling := false
              unclosed := reading.unclosed + if reading.dangling then 1 else 0
              closed := number :: reading.closed }
          more (.group number body)
        | _ => throw .unmatchedGroup
      | (.repetition sign, rest) =>
        -- Without an operand before it the sign repeats nothing, or is taken as it stands.
        let before ← get
        match ← repetition? style with
        | some (least, most) => more (.repeated .empty least most)
        | none =>
          modify fun reading =>
            { before with warnings := reading.warnings, late := reading.late }
          let operand ← literal style sign rest
          modify fun reading =>
            { reading with bare := before.bare, dangling := before.bare && style.extended }
          more operand

end RegexReader

structure RegexRead where
  regex : Regex
  warnings : List String
  late : Option RegexFault
  deriving DecidableEq, Repr

def readRegex (style : RegexStyle) (text : String) : Except RegexFault RegexRead := do
  let start : RegexReading := { rest := text.toList }
  let fuel := 4 * text.length + 8
  let (regex, reading) ← (RegexReader.alternatives style fuel 0 none []).run start
  if 0 < reading.unclosed then throw .unmatchedGroup
  return { regex := regex.simplified, warnings := reading.warnings, late := reading.late }

end PipeShell
