import PipeShell.Text.Floating
import PipeShell.Text.Version

/-!
# Sort keys

A key is a part of a line, given by fields and characters, and an order for it. A line is compared
by its keys in turn.
-/

namespace PipeShell

def compareBytes : Bytes → Bytes → Ordering
  | [], [] => .eq
  | [], _ :: _ => .lt
  | _ :: _, [] => .gt
  | left :: lefts, right :: rights =>
    (compare left.toNat right.toNat).then (compareBytes lefts rights)

def bytesLe (left right : Bytes) : Bool := compareBytes left right ≠ .gt

namespace Programs

inductive Ignoring where
  | nothing
  | nonprinting
  | nondictionary
  deriving DecidableEq, Repr

structure SortOrder where
  skipStart : Bool := false
  skipEnd : Bool := false
  ignoring : Ignoring := .nothing
  fold : Bool := false
  general : Bool := false
  human : Bool := false
  month : Bool := false
  numeric : Bool := false
  random : Bool := false
  version : Bool := false
  reverse : Bool := false
  deriving DecidableEq, Repr

/-- A part of a line: it starts after so many fields and then so many characters, and ends with the
line or likewise; no characters mean that the last field is taken whole. -/
structure SortKey where
  startField : Nat := 0
  startChar : Nat := 0
  stop : Option (Nat × Nat) := none
  order : SortOrder := {}
  deriving DecidableEq, Repr

namespace SortOrder

def isStandard (order : SortOrder) : Bool := { order with reverse := false } = {}

def add? (order : SortOrder) (start stop : Bool) : Char → Option SortOrder
  | 'b' =>
    some { order with skipStart := order.skipStart || start, skipEnd := order.skipEnd || stop }
  | 'd' => some { order with ignoring := .nondictionary }
  | 'f' => some { order with fold := true }
  | 'g' => some { order with general := true }
  | 'h' => some { order with human := true }
  | 'i' =>
    some { order with
      ignoring := if order.ignoring = .nothing then .nonprinting else order.ignoring }
  | 'M' => some { order with month := true }
  | 'n' => some { order with numeric := true }
  | 'R' => some { order with random := true }
  | 'r' => some { order with reverse := true }
  | 'V' => some { order with version := true }
  | _ => none

def addLetters (order : SortOrder) (start stop : Bool) : List Char → SortOrder × List Char
  | [] => (order, [])
  | letter :: rest =>
    match order.add? start stop letter with
    | some order => order.addLetters start stop rest
    | none => (order, letter :: rest)

def clash? (order : SortOrder) : Option String :=
  let ways := [order.numeric, order.general, order.human, order.month,
    order.version || order.random || order.ignoring ≠ .nothing]
  if ways.count true ≤ 1 then none
  else
    let letters := [(order.ignoring == .nondictionary, 'd'), (order.fold, 'f'),
      (order.general, 'g'), (order.human, 'h'), (order.ignoring == .nonprinting, 'i'),
      (order.month, 'M'), (order.numeric, 'n'), (order.random, 'R'), (order.version, 'V')]
    some (String.ofList (letters.filterMap fun letter => if letter.1 then some letter.2 else none))

end SortOrder

/-! ## Finding a key in a line -/

def isSortBlank (byte : UInt8) : Bool := byte == 32 || byte == 9 || byte == 10

def afterFields (separator : Option UInt8) : Nat → Bytes → Bytes
  -- Without a separator a field begins with the blanks before it.
  | 0, line => line
  | count + 1, line =>
    if line.isEmpty then []
    else
      match separator with
      | some byte => afterFields separator count ((line.dropWhile (· ≠ byte)).drop 1)
      | none =>
        afterFields separator count
          ((line.dropWhile isSortBlank).dropWhile fun byte => !isSortBlank byte)

def afterField (separator : Option UInt8) (line : Bytes) : Bytes :=
  match separator with
  | some byte => line.dropWhile (· ≠ byte)
  | none => (line.dropWhile isSortBlank).dropWhile fun byte => !isSortBlank byte

def SortKey.afterStop (key : SortKey) (separator : Option UInt8) (line : Bytes) : Bytes :=
  match key.stop with
  | none => []
  | some (field, 0) => afterField separator (afterFields separator field line)
  | some (field, chars) =>
    let rest := afterFields separator field line
    (if key.order.skipEnd then rest.dropWhile isSortBlank else rest).drop chars

def SortKey.part (key : SortKey) (separator : Option UInt8) (line : Bytes) : Bytes :=
  let field := afterFields separator key.startField line
  let start := (if key.order.skipStart then field.dropWhile isSortBlank else field).drop
    key.startChar
  start.take (start.length - (key.afterStop separator line).length)

/-! ## Comparing keys -/

def upperByte (byte : UInt8) : UInt8 := if 97 ≤ byte && byte ≤ 122 then byte - 32 else byte

def SortOrder.filtered (order : SortOrder) (part : Bytes) : Bytes :=
  let kept :=
    match order.ignoring with
    | .nothing => part
    | .nonprinting => part.filter fun byte => 32 ≤ byte && byte ≤ 126
    | .nondictionary =>
      part.filter fun byte => isLetterByte byte || isDigitByte byte || isSortBlank byte
  if order.fold then kept.map upperByte else kept

def readDecimal (part : Bytes) : Bool × Nat × Nat :=
  let trimmed := part.dropWhile isSortBlank
  let negative := trimmed.head? = some 45
  let digits := if negative then trimmed.drop 1 else trimmed
  let whole := digits.takeWhile isDigitByte
  let after := digits.drop whole.length
  let fraction :=
    if after.head? = some 46 then (after.drop 1).takeWhile isDigitByte else []
  let value := (whole ++ fraction).foldl (fun value byte => value * 10 + (byte.toNat - 48)) 0
  (negative, value, fraction.length)

def compareDecimals (left right : Bytes) : Ordering :=
  let (leftSign, leftValue, leftPlaces) := readDecimal left
  let (rightSign, rightValue, rightPlaces) := readDecimal right
  let signed (negative : Bool) (value : Nat) : Int := if negative then -(value : Int) else value
  compare (signed leftSign (leftValue * Nat.pow 10 rightPlaces))
    (signed rightSign (rightValue * Nat.pow 10 leftPlaces))

def unitRank (part : Bytes) : Int :=
  let (negative, value, _) := readDecimal part
  if value = 0 then 0
  else
    let trimmed := part.dropWhile isSortBlank
    let digits := if negative then trimmed.drop 1 else trimmed
    let after := digits.dropWhile isDigitByte
    let unit :=
      if after.head? = some 46 then (after.drop 1).dropWhile isDigitByte else after
    let letters : List (List UInt8) :=
      [[75, 107], [77], [71], [84], [80], [69], [90], [89], [82], [81]]
    let rank : Int :=
      match letters.findIdx? fun letter => (unit.head?).any letter.contains with
      | some index => index + 1
      | none => 0
    if negative then -rank else rank

def readGeneral (part : Bytes) : Option Floating :=
  (readFloat? .extended (part.map fun byte => Char.ofNat byte.toNat)).map (·.value)

def compareGeneral (left right : Bytes) : Ordering :=
  -- What is no number comes first, then what is not a number by name, then the numbers.
  match readGeneral left, readGeneral right with
  | none, none => .eq
  | none, some _ => .lt
  | some _, none => .gt
  | some left, some right =>
    match left.compare? right with
    | some order => order
    | none =>
      match left, right with
      | .nan leftSign, .nan rightSign => compare rightSign.toNat leftSign.toNat
      | .nan _, _ => .lt
      | _, _ => .gt

def monthNames : List String :=
  ["JAN", "FEB", "MAR", "APR", "MAY", "JUN", "JUL", "AUG", "SEP", "OCT", "NOV", "DEC"]

def monthNumber (part : Bytes) : Nat :=
  let name := ((part.dropWhile isSortBlank).take 3).map upperByte
  match monthNames.findIdx? fun month => encode month == name with
  | some index => index + 1
  | none => 0

def SortOrder.compareParts (order : SortOrder) (left right : Bytes) : Ordering :=
  if order.numeric then compareDecimals left right
  else if order.general then compareGeneral left right
  else if order.human then
    (compare (unitRank left) (unitRank right)).then (compareDecimals left right)
  else if order.month then compare (monthNumber left) (monthNumber right)
  else if order.version then compareVersions left right
  else compareBytes left right

def SortOrder.directed (order : SortOrder) (result : Ordering) : Ordering :=
  if order.reverse then result.swap else result

structure SortLine where
  line : Bytes
  parts : List Bytes
  deriving DecidableEq, Repr

def compareKeys : List SortKey → List Bytes → List Bytes → Ordering
  | key :: keys, left :: lefts, right :: rights =>
    (key.order.directed (key.order.compareParts left right)).then (compareKeys keys lefts rights)
  | _, _, _ => .eq

end Programs

end PipeShell
