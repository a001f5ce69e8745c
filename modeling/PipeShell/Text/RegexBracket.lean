import PipeShell.Text.Regex

/-!
# Bracket expressions

What stands between `[` and `]` in a regular expression: single bytes, ranges, and classes by name.
-/

namespace PipeShell

/-- Why a text is no regular expression. The last three are only looked for when nothing else is
wrong anywhere. -/
inductive RegexFault where
  | invalid
  | unmatchedGroup
  | unmatchedClose
  | unmatchedBracket
  | unmatchedBrace
  | invalidInterval
  | invalidRange
  | invalidClass
  | invalidCollation
  | invalidReference
  | trailingBackslash
  | tooBig
  | bareClass
  | badCounts
  | tooOften
  deriving DecidableEq, Repr

namespace RegexFault

def message : RegexFault → String
  | .invalid => "Invalid regular expression"
  | .unmatchedGroup => "Unmatched ( or \\("
  | .unmatchedClose => "Unmatched ) or \\)"
  | .unmatchedBracket => "Unmatched [, [^, [:, [., or [="
  | .unmatchedBrace => "Unmatched \\\x7b"
  | .invalidInterval => "Invalid content of \\\x7b\\\x7d"
  | .invalidRange => "Invalid range end"
  | .invalidClass => "Invalid character class name"
  | .invalidCollation => "Invalid collation character"
  | .invalidReference => "Invalid back reference"
  | .trailingBackslash => "Trailing backslash"
  | .tooBig => "Regular expression too big"
  | .bareClass => "character class syntax is [[:space:]], not [:space:]"
  | .badCounts => "invalid content of \\\x7b\\\x7d"
  | .tooOften => "regular expression too big"

end RegexFault

/-! ## Classes -/

def isUpperByte (byte : UInt8) : Bool := 65 ≤ byte && byte ≤ 90
def isLowerByte (byte : UInt8) : Bool := 97 ≤ byte && byte ≤ 122
def isDecimalByte (byte : UInt8) : Bool := 48 ≤ byte && byte ≤ 57
def isLetter (byte : UInt8) : Bool := isUpperByte byte || isLowerByte byte
def isGraphByte (byte : UInt8) : Bool := 33 ≤ byte && byte ≤ 126

def byteClass? (name : String) : Option (UInt8 → Bool) :=
  match name with
  | "alpha" => some isLetter
  | "digit" => some isDecimalByte
  | "alnum" => some fun byte => isLetter byte || isDecimalByte byte
  | "upper" => some isUpperByte
  | "lower" => some isLowerByte
  | "space" => some fun byte => byte == 32 || (9 ≤ byte && byte ≤ 13)
  | "blank" => some fun byte => byte == 32 || byte == 9
  | "punct" => some fun byte => isGraphByte byte && !isLetter byte && !isDecimalByte byte
  | "print" => some fun byte => byte == 32 || isGraphByte byte
  | "graph" => some isGraphByte
  | "cntrl" => some fun byte => byte < 32 || byte == 127
  | "xdigit" =>
    some fun byte => isDecimalByte byte || (65 ≤ byte && byte ≤ 70) || (97 ≤ byte && byte ≤ 102)
  | _ => none

/-! ## Elements -/

inductive BracketItem where
  | byte (c : Char)
  | classNamed (name : String)
  | equivalent (name : String)
  | collating (name : String)
  deriving DecidableEq, Repr

def readSymbol (delimiter : Char) (name : List Char) : List Char → Option (String × List Char)
  | c :: next :: rest =>
    if c = delimiter ∧ next = ']' then some (String.ofList name.reverse, rest)
    else readSymbol delimiter (c :: name) (next :: rest)
  | _ => none

def symbolLimit : Nat := 32

def readSymbolAs (kind : String → BracketItem) (delimiter : Char) (text : List Char) :
    Except RegexFault (BracketItem × List Char) :=
  match readSymbol delimiter [] text with
  | some (name, rest) =>
    if name.length < symbolLimit then .ok (kind name, rest) else .error .unmatchedBracket
  | none => .error .unmatchedBracket

def isRangeDash : List Char → Bool
  | '-' :: '-' :: '-' :: _ => false
  | '-' :: _ => true
  | _ => false

def readBracketItem (dashAllowed : Bool) (text : List Char) :
    Except RegexFault (BracketItem × List Char) :=
  match text with
  | '[' :: ':' :: rest => readSymbolAs .classNamed ':' rest
  | '[' :: '=' :: rest => readSymbolAs .equivalent '=' rest
  | '[' :: '.' :: rest => readSymbolAs .collating '.' rest
  | '-' :: '-' :: '-' :: rest => .ok (.byte '-', rest)
  | '-' :: rest =>
    if dashAllowed || rest.head? = some ']' then .ok (.byte '-', rest) else .error .invalidRange
  | c :: rest => .ok (.byte c, rest)
  | [] => .error .unmatchedBracket

def single (c : Char) : ByteSet := ⟨1 <<< c.toNat⟩

def BracketItem.bound : BracketItem → Except RegexFault Char
  | .byte c => .ok c
  | .classNamed _ | .equivalent _ => .error .invalidRange
  | .collating name =>
    match name.toList with
    | [c] => .ok c
    | _ => .error .invalidCollation

def BracketItem.set : BracketItem → Except RegexFault ByteSet
  | .byte c => .ok (single c)
  | .classNamed name =>
    match byteClass? name with
    | some holds => .ok (.ofPredicate holds)
    | none => .error .invalidClass
  | .equivalent name | .collating name =>
    match name.toList with
    | [c] => .ok (single c)
    | _ => .error .invalidCollation

def rangeSet (first last : BracketItem) : Except RegexFault ByteSet := do
  match first, last with
  | .classNamed _, _ | .equivalent _, _ | _, .classNamed _ | _, .equivalent _ =>
    throw .invalidRange
  | _, _ =>
    let low ← first.bound
    let high ← last.bound
    if high < low then throw .invalidRange
    return .ofPredicate fun byte => low.toNat ≤ byte.toNat && byte.toNat ≤ high.toNat

def BracketItem.canBegin : BracketItem → Bool
  | .classNamed _ | .equivalent _ => false
  | _ => true

/-- What the elements read so far were: the single bytes, and whether there was anything else. -/
structure BracketTrace where
  bytes : List Char := []
  others : Bool := false
  deriving DecidableEq, Repr

def BracketTrace.isBareClass (trace : BracketTrace) : Bool :=
  !trace.others && trace.bytes.head? = some ':' && trace.bytes.getLast? = some ':' &&
    trace.bytes.any (· ≠ ':')

structure BracketRead where
  set : ByteSet
  isBareClass : Bool
  rest : List Char
  deriving DecidableEq, Repr

def readBracketItems (set : ByteSet) (trace : BracketTrace) (first : Bool) :
    Nat → List Char → Except RegexFault BracketRead
  | 0, _ => .error .unmatchedBracket
  | fuel + 1, text => do
    let (item, rest) ← readBracketItem first text
    let isRange :=
      item.canBegin && isRangeDash rest && (rest.drop 1).head? ≠ some ']'
    let (added, trace, rest) ←
      if isRange then do
        let (last, after) ← readBracketItem true (rest.drop 1)
        let range ← rangeSet item last
        pure (range, { trace with others := true }, after)
      else do
        let own ← item.set
        let trace :=
          match item with
          | .byte c => { trace with bytes := trace.bytes ++ [c] }
          | _ => { trace with others := true }
        pure (own, trace, rest)
    match rest with
    | [] => throw .unmatchedBracket
    | ']' :: rest => return { set := set.union added, isBareClass := trace.isBareClass, rest }
    | rest => readBracketItems (set.union added) trace false fuel rest

def ByteSet.folded (set : ByteSet) : ByteSet :=
  set.union (.ofPredicate fun byte =>
    isUpperByte byte && set.contains (byte + 32) || isLowerByte byte && set.contains (byte - 32))

def readBracket (fold : Bool) (text : List Char) : Except RegexFault BracketRead := do
  let negated := text.head? = some '^'
  let items := if negated then text.drop 1 else text
  if items.isEmpty then throw .invalid
  let read ← readBracketItems ⟨0⟩ {} true (items.length + 1) items
  let set := if fold then read.set.folded else read.set
  return { read with set := if negated then set.complement else set }

end PipeShell
