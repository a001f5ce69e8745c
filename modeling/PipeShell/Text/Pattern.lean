import PipeShell.Text.RegexBracket

/-!
# Patterns

A pattern stands for texts: `*` for any, `?` for any character, `[...]` for one of some. A quoted
character stands for itself.
-/

namespace PipeShell

abbrev Marked := Char × Bool

inductive PatternItem where
  | char (c : Char)
  | any
  | many
  | oneOf (negated : Bool) (ranges : List (Char × Char)) (classes : List String)
  deriving DecidableEq, Repr

def readClassName (name : List Char) : List Marked → Option (String × List Marked)
  | (':', _) :: (']', _) :: rest => some (String.ofList name.reverse, rest)
  | (c, _) :: rest => if c.isAlpha then readClassName (c :: name) rest else none
  | [] => none

def readChoices (ranges : List (Char × Char)) (classes : List String) (first : Bool) :
    Nat → List Marked → Option (List (Char × Char) × List String × List Marked)
  | 0, _ => none
  | _, [] => none
  | fuel + 1, (c, quoted) :: rest =>
    if c = ']' && !quoted && !first then some (ranges.reverse, classes.reverse, rest)
    else
      let named :=
        match c, quoted, rest with
        | '[', false, (':', false) :: inner =>
          (readClassName [] inner).filter fun found => (byteClass? found.1).isSome
        | _, _, _ => none
      match named with
      | some (name, rest) => readChoices ranges (name :: classes) false fuel rest
      | none =>
        match rest with
        | ('-', false) :: (last, lastQuoted) :: after =>
          if last = ']' && !lastQuoted then
            readChoices ((c, c) :: ranges) classes false fuel rest
          else readChoices ((c, last) :: ranges) classes false fuel after
        | rest => readChoices ((c, c) :: ranges) classes false fuel rest

def readPattern : Nat → List Marked → List PatternItem
  | 0, _ => []
  | _, [] => []
  | fuel + 1, (c, quoted) :: rest =>
    if quoted then .char c :: readPattern fuel rest
    else
      match c with
      | '*' => .many :: readPattern fuel rest
      | '?' => .any :: readPattern fuel rest
      | '[' =>
        let negated := rest.head? = some ('!', false)
        let inside := if negated then rest.drop 1 else rest
        match readChoices [] [] true (inside.length + 1) inside with
        | some (ranges, classes, after) =>
          .oneOf negated ranges classes :: readPattern fuel after
        | none => .char '[' :: readPattern fuel rest
      | c => .char c :: readPattern fuel rest

def patternItems (pattern : List Marked) : List PatternItem :=
  readPattern (pattern.length + 1) pattern

def isWild (pattern : List Marked) : Bool :=
  (patternItems pattern).any fun item =>
    match item with
    | .char _ => false
    | _ => true

def PatternItem.admits (item : PatternItem) (c : Char) : Bool :=
  match item with
  | .char own => c = own
  | .any => true
  | .many => false
  | .oneOf negated ranges classes =>
    let byte := UInt8.ofNat c.toNat
    let found :=
      ranges.any (fun range => range.1 ≤ c && c ≤ range.2) ||
        classes.any fun name => (byteClass? name).any fun holds => holds byte
    found != negated

def matchesFirst : List PatternItem → List Char → Nat → Bool
  | [], _, count => count = 0
  | .many :: items, text, 0 => matchesFirst items text 0
  | .many :: _, [], _ + 1 => false
  | .many :: items, c :: text, count + 1 =>
    matchesFirst items (c :: text) (count + 1) || matchesFirst (.many :: items) text count
  | _ :: _, _, 0 | _ :: _, [], _ => false
  | item :: items, c :: text, count + 1 => item.admits c && matchesFirst items text count
termination_by items _ count => items.length + count

def matchesItems (items : List PatternItem) (text : List Char) : Bool :=
  matchesFirst items text text.length

def matchesPattern (pattern : List Marked) (text : List Char) : Bool :=
  matchesItems (patternItems pattern) text

def trimStart (longest : Bool) (pattern : List Marked) (text : List Char) : List Char :=
  let items := patternItems pattern
  let lengths := List.range (text.length + 1)
  match (if longest then lengths.reverse else lengths).find? (matchesFirst items text) with
  | some length => text.drop length
  | none => text

def textEnds (longer : List (Nat × List Char)) (length : Nat) :
    List Char → List (Nat × List Char)
  | [] => (0, []) :: longer
  | c :: rest => textEnds ((length, c :: rest) :: longer) (length - 1) rest

def fittingEnd? (longest : Bool) (items : List PatternItem) (text : List Char) : Option Nat :=
  let ends := textEnds [] text.length text
  ((if longest then ends.reverse else ends).find? fun (length, rest) =>
    matchesFirst items rest length).map (·.1)

def trimEnd (longest : Bool) (pattern : List Marked) (text : List Char) : List Char :=
  match fittingEnd? longest (patternItems pattern) text with
  | some length => text.take (text.length - length)
  | none => text

/-! ## Lists of texts

A list is trimmed as one text with ends between its parts, which no pattern goes beyond. -/

/-- The list without the shortest or longest beginning. If that is the whole first text, the longest
beginning is the whole list. -/
def trimStarts (longest : Bool) (pattern : List Marked) : List (List Char) → List (List Char)
  | [] => []
  | text :: rest =>
    if longest && matchesPattern pattern text then []
    else trimStart longest pattern text :: rest

def trimLastEnd (pattern : List Marked) : List (List Char) → List (List Char)
  | [] => []
  | text :: rest =>
    let hasEnd (text : List Char) : Bool :=
      (fittingEnd? false (patternItems pattern) text).isSome
    if rest.any hasEnd then text :: trimLastEnd pattern rest
    else if hasEnd text then [trimEnd false pattern text]
    else text :: rest

/-- The list without the shortest or longest end. The longest is looked for in the first text only;
what comes after an end is taken with it. -/
def trimEnds (longest : Bool) (pattern : List Marked) (texts : List (List Char)) :
    List (List Char) :=
  if !longest then trimLastEnd pattern texts
  else
    match texts with
    | [] => []
    | text :: _ =>
      if (fittingEnd? true (patternItems pattern) text).isSome then [trimEnd true pattern text]
      else texts

end PipeShell
