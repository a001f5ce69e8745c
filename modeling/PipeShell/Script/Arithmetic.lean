import PipeShell.Environment
import PipeShell.Text.Numeral

/-!
# Arithmetic

Whole numbers of 64 bits with the operators of C. Values of variables are read as numbers, and
assignments change them for what follows in the expression.
-/

namespace PipeShell

namespace Script

def wrap64 (value : Int) : Int := Int.bmod value 0x10000000000000000

inductive ArithmeticToken where
  | number (value : Int)
  | name (name : String)
  | operator (sign : String)
  | unknown
  deriving DecidableEq, Repr

inductive ArithmeticFault where
  | wrong (text : String)
  | badNumber (text : String)
  deriving DecidableEq, Repr

def operatorSigns : List String :=
  ["<<=", ">>=", "<<", ">>", "<=", ">=", "==", "!=", "&&", "||", "+=", "-=", "*=", "/=", "%=", "&=",
    "^=", "|=", "=", "<", ">", "+", "-", "*", "/", "%", "&", "^", "|", "!", "~", "?", ":", "(", ")"]

def arithmeticTokens : Nat → List Char → List ArithmeticToken
  | 0, _ => []
  | _, [] => []
  | fuel + 1, c :: rest =>
    if c = ' ' || c = '\t' || c = '\n' then arithmeticTokens fuel rest
    else if c.isDigit then
      let read := readNumeral (c :: rest)
      .number (clampSigned read.value).1 :: arithmeticTokens fuel read.rest
    else if isNameStart c then
      let name := c :: rest.takeWhile isNameChar
      .name (String.ofList name) :: arithmeticTokens fuel ((c :: rest).drop name.length)
    else
      match operatorSigns.find? fun sign => sign.toList.isPrefixOf (c :: rest) with
      | some sign => .operator sign :: arithmeticTokens fuel ((c :: rest).drop sign.length)
      | none => [.unknown]

/-- An evaluation: what is left to read, and the variables that were assigned, newest first. -/
structure Evaluation where
  tokens : List ArithmeticToken
  assigned : List (String × Int) := []

abbrev Evaluator := StateT Evaluation (Except ArithmeticFault)

def precedence? : String → Option Nat
  | "*" | "/" | "%" => some 0
  | "+" | "-" => some 1
  | "<<" | ">>" => some 2
  | "<" | ">" | "<=" | ">=" => some 3
  | "==" | "!=" => some 4
  | "&" => some 5
  | "^" => some 6
  | "|" => some 7
  | _ => none

def truth (holds : Bool) : Int := if holds then 1 else 0

def bits64 (value : Int) : Nat := (value % 0x10000000000000000).toNat

def applyOperator (sign : String) (left right : Int) : Except ArithmeticFault Int :=
  match sign with
  | "*" => .ok (wrap64 (left * right))
  | "/" => if right = 0 then .error (.wrong "division by zero") else .ok (wrap64 (left.tdiv right))
  | "%" => if right = 0 then .error (.wrong "division by zero") else .ok (wrap64 (left.tmod right))
  | "+" => .ok (wrap64 (left + right))
  | "-" => .ok (wrap64 (left - right))
  | "<<" => .ok (wrap64 (left * (1 <<< (bits64 right % 64) : Nat)))
  | ">>" => .ok (left.fdiv (1 <<< (bits64 right % 64) : Nat))
  | "<" => .ok (truth (left < right))
  | ">" => .ok (truth (right < left))
  | "<=" => .ok (truth (left ≤ right))
  | ">=" => .ok (truth (right ≤ left))
  | "==" => .ok (truth (left = right))
  | "!=" => .ok (truth (left ≠ right))
  | "&" => .ok (wrap64 (bits64 left &&& bits64 right : Nat))
  | "^" => .ok (wrap64 (bits64 left ^^^ bits64 right : Nat))
  | _ => .ok (wrap64 (bits64 left ||| bits64 right : Nat))

def assignmentOperator? (sign : String) : Option String :=
  if sign = "=" then some ""
  else if ["==", "!=", "<=", ">="].contains sign || sign.toList.getLast? ≠ some '=' then none
  else some (String.ofList sign.toList.dropLast)

namespace Evaluator

variable (lookup : String → Option String)

def wrong {α : Type} (text : String) : Evaluator α := throw (.wrong text)

def peek : Evaluator (Option ArithmeticToken) := do return (← get).tokens.head?

def skip : Evaluator Unit :=
  modify fun evaluation => { evaluation with tokens := evaluation.tokens.drop 1 }

def takeSign (sign : String) : Evaluator Bool := do
  if (← peek) = some (.operator sign) then
    skip
    return true
  return false

def numberOf (text : String) : Except ArithmeticFault Int :=
  let read := readNumeral text.toList
  let (value, outOfRange) := clampSigned read.value
  if text.toList.all isSpaceChar then .ok 0
  else if read.rest.all isSpaceChar && !outOfRange then .ok value
  else .error (.badNumber text)

def valueOf (name : String) : Evaluator Int := do
  match (← get).assigned.lookup name with
  | some value => return value
  | none =>
    match numberOf ((lookup name).getD "") with
    | .ok value => return value
    | .error fault => throw fault

mutual

def assignment (live : Bool) : Nat → Evaluator Int
  | 0 => wrong "expecting primary"
  | fuel + 1 => do
    match (← get).tokens with
    | .name name :: .operator sign :: _ =>
      match assignmentOperator? sign with
      | some operator =>
        skip
        skip
        let value ← assignment live fuel
        if !live then return value
        let result ←
          if operator = "" then pure value
          else
            match applyOperator operator (← valueOf lookup name) value with
            | .ok result => pure result
            | .error fault => throw fault
        modify fun evaluation =>
          { evaluation with assigned := (name, result) :: evaluation.assigned }
        return result
      | none => choice live fuel
    | _ => choice live fuel

def choice (live : Bool) : Nat → Evaluator Int
  | 0 => wrong "expecting primary"
  | fuel + 1 => do
    let test ← disjunction live fuel
    if !(← takeSign "?") then return test
    let yes ← assignment (live && test ≠ 0) fuel
    if !(← takeSign ":") then wrong "expecting ':'"
    let no ← choice (live && test = 0) fuel
    return if test ≠ 0 then yes else no

def disjunction (live : Bool) : Nat → Evaluator Int
  | 0 => wrong "expecting primary"
  | fuel + 1 => do
    let left ← conjunction live fuel
    if !(← takeSign "||") then return left
    let right ← disjunction (live && left = 0) fuel
    return truth (left ≠ 0 || right ≠ 0)

def conjunction (live : Bool) : Nat → Evaluator Int
  | 0 => wrong "expecting primary"
  | fuel + 1 => do
    let left ← binary live 7 fuel
    if !(← takeSign "&&") then return left
    let right ← conjunction (live && left ≠ 0) fuel
    return truth (left ≠ 0 && right ≠ 0)

def binary (live : Bool) (loosest : Nat) : Nat → Evaluator Int
  | 0 => wrong "expecting primary"
  | fuel + 1 => do
    let left ← operand live fuel
    moreBinary live loosest left fuel

def moreBinary (live : Bool) (loosest : Nat) (left : Int) : Nat → Evaluator Int
  | 0 => wrong "expecting primary"
  | fuel + 1 => do
    match ← peek with
    | some (.operator sign) =>
      match precedence? sign with
      | some level =>
        if loosest < level then return left
        skip
        -- What binds tighter belongs to the right operand.
        let right ←
          if level = 0 then operand live fuel else binary live (level - 1) fuel
        if !live then moreBinary live loosest right fuel
        else
          match applyOperator sign left right with
          | .ok value => moreBinary live loosest value fuel
          | .error fault => throw fault
      | none => return left
    | _ => return left

def operand (live : Bool) : Nat → Evaluator Int
  | 0 => wrong "expecting primary"
  | fuel + 1 => do
    match ← peek with
    | some (.number value) =>
      skip
      return value
    | some (.name name) =>
      skip
      if live then valueOf lookup name else return 0
    | some (.operator "(") =>
      skip
      let value ← assignment live fuel
      if !(← takeSign ")") then wrong "expecting ')'"
      return value
    | some (.operator "+") =>
      skip
      operand live fuel
    | some (.operator "-") =>
      skip
      return wrap64 (-(← operand live fuel))
    | some (.operator "!") =>
      skip
      return truth ((← operand live fuel) = 0)
    | some (.operator "~") =>
      skip
      return wrap64 (-(← operand live fuel) - 1)
    | _ => wrong "expecting primary"

end

end Evaluator

def evaluateArithmetic (lookup : String → Option String) (text : String) :
    Except ArithmeticFault (Int × List (String × Int)) := do
  let tokens := arithmeticTokens (text.length + 1) text.toList
  let fuel := 16 * text.length + 32
  let (value, evaluation) ← (Evaluator.assignment lookup true fuel).run { tokens }
  if !evaluation.tokens.isEmpty then throw (.wrong "expecting EOF")
  return (value, evaluation.assigned.reverse)

end Script

end PipeShell
