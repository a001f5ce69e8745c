import PipeShell.Script.Engine

/-!
# Arguments of builtins

Options stand before the other arguments, and numbers are written in decimal digits.
-/

namespace PipeShell

namespace Script

abbrev Builtin := List String → Act Nat

def optionLetters (letters valued : String) (found : List (Char × String)) :
    List Char → Act (List (Char × String) × Option Char)
  | [] => return (found, none)
  | c :: rest => do
    if !letters.toList.contains c then Act.fail s!"Illegal option -{c}"
    if valued.toList.contains c then
      if rest.isEmpty then return (found, some c)
      return (found ++ [(c, String.ofList rest)], none)
    optionLetters letters valued (found ++ [(c, "")]) rest

def optionsAfter (letters valued : String) :
    Option Char → List String → Act (List (Char × String) × List String)
  | none, [] => return ([], [])
  | some letter, [] => Act.fail s!"No arg for -{letter} option"
  | some letter, value :: rest => do
    let (more, arguments) ← optionsAfter letters valued none rest
    return ((letter, value) :: more, arguments)
  | none, word :: rest => do
    match word.toList with
    | ['-', '-'] => return ([], rest)
    | '-' :: c :: others =>
      let (found, waiting) ← optionLetters letters valued [] (c :: others)
      let (more, arguments) ← optionsAfter letters valued waiting rest
      return (found ++ more, arguments)
    | _ => return ([], word :: rest)

/-- The letters of the options with their values, and the other arguments. `letters` are those that
exist, `valued` those of them that have a value. -/
def readOptions (letters valued : String) (words : List String) :
    Act (List (Char × String) × List String) :=
  optionsAfter letters valued none words

def operandsOf (words : List String) : Act (List String) := do
  return (← readOptions "" "" words).2

def numberOf (text : String) : Act Nat := do
  if isNumber text then return digitsValue 10 text.toList
  else Act.fail s!"Illegal number: {text}"

end Script

end PipeShell
