import PipeShell.Script.VariableCommands
import PipeShell.Script.ProgramSearch

/-!
# Commands on names: what a word stands for
-/

namespace PipeShell

namespace Script

def plainBuiltins : List String :=
  ["[", "alias", "bg", "cd", "chdir", "command", "echo", "false", "fg", "getopts", "hash", "jobs",
    "kill", "printf", "pwd", "read", "test", "true", "type", "ulimit", "umask", "unalias", "wait"]

namespace NameCommands

/-! ## Words for words -/

def aliasRank (name : String) : Nat :=
  let codes := name.toList.map Char.toNat
  (codes.headD 0 * 16 + codes.foldl (· + ·) 0) % 39

def aliasLine (entry : String × String) : String := s!"{entry.1}={inSingleQuotes entry.2}\n"

def splitAlias? (word : String) : Option (String × String) :=
  match word.toList with
  | first :: rest =>
    let name := rest.takeWhile (· ≠ '=')
    if name.length < rest.length then
      some (String.ofList (first :: name), String.ofList (rest.drop (name.length + 1)))
    else none
  | [] => none

def putAlias (name text : String) : Act Unit :=
  modify fun state =>
    let known := state.aliases
    { state with
      aliases :=
        if known.any (·.1 = name) then
          known.map fun entry => if entry.1 = name then (name, text) else entry
        else known ++ [(name, text)] }

def showOrPut (status : Nat) : List String → Act Nat
  | [] => return status
  | word :: rest => do
    match splitAlias? word with
    | some (name, text) =>
      putAlias name text
      showOrPut status rest
    | none =>
      match (← get).aliases.lookup word with
      | some text =>
        Act.print (aliasLine (word, text))
        showOrPut status rest
      | none =>
        Act.printError s!"alias: {word} not found\n"
        showOrPut 1 rest

def alias_ : Builtin := fun words => do
  if words.isEmpty then
    let sorted := (← get).aliases.mergeSort fun left right => aliasRank left.1 ≤ aliasRank right.1
    sorted.forM fun entry => Act.print (aliasLine entry)
    return 0
  showOrPut 0 words

def removeAliases (status : Nat) : List String → Act Nat
  | [] => return status
  | word :: rest => do
    if ((← get).aliases.lookup word).isSome then
      modify fun state => { state with aliases := state.aliases.filter (·.1 ≠ word) }
      removeAliases status rest
    else
      Act.printError s!"unalias: {word} not found\n"
      removeAliases 1 rest

def unalias : Builtin := fun words => do
  let (options, names) ← readOptions "a" "" words
  if options.isEmpty then removeAliases 0 names
  else
    modify fun state => { state with aliases := [] }
    return 0

/-! ## What a word stands for -/

inductive Meaning where
  | keyword
  | alias (text : String)
  | function
  | builtin (special : Bool)
  | program (path : String) (remembered : Bool)
  | unknown
  deriving DecidableEq, Repr

def meaningOf (path? : Option String) (word : String) : Act Meaning := do
  let state ← get
  if keywords.contains word then return .keyword
  else if let some text := state.aliases.lookup word then return .alias text
  else if word.toList.contains '/' then
    let world := state.world
    let isThere := (world.files.status world.process.directory (nameOf word)).isOk
    return if isThere then .program word false else .unknown
  else if (state.functions.lookup word).isSome then return .function
  else if specialBuiltins.contains word then return .builtin true
  else if plainBuiltins.contains word then return .builtin false
  else
    let isRemembered := path?.isNone && state.remembered.any (·.name = word)
    match ← findProgram (path?.getD state.searchPath) word with
    | .ok (_, path) => return .program path isRemembered
    | .error _ => return .unknown

def describe (path? : Option String) (verbose : Bool) (word : String) : Act Nat := do
  let show_ (long short : String) : Act Nat := do
    Act.print (if verbose then word ++ long ++ "\n" else short ++ "\n")
    return 0
  match ← meaningOf path? word with
  | .keyword => show_ " is a shell keyword" word
  | .alias text =>
    if verbose then show_ s!" is an alias for {text}" word
    else
      Act.print ("alias " ++ aliasLine (word, text))
      return 0
  | .function => show_ " is a shell function" word
  | .builtin special => show_ (if special then " is a special shell builtin"
      else " is a shell builtin") word
  | .program path remembered =>
    show_ (if remembered then s!" is a tracked alias for {path}" else s!" is {path}") path
  | .unknown =>
    if verbose then Act.print s!"{word}: not found\n"
    return 127

def type : Builtin := fun words => do
  words.foldlM (fun status word => do return status ||| (← describe none true word)) 0

def command : Builtin := fun words => do
  let (options, operands) ← readOptions "pvV" "" words
  let has (letter : Char) : Bool := options.any (·.1 = letter)
  match operands with
  | word :: _ =>
    if has 'v' || has 'V' then
      describe (if has 'p' then some Act.standardPath else none) (has 'V') word
    else return 0
  | [] => return 0

/-! ## Remembered programs -/

def rememberAll (status : Nat) : List String → Act Nat
  | [] => return status
  | word :: rest => do
    modify fun state => { state with remembered := state.remembered.filter (·.name ≠ word) }
    let known :=
      word.toList.contains '/' || ((← get).functions.lookup word).isSome ||
        specialBuiltins.contains word || plainBuiltins.contains word
    if known then rememberAll status rest
    else
      match ← findProgram (← get).searchPath word with
      | .ok _ => rememberAll status rest
      | .error errno =>
        Act.warn s!"{word}: {runMessage errno}"
        rememberAll 1 rest

def hash : Builtin := fun words => do
  let (options, names) ← readOptions "r" "" words
  if !options.isEmpty then
    modify fun state => { state with remembered := [] }
    return 0
  if names.isEmpty then
    let sorted := (← get).remembered.mergeSort fun left right => left.rank ≤ right.rank
    sorted.forM fun entry => Act.print (entry.path ++ (if entry.stale then "*" else "") ++ "\n")
    return 0
  rememberAll 0 names

end NameCommands

end Script

end PipeShell
