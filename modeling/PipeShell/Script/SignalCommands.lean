import PipeShell.Script.VariableCommands

/-!
# Commands on signals and children
-/

namespace PipeShell

namespace Script

namespace SignalCommands

def nameOfSignal (signal : Nat) : String := (signalNames[signal]?).getD ""

/-! ## Traps -/

def listTraps : Act Unit := do
  let traps := (← get).traps.mergeSort fun left right => left.1 ≤ right.1
  traps.forM fun entry =>
    Act.print s!"trap -- {inSingleQuotes entry.2} {nameOfSignal entry.1}\n"

def setTraps (action : Option String) : List String → Act Nat
  | [] => return 0
  | word :: rest => do
    match signalNumber? 0 word with
    | none =>
      Act.printError s!"trap: {word}: bad trap\n"
      return 1
    | some signal =>
      modify fun state =>
        let others := state.traps.filter (·.1 ≠ signal)
        { state with traps := (action.map ((signal, ·))).toList ++ others }
      setTraps action rest

def trap : Builtin := fun words => do
  match ← operandsOf words with
  | [] =>
    listTraps
    return 0
  | [word] => setTraps none [word]
  | action :: signals =>
    if isNumber action && (signalNumber? 0 action).isSome then
      setTraps none (action :: signals)
    else setTraps (if action = "-" then none else some action) signals

/-! ## Kill -/

def usage {α : Type} : Act α :=
  Act.fail (String.join
    ["Usage: kill [-s sigspec | -signum | -sigspec] [pid | job]... or\n", "kill -l [exitstatus]"])

def listSignals : List String → Act Nat
  | [] => do
    Act.print "0\n"
    (signalNames.drop 1).forM fun name => Act.print (name ++ "\n")
    return 0
  | word :: _ => do
    let status ← numberOf word
    let signal := if 128 < status then status - 128 else status
    if signal = 0 || Act.signalCount ≤ signal then
      Act.fail s!"invalid signal number or exit status: {word}"
    Act.print (nameOfSignal signal ++ "\n")
    return 0

def jobOf (word : String) : Act Background := do
  let backgrounds := (← get).backgrounds
  let digits := word.toList.drop 1
  let found :=
    if isNumber (String.ofList digits) then backgrounds[digitsValue 10 digits - 1]?
    else if digits.isEmpty || digits = ['%'] || digits = ['+'] then backgrounds.getLast?
    else none
  match found with
  | some background => return background
  | none => Act.fail s!"No such job: {word}"

def sendAll (signal : Nat) (status : Nat) : List String → Act Nat
  | [] => return status
  | word :: rest => do
    match word.toList with
    | '%' :: _ =>
      let _ ← jobOf word
      Act.warn s!"job {word} not created under job control"
      sendAll signal 1 rest
    | '-' :: digits =>
      let _ ← numberOf (String.ofList digits)
      Act.warn "No such process\n"
      sendAll signal 1 rest
    | _ =>
      let process ← numberOf word
      if ← Act.send process signal then sendAll signal status rest
      else
        Act.warn "No such process\n"
        sendAll signal 1 rest

def kill : Builtin := fun words => do
  match words with
  | [] => usage
  | first :: rest =>
    let begun : Option Nat :=
      match first.toList with
      | '-' :: name => signalNumber? 1 (String.ofList name)
      | _ => none
    match begun with
    | some signal => if rest.isEmpty then usage else sendAll signal 0 rest
    | none =>
      let (options, operands) ← readOptions "ls" "s" words
      let lists := options.any (·.1 = 'l')
      let signal ← chosen none options
      if lists then if signal.isSome then usage else listSignals operands
      else if operands.isEmpty then usage
      else sendAll (signal.getD 15) 0 operands
where
  /-- The signal that the last option names. -/
  chosen (found : Option Nat) : List (Char × String) → Act (Option Nat)
    | [] => return found
    | ('s', name) :: rest => do
      match signalNumber? 1 name with
      | some signal => chosen (some signal) rest
      | none => Act.fail s!"invalid signal number or name: {name}"
    | _ :: rest => chosen found rest

/-! ## Children -/

def waitAll (status : Nat) : List String → Act Nat
  | [] => return status
  | word :: rest => do
    let found ←
      if word.toList.head? = some '%' then some <$> jobOf word
      else do
        let process ← numberOf word
        pure ((← get).backgrounds.find? (·.process = process))
    match found with
    | none => waitAll status rest
    | some background =>
      if let some signal := background.signal then
        if signal ≠ 2 && signal ≠ 13 then Act.printError (signalText signal ++ "\n")
        modify fun state =>
          { state with
            backgrounds := state.backgrounds.map fun known =>
              if known = background then { known with signal := none } else known }
      waitAll background.status rest

def wait : Builtin := fun words => do
  match ← operandsOf words with
  | [] => return 0
  | words => waitAll 127 words

def jobs : Builtin := fun words => do
  let _ ← readOptions "lp" "" words
  return 0

def resume : Builtin := fun words => do
  match ← operandsOf words with
  | [] => Act.fail "No current job"
  | word :: _ =>
    let _ ← jobOf word
    Act.fail s!"job {word} not created under job control"

end SignalCommands

end Script

end PipeShell
