/-!
# Options of a command

Options may stand among the operands, up to a `--`. A letter option is written `-x`, several can
share a dash, and an argument follows directly or as the next word. A long option is written
`--name` or `--name=argument`, and any beginning that fits one name only is enough.
-/

namespace PipeShell

inductive ArgumentNeed where
  | absent
  | needed
  | optional
  deriving DecidableEq, Repr

structure OptionForm where
  letter : Option Char := none
  name : String := ""
  argument : ArgumentNeed := .absent
  deriving DecidableEq, Repr

def OptionForm.key (form : OptionForm) : String :=
  match form.letter with
  | some letter => String.singleton letter
  | none => form.name

def flag (letter : Char) (name : String) : OptionForm := { letter := some letter, name }
def valued (letter : Char) (name : String) : OptionForm :=
  { letter := some letter, name, argument := .needed }
def longFlag (name : String) : OptionForm := { name }
def longValued (name : String) : OptionForm := { name, argument := .needed }
def longOptional (name : String) : OptionForm := { name, argument := .optional }

def sharedDash : String := "-"

/-- What was read from the words of a command: options with their arguments in order, the operands,
and what is wrong with the first option that is not as it should be. -/
structure OptionsRead where
  options : List (String × String) := []
  operands : List String := []
  fault : Option String := none
  deriving DecidableEq, Repr

namespace OptionsRead

def push (read : OptionsRead) (key argument : String) : OptionsRead :=
  { read with options := read.options ++ [(key, argument)] }

def has (read : OptionsRead) (key : String) : Bool := read.options.any (·.1 == key)

end OptionsRead

inductive WordRead where
  | done (read : OptionsRead)
  | needs (read : OptionsRead) (key : String) (complaint : String)
  | wrong (read : OptionsRead) (complaint : String)

def readLetters (forms : List OptionForm) (read : OptionsRead) (shared : Bool) :
    List Char → WordRead
  | [] => .done read
  | letter :: rest =>
    match forms.find? (·.letter == some letter) with
    | none => .wrong read s!"invalid option -- '{letter}'"
    | some form =>
      match form.argument with
      | .absent =>
        readLetters forms (read.push form.key (if shared then sharedDash else "")) true rest
      | .optional => .done (read.push form.key (String.ofList rest))
      | .needed =>
        if rest.isEmpty then
          .needs read form.key s!"option requires an argument -- '{letter}'"
        else .done (read.push form.key (String.ofList rest))

def longForms (forms : List OptionForm) (name : String) : List OptionForm :=
  let named := forms.filter (·.name ≠ "")
  match named.filter (·.name == name) with
  | [] => named.filter fun form => name.toList.isPrefixOf form.name.toList
  | exact => exact

def readLong (forms : List OptionForm) (read : OptionsRead) (text : List Char) : WordRead :=
  let name := String.ofList (text.takeWhile (· ≠ '='))
  let argument? := if text.contains '=' then some (text.drop (name.length + 1)) else none
  match longForms forms name with
  | [] => .wrong read s!"unrecognized option '--{String.ofList text}'"
  | [form] =>
    match form.argument, argument? with
    | .absent, none => .done (read.push form.key "")
    | .absent, some _ => .wrong read s!"option '--{form.name}' doesn't allow an argument"
    | _, some argument => .done (read.push form.key (String.ofList argument))
    | .optional, none => .done (read.push form.key "")
    | .needed, none => .needs read form.key s!"option '--{form.name}' requires an argument"
  | first :: more =>
    if more.all fun form => form.key == first.key && form.argument == first.argument then
      match first.argument, argument? with
      | .absent, none => .done (read.push first.key "")
      | .absent, some _ => .wrong read s!"option '--{first.name}' doesn't allow an argument"
      | _, some argument => .done (read.push first.key (String.ofList argument))
      | .optional, none => .done (read.push first.key "")
      | .needed, none => .needs read first.key s!"option '--{first.name}' requires an argument"
    else
      let names := (first :: more).map fun form => s!" '--{form.name}'"
      .wrong read s!"option '--{name}' is ambiguous; possibilities:{String.join names}"

/-- Reads the words of a command after its name. `waiting` is an option that takes the next word,
and the complaint if there is none. -/
def readWords (forms : List OptionForm) (read : OptionsRead)
    (waiting : Option (String × String)) : List String → OptionsRead
  | [] =>
    match waiting with
    | none => read
    | some (_, complaint) => { read with fault := some complaint }
  | word :: rest =>
    match waiting with
    | some (key, _) => readWords forms (read.push key word) none rest
    | none =>
      let follow : WordRead → OptionsRead
        | .done read => readWords forms read none rest
        | .needs read key complaint => readWords forms read (some (key, complaint)) rest
        | .wrong read complaint => { read with fault := some complaint }
      match word.toList with
      | ['-', '-'] => { read with operands := read.operands ++ rest }
      | '-' :: '-' :: text => follow (readLong forms read text)
      | '-' :: letter :: letters => follow (readLetters forms read false (letter :: letters))
      | _ => readWords forms { read with operands := read.operands ++ [word] } none rest

def readOptions (forms : List OptionForm) (words : List String) : OptionsRead :=
  readWords forms {} none words

end PipeShell
