import PipeShell.Environment
import PipeShell.Text.Alphanumeric
import PipeShell.Text.Blank

/-!
# Variables from a file

A file of lines `NAME=value`. Values can be quoted and can refer to variables that were set before.
The first line that cannot be read ends the file.
-/

namespace PipeShell

namespace EnvironmentFile

/-- What the text so far has set. A variable of the process goes before one of the file. -/
structure Values where
  process : String → Option String
  file : Environment := {}

def Values.get (values : Values) (name : String) : String :=
  ((values.process name).or (values.file.get? name)).getD ""

/-- Where in a value the next character stands. A reference is `open` until a character that is no
letter or digit ends it; one in braces is ended by the closing brace only. -/
inductive Mode where
  | plain
  | escaped
  | single
  | ended
  | reference (name : List Char)
  | braced (name : List Char)
  deriving DecidableEq, Repr

structure State where
  output : List Char := []
  mode : Mode := .plain
  quoted : Bool := false
  deriving DecidableEq, Repr

def State.push (state : State) (c : Char) : State :=
  { state with output := state.output ++ [c], mode := .plain }

def State.insert (state : State) (values : Values) (name : List Char) : State :=
  { state with output := state.output ++ (values.get (String.ofList name)).toList, mode := .plain }

def step (values : Values) (state : State) (c : Char) : Option State :=
  match state.mode with
  | .ended =>
    if c = ' ' ∨ c = '\t' then some state else none
  | .escaped =>
    if c = 'n' then some (state.push '\n')
    else if c = '\\' ∨ c = '\'' ∨ c = '"' ∨ c = '$' ∨ c = ' ' then some (state.push c)
    else none
  | .single =>
    if c = '\'' then some { state with mode := .plain }
    else some { state with output := state.output ++ [c] }
  | .reference name =>
    if isLetterOrDigit c then some { state with mode := .reference (name ++ [c]) }
    else if c = '{' ∧ name = [] then some { state with mode := .braced [] }
    else if c = '$' then some { state.insert values name with mode := .reference [] }
    else some ((state.insert values name).push c)
  | .braced name =>
    if c = '}' then some (state.insert values name)
    else some { state with mode := .braced (name ++ [c]) }
  | .plain =>
    if c = '$' then some { state with mode := .reference [] }
    else if c = '\\' then some { state with mode := .escaped }
    else if c = '"' then some { state with quoted := !state.quoted }
    else if state.quoted then some (state.push c)
    else if c = '\'' then some { state with mode := .single }
    else if c = ' ' ∨ c = '\t' then some { state with mode := .ended }
    else some (state.push c)

def finish (values : Values) (state : State) : Option (List Char) :=
  match state.mode with
  | .single | .braced _ => none
  | .reference name => if state.quoted then none else some (state.insert values name).output
  | _ => if state.quoted then none else some state.output

def readValue (values : Values) (state : State) : List Char → Option (List Char)
  | [] => finish values state
  | c :: rest =>
    if state.mode = .ended ∧ c = '#' then finish values state
    else
      match step values state c with
      | some next => readValue values next rest
      | none => none

def isKeyChar (c : Char) : Bool := isNameChar c || c == '.'

def readKey? (text : List Char) : Option (List Char × List Char) :=
  match text with
  | first :: _ =>
    if isNameStart first then
      some (text.takeWhile isKeyChar, (text.dropWhile isKeyChar).dropWhile isBlank)
    else none
  | [] => none

inductive Line where
  | nothing
  | assignment (name value : String)
  deriving DecidableEq, Repr

def readAssignment? (values : Values) (key text : List Char) : Option Line :=
  match text with
  | '=' :: rest =>
    let value := rest.dropWhile isBlank
    if value.isEmpty ∨ value.head? = some '#' then some (.assignment (String.ofList key) "")
    else (readValue values {} value).map fun read =>
      .assignment (String.ofList key) (String.ofList read)
  | _ => none

def readLine? (values : Values) (line : List Char) : Option Line :=
  -- The word `export` before the name means nothing, but can also be the name.
  let text := trimBlank line
  if text.isEmpty ∨ text.head? = some '#' then some .nothing
  else
    match readKey? text with
    | none => none
    | some (key, rest) =>
      if key = "export".toList ∧ rest.head? ≠ some '=' then
        match readKey? rest with
        | none => none
        | some (key, rest) => readAssignment? values key rest
      else readAssignment? values key rest

/-- The assignments of the lines, up to the first line that cannot be read. `define` is what becomes
of an assignment before the next line is read. -/
def load {α : Type} (lookup : α → String → Option String)
    (define : α → String → String → α) (known : Environment) (state : α) :
    List (Option (List Char)) → α
  | [] => state
  | none :: _ => state
  | some line :: rest =>
    match readLine? ⟨lookup state, known⟩ line with
    | none => state
    | some .nothing => load lookup define known state rest
    | some (.assignment name value) =>
      load lookup define (known.set name value) (define state name value) rest

end EnvironmentFile

end PipeShell
