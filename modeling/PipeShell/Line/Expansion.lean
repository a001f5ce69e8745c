import PipeShell.Line.Token
import PipeShell.Name
import PipeShell.Session
import PipeShell.Text.Blank

/-!
# Expansion

References (`$NAME`, a name in braces, `$?`, `$0` to `$9`) are replaced in one pass; values are
never looked at again. Text in single quotes stays, double-quoted text is expanded as a whole, and
the values of unquoted references are cut into fields at white space.
-/

namespace PipeShell

inductive Reference where
  | status
  | shellName
  | positional
  | variable (name : List Char)
  deriving DecidableEq, Repr

/-- A name in braces, given with what follows the opening brace: up to the first closing brace
there must stand a variable name or `?`. -/
def readBraced? (text : List Char) : Option (Reference × Nat) :=
  let name := text.takeWhile (· != '}')
  if name.length < text.length then
    if name = ['?'] then some (.status, name.length + 2)
    else if isValidName name then some (.variable name, name.length + 2)
    else none
  else none

/-- The reference that the text after a `$` begins with, and how many characters it takes. -/
def readReference? : List Char → Option (Reference × Nat)
  | [] => none
  | c :: rest =>
    if c = '?' then some (.status, 1)
    else if c = '0' then some (.shellName, 1)
    else if c.isDigit then some (.positional, 1)
    else if isNameStart c then
      let name := c :: rest.takeWhile isNameChar
      some (.variable name, name.length)
    else if c = '{' then readBraced? rest
    else none

def Reference.value (session : Session) : Reference → List Char
  | .status => (toString session.exitStatus).toList
  | .shellName => PipeShell.shellName.toList
  | .positional => []
  | .variable name => ((session.valueOf? (String.ofList name)).getD "").toList

inductive Piece where
  | literal (c : Char)
  | value (text : List Char)
  deriving DecidableEq, Repr

/-- The pieces of the text after its first `skip` characters. A `$` that begins no reference
stands for itself. -/
def scan (session : Session) : Nat → List Char → List Piece
  | _, [] => []
  | skip + 1, _ :: rest => scan session skip rest
  | 0, c :: rest =>
    if c = '$' then
      match readReference? rest with
      | some (reference, length) => .value (reference.value session) :: scan session length rest
      | none => .literal '$' :: scan session 0 rest
    else .literal c :: scan session 0 rest

def Piece.text : Piece → List Char
  | .literal c => [c]
  | .value text => text

def expandText (session : Session) (text : List Char) : List Char :=
  (scan session 0 text).flatMap Piece.text

/-- A leading `~` is replaced by the home directory if there is one. What is assumed of it: it
counts alone or before a `/` only, so `~name` stays; the directory takes its place as it is, and one
that ends in a `/` keeps that. -/
def expandTilde (home : Option String) (text : List Char) : List Char :=
  match text with
  | '~' :: rest =>
    match home with
    | some directory =>
      if rest.head? = none ∨ rest.head? = some '/' then directory.toList ++ rest else text
    | none => text
  | _ => text

/-- The fields built so far. The last one is open while `active`; it may then be empty. -/
structure Fields where
  complete : List (List Char) := []
  current : List Char := []
  active : Bool := false
  deriving DecidableEq, Repr

namespace Fields

def addLiteral (fields : Fields) (text : List Char) : Fields :=
  { fields with current := fields.current ++ text, active := true }

def addValueChar (fields : Fields) (c : Char) : Fields :=
  if isBlank c then
    if fields.active then ⟨fields.complete ++ [fields.current], [], false⟩ else fields
  else { fields with current := fields.current ++ [c], active := true }

def addPiece (fields : Fields) : Piece → Fields
  | .literal c => fields.addLiteral [c]
  | .value text => text.foldl addValueChar fields

def addPart (session : Session) (first : Bool) (fields : Fields) (part : Part) : Fields :=
  match part.quote with
  | .single => fields.addLiteral part.text
  | .double => fields.addLiteral (expandText session part.text)
  | .unquoted =>
    let text :=
      if first then expandTilde (session.valueOf? "HOME") part.text else part.text
    (scan session 0 text).foldl addPiece fields

def finish (fields : Fields) : List (List Char) :=
  if fields.active then fields.complete ++ [fields.current] else fields.complete

end Fields

def expandParts (session : Session) : List Part → Fields
  | [] => {}
  | first :: rest =>
    rest.foldl (Fields.addPart session false) (Fields.addPart session true {} first)

def expandFields (session : Session) (word : Word) : List (List Char) :=
  (expandParts session word.parts).finish

end PipeShell
