/-!
# Scripts

A script is a row of commands. The words of a command keep what is to be replaced in them, and
commands stand in words in turn.
-/

namespace PipeShell

namespace Script

inductive ParameterForm where
  | plain
  | length
  | orElse
  | ifSet
  | orFail
  | orAssign
  | trimStart (longest : Bool)
  | trimEnd (longest : Bool)
  | bad
  deriving DecidableEq, Repr

inductive RedirectKind where
  | input
  | output
  | replace
  | append
  | update
  | copy
  deriving DecidableEq, Repr

mutual

/-- A piece of a word. What is `quoted` stands for itself and is kept together. -/
inductive Piece where
  | char (c : Char) (quoted : Bool)
  | quoteMark
  | parameter (name : String) (form : ParameterForm) (nullCounts : Bool) (quoted : Bool)
      (word : List Piece)
  | output (commands : List Command) (quoted : Bool)
  | arithmetic (word : List Piece) (quoted : Bool)

inductive Redirect where
  | file (descriptor : Nat) (kind : RedirectKind) (target : List Piece)
  | document (descriptor : Nat) (number : Nat)

inductive Command where
  | simple (line : Nat) (assignments words : List (List Piece)) (redirects : List Redirect)
  | pipeline (stages : List Command)
  | background (line : Nat) (body : Command) (redirects : List Redirect)
  | negation (body : Command)
  | both (first second : Command)
  | either (first second : Command)
  | sequence (commands : List Command)
  | redirected (line : Nat) (body : Command) (redirects : List Redirect)
  | subshell (line : Nat) (body : Command) (redirects : List Redirect)
  | conditional (test body : Command) (otherwise : Option Command)
  | loop (untilTrue : Bool) (test body : Command)
  | each (line : Nat) (name : String) (words : List (List Piece)) (body : Command)
  | choice (line : Nat) (word : List Piece) (cases : List (List (List Piece) × Option Command))
  | define (name : String) (body : Command)

end

instance : Inhabited Piece := ⟨.quoteMark⟩
instance : Inhabited Redirect := ⟨.document 0 0⟩
instance : Inhabited Command := ⟨.sequence []⟩

abbrev Word := List Piece

def bareText? (word : Word) : Option String :=
  (word.mapM fun (piece : Piece) =>
    match piece with
    | .char c false => some c
    | _ => none).map String.ofList

def unquotedText (word : Word) : String :=
  String.ofList (word.filterMap fun (piece : Piece) =>
    match piece with
    | .char c _ => some c
    | _ => none)

def keywords : List String :=
  ["!", "case", "do", "done", "elif", "else", "esac", "fi", "for", "if", "in", "then", "until",
    "while", "\x7b", "\x7d"]

inductive Token where
  | finish
  | newline
  | semicolon
  | ampersand
  | andIf
  | orIf
  | bar
  | opening
  | closing
  | caseEnd
  | redirect
  | word
  | keyword (text : String)
  deriving DecidableEq, Repr

namespace Token

def shown : Token → String
  | .finish => "end of file"
  | .newline => "newline"
  | .semicolon => "\";\""
  | .ampersand => "\"&\""
  | .andIf => "\"&&\""
  | .orIf => "\"||\""
  | .bar => "\"|\""
  | .opening => "\"(\""
  | .closing => "\")\""
  | .caseEnd => "\";;\""
  | .redirect => "redirection"
  | .word => "word"
  | .keyword text => String.join ["\"", text, "\""]

def endsList : Token → Bool
  | .finish | .closing | .caseEnd => true
  | .keyword text =>
    ["do", "done", "elif", "else", "esac", "fi", "then", "\x7d"].contains text
  | _ => false

end Token

end Script

end PipeShell
