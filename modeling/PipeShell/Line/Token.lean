/-!
# Tokens of a line

A word is kept as it was written together with its parts: stretches of text of one kind of
quoting, the quotes themselves taken away.
-/

namespace PipeShell

inductive Quote where
  | unquoted
  | single
  | double
  deriving DecidableEq, Repr

structure Part where
  quote : Quote
  text : List Char
  deriving DecidableEq, Repr

structure Word where
  raw : List Char := []
  parts : List Part := []
  deriving DecidableEq, Repr

inductive RedirectOperator where
  | input
  | output
  | append
  | heredoc
  deriving DecidableEq, Repr

inductive Token where
  | word (word : Word)
  | pipe
  | redirect (operator : RedirectOperator)
  | and
  | or
  | lineEnd
  deriving DecidableEq, Repr

/-- A character at the end of the parts: it joins the last part if that has the same quoting. -/
def pushChar (quote : Quote) (c : Char) : List Part → List Part
  | [] => [⟨quote, [c]⟩]
  | [last] =>
    if last.quote = quote then [⟨quote, last.text ++ [c]⟩] else [last, ⟨quote, [c]⟩]
  | first :: second :: rest => first :: pushChar quote c (second :: rest)

namespace Word

def read (word : Word) (c : Char) : Word := { word with raw := word.raw ++ [c] }

def push (word : Word) (quote : Quote) (c : Char) : Word :=
  { word with parts := pushChar quote c word.parts }

/-- A new, still empty part: even empty quotes leave one. -/
def openPart (word : Word) (quote : Quote) : Word :=
  { word with parts := word.parts ++ [⟨quote, []⟩] }

def isQuoted (word : Word) : Bool :=
  word.parts.any fun part => part.quote ≠ .unquoted

def literal (word : Word) : List Char := word.parts.flatMap Part.text

end Word

def RedirectOperator.spelling : RedirectOperator → String
  | .input => "<"
  | .output => ">"
  | .append => ">>"
  | .heredoc => "<<"

def Token.spelling : Token → String
  | .word spelled => String.ofList spelled.raw
  | .pipe => "|"
  | .redirect operator => operator.spelling
  | .and => "&&"
  | .or => "||"
  | .lineEnd => "newline"

end PipeShell
