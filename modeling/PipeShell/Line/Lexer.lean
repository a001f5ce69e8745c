import PipeShell.Error
import PipeShell.Line.Token
import PipeShell.Text.Blank

/-!
# Splitting a line into tokens

The line is read from left to right by a machine with one step per character. A step may end a
token, and then says so at once; the end of the line ends the last one.
-/

namespace PipeShell

def isMeta (c : Char) : Bool :=
  c == '|' || c == '&' || c == ';' || c == '(' || c == ')' || c == '<' || c == '>'

def isEscapable (c : Char) : Bool :=
  c == '"' || c == '\\' || c == '$' || c == '\x60'

inductive WordState where
  | plain
  | escaped
  | single
  | double
  | doubleEscaped
  deriving DecidableEq, Repr

/-- Where the next character stands. After the first character of an operator it is still open
whether a second one follows. -/
inductive LexState where
  | between
  | afterPipe
  | afterAmpersand
  | afterLess
  | afterGreater
  | inWord (state : WordState) (word : Word)
  deriving DecidableEq, Repr

def plainStep (word : Word) (c : Char) : LexState :=
  if c = '\'' then .inWord .single ((word.read c).openPart .single)
  else if c = '"' then .inWord .double ((word.read c).openPart .double)
  else if c = '\\' then .inWord .escaped (word.read c)
  else .inWord .plain ((word.read c).push .unquoted c)

def startStep (c : Char) : Except ShellError LexState :=
  if isBlank c then .ok .between
  else if c = '|' then .ok .afterPipe
  else if c = '&' then .ok .afterAmpersand
  else if c = '<' then .ok .afterLess
  else if c = '>' then .ok .afterGreater
  else if c = ';' ∨ c = '(' ∨ c = ')' then .error (.unexpectedToken (String.singleton c))
  else .ok (plainStep {} c)

def startAfter (token : Token) (c : Char) : Except ShellError (List Token × LexState) :=
  (startStep c).map ([token], ·)

def wordStep (state : WordState) (word : Word) (c : Char) :
    Except ShellError (List Token × LexState) :=
  match state with
  | .plain =>
    if isBlank c || isMeta c then startAfter (.word word) c else .ok ([], plainStep word c)
  | .escaped => .ok ([], .inWord .plain ((word.read c).push .single c))
  | .single =>
    if c = '\'' then .ok ([], .inWord .plain (word.read c))
    else .ok ([], .inWord .single ((word.read c).push .single c))
  | .double =>
    if c = '"' then .ok ([], .inWord .plain (word.read c))
    else if c = '\\' then .ok ([], .inWord .doubleEscaped (word.read c))
    else .ok ([], .inWord .double ((word.read c).push .double c))
  | .doubleEscaped =>
    if isEscapable c then
      .ok ([], .inWord .double (((word.read c).push .single c).openPart .double))
    else .ok ([], .inWord .double (((word.push .double '\\').read c).push .double c))

def lexStep : LexState → Char → Except ShellError (List Token × LexState)
  | .between, c => (startStep c).map ([], ·)
  | .afterPipe, c => if c = '|' then .ok ([.or], .between) else startAfter .pipe c
  | .afterAmpersand, c =>
    if c = '&' then .ok ([.and], .between) else .error (.unexpectedToken "&")
  | .afterLess, c =>
    if c = '<' then .ok ([.redirect .heredoc], .between) else startAfter (.redirect .input) c
  | .afterGreater, c =>
    if c = '>' then .ok ([.redirect .append], .between) else startAfter (.redirect .output) c
  | .inWord state word, c => wordStep state word c

def lexEnd : LexState → Except ShellError (List Token)
  | .between => .ok []
  | .afterPipe => .ok [.pipe]
  | .afterAmpersand => .error (.unexpectedToken "&")
  | .afterLess => .ok [.redirect .input]
  | .afterGreater => .ok [.redirect .output]
  | .inWord .plain word => .ok [.word word]
  | .inWord .escaped word => .ok [.word (word.push .unquoted '\\')]
  | .inWord .single _ => .error (.unmatchedQuote '\'')
  | .inWord .double _ => .error (.unmatchedQuote '"')
  | .inWord .doubleEscaped _ => .error (.unmatchedQuote '"')

def lexFrom : LexState → List Char → Except ShellError (List Token)
  | state, [] => lexEnd state
  | state, c :: rest => do
    let (complete, next) ← lexStep state c
    let more ← lexFrom next rest
    return complete ++ more

def tokenizeChars (line : List Char) : Except ShellError (List Token) :=
  (lexFrom .between line).map (· ++ [.lineEnd])

def tokenize (line : String) : Except ShellError (List Token) :=
  tokenizeChars line.toList

end PipeShell
