import PipeShell.Line.Expansion
import PipeShell.Line.Lexer
import PipeShell.Line.Pipeline

/-!
# From tokens to a pipeline

A line is empty, or stages with `|` between them; a stage is at least one word or redirection.
Words are expanded on the way. What they expand to never decides how the line is cut.
-/

namespace PipeShell

structure Stage where
  command : Command := {}
  sawWord : Bool := false
  deriving DecidableEq, Repr

namespace Stage

def isBlank (stage : Stage) : Bool :=
  !stage.sawWord && stage.command.redirections.isEmpty

def addWord (session : Session) (stage : Stage) (word : Word) : Stage :=
  { command := { stage.command with
      arguments := stage.command.arguments ++ (expandFields session word).map String.ofList }
    sawWord := true }

def redirectionTo (session : Session) (operator : RedirectOperator) (word : Word) : Redirection :=
  -- A here-document's delimiter is never expanded; another target must be exactly one field.
  match operator with
  | .heredoc =>
    { operator, target := String.ofList word.literal, expandBody := !word.isQuoted }
  | _ =>
    match expandFields session word with
    | [field] => { operator, target := String.ofList field }
    | _ => { operator, target := String.ofList word.raw, ambiguous := true }

def addRedirection (session : Session) (stage : Stage) (operator : RedirectOperator)
    (word : Word) : Stage :=
  { stage with command := { stage.command with
      redirections := stage.command.redirections ++ [redirectionTo session operator word] } }

end Stage

def unexpected (token : Token) : ShellError := .unexpectedToken token.spelling

def closeStage (stage : Stage) (token : Token) : Except ShellError Unit :=
  if stage.isBlank then .error (unexpected token) else .ok ()

def parseStages (session : Session) : Stage → List Token → Except ShellError (List Stage)
  | stage, [] => do closeStage stage .lineEnd; return [stage]
  | stage, .lineEnd :: _ => do closeStage stage .lineEnd; return [stage]
  | stage, .pipe :: rest => do
    closeStage stage .pipe
    let more ← parseStages session {} rest
    return stage :: more
  | _, .and :: _ => .error (unexpected .and)
  | _, .or :: _ => .error (unexpected .or)
  | stage, .word word :: rest => parseStages session (stage.addWord session word) rest
  | stage, .redirect operator :: .word word :: rest =>
    parseStages session (stage.addRedirection session operator word) rest
  | _, .redirect _ :: token :: _ => .error (unexpected token)
  | _, [.redirect _] => .error (unexpected .lineEnd)

/-- The pipeline of the stages. One stage whose words all expanded to nothing is as good as an
empty line; any other stage needs a command. -/
def ofStages (stages : List Stage) : Except ShellError Pipeline :=
  match stages with
  | [only] =>
    if only.sawWord && only.command.arguments.isEmpty && only.command.redirections.isEmpty then
      .ok {}
    else if only.command.arguments.isEmpty then .error .missingCommand
    else .ok ⟨[only.command]⟩
  | _ =>
    if stages.any (·.command.arguments.isEmpty) then .error .missingCommand
    else .ok ⟨stages.map Stage.command⟩

def parse (session : Session) (tokens : List Token) : Except ShellError Pipeline :=
  match tokens with
  | [] | .lineEnd :: _ => .ok {}
  | _ => do ofStages (← parseStages session {} tokens)

def parseLine (session : Session) (line : String) : Except ShellError Pipeline := do
  parse session (← tokenize line)

end PipeShell
