import PipeShell.Source
import PipeShell.Text.Blank

/-!
# The history of lines

The last lines entered, kept in a file from one session to the next. Lines that are empty, begin
with white space or repeat the one before are not kept.
-/

namespace PipeShell

/-- The lines, oldest first, and how many of them the file may not have yet. -/
structure History where
  entries : List String := []
  unsaved : Nat := 0
  deriving DecidableEq, Repr

def historyLimit : Nat := 100

def historyHeading : String := "#V2"

def escapeLine : List Char → List Char
  | [] => []
  | '\\' :: rest => '\\' :: '\\' :: escapeLine rest
  | '\n' :: rest => '\\' :: 'n' :: escapeLine rest
  | c :: rest => c :: escapeLine rest

def unescapeLine? : List Char → Option (List Char)
  | [] => some []
  | '\\' :: '\\' :: rest => (unescapeLine? rest).map ('\\' :: ·)
  | '\\' :: 'n' :: rest => (unescapeLine? rest).map ('\n' :: ·)
  | '\\' :: _ => none
  | c :: rest => (unescapeLine? rest).map (c :: ·)

namespace History

def ignores (history : History) (line : String) : Bool :=
  match line.toList with
  | [] => true
  | first :: _ => isBlank first || history.entries.getLast? == some line

def add (history : History) (line : String) : History :=
  if history.ignores line then history
  else
    let kept := (history.entries ++ [line]).drop (history.entries.length + 1 - historyLimit)
    ⟨kept, min (history.unsaved + 1) kept.length⟩

def addWritten (world : World) (history : History) (line : String) : World × History :=
  match unescapeLine? line.toList with
  | some text => (world, history.add (String.ofList text))
  | none => (world.logOther .warn s!"bad escaped line: {line}", history.add line)

/-- Adds the lines of a file up to the first that is no text. What was added before that stays, and
counts as unsaved. -/
def addLines (escaped : Bool) (world : World) (history : History) :
    List Bytes → World × History × Option IoFailure
  | [] => (world, { history with unsaved := 0 }, none)
  | line :: rest =>
    match decode? line with
    | none => (world, history, some .notUtf8)
    | some text =>
      if escaped then
        let (world, history) := addWritten world history text
        addLines escaped world history rest
      else addLines escaped world (history.add text) rest

def addContent (world : World) (history : History) (content : Bytes) :
    World × History × Option IoFailure :=
  match rawLines content with
  | [] => (world, { history with unsaved := 0 }, none)
  | first :: rest =>
    if first = encode historyHeading then addLines true world history rest
    else addLines false world history (first :: rest)

def load (world : World) (history : History) (path : String) :
    World × History × Option IoFailure :=
  match world.openPath .read path with
  | .error failure => (world, history, some failure)
  | .ok (opened, number) =>
    match opened.drain ((opened.stream? number).getD .input) with
    | (drained, .error errno) => (drained.close number, history, some (.system errno))
    | (drained, .ok content) => addContent (drained.close number) history content

def content (history : History) : Bytes :=
  encode historyHeading ++ [10] ++
    history.entries.flatMap fun line => utf8 (escapeLine line.toList) ++ [10]

def save (world : World) (history : History) (path : String) : World × Option IoFailure :=
  if history.unsaved = 0 ∨ history.entries.isEmpty then (world, none)
  else
    match world.openPath .overwrite path with
    | .error failure => (world, some failure)
    | .ok (opened, number) =>
      let (written, failure) := opened.write number history.content
      (written.close number, failure)

def loadOrLog (world : World) (path : String) : World × History :=
  match load world {} path with
  | (world, history, none) => (world, history)
  | (world, history, some failure) =>
    (world.log .warn s!"无法加载历史记录: {path} {failure.display}", history)

def saveOrLog (world : World) (history : History) (path : String) : World :=
  let (files, failure) :=
    match parentPath? path with
    | none => (world.files, none)
    | some parent => world.files.makeAll world.process.directory parent
  let world := { world with files }
  match failure with
  | some failure => world.log .error s!"无法创建历史记录目录: {failure.display}"
  | none =>
    match save world history path with
    | (world, none) => world
    | (world, some failure) => world.log .error s!"保存历史记录失败: {failure.display}"

end History

end PipeShell
