import PipeShell.System.Journal

/-!
# The prompt

The prompt shows whether the last pipeline succeeded, the name of the working directory, and the
shell's own sign, each in its style.
-/

namespace PipeShell

/-- The last component of a path. A path of slashes only, or an empty one, is its own last
component. -/
def basename (path : List Char) : List Char :=
  let trimmed := (path.reverse.dropWhile (· = '/')).reverse
  if trimmed.isEmpty then path else (trimmed.reverse.takeWhile (· ≠ '/')).reverse

abbrev Style := Nat

def brightMagenta : Style := 95
def magenta : Style := 35
def red : Style := 31
def brightBlue : Style := 94
def brightCyan : Style := 96

def resetSequence : List Char := ['\x1B', '[', '0', 'm']

def styleSequence (style : Style) : List Char :=
  ['\x1B', '['] ++ (toString style).toList ++ ['m']

def keepStyle (style : List Char) : Nat → List Char → List Char
  -- A reset inside the text would end the style early, so the style is set again after it. The
  -- number counts the characters of a reset that are still to be copied.
  | _, [] => []
  | 1, c :: rest => c :: style ++ keepStyle style 0 rest
  | skip + 2, c :: rest => c :: keepStyle style (skip + 1) rest
  | 0, c :: rest =>
    c :: keepStyle style (if resetSequence.isPrefixOf (c :: rest) then 3 else 0) rest

def paint (colored : Bool) (style : Style) (text : String) : String :=
  if colored then
    String.ofList (styleSequence style ++ keepStyle (styleSequence style) 0 text.toList ++
      resetSequence)
  else text

structure Theme where
  prompt : String
  success : String := "♡"
  failure : String := "✗"
  successStyle : Style := brightMagenta
  failureStyle : Style := red
  directoryStyle : Style
  promptStyle : Style
  deriving DecidableEq, Repr

namespace Theme

def standard : Theme :=
  { prompt := "minish$ ", directoryStyle := brightBlue, promptStyle := brightCyan }

def dark : Theme :=
  { prompt := "minish➤ ", directoryStyle := magenta, promptStyle := brightMagenta }

def ofName (name : String) : Theme := if name = "dark" then dark else standard

def promptText (theme : Theme) (colored : Bool) (directory : String) (status : Int) : String :=
  let symbol :=
    if status = 0 then paint colored theme.successStyle theme.success
    else paint colored theme.failureStyle theme.failure
  let name := paint colored theme.directoryStyle (String.ofList (basename directory.toList))
  s!"{symbol} {name} {paint colored theme.promptStyle theme.prompt}"

def render (theme : Theme) (colored : Bool) (world : World) (status : Int) : World × String :=
  match world.currentDirectory with
  | .ok path => (world, theme.promptText colored path status)
  | .error failure =>
    (world.log .error s!"{shellName}: env current_dir error: {failure.display}",
      theme.promptText colored "" status)

end Theme

end PipeShell
