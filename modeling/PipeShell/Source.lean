import PipeShell.Error
import PipeShell.System.Journal
import PipeShell.Text.Backspace

/-!
# Where lines come from

A source is the list of what reading will meet, one event for each read; after the last one there is
nothing but the end of input. The source keeps the prompts it was asked with and the lines to be
remembered.
-/

namespace PipeShell

/-- What one read meets. An interrupt that no read returns arrives only together with a line: one
that comes with a failed read, or between two reads, is not among the events. -/
inductive Event where
  | line (text : String)
  /-- A line that had bytes which are no text; they were replaced. -/
  | repaired (text : String)
  | interrupted
  | endOfInput
  | ioError (failure : IoFailure)
  | editorError (failure : EditorFailure)
  /-- A line during whose reading an interrupt arrived. -/
  | raise (text : String)
  deriving DecidableEq, Repr

inductive ReadOutcome where
  | line (text : String)
  | interrupted
  | endOfInput
  deriving DecidableEq, Repr

/-- A terminal shows the prompts; any interactive source has them rendered. `interrupted` says that
an interrupt arrived during a read and was not yet taken notice of. -/
structure Source where
  events : List Event := []
  interrupted : Bool := false
  interactive : Bool := false
  terminal : Bool := false
  prompts : List String := []
  history : List String := []
  saves : Nat := 0
  deriving DecidableEq, Repr

def Event.outcome : Event → Except ShellError ReadOutcome
  | .line text | .repaired text | .raise text => .ok (.line text)
  | .interrupted => .ok .interrupted
  | .endOfInput => .ok .endOfInput
  | .ioError failure => .error (.io failure)
  | .editorError failure => .error (.lineEditor failure)

def Event.arrive (world : World) : Event → World
  | .repaired _ => world.log .warn "输入行不是合法的 UTF-8"
  | _ => world

def Event.interrupts : Event → Bool
  | .raise _ => true
  | _ => false

namespace Source

def remember (source : Source) (line : String) : Source :=
  { source with history := source.history ++ [line] }

def save (source : Source) : Source := { source with saves := source.saves + 1 }

def ask (source : Source) (prompt : String) : Source :=
  { source with prompts := source.prompts ++ [prompt] }

def showPrompt (source : Source) (world : World) (prompt : String) : World :=
  if source.terminal then { world with output := world.output ++ encode prompt } else world

def give (source : Source) (prompt : String) (event : Event) (rest : List Event) : Source :=
  { source.ask prompt with events := rest, interrupted := source.interrupted || event.interrupts }

def next (source : Source) : Event := source.events.headD .endOfInput

def read (source : Source) (world : World) (prompt : String) :
    World × Source × Except ShellError ReadOutcome :=
  (source.next.arrive (source.showPrompt world prompt),
    source.give prompt source.next (source.events.drop 1), source.next.outcome)

@[simp]
theorem events_give (source : Source) (prompt : String) (event : Event) (rest : List Event) :
    (source.give prompt event rest).events = rest :=
  rfl

end Source

/-- The lines of the events up to the first that is none, and the error if that is one. -/
def linesBefore : List Event → List String × Option ShellError
  | [] => ([], none)
  | event :: rest =>
    match event.outcome with
    | .ok (.line text) =>
      let (lines, error) := linesBefore rest
      (text :: lines, error)
    | .ok _ => ([], none)
    | .error error => ([], some error)

/-! ## Lines of bytes -/

def dropReturn (line : Bytes) : Bytes :=
  if line.getLast? = some 13 then line.dropLast else line

def splitLines (bytes : Bytes) : List Bytes × Bytes :=
  let pieces := splitAtEach 10 bytes
  (pieces.dropLast, pieces.getLastD [])

def rawLines (bytes : Bytes) : List Bytes :=
  let (lines, rest) := splitLines bytes
  lines.map dropReturn ++ if rest.isEmpty then [] else [rest]

/-! ## Input that is no terminal -/

def readUntilNewline : Bytes → Bytes × Bytes
  | [] => ([], [])
  | byte :: rest =>
    if byte = 10 then ([byte], rest)
    else
      let (line, left) := readUntilNewline rest
      (byte :: line, left)

def dropLineEnd (read : Bytes) : Bytes :=
  if read.getLast? = some 10 then dropReturn read.dropLast else read

theorem length_readUntilNewline (bytes : Bytes) :
    (readUntilNewline bytes).1.length + (readUntilNewline bytes).2.length = bytes.length := by
  induction bytes with
  | nil => rfl
  | cons byte rest ih =>
    rw [readUntilNewline]
    split
    · simp [Nat.add_comm]
    · simp only [List.length_cons]
      omega

theorem readUntilNewline_ne_nil {bytes : Bytes} (more : bytes ≠ []) :
    (readUntilNewline bytes).1 ≠ [] := by
  obtain ⟨byte, rest, rfl⟩ := List.exists_cons_of_ne_nil more
  rw [readUntilNewline]
  split <;> simp

def pipedEvent (line : Bytes) : Event :=
  match decode? line with
  | some text => .line text
  | none => .repaired (repair line)

/-- A reader of input that is no terminal, as the bytes that it has not read yet. -/
structure PipedInput where
  bytes : Bytes := []
  deriving DecidableEq, Repr

namespace PipedInput

def readLine (input : PipedInput) : Event × PipedInput :=
  match readUntilNewline input.bytes with
  | ([], left) => (.endOfInput, ⟨left⟩)
  | (read, left) => (pipedEvent (dropLineEnd read), ⟨left⟩)

theorem length_readLine_lt {input : PipedInput} (more : input.bytes ≠ []) :
    input.readLine.2.bytes.length < input.bytes.length := by
  have kept := length_readUntilNewline input.bytes
  have taken := List.length_pos_iff.mpr (readUntilNewline_ne_nil more)
  have left : input.readLine.2.bytes = (readUntilNewline input.bytes).2 := by
    unfold readLine
    split <;> simp_all
  rw [left]
  omega

def events (input : PipedInput) : List Event :=
  if more : input.bytes = [] then []
  else
    have := length_readLine_lt more
    input.readLine.1 :: input.readLine.2.events
termination_by input.bytes.length

end PipedInput

def Source.piped (bytes : Bytes) : Source :=
  { events := PipedInput.events ⟨bytes⟩ }

/-! ## Input of a terminal -/

/-- A line typed into a terminal that has no editor: backspaces take effect when it is complete. -/
def typedEvent (line : Bytes) : Event :=
  match readUtf8? line with
  | some text => .line (String.ofList (applyBackspaces text))
  | none => .editorError (.other IoFailure.notUtf8.description)

def Source.typed (bytes : Bytes) : Source :=
  { events := (rawLines bytes).map typedEvent, interactive := true, terminal := true }

end PipeShell
