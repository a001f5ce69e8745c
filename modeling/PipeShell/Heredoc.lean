import PipeShell.Line.Expansion
import PipeShell.Line.Pipeline
import PipeShell.Source

/-!
# Here-documents

The bodies of a pipeline's here-documents are read from the source before anything of the pipeline
is run. An interrupt gives up the whole pipeline, and so does a failed read.
-/

namespace PipeShell

def heredocPrompt : String := "> "

def bodyLine (session : Session) (heredoc : Redirection) (line : String) : String :=
  (if heredoc.expandBody then String.ofList (expandText session line.toList) else line) ++ "\n"

def World.warnUnended (world : World) (delimiter : String) : World :=
  (world.log .warn s!"heredoc 在文件结尾处结束，期望 {delimiter}").report
    s!"warning: here-document delimited by end-of-file (wanted `{delimiter}')"

/-- The result of reading: `none` if it was interrupted. -/
abbrev Collected (α : Type) := World × Source × Except ShellError (Option α)

/-- Reads the rest of a body, up to the delimiter or the end of input, from the events still to
come. -/
def readBody (session : Session) (heredoc : Redirection) (world : World) (source : Source)
    (body : String) : List Event → Collected String
  | [] =>
    ((source.showPrompt world heredocPrompt).warnUnended heredoc.target,
      source.give heredocPrompt .endOfInput [], .ok (some body))
  | event :: rest =>
    let world := event.arrive (source.showPrompt world heredocPrompt)
    let source := source.give heredocPrompt event rest
    match event.outcome with
    | .error error => (world, source, .error error)
    | .ok .interrupted => (world, source, .ok none)
    | .ok .endOfInput => (world.warnUnended heredoc.target, source, .ok (some body))
    | .ok (.line text) =>
      if text = heredoc.target then (world, source, .ok (some body))
      else readBody session heredoc world source (body ++ bodyLine session heredoc text) rest

def Collected.bind {α β : Type} (first : Collected α)
    (next : World → Source → α → Collected β) : Collected β :=
  match first with
  | (world, source, .ok (some value)) => next world source value
  | (world, source, .ok none) => (world, source, .ok none)
  | (world, source, .error error) => (world, source, .error error)

def readBodies (session : Session) (world : World) (source : Source) :
    List Redirection → Collected (List String)
  | [] => (world, source, .ok (some []))
  | heredoc :: rest =>
    (readBody session heredoc world source "" source.events).bind fun world source body =>
      (readBodies session world source rest).bind fun world source bodies =>
        (world, source, .ok (some (body :: bodies)))

def collectHeredocs (session : Session) (world : World) (source : Source) :
    List Command → Collected (List (List String))
  | [] => (world, source, .ok (some []))
  | command :: rest =>
    (readBodies session world source command.heredocs).bind fun world source bodies =>
      (collectHeredocs session world source rest).bind fun world source stages =>
        (world, source, .ok (some (bodies :: stages)))

/-! ## Reading never makes a source longer -/

theorem length_readBody_le (session : Session) (heredoc : Redirection) (world : World)
    (source : Source) (body : String) (events : List Event) :
    (readBody session heredoc world source body events).2.1.events.length ≤ events.length := by
  induction events generalizing world source body with
  | nil => simp [readBody]
  | cons event rest ih =>
    simp only [readBody, List.length_cons]
    split <;> try simp
    split
    · simp
    · exact Nat.le_succ_of_le (ih _ _ _)

theorem length_bind_le {α β : Type} {limit : Nat} (first : Collected α)
    (next : World → Source → α → Collected β) (short : first.2.1.events.length ≤ limit)
    (shorter : ∀ world source value, source.events.length ≤ limit →
      (next world source value).2.1.events.length ≤ limit) :
    (first.bind next).2.1.events.length ≤ limit := by
  rcases first with ⟨world, source, (error | (_ | value))⟩
  · exact short
  · exact short
  · exact shorter world source value short

theorem length_readBodies_le (session : Session) (world : World) (source : Source)
    (heredocs : List Redirection) :
    (readBodies session world source heredocs).2.1.events.length ≤ source.events.length := by
  induction heredocs generalizing world source with
  | nil => exact Nat.le_refl _
  | cons heredoc rest ih =>
    apply length_bind_le
    · exact length_readBody_le ..
    · intro world source body short
      apply length_bind_le
      · exact Nat.le_trans (ih world source) short
      · exact fun _ _ _ shorter => shorter

theorem length_collectHeredocs_le (session : Session) (world : World) (source : Source)
    (commands : List Command) :
    (collectHeredocs session world source commands).2.1.events.length ≤ source.events.length := by
  induction commands generalizing world source with
  | nil => exact Nat.le_refl _
  | cons command rest ih =>
    apply length_bind_le
    · exact length_readBodies_le ..
    · intro world source bodies short
      apply length_bind_le
      · exact Nat.le_trans (ih world source) short
      · exact fun _ _ _ shorter => shorter

end PipeShell
