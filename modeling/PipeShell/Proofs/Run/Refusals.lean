import PipeShell.Proofs.Line.Faults
import PipeShell.Proofs.Line.Shape
import PipeShell.Proofs.Run.LineUse
import PipeShell.Proofs.System.Undisturbed
import PipeShell.Proofs.System.Writing

/-!
# Lines that are refused

A line that cannot be split, is outside the grammar or lacks a command is reported, and nothing else
becomes of it. Main statement: no other error can come out of a line, and one that is refused leaves
the status 2, its message and its place in the history.
-/

namespace PipeShell

/-! ## The errors of a line -/

/-- The three errors that a line can be refused for. -/
def ShellError.Refuses (error : ShellError) : Prop :=
  (∃ token, error = .unexpectedToken token) ∨ (∃ quote, error = .unmatchedQuote quote) ∨
    error = .missingCommand

theorem ShellError.Refuses.status_eq {error : ShellError} (refuses : error.Refuses) :
    error.status = 2 := by
  obtain ⟨token, rfl⟩ | ⟨quote, rfl⟩ | rfl := refuses <;> rfl

theorem refuses_of_verdict {reading : Reading} {text : List Char} {error : ShellError}
    (failed : verdict reading text = .error error) : error.Refuses := by
  obtain ⟨c, _, refused⟩ | ⟨_, outcome⟩ := verdict_cases reading text
  · rw [refused] at failed
    cases failed
    exact .inl ⟨_, rfl⟩
  · rw [outcome] at failed
    split at failed
    · cases failed
      exact .inr (.inl ⟨_, rfl⟩)
    · cases failed

theorem refuses_of_tokenize {line : String} {error : ShellError}
    (failed : tokenize line = .error error) : error.Refuses := by
  have outcome := tokenize_eq_verdict line
  rw [failed] at outcome
  exact refuses_of_verdict outcome.symm

theorem refuses_of_parse {session : Session} {tokens : List Token} {error : ShellError}
    (failed : parse session tokens = .error error) : error.Refuses := by
  cases read : readLine tokens with
  | error token =>
      rw [parse_of_refused session read] at failed
      cases failed
      exact .inl ⟨_, rfl⟩
  | ok line =>
      rw [parse_of_read session read] at failed
      exact .inr (.inr (ofStages_error failed))

/-- Neither the splitting nor the parsing of a line fails for any other reason. In particular a
redirection whose target is ambiguous does not. -/
theorem refuses_of_parseLine {session : Session} {line : String} {error : ShellError}
    (failed : parseLine session line = .error error) : error.Refuses := by
  cases split : tokenize line with
  | error refused =>
      rw [parseLine_of_refused split] at failed
      cases failed
      exact refuses_of_tokenize split
  | ok tokens =>
      rw [parseLine_of_tokenize split] at failed
      exact refuses_of_parse failed

/-! ## What becomes of the shell -/

theorem World.report_errors {world : World}
    (open_ : world.stream? Descriptors.standardError = some .errors) (message : String) :
    world.report message =
      { world with errors := world.errors ++ encode (s!"{shellName}: " ++ message ++ "\n") } :=
  World.write_accepted open_ rfl _

/-- What is left of a line that was refused. -/
structure Shell.Refused [Launching] (shell : Shell) (line : String) (error : ShellError) :
    Prop where
  refuses : error.Refuses
  after : shell.handleInput line =
    { shell with
      session := { shell.session with exitStatus := 2 }
      source := { shell.source with history := shell.source.history ++ [line] }
      world := shell.world.report error.message }
  undisturbed : shell.world.Undisturbed (shell.handleInput line).world
  message : shell.world.stream? Descriptors.standardError = some .errors →
    (shell.handleInput line).world = { shell.world with
      errors := shell.world.errors ++ encode (s!"{shellName}: " ++ error.message ++ "\n") }

/-- A blank line changes nothing at all. Any other line that is refused has one of three errors; it
is remembered, the error is reported and the status is 2, and nothing is read, opened or run. -/
theorem Shell.handleInput_refused [Launching] (shell : Shell) (line : String) :
    (isSpace line = true → shell.handleInput line = shell) ∧
    (isSpace line = false → ∀ error, parseLine shell.session line = .error error →
      shell.Refused line error) := by
  refine ⟨handleInput_space shell, fun text error failed => ?_⟩
  have refuses := refuses_of_parseLine failed
  have after : shell.handleInput line =
      { shell with
        session := { shell.session with exitStatus := 2 }
        source := { shell.source with history := shell.source.history ++ [line] }
        world := shell.world.report error.message } := by
    rw [handleInput_text shell text, failed]
    simp only [fail, setStatus, refuses.status_eq]
    rfl
  refine ⟨refuses, after, ?_, fun open_ => ?_⟩
  · rw [after]
    exact shell.world.undisturbed_report error.message
  · rw [after]
    exact World.report_errors open_ error.message

def halfQuotedLine : String := "cat <<E >f | 'x"

def halfQuotedMessage : String :=
  "minish: syntax error: unexpected end of file while looking for matching `''\n"

open scoped Launching in
theorem Shell.handleInput_refused_halfQuotedLine :
    isSpace " \t" = true ∧ isSpace halfQuotedLine = false ∧
      parseLine {} halfQuotedLine = .error (.unmatchedQuote '\'') ∧
      let shell : Shell := { source := { events := [.line "text", .line "E"] } }
      shell.handleInput " \t" = shell ∧
        shell.handleInput halfQuotedLine =
          { shell with
            session := { exitStatus := 2 }
            source := { shell.source with history := [halfQuotedLine] }
            world := { errors := encode halfQuotedMessage } } := by
  have space : isSpace " \t" = true := by decide
  have text : isSpace halfQuotedLine = false := by decide
  have failed : parseLine {} halfQuotedLine = .error (.unmatchedQuote '\'') := by rfl
  refine ⟨space, text, failed, ?_⟩
  intro shell
  have open_ : shell.world.stream? Descriptors.standardError = some .errors := rfl
  have refused := (shell.handleInput_refused halfQuotedLine).2 text _ failed
  have message : s!"{shellName}: " ++ (ShellError.unmatchedQuote '\'').message ++ "\n" =
      halfQuotedMessage := by
    rfl
  refine ⟨(shell.handleInput_refused " \t").1 space, ?_⟩
  rw [refused.after, World.report_errors open_, message]
  -- The bytes are the same on both sides and need not be computed.
  generalize encode halfQuotedMessage = bytes
  rfl

end PipeShell
