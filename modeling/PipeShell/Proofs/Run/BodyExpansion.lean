import PipeShell.Proofs.Line.Home
import PipeShell.Proofs.Run.BodyTexts

/-!
# Expanding a here-document as a whole

The lines of a body are expanded one by one, as they are read. Main statement: the body is the same
as if all of its lines had been expanded at once, so no reference goes on beyond the line that it
begins on. In braces the name is looked for in everything that follows, which may find a closing
brace on a later line; what stands before that is then no name.
-/

namespace PipeShell

def joinedLines (lines : List String) : List Char :=
  lines.flatMap fun line => line.toList ++ ['\n']

theorem detached_newline (rest : List Char) : Detached ('\n' :: rest) := by
  intro c first
  cases first
  decide

/-- A newline is expanded to itself, and what stands before and after it as if it stood alone. -/
theorem expandText_newline (session : Session) (text rest : List Char) :
    expandText session (text ++ '\n' :: rest) =
      expandText session text ++ '\n' :: expandText session rest := by
  have scanned := scan_append session (detached_newline rest) (Nat.zero_le text.length)
  rw [expandText, scanned, List.flatMap_append]
  rfl

theorem expandText_joinedLines (session : Session) (lines : List String) :
    expandText session (joinedLines lines) =
      lines.flatMap fun line => expandText session line.toList ++ ['\n'] := by
  induction lines with
  | nil => rfl
  | cons line rest ih =>
      have split : joinedLines (line :: rest) = line.toList ++ '\n' :: joinedLines rest := by
        simp [joinedLines]
      rw [split, expandText_newline, ih]
      simp

/-- A `$` on a line begins the reference that it begins if there is nothing but the line, and that
ends on the line. -/
theorem readReference?_line (back rest : List Char) :
    readReference? (back ++ '\n' :: rest) = readReference? back ∧
    ∀ reference length, readReference? (back ++ '\n' :: rest) = some (reference, length) →
      length ≤ back.length := by
  have same : readReference? (back ++ '\n' :: rest) = readReference? back :=
    readReference?_append (detached_newline rest) back
  refine ⟨same, fun reference length read => ?_⟩
  rw [same] at read
  exact length_readReference?_le read

theorem Supplied.body_eq_expandText (session : Session) {supplied : Supplied}
    (expanded : supplied.heredoc.expandBody = true) :
    supplied.body session = String.ofList (expandText session (joinedLines supplied.lines)) := by
  simp only [body, expanded, if_true, expandText_joinedLines]

/-- Expanding lines one by one is expanding them all at once. A `$` of the whole text begins what it
begins in its own line, and that does not go beyond the line. A here-document that the lines are
read for gets the expansion of the whole. -/
theorem expandText_lines (session : Session) (lines : List String) :
    expandText session (joinedLines lines) =
      (lines.flatMap fun line => expandText session line.toList ++ ['\n']) ∧
    (∀ before line after front back,
      lines = before ++ line :: after → line.toList = front ++ '$' :: back →
        joinedLines lines =
          joinedLines before ++ front ++ '$' :: (back ++ '\n' :: joinedLines after) ∧
        readReference? (back ++ '\n' :: joinedLines after) = readReference? back ∧
        ∀ reference length,
          readReference? (back ++ '\n' :: joinedLines after) = some (reference, length) →
            length ≤ back.length) ∧
    ∀ (supplied : Supplied) (world : World) (source : Source) (later : List Event),
      supplied.lines = lines → supplied.heredoc.expandBody = true →
      Answers source.events supplied.outcomes later →
        ∃ read left, left.events = later ∧
          readBody session supplied.heredoc world source "" source.events =
            (read, left,
              .ok (some (String.ofList (expandText session (joinedLines lines))))) := by
  refine ⟨expandText_joinedLines session lines, ?_, ?_⟩
  · rintro before line after front back rfl reads
    refine ⟨?_, readReference?_line back (joinedLines after)⟩
    simp [joinedLines, reads]
  · rintro supplied world source later rfl expanded answers
    rw [← Supplied.body_eq_expandText session expanded]
    exact readBody_supplied session world source supplied answers

example :
    expandText { exitStatus := 7 } (joinedLines ["$", "?$\x7bA", "?\x7d$?"]) =
      "$\n?$\x7bA\n?\x7d7\n".toList := by
  decide +kernel

end PipeShell
