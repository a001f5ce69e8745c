import PipeShell.Proofs.Line.Syntax

/-!
# The shape of a line

How many stages a line has, their redirections, and the delimiters of its here-documents are all
read from the line alone. Main statement: no two sessions can see a different shape in one line.
-/

namespace PipeShell

/-- What expansion cannot change about a redirection: its operator and, for a here-document, its
delimiter and whether its body is expanded. -/
def Redirection.shape (redirection : Redirection) : RedirectOperator × Option (String × Bool) :=
  (redirection.operator,
    if redirection.operator = .heredoc then some (redirection.target, redirection.expandBody)
    else none)

def Command.shape (command : Command) : List (RedirectOperator × Option (String × Bool)) :=
  command.redirections.map Redirection.shape

def Pipeline.shape (pipeline : Pipeline) :
    List (List (RedirectOperator × Option (String × Bool))) :=
  pipeline.commands.map Command.shape

def writtenShape (operator : RedirectOperator) (target : Word) :
    RedirectOperator × Option (String × Bool) :=
  (operator,
    if operator = .heredoc then some (String.ofList target.literal, !target.isQuoted) else none)

def lineShape (line : LineSyntax) : List (List (RedirectOperator × Option (String × Bool))) :=
  line.map fun items =>
    (writtenRedirections items).map fun written => writtenShape written.1 written.2

theorem shape_redirectionTo (session : Session) (operator : RedirectOperator) (target : Word) :
    (Stage.redirectionTo session operator target).shape = writtenShape operator target := by
  unfold Stage.redirectionTo
  split
  · rfl
  · split <;> simp_all [Redirection.shape, writtenShape]

theorem shape_ofItems (session : Session) (items : List Item) :
    (Stage.ofItems session items).command.shape =
      (writtenRedirections items).map fun written => writtenShape written.1 written.2 := by
  simp [Command.shape, Stage.redirections_ofItems, shape_redirectionTo]

theorem commands_of_ofStages {stages : List Stage} {pipeline : Pipeline}
    (made : ofStages stages = .ok pipeline) (nonempty : pipeline.commands ≠ []) :
    pipeline.commands = stages.map Stage.command := by
  unfold ofStages at made
  repeat' split at made
  all_goals simp only [Except.ok.injEq, reduceCtorEq] at made
  all_goals subst made
  -- What is left is the no-op, then a single stage with arguments, then any other line.
  · exact absurd rfl nonempty
  · rfl
  · rfl

theorem shape_of_ofStages {session : Session} {line : LineSyntax} {pipeline : Pipeline}
    (made : ofStages (line.map (.ofItems session)) = .ok pipeline)
    (nonempty : pipeline.commands ≠ []) : pipeline.shape = lineShape line := by
  rw [Pipeline.shape, commands_of_ofStages made nonempty, lineShape, List.map_map, List.map_map]
  apply List.map_congr_left
  intro items _
  exact shape_ofItems session items

/-- The only error that depends on what words expand to. -/
theorem ofStages_error {stages : List Stage} {error : ShellError}
    (failed : ofStages stages = .error error) : error = .missingCommand := by
  unfold ofStages at failed
  repeat' split at failed
  all_goals simp_all

theorem parse_error_transfer {left : Session} {tokens : List Token} {error : ShellError}
    (failed : parse left tokens = .error error) (syntactic : error ≠ .missingCommand)
    (right : Session) : parse right tokens = .error error := by
  cases read : readLine tokens with
  | error token =>
      rw [parse_of_refused left read] at failed
      rw [parse_of_refused right read, failed]
  | ok line =>
      rw [parse_of_read left read] at failed
      exact absurd (ofStages_error failed) syntactic

theorem parse_shape_eq {left right : Session} {tokens : List Token} {first second : Pipeline}
    (leftMade : parse left tokens = .ok first) (rightMade : parse right tokens = .ok second)
    (firstNonempty : first.commands ≠ []) (secondNonempty : second.commands ≠ []) :
    first.shape = second.shape := by
  cases read : readLine tokens with
  | error token => simp [parse_of_refused left read] at leftMade
  | ok line =>
      rw [parse_of_read left read] at leftMade
      rw [parse_of_read right read] at rightMade
      rw [shape_of_ofStages leftMade firstNonempty, shape_of_ofStages rightMade secondNonempty]

/-- No variable, home directory or exit status changes the shape of a line. An error of the line
splitter is the outcome in every session, any other error but a missing command is met in both
sessions or in none, and two pipelines that are not empty agree, stage by stage, in their
redirections, their operators, the delimiters and what is expanded. -/
theorem parseLine_shape_fixed (left right : Session) (line : String) :
    (∀ error, tokenize line = .error error →
      parseLine left line = .error error ∧ parseLine right line = .error error) ∧
    (∀ error, error ≠ .missingCommand →
      (parseLine left line = .error error ↔ parseLine right line = .error error)) ∧
    ∀ first second, parseLine left line = .ok first → parseLine right line = .ok second →
      first.commands ≠ [] → second.commands ≠ [] → first.shape = second.shape := by
  cases split : tokenize line with
  | error error =>
      simp [parseLine_of_refused split]
  | ok tokens =>
      simp only [parseLine_of_tokenize split]
      refine ⟨by simp, ?_, fun _ _ => parse_shape_eq⟩
      intro error syntactic
      exact ⟨fun failed => parse_error_transfer failed syntactic right,
        fun failed => parse_error_transfer failed syntactic left⟩

end PipeShell
