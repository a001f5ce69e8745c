import Mathlib.Data.List.Forall2
import PipeShell.Proofs.Line.Grammar
import PipeShell.Proofs.Line.Shape

/-!
# Where tokens stand in a line

What a token means is decided by the pipes around it and by the token directly before it. Main
statement: a pipeline that is not empty has one command for each stretch between pipes, with the
words and redirections of that stretch, all of them and in their order.
-/

namespace PipeShell

namespace Token

def word? : Token → Option Word
  | .word spelled => some spelled
  | _ => none

def operator? : Token → Option RedirectOperator
  | .redirect operator => some operator
  | _ => none

end Token

/-- The tokens between the pipes of a line. -/
def betweenPipes (tokens : List Token) : List (List Token) := (upToEnd tokens).splitOn .pipe

/-- The tokens, each with the one directly before it, and `previous` before the first. -/
def withPrevious (previous : Option Token) (tokens : List Token) : List (Option Token × Token) :=
  (previous :: tokens.map some).zip tokens

def operatorBefore? (place : Option Token × Token) : Option RedirectOperator :=
  place.1.bind Token.operator?

def freeWord? (place : Option Token × Token) : Option Word :=
  match operatorBefore? place with
  | none => place.2.word?
  | some _ => none

def target? (place : Option Token × Token) : Option (RedirectOperator × Word) :=
  match operatorBefore? place with
  | none => none
  | some operator => place.2.word?.map (operator, ·)

def freeWords (stretch : List Token) : List Word :=
  (withPrevious none stretch).filterMap freeWord?

def targets (stretch : List Token) : List (RedirectOperator × Word) :=
  (withPrevious none stretch).filterMap target?

/-! ## Stages as stretches -/

theorem withPrevious_cons (previous : Option Token) (token : Token) (rest : List Token) :
    withPrevious previous (token :: rest) = (previous, token) :: withPrevious (some token) rest :=
  rfl

/-- Nothing is read across the border of an item: it ends in a word. -/
theorem places_stageTokens (items : List Item) {previous : Option Token}
    (free : previous.bind Token.operator? = none) :
    (withPrevious previous (stageTokens items)).filterMap freeWord? = plainWords items ∧
      (withPrevious previous (stageTokens items)).filterMap target? =
        writtenRedirections items := by
  induction items generalizing previous with
  | nil => exact ⟨rfl, rfl⟩
  | cons item rest ih =>
      cases item with
      | word spelled =>
          obtain ⟨words, redirections⟩ := @ih (some (.word spelled)) rfl
          simp [stageTokens_cons, Item.tokens, withPrevious_cons, freeWord?, target?,
            operatorBefore?, free, Token.word?, words, redirections]
      | redirection operator target =>
          obtain ⟨words, redirections⟩ := @ih (some (.word target)) rfl
          simp [stageTokens_cons, Item.tokens, withPrevious_cons, List.filterMap_cons, freeWord?,
            target?, operatorBefore?, free, Token.word?, Token.operator?, words, redirections]

theorem freeWords_stageTokens (items : List Item) :
    freeWords (stageTokens items) = plainWords items :=
  (places_stageTokens items rfl).1

theorem targets_stageTokens (items : List Item) :
    targets (stageTokens items) = writtenRedirections items :=
  (places_stageTokens items rfl).2

theorem operators_stageTokens (items : List Item) :
    (stageTokens items).filterMap Token.operator? = (writtenRedirections items).map Prod.fst := by
  induction items with
  | nil => rfl
  | cons item rest ih =>
      cases item <;>
        simp [stageTokens_cons, Item.tokens, List.filterMap_cons, Token.operator?, ih]

theorem pipe_notMem_stageTokens (items : List Item) : .pipe ∉ stageTokens items := by
  intro member
  obtain ⟨item, _, inItem⟩ := List.mem_flatMap.mp member
  cases item <;> simp [Item.tokens] at inItem

theorem splitOn_lineTokens {line : LineSyntax} (nonempty : line ≠ []) :
    (lineTokens line).splitOn .pipe = line.map stageTokens := by
  apply List.splitOn_intercalate
  · intro stage member
    obtain ⟨items, _, rfl⟩ := List.mem_map.mp member
    exact pipe_notMem_stageTokens items
  · simpa using nonempty

theorem count_pipe_lineTokens {line : LineSyntax} (nonempty : line ≠ []) :
    (lineTokens line).count .pipe + 1 = line.length := by
  induction line with
  | nil => exact absurd rfl nonempty
  | cons stage rest ih =>
      have unpiped := List.count_eq_zero.mpr (pipe_notMem_stageTokens stage)
      cases rest with
      | nil => rw [lineTokens_singleton, unpiped, List.length_singleton]
      | cons next others =>
          rw [lineTokens_cons, List.count_append, unpiped, List.count_cons_self, Nat.zero_add,
            ih (List.cons_ne_nil next others)]
          rfl

/-! ## Commands of stretches -/

/-- What a redirection is made of: its operator and the word that directly follows it. -/
structure Redirection.Means (session : Session) (written : RedirectOperator × Word)
    (redirection : Redirection) : Prop where
  operator : redirection.operator = written.1
  delimiter : written.1 = .heredoc →
    redirection.target = String.ofList written.2.literal ∧ redirection.ambiguous = false
  file : written.1 ≠ .heredoc → ∀ field, expandFields session written.2 = [field] →
    redirection.target = String.ofList field ∧ redirection.ambiguous = false
  ambiguous : written.1 ≠ .heredoc → (expandFields session written.2).length ≠ 1 →
    redirection.target = String.ofList written.2.raw ∧ redirection.ambiguous = true

/-- What a command is made of: every word and every redirection of a stretch, in order. -/
structure Command.Means (session : Session) (stretch : List Token) (command : Command) :
    Prop where
  arguments : command.arguments =
    ((freeWords stretch).flatMap (expandFields session)).map String.ofList
  nonempty : command.arguments ≠ []
  operators : command.redirections.map Redirection.operator = stretch.filterMap Token.operator?
  targets : List.Forall₂ (Redirection.Means session) (targets stretch) command.redirections

theorem means_redirectionTo (session : Session) (operator : RedirectOperator) (target : Word) :
    (Stage.redirectionTo session operator target).Means session (operator, target) := by
  unfold Stage.redirectionTo
  split
  · exact ⟨rfl, fun _ => ⟨rfl, rfl⟩, fun isFile => (isFile rfl).elim,
      fun isFile => (isFile rfl).elim⟩
  · rename_i isFile
    split
    · rename_i field single
      refine ⟨rfl, fun isHeredoc => absurd isHeredoc isFile, ?_, ?_⟩
      · intro _ other same
        rw [single] at same
        cases same
        exact ⟨rfl, rfl⟩
      · intro _ several
        rw [single] at several
        exact absurd rfl several
    · rename_i notSingle
      refine ⟨rfl, fun isHeredoc => absurd isHeredoc isFile, ?_, fun _ _ => ⟨rfl, rfl⟩⟩
      intro _ field same
      exact absurd same (notSingle field)

theorem means_ofItems {session : Session} {items : List Item}
    (spoken : ¬ Commandless session items) :
    (Stage.ofItems session items).command.Means session (stageTokens items) where
  arguments := by rw [Stage.arguments_ofItems, freeWords_stageTokens]
  nonempty := fun none => spoken ((arguments_isEmpty_iff session items).mp (by rw [none]; rfl))
  operators := by
    rw [Stage.redirections_ofItems, operators_stageTokens, List.map_map]
    exact List.map_congr_left fun written _ => (means_redirectionTo session _ _).operator
  targets := by
    rw [Stage.redirections_ofItems, targets_stageTokens, List.forall₂_map_right_iff,
      List.forall₂_same]
    exact fun written _ => means_redirectionTo session written.1 written.2

/-- A pipeline that is not empty has a command for each stage of the line that was read. -/
theorem commands_of_parse {session : Session} {tokens : List Token} {pipeline : Pipeline}
    (made : parse session tokens = .ok pipeline) (nonempty : pipeline.commands ≠ []) :
    ∃ line, line ≠ [] ∧ upToEnd tokens = lineTokens line ∧
      (∀ items ∈ line, ¬ Commandless session items) ∧
      pipeline.commands = line.map fun items => (Stage.ofItems session items).command := by
  cases read : readLine tokens with
  | error token => simp [parse_of_refused session read] at made
  | ok line =>
      rw [parse_of_read session read] at made
      have commands := commands_of_ofStages made nonempty
      rw [List.map_map] at commands
      refine ⟨line, ?_, (lineTokens_of_readLine read).2, ?_, commands⟩
      · rintro rfl
        exact nonempty commands
      · -- A stage without a command is an error, or the line is a no-op and the pipeline empty.
        intro items member silent
        by_cases idle : NoOp session line
        · rw [ofStages_noOp idle] at made
          cases made
          exact nonempty rfl
        · rw [ofStages_missing idle member silent] at made
          cases made

/-- Nothing of a line is lost, repeated or moved when it is parsed. A pipeline that is not empty has
one command more than the line has pipes, and each is made of the tokens of its stretch between the
pipes. Its arguments, at least one, are the fields of the words that follow no redirection operator.
Its redirections are one for each operator: the target is the delimiter as written without its
quoting, the single field of the word, or, if there is none or more than one, the word as written,
and only then it is ambiguous. What follows the end of the line is never read. -/
theorem parse_by_position {session : Session} {tokens : List Token} {pipeline : Pipeline}
    (made : parse session tokens = .ok pipeline) (nonempty : pipeline.commands ≠ []) :
    pipeline.commands.length = (upToEnd tokens).count .pipe + 1 ∧
      List.Forall₂ (Command.Means session) (betweenPipes tokens) pipeline.commands := by
  obtain ⟨line, filled, written, spoken, commands⟩ := commands_of_parse made nonempty
  constructor
  · rw [commands, written, count_pipe_lineTokens filled, List.length_map]
  · rw [commands, betweenPipes, written, splitOn_lineTokens filled, List.forall₂_map_left_iff,
      List.forall₂_map_right_iff, List.forall₂_same]
    exact fun items member => means_ofItems (spoken items member)

def mixedLine : String := "a$N <in b>$N|<<'E' c >>log\"$N\""

def mixedTokens : List Token :=
  [.word ⟨"a$N".toList, [⟨.unquoted, "a$N".toList⟩]⟩,
    .redirect .input, .word ⟨"in".toList, [⟨.unquoted, "in".toList⟩]⟩,
    .word ⟨['b'], [⟨.unquoted, ['b']⟩]⟩,
    .redirect .output, .word ⟨"$N".toList, [⟨.unquoted, "$N".toList⟩]⟩, .pipe,
    .redirect .heredoc, .word ⟨"'E'".toList, [⟨.single, ['E']⟩]⟩,
    .word ⟨['c'], [⟨.unquoted, ['c']⟩]⟩,
    .redirect .append,
    .word ⟨"log\"$N\"".toList, [⟨.unquoted, "log".toList⟩, ⟨.double, "$N".toList⟩]⟩, .lineEnd]

def mixedSession : Session := { environment := ⟨[("N", "1 2")]⟩ }

def mixedPipeline : Pipeline :=
  ⟨[{ arguments := ["a1", "2", "b"]
      redirections := [{ operator := .input, target := "in" },
        { operator := .output, target := "$N", ambiguous := true }] },
    { arguments := ["c"]
      redirections := [{ operator := .heredoc, target := "E" },
        { operator := .append, target := "log1 2" }] }]⟩

theorem parse_by_position_mixedLine :
    tokenize mixedLine = .ok mixedTokens ∧
    parse mixedSession mixedTokens = .ok mixedPipeline ∧ mixedPipeline.commands ≠ [] ∧
    mixedPipeline.commands.length = (upToEnd mixedTokens).count .pipe + 1 ∧
    List.Forall₂ (Command.Means mixedSession) (betweenPipes mixedTokens)
      mixedPipeline.commands := by
  have split : tokenize mixedLine = .ok mixedTokens := by decide +kernel
  have made : parse mixedSession mixedTokens = .ok mixedPipeline := by decide +kernel
  have nonempty : mixedPipeline.commands ≠ [] := List.cons_ne_nil _ _
  exact ⟨split, made, nonempty, parse_by_position made nonempty⟩

end PipeShell
