import PipeShell.Proofs.Line.Lexing
import PipeShell.Proofs.Line.Syntax
import PipeShell.Proofs.Run.Bodies
import PipeShell.Proofs.Run.Turns

/-!
# What becomes of the lines of a run

Main statement: in a run over plain lines every line is used once, as a line that is handled or in
a here-document of the line handled before it, and the run reads on until `exit` or the end.
-/

namespace PipeShell

/-- The delimiters of the here-documents that the line asks for. A line that is refused or comes
to an empty pipeline asks for none. -/
def Handling.delimiters (handling : Handling) : List String :=
  match parseLine handling.shell.session handling.line with
  | .ok pipeline => heredocDelimiters pipeline.commands
  | .error _ => []

/-- From the shell on, the lines are in order those that are handled, each read by the shell that
the one before left and followed at once by the bodies of its here-documents, and then those that
nothing has read. -/
inductive Accounts [Launching] : Shell → List Handling → List String → List String → Prop where
  | done {shell : Shell} {unread : List String} :
      Offers shell.source.events unread → Accounts shell [] unread unread
  | next {shell : Shell} {handling : Handling} {others : List Handling}
      {bodies rest unread : List String} :
      Offers shell.source.events (handling.line :: (bodies ++ rest)) →
        handling.shell = shell.readLine.1.noticeInterrupt →
        takeBodies handling.delimiters (bodies ++ rest) = (bodies, rest) →
        Accounts handling.after others rest unread →
          Accounts shell (handling :: others) (handling.line :: (bodies ++ rest)) unread

/-- A line with nothing but white space is not remembered. -/
def isSpace (line : String) : Bool := line.toList.all isBlank

def remembered (handlings : List Handling) : List String :=
  (handlings.map Handling.line).filter fun line => !isSpace line

/-! ## One line -/

theorem source_execute [Launching] (world : World) (source : Source) (session : Session)
    (pipeline : Pipeline) :
    (execute world source session pipeline).2.1 =
      (collectHeredocs session world source pipeline.commands).2.1 := by
  unfold execute
  split
  · rename_i empty
    rw [List.isEmpty_iff.mp empty]
    rfl
  · split <;> simp_all

theorem parseLine_space (session : Session) {line : String} (space : isSpace line = true) :
    parseLine session line = .ok {} := by
  have run := run_blanks (List.all_eq_true.mp space)
  have tokens : tokenize line = .ok [.lineEnd] := by
    rw [tokenize, tokenizeChars, run.lexFrom_eq]
    rfl
  rw [parseLine_of_tokenize tokens]
  rfl

theorem handleInput_space [Launching] (shell : Shell) {line : String}
    (space : isSpace line = true) : shell.handleInput line = shell := by
  unfold Shell.handleInput
  exact if_pos space

theorem handleInput_text [Launching] (shell : Shell) {line : String} (text : isSpace line = false) :
    shell.handleInput line =
      match parseLine shell.session line with
      | .error error =>
          Shell.fail { shell with source := shell.source.remember line } error error.status
      | .ok pipeline =>
          let (world, source, session) :=
            execute shell.world (shell.source.remember line) shell.session pipeline
          Shell.forgetInterrupt { shell with world, source, session } := by
  have notSpace : ¬ line.toList.all isBlank = true := by
    rw [isSpace] at text
    simp [text]
  unfold Shell.handleInput
  exact if_neg notSpace

/-- Handling a line takes the bodies of its here-documents, and remembers the line. -/
theorem source_handleInput [Launching] (handling : Handling) {lines : List String}
    (offers : Offers handling.shell.source.events lines) :
    Offers handling.after.source.events (takeBodies handling.delimiters lines).2 ∧
      handling.after.source.history =
        handling.shell.source.history ++ remembered [handling] := by
  obtain ⟨shell, line⟩ := handling
  simp only [Handling.after, Handling.delimiters]
  cases space : isSpace line with
  | true =>
      rw [handleInput_space shell space, parseLine_space shell.session space]
      exact ⟨offers, by simp [remembered, space]⟩
  | false =>
      have kept : remembered [⟨shell, line⟩] = [line] := by simp [remembered, space]
      rw [handleInput_text shell space, kept]
      cases parsed : parseLine shell.session line with
      | error error => exact ⟨offers, rfl⟩
      | ok pipeline =>
          have source := source_execute shell.world (shell.source.remember line) shell.session
            pipeline
          have leaves := leaves_collectHeredocs shell.session shell.world
            (shell.source.remember line) pipeline.commands offers
          rw [Collected.Leaves, ← source] at leaves
          exact leaves.2

/-! ## One turn -/

theorem history_readLine (shell : Shell) :
    shell.readLine.1.source.history = shell.source.history := by
  simp only [Shell.readLine, Source.read, Source.give, Source.ask, Shell.events_prompt]

theorem history_noticeInterrupt (shell : Shell) :
    shell.noticeInterrupt.source.history = shell.source.history := by
  rw [Shell.noticeInterrupt_eq]

theorem readLine_line {shell : Shell} {line : String} {later : List String}
    (offers : Offers shell.source.events (line :: later)) :
    shell.readLine.2 = .ok (.line line) ∧ Offers shell.readLine.1.source.events later := by
  rw [Shell.outcome_readLine, Shell.events_readLine, Source.next]
  cases remaining : shell.source.events with
  | nil =>
      rw [remaining] at offers
      exact absurd offers (not_offers_nil line later)
  | cons event events =>
      rw [remaining] at offers
      obtain ⟨rfl, left⟩ := offers_tail offers
      exact ⟨rfl, left⟩

theorem readLine_end {shell : Shell} (offers : Offers shell.source.events []) :
    shell.readLine.2 = .ok .endOfInput ∧ Offers shell.readLine.1.source.events [] := by
  rw [Shell.outcome_readLine, Shell.events_readLine, Source.next]
  cases remaining : shell.source.events with
  | nil => exact ⟨rfl, 0, rfl⟩
  | cons event events =>
      rw [remaining] at offers
      obtain ⟨rfl, left⟩ := offers_nil offers
      exact ⟨rfl, left⟩

theorem turn_end [Launching] {shell : Shell} (failures : Nat)
    (offers : Offers shell.source.events []) :
    Moment.handling? ⟨shell, failures⟩ = none ∧
      shell.turn failures = .stop shell.readLine.1.sayExit := by
  have reads : shell.readLine = (shell.readLine.1, .ok .endOfInput) :=
    Prod.ext rfl (readLine_end offers).1
  rw [Moment.handling?, Shell.turn, reads]
  exact ⟨rfl, rfl⟩

/-- With a line left, it is handled; the lines of its here-documents go with it. -/
theorem turn_line [Launching] {shell : Shell} {line : String} {later : List String} (failures : Nat)
    (offers : Offers shell.source.events (line :: later)) :
    ∃ handling bodies rest, Moment.handling? ⟨shell, failures⟩ = some handling ∧
      line = handling.line ∧ later = bodies ++ rest ∧
      handling.shell = shell.readLine.1.noticeInterrupt ∧
      takeBodies handling.delimiters later = (bodies, rest) ∧
      Offers handling.after.source.events rest ∧
      handling.after.source.history = shell.source.history ++ remembered [handling] := by
  obtain ⟨outcome, left⟩ := readLine_line offers
  have reads : shell.readLine = (shell.readLine.1, .ok (.line line)) := Prod.ext rfl outcome
  let handling : Handling := ⟨shell.readLine.1.noticeInterrupt, line⟩
  have before : Offers handling.shell.source.events later := by
    rw [show handling.shell.source.events = _ from Shell.events_noticeInterrupt shell.readLine.1]
    exact left
  obtain ⟨after, history⟩ := source_handleInput handling before
  rw [show handling.shell.source.history = _ from history_noticeInterrupt shell.readLine.1,
    history_readLine] at history
  exact ⟨handling, _, _, Shell.handling?_of_line failures reads, rfl,
    (takeBodies_append handling.delimiters later).symm, rfl, rfl, after, history⟩

/-! ## Whole runs -/

theorem remembered_cons (handling : Handling) (others : List Handling) :
    remembered (handling :: others) = remembered [handling] ++ remembered others :=
  List.filter_append [handling.line] (others.map Handling.line)

/-- What the run over the lines has come to at its end. -/
theorem Run.accounts [Launching] {shell ended : Shell} {failures : Nat} {moments : List Moment}
    (run : Run shell failures moments ended) {lines : List String}
    (offers : Offers shell.source.events lines) :
    ∃ unread, Accounts shell (moments.filterMap Moment.handling?) lines unread ∧
      Offers ended.source.events unread ∧
      ended.source.history =
        shell.source.history ++ remembered (moments.filterMap Moment.handling?) ∧
      (unread = [] ∨
        ∃ handling ∈ moments.filterMap Moment.handling?,
          handling.after.session.shouldExit = true) := by
  induction run generalizing lines with
  | @stop shell ended failures stops =>
      -- The last turn meets the end of input or a line that asks for the end.
      cases lines with
      | nil =>
          obtain ⟨nothing, stop⟩ := turn_end failures offers
          rw [stop] at stops
          cases stops
          rw [List.filterMap_cons_none nothing, Shell.source_sayExit, history_readLine]
          exact ⟨[], .done offers, (readLine_end offers).2, by simp [remembered], .inl rfl⟩
      | cons line later =>
          obtain ⟨handling, bodies, rest, hands, rfl, rfl, read, taken, after, history⟩ :=
            turn_line failures offers
          rw [Shell.turn_of_handling hands] at stops
          split at stops
          · rename_i exits
            cases stops
            rw [List.filterMap_cons_some hands, Shell.source_sayExit]
            exact ⟨rest, .next offers read taken (.done after), after, history, .inr
              ⟨handling, List.mem_cons_self, exits⟩⟩
          · cases stops
  | @goOn shell next ended failures failed moments goes run ih =>
      -- The rest of the run accounts for what the here-documents of this line left.
      cases lines with
      | nil =>
          obtain ⟨nothing, stop⟩ := turn_end failures offers
          rw [stop] at goes
          cases goes
      | cons line later =>
          obtain ⟨handling, bodies, rest, hands, rfl, rfl, read, taken, after, history⟩ :=
            turn_line failures offers
          rw [Shell.turn_of_handling hands] at goes
          split at goes
          · cases goes
          · cases goes
            obtain ⟨unread, accounts, left, more, finished⟩ := ih after
            rw [List.filterMap_cons_some hands, remembered_cons, ← List.append_assoc, ← history]
            refine ⟨unread, .next offers read taken accounts, left, more, ?_⟩
            rcases finished with none | ⟨last, member, exits⟩
            · exact .inl none
            · exact .inr ⟨last, List.mem_cons_of_mem handling member, exits⟩

/-- After a line that asks for the end, nothing is handled and nothing is read, whatever the source
has to offer. -/
theorem Run.nothing_after_exit [Launching] {shell ended : Shell} {failures : Nat}
    {moments : List Moment} (run : Run shell failures moments ended) {early late : List Handling}
    {handling : Handling} (split : moments.filterMap Moment.handling? = early ++ handling :: late)
    (exits : handling.after.session.shouldExit = true) :
    late = [] ∧ ended.source = handling.after.source := by
  induction run generalizing early with
  | @stop shell ended failures stops =>
      cases hands : Moment.handling? ⟨shell, failures⟩ with
      | none =>
          rw [List.filterMap_cons_none hands] at split
          simp at split
      | some only =>
          rw [List.filterMap_cons_some hands, List.filterMap_nil] at split
          obtain ⟨rfl, same⟩ | ⟨_, rfl, none⟩ := List.cons_eq_append_iff.mp split
          · injection same with head none
            subst head none
            rw [Shell.turn_of_handling hands, if_pos exits] at stops
            cases stops
            exact ⟨rfl, Shell.source_sayExit handling.after⟩
          · simp at none
  | @goOn shell next ended failures failed moments goes run ih =>
      cases hands : Moment.handling? ⟨shell, failures⟩ with
      | none =>
          rw [List.filterMap_cons_none hands] at split
          exact ih split
      | some first =>
          rw [List.filterMap_cons_some hands] at split
          obtain ⟨rfl, same⟩ | ⟨others, rfl, same⟩ := List.cons_eq_append_iff.mp split
          · -- The line would have stopped the loop, which went on.
            injection same with head _
            subst head
            rw [Shell.turn_of_handling hands, if_pos exits] at goes
            cases goes
          · exact ih same

/-- What becomes of the lines of a run that leaves the last of them unread: the others are handled
or the text of here-documents, and only those that are handled are remembered. A line that asks for
the end is the last that is read, and without such a line none is left. -/
structure LineUse [Launching] (shell : Shell) (lines unread : List String) : Prop where
  accounts : Accounts shell shell.handlings lines unread
  left : Offers shell.run.source.events unread
  history : shell.run.source.history = shell.source.history ++ remembered shell.handlings
  exit : ∀ early handling late, shell.handlings = early ++ handling :: late →
    handling.after.session.shouldExit = true →
      late = [] ∧ shell.run.source = handling.after.source.save
  finish : (∀ handling ∈ shell.handlings, handling.after.session.shouldExit = false) → unread = []

/-- Every line of a run is used once. -/
theorem Shell.run_uses_lines [Launching] (shell : Shell) (lines : List String)
    (offers : Offers shell.source.events lines) : ∃ unread, LineUse shell lines unread := by
  have run := shell.run_runLoop 0
  obtain ⟨unread, accounts, left, history, finished⟩ := run.accounts offers
  refine ⟨unread, accounts, left, history, ?_, ?_⟩
  · intro early handling late split exits
    obtain ⟨none, same⟩ := run.nothing_after_exit split exits
    exact ⟨none, congrArg Source.save same⟩
  · intro never
    rcases finished with none | ⟨handling, member, exits⟩
    · exact none
    · rw [never handling member] at exits
      cases exits

def linesWithBodies : List String :=
  ["cat <<A <<B", "exit", "A", "text", "B", "exit 3", "pwd"]

def shellWithBodies : Shell := { source := { events := linesWithBodies.map .line } }

open scoped Launching in
/-- The `exit` in the body ends nothing; the one after it leaves the last line unread. -/
theorem Shell.run_uses_linesWithBodies :
    Offers shellWithBodies.source.events linesWithBodies ∧
      shellWithBodies.handlings.map Handling.line = ["cat <<A <<B", "exit 3"] ∧
      LineUse shellWithBodies linesWithBodies ["pwd"] := by
  have offers : Offers shellWithBodies.source.events linesWithBodies := offers_map linesWithBodies
  have handled : shellWithBodies.handlings.map Handling.line = ["cat <<A <<B", "exit 3"] := by
    decide +kernel
  have events : shellWithBodies.run.source.events = [.line "pwd"] := by decide +kernel
  obtain ⟨unread, use⟩ := Shell.run_uses_lines shellWithBodies linesWithBodies offers
  have left := use.left
  rw [events] at left
  have same : unread = ["pwd"] := eq_of_offers_map left
  subst same
  exact ⟨offers, handled, use⟩

end PipeShell
