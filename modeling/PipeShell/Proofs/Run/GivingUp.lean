import PipeShell.Proofs.Run.Turns

/-!
# Giving up on a source that fails

Failed reads at the prompt are counted, and a line starts the count again; an interrupt does not.
Main statement: a run gives up exactly when three reads have failed since the last line, so it can
do so although its last three reads did not all fail.
-/

namespace PipeShell

abbrev Answer := Except ShellError ReadOutcome

namespace Answer

def failed : Answer → Bool
  | .error (.lineEditor _) => false
  | .error _ => true
  | .ok _ => false

def interrupted : Answer → Bool
  | .ok .interrupted => true
  | _ => false

/-- The prompt reads on without having got a line. -/
def lineless (answer : Answer) : Bool := answer.failed || answer.interrupted

/-- A line that asks for the end, the end of input, or a failure of the line editor. -/
def Orderly (answer : Answer) (session : Session) : Prop :=
  (∃ line, answer = .ok (.line line) ∧ session.shouldExit = true) ∨
    answer = .ok .endOfInput ∨ ∃ failure, answer = .error (.lineEditor failure)

theorem failed_of_interrupted {answer : Answer} (interrupted : answer.interrupted = true) :
    answer.failed = false := by
  unfold Answer.interrupted at interrupted
  split at interrupted
  · rfl
  · cases interrupted

theorem lineless_of_orderly {answer : Answer} {session : Session}
    (orderly : answer.Orderly session) : answer.lineless = false := by
  obtain ⟨line, rfl, _⟩ | rfl | ⟨failure, rfl⟩ := orderly <;> rfl

theorem failed_of_lineless {answer : Answer} (lineless : answer.lineless = true)
    (other : answer.interrupted = false) : answer.failed = true := by
  simpa [Answer.lineless, other] using lineless

end Answer

def Moment.answer (moment : Moment) : Answer := moment.shell.readLine.2

namespace Shell

variable [Launching]

def answers (shell : Shell) : List Answer := (shell.moments 0).map Moment.answer

/-- The run ends because a read failed. -/
def GivesUp (shell : Shell) : Prop :=
  ∃ answer, shell.answers.getLast? = some answer ∧ answer.failed = true

/-- The last reads of the run all failed, as many as the shell bears. -/
def FailsInARow (shell : Shell) : Prop :=
  ∃ late, late <:+ shell.answers ∧ late.length = failureLimit ∧ ∀ answer ∈ late, answer.failed

def EndsInOrder (shell : Shell) : Prop :=
  ∃ answer, shell.answers.getLast? = some answer ∧ answer.Orderly shell.run.session

/-! ## One turn -/

section Turn

variable {shell : Shell} (count : Nat)

/-- A failed read counts, and ends the loop if it is one too many. -/
theorem turn_of_failed (failed : Answer.failed shell.readLine.2 = true) :
    ∃ next, shell.turn count =
      if failureLimit ≤ count + 1 then .stop next else .goOn next (count + 1) := by
  rw [turn_eq]
  cases answer : shell.readLine.2 with
  | ok outcome =>
      rw [answer] at failed
      cases failed
  | error error =>
      rw [answer] at failed
      cases error with
      | lineEditor failure => cases failed
      | _ => exact ⟨_, rfl⟩

/-- An interrupt leaves the count as it is. -/
theorem turn_of_interrupted (interrupted : Answer.interrupted shell.readLine.2 = true) :
    ∃ next, shell.turn count = .goOn next count := by
  rw [turn_eq]
  unfold Answer.interrupted at interrupted
  split at interrupted
  · rename_i answer
    rw [answer]
    exact ⟨_, rfl⟩
  · cases interrupted

theorem turn_of_other (other : Answer.lineless shell.readLine.2 = false) :
    (∃ next, shell.turn count = .goOn next 0) ∨
      ∃ ended, shell.turn count = .stop ended ∧
        Answer.Orderly shell.readLine.2 ended.session := by
  rw [turn_eq]
  cases answer : shell.readLine.2 with
  | ok outcome =>
      rw [answer] at other
      cases outcome with
      | line line =>
          simp only [afterLine]
          split
          · rename_i exits
            rw [← session_sayExit] at exits
            exact .inr ⟨_, rfl, .inl ⟨line, rfl, exits⟩⟩
          · exact .inl ⟨_, rfl⟩
      | interrupted => cases other
      | endOfInput => exact .inr ⟨_, rfl, .inr (.inl rfl)⟩
  | error error =>
      rw [answer] at other
      cases error with
      | lineEditor failure => exact .inr ⟨_, rfl, .inr (.inr ⟨failure, rfl⟩)⟩
      | _ => cases other

/-- When the loop goes on, a read without a line has counted if it failed, and any other has started
the count again. -/
theorem goOn_counts {next : Shell} {counted : Nat} (few : count < failureLimit)
    (goes : shell.turn count = .goOn next counted) :
    counted < failureLimit ∧ (counted = 0 ∨ Answer.lineless shell.readLine.2 = true ∧
      counted = count + [shell.readLine.2].countP Answer.failed) := by
  by_cases failed : Answer.failed shell.readLine.2 = true
  · obtain ⟨after, turn⟩ := turn_of_failed count failed
    rw [goes] at turn
    split at turn
    · cases turn
    · cases turn
      exact ⟨by omega, .inr ⟨by simp [Answer.lineless, failed], by simp [failed]⟩⟩
  by_cases interrupted : Answer.interrupted shell.readLine.2 = true
  · obtain ⟨after, turn⟩ := turn_of_interrupted count interrupted
    rw [goes] at turn
    cases turn
    exact ⟨few, .inr ⟨by simp [Answer.lineless, interrupted], by simp [failed]⟩⟩
  · have other : Answer.lineless shell.readLine.2 = false := by
      simp [Answer.lineless, failed, interrupted]
    obtain ⟨after, turn⟩ | ⟨ended, turn, _⟩ := turn_of_other count other
    · rw [goes] at turn
      cases turn
      exact ⟨by decide, .inl rfl⟩
    · rw [goes] at turn
      cases turn

end Turn

end Shell

/-! ## Whole runs -/

namespace Run

variable [Launching] {shell ended : Shell} {count : Nat} {moments : List Moment}

theorem last_answer (run : Run shell count moments ended) :
    ∃ answer, (moments.map Moment.answer).getLast? = some answer ∧
      (answer.failed = true ∨ answer.Orderly ended.session) := by
  obtain ⟨⟨shell, failures⟩, last, stops⟩ := run.exists_last
  refine ⟨shell.readLine.2, by rw [List.getLast?_map, last]; rfl, ?_⟩
  by_cases failed : Answer.failed shell.readLine.2 = true
  · exact .inl failed
  by_cases interrupted : Answer.interrupted shell.readLine.2 = true
  · obtain ⟨next, turn⟩ := Shell.turn_of_interrupted failures interrupted
    rw [stops] at turn
    cases turn
  · have other : Answer.lineless shell.readLine.2 = false := by
      simp [Answer.lineless, failed, interrupted]
    obtain ⟨next, turn⟩ | ⟨_, turn, orderly⟩ := Shell.turn_of_other failures other
    · rw [stops] at turn
      cases turn
    · rw [stops] at turn
      cases turn
      exact .inr orderly

/-- If a run that was begun with a count gives up, either `failureLimit` reads have failed after its
last line, or it had no line and they have failed together with those that were counted. -/
theorem gives_up (run : Run shell count moments ended) (few : count < failureLimit)
    {answer : Answer} (last : (moments.map Moment.answer).getLast? = some answer)
    (failed : answer.failed = true) :
    (∃ late, late <:+ moments.map Moment.answer ∧ (∀ answer ∈ late, answer.lineless) ∧
      late.countP Answer.failed = failureLimit) ∨
    (∀ answer ∈ moments.map Moment.answer, answer.lineless) ∧
      count + (moments.map Moment.answer).countP Answer.failed = failureLimit := by
  induction run with
  | @stop shell ended count stops =>
      have here : Answer.failed shell.readLine.2 = true := by
        cases last
        exact failed
      have lineless : Answer.lineless shell.readLine.2 = true := by simp [Answer.lineless, here]
      obtain ⟨next, turn⟩ := Shell.turn_of_failed count here
      rw [stops] at turn
      split at turn
      · refine .inr ⟨by simpa [Moment.answer] using lineless, ?_⟩
        simp only [List.map_cons, List.map_nil, Moment.answer, List.countP_singleton, here,
          ↓reduceIte]
        omega
      · cases turn
  | @goOn shell next ended count counted moments goes run ih =>
      have later : (moments.map Moment.answer).getLast? = some answer := by
        obtain ⟨final, same, _⟩ := run.last_answer
        rw [List.map_cons, List.getLast?_cons, same] at last
        rw [same, ← last]
        rfl
      have first : (⟨shell, count⟩ : Moment).answer = shell.readLine.2 := rfl
      obtain ⟨fewer, counts⟩ := Shell.goOn_counts count few goes
      rw [List.map_cons, first]
      obtain ⟨late, suffix, enough⟩ | ⟨all, total⟩ := ih fewer later
      · exact .inl ⟨late, suffix.trans (List.suffix_cons _ _), enough⟩
      · obtain rfl | ⟨lineless, rfl⟩ := counts
        · rw [Nat.zero_add] at total
          exact .inl ⟨_, List.suffix_cons _ _, all, total⟩
        · refine .inr ⟨List.forall_mem_cons.mpr ⟨lineless, all⟩, ?_⟩
          rw [← List.singleton_append, List.countP_append, ← Nat.add_assoc]
          exact total

end Run

/-! ## Failures and interrupts -/

section Counting

variable {answers : List Answer}

theorem exists_first_failed (some_ : 0 < answers.countP Answer.failed) :
    ∃ first late, first :: late <:+ answers ∧ first.failed = true ∧
      late.countP Answer.failed + 1 = answers.countP Answer.failed := by
  induction answers with
  | nil => cases some_
  | cons answer rest ih =>
      by_cases failed : answer.failed = true
      · exact ⟨answer, rest, List.suffix_refl _, failed, by rw [List.countP_cons_of_pos failed]⟩
      · rw [List.countP_cons_of_neg failed] at some_ ⊢
        obtain ⟨first, late, suffix, found, count⟩ := ih some_
        exact ⟨first, late, suffix.trans (List.suffix_cons _ _), found, count⟩

theorem countP_failed_of_none (lineless : ∀ answer ∈ answers, answer.lineless)
    (none : answers.any Answer.interrupted = false) :
    answers.countP Answer.failed = answers.length := by
  rw [List.countP_eq_length]
  intro answer member
  have other : answer.interrupted = false := by
    rw [List.any_eq_false] at none
    simpa using none answer member
  exact Answer.failed_of_lineless (lineless answer member) other

theorem countP_failed_of_some (some_ : answers.any Answer.interrupted = true) :
    answers.countP Answer.failed < answers.length := by
  obtain ⟨answer, member, interrupted⟩ := List.any_eq_true.mp some_
  refine Nat.lt_of_le_of_ne List.countP_le_length fun all => ?_
  have failed := List.countP_eq_length.mp all answer member
  rw [Answer.failed_of_interrupted interrupted] at failed
  cases failed

end Counting

namespace Shell

variable [Launching]

/-- These are the last answers, none of them a line, and `failureLimit` of them failures. -/
structure WornOut (shell : Shell) (late : List Answer) : Prop where
  suffix : late <:+ shell.answers
  lineless : ∀ answer ∈ late, answer.lineless
  failures : late.countP Answer.failed = failureLimit

theorem givesUp_iff_wornOut (shell : Shell) : shell.GivesUp ↔ ∃ late, shell.WornOut late := by
  have run := shell.run_runLoop 0
  constructor
  · rintro ⟨answer, last, failed⟩
    obtain ⟨late, suffix, lineless, failures⟩ | ⟨lineless, failures⟩ :=
      run.gives_up (by decide) last failed
    · exact ⟨late, suffix, lineless, failures⟩
    · exact ⟨shell.answers, List.suffix_refl _, lineless, by rwa [Nat.zero_add] at failures⟩
  · rintro ⟨late, suffix, lineless, failures⟩
    obtain ⟨answer, last, ends⟩ := run.last_answer
    refine ⟨answer, last, ends.resolve_right fun orderly => ?_⟩
    -- The last answer is one of these, so it cannot end the run in order.
    obtain ⟨front, split⟩ := List.getLast?_eq_some_iff.mp last
    rw [answers, split, List.suffix_concat_iff] at suffix
    obtain rfl | ⟨others, rfl, _⟩ := suffix
    · cases failures
    · have member := lineless answer (by simp)
      rw [Answer.lineless_of_orderly orderly] at member
      cases member

theorem endsInOrder_of_not_givesUp {shell : Shell} (goesOn : ¬ shell.GivesUp) :
    shell.EndsInOrder := by
  obtain ⟨answer, last, failed | orderly⟩ := (shell.run_runLoop 0).last_answer
  · exact absurd ⟨answer, last, failed⟩ goesOn
  · exact ⟨answer, last, orderly⟩

/-- A run gives up exactly if since its last line three reads have failed, whether or not it was
interrupted between them; otherwise it ends with `exit`, the end of input or a failure of the line
editor. It gives up although its last three reads did not all fail exactly if there was such an
interrupt. -/
theorem run_gives_up_iff (shell : Shell) :
    (shell.GivesUp ↔ ∃ late, shell.WornOut late) ∧
    (¬ shell.GivesUp → shell.EndsInOrder) ∧
    (shell.GivesUp ∧ ¬ shell.FailsInARow ↔
      ∃ first late, shell.WornOut (first :: late) ∧ first.failed = true ∧
        late.any Answer.interrupted = true) := by
  refine ⟨shell.givesUp_iff_wornOut, endsInOrder_of_not_givesUp, ?_, ?_⟩
  · rintro ⟨givesUp, scattered⟩
    obtain ⟨all, wornOut⟩ := shell.givesUp_iff_wornOut.mp givesUp
    have some_ : 0 < all.countP Answer.failed := by
      rw [wornOut.failures]
      decide
    obtain ⟨first, late, suffix, failed, count⟩ := exists_first_failed some_
    have lineless : ∀ answer ∈ first :: late, answer.lineless :=
      fun answer member => wornOut.lineless answer (suffix.subset member)
    have failures : (first :: late).countP Answer.failed = failureLimit := by
      rw [List.countP_cons_of_pos failed, count, wornOut.failures]
    refine ⟨first, late, ⟨suffix.trans wornOut.suffix, lineless, failures⟩, failed, ?_⟩
    by_cases some_ : late.any Answer.interrupted = true
    · exact some_
    · -- Without an interrupt the reads from the first failure on all failed.
      have others : late.countP Answer.failed = late.length := countP_failed_of_none
        (fun answer member => lineless answer (List.mem_cons_of_mem first member))
        (by simpa using some_)
      refine absurd ⟨first :: late, suffix.trans wornOut.suffix, ?_, ?_⟩ scattered
      · rw [List.length_cons, ← others, count, wornOut.failures]
      · exact List.forall_mem_cons.mpr ⟨failed, List.countP_eq_length.mp others⟩
  · rintro ⟨first, late, wornOut, failed, some_⟩
    refine ⟨shell.givesUp_iff_wornOut.mpr ⟨_, wornOut⟩, ?_⟩
    rintro ⟨tail, suffix, length, failures⟩
    have count := wornOut.failures
    rw [List.countP_cons_of_pos failed] at count
    have longer := countP_failed_of_some some_
    have inside : tail <:+ late := List.suffix_of_suffix_length_le suffix
      ((List.suffix_cons first late).trans wornOut.suffix) (by omega)
    have fewer := inside.sublist.countP_le (p := Answer.failed)
    rw [List.countP_eq_length.mpr failures] at fewer
    omega

end Shell

def brokenShell : Shell :=
  let failure := Event.ioError (.message "broken")
  { source := { events :=
      [failure, .interrupted, failure, .interrupted, failure, .line "echo on"] } }

open scoped Launching in
/-- The shell gives up and leaves the line unread, though no two reads in a row failed. -/
theorem Shell.run_gives_up_brokenShell :
    brokenShell.GivesUp ∧ ¬ brokenShell.FailsInARow ∧
      brokenShell.run.source.events = [.line "echo on"] := by
  have marks : brokenShell.answers.map Answer.failed = [true, false, true, false, true] := by
    decide +kernel
  have last : (brokenShell.answers.map Answer.failed).getLast? = some true := by
    rw [marks]
    rfl
  rw [List.getLast?_map, Option.map_eq_some_iff] at last
  refine ⟨last, ?_, by decide +kernel⟩
  rintro ⟨late, suffix, length, failures⟩
  have marked := suffix.map Answer.failed
  rw [marks, List.suffix_iff_eq_drop, List.length_map, length] at marked
  have some_ : false ∈ late.map Answer.failed := by
    rw [marked]
    decide
  obtain ⟨answer, member, other⟩ := List.mem_map.mp some_
  rw [failures answer member] at other
  cases other

end PipeShell
