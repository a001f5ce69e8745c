import PipeShell.Proofs.Run.Sessions

/-!
# Sessions are sound

A sound session has a status that fits into a byte, and variables whose names are distinct and
valid, apart from those it was started with. Main statement: every session of a run is sound, and so
is the one it ends with.
-/

namespace PipeShell

theorem Environment.nodup_names_ofList (pairs : List (String × String)) :
    (Environment.ofList pairs).names.Nodup := by
  have sets : ∀ (pairs : List (String × String)) (environment : Environment),
      environment.names.Nodup →
        (pairs.foldl (fun environment pair => environment.set pair.1 pair.2)
          environment).names.Nodup := by
    intro pairs
    induction pairs with
    | nil => exact fun _ distinct => distinct
    | cons pair rest ih => exact fun _ distinct => ih _ (nodup_names_set pair.1 pair.2 distinct)
  exact sets pairs .empty List.nodup_nil

/-- What holds of the sessions of a run that was started with variables of these names. -/
structure Session.Sound (started : List String) (session : Session) : Prop where
  low : 0 ≤ session.exitStatus
  high : session.exitStatus < 256
  distinct : session.environment.names.Nodup
  known : ∀ name ∈ session.environment.names, name ∈ started ∨ isValidName name.toList = true

namespace Session.Sound

variable {started : List String} {before after : Session}

theorem setStatus (sound : before.Sound started) (status : Int) :
    (before.setStatus status).Sound started where
  low := (before.exitStatus_setStatus_range status).1
  high := (before.exitStatus_setStatus_range status).2
  distinct := sound.distinct
  known := sound.known

theorem statusOnly (sound : before.Sound started) (only : before.StatusOnly after) :
    after.Sound started := by
  rcases only with rfl | ⟨status, rfl⟩
  · exact sound
  · exact sound.setStatus status

theorem edited {environment : Environment} (sound : before.Sound started)
    (edits : before.environment.Edited environment) :
    ({ before with environment } : Session).Sound started := by
  -- The induction is over single edits: only setting a variable can bring in a name.
  induction edits with
  | kept => exact sound
  | @set environment name value _ valid ih =>
      refine ⟨ih.low, ih.high, Environment.nodup_names_set name value ih.distinct, ?_⟩
      intro other member
      rw [Environment.names_set] at member
      split at member
      · exact ih.known other member
      · rcases List.mem_append.mp member with old | new
        · exact ih.known other old
        · rw [List.mem_singleton.mp new]
          exact .inr valid
  | @remove environment name _ ih =>
      refine ⟨ih.low, ih.high, Environment.nodup_names_remove name ih.distinct, ?_⟩
      intro other member
      rw [Environment.names_remove] at member
      exact ih.known other (List.mem_of_mem_erase member)

theorem byLine {line : String} (sound : before.Sound started)
    (made : before.ByLine line after) : after.Sound started := by
  rcases made with only | ⟨command, _, builtin, between, status, _, did, rfl⟩
  · exact sound.statusOnly only
  · apply setStatus
    cases did with
    | kept => exact sound
    | edited _ edits => exact sound.edited edits
    | leaving => exact ⟨sound.low, sound.high, sound.distinct, sound.known⟩

end Session.Sound

def Moment.shells [Launching] (moment : Moment) : List Shell :=
  moment.shell :: match moment.handling? with
    | some handling => [handling.shell, handling.after]
    | none => []

/-- One turn keeps a session sound at every point. -/
theorem sound_turn [Launching] {started : List String} {shell : Shell} (failures : Nat)
    (sound : shell.session.Sound started) :
    (∀ state ∈ Moment.shells ⟨shell, failures⟩, state.session.Sound started) ∧
      (shell.turn failures).shell.session.Sound started := by
  unfold Moment.shells
  cases hands : Moment.handling? ⟨shell, failures⟩ with
  | none => exact ⟨by simpa using sound, sound.statusOnly (Shell.statusOnly_turn hands)⟩
  | some handling =>
      obtain ⟨only, same⟩ := Shell.session_turn hands
      have read := sound.statusOnly only
      have handled : handling.after.session.Sound started :=
        read.byLine (handling.shell.byLine_handleInput handling.line)
      exact ⟨by simpa using ⟨sound, read, handled⟩, same ▸ handled⟩

theorem Run.sound [Launching] {started : List String} {shell ended : Shell} {failures : Nat}
    {moments : List Moment} (run : Run shell failures moments ended)
    (sound : shell.session.Sound started) :
    (∀ moment ∈ moments, ∀ state ∈ moment.shells, state.session.Sound started) ∧
      ended.session.Sound started := by
  induction run with
  | stop stops =>
      obtain ⟨here, after⟩ := sound_turn _ sound
      rw [stops] at after
      exact ⟨by simpa using here, after⟩
  | goOn goes _ ih =>
      obtain ⟨here, after⟩ := sound_turn _ sound
      rw [goes] at after
      obtain ⟨later, last⟩ := ih after
      exact ⟨List.forall_mem_cons.mpr ⟨here, later⟩, last⟩

/-- Whatever is read, every session of a run is sound: its status fits into a byte, its variables
have distinct names, and those that the shell was not started with have valid names. -/
theorem Shell.run_sound [Launching] (shell : Shell) {pairs : List (String × String)}
    (built : shell.session.environment = Environment.ofList pairs)
    (low : 0 ≤ shell.session.exitStatus) (high : shell.session.exitStatus < 256) :
    let started := shell.session.environment.names
    (∀ moment ∈ shell.moments 0, ∀ state ∈ moment.shells, state.session.Sound started) ∧
      shell.run.session.Sound started := by
  intro started
  have sound : shell.session.Sound started :=
    ⟨low, high, built ▸ Environment.nodup_names_ofList pairs, fun _ member => .inl member⟩
  exact (shell.run_runLoop 0).sound sound

def troubledShell : Shell :=
  { session := { environment := .ofList [("2nd", "a"), ("PATH", "/bin")], exitStatus := 255 }
    source := { events := [.interrupted, .line "export 3rd=b A=c", .ioError (.system .EIO),
      .raise "exit -1"] } }

open scoped Launching in
theorem Shell.run_sound_troubledShell :
    troubledShell.session.environment = Environment.ofList [("2nd", "a"), ("PATH", "/bin")] ∧
    0 ≤ troubledShell.session.exitStatus ∧ troubledShell.session.exitStatus < 256 ∧
    troubledShell.run.session.Sound ["2nd", "PATH"] := by
  have low : 0 ≤ troubledShell.session.exitStatus := by decide
  have high : troubledShell.session.exitStatus < 256 := by decide
  exact ⟨rfl, low, high, (troubledShell.run_sound rfl low high).2⟩

end PipeShell
