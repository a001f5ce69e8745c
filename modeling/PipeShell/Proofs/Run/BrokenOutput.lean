import PipeShell.Proofs.Run.Builtins

/-!
# Builtins whose output breaks

What a builtin does to the session and the directory is settled before anything is printed. Main
statement: a sink that fails, cannot be flushed or takes so many bytes only cuts the output short,
and of all else only the status shows it.
-/

namespace PipeShell

/-- What becomes of a builtin that prints to a sink, against `whole`, what becomes of it if the sink
accepts everything: nothing but the status changes, and that to a failure if and only if the sink
did not get it all or could not be flushed. -/
structure BuiltinResult.CutShort (whole : BuiltinResult) (sink : Sink) (cut : BuiltinResult) :
    Prop where
  session : cut.session = whole.session
  directory : cut.directory = whole.directory
  accepted : cut.writer.accepted <+: whole.writer.accepted
  status : cut.status =
    if cut.writer.accepted = whole.writer.accepted ∧ sink.flushFailure = none then whole.status
    else Status.failure

theorem Effect.cutShort_print (effect : Effect) (name : String) (sink : Sink)
    (lineBuffered other : Bool) :
    (effect.print name { lineBuffered := other }).CutShort sink
      (effect.print name { sink, lineBuffered }) := by
  have wrote := @Writer.wrote_writePieces { sink, lineBuffered } (fun _ => rfl) effect.output
  obtain ⟨writer, all, fine⟩ := effect.print_accepted name other
  have whole : (effect.print name { lineBuffered := other }).writer.accepted =
      effect.output.flatMap encode := by rw [fine, all]
  refine ⟨?_, ?_, ?_, ?_⟩
  · rw [session_print, session_print]
  · rw [directory_print, directory_print]
  · rw [whole, writer_print]
    exact wrote.flushed_part
  · have status : (effect.print name { lineBuffered := other }).status = effect.status := by
      rw [fine]
    rw [whole, status, status_print, writer_print]
    simp only [wrote.fine_iff]
    rfl

/-- A broken sink affects the status and nothing else that a builtin does: with any two sinks, the
session and the directory are the same. A sink gets the beginning of what one that accepts
everything gets. The status is the one that goes with such a sink, or 1, and it is 0 only if the
sink got it all and could be flushed. -/
theorem runBuiltin_cut_short (scene : Scene) (name : String) (arguments : List String)
    (sink other : Sink) (lineBuffered otherBuffered : Bool) :
    let ran := runBuiltin scene (name :: arguments) { sink, lineBuffered }
    let alike := runBuiltin scene (name :: arguments)
      { sink := other, lineBuffered := otherBuffered }
    let whole := runBuiltin scene (name :: arguments) { lineBuffered }
    ran.session = alike.session ∧ ran.directory = alike.directory ∧
    ran.writer.accepted <+: whole.writer.accepted ∧
    (ran.status = Status.success →
      ran.writer.accepted = whole.writer.accepted ∧ sink.flushFailure = none) ∧
    (ran.status = whole.status ∨ ran.status = Status.failure) ∧ whole.CutShort sink ran := by
  intro ran alike whole
  have cut : whole.CutShort sink ran := Effect.cutShort_print _ name sink lineBuffered lineBuffered
  have cutToo : whole.CutShort other alike :=
    Effect.cutShort_print _ name other otherBuffered lineBuffered
  have status := cut.status
  refine ⟨cut.session.trans cutToo.session.symm, cut.directory.trans cutToo.directory.symm,
    cut.accepted, ?_, ?_, cut⟩
  · intro success
    by_cases complete : ran.writer.accepted = whole.writer.accepted ∧ sink.flushFailure = none
    · exact complete
    · rw [if_neg complete, success] at status
      cases status
  · split at status
    · exact .inl status
    · exact .inr status

end PipeShell
