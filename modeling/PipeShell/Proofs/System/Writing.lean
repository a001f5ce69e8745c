import PipeShell.Builtin
import PipeShell.System.World

/-!
# Writers

A writer hands over what it is given, at once or line by line, as far as its sink takes it. Main
statement: whatever the sink does, what has been handed over once the writer is flushed is a part of
what it was given, and all of it if and only if no write failed. A sink that accepts everything
gets it all.
-/

namespace PipeShell

theorem splitLastLine_append (bytes : Bytes) :
    (splitLastLine bytes).1 ++ (splitLastLine bytes).2 = bytes := by
  have suffix : (splitLastLine bytes).2 <:+ bytes := by
    rw [splitLastLine, ← List.reverse_prefix, List.reverse_reverse]
    exact List.takeWhile_prefix _
  obtain ⟨front, split⟩ := suffix
  have cut : (splitLastLine bytes).1 =
      bytes.take (bytes.length - (splitLastLine bytes).2.length) := rfl
  rw [cut]
  generalize (splitLastLine bytes).2 = tail at split
  subst split
  simp

namespace Writer

/-- All bytes that the writer was given so far, handed over or held back. -/
def given (writer : Writer) : Bytes := writer.accepted ++ writer.pending

def Orderly (writer : Writer) : Prop := writer.lineBuffered = false → writer.pending = []

def Stuck (writer : Writer) : Prop :=
  writer.sink.writeFailure ≠ none ∨
    ∃ capacity, writer.sink.capacity = some capacity ∧ capacity ≤ writer.accepted.length

/-- What becomes of bytes that are written. Handed over or held back is a part of all that was
given, and the whole unless something failed; then the sink lacks bytes and takes no more. -/
structure Wrote (before : Writer) (bytes : Bytes) (result : Writer × Option IoFailure) : Prop where
  sink : result.1.sink = before.sink
  kind : result.1.lineBuffered = before.lineBuffered
  orderly : result.1.Orderly
  part : result.1.given <+: before.given ++ bytes
  whole : result.2 = none → result.1.given = before.given ++ bytes
  stuck : result.2 ≠ none → result.1.Stuck
  lacks : result.2 ≠ none → result.1.accepted.length < (before.given ++ bytes).length

variable {writer : Writer} {bytes more : Bytes} {result : Writer × Option IoFailure}

theorem Wrote.nothing (orderly : writer.Orderly) : writer.Wrote [] (writer, none) where
  sink := rfl
  kind := rfl
  orderly := orderly
  part := by simp
  whole := by simp
  stuck := by simp
  lacks := by simp

theorem Wrote.trans {middle : Writer} (first : writer.Wrote bytes (middle, none))
    (second : middle.Wrote more result) : writer.Wrote (bytes ++ more) result := by
  have both : middle.given ++ more = writer.given ++ (bytes ++ more) := by
    rw [first.whole rfl, List.append_assoc]
  exact {
    sink := second.sink.trans first.sink
    kind := second.kind.trans first.kind
    orderly := second.orderly
    part := both ▸ second.part
    whole := both ▸ second.whole
    stuck := second.stuck
    lacks := both ▸ second.lacks }

theorem Wrote.failed {middle : Writer} {failure : IoFailure}
    (first : writer.Wrote bytes (middle, some failure)) (more : Bytes) :
    writer.Wrote (bytes ++ more) (middle, some failure) where
  sink := first.sink
  kind := first.kind
  orderly := first.orderly
  part := by
    rw [← List.append_assoc]
    exact first.part.trans (List.prefix_append _ _)
  whole := by simp
  stuck := first.stuck
  lacks := by
    intro fails
    have shorter := first.lacks fails
    simp only [List.length_append] at shorter ⊢
    omega

theorem Wrote.andThen {first : Writer × Option IoFailure}
    {second : Writer → Writer × Option IoFailure} (wrote : writer.Wrote bytes first)
    (next : first.1.Orderly → first.1.lineBuffered = writer.lineBuffered →
      first.1.Wrote more (second first.1)) :
    writer.Wrote (bytes ++ more) (andThen first second) := by
  obtain ⟨middle, failure⟩ := first
  cases failure with
  | none => exact wrote.trans (next wrote.orderly wrote.kind)
  | some failure => exact wrote.failed more

/-! ## Handing over and holding back -/

theorem room_le (writer : Writer) (bytes : Bytes) : writer.room bytes ≤ bytes.length := by
  unfold room
  split
  · exact Nat.le_refl _
  · exact Nat.min_le_left _ _

theorem exists_capacity (short : writer.room bytes < bytes.length) :
    ∃ capacity, writer.sink.capacity = some capacity ∧
      capacity ≤ writer.accepted.length + writer.room bytes := by
  unfold room at short ⊢
  split at short
  · exact absurd short (Nat.lt_irrefl _)
  · rename_i capacity limited
    exact ⟨capacity, limited, by omega⟩

theorem exists_sent (writer : Writer) (bytes : Bytes) :
    ∃ count, count ≤ bytes.length ∧
      (writer.send bytes).1 = { writer with accepted := writer.accepted ++ bytes.take count } ∧
      ((writer.send bytes).2 = none → count = bytes.length) ∧
      ((writer.send bytes).2 ≠ none → (writer.send bytes).1.Stuck ∧ count < bytes.length) := by
  unfold send
  by_cases empty : bytes = []
  · subst empty
    exact ⟨0, by simp⟩
  · have longer := List.length_pos_iff.mpr empty
    rw [if_neg (by simpa using empty)]
    split
    · rename_i failure failing
      exact ⟨0, by simp, by simp, by simp, fun _ => ⟨.inl (by simp [failing]), longer⟩⟩
    · have within := writer.room_le bytes
      refine ⟨writer.room bytes, within, rfl, ?_⟩
      by_cases short : writer.room bytes < bytes.length
      · obtain ⟨capacity, limited, full⟩ := exists_capacity short
        have stuck : capacity ≤ (writer.accepted ++ bytes.take (writer.room bytes)).length := by
          simpa [Nat.min_eq_left within] using full
        exact ⟨by simp [short], fun _ => ⟨.inr ⟨capacity, limited, stuck⟩, short⟩⟩
      · exact ⟨fun _ => by omega, by simp [short]⟩

theorem wrote_send (empty : writer.pending = []) (bytes : Bytes) :
    writer.Wrote bytes (writer.send bytes) := by
  -- What goes out at once must not overtake what is held back.
  obtain ⟨count, _, sent, whole, stuck⟩ := writer.exists_sent bytes
  exact {
    sink := by rw [sent]
    kind := by rw [sent]
    orderly := by
      rw [sent]
      exact fun _ => empty
    part := by
      rw [sent]
      simpa [Writer.given, empty] using List.take_prefix count bytes
    whole := by
      intro fine
      rw [sent, whole fine]
      simp [Writer.given, empty]
    stuck := fun fails => (stuck fails).1
    lacks := by
      intro fails
      have shorter := (stuck fails).2
      rw [sent]
      simp only [Writer.given, List.length_append, List.length_take]
      omega }

theorem exists_sentPending (writer : Writer) :
    ∃ count, count ≤ writer.pending.length ∧
      writer.sendPending.1 = { writer with
        accepted := writer.accepted ++ writer.pending.take count
        pending := writer.pending.drop count } ∧
      (writer.sendPending.2 = none → count = writer.pending.length) ∧
      (writer.sendPending.2 ≠ none →
        writer.sendPending.1.Stuck ∧ count < writer.pending.length) := by
  obtain ⟨count, le, sent, whole, stuck⟩ := writer.exists_sent writer.pending
  refine ⟨count, le, ?_⟩
  unfold sendPending
  generalize writer.send writer.pending = result at sent whole stuck
  obtain ⟨after, failure⟩ := result
  cases sent
  exact ⟨by simp [Nat.min_eq_left le], whole, stuck⟩

theorem wrote_sendPending (orderly : writer.Orderly) : writer.Wrote [] writer.sendPending := by
  obtain ⟨count, _, sent, _, stuck⟩ := writer.exists_sentPending
  have same : writer.sendPending.1.given = writer.given := by
    rw [sent]
    simp [Writer.given]
  exact {
    sink := by rw [sent]
    kind := by rw [sent]
    orderly := by
      rw [sent]
      intro plain
      simp [orderly plain]
    part := by simp [same]
    whole := by simp [same]
    stuck := fun fails => (stuck fails).1
    lacks := by
      intro fails
      have shorter := (stuck fails).2
      rw [sent]
      simp only [Writer.given, List.length_append, List.length_take]
      omega }

theorem pending_sendPending (fine : writer.sendPending.2 = none) :
    writer.sendPending.1.pending = [] := by
  obtain ⟨count, _, sent, whole, _⟩ := writer.exists_sentPending
  rw [sent, whole fine, List.drop_length]

theorem wrote_keep (lines : writer.lineBuffered = true) (bytes : Bytes) :
    writer.Wrote bytes ({ writer with pending := writer.pending ++ bytes }, none) where
  sink := rfl
  kind := rfl
  orderly := by simp [Orderly, lines]
  part := by simp [Writer.given]
  whole := by simp [Writer.given]
  stuck := by simp
  lacks := by simp

theorem wrote_hold (lines : writer.lineBuffered = true) (bytes : Bytes) :
    writer.Wrote bytes (writer.hold bytes) := by
  unfold hold
  split
  · exact wrote_keep lines bytes
  · by_cases full : bufferSize < writer.pending.length + bytes.length
    · have orderly : writer.Orderly := by simp [Orderly, lines]
      have emptied := wrote_sendPending orderly
      have empty := @pending_sendPending writer
      simp only [full, ↓reduceIte]
      generalize writer.sendPending = sent at emptied empty
      obtain ⟨middle, failure⟩ := sent
      cases failure with
      | some failure => exact emptied.failed bytes
      | none =>
          simp only
          split
          · exact emptied.trans (wrote_send (empty rfl) bytes)
          · exact emptied.trans (wrote_keep (emptied.kind.trans lines) bytes)
    · simp only [full, ↓reduceIte]
      split
      · -- The bytes fill the buffer by themselves, so nothing is held back.
        have empty : writer.pending = [] := List.eq_nil_of_length_eq_zero (by omega)
        exact wrote_send empty bytes
      · exact wrote_keep lines bytes

/-! ## Writing and flushing -/

theorem wrote_writeLines (lines : writer.lineBuffered = true) (bytes : Bytes) :
    writer.Wrote bytes (writer.writeLines bytes) := by
  have orderly : writer.Orderly := by simp [Orderly, lines]
  have split := splitLastLine_append bytes
  unfold writeLines
  generalize splitLastLine bytes = parts at split
  obtain ⟨complete, tail⟩ := parts
  subst split
  simp only
  split
  · -- No line is completed, so what is held back goes out only if it ends one.
    rename_i none
    rw [List.isEmpty_iff.mp none]
    apply Wrote.andThen _ (fun _ kind => wrote_hold (kind.trans lines) tail)
    split
    · exact wrote_sendPending orderly
    · exact .nothing orderly
  · split
    · rename_i empty
      exact (wrote_send (List.isEmpty_iff.mp empty) complete).andThen
        fun _ kind => wrote_hold (kind.trans lines) tail
    · have sent := (wrote_hold lines complete).andThen fun orderly _ => wrote_sendPending orderly
      rw [List.append_nil] at sent
      exact sent.andThen fun _ kind => wrote_hold (kind.trans lines) tail

theorem wrote_write (orderly : writer.Orderly) (bytes : Bytes) :
    writer.Wrote bytes (writer.write bytes) := by
  unfold write
  cases lines : writer.lineBuffered with
  | true => exact wrote_writeLines lines bytes
  | false => exact wrote_send (orderly lines) bytes

theorem wrote_writePieces (orderly : writer.Orderly) (pieces : List String) :
    writer.Wrote (pieces.flatMap encode) (writer.writePieces pieces) := by
  induction pieces generalizing writer with
  | nil => exact .nothing orderly
  | cons piece rest ih =>
      exact (wrote_write orderly (encode piece)).andThen fun orderly _ => ih orderly

theorem fst_flush (writer : Writer) : writer.flush.1 = writer.sendPending.1 := by
  unfold flush
  generalize writer.sendPending = sent
  obtain ⟨emptied, failure⟩ := sent
  cases failure <;> rfl

theorem flush_fine_iff (orderly : writer.Orderly) :
    writer.flush.2 = none ↔
      writer.flush.1.accepted = writer.given ∧ writer.sink.flushFailure = none := by
  have wrote := wrote_sendPending orderly
  have empty := @pending_sendPending writer
  rw [fst_flush]
  unfold flush
  generalize writer.sendPending = sent at wrote empty
  obtain ⟨emptied, failure⟩ := sent
  have sink : emptied.sink = writer.sink := wrote.sink
  cases failure with
  | none =>
      have whole := wrote.whole rfl
      rw [List.append_nil] at whole
      have all : emptied.accepted = writer.given := by
        rw [← whole, Writer.given, empty rfl, List.append_nil]
      simp [Writer.andThen, all, sink]
  | some failure =>
      have shorter := wrote.lacks (by simp)
      rw [List.append_nil] at shorter
      have lacking : emptied.accepted ≠ writer.given :=
        fun same => absurd shorter (same ▸ Nat.lt_irrefl _)
      simp [Writer.andThen, lacking]

theorem flush_part (orderly : writer.Orderly) :
    writer.flush.1.accepted <+: writer.given := by
  have part := (wrote_sendPending orderly).part
  rw [List.append_nil, ← fst_flush] at part
  exact (List.prefix_append _ _).trans part

theorem send_of_stuck (stuck : writer.Stuck) (bytes : Bytes) : (writer.send bytes).1 = writer := by
  unfold send
  split
  · rfl
  · split
    · rfl
    · rename_i working
      rcases stuck with failing | ⟨capacity, limited, full⟩
      · exact absurd working failing
      · have none : writer.room bytes = 0 := by
          rw [room, limited]
          simp only
          omega
        simp [none]

theorem accepted_flush_of_stuck (stuck : writer.Stuck) :
    writer.flush.1.accepted = writer.accepted := by
  have same := send_of_stuck stuck writer.pending
  rw [fst_flush]
  unfold sendPending
  generalize writer.send writer.pending = result at same
  obtain ⟨after, failure⟩ := result
  cases same
  rfl

section Flushed

variable (wrote : writer.Wrote bytes result)
include wrote

theorem Wrote.flushed_part : result.1.flush.1.accepted <+: writer.given ++ bytes :=
  (flush_part wrote.orderly).trans wrote.part

/-- Nothing fails if and only if all is handed over and the sink can be flushed. -/
theorem Wrote.fine_iff :
    (result.2 = none ∧ result.1.flush.2 = none) ↔
      (result.1.flush.1.accepted = writer.given ++ bytes ∧ writer.sink.flushFailure = none) := by
  rw [flush_fine_iff wrote.orderly, wrote.sink]
  constructor
  · rintro ⟨fine, all, flushes⟩
    exact ⟨all.trans (wrote.whole fine), flushes⟩
  · rintro ⟨all, flushes⟩
    -- A sink that lacks bytes takes no more of them, so no flush makes up for a failed write.
    have fine : result.2 = none := by
      by_cases fails : result.2 = none
      · exact fails
      · have shorter := wrote.lacks fails
        rw [← accepted_flush_of_stuck (wrote.stuck fails), all] at shorter
        exact absurd shorter (Nat.lt_irrefl _)
    exact ⟨fine, all.trans (wrote.whole fine).symm, flushes⟩

end Flushed

section Accepting

variable (accepts : writer.sink = {})
include accepts

theorem not_stuck_of_accepts : ¬ writer.Stuck := by
  rintro (failing | ⟨capacity, limited, _⟩)
  · simp [accepts] at failing
  · simp [accepts] at limited

theorem Wrote.fine_of_accepts (wrote : writer.Wrote bytes result) : result.2 = none := by
  by_cases fails : result.2 = none
  · exact fails
  · exact absurd (wrote.stuck fails) (not_stuck_of_accepts (wrote.sink.trans accepts))

theorem flush_of_accepts (orderly : writer.Orderly) : writer.flush.2 = none := by
  have wrote := wrote_sendPending orderly
  have fine := wrote.fine_of_accepts accepts
  have sink : writer.sendPending.1.sink = {} := wrote.sink.trans accepts
  unfold flush
  generalize writer.sendPending = sent at fine sink
  obtain ⟨emptied, failure⟩ := sent
  cases fine
  simp only at sink
  simp [Writer.andThen, sink]

theorem send_of_accepts (bytes : Bytes) :
    writer.send bytes = ({ writer with accepted := writer.accepted ++ bytes }, none) := by
  unfold send
  split
  · rename_i empty
    simp [List.isEmpty_iff.mp empty]
  · simp [accepts, room]

end Accepting

/-! ## Why a write fails -/

structure Blames (sink : Sink) (result : Writer × Option IoFailure) : Prop where
  same : result.1.sink = sink
  failing : ∀ failure, result.2 = some failure →
    sink.writeFailure = some failure ∨ sink.flushFailure = some failure ∨
      sink.capacity ≠ none ∧ failure = .shortWrite

section Blaming

variable {sink : Sink}

theorem Blames.andThen {first : Writer × Option IoFailure}
    {second : Writer → Writer × Option IoFailure} (blames : Blames sink first)
    (next : ∀ writer : Writer, writer.sink = sink → Blames sink (second writer)) :
    Blames sink (andThen first second) := by
  obtain ⟨middle, failure⟩ := first
  cases failure with
  | none => exact next middle blames.same
  | some failure => exact blames

theorem blames_nothing (same : writer.sink = sink) : Blames sink (writer, none) := ⟨same, nofun⟩

theorem blames_send (same : writer.sink = sink) (bytes : Bytes) :
    Blames sink (writer.send bytes) := by
  subst same
  unfold send
  split
  · exact blames_nothing rfl
  · split
    · rename_i failing
      exact ⟨rfl, fun _ failed => .inl (failing.trans failed)⟩
    · refine ⟨rfl, fun failure failed => ?_⟩
      by_cases short : writer.room bytes < bytes.length
      · obtain ⟨capacity, limited, _⟩ := exists_capacity short
        simp only [short, ↓reduceIte, Option.some.injEq] at failed
        exact .inr (.inr ⟨by simp [limited], failed.symm⟩)
      · simp [short] at failed

theorem blames_sendPending (same : writer.sink = sink) : Blames sink writer.sendPending := by
  have blames := blames_send same writer.pending
  unfold sendPending
  generalize writer.send writer.pending = sent at blames
  exact ⟨blames.same, blames.failing⟩

theorem blames_hold (same : writer.sink = sink) (bytes : Bytes) :
    Blames sink (writer.hold bytes) := by
  unfold hold
  split
  · exact blames_nothing same
  · have emptied : Blames sink (if bufferSize < writer.pending.length + bytes.length
        then writer.sendPending else (writer, none)) := by
      split
      · exact blames_sendPending same
      · exact blames_nothing same
    generalize (if bufferSize < writer.pending.length + bytes.length
      then writer.sendPending else (writer, none)) = result at emptied
    obtain ⟨middle, failure⟩ := result
    cases failure with
    | some failure => exact emptied
    | none =>
        simp only
        split
        · exact blames_send emptied.same bytes
        · exact blames_nothing emptied.same

theorem blames_writeLines (same : writer.sink = sink) (bytes : Bytes) :
    Blames sink (writer.writeLines bytes) := by
  unfold writeLines
  obtain ⟨complete, tail⟩ := splitLastLine bytes
  simp only
  split
  · refine Blames.andThen ?_ fun _ kept => blames_hold kept _
    split
    · exact blames_sendPending same
    · exact blames_nothing same
  · split
    · exact (blames_send same _).andThen fun _ kept => blames_hold kept _
    · exact ((blames_hold same _).andThen fun _ kept => blames_sendPending kept).andThen
        fun _ kept => blames_hold kept _

theorem blames_writePieces (same : writer.sink = sink) (pieces : List String) :
    Blames sink (writer.writePieces pieces) := by
  induction pieces generalizing writer with
  | nil => exact blames_nothing same
  | cons piece rest ih =>
      refine Blames.andThen ?_ fun _ kept => ih kept
      unfold write
      split
      · exact blames_writeLines same _
      · exact blames_send same _

theorem blames_flush (same : writer.sink = sink) : Blames sink writer.flush := by
  refine (blames_sendPending same).andThen fun emptied kept => ⟨kept, fun failure failed => ?_⟩
  exact .inr (.inl (kept ▸ failed))

end Blaming

end Writer

theorem World.faultless_sink (world : World) (stream : Stream) :
    (world.sink stream).flushFailure = none ∧ (world.sink stream).capacity = none := by
  unfold World.sink
  repeat' split
  all_goals exact ⟨rfl, rfl⟩

/-- A stream whose sink accepts everything gets all that is written to it. -/
theorem World.write_accepted {world : World} {number : Nat} {stream : Stream}
    (used : world.stream? number = some stream) (accepts : world.sink stream = {})
    (bytes : Bytes) : (world.write number bytes).1 = world.deliver stream bytes := by
  have sent := @Writer.send_of_accepts { sink := world.sink stream } accepts bytes
  simp only [write, used, sent, List.nil_append]

/-! ## Printing an effect -/

section Effects

variable (effect : Effect) (name : String)

theorem session_print (writer : Writer) : (effect.print name writer).session = effect.session := by
  unfold Effect.print BuiltinResult.afterWrite BuiltinResult.afterFlush
  simp only
  split <;> split <;> rfl

theorem directory_print (writer : Writer) :
    (effect.print name writer).directory = effect.directory := by
  unfold Effect.print BuiltinResult.afterWrite BuiltinResult.afterFlush
  simp only
  split <;> split <;> rfl

theorem writer_print (writer : Writer) :
    (effect.print name writer).writer = (writer.writePieces effect.output).1.flush.1 := by
  unfold Effect.print BuiltinResult.afterWrite BuiltinResult.afterFlush
  simp only
  split <;> split <;> rfl

theorem Effect.print_fine {writer : Writer} (written : (writer.writePieces effect.output).2 = none)
    (flushed : (writer.writePieces effect.output).1.flush.2 = none) :
    effect.print name writer =
      { session := effect.session, directory := effect.directory, messages := effect.messages
        status := effect.status, writer := (writer.writePieces effect.output).1.flush.1 } := by
  rw [Effect.print, written, flushed, BuiltinResult.afterWrite, BuiltinResult.afterFlush]

theorem status_print (writer : Writer) :
    (effect.print name writer).status =
      if (writer.writePieces effect.output).2 = none ∧
          (writer.writePieces effect.output).1.flush.2 = none then effect.status
      else Status.failure := by
  unfold Effect.print
  simp only
  cases (writer.writePieces effect.output).2 with
  | none =>
      cases (writer.writePieces effect.output).1.flush.2 with
      | none => rfl
      | some failure => rfl
  | some failure =>
      cases (writer.writePieces effect.output).1.flush.2 with
      | none => rfl
      | some failure => rfl

theorem status_print_silent {effect : Effect} (silent : effect.output = []) (name : String)
    {writer : Writer} (flushes : writer.flush.2 = none) :
    (effect.print name writer).status = effect.status := by
  have nothing : writer.writePieces effect.output = (writer, none) := by
    rw [silent, Writer.writePieces]
  rw [status_print, nothing]
  exact if_pos ⟨rfl, flushes⟩

/-- What a builtin prints to a sink that accepts everything reaches it, and nothing else changes. -/
theorem Effect.print_accepted (lineBuffered : Bool) :
    ∃ writer : Writer, writer.accepted = effect.output.flatMap encode ∧
      effect.print name { lineBuffered } =
        { session := effect.session, directory := effect.directory, messages := effect.messages
          status := effect.status, writer } := by
  let writer : Writer := { lineBuffered }
  have wrote := writer.wrote_writePieces (fun _ => rfl) effect.output
  have written := wrote.fine_of_accepts rfl
  have flushed := Writer.flush_of_accepts (wrote.sink.trans rfl) wrote.orderly
  exact ⟨_, (wrote.fine_iff.mp ⟨written, flushed⟩).1, effect.print_fine name written flushed⟩

end Effects

end PipeShell
