import PipeShell.Proofs.System.Descriptors
import PipeShell.System.Journal

/-!
# The process in the world

Files, pipes and streams are shared; a process has its directory and its numbers. Main statement:
what is delivered or reported is the same in every process whose numbers stand for the same streams,
and leaves the process as it is.
-/

namespace PipeShell

def Process.withDescriptors (process : Process) (descriptors : Descriptors) : Process :=
  { process with descriptors }

@[simp]
theorem Process.directory_withDescriptors (process : Process) (descriptors : Descriptors) :
    (process.withDescriptors descriptors).directory = process.directory := rfl

@[simp]
theorem Process.descriptors_withDescriptors (process : Process) (descriptors : Descriptors) :
    (process.withDescriptors descriptors).descriptors = descriptors := rfl

def Process.inDirectory (process : Process) (directory : Place) : Process :=
  { process with directory }

@[simp]
theorem Process.descriptors_inDirectory (process : Process) (directory : Place) :
    (process.inDirectory directory).descriptors = process.descriptors := rfl

theorem Process.inDirectory_withDescriptors (process : Process) (directory : Place)
    (descriptors : Descriptors) :
    (process.inDirectory directory).withDescriptors descriptors =
      (process.withDescriptors descriptors).inDirectory directory := rfl

@[simp]
theorem Process.withDescriptors_self (process : Process) :
    process.withDescriptors process.descriptors = process := rfl

@[simp]
theorem Process.withDescriptors_withDescriptors (process : Process)
    (descriptors other : Descriptors) :
    (process.withDescriptors descriptors).withDescriptors other = process.withDescriptors other :=
  rfl

namespace World

def inProcess (world : World) (process : Process) : World := { world with process }

variable (world : World) (process : Process)

@[simp]
theorem process_inProcess : (world.inProcess process).process = process := rfl

@[simp]
theorem files_inProcess : (world.inProcess process).files = world.files := rfl

@[simp]
theorem openFiles_inProcess : (world.inProcess process).openFiles = world.openFiles := rfl

@[simp]
theorem inProcess_inProcess (other : Process) :
    (world.inProcess process).inProcess other = world.inProcess other := rfl

@[simp]
theorem inProcess_self : world.inProcess world.process = world := rfl

theorem mapDescriptors_eq (change : Descriptors → Descriptors) :
    world.mapDescriptors change =
      world.inProcess (world.process.withDescriptors (change world.process.descriptors)) :=
  rfl

theorem close_inProcess (number : Nat) :
    (world.inProcess process).close number =
      world.inProcess (process.withDescriptors (process.descriptors.close number)) :=
  rfl

/-! ## What writing leaves alone -/

/-- What writing keeps: the running process, and what is known of its children. -/
structure Wrote (before after : World) : Prop where
  process : after.process = before.process
  endings : after.endings = before.endings
  children : after.children = before.children
  processLimit : after.processLimit = before.processLimit

namespace Wrote

theorem refl (world : World) : world.Wrote world :=
  ⟨rfl, rfl, rfl, rfl⟩

theorem trans {first second third : World} (left : first.Wrote second)
    (right : second.Wrote third) : first.Wrote third where
  process := right.process.trans left.process
  endings := right.endings.trans left.endings
  children := right.children.trans left.children
  processLimit := right.processLimit.trans left.processLimit

end Wrote

theorem wrote_writeFile (index : Nat) (file : OpenFile) (bytes : Bytes) :
    world.Wrote (world.writeFile index file bytes) := by
  obtain ⟨home, mode, position⟩ := file
  unfold writeFile
  split
  · cases home <;> exact ⟨rfl, rfl, rfl, rfl⟩
  · exact .refl world

theorem pipes_writeFile (index : Nat) (file : OpenFile) (bytes : Bytes) :
    (world.writeFile index file bytes).pipes = world.pipes := by
  obtain ⟨home, mode, position⟩ := file
  unfold writeFile
  split
  · cases home <;> rfl
  · rfl

theorem wrote_deliver (stream : Stream) (bytes : Bytes) :
    world.Wrote (world.deliver stream bytes) := by
  cases stream with
  | file index =>
      simp only [deliver]
      split
      · exact world.wrote_writeFile index _ bytes
      · exact .refl world
  | _ => exact ⟨rfl, rfl, rfl, rfl⟩

theorem wrote_write (number : Nat) (bytes : Bytes) : world.Wrote (world.write number bytes).1 := by
  unfold write
  split
  · exact .refl world
  · exact world.wrote_deliver _ _

theorem wrote_complain (line : String) : world.Wrote (world.complain line) :=
  world.wrote_write _ _

theorem wrote_report (message : String) : world.Wrote (world.report message) :=
  world.wrote_complain _

theorem wrote_log (level : LogLevel) (text : String) : world.Wrote (world.log level text) := by
  unfold log
  split
  · exact .refl world
  · unfold record
    split
    · split
      · exact (world.wrote_deliver _ _).trans (wrote_write _ _ _)
      · exact world.wrote_deliver _ _
    · exact .refl world

/-! ## Delivering and reporting -/

theorem sink_inProcess (stream : Stream) : (world.inProcess process).sink stream =
    world.sink stream := by
  cases stream <;> rfl

theorem writeFile_inProcess (index : Nat) (file : OpenFile) (bytes : Bytes) :
    (world.inProcess process).writeFile index file bytes =
      (world.writeFile index file bytes).inProcess process := by
  obtain ⟨home, mode, position⟩ := file
  cases home with
  | named place =>
      have node : (world.inProcess process).nodeOf? ⟨.named place, mode, position⟩ =
          world.nodeOf? ⟨.named place, mode, position⟩ := rfl
      simp only [writeFile, node]
      split <;> rfl
  | unnamed index =>
      have node : (world.inProcess process).nodeOf? ⟨.unnamed index, mode, position⟩ =
          world.nodeOf? ⟨.unnamed index, mode, position⟩ := rfl
      simp only [writeFile, node]
      split <;> rfl

theorem deliver_inProcess (stream : Stream) (bytes : Bytes) :
    (world.inProcess process).deliver stream bytes =
      (world.deliver stream bytes).inProcess process := by
  cases stream with
  | file index =>
      simp only [deliver, openFiles_inProcess]
      split
      · exact world.writeFile_inProcess process index _ bytes
      · rfl
  | _ => rfl

@[simp]
theorem process_deliver (stream : Stream) (bytes : Bytes) :
    (world.deliver stream bytes).process = world.process :=
  (world.wrote_deliver stream bytes).process

variable {process}

theorem write_inProcess {number : Nat}
    (same : process.descriptors.stream? number = world.stream? number) (bytes : Bytes) :
    (world.inProcess process).write number bytes =
      ((world.write number bytes).1.inProcess process, (world.write number bytes).2) := by
  have stream : (world.inProcess process).stream? number = world.stream? number := same
  simp only [write, stream]
  split
  · rfl
  · simp only [sink_inProcess, deliver_inProcess]

@[simp]
theorem process_write (number : Nat) (bytes : Bytes) :
    (world.write number bytes).1.process = world.process :=
  (world.wrote_write number bytes).process

theorem report_inProcess
    (same : process.descriptors.stream? Descriptors.standardError =
      world.stream? Descriptors.standardError) (message : String) :
    (world.inProcess process).report message = (world.report message).inProcess process := by
  simp only [report, complain, world.write_inProcess same]

@[simp]
theorem process_report (message : String) : (world.report message).process = world.process :=
  (world.wrote_report message).process

theorem foldl_report_inProcess (messages : List String)
    (same : process.descriptors.stream? Descriptors.standardError =
      world.stream? Descriptors.standardError) :
    messages.foldl report (world.inProcess process) =
      (messages.foldl report world).inProcess process := by
  induction messages generalizing world with
  | nil => rfl
  | cons message rest ih =>
      rw [List.foldl_cons, List.foldl_cons, world.report_inProcess same]
      apply ih
      rw [stream?, process_report]
      exact same

@[simp]
theorem process_foldl_report (messages : List String) :
    (messages.foldl report world).process = world.process := by
  induction messages generalizing world with
  | nil => rfl
  | cons message rest ih => rw [List.foldl_cons, ih, process_report]

@[simp]
theorem process_log (level : LogLevel) (text : String) :
    (world.log level text).process = world.process :=
  (world.wrote_log level text).process

/-! ## Room for more numbers -/

/-- So many more streams can be opened. -/
def HasRoom (count : Nat) : Prop :=
  ∀ limit, world.descriptorLimit = some limit →
    world.process.descriptors.slots.length + count ≤ limit

variable {world}

theorem HasRoom.mono {other : World} {count less : Nat} (room : world.HasRoom count)
    (limit : other.descriptorLimit = world.descriptorLimit)
    (fewer : other.process.descriptors.slots.length + less ≤
      world.process.descriptors.slots.length + count) : other.HasRoom less := by
  intro most found
  rw [limit] at found
  exact Nat.le_trans fewer (room most found)

theorem openStream_eq (room : world.HasRoom 1) (stream : Stream) :
    world.openStream stream =
      .ok (world.mapDescriptors (·.place world.process.descriptors.lowestFree stream),
        world.process.descriptors.lowestFree) := by
  have low := world.process.descriptors.lowestFree_le
  unfold openStream
  rw [if_neg]
  rw [Option.any_eq_true]
  rintro ⟨limit, found, reached⟩
  have fits := room limit found
  have beyond := of_decide_eq_true reached
  omega

end World

end PipeShell
