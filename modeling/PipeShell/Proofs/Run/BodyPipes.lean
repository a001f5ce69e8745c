import PipeShell.Proofs.Run.Frame
import PipeShell.Proofs.System.Writing

/-!
# The pipes of here-documents

Bodies are read one after another, in the order in which their redirections are written, and each
goes into a pipe of its own. Main statements: the body in the place of a redirection is what reading
that very redirection gave, and when the stages were started, every pipe holds exactly its body.
-/

namespace PipeShell

/-! ## Reading one after another -/

namespace Collected

variable {α β γ : Type}

theorem bind_assoc (first : Collected α) (second : World → Source → α → Collected β)
    (third : World → Source → β → Collected γ) :
    (first.bind second).bind third =
      first.bind fun world source value => (second world source value).bind third := by
  rcases first with ⟨world, source, (error | (_ | value))⟩ <;> rfl

theorem bind_done (first : Collected α) :
    (first.bind fun world source value => (world, source, .ok (some value))) = first := by
  rcases first with ⟨world, source, (error | (_ | value))⟩ <;> rfl

theorem of_bind_done {first : Collected α} {next : World → Source → α → Collected β}
    {world : World} {source : Source} {value : β}
    (done : first.bind next = (world, source, .ok (some value))) :
    ∃ reached left known, first = (reached, left, .ok (some known)) ∧
      next reached left known = (world, source, .ok (some value)) := by
  rcases first with ⟨reached, left, (error | (_ | known))⟩
  · cases done
  · cases done
  · exact ⟨reached, left, known, rfl, done⟩

end Collected

section Reading

variable {session : Session} {world read : World} {source left : Source}

theorem readBodies_append (session : Session) (world : World) (source : Source)
    (first second : List Redirection) :
    readBodies session world source (first ++ second) =
      (readBodies session world source first).bind fun world source early =>
        (readBodies session world source second).bind fun world source late =>
          (world, source, .ok (some (early ++ late))) := by
  induction first generalizing world source with
  | nil => exact (Collected.bind_done _).symm
  | cons heredoc rest ih =>
      simp only [List.cons_append, readBodies, ih, Collected.bind_assoc]
      rfl

theorem length_readBodies {heredocs : List Redirection} {bodies : List String}
    (done : readBodies session world source heredocs = (read, left, .ok (some bodies))) :
    bodies.length = heredocs.length := by
  induction heredocs generalizing world source bodies with
  | nil =>
      cases done
      rfl
  | cons heredoc rest ih =>
      obtain ⟨_, _, body, _, more⟩ := Collected.of_bind_done done
      obtain ⟨_, _, others, later, same⟩ := Collected.of_bind_done more
      cases same
      rw [List.length_cons, List.length_cons, ih later]

theorem readBodies_of_collected {commands : List Command} {bodies : List (List String)}
    (done : collectHeredocs session world source commands = (read, left, .ok (some bodies))) :
    readBodies session world source (commands.flatMap Command.heredocs) =
        (read, left, .ok (some bodies.flatten)) ∧
      bodies.map List.length = commands.map fun command => command.heredocs.length := by
  induction commands generalizing world source bodies with
  | nil =>
      cases done
      exact ⟨rfl, rfl⟩
  | cons command rest ih =>
      obtain ⟨_, _, stage, first, more⟩ := Collected.of_bind_done done
      obtain ⟨_, _, stages, later, same⟩ := Collected.of_bind_done more
      cases same
      obtain ⟨all, lengths⟩ := ih later
      rw [List.flatMap_cons, readBodies_append, first]
      refine ⟨?_, by rw [List.map_cons, List.map_cons, lengths, length_readBodies first]⟩
      simp only [Collected.bind, all, List.flatten_cons]

/-- What reading the here-document gave when those before it had been read. -/
def BodyRead (session : Session) (world : World) (source : Source) (earlier : List Redirection)
    (heredoc : Redirection) (body : String) : Prop :=
  ∃ reached left bodies read rest,
    readBodies session world source earlier = (reached, left, .ok (some bodies)) ∧
    readBody session heredoc reached left "" left.events = (read, rest, .ok (some body))

/-- A body stands in the place of its redirection. -/
theorem bodyRead_of_readBodies {earlier later : List Redirection} {heredoc : Redirection}
    {bodies : List String}
    (done : readBodies session world source (earlier ++ heredoc :: later) =
      (read, left, .ok (some bodies))) :
    ∃ body, bodies[earlier.length]? = some body ∧
      BodyRead session world source earlier heredoc body := by
  rw [readBodies_append] at done
  obtain ⟨reached, middle, early, before, done⟩ := Collected.of_bind_done done
  obtain ⟨_, _, late, after, same⟩ := Collected.of_bind_done done
  cases same
  obtain ⟨_, _, body, first, more⟩ := Collected.of_bind_done after
  obtain ⟨_, _, others, _, same⟩ := Collected.of_bind_done more
  cases same
  refine ⟨body, ?_, reached, middle, early, _, _, before, first⟩
  rw [← length_readBodies before, List.getElem?_append_right (Nat.le_refl _), Nat.sub_self,
    List.getElem?_cons_zero]

end Reading

/-! ## Writing into pipes -/

namespace World

variable (world : World)

theorem write_pipe {number pipe : Nat} (used : world.stream? number = some (.pipeWriter pipe))
    (bytes : Bytes) :
    (world.write number bytes).1 =
      { world with pipes := world.pipes.set pipe (world.pipes.getD pipe [] ++ bytes) } :=
  write_accepted used rfl bytes

variable {world} {count : Nat}

theorem pipes_deliver {stream : Stream}
    (early : ∀ pipe, stream = .pipeWriter pipe → pipe < count) (bytes : Bytes) :
    (world.deliver stream bytes).pipes.drop count = world.pipes.drop count := by
  cases stream with
  | pipeWriter pipe => exact List.drop_set_of_lt (early pipe rfl)
  | file index =>
      simp only [deliver]
      split
      · rw [pipes_writeFile]
      · rfl
  | _ => rfl

theorem pipes_write {number : Nat}
    (early : ∀ pipe, world.stream? number = some (.pipeWriter pipe) → pipe < count)
    (bytes : Bytes) :
    (world.write number bytes).1.pipes.drop count = world.pipes.drop count := by
  unfold write
  split
  · rfl
  · rename_i stream used
    exact pipes_deliver (fun pipe same => early pipe (same ▸ used)) _

def ErrorsBefore (count : Nat) (world : World) : Prop :=
  ∀ pipe, world.stream? Descriptors.standardError = some (.pipeWriter pipe) → pipe < count

theorem ErrorsBefore.of_process {before after : World} (errors : before.ErrorsBefore count)
    (same : after.process = before.process) : after.ErrorsBefore count := by
  intro pipe used
  rw [stream?, same] at used
  exact errors pipe used

theorem pipes_report (errors : world.ErrorsBefore count) (message : String) :
    (world.report message).pipes.drop count = world.pipes.drop count :=
  pipes_write errors _

theorem pipes_log (errors : world.ErrorsBefore count) (level : LogLevel) (text : String) :
    (world.log level text).pipes.drop count = world.pipes.drop count := by
  unfold log
  split
  · rfl
  · rename_i journal _
    unfold record
    split
    · have logged (bytes : Bytes) :
          (world.deliver (.file journal.file) bytes).pipes.drop count = world.pipes.drop count :=
        pipes_deliver (by simp) bytes
      split
      · rw [pipes_write (errors.of_process (world.process_deliver _ _)), logged]
      · exact logged _
    · rfl

theorem pipes_fork {forked : World} {child : Nat} (done : world.fork = .ok (forked, child)) :
    forked.pipes = world.pipes := by
  unfold fork at done
  split at done
  · cases done
  · cases done
    rfl

end World

/-- Starting stages leaves the pipes from `count` on alone, also if one cannot be started. -/
theorem pipes_startStages {count : Nat} (commands : List Command) {world : World}
    (errors : world.ErrorsBefore count) (index : Nat) :
    (startStages world index commands).1.pipes.drop count = world.pipes.drop count := by
  induction commands generalizing world index with
  | nil => rfl
  | cons command rest ih =>
      unfold startStages
      split
      · rw [World.pipes_report (errors.of_process (world.process_log _ _)), World.pipes_log errors]
      · rename_i forked child started
        simp only [ih (errors.of_process (world.process_fork started)), World.pipes_fork started]

/-! ## Sending the bodies -/

def Stream.EndOf (stream : Stream) (pipe : Nat) : Prop :=
  stream = .pipeReader pipe ∨ stream = .pipeWriter pipe

theorem Stream.EndOf.ne {stream second : Stream} {pipe other : Nat} (left : stream.EndOf pipe)
    (right : second.EndOf other) (different : pipe ≠ other) : stream ≠ second := by
  rcases left with rfl | rfl <;> rcases right with rfl | rfl <;> simp [different]

theorem endOf_of_mem_pipeEnds {first : Nat} {pipes : List (Nat × Nat)} {slot : Nat × Stream}
    (member : slot ∈ pipeEnds first pipes) :
    ∃ pipe, first ≤ pipe ∧ pipe < first + pipes.length ∧ slot.2.EndOf pipe := by
  induction pipes generalizing first with
  | nil => cases member
  | cons ends rest ih =>
      rw [List.length_cons]
      rcases List.mem_cons.mp member with rfl | more
      · exact ⟨first, by omega, by omega, .inl rfl⟩
      · rcases List.mem_cons.mp more with rfl | later
        · exact ⟨first, by omega, by omega, .inr rfl⟩
        · obtain ⟨pipe, low, high, is⟩ := ih later
          exact ⟨pipe, by omega, by omega, is⟩

def World.Knows (world : World) (slots : List (Nat × Stream)) : Prop :=
  ∀ slot ∈ slots, world.stream? slot.1 = some slot.2

theorem World.ne_of_streams {world : World} {number other : Nat} {stream second : Stream}
    (used : world.stream? number = some stream) (usedToo : world.stream? other = some second)
    (different : stream ≠ second) : number ≠ other := by
  rintro rfl
  rw [used] at usedToo
  exact different (Option.some.inj usedToo)

theorem World.Knows.closeAll {world : World} {slots : List (Nat × Stream)} {numbers : List Nat}
    (knows : world.Knows slots) (apart : ∀ slot ∈ slots, slot.1 ∉ numbers) :
    (world.mapDescriptors (·.closeAll numbers)).Knows slots := by
  intro slot member
  have closed := Descriptors.stream?_closeAll world.process.descriptors numbers slot.1
  rw [if_neg (apart slot member)] at closed
  exact closed.trans (knows slot member)

namespace Plumbing

theorem sendBody_eq {world : World} {pipe : HeredocPipe} {index : Nat}
    (reader : world.stream? pipe.reader = some (.pipeReader index))
    (writer : world.stream? pipe.writer = some (.pipeWriter index)) :
    sendBody world pipe = { world.mapDescriptors (·.closeAll [pipe.reader, pipe.writer]) with
      pipes := world.pipes.set index (world.pipes.getD index [] ++ encode pipe.body) } := by
  have different := World.ne_of_streams writer reader nofun
  have closed := Descriptors.stream?_close world.process.descriptors pipe.reader pipe.writer
  rw [if_neg different] at closed
  have written := (world.close pipe.reader).write_pipe (closed.trans writer) (encode pipe.body)
  rw [sendBody, written]
  rfl

theorem knows_sendBody {world : World} {first : Nat} {pipe : HeredocPipe}
    {rest : List HeredocPipe}
    (knows : world.Knows (pipeEnds first ((pipe :: rest).map HeredocPipe.ends))) :
    (sendBody world pipe).Knows (pipeEnds (first + 1) (rest.map HeredocPipe.ends)) := by
  obtain ⟨reader, others⟩ := List.forall_mem_cons.mp knows
  obtain ⟨writer, later⟩ := List.forall_mem_cons.mp others
  rw [sendBody_eq reader writer]
  apply World.Knows.closeAll later
  intro slot member
  obtain ⟨index, low, _, isEnd⟩ := endOf_of_mem_pipeEnds member
  have other : index ≠ first := by omega
  have notReader := World.ne_of_streams (later slot member) reader (isEnd.ne (.inl rfl) other)
  have notWriter := World.ne_of_streams (later slot member) writer (isEnd.ne (.inr rfl) other)
  simpa using ⟨notReader, notWriter⟩

theorem pipes_sendBodies {pipes : List HeredocPipe} {world : World} {front : List Bytes}
    (knows : world.Knows (pipeEnds front.length (pipes.map HeredocPipe.ends)))
    (empty : world.pipes = front ++ List.replicate pipes.length []) :
    (pipes.foldl sendBody world).pipes = front ++ pipes.map fun pipe => encode pipe.body := by
  induction pipes generalizing world front with
  | nil => simpa using empty
  | cons pipe rest ih =>
      obtain ⟨reader, others⟩ := List.forall_mem_cons.mp knows
      obtain ⟨writer, _⟩ := List.forall_mem_cons.mp others
      -- The pipe that was filled is one more of those in front of the others.
      have filled : (sendBody world pipe).pipes =
          (front ++ [encode pipe.body]) ++ List.replicate rest.length [] := by
        rw [sendBody_eq reader writer]
        simp [empty, List.replicate_succ]
      have knowsLater : (sendBody world pipe).Knows
          (pipeEnds (front ++ [encode pipe.body]).length (rest.map HeredocPipe.ends)) := by
        rw [List.length_append, List.length_singleton]
        exact knows_sendBody knows
      rw [List.foldl_cons, ih knowsLater filled, List.append_assoc]
      rfl

theorem knows_closeStages {plumbing : Plumbing} {world : World} {first : Nat}
    (knows : world.Knows (pipeEnds first plumbing.allPipes)) :
    (world.mapDescriptors
        (·.closeAll (plumbing.pipes.flatMap fun pipe => [pipe.1, pipe.2]))).Knows
      (pipeEnds (first + plumbing.pipes.length)
        (plumbing.heredocs.flatten.map HeredocPipe.ends)) := by
  rw [allPipes, pipeEnds_append] at knows
  obtain ⟨stages, bodies⟩ := List.forall_mem_append.mp knows
  rw [← numbers_pipeEnds first]
  apply World.Knows.closeAll bodies
  -- A number cannot stand for an end of two different pipes.
  intro slot member inStages
  obtain ⟨other, among, same⟩ := List.mem_map.mp inStages
  obtain ⟨pipe, low, _, isEnd⟩ := endOf_of_mem_pipeEnds member
  obtain ⟨stage, _, high, isEndToo⟩ := endOf_of_mem_pipeEnds among
  have different : stage ≠ pipe := by omega
  exact World.ne_of_streams (stages other among) (bodies slot member)
    (isEndToo.ne isEnd different) same

/-- What is left to do when the stages were started fills the pipes of the here-documents. -/
theorem pipes_finish {plumbing : Plumbing} {world : World} {front : List Bytes} {first : Nat}
    (knows : world.Knows (pipeEnds first plumbing.allPipes))
    (length : front.length = first + plumbing.pipes.length)
    (empty : world.pipes = front ++ List.replicate plumbing.heredocs.flatten.length []) :
    (plumbing.finish world).pipes =
      front ++ plumbing.heredocs.flatten.map fun pipe => encode pipe.body := by
  apply pipes_sendBodies
  · rw [length]
    exact knows_closeStages knows
  · exact empty

end Plumbing

end PipeShell
