import Mathlib.Data.List.Forall2
import PipeShell.Proofs.Text.Repair
import PipeShell.Source

/-!
# Lines of an input that is no terminal

The input is cut at its newlines before anything of it is read as text. What one read takes is said
for a piece that a newline ends and for the rest after the last newline; all reads follow from it.
Main statement: reading gets the pieces that a newline ends, without it and without one carriage
return before it, then what is left, and after that nothing but the end of input. Lines that are
written out are read back.
-/

namespace PipeShell

/-! ## Cutting -/

/-- What a newline ends, without the one carriage return that may stand before it. -/
def ReturnDropped (piece line : Bytes) : Prop :=
  piece = line ++ [13] ∨ piece = line ∧ line.getLast? ≠ some 13

theorem returnDropped_dropReturn (piece : Bytes) : ReturnDropped piece (dropReturn piece) := by
  unfold dropReturn
  split
  · rename_i returned
    obtain ⟨front, rfl⟩ := List.getLast?_eq_some_iff.mp returned
    exact .inl (by rw [List.dropLast_concat])
  · rename_i kept
    exact .inr ⟨rfl, kept⟩

theorem exists_pieces (bytes : Bytes) :
    ∃ (ended : List Bytes) (rest : Bytes), bytes = ended.flatMap (· ++ [10]) ++ rest ∧
      (∀ piece ∈ ended, 10 ∉ piece) ∧ 10 ∉ rest := by
  induction bytes with
  | nil => exact ⟨[], [], rfl, by simp, by simp⟩
  | cons octet more ih =>
      obtain ⟨ended, rest, rfl, unbroken, last⟩ := ih
      by_cases newline : octet = 10
      · subst newline
        exact ⟨[] :: ended, rest, rfl, by simpa using unbroken, last⟩
      · have other : (10 : UInt8) ≠ octet := Ne.symm newline
        cases ended with
        | nil => exact ⟨[], octet :: rest, rfl, by simp, by simp [other, last]⟩
        | cons first others =>
            refine ⟨(octet :: first) :: others, rest, rfl, ?_, last⟩
            simpa [other] using unbroken

theorem readUntilNewline_of_newline {piece : Bytes} (unbroken : 10 ∉ piece) (left : Bytes) :
    readUntilNewline (piece ++ 10 :: left) = (piece ++ [10], left) := by
  induction piece with
  | nil => rfl
  | cons octet more ih =>
      have other := List.ne_of_not_mem_cons unbroken
      rw [List.cons_append, readUntilNewline, if_neg (Ne.symm other),
        ih (List.not_mem_of_not_mem_cons unbroken)]
      rfl

theorem readUntilNewline_of_not_mem {rest : Bytes} (last : 10 ∉ rest) :
    readUntilNewline rest = (rest, []) := by
  induction rest with
  | nil => rfl
  | cons octet more ih =>
      have other := List.ne_of_not_mem_cons last
      rw [readUntilNewline, if_neg (Ne.symm other), ih (List.not_mem_of_not_mem_cons last)]

/-! ## One read -/

namespace PipedInput

theorem readLine_of_newline {piece : Bytes} (unbroken : 10 ∉ piece) (left : Bytes) :
    readLine ⟨piece ++ 10 :: left⟩ = (pipedEvent (dropReturn piece), ⟨left⟩) := by
  have ended : dropLineEnd (piece ++ [10]) = dropReturn piece := by
    rw [dropLineEnd, List.getLast?_concat, if_pos rfl, List.dropLast_concat]
  simp only [readLine, readUntilNewline_of_newline unbroken]
  split <;> simp_all

theorem readLine_of_not_mem {rest : Bytes} (last : 10 ∉ rest) (more : rest ≠ []) :
    readLine ⟨rest⟩ = (pipedEvent rest, ⟨[]⟩) := by
  have kept : dropLineEnd rest = rest :=
    if_neg fun newline => last (List.mem_of_getLast? newline)
  simp only [readLine, readUntilNewline_of_not_mem last, kept]

theorem events_nil : events ⟨[]⟩ = [] := by
  rw [events, dif_pos rfl]

theorem events_of_ne_nil {input : PipedInput} (more : input.bytes ≠ []) :
    input.events = input.readLine.1 :: input.readLine.2.events := by
  rw [events, dif_neg more]

theorem events_pieces {ended : List Bytes} {rest : Bytes}
    (unbroken : ∀ piece ∈ ended, 10 ∉ piece) (last : 10 ∉ rest) :
    events ⟨ended.flatMap (· ++ [10]) ++ rest⟩ =
      (ended.map dropReturn ++ if rest = [] then [] else [rest]).map pipedEvent := by
  induction ended with
  | nil =>
      by_cases done : rest = []
      · subst done
        exact events_nil
      · change events ⟨rest⟩ = _
        rw [events_of_ne_nil done, readLine_of_not_mem last done, events_nil, if_neg done]
        rfl
  | cons first others ih =>
      obtain ⟨here, later⟩ := List.forall_mem_cons.mp unbroken
      have split : (first :: others).flatMap (· ++ [10]) ++ rest =
          first ++ 10 :: (others.flatMap (· ++ [10]) ++ rest) := by simp
      rw [split, events_of_ne_nil (by simp), readLine_of_newline here, ih later]
      rfl

/-- What so many reads give, one after the other. -/
def answers (input : PipedInput) : Nat → List (Except ShellError ReadOutcome)
  | 0 => []
  | reads + 1 => input.readLine.1.outcome :: input.readLine.2.answers reads

end PipedInput

/-! ## All reads -/

namespace Source

def answers (source : Source) (world : World) : List String → List (Except ShellError ReadOutcome)
  | [] => []
  | prompt :: later =>
    let (world, source, outcome) := source.read world prompt
    outcome :: source.answers world later

/-- Each read gives the next event, and after the last event each gives the end of input. -/
theorem answers_eq (source : Source) (world : World) (prompts : List String) :
    source.answers world prompts =
      (List.range prompts.length).map fun read =>
        (source.events.getD read .endOfInput).outcome := by
  induction prompts generalizing source world with
  | nil => rfl
  | cons prompt later ih =>
      have first : source.next = source.events.getD 0 .endOfInput := by
        rw [Source.next]
        cases source.events <;> rfl
      rw [List.length_cons, List.range_succ_eq_map, List.map_cons, List.map_map, ← first]
      simp only [answers, Source.read, ih, events_give]
      refine congrArg _ (List.map_congr_left fun read _ => ?_)
      simp

theorem answers_of_reader {source : Source} {input : PipedInput}
    (same : source.events = input.events) (world : World) (prompts : List String) :
    source.answers world prompts = input.answers prompts.length := by
  induction prompts generalizing source input world with
  | nil => rfl
  | cons prompt later ih =>
      have next : source.next = input.readLine.1 ∧
          source.events.drop 1 = input.readLine.2.events := by
        rw [Source.next, same]
        by_cases done : input.bytes = []
        · obtain rfl : input = ⟨[]⟩ := congrArg PipedInput.mk done
          rw [PipedInput.events_nil]
          exact ⟨rfl, PipedInput.events_nil.symm⟩
        · rw [PipedInput.events_of_ne_nil done]
          exact ⟨rfl, rfl⟩
      simp only [answers, Source.read, next.1]
      rw [ih (by rw [events_give, next.2])]
      rfl

end Source

/-- What the read with the number gives where there are these lines and nothing else. -/
def givenAt (lines : List String) (read : Nat) : ReadOutcome :=
  match lines[read]? with
  | some line => .line line
  | none => .endOfInput

theorem outcome_pipedEvent (line : Bytes) :
    (pipedEvent line).outcome = .ok (.line (repair line)) := by
  unfold pipedEvent
  split
  · rename_i text read
    rw [repair_eq_of_decode? read]
    rfl
  · rfl

theorem answers_piped {bytes : Bytes} {lines : List Bytes}
    (cut : PipedInput.events ⟨bytes⟩ = lines.map pipedEvent) (world : World)
    (prompts : List String) :
    (Source.piped bytes).answers world prompts =
      (List.range prompts.length).map fun read => .ok (givenAt (lines.map repair) read) := by
  rw [Source.answers_eq, Source.piped, cut]
  refine List.map_congr_left fun read _ => ?_
  simp only [givenAt, List.getD_eq_getElem?_getD, List.getElem?_map]
  cases lines[read]? with
  | none => rfl
  | some line => exact outcome_pipedEvent line

/-! ## Writing and reading -/

theorem mem_of_mem_encode {octet : UInt8} {c : Char} (ascii : octet.toNat < 128)
    (same : c.toNat = octet.toNat) {line : String} (member : octet ∈ encode line) :
    c ∈ line.toList := by
  obtain ⟨other, inLine, inOctets⟩ := List.mem_flatMap.mp member
  have known := toNat_eq_of_mem_utf8EncodeChar ascii inOctets
  obtain rfl : other = c := Char.toNat_inj.mp (known.trans same.symm)
  exact inLine

theorem getLast?_of_encode {octet : UInt8} {c : Char} (ascii : octet.toNat < 128)
    (same : c.toNat = octet.toNat) {line : String} (last : (encode line).getLast? = some octet) :
    line.toList.getLast? = some c := by
  rw [encode, utf8] at last
  obtain empty | ⟨front, other, split⟩ := List.eq_nil_or_concat' line.toList
  · rw [empty] at last
    cases last
  · rw [split, List.flatMap_append, List.flatMap_singleton, List.getLast?_append_of_ne_nil _
      String.utf8EncodeChar_ne_nil] at last
    have known := toNat_eq_of_mem_utf8EncodeChar ascii (List.mem_of_getLast? last)
    obtain rfl : other = c := Char.toNat_inj.mp (known.trans same.symm)
    rw [split, List.getLast?_concat]

def writtenLines (lines : List String) : Bytes := encode (String.join (lines.map (· ++ "\n")))

theorem writtenLines_eq (lines : List String) :
    writtenLines lines = (lines.map encode).flatMap (· ++ [10]) := by
  rw [writtenLines, encode, String.toList_join, utf8, List.flatMap_map, List.flatMap_map,
    List.flatMap_assoc]
  refine List.flatMap_congr fun line _ => ?_
  rw [String.toList_append, List.flatMap_append]
  rfl

theorem events_writtenLines {lines : List String}
    (plain : ∀ line ∈ lines, '\n' ∉ line.toList ∧ line.toList.getLast? ≠ some '\r') :
    PipedInput.events ⟨writtenLines lines⟩ = (lines.map encode).map pipedEvent := by
  have unbroken : ∀ piece ∈ lines.map encode, 10 ∉ piece := by
    intro piece member newline
    obtain ⟨line, inLines, rfl⟩ := List.mem_map.mp member
    exact (plain line inLines).1 (mem_of_mem_encode (by decide) rfl newline)
  have kept : (lines.map encode).map dropReturn = lines.map encode := by
    rw [List.map_map]
    refine List.map_congr_left fun line inLines => if_neg fun returned => ?_
    exact (plain line inLines).2 (getLast?_of_encode (by decide) rfl returned)
  have written := PipedInput.events_pieces unbroken List.not_mem_nil
  rwa [List.append_nil, if_pos rfl, List.append_nil, kept, ← writtenLines_eq] at written

/-- Reading an input that is no terminal is reading it line by line. That gets its lines and then
nothing: the pieces that a newline ends, in order, without it and without one carriage return before
it, then what is left if it is not empty, as it is, and after that the end of input however often it
is asked for. Every line is made text for itself. What is text stays; of anything else the
characters are kept and each maximal subpart of the rest is replaced. So lines that are written,
none with a newline in it or with a carriage return at its end, are read back. -/
theorem Source.piped_lines :
    (∀ bytes world prompts,
      (piped bytes).answers world prompts = PipedInput.answers ⟨bytes⟩ prompts.length) ∧
    (∀ bytes : Bytes, ∃ ended rest lines,
      bytes = ended.flatMap (· ++ [10]) ++ rest ∧ (∀ piece ∈ ended, 10 ∉ piece) ∧ 10 ∉ rest ∧
      List.Forall₂ ReturnDropped ended lines ∧
      ∀ world prompts, (piped bytes).answers world prompts =
        (List.range prompts.length).map fun read =>
          .ok (givenAt ((lines ++ if rest = [] then [] else [rest]).map repair) read)) ∧
    (∀ line text, repair line = String.ofList text ↔ Substituted line text) ∧
    (∀ text, repair (encode text) = text) ∧
    ∀ lines : List String,
      (∀ line ∈ lines, '\n' ∉ line.toList ∧ line.toList.getLast? ≠ some '\r') →
        ∀ world prompts, (piped (writtenLines lines)).answers world prompts =
          (List.range prompts.length).map fun read => .ok (givenAt lines read) := by
  refine ⟨fun bytes => answers_of_reader rfl, fun bytes => ?_, fun line text => ?_,
    repair_encode, ?_⟩
  · obtain ⟨ended, rest, rfl, unbroken, last⟩ := exists_pieces bytes
    refine ⟨ended, rest, ended.map dropReturn, rfl, unbroken, last, ?_, fun world prompts => ?_⟩
    · rw [List.forall₂_map_right_iff, List.forall₂_same]
      exact fun piece _ => returnDropped_dropReturn piece
    · rw [answers_piped (PipedInput.events_pieces unbroken last)]
  · rw [← repairUtf8_eq_iff, repair, String.ofList_inj]
  · intro lines plain world prompts
    have repaired : (lines.map encode).map repair = lines := by
      rw [List.map_map]
      exact (List.map_congr_left fun line _ => repair_encode line).trans (List.map_id lines)
    rw [answers_piped (events_writtenLines plain), repaired]

end PipeShell
