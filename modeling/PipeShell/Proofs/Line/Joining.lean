import PipeShell.Proofs.Line.Faults
import PipeShell.Proofs.Line.Fields
import PipeShell.Proofs.Line.Grammar
import PipeShell.Proofs.Line.Lossless

/-!
# Two lines with a pipe between them

A line that parses ends where a `|` can follow it, and what comes after the `|` is read as if it
stood alone. Main statement: two lines joined by a pipe give the commands of both, unless one of
them has none, and then the joined line is refused. Only a backslash at the end of the first line
changes this, for it takes the `|` with it.
-/

namespace PipeShell

/-! ## The quoting at the end of a line -/

/-- The line ends in a backslash that stands outside quotes and escapes nothing. -/
def EndsInBackslash (line : String) : Prop :=
  ∃ front, line.toList = front ++ ['\\'] ∧ (Reading.after {} front).quoting = .plain

theorem next_eq_escaped_iff (state : WordState) (c : Char) :
    state.next c = .escaped ↔ state = .plain ∧ c = '\\' := by
  cases state with
  | plain =>
      simp only [WordState.next]
      repeat' split
      all_goals simp_all
  | escaped => simp [WordState.next]
  | single =>
      simp only [WordState.next]
      split <;> simp
  | double =>
      simp only [WordState.next, doubleNext]
      repeat' split
      all_goals simp
  | doubleEscaped => simp [next_doubleEscaped]

theorem Reading.after_concat (reading : Reading) (text : List Char) (c : Char) :
    reading.after (text ++ [c]) = (reading.after text).next c := by
  simp [Reading.after]

theorem endsInBackslash_iff (line : String) :
    EndsInBackslash line ↔ (Reading.after {} line.toList).quoting = .escaped := by
  unfold EndsInBackslash
  rcases List.eq_nil_or_concat' line.toList with nothing | ⟨front, c, split⟩
  · simp [nothing, Reading.after]
  · rw [split, Reading.after_concat, Reading.next, next_eq_escaped_iff]
    constructor
    · rintro ⟨other, same, outside⟩
      obtain ⟨rfl, last⟩ := List.append_inj' same rfl
      exact ⟨outside, List.singleton_injective last⟩
    · rintro ⟨outside, rfl⟩
      exact ⟨front, rfl, outside⟩

instance (line : String) : Decidable (EndsInBackslash line) :=
  decidable_of_iff _ (endsInBackslash_iff line).symm

/-- Whatever a character completes, the quoting goes on as it is read. -/
theorem lexStep_quoting {state next : LexState} {c : Char} {complete : List Token}
    (taken : lexStep state c = .ok (complete, next)) : next.quoting = state.quoting.next c := by
  by_cases half : state = .afterAmpersand
  · subst half
    obtain ⟨rfl, _, rfl⟩ := ampersandStep_ok taken
    rfl
  · by_cases fine : state.quoting = .plain → c ∉ offendingChars
    · obtain ⟨_, _, step, quoting, _⟩ := lexStep_fine half fine
      rw [step] at taken
      cases taken
      exact quoting
    · -- Of the characters that can offend, only an `&` is taken.
      obtain ⟨outside, offending⟩ := Classical.not_imp.mp fine
      rw [Decidable.not_not] at offending
      obtain ⟨_, step⟩ := lexStep_offending outside half offending
      obtain ⟨_, started⟩ := startStep_of_map (step.symm.trans taken)
      rw [outside]
      simp only [offendingChars, List.mem_cons, List.not_mem_nil, or_false] at offending
      rcases offending with rfl | rfl | rfl | rfl <;> cases started
      rfl

theorem LexRun.quoting {state last : LexState} {text : List Char} {tokens : List Token}
    (run : LexRun state text tokens last) {reading : Reading}
    (same : state.quoting = reading.quoting) : last.quoting = (reading.after text).quoting := by
  induction run generalizing reading with
  | done => exact same
  | step taken _ ih => exact ih (by rw [lexStep_quoting taken, same]; rfl)

/-! ## What a pipe does there -/

/-- Where the end of the line completes what is open, a `|` does, too: except after a `|`, with
which it is another operator, and after a backslash. -/
theorem lexStep_pipe {last : LexState} {late : List Token} (ended : lexEnd last = .ok late)
    (unescaped : last.quoting ≠ .escaped) (first : last ≠ .afterPipe) :
    lexStep last '|' = .ok (late, .afterPipe) := by
  -- An open quote and half an `&&` are errors at the end, so those cases are not met.
  cases last with
  | afterPipe => exact absurd rfl first
  | inWord state word =>
      cases state with
      | escaped => exact absurd rfl unescaped
      | _ => cases ended <;> rfl
  | _ => cases ended <;> rfl

theorem lexFrom_piped {front : List Char} {early late : List Token} {last : LexState}
    (run : LexRun .between front early last) (ended : lexEnd last = .ok late)
    (unescaped : last.quoting ≠ .escaped) (first : last ≠ .afterPipe) (back : List Char) :
    lexFrom .between (front ++ '|' :: ' ' :: back) =
      (lexFrom .between back).map (early ++ late ++ .pipe :: ·) := by
  have blank : lexStep .afterPipe ' ' = .ok ([.pipe], .between) := rfl
  rw [run.lexFrom_append, lexFrom_cons (lexStep_pipe ended unescaped first), lexFrom_cons blank]
  cases lexFrom .between back <;> simp [Except.map]

def Word.escapePipe (word : Word) : Word := (word.read '|').push .single '|'

theorem lexFrom_escaped {front : List Char} {early : List Token} {word : Word}
    (run : LexRun .between front early (.inWord .escaped word)) (back : List Char) :
    lexFrom .between (front ++ '|' :: ' ' :: back) =
      (lexFrom .between back).map (early ++ .word word.escapePipe :: ·) := by
  have escaped : lexStep (.inWord .escaped word) '|' = .ok ([], .inWord .plain word.escapePipe) :=
    rfl
  have blank : lexStep (.inWord .plain word.escapePipe) ' ' =
      .ok ([.word word.escapePipe], .between) := rfl
  rw [run.lexFrom_append, lexFrom_cons escaped, lexFrom_cons blank]
  cases lexFrom .between back <;> simp [Except.map]

/-! ## Written stages -/

theorem lineTokens_cons_of_ne_nil (stage : List Item) {rest : LineSyntax} (more : rest ≠ []) :
    lineTokens (stage :: rest) = stageTokens stage ++ .pipe :: lineTokens rest := by
  obtain ⟨next, others, rfl⟩ := List.exists_cons_of_ne_nil more
  exact lineTokens_cons stage next others

theorem lineTokens_append {first second : LineSyntax} (filled : first ≠ []) (more : second ≠ []) :
    lineTokens (first ++ second) = lineTokens first ++ .pipe :: lineTokens second := by
  induction first with
  | nil => exact absurd rfl filled
  | cons stage rest ih =>
      cases rest with
      | nil => rw [lineTokens_singleton, List.singleton_append, lineTokens_cons_of_ne_nil _ more]
      | cons next others =>
          rw [List.cons_append, lineTokens_cons_of_ne_nil stage (by simp), ih (by simp),
            lineTokens_cons, List.append_assoc, List.cons_append]

/-- Two lines with nothing between them: the last stage of the one, `items`, runs on into the first
stage of the other. -/
def runOn (earlier : LineSyntax) (items : List Item) (later : LineSyntax) : LineSyntax :=
  earlier ++ (items ++ later.headD []) :: later.tail

theorem lineTokens_runOn (earlier : LineSyntax) (items : List Item) (later : LineSyntax) :
    lineTokens (runOn earlier items later) =
      lineTokens (earlier ++ [items]) ++ lineTokens later := by
  have joined : lineTokens ((items ++ later.headD []) :: later.tail) =
      lineTokens [items] ++ lineTokens later := by
    match later with
    | [] => simp [lineTokens]
    | [only] => simp [lineTokens, stageTokens]
    | first :: second :: rest => simp [lineTokens_cons, lineTokens_singleton, stageTokens]
  rw [runOn]
  cases earlier with
  | nil => exact joined
  | cons stage rest =>
      rw [lineTokens_append (by simp) (by simp), joined, lineTokens_append (by simp) (by simp),
        List.append_assoc, List.cons_append]

def Item.withWord : Item → Word → Item
  | .word _, other => .word other
  | .redirection operator _, other => .redirection operator other

theorem Item.tokens_withWord (item : Item) :
    ∃ lead own, item.tokens = lead ++ [.word own] ∧
      ∀ word, (item.withWord word).tokens = lead ++ [.word word] := by
  cases item with
  | word own => exact ⟨[], own, rfl, fun _ => rfl⟩
  | redirection operator target => exact ⟨[.redirect operator], target, rfl, fun _ => rfl⟩

theorem lineTokens_concat (earlier : LineSyntax) (items : List Item) (item : Item) :
    lineTokens (earlier ++ [items ++ [item]]) = lineTokens (earlier ++ [items]) ++ item.tokens := by
  have joined := lineTokens_runOn earlier items [[item]]
  rwa [lineTokens_singleton, stageTokens_cons, stageTokens, List.flatMap_nil, List.append_nil]
    at joined

theorem exists_last_item {stages : LineSyntax} (valid : WellFormed stages) (filled : stages ≠ []) :
    ∃ earlier items item, stages = earlier ++ [items ++ [item]] := by
  obtain rfl | ⟨earlier, stage, rfl⟩ := List.eq_nil_or_concat' stages
  · exact absurd rfl filled
  · obtain rfl | ⟨items, item, rfl⟩ := List.eq_nil_or_concat' stage
    · exact absurd rfl (valid [] (by simp))
    · exact ⟨earlier, items, item, rfl⟩

/-- A line of the grammar ends in a word, and another word can stand in its place. -/
theorem lineTokens_last {stages : LineSyntax} {front : List Token} {token : Token}
    (valid : WellFormed stages) (written : lineTokens stages = front ++ [token]) :
    ∃ earlier items item, stages = earlier ++ [items ++ [item]] ∧ (∃ own, token = .word own) ∧
      ∀ word, lineTokens (earlier ++ [items ++ [item.withWord word]]) = front ++ [.word word] := by
  have filled : stages ≠ [] := by
    rintro rfl
    simp [lineTokens] at written
  obtain ⟨earlier, items, item, rfl⟩ := exists_last_item valid filled
  obtain ⟨lead, own, tokens, replaced⟩ := item.tokens_withWord
  rw [lineTokens_concat, tokens, ← List.append_assoc] at written
  obtain ⟨rfl, last⟩ := List.append_inj' written rfl
  refine ⟨earlier, items, item, rfl, ⟨own, (List.singleton_injective last).symm⟩, fun word => ?_⟩
  rw [lineTokens_concat, replaced, List.append_assoc]

theorem not_wellFormed_of_pipe_last {stages : LineSyntax} {front : List Token}
    (written : lineTokens stages = front ++ [.pipe]) : ¬ WellFormed stages := by
  intro valid
  obtain ⟨_, _, _, _, ⟨own, same⟩, _⟩ := lineTokens_last valid written
  cases same

theorem not_wellFormed_of_pipe_first {stages : LineSyntax} {back : List Token}
    (written : lineTokens stages = .pipe :: back) : ¬ WellFormed stages := by
  intro valid
  have read := readLine_lineTokens stages [] valid
  simp [written, readLine, readStages] at read

/-! ## Stages with a command -/

theorem NoOp.length_eq {session : Session} {line : LineSyntax} (idle : NoOp session line) :
    line.length = 1 := by
  obtain ⟨items, rfl, _⟩ := idle
  rfl

theorem commandless_append (session : Session) (front back : List Item) :
    Commandless session (front ++ back) ↔ Commandless session front ∧ Commandless session back := by
  simp [Commandless, plainWords, or_imp, forall_and]

theorem wellFormed_of_spoken {session : Session} {line : LineSyntax}
    (spoken : ∀ items ∈ line, ¬ Commandless session items) : WellFormed line := by
  intro items member
  rintro rfl
  exact spoken [] member (by simp [Commandless, plainWords])

theorem expandFields_ne_nil (session : Session) {word : Word} (quoted : word.isQuoted = true) :
    expandFields session word ≠ [] := by
  have cut : expandFields session word = splitAtoms (wordAtoms session word.parts) := by
    rw [expandFields, ← Fields.foldl_addAtom_word]
    exact Fields.finish_foldl_addAtom _ [] (List.forall_mem_nil _)
  rw [cut]
  exact splitAtoms_ne_nil ((mark_mem_wordAtoms_iff session word).mpr quoted)

theorem exists_mem_pushChar (quote : Quote) (c : Char) (parts : List Part) :
    ∃ part ∈ pushChar quote c parts, part.quote = quote := by
  induction parts using pushChar.induct quote with
  | case1 => exact ⟨_, List.mem_singleton_self _, rfl⟩
  | case2 last same | case3 last same => simp [pushChar, same]
  | case4 first second rest ih =>
      obtain ⟨part, member, same⟩ := ih
      exact ⟨part, List.mem_cons_of_mem first member, same⟩

theorem isQuoted_escapePipe (word : Word) : word.escapePipe.isQuoted = true := by
  obtain ⟨part, member, same⟩ := exists_mem_pushChar .single '|' word.parts
  exact List.any_eq_true.mpr ⟨part, member, by simp [same]⟩

/-- A stage that had a command keeps it when its last word takes in a `|`, and where that word is
no target, it gives the stage a command itself. -/
theorem not_commandless_withWord {session : Session} {items : List Item} {item : Item}
    (spoken : (∃ own, item = .word own) ∨ ¬ Commandless session (items ++ [item])) (word : Word) :
    ¬ Commandless session (items ++ [item.withWord word.escapePipe]) := by
  rw [commandless_append]
  rintro ⟨before, last⟩
  cases item with
  | word own =>
      exact expandFields_ne_nil session (isQuoted_escapePipe word)
        (last word.escapePipe (by simp [Item.withWord]))
  | redirection operator target =>
      obtain ⟨own, same⟩ | spoken := spoken
      · cases same
      · have silent : Commandless session [.redirection operator target] := by
          simp [Commandless, plainWords, Item.word?]
        exact spoken ((commandless_append ..).mpr ⟨before, silent⟩)

/-! ## Lines that parse -/

theorem upToEnd_of_lexFrom {text : List Char} {tokens : List Token}
    (split : lexFrom .between text = .ok tokens) : upToEnd (tokens ++ [.lineEnd]) = tokens := by
  -- The tokens lie in the text, and the end of the line is no token of it.
  have begun : LexState.between.Begun := trivial
  have lies : Lies text tokens := liesAfter_lexFrom begun split
  have inside : Token.lineEnd ∉ tokens := by
    intro member
    obtain ⟨_, ends⟩ := lies.ends .lineEnd member
    exact ends
  rw [upToEnd_append inside]
  simp [upToEnd]

theorem tokenize_of_lexFrom {line : String} {tokens : List Token}
    (split : lexFrom .between line.toList = .ok tokens) :
    tokenize line = .ok (tokens ++ [.lineEnd]) := by
  rw [tokenize, tokenizeChars, split]
  rfl

theorem parseLine_of_written (session : Session) {line : String} {tokens : List Token}
    {stages : LineSyntax} (split : lexFrom .between line.toList = .ok tokens)
    (valid : WellFormed stages) (written : tokens = lineTokens stages) :
    parseLine session line = ofStages (stages.map (.ofItems session)) := by
  rw [parseLine_of_tokenize (tokenize_of_lexFrom split)]
  refine parse_of_read session (readLine_of_written valid ?_)
  rw [upToEnd_of_lexFrom split, written]

theorem parseLine_of_unwritten (session : Session) {line : String} {tokens : List Token}
    (split : lexFrom .between line.toList = .ok tokens)
    (unwritten : ∀ stages, tokens = lineTokens stages → ¬ WellFormed stages) :
    ∃ token, parseLine session line = .error (unexpected token) := by
  rw [parseLine_of_tokenize (tokenize_of_lexFrom split)]
  cases read : readLine (tokens ++ [.lineEnd]) with
  | error token => exact ⟨token, parse_of_refused session read⟩
  | ok stages =>
      obtain ⟨valid, written⟩ := lineTokens_of_readLine read
      rw [upToEnd_of_lexFrom split] at written
      exact absurd valid (unwritten stages written)

/-- How a line that parses is taken: the machine runs over it, the end completes what is open, and
the tokens are the stages as they are written. -/
structure Parsed (session : Session) (line : String) (pipeline : Pipeline) where
  early : List Token
  last : LexState
  late : List Token
  stages : LineSyntax
  run : LexRun .between line.toList early last
  ended : lexEnd last = .ok late
  valid : WellFormed stages
  written : early ++ late = lineTokens stages
  made : ofStages (stages.map (.ofItems session)) = .ok pipeline

theorem parsed_of_parseLine {session : Session} {line : String} {pipeline : Pipeline}
    (made : parseLine session line = .ok pipeline) :
    Nonempty (Parsed session line pipeline) := by
  cases split : tokenize line with
  | error error => simp [parseLine_of_refused split] at made
  | ok result =>
      obtain ⟨tokens, read, rfl⟩ := exists_of_map_ok split
      rw [parseLine_of_tokenize split] at made
      cases accepted : readLine (tokens ++ [.lineEnd]) with
      | error token => simp [parse_of_refused session accepted] at made
      | ok stages =>
          rw [parse_of_read session accepted] at made
          obtain ⟨valid, written⟩ := lineTokens_of_readLine accepted
          rw [upToEnd_of_lexFrom read] at written
          obtain ⟨early, last, late, run, ended, rfl⟩ := LexRun.exists_of_lexFrom read
          exact ⟨early, last, late, stages, run, ended, valid, written, made⟩

namespace Parsed

variable {session : Session} {line : String} {pipeline : Pipeline}

theorem split (parsed : Parsed session line pipeline) :
    lexFrom .between line.toList = .ok (lineTokens parsed.stages) := by
  rw [parsed.run.lexFrom_eq, parsed.ended, ← parsed.written]
  rfl

/-- The stages of a line that parses all have a command, or else it is a no-op. -/
theorem spoken (parsed : Parsed session line pipeline) (busy : ¬ NoOp session parsed.stages) :
    ∀ items ∈ parsed.stages, ¬ Commandless session items := by
  intro items member silent
  have made := parsed.made
  rw [ofStages_missing busy member silent] at made
  cases made

theorem commands_eq (parsed : Parsed session line pipeline)
    (busy : ¬ NoOp session parsed.stages) :
    pipeline.commands = parsed.stages.map fun items => (Stage.ofItems session items).command := by
  have made := parsed.made
  rw [ofStages_commands (parsed.spoken busy)] at made
  exact congrArg Pipeline.commands (Except.ok.inj made).symm

theorem commands_eq_nil_iff (parsed : Parsed session line pipeline) :
    pipeline.commands = [] ↔ parsed.stages = [] ∨ NoOp session parsed.stages := by
  by_cases idle : NoOp session parsed.stages
  · have made := parsed.made
    rw [ofStages_noOp idle] at made
    cases made
    simp [idle]
  · simp [parsed.commands_eq idle, idle]

theorem endsInBackslash_iff (parsed : Parsed session line pipeline) :
    EndsInBackslash line ↔ parsed.last.quoting = .escaped := by
  have same : LexState.between.quoting = Reading.quoting {} := rfl
  rw [PipeShell.endsInBackslash_iff, parsed.run.quoting same]

theorem last_ne_afterPipe (parsed : Parsed session line pipeline) : parsed.last ≠ .afterPipe := by
  -- The end would complete the `|`, and then the line would lack a stage.
  intro piped
  have ended := parsed.ended
  rw [piped] at ended
  have written := parsed.written
  rw [← Except.ok.inj ended] at written
  exact not_wellFormed_of_pipe_last written.symm parsed.valid

theorem spoken_of_several (parsed : Parsed session line pipeline)
    (several : parsed.stages.length ≠ 1) : ∀ items ∈ parsed.stages, ¬ Commandless session items :=
  parsed.spoken fun idle => several idle.length_eq

/-- Only a stage that is a no-op can lack a command, and no redirection is written in one. -/
theorem word_or_spoken (parsed : Parsed session line pipeline) {earlier : LineSyntax}
    {items : List Item} {item : Item} (same : parsed.stages = earlier ++ [items ++ [item]]) :
    (∃ own, item = .word own) ∨ ¬ Commandless session (items ++ [item]) := by
  by_cases idle : NoOp session parsed.stages
  · obtain ⟨only, alone, _, _, unredirected⟩ := idle
    have ends : earlier ++ [items ++ [item]] = [] ++ [only] := same.symm.trans alone
    obtain rfl := List.singleton_injective (List.append_inj' ends rfl).2
    cases item with
    | word own => exact .inl ⟨own, rfl⟩
    | redirection operator target =>
        simp [writtenRedirections, Item.redirection?] at unredirected
  · exact .inr (parsed.spoken idle _ (by simp [same]))

theorem exists_of_endsInBackslash (parsed : Parsed session line pipeline)
    (escaped : EndsInBackslash line) :
    ∃ word own, parsed.last = .inWord .escaped word ∧
      lineTokens parsed.stages = parsed.early ++ [.word own] := by
  rw [parsed.endsInBackslash_iff] at escaped
  obtain ⟨word, last⟩ : ∃ word, parsed.last = .inWord .escaped word := by
    cases last : parsed.last with
    | inWord state word =>
        rw [last] at escaped
        cases escaped
        exact ⟨word, rfl⟩
    | _ => simp [last, LexState.quoting] at escaped
  have ended := parsed.ended
  rw [last] at ended
  exact ⟨word, _, last, by rw [← parsed.written, ← Except.ok.inj ended]⟩

theorem spoken_runOn {other : String} {later : Pipeline} (parsed : Parsed session line pipeline)
    (next : Parsed session other later) {earlier : LineSyntax} {items : List Item} {item : Item}
    (same : parsed.stages = earlier ++ [items ++ [item]]) (word : Word) :
    ∀ stage ∈ runOn earlier (items ++ [item.withWord word.escapePipe]) next.stages,
      ¬ Commandless session stage := by
  intro stage member
  rcases List.mem_append.mp member with inEarlier | others
  · have several : parsed.stages.length ≠ 1 := by
      have count := List.length_pos_of_mem inEarlier
      simp only [same, List.length_append, List.length_singleton]
      omega
    exact parsed.spoken_of_several several stage (by simp [same, inEarlier])
  · rcases List.mem_cons.mp others with rfl | inTail
    · rw [commandless_append]
      intro silent
      exact not_commandless_withWord (parsed.word_or_spoken same) word silent.1
    · have several : next.stages.length ≠ 1 := by
        have count := List.length_pos_of_mem inTail
        rw [List.length_tail] at count
        omega
      exact next.spoken_of_several several stage (List.mem_of_mem_tail inTail)

end Parsed

/-! ## The joined line -/

section Joined

variable {session : Session} {a b : String} {first second : Pipeline}

theorem toList_joined (a b : String) :
    (a ++ "| " ++ b).toList = a.toList ++ '|' :: ' ' :: b.toList := by
  simp [String.toList_append]

theorem lexFrom_joined (left : Parsed session a first) (right : Parsed session b second)
    (whole : ¬ EndsInBackslash a) :
    lexFrom .between (a ++ "| " ++ b).toList =
      .ok (lineTokens left.stages ++ .pipe :: lineTokens right.stages) := by
  rw [left.endsInBackslash_iff] at whole
  rw [toList_joined, lexFrom_piped left.run left.ended whole left.last_ne_afterPipe, right.split,
    left.written]
  rfl

theorem parseLine_joined_stages (left : Parsed session a first) (right : Parsed session b second)
    (whole : ¬ EndsInBackslash a) (filled : left.stages ≠ []) (more : right.stages ≠ []) :
    parseLine session (a ++ "| " ++ b) =
      ofStages ((left.stages ++ right.stages).map (.ofItems session)) := by
  refine parseLine_of_written session (lexFrom_joined left right whole) ?_
    (lineTokens_append filled more).symm
  exact List.forall_mem_append.mpr ⟨left.valid, right.valid⟩

theorem parseLine_joined_nothing (left : Parsed session a first) (right : Parsed session b second)
    (whole : ¬ EndsInBackslash a) (nothing : left.stages = [] ∨ right.stages = []) :
    ∃ token, parseLine session (a ++ "| " ++ b) = .error (unexpected token) := by
  refine parseLine_of_unwritten session (lexFrom_joined left right whole) fun stages written => ?_
  rcases nothing with nothing | nothing
  · rw [nothing] at written
    exact not_wellFormed_of_pipe_first written.symm
  · rw [nothing] at written
    exact not_wellFormed_of_pipe_last written.symm

theorem ofStages_joined_noOp {left right : LineSyntax} (filled : left ≠ []) (more : right ≠ [])
    (idle : NoOp session left ∨ NoOp session right) :
    ofStages ((left ++ right).map (.ofItems session)) = .error .missingCommand := by
  have several : ¬ NoOp session (left ++ right) := by
    intro both
    have count := both.length_eq
    have leftPos := List.length_pos_iff.mpr filled
    have rightPos := List.length_pos_iff.mpr more
    rw [List.length_append] at count
    omega
  rcases idle with ⟨items, rfl, _, silent, _⟩ | ⟨items, rfl, _, silent, _⟩
  · exact ofStages_missing several (by simp) silent
  · exact ofStages_missing several (by simp) silent

theorem parseLine_joined_commands (left : Parsed session a first) (right : Parsed session b second)
    (whole : ¬ EndsInBackslash a) (filled : first.commands ≠ []) (more : second.commands ≠ []) :
    parseLine session (a ++ "| " ++ b) = .ok ⟨first.commands ++ second.commands⟩ := by
  obtain ⟨leftStages, leftBusy⟩ := not_or.mp (mt left.commands_eq_nil_iff.mpr filled)
  obtain ⟨rightStages, rightBusy⟩ := not_or.mp (mt right.commands_eq_nil_iff.mpr more)
  have spoken : ∀ items ∈ left.stages ++ right.stages, ¬ Commandless session items :=
    List.forall_mem_append.mpr ⟨left.spoken leftBusy, right.spoken rightBusy⟩
  rw [parseLine_joined_stages left right whole leftStages rightStages, ofStages_commands spoken,
    left.commands_eq leftBusy, right.commands_eq rightBusy, List.map_append]

theorem parseLine_joined_empty (left : Parsed session a first) (right : Parsed session b second)
    (whole : ¬ EndsInBackslash a) (empty : first.commands = [] ∨ second.commands = []) :
    ∃ error, parseLine session (a ++ "| " ++ b) = .error error ∧ error.isSyntax = true := by
  -- A line without a stage leaves the `|` alone, and a no-op beside it lacks a command.
  by_cases nothing : left.stages = [] ∨ right.stages = []
  · obtain ⟨token, refused⟩ := parseLine_joined_nothing left right whole nothing
    exact ⟨unexpected token, refused, rfl⟩
  · obtain ⟨filled, more⟩ := not_or.mp nothing
    have idle : NoOp session left.stages ∨ NoOp session right.stages :=
      empty.imp (fun none => (left.commands_eq_nil_iff.mp none).resolve_left filled)
        fun none => (right.commands_eq_nil_iff.mp none).resolve_left more
    exact ⟨.missingCommand, by
      rw [parseLine_joined_stages left right whole filled more,
        ofStages_joined_noOp filled more idle], rfl⟩

/-- A `|` that is escaped is a character of a word, and the two lines are read as one. -/
theorem parseLine_joined_escaped (left : Parsed session a first) (right : Parsed session b second)
    (escaped : EndsInBackslash a) :
    ∃ pipeline, parseLine session (a ++ "| " ++ b) = .ok pipeline := by
  obtain ⟨word, own, last, written⟩ := left.exists_of_endsInBackslash escaped
  obtain ⟨earlier, items, item, same, _, replaced⟩ := lineTokens_last left.valid written
  have run := left.run
  rw [last] at run
  have split : lexFrom .between (a ++ "| " ++ b).toList =
      .ok (left.early ++ .word word.escapePipe :: lineTokens right.stages) := by
    rw [toList_joined, lexFrom_escaped run, right.split]
    rfl
  have joined : left.early ++ .word word.escapePipe :: lineTokens right.stages =
      lineTokens (runOn earlier (items ++ [item.withWord word.escapePipe]) right.stages) := by
    rw [lineTokens_runOn, replaced, List.append_assoc, List.singleton_append]
  have spoken := left.spoken_runOn right same word
  have valid := wellFormed_of_spoken spoken
  rw [parseLine_of_written session split valid joined, ofStages_commands spoken]
  exact ⟨_, rfl⟩

/-- If two lines parse, then with `|` and a space between them they give the commands of both in
order. If one of the lines has no command, the joined line is refused for its syntax, exactly if
no backslash at the end of the first line takes the `|` with it. If one does, the joined line
parses. -/
theorem parseLine_joined (left : parseLine session a = .ok first)
    (right : parseLine session b = .ok second) :
    (¬ EndsInBackslash a → first.commands ≠ [] → second.commands ≠ [] →
      parseLine session (a ++ "| " ++ b) = .ok ⟨first.commands ++ second.commands⟩) ∧
    (first.commands = [] ∨ second.commands = [] →
      ((∃ error, parseLine session (a ++ "| " ++ b) = .error error ∧ error.isSyntax = true) ↔
        ¬ EndsInBackslash a)) ∧
    (EndsInBackslash a → ∃ pipeline, parseLine session (a ++ "| " ++ b) = .ok pipeline) := by
  obtain ⟨leftParsed⟩ := parsed_of_parseLine left
  obtain ⟨rightParsed⟩ := parsed_of_parseLine right
  have never := parseLine_joined_escaped leftParsed rightParsed
  refine ⟨parseLine_joined_commands leftParsed rightParsed, fun empty => ⟨?_, fun whole =>
    parseLine_joined_empty leftParsed rightParsed whole empty⟩, never⟩
  rintro ⟨error, refused, _⟩ escaped
  obtain ⟨pipeline, made⟩ := never escaped
  rw [made] at refused
  cases refused

end Joined

def cutLine : String := "grep \"a|b\" <in | echo \\\\"

def cutPipeline : Pipeline :=
  ⟨[{ arguments := ["grep", "a|b"], redirections := [{ operator := .input, target := "in" }] },
    { arguments := ["echo", "\\"] }]⟩

def crampedLine : String := " sort>out|wc $N"

def crampedPipeline : Pipeline :=
  ⟨[{ arguments := ["sort"], redirections := [{ operator := .output, target := "out" }] },
    { arguments := ["wc"] }]⟩

theorem parseLine_joined_cutLine :
    parseLine {} cutLine = .ok cutPipeline ∧ parseLine {} crampedLine = .ok crampedPipeline ∧
      parseLine {} "$N" = .ok {} ∧ ¬ EndsInBackslash cutLine ∧
      parseLine {} (cutLine ++ "| " ++ crampedLine) =
        .ok ⟨cutPipeline.commands ++ crampedPipeline.commands⟩ ∧
      (∃ error, parseLine {} (cutLine ++ "| " ++ "$N") = .error error ∧ error.isSyntax = true) ∧
      parseLine {} "echo \\" = .ok ⟨[{ arguments := ["echo", "\\"] }]⟩ ∧
      EndsInBackslash "echo \\" ∧
      ∃ pipeline, parseLine {} ("echo \\" ++ "| " ++ "$N") = .ok pipeline := by
  have left : parseLine {} cutLine = .ok cutPipeline := by rfl
  have right : parseLine {} crampedLine = .ok crampedPipeline := by rfl
  have idle : parseLine {} "$N" = .ok {} := by rfl
  have whole : ¬ EndsInBackslash cutLine := by decide
  have unfinished : parseLine {} "echo \\" = .ok ⟨[{ arguments := ["echo", "\\"] }]⟩ := by rfl
  have escaped : EndsInBackslash "echo \\" := by decide
  refine ⟨left, right, idle, whole, ?_, ?_, unfinished, escaped, ?_⟩
  · exact (parseLine_joined left right).1 whole (by simp [cutPipeline]) (by simp [crampedPipeline])
  · exact ((parseLine_joined left idle).2.1 (.inr rfl)).mpr whole
  · exact (parseLine_joined unfinished idle).2.2 escaped

/-- Both lines parse and the second is empty, but the joined line parses, too: its `|` is escaped
and is an argument. -/
theorem parseLine_escaping_pipe :
    parseLine {} "echo \\" = .ok ⟨[{ arguments := ["echo", "\\"] }]⟩ ∧
      parseLine {} "" = .ok {} ∧
      parseLine {} ("echo \\" ++ "| " ++ "") = .ok ⟨[{ arguments := ["echo", "|"] }]⟩ ∧
      ¬ ∀ (session : Session) (a b : String) (first second : Pipeline),
        parseLine session a = .ok first → parseLine session b = .ok second →
          first.commands = [] ∨ second.commands = [] →
            ∃ error, parseLine session (a ++ "| " ++ b) = .error error ∧
              error.isSyntax = true := by
  have left : parseLine {} "echo \\" = .ok ⟨[{ arguments := ["echo", "\\"] }]⟩ := by rfl
  have right : parseLine {} "" = .ok {} := by rfl
  have joined : parseLine {} ("echo \\" ++ "| " ++ "") =
      .ok ⟨[{ arguments := ["echo", "|"] }]⟩ := by
    rfl
  refine ⟨left, right, joined, fun refuses => ?_⟩
  obtain ⟨error, refused, _⟩ := refuses {} _ _ _ _ left right (.inr rfl)
  rw [joined] at refused
  cases refused

end PipeShell
