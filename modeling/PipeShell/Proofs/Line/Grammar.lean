import PipeShell.Proofs.Line.Syntax

/-!
# The grammar of a line

A line is nothing, or stages with `|` between them; a stage is one or more words and redirections.
Main statement: the parser reports an unexpected token exactly for the lines outside the grammar,
names the first token that no sentence can have there, and finds a command missing exactly in the
other lines with a stage that expands to nothing.
-/

namespace PipeShell

/-- The tokens before the end of the line. What follows the end is never read. -/
def upToEnd (tokens : List Token) : List Token := tokens.takeWhile (· ≠ .lineEnd)

def Sentence (tokens : List Token) : Prop :=
  ∃ line, WellFormed line ∧ tokens = lineTokens line ++ [.lineEnd]

/-- Some sentence begins with these tokens. -/
def Viable (front : List Token) : Prop := ∃ back, Sentence (front ++ back)

/-- The first token with which the beginning of the list is not viable any more. -/
def Blames (tokens : List Token) (token : Token) : Prop :=
  ∃ front back, tokens = front ++ token :: back ∧ Viable front ∧ ¬ Viable (front ++ [token])

/-! ## Every line of the grammar is read -/

theorem stageTokens_cons (item : Item) (rest : List Item) :
    stageTokens (item :: rest) = item.tokens ++ stageTokens rest := by
  simp [stageTokens]

theorem stageTokens_concat (items : List Item) (item : Item) :
    stageTokens (items ++ [item]) = stageTokens items ++ item.tokens := by
  simp [stageTokens]

theorem lineTokens_cons (stage next : List Item) (rest : LineSyntax) :
    lineTokens (stage :: next :: rest) =
      stageTokens stage ++ .pipe :: lineTokens (next :: rest) := by
  simp [lineTokens]

theorem lineTokens_singleton (stage : List Item) : lineTokens [stage] = stageTokens stage := by
  simp [lineTokens]

/-- `&&` and `||` are tokens that no stage is written with. -/
theorem not_and_or_of_mem_stageTokens {items : List Item} {token : Token}
    (member : token ∈ stageTokens items) : ¬ (token = .and ∨ token = .or) := by
  obtain ⟨item, _, inItem⟩ := List.mem_flatMap.mp member
  cases item <;> rintro (rfl | rfl) <;> simp [Item.tokens] at inItem

theorem not_and_or_of_mem_lineTokens {line : LineSyntax} {token : Token}
    (member : token ∈ lineTokens line) : ¬ (token = .and ∨ token = .or) := by
  induction line with
  | nil => cases member
  | cons stage rest ih =>
      cases rest with
      | nil =>
          rw [lineTokens_singleton] at member
          exact not_and_or_of_mem_stageTokens member
      | cons next others =>
          rw [lineTokens_cons] at member
          rcases List.mem_append.mp member with first | later
          · exact not_and_or_of_mem_stageTokens first
          · rcases List.mem_cons.mp later with rfl | more
            · simp
            · exact ih more

theorem readStages_stageTokens (items more : List Item) (tokens : List Token) :
    readStages items (stageTokens more ++ tokens) = readStages (items ++ more) tokens := by
  induction more generalizing items with
  | nil => simp [stageTokens]
  | cons item rest ih =>
      have later := ih (items ++ [item])
      rw [List.append_assoc, List.singleton_append] at later
      rw [← later]
      cases item <;> simp [stageTokens_cons, Item.tokens, readStages]

theorem readStages_lineTokens (stage : List Item) (rest : LineSyntax) (after : List Token)
    (valid : WellFormed (stage :: rest)) :
    readStages [] (lineTokens (stage :: rest) ++ .lineEnd :: after) = .ok (stage :: rest) := by
  induction rest generalizing stage with
  | nil =>
      have filled : stage ≠ [] := valid stage (by simp)
      rw [lineTokens_singleton, readStages_stageTokens]
      simp [readStages, filled]
  | cons next rest ih =>
      have filled : stage ≠ [] := valid stage (by simp)
      have later := ih next fun other member => valid other (List.mem_cons_of_mem stage member)
      rw [lineTokens_cons, List.append_assoc, readStages_stageTokens]
      simp [readStages, filled, later, Except.map]

theorem readLine_of_readStages {tokens : List Token} {line : LineSyntax}
    (accepted : readStages [] tokens = .ok line) : readLine tokens = .ok line := by
  cases tokens using readLine.fun_cases with
  | case1 => simp [readStages] at accepted
  | case2 => simp [readStages] at accepted
  | case3 tokens nonempty unended => rw [readLine.eq_3 _ nonempty unended, accepted]

theorem readLine_lineTokens (line : LineSyntax) (after : List Token) (valid : WellFormed line) :
    readLine (lineTokens line ++ .lineEnd :: after) = .ok line := by
  cases line with
  | nil => rfl
  | cons stage rest => exact readLine_of_readStages (readStages_lineTokens stage rest after valid)

/-! ## Only lines of the grammar are read -/

theorem upToEnd_cons {token : Token} (inside : token ≠ .lineEnd) (rest : List Token) :
    upToEnd (token :: rest) = token :: upToEnd rest := by
  simp [upToEnd, inside]

theorem upToEnd_append {front : List Token} (inside : .lineEnd ∉ front) (back : List Token) :
    upToEnd (front ++ back) = front ++ upToEnd back := by
  apply List.takeWhile_append_of_pos
  intro token member
  have different : token ≠ .lineEnd := fun same => inside (same ▸ member)
  simpa using different

theorem lineTokens_of_readStages {items : List Item} {tokens : List Token} {line : LineSyntax}
    (accepted : readStages items tokens = .ok line) :
    WellFormed line ∧ line ≠ [] ∧ stageTokens items ++ upToEnd tokens = lineTokens line := by
  induction items, tokens using readStages.induct generalizing line with
  | case2 items filled | case4 items _ filled =>
      simp only [readStages, if_neg filled, Except.ok.injEq] at accepted
      subst accepted
      simp [WellFormed, filled, lineTokens_singleton, upToEnd]
  | case6 items rest filled ih =>
      simp only [readStages, if_neg filled] at accepted
      cases later : readStages [] rest with
      | error token => simp [later, Except.map] at accepted
      | ok more =>
          simp only [later, Except.map, Except.ok.injEq] at accepted
          subst accepted
          obtain ⟨valid, nonempty, same⟩ := ih later
          obtain ⟨next, others, rfl⟩ := List.exists_cons_of_ne_nil nonempty
          refine ⟨?_, by simp, ?_⟩
          · intro stage member
            rcases List.mem_cons.mp member with rfl | other
            · exact filled
            · exact valid stage other
          · rw [lineTokens_cons, ← same, upToEnd_cons (by simp)]
            simp [stageTokens]
  | case9 items spelled rest ih =>
      obtain ⟨valid, nonempty, same⟩ := ih accepted
      refine ⟨valid, nonempty, ?_⟩
      rw [← same, stageTokens_concat, upToEnd_cons (by simp)]
      simp [Item.tokens]
  | case10 items operator target rest ih =>
      obtain ⟨valid, nonempty, same⟩ := ih accepted
      refine ⟨valid, nonempty, ?_⟩
      rw [← same, stageTokens_concat, upToEnd_cons (by simp), upToEnd_cons (by simp)]
      simp [Item.tokens]
  -- In every other case the tokens are refused.
  | case1 | case3 | case5 | case7 | case8 | case11 | case12 => simp_all [readStages]

theorem lineTokens_of_readLine {tokens : List Token} {line : LineSyntax}
    (accepted : readLine tokens = .ok line) :
    WellFormed line ∧ upToEnd tokens = lineTokens line := by
  cases tokens using readLine.fun_cases with
  | case1 | case2 =>
      simp only [readLine, Except.ok.injEq] at accepted
      subst accepted
      simp [WellFormed, upToEnd, lineTokens]
  | case3 tokens nonempty unended =>
      rw [readLine.eq_3 _ nonempty unended] at accepted
      obtain ⟨valid, _, same⟩ := lineTokens_of_readStages accepted
      exact ⟨valid, by simpa [stageTokens] using same⟩

theorem sentence_of_readLine {tokens : List Token} {line : LineSyntax}
    (accepted : readLine tokens = .ok line) : Sentence (upToEnd tokens ++ [.lineEnd]) := by
  obtain ⟨valid, same⟩ := lineTokens_of_readLine accepted
  exact ⟨line, valid, by rw [same]⟩

/-! ## The token that is blamed -/

/-- Where reading stops: before `token` some line is still possible, and with it none is,
whatever follows. -/
def StopsAt (items : List Item) (tokens : List Token) (token : Token) : Prop :=
  ∃ front back, tokens = front ++ token :: back ∧ .lineEnd ∉ front ∧
    (∃ more line, readStages items (front ++ more) = .ok line) ∧
    ∀ after, readStages items (front ++ token :: after) = .error token

/-- A word can come anywhere, so a token refused at once is the first that is wrong. -/
theorem stopsAt_first {items : List Item} {token : Token}
    (refused : ∀ after, readStages items (token :: after) = .error token) (back : List Token) :
    StopsAt items (token :: back) token :=
  ⟨[], back, rfl, by simp, ⟨[.word {}], [items ++ [.word {}]], by simp [readStages]⟩, refused⟩

theorem stopsAt_target {items : List Item} {token : Token} (operator : RedirectOperator)
    (refused : ∀ after, readStages items (.redirect operator :: token :: after) = .error token)
    (back : List Token) : StopsAt items (.redirect operator :: token :: back) token :=
  ⟨[.redirect operator], back, rfl, by simp,
    ⟨[.word {}], [items ++ [.redirection operator {}]], by simp [readStages]⟩, refused⟩

theorem stopsAt_append {items next : List Item} {tokens : List Token} {token : Token}
    (lead : List Token) (whole : LineSyntax → LineSyntax) (inside : .lineEnd ∉ lead)
    (taken : ∀ after, readStages items (lead ++ after) = (readStages next after).map whole)
    (stops : StopsAt next tokens token) : StopsAt items (lead ++ tokens) token := by
  obtain ⟨front, back, rfl, frontInside, ⟨more, line, accepted⟩, refused⟩ := stops
  refine ⟨lead ++ front, back, by simp, ?_, ⟨more, whole line, ?_⟩, ?_⟩
  · simp [inside, frontInside]
  · rw [List.append_assoc, taken, accepted]
    rfl
  · intro after
    rw [List.append_assoc, taken, refused]
    rfl

theorem stopsAt_of_readStages {items : List Item} {tokens : List Token} {token : Token}
    (refused : readStages items tokens = .error token) :
    StopsAt items (upToEnd tokens ++ [.lineEnd]) token := by
  induction items, tokens using readStages.induct with
  | case1 | case3 =>
      simp only [readStages, ↓reduceIte, Except.error.injEq] at refused
      subst refused
      exact stopsAt_first (by simp [readStages]) []
  | case5 rest =>
      simp only [readStages, ↓reduceIte, Except.error.injEq] at refused
      subst refused
      rw [upToEnd_cons (by simp)]
      exact stopsAt_first (by simp [readStages]) _
  | case6 items rest filled ih =>
      have later : readStages [] rest = .error token := by
        cases read : readStages [] rest <;> simp_all [readStages, Except.map]
      rw [upToEnd_cons (by simp)]
      exact stopsAt_append [.pipe] (items :: ·) (by simp)
        (by simp [readStages, filled]) (ih later)
  | case7 items rest | case8 items rest =>
      simp only [readStages, Except.error.injEq] at refused
      subst refused
      rw [upToEnd_cons (by simp)]
      exact stopsAt_first (by simp [readStages]) _
  | case9 items spelled rest ih =>
      rw [upToEnd_cons (by simp)]
      exact stopsAt_append [.word spelled] id (by simp)
        (by simp [readStages, Except.map_id]) (ih refused)
  | case10 items operator target rest ih =>
      rw [upToEnd_cons (by simp), upToEnd_cons (by simp)]
      exact stopsAt_append [.redirect operator, .word target] id (by simp)
        (by simp [readStages, Except.map_id]) (ih refused)
  | case11 items operator other rest notWord =>
      have refusedHere : ∀ after,
          readStages items (.redirect operator :: other :: after) = .error other :=
        fun after => readStages.eq_8 items operator other after notWord
      rw [refusedHere rest] at refused
      injection refused with same
      subst same
      rw [upToEnd_cons (by simp)]
      -- The target may be missing because the line ends, and then nothing after it counts.
      by_cases ended : other = .lineEnd
      · subst ended
        exact stopsAt_target operator refusedHere []
      · rw [upToEnd_cons ended]
        exact stopsAt_target operator refusedHere _
  | case12 items operator =>
      simp only [readStages, Except.error.injEq] at refused
      subst refused
      exact stopsAt_target operator (by simp [readStages]) []
  | case2 | case4 => simp_all [readStages]

theorem viable_of_sentence {front back : List Token} (whole : Sentence (front ++ back)) :
    Viable front := ⟨back, whole⟩

theorem viable_of_viable_append {front back : List Token} (longer : Viable (front ++ back)) :
    Viable front := by
  obtain ⟨more, whole⟩ := longer
  exact ⟨back ++ more, by rwa [List.append_assoc] at whole⟩

theorem viable_of_readStages {front more : List Token} {line : LineSyntax}
    (inside : .lineEnd ∉ front) (accepted : readStages [] (front ++ more) = .ok line) :
    Viable front := by
  have whole := sentence_of_readLine (readLine_of_readStages accepted)
  rw [upToEnd_append inside, List.append_assoc] at whole
  exact viable_of_sentence whole

/-- The reader names the token that the grammar blames. -/
theorem blames_of_readLine {tokens : List Token} {token : Token}
    (refused : readLine tokens = .error token) :
    Blames (upToEnd tokens ++ [.lineEnd]) token := by
  cases tokens using readLine.fun_cases with
  | case1 | case2 => simp [readLine] at refused
  | case3 tokens nonempty unended =>
      rw [readLine.eq_3 _ nonempty unended] at refused
      obtain ⟨front, back, same, inside, ⟨more, line, accepted⟩, stuck⟩ :=
        stopsAt_of_readStages refused
      refine ⟨front, back, same, viable_of_readStages inside accepted, ?_⟩
      rintro ⟨after, line, valid, written⟩
      cases line with
      | nil =>
          -- Only the end of the line could be blamed here, and the line has a token before it.
          obtain ⟨first, rest, rfl⟩ := List.exists_cons_of_ne_nil nonempty
          have inLine : first ≠ .lineEnd := fun ended => unended rest (by rw [ended])
          rw [upToEnd_cons inLine] at same
          cases front <;> simp_all [lineTokens]
      | cons stage rest =>
          have read := readStages_lineTokens stage rest [] valid
          rw [← written, List.append_assoc, List.singleton_append, stuck] at read
          simp at read

theorem blamed_eq_of_viable {front between back later : List Token} {first second : Token}
    (longer : Viable (front ++ between)) (dead : ¬ Viable (front ++ [first]))
    (same : first :: back = between ++ second :: later) : first = second := by
  cases between with
  | nil =>
      injection same
  | cons token rest =>
      injection same with head _
      subst head
      rw [List.append_cons] at longer
      exact absurd (viable_of_viable_append longer) dead

/-- At most one token is blamed: before it everything is viable, after it nothing is. -/
theorem blames_unique {tokens : List Token} {first second : Token}
    (blamesFirst : Blames tokens first) (blamesSecond : Blames tokens second) :
    first = second := by
  obtain ⟨front, back, rfl, viable, dead⟩ := blamesFirst
  obtain ⟨otherFront, otherBack, same, otherViable, otherDead⟩ := blamesSecond
  rcases List.append_eq_append_iff.mp same with ⟨between, rfl, tail⟩ | ⟨between, rfl, tail⟩
  · exact blamed_eq_of_viable otherViable dead tail
  · exact (blamed_eq_of_viable viable otherDead tail).symm

theorem not_blames_of_sentence {tokens : List Token} (whole : Sentence tokens) (token : Token) :
    ¬ Blames tokens token := by
  rintro ⟨front, back, rfl, _, dead⟩
  rw [List.append_cons] at whole
  exact dead (viable_of_sentence whole)

theorem not_sentence_of_and_or {tokens : List Token} {token : Token}
    (operator : token = .and ∨ token = .or) (member : token ∈ tokens) : ¬ Sentence tokens := by
  rintro ⟨line, _, rfl⟩
  rcases List.mem_append.mp member with inLine | atEnd
  · exact not_and_or_of_mem_lineTokens inLine operator
  · rw [List.mem_singleton.mp atEnd] at operator
    simp at operator

theorem readLine_error_iff (tokens : List Token) (token : Token) :
    readLine tokens = .error token ↔ Blames (upToEnd tokens ++ [.lineEnd]) token := by
  constructor
  · exact blames_of_readLine
  · intro blamed
    cases read : readLine tokens with
    | error other => rw [blames_unique blamed (blames_of_readLine read)]
    | ok line => exact absurd blamed (not_blames_of_sentence (sentence_of_readLine read) token)

/-! ## Stages that expand to nothing -/

/-- No word of the stage expands to a field. -/
def Commandless (session : Session) (items : List Item) : Prop :=
  ∀ spelled ∈ plainWords items, expandFields session spelled = []

/-- A single stage of words that all expand to nothing is as good as an empty line. -/
def NoOp (session : Session) (line : LineSyntax) : Prop :=
  ∃ items, line = [items] ∧ plainWords items ≠ [] ∧ Commandless session items ∧
    writtenRedirections items = []

theorem arguments_isEmpty_iff (session : Session) (items : List Item) :
    (Stage.ofItems session items).command.arguments.isEmpty = true ↔
      Commandless session items := by
  simp [Stage.arguments_ofItems, Commandless]

theorem ofStages_noOp {session : Session} {line : LineSyntax} (idle : NoOp session line) :
    ofStages (line.map (.ofItems session)) = .ok {} := by
  obtain ⟨items, rfl, words, silent, plain⟩ := idle
  have noArguments := (arguments_isEmpty_iff session items).mpr silent
  simp [ofStages, noArguments, Stage.sawWord_ofItems, words, Stage.redirections_ofItems, plain]

theorem ofStages_missing {session : Session} {line : LineSyntax} {items : List Item}
    (busy : ¬ NoOp session line) (member : items ∈ line) (silent : Commandless session items) :
    ofStages (line.map (.ofItems session)) = .error .missingCommand := by
  have noArguments := (arguments_isEmpty_iff session items).mpr silent
  -- Only a single stage can be a no-op, so the parser looks at such a line apart.
  match line with
  | [only] =>
      have same : items = only := List.mem_singleton.mp member
      subst same
      have notIdle : ¬ (plainWords items ≠ [] ∧ writtenRedirections items = []) :=
        fun idle => busy ⟨items, rfl, idle.1, silent, idle.2⟩
      simpa [ofStages, noArguments, Stage.sawWord_ofItems, Stage.redirections_ofItems] using notIdle
  | first :: second :: rest =>
      have found : ((first :: second :: rest).map (Stage.ofItems session)).any
          (·.command.arguments.isEmpty) = true :=
        List.any_eq_true.mpr ⟨_, List.mem_map_of_mem member, noArguments⟩
      simp only [List.map_cons] at found ⊢
      rw [ofStages, if_pos found]
      simp

theorem ofStages_commands {session : Session} {line : LineSyntax}
    (spoken : ∀ items ∈ line, ¬ Commandless session items) :
    ofStages (line.map (.ofItems session)) =
      .ok ⟨line.map fun items => (Stage.ofItems session items).command⟩ := by
  have noneMissing :
      (line.map (Stage.ofItems session)).any (·.command.arguments.isEmpty) = false := by
    rw [List.any_eq_false]
    intro stage member
    obtain ⟨items, inLine, rfl⟩ := List.mem_map.mp member
    rw [arguments_isEmpty_iff]
    exact spoken items inLine
  match line with
  | [] => rfl
  | [only] => simp_all [ofStages]
  | first :: second :: rest =>
      simp only [List.map_cons] at noneMissing ⊢
      rw [ofStages, noneMissing]
      · simp
      · simp

/-! ## The parser and its grammar -/

theorem ofStages_ne_unexpected (stages : List Stage) (text : String) :
    ofStages stages ≠ .error (.unexpectedToken text) := by
  unfold ofStages
  repeat' split
  all_goals simp

theorem parse_unexpected_iff (session : Session) (tokens : List Token) (text : String) :
    parse session tokens = .error (.unexpectedToken text) ↔
      ∃ token, readLine tokens = .error token ∧ text = token.spelling := by
  cases read : readLine tokens with
  | error token => simp [parse_of_refused session read, unexpected, eq_comm]
  | ok line => simp [parse_of_read session read, ofStages_ne_unexpected]

theorem parse_refuses_iff (session : Session) (tokens : List Token) :
    (∃ text, parse session tokens = .error (.unexpectedToken text)) ↔
      ¬ Sentence (upToEnd tokens ++ [.lineEnd]) := by
  constructor
  · rintro ⟨text, refused⟩ whole
    obtain ⟨token, read, _⟩ := (parse_unexpected_iff session tokens text).mp refused
    exact not_blames_of_sentence whole token (blames_of_readLine read)
  · intro outside
    cases read : readLine tokens with
    | error token => exact ⟨token.spelling, parse_of_refused session read⟩
    | ok line => exact absurd (sentence_of_readLine read) outside

/-- A line that is written in the tokens is the one that is read from them. -/
theorem readLine_of_written {tokens : List Token} {line : LineSyntax} (valid : WellFormed line)
    (written : upToEnd tokens = lineTokens line) : readLine tokens = .ok line := by
  cases read : readLine tokens with
  | error token =>
      have whole : Sentence (upToEnd tokens ++ [.lineEnd]) := ⟨line, valid, by rw [written]⟩
      exact absurd (blames_of_readLine read) (not_blames_of_sentence whole token)
  | ok other =>
      obtain ⟨otherValid, otherWritten⟩ := lineTokens_of_readLine read
      have back := readLine_lineTokens line [] valid
      rwa [← written, otherWritten, readLine_lineTokens other [] otherValid] at back

theorem ofStages_missing_iff (session : Session) (line : LineSyntax) :
    ofStages (line.map (.ofItems session)) = .error .missingCommand ↔
      (∃ stage ∈ line, Commandless session stage) ∧ ¬ NoOp session line := by
  constructor
  · intro missing
    refine ⟨?_, fun idle => by simp [ofStages_noOp idle] at missing⟩
    apply Classical.byContradiction
    intro noneSilent
    have spoken : ∀ items ∈ line, ¬ Commandless session items :=
      fun items member silent => noneSilent ⟨items, member, silent⟩
    simp [ofStages_commands spoken] at missing
  · rintro ⟨⟨stage, member, silent⟩, busy⟩
    exact ofStages_missing busy member silent

/-- A line outside the grammar is refused with the display text of the first token that no
sentence can have there, and only such a line; no sentence has `&&` or `||`. In the grammar, a
line lacks a command exactly if some stage expands to nothing, unless that is the single stage of
a no-op; a no-op and a line without a token give the empty pipeline, and any other line gives a
command for each stage. -/
theorem parse_follows_grammar (session : Session) (tokens : List Token) :
    (∀ text, parse session tokens = .error (.unexpectedToken text) ↔
      ∃ token, Blames (upToEnd tokens ++ [.lineEnd]) token ∧ text = token.spelling) ∧
    ((∃ text, parse session tokens = .error (.unexpectedToken text)) ↔
      ¬ Sentence (upToEnd tokens ++ [.lineEnd])) ∧
    (∀ token ∈ upToEnd tokens, token = .and ∨ token = .or →
      ∃ text, parse session tokens = .error (.unexpectedToken text)) ∧
    ∀ line, WellFormed line → upToEnd tokens = lineTokens line →
      (parse session tokens = .error .missingCommand ↔
        (∃ stage ∈ line, Commandless session stage) ∧ ¬ NoOp session line) ∧
      (line = [] ∨ NoOp session line → parse session tokens = .ok {}) ∧
      ((∀ stage ∈ line, ¬ Commandless session stage) →
        parse session tokens =
          .ok ⟨line.map fun stage => (Stage.ofItems session stage).command⟩) := by
  refine ⟨?_, parse_refuses_iff session tokens, ?_, ?_⟩
  · intro text
    simp only [parse_unexpected_iff, readLine_error_iff]
  · intro token member operator
    exact (parse_refuses_iff session tokens).mpr
      (not_sentence_of_and_or operator (List.mem_append_left [.lineEnd] member))
  · intro line valid written
    rw [parse_of_read session (readLine_of_written valid written)]
    refine ⟨ofStages_missing_iff session line, ?_, ofStages_commands⟩
    rintro (rfl | idle)
    · rfl
    · exact ofStages_noOp idle

end PipeShell
