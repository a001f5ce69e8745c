import PipeShell.Line.Stage

/-!
# The syntax of a line

A line as written: stages, each a list of words and redirections, before anything is expanded.
Reading it never looks at the session. Main statement: parsing is reading the syntax and then
expanding each stage of it, so the session enters only in the second step.
-/

namespace PipeShell

/-- What a stage is written from. -/
inductive Item where
  | word (word : Word)
  | redirection (operator : RedirectOperator) (target : Word)
  deriving DecidableEq, Repr

/-- The items of each stage, in order. The empty line has no stage. -/
abbrev LineSyntax := List (List Item)

namespace Item

def tokens : Item → List Token
  | .word spelled => [.word spelled]
  | .redirection operator target => [.redirect operator, .word target]

def word? : Item → Option Word
  | .word spelled => some spelled
  | .redirection _ _ => none

def redirection? : Item → Option (RedirectOperator × Word)
  | .word _ => none
  | .redirection operator target => some (operator, target)

def addTo (session : Session) (stage : Stage) : Item → Stage
  | .word spelled => stage.addWord session spelled
  | .redirection operator target => stage.addRedirection session operator target

end Item

def stageTokens (items : List Item) : List Token := items.flatMap Item.tokens

def lineTokens (line : LineSyntax) : List Token :=
  [Token.pipe].intercalate (line.map stageTokens)

def WellFormed (line : LineSyntax) : Prop := ∀ stage ∈ line, stage ≠ []

def plainWords (items : List Item) : List Word := items.filterMap Item.word?

def writtenRedirections (items : List Item) : List (RedirectOperator × Word) :=
  items.filterMap Item.redirection?

@[simp] theorem plainWords_word (spelled : Word) (rest : List Item) :
    plainWords (.word spelled :: rest) = spelled :: plainWords rest := rfl

@[simp] theorem plainWords_redirection (operator : RedirectOperator) (target : Word)
    (rest : List Item) :
    plainWords (.redirection operator target :: rest) = plainWords rest := rfl

@[simp] theorem writtenRedirections_word (spelled : Word) (rest : List Item) :
    writtenRedirections (.word spelled :: rest) = writtenRedirections rest := rfl

@[simp] theorem writtenRedirections_redirection (operator : RedirectOperator) (target : Word)
    (rest : List Item) :
    writtenRedirections (.redirection operator target :: rest) =
      (operator, target) :: writtenRedirections rest := rfl

/-! ## Reading -/

/-- The stages of the tokens, the first of them begun with `items`, or the token at which no
line can go on. -/
def readStages : List Item → List Token → Except Token LineSyntax
  | items, [] => if items = [] then .error .lineEnd else .ok [items]
  | items, .lineEnd :: _ => if items = [] then .error .lineEnd else .ok [items]
  | items, .pipe :: rest =>
    if items = [] then .error .pipe else (readStages [] rest).map (items :: ·)
  | _, .and :: _ => .error .and
  | _, .or :: _ => .error .or
  | items, .word word :: rest => readStages (items ++ [.word word]) rest
  | items, .redirect operator :: .word target :: rest =>
    readStages (items ++ [.redirection operator target]) rest
  | _, .redirect _ :: token :: _ => .error token
  | _, [.redirect _] => .error .lineEnd

def readLine : List Token → Except Token LineSyntax
  | [] | .lineEnd :: _ => .ok []
  | tokens => readStages [] tokens

/-! ## Expanding -/

namespace Stage

def ofItems (session : Session) (items : List Item) : Stage :=
  items.foldl (Item.addTo session) {}

theorem ofItems_concat (session : Session) (items : List Item) (item : Item) :
    ofItems session (items ++ [item]) = item.addTo session (ofItems session items) := by
  simp [ofItems]

theorem foldl_addTo (session : Session) (items : List Item) (stage : Stage) :
    items.foldl (Item.addTo session) stage =
      { command :=
          { arguments := stage.command.arguments ++
              ((plainWords items).flatMap (expandFields session)).map String.ofList
            redirections := stage.command.redirections ++
              (writtenRedirections items).map fun written =>
                redirectionTo session written.1 written.2 }
        sawWord := stage.sawWord || !(plainWords items).isEmpty } := by
  induction items generalizing stage with
  | nil => simp [plainWords, writtenRedirections]
  | cons item rest ih =>
      rw [List.foldl_cons, ih]
      cases item <;> simp [Item.addTo, addWord, addRedirection]

theorem arguments_ofItems (session : Session) (items : List Item) :
    (ofItems session items).command.arguments =
      ((plainWords items).flatMap (expandFields session)).map String.ofList := by
  simp [ofItems, foldl_addTo]

theorem redirections_ofItems (session : Session) (items : List Item) :
    (ofItems session items).command.redirections =
      (writtenRedirections items).map fun written =>
        redirectionTo session written.1 written.2 := by
  simp [ofItems, foldl_addTo]

theorem sawWord_ofItems (session : Session) (items : List Item) :
    (ofItems session items).sawWord = !(plainWords items).isEmpty := by
  simp [ofItems, foldl_addTo]

/-- Only a stage with nothing written in it is blank: a word counts even if it expands to
nothing. -/
theorem isBlank_ofItems (session : Session) (items : List Item) :
    (ofItems session items).isBlank = true ↔ items = [] := by
  simp only [isBlank, sawWord_ofItems, redirections_ofItems]
  cases items with
  | nil => simp [plainWords, writtenRedirections]
  | cons item rest =>
      cases item <;> simp

end Stage

theorem closeStage_ofItems (session : Session) (items : List Item) (token : Token) :
    closeStage (.ofItems session items) token =
      if items = [] then .error (unexpected token) else .ok () := by
  simp [closeStage, Stage.isBlank_ofItems]

theorem mapError_unexpected_ok (line : LineSyntax) :
    (Except.ok line : Except Token LineSyntax).mapError unexpected = .ok line := rfl

theorem mapError_unexpected_error (token : Token) :
    (Except.error token : Except Token LineSyntax).mapError unexpected =
      .error (unexpected token) := rfl

/-- The stages read by the parser are those of the syntax, each expanded. -/
theorem parseStages_eq (session : Session) (items : List Item) (tokens : List Token) :
    parseStages session (.ofItems session items) tokens =
      ((readStages items tokens).mapError unexpected).map (List.map (.ofItems session)) := by
  induction items, tokens using readStages.induct with
  | case6 items rest filled ih =>
      -- A stage ends at a pipe, and the next one begins with nothing in it.
      have closed : closeStage (.ofItems session items) .pipe = .ok () := by
        rw [closeStage_ofItems, if_neg filled]
      have begun : parseStages session {} rest = parseStages session (.ofItems session []) rest :=
        rfl
      rw [parseStages, readStages, if_neg filled, closed, begun, ih]
      cases readStages [] rest <;> rfl
  | case9 items spelled rest ih =>
      rw [parseStages, readStages, ← ih, Stage.ofItems_concat]
      rfl
  | case10 items operator target rest ih =>
      rw [parseStages, readStages, ← ih, Stage.ofItems_concat]
      rfl
  | case1 | case2 | case3 | case4 | case5 =>
      simp_all [parseStages, readStages, closeStage_ofItems, mapError_unexpected_ok,
        mapError_unexpected_error, Except.map, bind, Except.bind, pure, Except.pure]
  | case7 | case8 | case11 | case12 =>
      simp [parseStages, readStages, mapError_unexpected_error, Except.map]

/-- Parsing reads the syntax first. The session has a part only in what follows. -/
theorem parse_eq (session : Session) (tokens : List Token) :
    parse session tokens =
      (readLine tokens).mapError unexpected >>= fun line =>
        ofStages (line.map (.ofItems session)) := by
  cases tokens using readLine.fun_cases with
  | case1 => rfl
  | case2 => rfl
  | case3 tokens nonempty unended =>
      have begun := parseStages_eq session [] tokens
      rw [parse.eq_3 _ _ nonempty unended, readLine.eq_3 _ nonempty unended]
      change (parseStages session (.ofItems session []) tokens >>= ofStages) = _
      rw [begun]
      cases readStages [] tokens <;> rfl

theorem parse_of_refused (session : Session) {tokens : List Token} {token : Token}
    (refused : readLine tokens = .error token) :
    parse session tokens = .error (unexpected token) := by
  rw [parse_eq, refused]
  rfl

theorem parse_of_read (session : Session) {tokens : List Token} {line : LineSyntax}
    (accepted : readLine tokens = .ok line) :
    parse session tokens = ofStages (line.map (.ofItems session)) := by
  rw [parse_eq, accepted]
  rfl

theorem parseLine_of_tokenize {line : String} {tokens : List Token}
    (split : tokenize line = .ok tokens) (session : Session) :
    parseLine session line = parse session tokens := by
  rw [parseLine, split]
  rfl

theorem parseLine_of_refused {line : String} {error : ShellError}
    (refused : tokenize line = .error error) (session : Session) :
    parseLine session line = .error error := by
  rw [parseLine, refused]
  rfl

end PipeShell
