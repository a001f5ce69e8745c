import PipeShell.Proofs.Line.Literal
import PipeShell.Proofs.Line.Templates

/-!
# The home directory in a word

The home directory takes the place of a leading `~` before the text is scanned for references, so
that those in it are replaced as well. Main statement: it stands in the fields as it is exactly if,
written outside quotes, it comes to the same as in single quotes, which is so whenever no `$` in it
begins a reference.
-/

namespace PipeShell

/-! ## Scanning past a boundary -/

def Detached (after : List Char) : Prop :=
  ∀ c ∈ after.head?, isNameChar c = false ∧ c ∉ ['?', '{', '}']

/-- A closing brace behind the boundary closes no name. -/
theorem readBraced?_append {after : List Char} (detached : Detached after) (text : List Char) :
    readBraced? (text ++ after) = readBraced? text := by
  by_cases closed : '}' ∈ text
  · obtain ⟨name, rest, split, unclosed⟩ := List.eq_append_cons_of_mem closed
    have stops : ∀ c ∈ name, (c != '}') = true :=
      fun c member => bne_iff_ne.mpr fun same => unclosed (same ▸ member)
    simp [readBraced?, split, List.takeWhile_append_of_pos stops]
  · have all : ∀ c ∈ text, (c != '}') = true :=
      fun c member => bne_iff_ne.mpr fun same => closed (same ▸ member)
    have open_ : readBraced? text = none := by
      simp [readBraced?, List.takeWhile_eq_self_iff.mpr all]
    rw [open_]
    cases after with
    | nil => rwa [List.append_nil]
    | cons c later =>
        obtain ⟨unnamed, other⟩ := detached c rfl
        have notClosing : (c != '}') = true := bne_iff_ne.mpr fun same => by simp [same] at other
        have whole : (text ++ c :: later).takeWhile (· != '}') =
            text ++ c :: later.takeWhile (· != '}') := by
          rw [List.takeWhile_append_of_pos all, List.takeWhile_cons, if_pos notClosing]
        -- The name would go across the boundary, and what is there cannot be part of one.
        have invalid : isValidName (text ++ c :: later.takeWhile (· != '}')) = false := by
          cases valid : isValidName (text ++ c :: later.takeWhile (· != '}')) with
          | false => rfl
          | true =>
              obtain ⟨_, _, _, _, named⟩ := exists_of_isValidName valid
              have inName := named c (by simp)
              rw [unnamed] at inName
              cases inName
        have notStatus : text ++ c :: later.takeWhile (· != '}') ≠ ['?'] := by
          intro same
          have member : c ∈ ['?'] := same ▸ (by simp)
          exact other (List.mem_cons.mpr (.inl (List.mem_singleton.mp member)))
        simp [readBraced?, whole, invalid, notStatus]

theorem readReference?_append {after : List Char} (detached : Detached after)
    (text : List Char) : readReference? (text ++ after) = readReference? text := by
  cases text with
  | nil =>
      refine readReference?_none fun c first => ?_
      obtain ⟨unnamed, other⟩ := detached c first
      simp only [List.mem_cons, not_or] at other
      exact ⟨unnamed, other.1, other.2.1⟩
  | cons c rest =>
      have name := takeWhile_append_stop (fun c first => (detached c first).1) rest
      simp only [List.cons_append, readReference?, name, readBraced?_append detached rest]

theorem length_readBraced?_le {text : List Char} {reference : Reference} {length : Nat}
    (read : readBraced? text = some (reference, length)) : length ≤ text.length + 1 := by
  simp only [readBraced?] at read
  split at read
  · split at read
    · cases read
      omega
    · split at read
      · cases read
        omega
      · cases read
  · cases read

theorem length_readReference?_le {text : List Char} {reference : Reference} {length : Nat}
    (read : readReference? text = some (reference, length)) : length ≤ text.length := by
  cases text with
  | nil => cases read
  | cons c rest =>
      have name : (rest.takeWhile isNameChar).length ≤ rest.length :=
        (List.takeWhile_prefix isNameChar).length_le
      have braced : readBraced? rest = some (reference, length) → length ≤ rest.length + 1 :=
        length_readBraced?_le
      rw [readReference?] at read
      rw [List.length_cons]
      grind

theorem scan_append (session : Session) {after : List Char} (detached : Detached after) {skip : Nat}
    {text : List Char} (within : skip ≤ text.length) :
    scan session skip (text ++ after) = scan session skip text ++ scan session 0 after := by
  induction text generalizing skip with
  | nil =>
      rw [List.length_nil, Nat.le_zero] at within
      rw [within]
      rfl
  | cons c rest ih =>
      cases skip with
      | succ skip => exact ih (Nat.le_of_succ_le_succ within)
      | zero =>
          have fromHere := ih (Nat.zero_le _)
          simp only [List.cons_append, scan, readReference?_append detached]
          split
          · cases read : readReference? rest with
            | none =>
                simp only [fromHere]
                rfl
            | some found =>
                simp only [ih (length_readReference?_le read)]
                rfl
          · rw [fromHere]
            rfl

/-! ## The home directory -/

/-- What may follow a `~` that means the home directory. -/
def FollowsHome (rest : List Char) : Prop := rest.head? = none ∨ rest.head? = some '/'

theorem FollowsHome.detached {rest : List Char} (follows : FollowsHome rest) : Detached rest := by
  intro c first
  rcases follows with none | slash
  · rw [none] at first
    cases first
  · rw [slash] at first
    cases first
    decide

theorem expandTilde_home (home : String) {rest : List Char} (follows : FollowsHome rest) :
    expandTilde (some home) ('~' :: rest) = home.toList ++ rest := by
  exact if_pos follows

/-- The directory stands in the fields of a word as if it were in single quotes there. -/
def Session.InsertsVerbatim (session : Session) (home : List Char) : Prop :=
  ∀ raw quoted rest others, FollowsHome rest →
    expandFields session ⟨raw, ⟨.unquoted, '~' :: rest⟩ :: others⟩ =
      expandFields session ⟨quoted, ⟨.single, home⟩ :: ⟨.unquoted, rest⟩ :: others⟩

/-- No `$` in the text begins a reference. -/
def Unreferring (text : List Char) : Prop :=
  ∀ front back, text = front ++ '$' :: back → readReference? back = none

theorem scan_unreferring (session : Session) {text : List Char} (plain : Unreferring text) :
    scan session 0 text = text.map .literal := by
  induction text with
  | nil => rfl
  | cons c rest ih =>
      have later : Unreferring rest := fun front back split =>
        plain (c :: front) back (by rw [split, List.cons_append])
      rw [List.map_cons, scan, ih later]
      split
      · rename_i dollar
        rw [plain [] rest (by rw [dollar, List.nil_append])]
        rw [dollar]
      · rfl

section Home

variable {session : Session} {home : String} (known : session.valueOf? "HOME" = some home)
include known

/-- The directory is scanned like a part outside quotes, and what follows it after that. -/
theorem expandParts_tilde {rest : List Char} (follows : FollowsHome rest) (others : List Part) :
    expandParts session (⟨.unquoted, '~' :: rest⟩ :: others) =
      (⟨.unquoted, home.toList⟩ :: ⟨.unquoted, rest⟩ :: others).foldl
        (Fields.addPart session false) {} := by
  have scanned := scan_append session follows.detached (Nat.zero_le home.toList.length)
  simp only [expandParts, List.foldl_cons, Fields.addPart, ↓reduceIte, known,
    expandTilde_home home follows, scanned, List.foldl_append, Bool.false_eq_true]

end Home

theorem Fields.eq_of_finish {fields : Fields} {text : List Char} (alone : fields.finish = [text])
    (grows : (fields.addLiteral ['/']).finish = [text ++ ['/']]) :
    fields = ({} : Fields).addLiteral text := by
  obtain ⟨complete, current, active⟩ := fields
  have grown : complete ++ [current ++ ['/']] = [] ++ [text ++ ['/']] := grows
  obtain ⟨rfl, same⟩ := List.append_inj' grown rfl
  have texts := List.append_inj' (List.singleton_inj.mp same) rfl
  cases active with
  | false => cases alone
  | true => simp [addLiteral, texts.1]

/-- The home directory stands in the fields as it is exactly if as a part outside quotes it comes to
the same as in single quotes. It does if no `$` in it begins a reference. -/
theorem insertsVerbatim_iff {session : Session} {home : String}
    (known : session.valueOf? "HOME" = some home) (nonempty : home ≠ "") :
    (session.InsertsVerbatim home.toList ↔
      Fields.addPart session false {} ⟨.unquoted, home.toList⟩ =
        Fields.addPart session false {} ⟨.single, home.toList⟩) ∧
    (Unreferring home.toList → session.InsertsVerbatim home.toList) := by
  have iff : session.InsertsVerbatim home.toList ↔
      Fields.addPart session false {} ⟨.unquoted, home.toList⟩ =
        Fields.addPart session false {} ⟨.single, home.toList⟩ := by
    constructor
    · -- `~` tells that there is one field, and `~/` that it is still open.
      intro verbatim
      have nothing : FollowsHome [] := .inl rfl
      have slash : FollowsHome ['/'] := .inr rfl
      have alone := verbatim [] [] [] [] nothing
      have grows := verbatim [] [] ['/'] [] slash
      simp only [expandFields, expandParts_tilde known nothing] at alone
      simp only [expandFields, expandParts_tilde known slash] at grows
      exact Fields.eq_of_finish alone grows
    · intro same raw quoted rest others follows
      rw [expandFields, expandParts_tilde known follows, List.foldl_cons, same]
      rfl
  refine ⟨iff, fun plain => iff.mpr ?_⟩
  have some_ : home.toList ≠ [] := by simpa using nonempty
  simp only [Fields.addPart, Bool.false_eq_true, ↓reduceIte, scan_unreferring session plain,
    Fields.foldl_addPiece_text _ some_]

def sessionAtHome : Session :=
  { environment := ⟨[("HOME", "/home/a $ b")]⟩ }

theorem insertsVerbatim_sessionAtHome :
    sessionAtHome.valueOf? "HOME" = some "/home/a $ b" ∧ "/home/a $ b" ≠ "" ∧
    expandFields sessionAtHome ⟨"~/c".toList, [⟨.unquoted, "~/c".toList⟩]⟩ =
      ["/home/a $ b/c".toList] := by
  have known : sessionAtHome.valueOf? "HOME" = some "/home/a $ b" := by decide
  have nonempty : "/home/a $ b" ≠ "" := by decide
  have plain : Fields.addPart sessionAtHome false {} ⟨.unquoted, "/home/a $ b".toList⟩ =
      Fields.addPart sessionAtHome false {} ⟨.single, "/home/a $ b".toList⟩ := by decide +kernel
  have verbatim := (insertsVerbatim_iff known nonempty).1.mpr plain
  refine ⟨known, nonempty, (verbatim _ [] "/c".toList [] (.inr rfl)).trans ?_⟩
  decide +kernel

def sessionReferringHome : Session :=
  { environment := ⟨[("HOME", "/srv/$USER"), ("USER", "zako")]⟩ }

theorem not_insertsVerbatim_sessionReferringHome :
    sessionReferringHome.valueOf? "HOME" = some "/srv/$USER" ∧
    expandFields sessionReferringHome ⟨['~'], [⟨.unquoted, ['~']⟩]⟩ = ["/srv/zako".toList] ∧
    ¬ sessionReferringHome.InsertsVerbatim "/srv/$USER".toList := by
  have expanded : expandFields sessionReferringHome ⟨['~'], [⟨.unquoted, ['~']⟩]⟩ =
      ["/srv/zako".toList] := by decide +kernel
  refine ⟨by decide, expanded, fun verbatim => ?_⟩
  have same := verbatim ['~'] [] [] [] (.inl rfl)
  rw [expanded] at same
  revert same
  decide +kernel

end PipeShell
