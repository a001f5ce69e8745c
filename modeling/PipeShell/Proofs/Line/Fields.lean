import PipeShell.Proofs.Line.Literal

/-!
# Fields of a word

The fields of a word are built while its parts are read, one after the other. Here a word is first
taken apart as a whole, into characters that tell where they come from, and then cut. Taking apart
knows nothing of the scan that the fields are built from. Main statement: the fields are the
stretches between the white space of values, and those of them that hold neither a character nor
anything quoted are dropped.
-/

namespace PipeShell

/-! ## Taking a word apart -/

/-- What the fields of a word are made of: characters that stand for themselves, characters of
values, and an invisible mark where something is quoted. -/
inductive Atom where
  | mark
  | literal (c : Char)
  | value (c : Char)
  deriving DecidableEq, Repr

namespace Atom

def char? : Atom → Option Char
  | .mark => none
  | .literal c | .value c => some c

/-- White space separates fields only if it comes from a value. -/
def breaks : Atom → Bool
  | .value c => isBlank c
  | _ => false

end Atom

def quotedAtoms (text : List Char) : List Atom := .mark :: text.map .literal

/-- The atoms of a text that is not quoted: a `$` and the reference that begins behind it give the
characters of a value, and everything else stands for itself. -/
def unquotedAtoms (session : Session) : List Char → List Atom
  | [] => []
  | c :: rest =>
    match if c = '$' then readReference? rest else none with
    | some (reference, length) =>
      (reference.value session).map .value ++ unquotedAtoms session (rest.drop length)
    | none => .literal c :: unquotedAtoms session rest
termination_by text => text.length
decreasing_by all_goals simp only [List.length_drop, List.length_cons]; omega

/-- The atoms of a part. The home directory that takes the place of a leading `~` counts as if it
were written in the word. -/
def Part.atoms (session : Session) (first : Bool) (part : Part) : List Atom :=
  match part.quote with
  | .single => quotedAtoms part.text
  | .double => quotedAtoms (expandText session part.text)
  | .unquoted =>
    let text :=
      if first then expandTilde (session.valueOf? "HOME") part.text else part.text
    unquotedAtoms session text

def wordAtoms (session : Session) : List Part → List Atom
  | [] => []
  | first :: rest => first.atoms session true ++ rest.flatMap (Part.atoms session false)

/-! ## Scanning takes apart in the same way -/

def Piece.atoms : Piece → List Atom
  | .literal c => [.literal c]
  | .value text => text.map .value

theorem atoms_scan (session : Session) (text : List Char) :
    (scan session 0 text).flatMap Piece.atoms = unquotedAtoms session text := by
  fun_induction unquotedAtoms session text with
  | case1 => rfl
  | case2 c rest reference length read ih =>
      obtain ⟨rfl, found⟩ : c = '$' ∧ readReference? rest = some (reference, length) := by
        simpa using read
      rw [scan, if_pos rfl, found, ← ih, ← scan_skip]
      rfl
  | case3 c rest unread ih =>
      rw [← ih, scan]
      split
      · rename_i dollar
        have none : readReference? rest = none := by simpa [dollar] using unread
        rw [none, dollar]
        rfl
      · rfl

/-- A text between double quotes is taken apart in the same way; there it does not matter what is
a value. -/
theorem expandText_eq_atoms (session : Session) (text : List Char) :
    expandText session text = (unquotedAtoms session text).filterMap Atom.char? := by
  have same : Piece.text = fun piece => piece.atoms.filterMap Atom.char? := by
    funext piece
    cases piece with
    | literal c => rfl
    | value value =>
        rw [Piece.atoms, List.filterMap_map]
        exact List.filterMap_some.symm
  rw [expandText, ← atoms_scan, List.filterMap_flatMap, same]

/-! ## Cutting -/

/-- The stretches between the breaks, without those in which there is nothing at all. -/
def stretches (atoms : List Atom) : List (List Atom) :=
  (atoms.splitOnP Atom.breaks).filter (!·.isEmpty)

def splitAtoms (atoms : List Atom) : List (List Char) :=
  (stretches atoms).map (·.filterMap Atom.char?)

theorem splitAtoms_append_cons {atom : Atom} (breaks : atom.breaks = true)
    (front back : List Atom) :
    splitAtoms (front ++ atom :: back) = splitAtoms front ++ splitAtoms back := by
  rw [splitAtoms, stretches, List.splitOnP_append_cons front back breaks, List.filter_append,
    List.map_append]
  rfl

theorem splitAtoms_solid {atoms : List Atom} (solid : ∀ atom ∈ atoms, atom.breaks = false) :
    splitAtoms atoms = if atoms.isEmpty then [] else [atoms.filterMap Atom.char?] := by
  rw [splitAtoms, stretches, List.splitOnP_eq_singleton solid]
  cases atoms <;> rfl

theorem splitOnP_map {α β : Type} (change : α → β) (breaks : β → Bool) (list : List α) :
    (list.map change).splitOnP breaks =
      (list.splitOnP (breaks ∘ change)).map (List.map change) := by
  induction list with
  | nil => rfl
  | cons first rest ih =>
      rw [List.map_cons, List.splitOnP_cons_eq_if_modifyHead,
        List.splitOnP_cons_eq_if_modifyHead, ih, Function.comp_apply]
      split
      · rfl
      · cases rest.splitOnP (breaks ∘ change) <;> rfl

theorem flatten_splitOnP (atoms : List Atom) :
    (atoms.splitOnP Atom.breaks).flatten = atoms.filter (!·.breaks) := by
  induction atoms with
  | nil => rfl
  | cons atom rest ih =>
      rw [List.splitOnP_cons_eq_if_modifyHead]
      cases breaks : atom.breaks with
      | true => simpa [breaks] using ih
      | false =>
          obtain ⟨first, others, split⟩ :=
            List.exists_cons_of_ne_nil (List.splitOnP_ne_nil Atom.breaks rest)
          rw [split, List.flatten_cons] at ih
          simp [breaks, split, ih]

theorem mem_stretches {atom : Atom} {atoms : List Atom} (solid : atom.breaks = false) :
    atom ∈ atoms ↔ ∃ stretch ∈ stretches atoms, atom ∈ stretch := by
  have kept : atom ∈ atoms ↔ atom ∈ (atoms.splitOnP Atom.breaks).flatten := by
    rw [flatten_splitOnP, List.mem_filter]
    simp [solid]
  rw [kept, List.mem_flatten]
  constructor
  · rintro ⟨stretch, cut, member⟩
    exact ⟨stretch, List.mem_filter.mpr ⟨cut, by simpa using List.ne_nil_of_mem member⟩, member⟩
  · rintro ⟨stretch, cut, member⟩
    exact ⟨stretch, (List.mem_filter.mp cut).1, member⟩

/-- Something quoted is always in a field, be it empty. -/
theorem splitAtoms_ne_nil {atoms : List Atom} (marked : Atom.mark ∈ atoms) :
    splitAtoms atoms ≠ [] := by
  obtain ⟨stretch, cut, _⟩ := (mem_stretches rfl).mp marked
  exact fun none => List.ne_nil_of_mem cut (List.map_eq_nil_iff.mp none)

/-- Only a mark makes an empty field. -/
theorem nil_not_mem_splitAtoms {atoms : List Atom} (unmarked : Atom.mark ∉ atoms) :
    [] ∉ splitAtoms atoms := by
  intro member
  obtain ⟨stretch, cut, empty⟩ := List.mem_map.mp member
  obtain ⟨_, nonempty⟩ := List.mem_filter.mp cut
  obtain ⟨atom, others, rfl⟩ := List.exists_cons_of_ne_nil (l := stretch) (by simpa using nonempty)
  have silent := List.filterMap_eq_nil_iff.mp empty atom List.mem_cons_self
  cases atom with
  | mark => exact unmarked ((mem_stretches rfl).mpr ⟨_, cut, List.mem_cons_self⟩)
  | literal c => cases silent
  | value c => cases silent

/-! ## Building and cutting agree -/

namespace Fields

def addAtom (fields : Fields) : Atom → Fields
  | .mark => fields.addLiteral []
  | .literal c => fields.addLiteral [c]
  | .value c => fields.addValueChar c

theorem addAtom_solid (fields : Fields) {atom : Atom} (solid : atom.breaks = false) :
    fields.addAtom atom =
      { fields with current := fields.current ++ atom.char?.toList, active := true } := by
  cases atom with
  | mark => rfl
  | literal c => rfl
  | value c =>
      have inked : isBlank c = false := solid
      simp [addAtom, addValueChar, inked, Atom.char?]

theorem addAtom_break (fields : Fields) {atom : Atom} (breaks : atom.breaks = true) :
    fields.addAtom atom =
      if fields.active then ⟨fields.complete ++ [fields.current], [], false⟩ else fields := by
  cases atom with
  | mark => cases breaks
  | literal c => cases breaks
  | value c =>
      have blank : isBlank c = true := breaks
      simp only [addAtom, addValueChar, blank, ↓reduceIte]

theorem foldl_addAtom_quoted (fields : Fields) (text : List Char) :
    (quotedAtoms text).foldl addAtom fields = fields.addLiteral text := by
  have literals := foldl_addPiece_literal fields [] text
  rw [List.foldl_map] at literals
  rw [quotedAtoms, List.foldl_cons, List.foldl_map]
  exact literals

theorem foldl_addAtom_piece (fields : Fields) (piece : Piece) :
    piece.atoms.foldl addAtom fields = fields.addPiece piece := by
  cases piece with
  | literal c => rfl
  | value text => exact List.foldl_map

theorem foldl_addAtom_part (session : Session) (first : Bool) (fields : Fields) (part : Part) :
    (part.atoms session first).foldl addAtom fields = fields.addPart session first part := by
  obtain ⟨quote, text⟩ := part
  cases quote with
  | single => exact foldl_addAtom_quoted fields text
  | double => exact foldl_addAtom_quoted fields (expandText session text)
  | unquoted =>
      simp only [Part.atoms, addPart, ← atoms_scan, List.foldl_flatMap, foldl_addAtom_piece]

theorem foldl_addAtom_word (session : Session) (parts : List Part) :
    (wordAtoms session parts).foldl addAtom {} = expandParts session parts := by
  cases parts with
  | nil => rfl
  | cons first rest =>
      simp only [wordAtoms, expandParts, List.foldl_append, List.foldl_flatMap, foldl_addAtom_part]

/-- The fields built from an open stretch on are those that are cut off from it. -/
theorem finish_foldl_addAtom (atoms : List Atom) (complete : List (List Char))
    {stretch : List Atom} (solid : ∀ atom ∈ stretch, atom.breaks = false) :
    (atoms.foldl addAtom
        ⟨complete, stretch.filterMap Atom.char?, !stretch.isEmpty⟩).finish =
      complete ++ splitAtoms (stretch ++ atoms) := by
  -- The open field is the text of a stretch, and it is open if there is anything in that.
  induction atoms generalizing complete stretch with
  | nil =>
      rw [List.append_nil, splitAtoms_solid solid]
      cases stretch <;> simp [finish]
  | cons atom rest ih =>
      rw [List.foldl_cons]
      cases breaks : atom.breaks with
      | true =>
          rw [addAtom_break _ breaks, splitAtoms_append_cons breaks, splitAtoms_solid solid]
          cases stretch with
          | nil => exact ih complete solid
          | cons first others =>
              have later := ih (complete ++ [(first :: others).filterMap Atom.char?])
                (List.forall_mem_nil _)
              rw [List.append_assoc] at later
              exact later
      | false =>
          have grown : ∀ other ∈ stretch ++ [atom], other.breaks = false :=
            List.forall_mem_append.mpr ⟨solid, List.forall_mem_singleton.mpr breaks⟩
          have text : (stretch ++ [atom]).filterMap Atom.char? =
              stretch.filterMap Atom.char? ++ atom.char?.toList := by
            rw [List.filterMap_append, List.filterMap_cons, List.filterMap_nil]
            cases atom.char? <;> rfl
          have open_ : (!(stretch ++ [atom]).isEmpty) = true := by simp
          have later := ih complete grown
          rw [text, open_, List.append_assoc, List.singleton_append] at later
          rw [addAtom_solid _ breaks]
          exact later

end Fields

/-! ## Quoted and unquoted words -/

theorem mark_mem_atoms_iff (session : Session) (first : Bool) (part : Part) :
    Atom.mark ∈ part.atoms session first ↔ part.quote ≠ .unquoted := by
  obtain ⟨quote, text⟩ := part
  cases quote with
  | single => simp [Part.atoms, quotedAtoms]
  | double => simp [Part.atoms, quotedAtoms]
  | unquoted =>
      have unmarked : ∀ piece : Piece, Atom.mark ∉ piece.atoms := by
        intro piece
        cases piece <;> simp [Piece.atoms]
      simp [Part.atoms, ← atoms_scan, unmarked]

theorem mark_mem_wordAtoms_iff (session : Session) (word : Word) :
    Atom.mark ∈ wordAtoms session word.parts ↔ word.isQuoted = true := by
  obtain ⟨raw, parts⟩ := word
  cases parts with
  | nil => simp [wordAtoms, Word.isQuoted]
  | cons first rest => simp [wordAtoms, Word.isQuoted, mark_mem_atoms_iff]

theorem breaks_quotedAtoms (text : List Char) :
    ∀ atom ∈ quotedAtoms text, atom.breaks = false := by
  simp [quotedAtoms, Atom.breaks]

theorem breaks_atoms_quoted (session : Session) (first : Bool) {part : Part}
    (quoted : part.quote ≠ .unquoted) :
    ∀ atom ∈ part.atoms session first, atom.breaks = false := by
  obtain ⟨quote, text⟩ := part
  cases quote with
  | single => exact breaks_quotedAtoms text
  | double => exact breaks_quotedAtoms (expandText session text)
  | unquoted => exact absurd rfl quoted

theorem breaks_wordAtoms_quoted (session : Session) {parts : List Part}
    (quoted : ∀ part ∈ parts, part.quote ≠ .unquoted) :
    ∀ atom ∈ wordAtoms session parts, atom.breaks = false := by
  cases parts with
  | nil => exact List.forall_mem_nil _
  | cons first rest =>
      obtain ⟨here, others⟩ := List.forall_mem_cons.mp quoted
      refine List.forall_mem_append.mpr ⟨breaks_atoms_quoted session true here, ?_⟩
      intro atom member
      obtain ⟨part, inRest, inPart⟩ := List.mem_flatMap.mp member
      exact breaks_atoms_quoted session false (others part inRest) atom inPart

/-- The fields of a word are what it is cut into at the white space of values; a text is expanded
to the characters it is taken apart into. A word all of whose parts are quoted is one field, one
with something quoted is at least one, and one with nothing quoted has no empty field. -/
theorem expandFields_eq_splitAtoms (session : Session) (word : Word) :
    expandFields session word = splitAtoms (wordAtoms session word.parts) ∧
    (∀ text, expandText session text = (unquotedAtoms session text).filterMap Atom.char?) ∧
    (word.parts ≠ [] → (∀ part ∈ word.parts, part.quote ≠ .unquoted) →
      ∃ field, expandFields session word = [field]) ∧
    (word.isQuoted = true → expandFields session word ≠ []) ∧
    (word.isQuoted = false → [] ∉ expandFields session word) := by
  have split : expandFields session word = splitAtoms (wordAtoms session word.parts) := by
    rw [expandFields, ← Fields.foldl_addAtom_word]
    exact Fields.finish_foldl_addAtom _ [] (List.forall_mem_nil _)
  have marked := mark_mem_wordAtoms_iff session word
  rw [split]
  refine ⟨rfl, expandText_eq_atoms session, fun nonempty quoted => ?_, fun quoted => ?_,
    fun unquoted => ?_⟩
  · have someQuoted : word.isQuoted = true := by
      obtain ⟨part, member⟩ := List.exists_mem_of_ne_nil _ nonempty
      exact List.any_eq_true.mpr ⟨part, member, decide_eq_true (quoted part member)⟩
    have present := List.ne_nil_of_mem (marked.mpr someQuoted)
    rw [splitAtoms_solid (breaks_wordAtoms_quoted session quoted),
      if_neg (by simpa using present)]
    exact ⟨_, rfl⟩
  · exact splitAtoms_ne_nil (marked.mpr quoted)
  · refine nil_not_mem_splitAtoms fun member => ?_
    rw [marked.mp member] at unquoted
    cases unquoted

-- Empty quotes at both ends of a value with white space around it.
example : splitAtoms ([.mark] ++ [' ', 'a', ' ', ' ', 'b', ' '].map .value ++ [.mark]) =
    [[], ['a'], ['b'], []] := by
  decide

end PipeShell
