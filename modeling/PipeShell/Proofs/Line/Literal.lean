import PipeShell.Line.Expansion

/-!
# Words that expand to themselves

Text without a `$`, and without a `~` outside quotes, is the same before and after expansion. Main
statement: a word made of such text is exactly one field, its text.
-/

namespace PipeShell

/-- No reference and no `~` stands where it would be expanded. Only quotes leave an empty part. -/
def Part.Inert (part : Part) : Prop :=
  match part.quote with
  | .single => True
  | .double => '$' ∉ part.text
  | .unquoted => part.text ≠ [] ∧ '$' ∉ part.text ∧ '~' ∉ part.text

def Word.Inert (word : Word) : Prop := ∀ part ∈ word.parts, part.Inert

theorem scan_skip (session : Session) (skip : Nat) (text : List Char) :
    scan session skip text = scan session 0 (text.drop skip) := by
  induction skip generalizing text with
  | zero => rfl
  | succ skip ih =>
      cases text with
      | nil => rfl
      | cons c rest => exact ih rest

theorem scan_literal (session : Session) {text : List Char} (plain : '$' ∉ text)
    (after : List Char) :
    scan session 0 (text ++ after) = text.map .literal ++ scan session 0 after := by
  induction text with
  | nil => rfl
  | cons c rest ih =>
      rw [List.mem_cons, not_or] at plain
      rw [List.cons_append, scan, if_neg (Ne.symm plain.1), ih plain.2]
      rfl

theorem scan_inert (session : Session) {text : List Char} (plain : '$' ∉ text) :
    scan session 0 text = text.map .literal := by
  have scanned := scan_literal session plain []
  rwa [List.append_nil, scan, List.append_nil] at scanned

theorem expandText_inert (session : Session) {text : List Char} (plain : '$' ∉ text) :
    expandText session text = text := by
  rw [expandText, scan_inert session plain, List.flatMap_map]
  exact List.flatMap_singleton' text

theorem expandTilde_inert (home : Option String) {text : List Char} (plain : '~' ∉ text) :
    expandTilde home text = text := by
  unfold expandTilde
  split
  · simp at plain
  · rfl

namespace Fields

theorem foldl_addPiece_literal (fields : Fields) (front text : List Char) :
    (text.map Piece.literal).foldl addPiece (fields.addLiteral front) =
      fields.addLiteral (front ++ text) := by
  induction text generalizing front with
  | nil => simp
  | cons c rest ih =>
      have later := ih (front ++ [c])
      rw [List.append_assoc] at later
      simpa [addPiece, addLiteral] using later

theorem foldl_addPiece_text (fields : Fields) {text : List Char} (nonempty : text ≠ []) :
    (text.map Piece.literal).foldl addPiece fields = fields.addLiteral text := by
  obtain ⟨c, rest, rfl⟩ := List.exists_cons_of_ne_nil nonempty
  exact foldl_addPiece_literal fields [c] rest

theorem addPart_inert (session : Session) (first : Bool) (fields : Fields) {part : Part}
    (inert : part.Inert) : fields.addPart session first part = fields.addLiteral part.text := by
  obtain ⟨quote, text⟩ := part
  cases quote with
  | single => rfl
  | double => simp only [addPart, expandText_inert session inert]
  | unquoted =>
      obtain ⟨nonempty, noReference, noTilde⟩ := inert
      simp only [addPart, expandTilde_inert _ noTilde, ite_self, scan_inert session noReference]
      exact foldl_addPiece_text fields nonempty

theorem foldl_addPart_inert (session : Session) (fields : Fields) (front : List Char)
    {parts : List Part} (inert : ∀ part ∈ parts, part.Inert) :
    parts.foldl (addPart session false) (fields.addLiteral front) =
      fields.addLiteral (front ++ parts.flatMap Part.text) := by
  induction parts generalizing front with
  | nil => simp
  | cons part rest ih =>
      have later := ih (front ++ part.text) fun other member =>
        inert other (List.mem_cons_of_mem part member)
      rw [List.foldl_cons, addPart_inert session false _ (inert part List.mem_cons_self),
        List.flatMap_cons, ← List.append_assoc, ← later]
      simp [addLiteral]

end Fields

/-- An inert word is one field, which is the word without its quoting. -/
theorem expandFields_inert (session : Session) {word : Word} (inert : word.Inert)
    (nonempty : word.parts ≠ []) : expandFields session word = [word.literal] := by
  obtain ⟨first, rest, parts⟩ := List.exists_cons_of_ne_nil nonempty
  have firstInert : first.Inert := inert first (by simp [parts])
  have restInert : ∀ part ∈ rest, part.Inert :=
    fun part member => inert part (by simp [parts, member])
  rw [expandFields, expandParts.eq_def, parts]
  simp only [Fields.addPart_inert session true {} firstInert,
    Fields.foldl_addPart_inert session {} first.text restInert]
  simp [Fields.finish, Fields.addLiteral, Word.literal, parts]

end PipeShell
