import PipeShell.Text.Pattern

/-!
# Rules for names

A search can be told which files and directories to leave out, or to keep. The last rule that fits
a name decides, and a name that none fits is treated in the other way than the first rule says.
-/

namespace PipeShell

namespace Programs

structure NameRule where
  keeps : Bool
  pattern : Option (List Marked)
  deriving DecidableEq, Repr

def markPattern : List Char → Option (List Marked)
  | [] => some []
  | ['\\'] => none
  | '\\' :: c :: rest => (markPattern rest).map ((c, true) :: ·)
  | '[' :: '^' :: rest => (markPattern rest).map (('[', false) :: ('!', false) :: ·)
  | c :: rest => (markPattern rest).map ((c, false) :: ·)

def addRule (rules : List NameRule) (keeps : Bool) (text : String) : List NameRule :=
  ⟨keeps, markPattern text.toList⟩ :: rules

def addRuleLines (rules : List NameRule) (lines : List String) : List NameRule :=
  lines.foldl (fun rules line =>
    let isBlank (c : Char) : Bool := c = ' ' || ('\t' ≤ c && c ≤ '\r')
    let kept := (line.toList.reverse.dropWhile isBlank).reverse
    if kept.isEmpty then rules else addRule rules false (String.ofList kept)) rules

def nameEnds : List Char → List (List Char)
  | [] => []
  | '/' :: rest => if rest.head? = some '/' then nameEnds rest else rest :: nameEnds rest
  | _ :: rest => nameEnds rest

def NameRule.fits (rule : NameRule) (whole : Bool) (name : List Char) : Bool :=
  rule.pattern.any fun pattern =>
    matchesPattern pattern name || (!whole && (nameEnds name).any (matchesPattern pattern))

/-- Whether a name is left out. A name that is not to be matched as a whole can fit a rule from any
of its slashes on. -/
def leftOut (rules : List NameRule) (whole : Bool) (name : String) : Bool :=
  match rules.find? (·.fits whole name.toList), rules.getLast? with
  | some rule, _ => !rule.keeps
  | none, some first => first.keeps
  | none, none => false

end Programs

end PipeShell
