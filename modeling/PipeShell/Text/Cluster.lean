import PipeShell.Text.BreakClass

/-!
# Clusters

A cluster is what a reader takes for one character: a letter with its marks, a flag, a family of
pictographs. A text is cut into clusters between any two characters that do not join, and nothing of
it is lost (`flatten_clusters`).
-/

namespace PipeShell

inductive Conjunct where
  | none
  | open
  | linked
  deriving DecidableEq, Repr

/-- What a text ends with, as far as it decides whether the next character joins: the class of the
last character, whether an odd number of flag letters stands at the end, whether a pictograph with
its marks does, and a conjunct that has begun. -/
structure ClusterState where
  last : BreakClass
  oddFlags : Bool
  pictograph : Bool
  conjunct : Conjunct
  deriving DecidableEq, Repr

namespace ClusterState

def joins (state : ClusterState) (next : BreakClass) : Bool :=
  match state.last, next with
  | .carriageReturn, .lineFeed => true
  | .carriageReturn, _ | .lineFeed, _ | .control, _ => false
  | _, .carriageReturn | _, .lineFeed | _, .control => false
  | .leading, .leading | .leading, .vowel | .leading, .leadingVowel | .leading, .syllable => true
  | .leadingVowel, .vowel | .leadingVowel, .trailing | .vowel, .vowel | .vowel, .trailing => true
  | .syllable, .trailing | .trailing, .trailing => true
  | _, .extend | _, .joiner | _, .spacing => true
  | .prepend, _ => true
  | _, .consonant => state.conjunct = .linked
  | .joiner, .pictograph => state.pictograph
  | .flag, .flag => state.oddFlags
  | _, _ => false

def nextConjunct (state : ClusterState) (c : Char) : BreakClass → Conjunct
  | .consonant => .open
  | .joiner => state.conjunct
  | .extend =>
    if state.conjunct = .none then .none
    else if BreakClass.isLinker c then .linked
    else if c.toNat = 0x200C then .none
    else state.conjunct
  | _ => .none

def push (state : ClusterState) (c : Char) (next : BreakClass) : ClusterState :=
  { last := next
    oddFlags := next = .flag && !(state.last = .flag && state.oddFlags)
    pictograph :=
      next = .pictograph ||
        (next = .extend || next = .joiner) && state.pictograph && state.last ≠ .joiner
    conjunct := state.nextConjunct c next }

end ClusterState

def ClusterState.start : ClusterState := ⟨.control, false, false, .none⟩

/-- The clusters of a text that goes on from the state: the characters that still belong to the
cluster before it, and the clusters after that. -/
def clustersFrom (state : ClusterState) : List Char → List Char × List (List Char)
  | [] => ([], [])
  | c :: rest =>
    let class_ := BreakClass.ofChar c
    let (tail, clusters) := clustersFrom (state.push c class_) rest
    if state.joins class_ then (c :: tail, clusters) else ([], (c :: tail) :: clusters)

def clusters (text : List Char) : List (List Char) :=
  (clustersFrom .start text).2

end PipeShell
