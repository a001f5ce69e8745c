/-!
# Ranges of characters

A property of characters is given by the ranges of code points that have it.
-/

namespace PipeShell

abbrev CodeRange := Nat × Nat

def inRanges (ranges : List CodeRange) (c : Char) : Bool :=
  ranges.any fun range => range.1 ≤ c.toNat && c.toNat ≤ range.2

end PipeShell
