/-!
# White space

The characters that separate words: those with the Unicode property White_Space.
-/

namespace PipeShell

/-- The 25 characters of the Unicode property White_Space. -/
def isBlank (c : Char) : Bool :=
  (0x09 ≤ c.toNat && c.toNat ≤ 0x0D) || c.toNat == 0x20 || c.toNat == 0x85 ||
    c.toNat == 0xA0 || c.toNat == 0x1680 || (0x2000 ≤ c.toNat && c.toNat ≤ 0x200A) ||
    c.toNat == 0x2028 || c.toNat == 0x2029 || c.toNat == 0x202F || c.toNat == 0x205F ||
    c.toNat == 0x3000

def trimBlankEnd (text : List Char) : List Char :=
  (text.reverse.dropWhile isBlank).reverse

def trimBlank (text : List Char) : List Char :=
  trimBlankEnd (text.dropWhile isBlank)

end PipeShell
