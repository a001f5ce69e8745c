import PipeShell.Text.Utf8

/-!
# The order of version numbers

Names with numbers in them are compared piece by piece: the rows of digits as numbers, what stands
between them byte by byte. A file extension counts only if all before it is equal.
-/

namespace PipeShell

def isDigitByte (byte : UInt8) : Bool := 48 ≤ byte && byte ≤ 57

def isLetterByte (byte : UInt8) : Bool := (65 ≤ byte && byte ≤ 90) || (97 ≤ byte && byte ≤ 122)

inductive VersionPiece where
  | number (value : Nat)
  | byte (byte : UInt8)
  deriving DecidableEq, Repr

def versionPieces (number : Option Nat) : Bytes → List VersionPiece
  | [] => (number.map VersionPiece.number).toList
  | byte :: rest =>
    if isDigitByte byte then versionPieces (some (number.getD 0 * 10 + (byte.toNat - 48))) rest
    else (number.map VersionPiece.number).toList ++ .byte byte :: versionPieces none rest

/-- Where a byte stands among those that are no digits: a tilde before all, the end of a name and
numbers being -1 and 0, then letters, then the rest. -/
def versionRank (byte : UInt8) : Int :=
  if byte = 126 then -2 else if isLetterByte byte then byte.toNat else byte.toNat + 256

def comparePieces : List VersionPiece → List VersionPiece → Ordering
  | [], [] => .eq
  | .number left :: lefts, .number right :: rights =>
    (compare left right).then (comparePieces lefts rights)
  | .number left :: lefts, [] => (compare left 0).then (comparePieces lefts [])
  | [], .number right :: rights => (compare 0 right).then (comparePieces [] rights)
  | .byte left :: lefts, .byte right :: rights =>
    (compare (versionRank left) (versionRank right)).then (comparePieces lefts rights)
  | .byte left :: _, .number _ :: _ => compare (versionRank left) 0
  | .number _ :: _, .byte right :: _ => compare 0 (versionRank right)
  | .byte left :: _, [] => compare (versionRank left) (-1)
  | [], .byte right :: _ => compare (-1) (versionRank right)

def compareText (left right : Bytes) : Ordering :=
  comparePieces (versionPieces none left) (versionPieces none right)

def isExtensionByte (byte : UInt8) : Bool :=
  isLetterByte byte || isDigitByte byte || byte == 126

/-- The length of the extensions at the end of a name, read backwards: `begun` counts the bytes
since the last one ended, `whole` those of the extensions found. -/
def extensionLength (begun whole : Nat) (first : Option UInt8) : Bytes → Nat
  | [] => whole
  | byte :: before =>
    if byte = 46 then
      if first.any (fun byte => isLetterByte byte || byte == 126) && !before.isEmpty then
        extensionLength (begun + 1) (begun + 1) none before
      else whole
    else if isExtensionByte byte then extensionLength (begun + 1) whole (some byte) before
    else whole

def withoutExtensions (name : Bytes) : Bytes :=
  name.take (name.length - extensionLength 0 0 none name.reverse)

def dotRank (name : Bytes) : Nat :=
  match name with
  | [] => 0
  | [46] => 1
  | [46, 46] => 2
  | 46 :: _ => 3
  | _ => 4

def compareVersions (left right : Bytes) : Ordering :=
  (compare (dotRank left) (dotRank right)).then
    ((compareText (withoutExtensions left) (withoutExtensions right)).then
      (compareText left right))

end PipeShell
