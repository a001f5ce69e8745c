/-!
# Text as bytes

Text is written as UTF-8. Reading goes octet by octet: every maximal ill-formed piece of the
input is one gap, so a reader can refuse the text (`readUtf8?`) or repair it (`repairUtf8`).
-/

namespace PipeShell

abbrev Bytes := List UInt8

def utf8 (text : List Char) : Bytes :=
  text.flatMap String.utf8EncodeChar

def encode (text : String) : Bytes :=
  utf8 text.toList

/-- A character begun but not ended: the continuation octets still owed, the range of the next
one, and the value so far. -/
structure Begun where
  owed : Nat
  low : UInt8
  high : UInt8
  value : Nat

inductive Lead where
  | whole (c : Char)
  | begun (state : Begun)
  | refused

def lead (octet : UInt8) : Lead :=
  if octet ≤ 0x7F then .whole (Char.ofNat octet.toNat)
  else if 0xC2 ≤ octet && octet ≤ 0xDF then .begun ⟨0, 0x80, 0xBF, octet.toNat - 0xC0⟩
  else if octet == 0xE0 then .begun ⟨1, 0xA0, 0xBF, 0⟩
  else if octet == 0xED then .begun ⟨1, 0x80, 0x9F, octet.toNat - 0xE0⟩
  else if 0xE1 ≤ octet && octet ≤ 0xEF then .begun ⟨1, 0x80, 0xBF, octet.toNat - 0xE0⟩
  else if octet == 0xF0 then .begun ⟨2, 0x90, 0xBF, 0⟩
  else if octet == 0xF4 then .begun ⟨2, 0x80, 0x8F, octet.toNat - 0xF0⟩
  else if 0xF1 ≤ octet && octet ≤ 0xF3 then .begun ⟨2, 0x80, 0xBF, octet.toNat - 0xF0⟩
  else .refused

/-- The pieces of a byte string: its characters, and `none` for each maximal ill-formed piece.
An octet that cannot continue the character begun ends that piece and is read afresh. -/
def utf8Pieces : Option Begun → Bytes → List (Option Char)
  | none, [] => []
  | some _, [] => [none]
  | none, octet :: rest =>
    match lead octet with
    | .whole c => some c :: utf8Pieces none rest
    | .begun state => utf8Pieces (some state) rest
    | .refused => none :: utf8Pieces none rest
  | some state, octet :: rest =>
    if state.low ≤ octet && octet ≤ state.high then
      let value := state.value * 64 + (octet.toNat - 0x80)
      match state.owed with
      | 0 => some (Char.ofNat value) :: utf8Pieces none rest
      | owed + 1 => utf8Pieces (some ⟨owed, 0x80, 0xBF, value⟩) rest
    else
      match lead octet with
      | .whole c => none :: some c :: utf8Pieces none rest
      | .begun next => none :: utf8Pieces (some next) rest
      | .refused => none :: none :: utf8Pieces none rest

def readUtf8? (bytes : Bytes) : Option (List Char) :=
  (utf8Pieces none bytes).mapM id

def repairUtf8 (bytes : Bytes) : List Char :=
  (utf8Pieces none bytes).map (·.getD '\uFFFD')

def decode? (bytes : Bytes) : Option String :=
  (readUtf8? bytes).map String.ofList

def repair (bytes : Bytes) : String :=
  String.ofList (repairUtf8 bytes)

end PipeShell
