import PipeShell.Text.Utf8

/-!
# One character for each byte

Programs treat text as a row of bytes. Such a row is kept as a string whose characters are the bytes
(`byteText`), so that the functions on strings count and compare bytes.
-/

namespace PipeShell

/-- The text that has one character for each byte. -/
def byteText (bytes : Bytes) : String :=
  String.ofList (bytes.map fun byte => Char.ofNat byte.toNat)

def textBytes (text : String) : Bytes :=
  text.toList.map fun c => UInt8.ofNat c.toNat

def octets (text : String) : String := byteText (encode text)

def nameOf (text : String) : String := repair (textBytes text)

end PipeShell
