/-!
# Names in messages

How programs show a name that the user gave them. `quoted` puts it between single quotes and writes
what cannot be printed with a backslash. `shellQuoted` writes it so that a shell reads it back, and
`shownName` does so only for a name that needs it.
-/

namespace PipeShell

def isPrintable (c : Char) : Bool := ' ' ≤ c && c ≤ '~'

def octalDigits (c : Char) : List Char :=
  [Nat.digitChar (c.toNat / 64), Nat.digitChar (c.toNat / 8 % 8), Nat.digitChar (c.toNat % 8)]

def escapeLetter? : Char → Option Char
  | '\x07' => some 'a'
  | '\x08' => some 'b'
  | '\x0C' => some 'f'
  | '\n' => some 'n'
  | '\r' => some 'r'
  | '\t' => some 't'
  | '\x0B' => some 'v'
  | _ => none

def escapeText (c : Char) : List Char :=
  match escapeLetter? c with
  | some letter => ['\\', letter]
  | none => '\\' :: octalDigits c

def escapeBetween (quote c : Char) : List Char :=
  if c = quote ∨ c = '\\' then ['\\', c]
  else if isPrintable c then [c]
  else escapeText c

def between (quote : Char) (text : String) : String :=
  String.ofList (quote :: text.toList.flatMap (escapeBetween quote) ++ [quote])

def quoted (text : String) : String := between '\'' text

def isSpecialToShell (c : Char) : Bool := " !\"$&()*;<=>?[\\]^\x60|'".toList.contains c && c ≠ ']'

def needsQuotes : List Char → Bool
  | [] => true
  | [c] => c = '\x7b' || c = '\x7d' || c = '#' || c = '~' || isSpecialToShell c || !isPrintable c
  | first :: rest =>
    first = '#' || first = '~' ||
      (first :: rest).any fun c => isSpecialToShell c || !isPrintable c

def isPlainInDouble (first : Bool) (c : Char) : Bool :=
  c = '\'' || c = ' ' || (isPrintable c && !isSpecialToShell c && c ≠ '\x7b' && c ≠ '\x7d' &&
    !(c = '#' || c = '~')) || (first && (c = '#' || c = '~'))

/-- The characters between single quotes; `open_` says whether an escape sequence is still open. -/
def singleQuoted (open_ : Bool) : List Char → List Char
  | [] => []
  | c :: rest =>
    if c = '\'' then
      "'\\''".toList ++ singleQuoted false rest
    else if isPrintable c then
      (if open_ then "''".toList else []) ++ c :: singleQuoted false rest
    else (if open_ then [] else "'$'".toList) ++ escapeText c ++ singleQuoted true rest

def shellQuoted (text : String) : String :=
  let chars := text.toList
  if chars.contains '\'' && chars.zipIdx.all fun item => isPlainInDouble (item.2 == 0) item.1 then
    between '"' text
  else String.ofList ('\'' :: singleQuoted false chars ++ ['\''])

def shownName (text : String) : String :=
  if needsQuotes text.toList then shellQuoted text else text

end PipeShell
