import PipeShell.Text.Cluster
import PipeShell.Text.Utf8

/-!
# Backspaces in a line

A line that is typed without an editor is taken as it is, except that each backspace takes back the
cluster before it. The length of a cluster is kept in one byte, so of a cluster that is longer only
the low eight bits of its length count.
-/

namespace PipeShell

def dropLastBytes (text : List Char) (count : Nat) : List Char :=
  text.reverse |> dropBytes count |>.reverse
where
  dropBytes : Nat → List Char → List Char
    | 0, rest => rest
    | _, [] => []
    | count + 1, c :: rest => dropBytes (count + 1 - c.utf8Size) rest

structure Typed where
  text : List Char := []
  lengths : List Nat := []
  deriving DecidableEq, Repr

def Typed.push (typed : Typed) (cluster : List Char) : Typed :=
  if cluster = ['\x08'] then
    match typed.lengths with
    | [] => typed
    | length :: lengths => ⟨dropLastBytes typed.text length, lengths⟩
  else ⟨typed.text ++ cluster, (utf8 cluster).length % 256 :: typed.lengths⟩

def applyBackspaces (line : List Char) : List Char :=
  if line.contains '\x08' then ((clusters line).foldl Typed.push {}).text else line

end PipeShell
