import PipeShell.Programs.Call
import PipeShell.Text.Pattern

/-!
# Patterns for paths

A pattern for a path is followed name by name through the directories there are. Names that begin
with a point are found only by patterns that do.
-/

namespace PipeShell

namespace Script

def plainText (pattern : List Marked) : List Char := pattern.map (·.1)

def entryNames (world : World) (directory : String) : List String :=
  match world.files.directoryAt world.process.directory (nameOf directory) with
  | .error _ => []
  | .ok place => [".", ".."] ++ (world.files.names place).map octets

def isThere (world : World) (path : String) : Bool :=
  match world.files.locate world.process.directory .entry (nameOf path) with
  | .ok (.node _ _) => true
  | _ => false

def matchingNames (world : World) (directory : String) (pattern : List Marked) : List String :=
  let items := patternItems pattern
  let dotted := pattern.head?.any (·.1 = '.')
  (entryNames world directory).filter fun name =>
    (dotted || name.toList.head? ≠ some '.') && matchesItems items name.toList

def pathsFrom (world : World) : Nat → String → List Marked → List String
  | 0, _, _ => []
  | fuel + 1, start, pattern =>
    let slashes := pattern.takeWhile (·.1 = '/')
    let rest := pattern.drop slashes.length
    let start := start ++ String.ofList (plainText slashes)
    let name := rest.takeWhile (·.1 ≠ '/')
    let after := rest.drop name.length
    if isWild name then
      let found := matchingNames world (if start = "" then "." else start) name
      if after.isEmpty then found.map (start ++ ·)
      else found.flatMap fun name => pathsFrom world fuel (start ++ name) after
    else
      let path := start ++ String.ofList (plainText name)
      if after.isEmpty then (if isThere world path then [path] else [])
      else pathsFrom world fuel path after

def pathsOf (world : World) (pattern : List Marked) : List String :=
  let own := String.ofList (plainText pattern)
  if !isWild pattern then [own]
  else
    let found := pathsFrom world (pattern.length + 1) "" pattern
    if found.isEmpty then [own] else found.mergeSort fun left right => left ≤ right

end Script

end PipeShell
