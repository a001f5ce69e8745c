import PipeShell.Script.Options
import PipeShell.Script.ProgramSearch

/-!
# Commands on the working directory and the file mode mask

The working directory is known by the path it was gone to, so `..` leads back the way one came.
-/

namespace PipeShell

namespace Script

namespace DirectoryCommands

def walkNames (done : List (List Char)) : List (List Char) → List (List Char)
  | [] => done.reverse
  | name :: rest =>
    if name = [] || name = ['.'] then walkNames done rest
    else if name = ['.', '.'] then walkNames (done.drop 1) rest
    else walkNames (name :: done) rest

/-- The path from a directory as it is written, if it is known where that is. Two slashes at the
beginning stay two. -/
def logicalPath? (directory path : String) : Option String :=
  let chars := path.toList
  let whole :=
    if chars.head? = some '/' then some chars
    else if directory = "" then none
    else if directory.toList.getLast? = some '/' then some (directory.toList ++ chars)
    else some (directory.toList ++ '/' :: chars)
  whole.map fun whole =>
    let slashes := (whole.takeWhile (· = '/')).length
    let names := walkNames [] (splitAtEach '/' whole)
    String.ofList
      ((if slashes = 2 then "//".toList else ['/']) ++ joinWith '/' names)

def systemPath : Act String := do
  match (← Act.world).currentDirectory with
  | .ok path => return octets path
  | .error failure =>
    Act.warn s!"getcwd() failed: {failure.libraryText}"
    return ""

def note (directory : String) : Act Unit := do
  modify fun state => { state with directory }
  Act.setVariable "PWD" (some directory) true

def enter (physical : Bool) (path : String) : Act Bool := do
  let state ← get
  let logical? := if physical then none else logicalPath? state.directory path
  let world := state.world
  match world.files.directoryAt world.process.directory (nameOf (logical?.getD path)) with
  | .error _ => return false
  | .ok place =>
    Act.changeWorld fun world => { world with process := { world.process with directory := place } }
    Act.setVariable "OLDPWD" (some state.directory) true
    match logical? with
    | some path => note path
    | none => note (← systemPath)
    modify fun state =>
      { state with
        remembered := state.remembered.map fun entry => { entry with stale := true } }
    return true

def isAnchored (path : String) : Bool :=
  match path.toList with
  | '/' :: _ | ['.'] | '.' :: '/' :: _ | ['.', '.'] | '.' :: '.' :: '/' :: _ => true
  | _ => false

def firstDirectory (world : World) : List (String × Bool) → Option (String × Bool)
  | [] => none
  | (path, shows) :: rest =>
    if (world.files.directoryAt world.process.directory (nameOf path)).isOk then
      some (path, shows)
    else firstDirectory world rest

def cd : Builtin := fun words => do
  let (options, operands) ← readOptions "LP" "" words
  let physical := options.getLast?.map (·.1) = some 'P'
  let state ← get
  let (target, announces) :=
    match operands.head? with
    | none => ((state.value? "HOME").getD "", false)
    | some "-" => ((state.value? "OLDPWD").getD "", true)
    | some target => (target, false)
  let (path, shows) :=
    if isAnchored target then (target, false)
    else
      let name := if target = "" then "." else target
      let search := (state.value? "CDPATH").getD ""
      let entries := splitAtEach ':' search.toList
      let paths := (candidatePaths search name).zip (entries.map (!·.isEmpty))
      (firstDirectory state.world paths).getD (target, false)
  if !(← enter physical path) then Act.fail s!"can't cd to {target}"
  if announces || shows then Act.print ((← get).directory ++ "\n")
  return 0

def pwd : Builtin := fun words => do
  let (options, _) ← readOptions "LP" "" words
  let physical := options.getLast?.map (·.1) = some 'P'
  if physical then Act.print ((← systemPath) ++ "\n")
  else Act.print ((← get).directory ++ "\n")
  return 0

/-! ## The mask -/

def octalText (mask : Nat) : String :=
  let digits := Nat.toDigits 8 mask
  String.ofList (List.replicate (4 - digits.length) '0' ++ digits)

def rightsText (mask shift : Nat) : String :=
  let left := 7 - mask / shift % 8
  String.ofList (("rwx".toList.zip [4, 2, 1]).filterMap fun right =>
    if left / right.2 % 2 = 1 then some right.1 else none)

def symbolicText (mask : Nat) : String :=
  let user := rightsText mask 64
  let group := rightsText mask 8
  let others := rightsText mask 1
  s!"u={user},g={group},o={others}"

def bitsFor (classes : List Char) (rights : Nat) : Nat :=
  let all := classes.isEmpty || classes.contains 'a'
  let part (name : Char) (shift : Nat) : Nat :=
    if all || classes.contains name then rights * shift else 0
  part 'u' 64 + part 'g' 8 + part 'o' 1

def rightBit? : Char → Option Nat
  | 'r' => some 4
  | 'w' => some 2
  | 'x' => some 1
  | _ => none

def applyClause (allowed : Nat) (clause : List Char) : Option Nat :=
  let classes := clause.takeWhile "ugoa".toList.contains
  match clause.drop classes.length with
  | sign :: letters => do
    let rights ← letters.mapM rightBit?
    let bits := bitsFor classes (rights.eraseDups.foldl (· + ·) 0)
    match sign with
    | '=' => some ((allowed &&& (0o777 - bitsFor classes 7)) ||| bits)
    | '+' => some (allowed ||| bits)
    | '-' => some (allowed &&& (0o777 - bits))
    | _ => none
  | [] => none

def umask : Builtin := fun words => do
  let (options, operands) ← readOptions "S" "" words
  match operands with
  | [] =>
    let mask := (← get).mask
    Act.print ((if options.isEmpty then octalText mask else symbolicText mask) ++ "\n")
  | text :: _ =>
    if (text.toList.head?.map Char.isDigit).getD false then
      if !text.toList.all isOctalDigit then Act.fail s!"Illegal number: {text}"
      modify fun state => { state with mask := digitsValue 8 text.toList % 0o1000 }
    else
      match (splitAtEach ',' text.toList).foldlM applyClause (0o777 - (← get).mask) with
      | some allowed => modify fun state => { state with mask := 0o777 - allowed }
      | none => Act.fail s!"Illegal mode: {text}"
  return 0

def ulimit : Builtin := fun words => do
  let (_, operands) ← readOptions "HSatfdscmlpnvwr" "" words
  if operands.isEmpty then Act.print "unlimited\n"
  return 0

end DirectoryCommands

end Script

end PipeShell
