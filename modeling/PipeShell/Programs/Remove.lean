import PipeShell.Programs.Call

/-!
# Removing files

`rm` removes its operands. Directories are removed only on demand, their contents first; before each
step it can ask, and takes any answer but one that begins with a `y` for a no.
-/

namespace PipeShell

namespace Programs

inductive Asking where
  | never
  | once
  | sometimes
  | always
  deriving DecidableEq, Repr

structure RemoveForm where
  recursive : Bool := false
  directories : Bool := false
  force : Bool := false
  verbose : Bool := false
  preserveRoot : Bool := true
  asking : Asking := .sometimes
  deriving DecidableEq, Repr

def askingWords : List (String × Asking) :=
  [("never", .never), ("no", .never), ("none", .never), ("once", .once), ("always", .always),
    ("yes", .always)]

def badAsking (kind argument : String) : String :=
  s!"{kind} argument {quoted argument} for '--interactive'\nValid arguments are:\n" ++
    "  - 'never', 'no', 'none'\n  - 'once'\n  - 'always', 'yes'"

def Asking.ofName (name : String) : Except String Asking :=
  if name = "" then .ok .always
  else
    match askingWords.lookup name with
    | some asking => .ok asking
    | none =>
      match (askingWords.filter fun word => name.toList.isPrefixOf word.1.toList).map (·.2) with
      | [] => .error (badAsking "invalid" name)
      | first :: more =>
        if more.all (· == first) then .ok first else .error (badAsking "ambiguous" name)

def RemoveForm.add (form : RemoveForm) (option : String × String) : Except String RemoveForm :=
  match option.1 with
  | "r" | "R" => .ok { form with recursive := true }
  | "d" => .ok { form with directories := true }
  | "f" => .ok { form with force := true, asking := .never }
  | "i" => .ok { form with force := false, asking := .always }
  | "I" => .ok { form with force := false, asking := .once }
  | "v" => .ok { form with verbose := true }
  | "interactive" => do
    let asking ← Asking.ofName option.2
    return { form with asking, force := form.force && asking = .never }
  | "no-preserve-root" => .ok { form with preserveRoot := false }
  | _ => .ok form

def removeForms : List OptionForm :=
  [flag 'd' "dir", flag 'f' "force", flag 'i' "", flag 'I' "", flag 'r' "recursive",
    flag 'R' "", flag 'v' "verbose", longOptional "interactive", longFlag "one-file-system",
    longFlag "no-preserve-root", longOptional "preserve-root", longFlag "-presume-input-tty"]

def askYes : Work Bool := do
  match (← Work.world).stream? Descriptors.standardInput with
  | none => return false
  | some stream =>
    match (← Work.world).readable 0 stream with
    | .error _ => return false
    | .ok content =>
      let line := content.takeWhile (· ≠ 10)
      Work.change (·.advance stream (min content.length (line.length + 1)))
      return line.head? = some 121 || line.head? = some 89

def ask (question : String) : Work Bool := do
  Work.printError s!"{(← get).self}: {question}? "
  askYes

def Node.kind : Node → String
  | .directory => "directory"
  | .file content _ => if content.isEmpty then "regular empty file" else "regular file"
  | .link _ => "symbolic link"
  | .device _ => "character special file"
  | .program _ => "regular file"

def Node.isProtected : Node → Bool
  | .file _ permissions => !permissions.write
  | .program _ => true
  | _ => false

def agrees (form : RemoveForm) (path : String) (node : Node) : Work Bool := do
  if form.asking ≠ .always then return true
  let guard := if Node.isProtected node && !form.force then "write-protected " else ""
  ask s!"remove {guard}{Node.kind node} {shellQuoted path}"

def cannotRemove (path : String) (errno : Errno) : Work Bool := do
  Work.complain s!"cannot remove {shellQuoted path}: {errno.libraryText}"
  return false

def excise (form : RemoveForm) (path : String) (place : Place) (isDirectory : Bool) :
    Work Bool := do
  Work.change (·.unlink place)
  if form.verbose then
    let kind := if isDirectory then "directory " else ""
    Work.print s!"removed {kind}{shellQuoted path}\n"
  return true

def endsInLink (world : World) (path : String) : Bool :=
  -- A name without the slash at its end cannot be taken for a link to a directory.
  let bare := String.ofList (path.toList.reverse.dropWhile (· = '/')).reverse
  path.toList.getLast? = some '/' &&
    match world.files.locate world.process.directory .entry (nameOf bare) with
    | .ok (.node _ (.link _)) => true
    | _ => false

/-- Removes a directory and all in it, down to `depth` levels. The result says whether nothing of
what was to go has stayed because of a failure. -/
def removeTree (form : RemoveForm) : Nat → String → Place → Work Bool
  | 0, _, _ => return false
  | depth + 1, path, place => do
    let names := (← Work.world).files.names place
    if names.isEmpty then
      if form.asking = .always then
        if !(← ask s!"remove directory {shellQuoted path}") then return true
      if endsInLink (← Work.world) path then return ← cannotRemove path .ENOTDIR
      excise form path place true
    else
      if form.asking = .always then
        if !(← ask s!"descend into directory {shellQuoted path}") then return true
      let removed ← names.mapM fun name => do
        let inner := place ++ [name]
        let innerPath := octets (joinPath (nameOf path) name)
        match (← Work.world).files.node? inner with
        | none => return true
        | some .directory => removeTree form depth innerPath inner
        | some node =>
          if ← agrees form innerPath node then excise form innerPath inner false else return true
      if !removed.all id then return false
      if form.asking = .always then
        if !(← ask s!"remove directory {shellQuoted path}") then return true
      if endsInLink (← Work.world) path then cannotRemove path .ENOTDIR
      else if !((← Work.world).files.names place).isEmpty then cannotRemove path .ENOTEMPTY
      else excise form path place true

def lastNameOf (path : String) : String :=
  let bare := path.toList.reverse.dropWhile (· = '/')
  String.ofList (bare.takeWhile (· ≠ '/')).reverse

def removeDirectory (form : RemoveForm) (path : String) (place : Place) : Work Bool := do
  let world ← Work.world
  let empty := (world.files.names place).isEmpty
  if !form.recursive && !(form.directories && empty) then
    cannotRemove path (if form.directories then .ENOTEMPTY else .EISDIR)
  else if lastNameOf path = "." ∨ lastNameOf path = ".." then
    Work.complain s!"refusing to remove '.' or '..' directory: skipping {shellQuoted path}"
    return false
  else if form.preserveRoot && place.isEmpty then
    Work.complain (if path = "/" then "it is dangerous to operate recursively on '/'"
      else s!"it is dangerous to operate recursively on {shellQuoted path} (same as '/')")
    Work.complain "use --no-preserve-root to override this failsafe"
    return false
  else removeTree form (world.files.entries.length + 1) path place

def removeOne (form : RemoveForm) (path : String) : Work Bool := do
  let world ← Work.world
  let missing (errno : Errno) : Work Bool :=
    if form.force && (errno = .ENOENT || errno = .ENOTDIR) then return true
    else cannotRemove path errno
  match world.files.locate world.process.directory .entry (nameOf path) with
  | .error (.system errno) => missing errno
  | .error (.message _) => missing .ENOENT
  | .ok (.missing _ _) => missing .ENOENT
  | .ok (.node place .directory) => removeDirectory form path place
  | .ok (.node place node) =>
    if ← agrees form path node then excise form path place false else return true

def agreesAtOnce (form : RemoveForm) (operands : List String) : Work Bool := do
  let count := operands.length
  if form.asking = .once ∧ (form.recursive ∨ 3 < count) then
    let things := if count = 1 then "argument" else "arguments"
    let manner := if form.recursive then " recursively" else ""
    ask s!"remove {count} {things}{manner}"
  else return true

def rm : Tool := toolOfWork fun words => do
  let read := readOptions removeForms words
  match read.options.foldlM RemoveForm.add {} with
  | .error text =>
    Work.misused text
    return 1
  | .ok form =>
    match read.fault with
    | some text =>
      Work.misused text
      return 1
    | none =>
      if read.operands.isEmpty then
        if form.force then return 0
        Work.misused "missing operand"
        return 1
      if !(← agreesAtOnce form read.operands) then return ← Work.finish 0 1
      let removed ← read.operands.mapM (removeOne form)
      Work.finish (if removed.all id then 0 else 1) 1

end Programs

end PipeShell
