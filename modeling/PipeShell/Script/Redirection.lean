import PipeShell.Script.Engine

/-!
# Redirections of scripts

The targets of a command's redirections are worked out first, then they are opened one after the
other. What the descriptors stood for before comes back when the command is over.
-/

namespace PipeShell

namespace Script

inductive Redirecting where
  | opened (kind : RedirectKind) (name : String)
  | copied (source : Nat)
  | closed
  | text (word : Word)

abbrev Former := Nat × Option Stream

namespace Engine

variable (engine : Engine)

def copyTarget (text : String) : Act Redirecting := do
  match text.toList with
  | ['-'] => return .closed
  | [digit] =>
    if digit.isDigit then return .copied (digit.toNat - '0'.toNat)
    else Act.failToRead (← get).readLine "Bad fd number"
  | _ => Act.failToRead (← get).readLine "Bad fd number"

def workOut : Redirect → Act (Nat × Redirecting)
  | .document descriptor number => do
    return (descriptor, .text (((← get).documents.lookup number).getD []))
  | .file descriptor kind target => do
    let name ← Act.expandText engine.capture target
    if kind = .copy then return (descriptor, ← copyTarget name)
    return (descriptor, .opened kind name)

def openMessage (creates : Bool) (name : String) (failure : IoFailure) : String :=
  let reason :=
    match failure with
    | .system .ENOENT | .system .ENOTDIR =>
      if creates then "Directory nonexistent" else "No such file"
    | failure => failure.libraryText
  let verb := if creates then "create" else "open"
  s!"cannot {verb} {name}: {reason}"

def modeOf (kind : RedirectKind) (keep isRegular isThere : Bool) : Except IoFailure OpenMode :=
  match kind with
  | .input => .ok .read
  | .update => .ok .update
  | .append => .ok .append
  | .output =>
    if !keep then .ok .overwrite
    else if !isThere then .ok .create
    else if isRegular then .error (.system .EEXIST)
    else .ok .overwrite
  | _ => .ok .overwrite

def openFile (kind : RedirectKind) (name : String) : Act Nat := do
  let world ← Act.world
  let found := world.files.status world.process.directory (nameOf name)
  let isRegular :=
    match found with
    | .ok (_, .file _ _) => true
    | _ => false
  let keep ← Act.isOn "noclobber"
  match modeOf kind keep isRegular found.isOk >>= fun mode => world.openPath mode (nameOf name) with
  | .ok (opened, number) =>
    Act.changeWorld fun _ => opened
    return number
  | .error failure => Act.fail (openMessage (kind ≠ .input) name failure)

def openText (word : Word) : Act Nat := do
  let text ← Act.expandDocument engine.capture word
  match (← Act.world).openPipe with
  | .error _ => Act.fail "Pipe call failed"
  | .ok (opened, reader, writer) =>
    Act.changeWorld fun _ => ((opened.write writer (textBytes text)).1).close writer
    return reader

def apply : Nat × Redirecting → Act Unit
  | (descriptor, target) => do
    match target with
    | .opened kind name =>
      let number ← openFile kind name
      Act.changeWorld fun world => moveDescriptor world number descriptor
    | .text word =>
      let number ← openText engine word
      Act.changeWorld fun world => moveDescriptor world number descriptor
    | .closed => Act.changeWorld (·.close descriptor)
    | .copied source =>
      if source ≠ descriptor then
        if ((← Act.world).stream? source).isNone then Act.fail s!"{source}: Bad file descriptor"
        Act.changeWorld (·.mapDescriptors (·.duplicate source descriptor))

def formersOf (targets : List (Nat × Redirecting)) : Act (List Former) := do
  let world ← Act.world
  return targets.map fun target => (target.1, world.stream? target.1)

def restore (formers : List Former) : Act Unit :=
  Act.changeWorld fun world =>
    formers.foldl (fun world former =>
      match former.2 with
      | some stream => world.mapDescriptors (·.place former.1 stream)
      | none => world.close former.1) world

/-- Does something while the descriptors stand for their targets, and something else if these cannot
be opened. The descriptors come back unless they are kept. -/
def redirected {α : Type} (targets : List (Nat × Redirecting)) (keep : Bool) (failed body : Act α) :
    Act α := do
  let formers ← formersOf targets
  let opened : Act Bool := do
    targets.forM engine.apply
    return true
  let isOpen ← tryCatch opened fun stop => do
    restore formers
    if stop = .error then return false
    throw stop
  if !isOpen then failed
  else if keep then body
  else Act.thenAlways body (restore formers)

end Engine

end Script

end PipeShell
