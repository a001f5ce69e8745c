import PipeShell.Programs.Cat
import PipeShell.Programs.Count
import PipeShell.Programs.Grep
import PipeShell.Programs.Head
import PipeShell.Programs.Printf
import PipeShell.Programs.Remove
import PipeShell.Programs.Shell
import PipeShell.Programs.Sort

/-!
# Starting a program

A file is run by the program that its first line names, and that file again by another one, up to
`interpreterLimit` levels. Scripts can start programs in turn.
-/

namespace PipeShell

def interpreterLimit : Nat := 5

def firstLineLimit : Nat := 256

def isGapByte (byte : UInt8) : Bool := byte = 32 || byte = 9

/-- The beginning of a file after its `#!`, up to where the first line ends. A line that was cut
counts only if the name of the interpreter is complete. -/
def interpreterText (rest : Bytes) : Except Errno Bytes :=
  match (rest.takeWhile (· ≠ 0)).findIdx? (· = 10) with
  | some length => .ok (rest.take length)
  | none =>
    if (rest.dropWhile isGapByte).any fun byte => isGapByte byte || byte = 0 then
      .ok rest.dropLast
    else .error .ENOEXEC

def interpreter (content : Bytes) : Except Errno (String × List String) := do
  let seen := content.take firstLineLimit
  match seen ++ List.replicate (firstLineLimit - seen.length) 0 with
  | 35 :: 33 :: rest =>
    let text ← interpreterText rest
    let line := (text.reverse.dropWhile isGapByte).reverse.dropWhile isGapByte
    if line.isEmpty then throw .ENOEXEC
    let name := line.takeWhile fun byte => !isGapByte byte && byte ≠ 0
    let argument :=
      match line.drop name.length with
      | [] => []
      | separator :: rest =>
        match if separator = 0 then [] else rest.dropWhile isGapByte with
        | [] => []
        | argument => [byteText (argument.takeWhile (· ≠ 0))]
    return (byteText name, argument)
  | _ => throw .ENOEXEC

def loadProgram (world : World) :
    Nat → String → List String → Except Errno (String × List String)
  | levels, path, arguments =>
    match world.files.status world.process.directory (nameOf path) with
    | .error (.system errno) => .error errno
    | .error (.message _) => .error .ENOENT
    | .ok (_, .program name) => .ok (name, arguments)
    | .ok (place, .file content permissions) =>
      if !permissions.execute then .error .EACCES
      else if world.isBusy place then .error .ETXTBSY
      else
        match interpreter content with
        | .error errno => .error errno
        | .ok (name, argument) =>
          match levels with
          | 0 => .error .ELOOP
          | levels + 1 =>
            loadProgram world levels name (name :: argument ++ path :: arguments.drop 1)
    | .ok _ => .error .EACCES

/-- How long one text can be that a program is started with, and all of them together with what
refers to them. -/
def textLimit : Nat := 0x1FFFF
def textsLimit : Nat := 0x200000

def Call.fits (call : Call) (path : String) : Bool :=
  let texts := call.arguments ++ call.environment.map fun pair => pair.1 ++ "=" ++ pair.2
  let size := (texts.map fun text => text.length + 9).foldl (· + ·) 0 + path.length + 1
  texts.all (·.length ≤ textLimit) && size ≤ textsLimit

namespace Programs

def names : List String :=
  ["cat", "false", "grep", "head", "printf", "rm", "sh", "sort", "true", "wc"]

def toolOf (launch : Launcher) (name : String) : Tool :=
  match name with
  | "cat" => cat
  | "grep" => grep
  | "head" => head
  | "printf" => printf
  | "rm" => rm
  | "sh" => sh launch
  | "sort" => sort
  | "true" => fun _ world => (world, .exited 0)
  | "wc" => wc
  | _ => fun _ world => (world, .exited 1)

def libraryOf (name : String) : String :=
  match name with
  | "grep" => "libpcre2-8.so.0"
  | "sort" => "libcrypto.so.3"
  | _ => "libc.so.6"

def isFull (world : World) : Bool :=
  world.descriptorLimit.any (· ≤ world.process.descriptors.lowestFree)

def failToLoad (world : World) (name : String) (arguments : List String) : World × Outcome :=
  let text := String.join [arguments.headD name, ": error while loading shared libraries: ",
    libraryOf name, ": cannot open shared object file: Error ", toString Errno.EMFILE.code, "\n"]
  ((world.write Descriptors.standardError (textBytes text)).1, .exited 127)

def launchAt : Nat → Launcher
  | 0 => fun _ _ _ => .error .EAGAIN
  | depth + 1 => fun world path call =>
    if !call.fits path then .error .E2BIG
    else
      match loadProgram world interpreterLimit path call.arguments with
      | .error errno => .error errno
      | .ok (name, arguments) =>
        if isFull world then .ok (failToLoad world name arguments)
        else .ok (toolOf (launchAt depth) name { call with arguments } world)

def scriptDepth : Nat := 100

def launch : Launcher := launchAt scriptDepth

end Programs

end PipeShell
