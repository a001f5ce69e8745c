import PipeShell.Redirect

/-!
# The pipes of a pipeline

All pipes are made before the first stage starts: one between any two stages, and one for each
here-document. Each stage takes the ends it needs and lets go of the others.
-/

namespace PipeShell

/-- The pipes of a pipeline, as numbers to read from and to write to: one between any two stages
and one for each here-document, by stage. -/
structure Plumbing where
  pipes : List (Nat × Nat) := []
  heredocs : List (List HeredocPipe) := []
  deriving DecidableEq, Repr

def noPipe (errno : Errno) : ShellError := .system "pipe" errno

def openPipes (world : World) : Nat → Except Errno (World × List (Nat × Nat))
  | 0 => .ok (world, [])
  | count + 1 => do
    let (world, pipe) ← world.openPipe
    let (world, rest) ← openPipes world count
    return (world, pipe :: rest)

def openBodies (world : World) : List String → Except Errno (World × List HeredocPipe)
  | [] => .ok (world, [])
  | body :: bodies => do
    let (world, reader, writer) ← world.openPipe
    let (world, rest) ← openBodies world bodies
    return (world, ⟨reader, writer, body⟩ :: rest)

def openHeredocs (world : World) :
    List (List String) → Except Errno (World × List (List HeredocPipe))
  | [] => .ok (world, [])
  | bodies :: stages => do
    let (world, stage) ← openBodies world bodies
    let (world, rest) ← openHeredocs world stages
    return (world, stage :: rest)

namespace Plumbing

def lay (world : World) (stages : Nat) (bodies : List (List String)) :
    Except ShellError (World × Plumbing) :=
  let laid := do
    let (world, pipes) ← openPipes world (stages - 1)
    let (world, heredocs) ← openHeredocs world bodies
    return (world, { pipes, heredocs : Plumbing })
  laid.mapError noPipe

def numbers (plumbing : Plumbing) : List Nat :=
  plumbing.pipes.flatMap (fun pipe => [pipe.1, pipe.2]) ++
    plumbing.heredocs.flatten.flatMap fun pipe => [pipe.reader, pipe.writer]

def connect (plumbing : Plumbing) (index : Nat) (world : World) : World :=
  let world :=
    match index with
    | 0 => world
    | before + 1 =>
      match plumbing.pipes[before]? with
      | some (reader, _) => world.duplicate reader Descriptors.standardInput
      | none => world
  match plumbing.pipes[index]? with
  | some (_, writer) => world.duplicate writer Descriptors.standardOutput
  | none => world

/-- Makes a stage ready in its own process: pipes first, then the redirections, which win; then the
pipes are known by their standard numbers only. -/
def wireStage (plumbing : Plumbing) (index : Nat) (command : Command) (world : World) :
    World × Except ShellError Unit :=
  let connected := plumbing.connect index world
  match applyRedirections connected command.redirections (plumbing.heredocs.getD index []) with
  | (world, .error error) => (world, .error error)
  | (world, .ok ()) => (world.mapDescriptors (·.closeAll plumbing.numbers), .ok ())

def sendBody (world : World) (pipe : HeredocPipe) : World :=
  (((world.close pipe.reader).write pipe.writer (encode pipe.body)).1).close pipe.writer

def finish (plumbing : Plumbing) (world : World) : World :=
  plumbing.heredocs.flatten.foldl sendBody
    (world.mapDescriptors (·.closeAll (plumbing.pipes.flatMap fun pipe => [pipe.1, pipe.2])))

end Plumbing

end PipeShell
