import EventPackets.CommandLine.Invocation

/-!
# The program

Runs the program on the real files: it looks up what its paths lead to, runs on that, and stores
the files that have changed.

## Main definitions

* `main` : the program.
-/

namespace EventPackets.Program

open CommandLine

/-- The paths that a command uses. -/
def paths : Command → List String
  | .inspect input => [input]
  | .dump input output _ imu9 _ => [input, output] ++ imu9.toList
  | .synth output .. => [output]

/-- The path that leads to a place. -/
def pathOf (p : Place) : String :=
  "/" ++ "/".intercalate p

/-- Adds to a storage what is really at a place. -/
def look (s : Storage) (p : Place) : IO Storage := do
  if s.hasFolder p || (s.file? p).isSome then
    return s
  try
    let content ← IO.FS.readBinFile (pathOf p)
    return { s with files := (p, content.data) :: s.files }
  catch e =>
    match e with
    | .noFileOrDirectory .. => return s
    | .inappropriateType .. => return { s with folders := p :: s.folders }
    | .illegalOperation .. => return { s with folders := p :: s.folders }
    | _ => return s

/-- Adds to a storage what is really on the way along names from a place. -/
def explore (s : Storage) (here : Place) : List String → IO Storage
  | [] => return s
  | name :: names => do
    let next := Storage.step here name
    explore (← look s next) next names

/-- The part of the real storage that a command uses. -/
def snapshot (c : Command) (s : Storage) : IO Storage :=
  (paths c).foldlM (fun s path => explore s (s.start path) (Storage.pathNames path)) s

/-- Stores the files that have changed. -/
def store (before after : Storage) : IO Unit :=
  (after.changes before).forM fun f => IO.FS.writeBinFile (pathOf f.1) ⟨f.2⟩

end EventPackets.Program

open EventPackets EventPackets.CommandLine EventPackets.Program in
/-- Runs the program with its arguments; the result is the exit code. -/
def main (args : List String) : IO UInt32 := do
  let home := Storage.pathNames (toString (← IO.currentDir))
  let empty := Storage.ofFiles home []
  let before ←
    match Request.ofArguments args with
    | .run i => snapshot i.command empty
    | _ => pure empty
  let outcome := EventPackets.CommandLine.run args before
  store before outcome.storage
  IO.print outcome.stdout
  IO.eprint outcome.stderr
  return UInt32.ofNat outcome.exitCode
