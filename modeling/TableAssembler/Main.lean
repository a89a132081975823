import TableAssembler.Command.Run

/-!
# The program

The outer layer of the command: it looks at the places on the disk that the arguments name, runs
the command on what it found, and carries the outcome out.  The command is told that everything it
writes is taken; where that is not so, the runtime ends the program.
-/

namespace TableAssembler
namespace Main

/-- A directory that also knows what the disk holds at a place. -/
def visit (directory : Directory) (place : List (List Char)) : IO Directory := do
  let path := Directory.join place
  if place.all (· == Directory.up) then return directory
  try
    let found ← IO.FS.realPath (if path.isEmpty then "/" else path)
    if ← found.isDir then return { directory with folders := path :: directory.folders }
    let bytes ← IO.FS.readBinFile found
    return directory.put path bytes.toList
  catch _ => return directory

/-- Shows a report. -/
def report (entry : Log.Entry) : IO Unit :=
  let fields := entry.fields.map fun (name, value) => " " ++ name ++ "=" ++ value
  IO.eprintln (entry.level.name ++ ": " ++ entry.message ++ String.join fields)

/-- Tells why a run failed; the result is the status that the program ends with. -/
def complain : Command.Failure → IO UInt32
  | .assembly (.panicked panic) => do
      IO.eprintln ("panic: " ++ panic.message)
      return 2
  | failure => do
      IO.eprintln failure.message
      return 1

/-- Runs the command on the disk; the result is the status that the program ends with. -/
def run (arguments : List String) : IO UInt32 := do
  let places := (Command.paths arguments).flatMap Directory.stations
  let directory ← places.foldlM visit { files := [] }
  let (_, outcome) := Command.run {} { directory } arguments
  outcome.entries.forM report
  for (path, bytes) in outcome.directory.since directory do
    IO.FS.writeBinFile path ⟨bytes.toArray⟩
  (← IO.getStdout).write ⟨outcome.stdout.toArray⟩
  match outcome.failure? with
  | none => return 0
  | some failure => complain failure

end Main
end TableAssembler

/-- The command line of the assembler. -/
def main (arguments : List String) : IO UInt32 := TableAssembler.Main.run arguments
