import GuestMachine.Command.Launch
import GuestMachine.Command.Pack

/-!
# The command line

Two commands, `launch` and `pack`. The working directory is read into a file system, the command
runs on it, and what it changed is written back.
-/

namespace GuestMachine

/-- Reads a directory entry, and what is below it, into a file system. -/
partial def readEntry (parent : String) (files : FileSystem) (e : IO.FS.DirEntry) :
    IO FileSystem := do
  let path := parent ++ e.fileName
  if ← e.path.isDir then
    let files := (files.createDirectory path).toOption.getD files
    (← e.path.readDir).foldlM (readEntry (path ++ "/")) files
  else
    let data ← IO.FS.readBinFile e.path
    return (files.writeFile path data.toList).toOption.getD files

/-- Reads the working directory. -/
def readFiles : IO FileSystem := do
  (← (← IO.currentDir).readDir).foldlM (readEntry "") FileSystem.empty

/-- Writes back what differs between two listings: removals from the bottom up, then the rest
from the top down. -/
def writeFiles (old new : List (String × Option Bytes)) : IO Unit := do
  for (path, data) in old.reverse do
    let kept := new.any fun e => e.1 == path && e.2.isSome == data.isSome
    unless kept do
      if data.isSome then IO.FS.removeFile path else IO.FS.removeDir path
  for (path, data) in new do
    unless old.contains (path, data) do
      match data with
      | some bytes => IO.FS.writeBinFile path ⟨bytes.toArray⟩
      | none => IO.FS.createDir path

/-- Reads standard input to its end, in the chunks in which it comes. -/
partial def readInput (stdin : IO.FS.Stream) (chunks : List Bytes) : IO (List Bytes) := do
  let chunk ← stdin.read 4096
  if chunk.isEmpty then return chunks.reverse else readInput stdin (chunk.toList :: chunks)

/-- What surrounds a launch. -/
def readSurroundings : IO Launch.Surroundings := do
  let chunks ← readInput (← IO.getStdin) []
  return {
    seedVariable := ← IO.getEnv Launch.seedVariableName
    drawnSeed := Bytes.toWord (← IO.getRandomBytes 8).toList
    batches := chunks.map ([·]) }

/-- The number of ticks a process may take between two waits for input. -/
def tickLimit : Nat := 0x3FFFFFFFFFFFFFFF

/-- Runs a command on the working directory. -/
def perform (command : Host → Report) : IO UInt32 := do
  let files ← readFiles
  let report := command { files := files }
  (← IO.getStdout).write ⟨(report.host.output .stdout).toArray⟩
  (← IO.getStderr).write ⟨(report.host.output .stderr).toArray⟩
  writeFiles files.listing report.host.files.listing
  return (report.status.getD 1).toUInt32

end GuestMachine

open GuestMachine in
/-- Chooses the command by the first argument. -/
def main (args : List String) : IO UInt32 := do
  match args with
  | "launch" :: args =>
    let surroundings ← readSurroundings
    perform (Launch.run tickLimit "launch" args surroundings)
  | "pack" :: args => perform (Pack.run "pack" args)
  | _ =>
    (← IO.getStderr).putStr (Launch.usage "launch" ++ "\n" ++ Pack.usage "pack")
    return 1
