import InterfaceStub.CommandLine.Run
import InterfaceStub.CommandLine.Trees
import InterfaceStub.Files.Walk

/-!
# The program

Gathers the arguments, standard input and the files below the working directory and around the paths
among the arguments, runs the program on them, and writes what the run leaves behind.  The variable
`STUB_EXTRACTOR_TREES` names the file with the syntax trees of the sources, `STUB_EXTRACTOR_CONFIG`
the settings file.
-/

namespace InterfaceStub.CommandLine

/-- Adds a directory entry and what is below it to some files.  A link counts as the file that it
leads to. -/
partial def gather (files : FileSystem) (location : Location) (entry : IO.FS.DirEntry) :
    IO FileSystem := do
  let here := location ++ [.text entry.fileName]
  match (← entry.path.symlinkMetadata).type with
  | .dir =>
    let mut files := files.insert here .directory
    for inner in ← entry.path.readDir do
      files ← gather files here inner
    return files
  | .file | .symlink =>
    try
      return files.insert here (.file (.ofBytes (← IO.FS.readBinFile entry.path).toList))
    catch _ => return files
  | .other => return files

/-- Adds a directory, with what is above and below it, to some files. -/
def gatherBelow (files : FileSystem) (path : String) : IO FileSystem := do
  let names := (Text.split '/' path).filter (· ≠ "")
  let mut files := files
  for depth in List.range names.length do
    files := files.insert ((names.take (depth + 1)).map .text) .directory
  for entry in ← (← IO.FS.realPath path).readDir do
    files ← gather files (names.map .text) entry
  return files

/-- The files below the working directory and around the paths among some arguments. -/
def gatherAll (arguments : List String) : IO FileSystem := do
  let here := toString (← IO.currentDir)
  let mut files : FileSystem := { workingDirectory := (Text.split '/' here).filter (· ≠ "") }
  files ← gatherBelow files here
  for argument in arguments do
    let path ← IO.FS.realPath argument
    if ← path.pathExists then
      files ← gatherBelow files (toString (path.parent.getD path))
  return files

/-- The bytes of standard input after those so far. -/
partial def readInput (input : IO.FS.Stream) (sofar : ByteArray) : IO ByteArray := do
  let chunk ← input.read 65536
  if chunk.isEmpty then return sofar else readInput input (sofar ++ chunk)

/-- Writes the files that a run has changed. -/
def writeChanges (before after : FileSystem) : IO Unit := do
  for (location, entry) in after.entries do
    match entry, location.mapM RawText.text? with
    | .file (.text text), some names =>
      if before.get? location ≠ some entry then
        IO.FS.writeFile ("/" ++ String.intercalate "/" names) text
    | _, _ => pure ()

end InterfaceStub.CommandLine

open InterfaceStub InterfaceStub.CommandLine in
def main (arguments : List String) : IO UInt32 := do
  let trees ← match ← IO.getEnv "STUB_EXTRACTOR_TREES" with
    | some path => IO.FS.readFile path
    | none => pure ""
  let input ←
    if readsInput arguments then readInput (← IO.getStdin) ByteArray.empty
    else pure ByteArray.empty
  let invocation : Invocation :=
    { parser := some (Parser.ofLines trees)
      walker := Walker.standard
      arguments
      config := ← IO.getEnv "STUB_EXTRACTOR_CONFIG"
      input := .ofBytes input.toList
      files := ← gatherAll arguments }
  let outcome := invocation.run
  writeChanges invocation.files outcome.files
  IO.print outcome.output
  IO.eprint outcome.errorOutput
  return outcome.exitCode.toUInt32
