/-
The program: it takes a picture of the files a command may want, runs the command on it, and writes
the files that came out different. The picture holds the working directory and every directory that
an argument names, with the layout files of the directories above them.
-/
import TextTemplate.CommandLine.Commands

namespace TextTemplate.Program

/-- The bytes of a string. -/
def bytes (s : String) : Text := s.toUTF8.toList

/-- The string of a text; bytes that are not UTF-8 are replaced. -/
def string (t : Text) : String := (String.fromUTF8? ⟨t.sanitize.toArray⟩).getD ""

/-- Adds what is in a directory. -/
partial def addTree (dir : Text) (files : Files) : IO Files := do
  let path ← IO.FS.realPath (string dir)
  let mut files := files.addDirectories (Files.way dir)
  for entry in ← path.readDir do
    let name := Path.join [dir, bytes entry.fileName]
    if ← entry.path.isDir then
      files ← addTree name files
    else
      try
        files := files.put name (← IO.FS.readBinFile entry.path).toList
      catch _ => pure ()
  return files

/-- Adds a file if it can be read. -/
def addFile (name : Text) (files : Files) : IO Files := do
  try
    return files.put name (← IO.FS.readBinFile (string name)).toList
  catch _ => return files

/-- The directory a name leads to, or the one it is in. -/
def directoryOf (workDir name : Text) : IO Text := do
  let path := Path.abs workDir name
  let isDir ← try (← IO.FS.realPath (string path)).isDir catch _ => pure false
  return if isDir then path else Path.dir path

/-- Adds a directory and the layout files above it. -/
def addDirectory (files : Files) (dir : Text) : IO Files := do
  let mut files := files
  for above in utf8 "/" :: Files.way dir do
    files ← addFile (Path.join [above, EditorConfig.fileName]) files
  if dir = utf8 "/" then return files
  try addTree dir files catch _ => return files

/-- What an argument may name: itself, the value in it, or the value behind its letter. -/
def namesIn (argument : Text) : List Text :=
  if argument.head? = some 0x2D then
    match Text.cut? 0x3D argument with
    | some (_, value) => [value]
    | none => [argument.drop 2]
  else [argument]

/-- The environment by name. -/
def environment : IO (List (Text × Text)) := do
  try
    let content ← IO.FS.readBinFile "/proc/self/environ"
    return (Text.pieces 0 content.toList).filterMap (Text.cut? 0x3D)
  catch _ => return []

/-- Writes the files that are new or have changed. -/
def writeChanges (before after : Files) : IO Unit := do
  for (path, entry) in after.entries do
    if let .file content := entry then
      if before.entries.find? path != some entry then
        IO.FS.createDirAll (string (Path.dir path))
        IO.FS.writeBinFile (string path) ⟨content.toArray⟩

/-- Runs a command. -/
def run (arguments : List String) (command : List Text → Files → List (Text × Text) → CommandLine.Outcome) :
    IO UInt32 := do
  let workDir := bytes (← IO.currentDir).toString
  let arguments := arguments.map bytes
  let named ← ((arguments.flatMap namesIn).filter (!·.isEmpty)).mapM (directoryOf workDir)
  let mut files := Files.onDisk workDir []
  for dir in (workDir :: named).eraseDups do
    files ← addDirectory files dir
  let outcome := command arguments files (← environment)
  writeChanges files outcome.files
  IO.print (string outcome.printed)
  match outcome.error with
  | none => return 0
  | some e =>
    IO.eprintln ("failed to execute command: " ++ string e.message)
    return 1

end TextTemplate.Program

def main (arguments : List String) : IO UInt32 :=
  match arguments with
  | "generate" :: rest => TextTemplate.Program.run rest TextTemplate.CommandLine.generate
  | "parse" :: rest =>
    TextTemplate.Program.run rest fun args files _ => TextTemplate.CommandLine.parse args files
  | _ => do
    IO.eprintln "usage: t4gen (generate [globs...] | parse <file>) [flags]"
    return 1
