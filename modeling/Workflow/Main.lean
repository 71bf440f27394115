import Workflow.Console.Program

/-!
# The command line

The program works on a snapshot of the folders that it may need: the current one, the folders
of the files named on the command line, and the folder of the standard configuration.  It runs
on the snapshot, and then every file that came out differently is written.  A snapshot has no
connection to a network.
-/

namespace Workflow.Console

def locationOf (path : String) : Location :=
  (FileSystem.pieces ⟨path⟩).filter fun piece => piece != ""

/-- The snapshot with a file or a folder and everything in it.  What cannot be read is left
out. -/
partial def addEntry (snapshot : FileSystem) (entry : IO.FS.DirEntry) : IO FileSystem := do
  try
    let location := locationOf (← IO.FS.realPath entry.path).toString
    match (← entry.path.metadata).type with
    | .dir =>
        if snapshot.isFolderAt location then return snapshot
        (← entry.path.readDir).foldlM addEntry (snapshot.addFolder location)
    | .file => return snapshot.store location (← IO.FS.readBinFile entry.path)
    | _ => return snapshot
  catch _ => return snapshot

def addFolder (snapshot : FileSystem) (path : String) : IO FileSystem := do
  try
    let folder ← IO.FS.realPath path
    let location := locationOf folder.toString
    if snapshot.isFolderAt location then return snapshot
    (← folder.readDir).foldlM addEntry (snapshot.addFolder location)
  catch _ => return snapshot

/-- The snapshot with the folders above its own. -/
def emptySnapshot (current home : String) : FileSystem :=
  let location := locationOf current
  { FileSystem.empty location home with folders := (List.range location.length).map location.take }

def namedPaths (home : String) (words : List String) : List String :=
  Configuration.standardPath :: words |>.map (FilePath.expandHome home)

/-- The snapshot that a command line needs. -/
def snapshot (words : List String) : IO FileSystem := do
  let current := (← IO.currentDir).toString
  let home := (← IO.getEnv "HOME").getD ""
  let start ← addFolder (emptySnapshot current home) current
  (namedPaths home words).foldlM (fun files path => addFolder files (FilePath.folder ⟨path⟩).text)
    start

/-- The files that are new or differ from those before are written. -/
def writeChanges (before after : FileSystem) : IO Unit :=
  after.files.forM fun file => do
    unless (before.content? file.1).any (· == file.2) do
      IO.FS.writeBinFile ("/" ++ "/".intercalate file.1) file.2

end Workflow.Console

/-- The program. -/
def main (words : List String) : IO UInt32 := do
  let output ← IO.getStdout
  let before ← Workflow.Console.snapshot words
  let (reply, after) := Workflow.Console.Program.execute (← output.isTty) words before
  Workflow.Console.writeChanges before after
  output.putStr reply.output
  (← IO.getStderr).putStr reply.complaint
  return reply.exitCode.toUInt32
