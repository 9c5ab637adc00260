import TierSweep.Execution

/-!
# The program

The files below the working directory are read, the command line is carried out on a machine that has
them, and what changed is written back.
-/

namespace TierSweep

/-- The entries for what lies in a directory. A file that names an interpreter counts as executable. -/
partial def gather (directory : Place) (items : Array IO.FS.DirEntry) :
    IO (List (Place × FileEntry)) := do
  let mut entries := []
  for item in items do
    let place := directory ++ [Utf8.encode item.fileName]
    if ← item.path.isDir then
      entries := entries ++ (place, .directory) :: (← gather place (← item.path.readDir))
    else
      let content := (← IO.FS.readBinFile item.path).toList
      let mode := if (Executable.interpreter? content).isSome then FileEntry.runnableMode
        else FileEntry.plainMode
      entries := entries ++ [(place, .file content mode)]
  return entries

/-- Writes an entry that is new or has another content. -/
def writeBack (before after : FileTree) (place : Place) (entry : FileEntry) : IO Unit := do
  if before.entry? place = some entry then return
  match after.namesBelow? place with
  | none => return
  | some names =>
    let path := Utf8.decodeLossy (Path.unsegments names)
    match entry with
    | .directory => IO.FS.createDirAll path
    | .file content _ => IO.FS.writeBinFile path ⟨content.toArray⟩
    | _ => return

/-- Carries out a command line in the working directory. -/
def runMain (arguments : List String) : IO UInt32 := do
  let machine := Machine.fresh
  let found ← gather machine.tree.working (← (← IO.currentDir).readDir)
  let before := { machine.tree with entries := machine.tree.entries ++ found }
  let result := { machine with tree := before }.execute arguments
  IO.print result.machine.outputText
  for (place, entry) in result.machine.tree.entries do
    writeBack before result.machine.tree place entry
  if let some complaint := result.complaint? then IO.eprintln complaint
  return result.code

end TierSweep

/-- The program's entry. -/
def main (arguments : List String) : IO UInt32 := TierSweep.runMain arguments
