import TierSweep.FileTree

/-!
# Rearranging file trees

What lies in a file tree can be taken away, moved, linked to, copied and given another mode. Moving a
directory moves all below it.
-/

namespace TierSweep.FileTree

/-- The names of what lies directly in a directory. -/
def namesIn (t : FileTree) (directory : Place) : List Bytes :=
  t.entries.filterMap fun p =>
    if p.1.length = directory.length + 1 ∧ directory.isPrefixOf p.1 then p.1.getLast? else none

/-- Whether a place lies below another. -/
def isBelow (place above : Place) : Bool := above.isPrefixOf place && above.length < place.length

/-- Takes away what lies at a place and all below it. -/
def eraseAll (t : FileTree) (place : Place) : FileTree :=
  { t with entries := t.entries.filter fun e => !place.isPrefixOf e.1 }

/-- Takes away a file. -/
def removeFile (t : FileTree) (p : Path) : Except FileFault FileTree := do
  match ← t.findItself p with
  | (_, .directory) => throw .isDirectory
  | (_, .program _) => throw .denied
  | (place, _) => pure (t.erase place)

/-- Takes away a directory in which there is nothing. -/
def removeDirectory (t : FileTree) (p : Path) : Except FileFault FileTree := do
  match ← t.findItself p with
  | (place, .directory) =>
    if (Path.segments p.bytes).getLast? = some Path.here then throw .invalid
    else if (t.namesIn place).isEmpty then pure (t.erase place)
    else throw .notEmpty
  | _ => throw .notDirectory

/-- Moves what lies at a place, with all below it, to a place where there is nothing. -/
def moveAll (t : FileTree) (source target : Place) : FileTree :=
  { t with entries := t.entries.map fun e =>
      if source.isPrefixOf e.1 then (target ++ e.1.drop source.length, e.2) else e }

/-- The place that a path names, whether or not there is anything. -/
def spotPlace (t : FileTree) (p : Path) : Except FileFault Place := do
  match ← t.follow p false with
  | .at_ place => pure place
  | .name directory last _ => pure (directory ++ [last])

/-- Renames a file or directory. A file takes the place of one that is there, and a directory that of
an empty one. -/
def rename (t : FileTree) (p q : Path) : Except FileFault FileTree := do
  let (source, entry) ← t.findItself p
  let target ← t.spotPlace q
  if source = target then return t
  if isBelow target source then throw .invalid
  match entry, t.entry? target with
  | .directory, some .directory =>
    if (t.namesIn target).isEmpty then pure ((t.erase target).moveAll source target)
    else throw .notEmpty
  | .directory, some _ => throw .notDirectory
  | _, some .directory => throw .isDirectory
  | .directory, none => pure (t.moveAll source target)
  | _, none =>
    if q.bytes.getLast? = some Path.slash then throw .notDirectory
    else pure (t.moveAll source target)
  | _, some _ => pure ((t.erase target).moveAll source target)

/-- Makes a symbolic link. -/
def makeLink (t : FileTree) (target : Bytes) (p : Path) : Except FileFault FileTree := do
  if target.isEmpty then throw .notFound
  match ← t.follow p false with
  | .at_ _ => throw .alreadyExists
  | .name directory last slash =>
    match t.entry? (directory ++ [last]) with
    | some _ => throw .alreadyExists
    | none =>
      if slash ∨ (t.entry? directory).isNone then throw .notFound
      else pure (t.put (directory ++ [last]) (.link target))

/-- Gives a file another mode, found from the one it had. -/
def changeMode (t : FileTree) (p : Path) (f : Nat → Nat) : Except FileFault FileTree := do
  match ← t.find p with
  | (place, .file content mode) => pure (t.put place (.file content (f mode)))
  | _ => pure t

/-- The mode of what lies at a place. -/
def modeOf : FileEntry → Nat
  | .directory => FileEntry.runnableMode
  | .file _ mode => mode
  | .link _ => 0o777
  | .sink | .zeros => 0o666
  | .program _ => FileEntry.runnableMode

/-- Copies what lies at a place that is no directory. A file that is there already keeps its mode. -/
def copyEntry (t : FileTree) (entry : FileEntry) (q : Path) : Except FileFault FileTree := do
  let isNew := !t.has q
  let (t, place) ← t.obtainFile q
  match entry, t.entry? place with
  | .file content _, some (.file _ mode) =>
    pure (t.put place (.file content (if isNew then modeOf entry else mode)))
  | .program name, some (.file _ _) => pure (t.put place (.program name))
  | _, some (.file _ mode) => pure (t.put place (.file [] mode))
  | _, _ => pure t

end TierSweep.FileTree
