import TierSweep.Path

/-!
# File trees

A file tree says what lies at each place below the root. A place is the list of the names that lead to
it, so it is the same however a path to it was written. Paths are followed from the root or from the
working directory, one name after another, and every name but the last must lead to a directory. A
symbolic link stands for the path it holds.
Operations that cannot be done tell why in the words of the operating system.
-/

namespace TierSweep

/-- Why an operation on files cannot be done. -/
inductive FileFault where
  | notPermitted
  | notFound
  | unknownFormat
  | badDescriptor
  | denied
  | alreadyExists
  | notDirectory
  | isDirectory
  | invalid
  | noSpace
  | brokenPipe
  | nameTooLong
  | notEmpty
  | tooManyLinks
  | zeroByte
  /-- A directory could not be made because nothing lies above it. -/
  | nothingAbove
  deriving DecidableEq, Repr

namespace FileFault

/-- The words for a fault, and its number if it is one of the operating system. -/
def described : FileFault → String × Option Nat
  | notPermitted => ("Operation not permitted", some 1)
  | notFound => ("No such file or directory", some 2)
  | unknownFormat => ("Exec format error", some 8)
  | badDescriptor => ("Bad file descriptor", some 9)
  | denied => ("Permission denied", some 13)
  | alreadyExists => ("File exists", some 17)
  | notDirectory => ("Not a directory", some 20)
  | isDirectory => ("Is a directory", some 21)
  | invalid => ("Invalid argument", some 22)
  | noSpace => ("No space left on device", some 28)
  | brokenPipe => ("Broken pipe", some 32)
  | nameTooLong => ("File name too long", some 36)
  | notEmpty => ("Directory not empty", some 39)
  | tooManyLinks => ("Too many levels of symbolic links", some 40)
  | zeroByte => ("file name contained an unexpected NUL byte", none)
  | nothingAbove => ("failed to create whole tree", none)

/-- The words for a fault. -/
def words (fault : FileFault) : String := fault.described.1

/-- The words for a fault and its number. -/
def message (fault : FileFault) : String :=
  match fault.described with
  | (words, some number) => words ++ " (os error " ++ toString number ++ ")"
  | (words, none) => words

end FileFault

/-- The names that lead from the root to a place. -/
abbrev Place := List Bytes

/-- What lies at a place. -/
inductive FileEntry where
  | directory
  | file (content : Bytes) (mode : Nat)
  /-- A symbolic link. -/
  | link (target : Bytes)
  /-- A file that takes everything and holds nothing. -/
  | sink
  /-- A file that takes everything and gives zero bytes without end. -/
  | zeros
  /-- A program of the operating system. -/
  | program (name : String)
  deriving DecidableEq, Repr

namespace FileEntry

/-- The mode of a new file: all may read it and its owner may write it. -/
def plainMode : Nat := 0o644

/-- The mode of a file that all may execute. -/
def runnableMode : Nat := 0o755

/-- The bits of a mode that allow somebody to execute a file. -/
def executableBits : Nat := 0o111

/-- Whether somebody may execute what lies at a place. -/
def isExecutable : FileEntry → Bool
  | file _ mode => mode &&& executableBits ≠ 0
  | program _ => true
  | _ => false

end FileEntry

/-- Everything below the root, and the working directory. -/
structure FileTree where
  entries : List (Place × FileEntry)
  working : Place

namespace FileTree

/-- The number of bytes that no name may exceed. -/
def maxName : Nat := 255

/-- The number of bytes that no path may reach. -/
def pathLimit : Nat := 4096

/-- How many symbolic links a path may go through. -/
def maxLinks : Nat := 40

/-- What lies at a place. The root is always a directory. -/
def entry? (t : FileTree) (place : Place) : Option FileEntry :=
  if place.isEmpty then some .directory else t.entries.lookup place

/-- Puts an entry at a place in a list of entries. -/
def putIn (place : Place) (entry : FileEntry) :
    List (Place × FileEntry) → List (Place × FileEntry)
  | [] => [(place, entry)]
  | (p, e) :: rest => if p = place then (p, entry) :: rest else (p, e) :: putIn place entry rest

/-- A later look finds what was put at its place, and what was there before at all others. -/
theorem lookup_putIn (place q : Place) (entry : FileEntry) (es : List (Place × FileEntry)) :
    (putIn place entry es).lookup q = if q = place then some entry else es.lookup q := by
  induction es with
  | nil =>
    simp only [putIn, List.lookup_cons, List.lookup_nil]
    split <;> simp_all
  | cons e rest ih =>
    obtain ⟨p, f⟩ := e
    unfold putIn
    split
    · next h =>
      subst h
      simp only [List.lookup_cons]
      split <;> simp_all
    · next h =>
      simp only [List.lookup_cons, ih]
      by_cases hq : q = p
      · subst hq
        simp [h]
      · have : (q == p) = false := by simpa using hq
        simp [this]

/-- Puts an entry at a place. -/
def put (t : FileTree) (place : Place) (entry : FileEntry) : FileTree :=
  { t with entries := putIn place entry t.entries }

/-- Takes away what lies at a place. -/
def erase (t : FileTree) (place : Place) : FileTree :=
  { t with entries := t.entries.filter (·.1 ≠ place) }

/-- Where a path leads. -/
inductive Spot where
  /-- To a directory that it does not call by its own name. -/
  | at_ (place : Place)
  /-- To a name in a directory, whether or not there is anything; the path may end in a slash. -/
  | name (directory : Place) (last : Bytes) (slash : Bool)

/-- Follows names from a place. Where a symbolic link comes in between, `jump` follows the names in it
and those behind it; at the end of the path, only if `last` says so or a slash follows. -/
def walk (t : FileTree) (last : Bool) (jump : Place → List Bytes → Except FileFault Spot) :
    Place → List Bytes → Except FileFault Spot
  | place, [] => .ok (.at_ place)
  | place, name :: rest =>
    if name.isEmpty || name = Path.here then walk t last jump place rest
    else if name = Path.above then walk t last jump place.dropLast rest
    else if maxName < name.length then .error .nameTooLong
    else
      let ends := rest.all List.isEmpty
      match t.entry? (place ++ [name]) with
      | some (.link target) =>
        if rest.isEmpty && !last then .ok (.name place name false)
        else
          let start := if target.head? = some Path.slash then [] else place
          jump start (Path.segments target ++ rest)
      | some .directory =>
        if ends then .ok (.name place name (!rest.isEmpty))
        else walk t last jump (place ++ [name]) rest
      | some _ => if ends then .ok (.name place name (!rest.isEmpty)) else .error .notDirectory
      | none => if ends then .ok (.name place name (!rest.isEmpty)) else .error .notFound

/-- Follows names through at most so many symbolic links. -/
def walkLinks (t : FileTree) (last : Bool) : Nat → Place → List Bytes → Except FileFault Spot
  | 0 => walk t last fun _ _ => .error .tooManyLinks
  | links + 1 => walk t last (walkLinks t last links)

/-- Follows a path up to its last name, which is followed too if it is a symbolic link and `last` says
so. -/
def follow (t : FileTree) (p : Path) (last : Bool) : Except FileFault Spot :=
  if p.bytes.contains 0 then .error .zeroByte
  else if p.bytes.isEmpty then .error .notFound
  else if pathLimit ≤ p.bytes.length then .error .nameTooLong
  else
    walkLinks t last maxLinks (if p.isAbsolute then [] else t.working) (Path.segments p.bytes)

/-- The place where a spot is, and what lies there. -/
def resolve (t : FileTree) : Spot → Except FileFault (Place × FileEntry)
  | .at_ place =>
    match t.entry? place with
    | some entry => .ok (place, entry)
    | none => .error .notFound
  | .name directory last slash =>
    match t.entry? (directory ++ [last]) with
    | none => .error .notFound
    | some entry =>
      if slash ∧ entry ≠ .directory then .error .notDirectory
      else .ok (directory ++ [last], entry)

/-- The place a path leads to and what lies there. -/
def find (t : FileTree) (p : Path) : Except FileFault (Place × FileEntry) := do
  t.resolve (← t.follow p true)

/-- The same, but a symbolic link at the end of the path is not followed. -/
def findItself (t : FileTree) (p : Path) : Except FileFault (Place × FileEntry) := do
  t.resolve (← t.follow p false)

/-- Whether a path leads to anything. -/
def has (t : FileTree) (p : Path) : Bool := (t.find p).isOk

/-- Whether a path leads to a directory. -/
def hasDirectory (t : FileTree) (p : Path) : Bool :=
  match t.find p with
  | .ok (_, .directory) => true
  | _ => false

/-- The content of a file. -/
def read (t : FileTree) (p : Path) : Except FileFault Bytes := do
  match ← t.find p with
  | (_, .directory) => throw .isDirectory
  | (_, .file content _) => pure content
  | _ => pure []

/-- The place of a file that is to be written and the tree in which it is there. A new file is not
executable. -/
def obtainFile (t : FileTree) (p : Path) : Except FileFault (FileTree × Place) := do
  match ← t.follow p true with
  | .at_ _ => throw .isDirectory
  | .name directory last slash =>
    let place := directory ++ [last]
    if slash then throw .isDirectory
    match t.entry? place with
    | some .directory => throw .isDirectory
    | some (.program _) => throw .denied
    | some _ => pure (t, place)
    | none =>
      if (t.entry? directory).isNone then throw .notFound
      else pure (t.put place (.file [] FileEntry.plainMode), place)

/-- Changes the content of the file at a place. -/
def edit (t : FileTree) (place : Place) (f : Bytes → Bytes) : FileTree :=
  match t.entry? place with
  | some (.file content mode) => t.put place (.file (f content) mode)
  | _ => t

/-- Writes a file whose content is found from the one it had. One that is there keeps its mode. -/
def change (t : FileTree) (p : Path) (edit : Bytes → Bytes) : Except FileFault FileTree := do
  let (t, place) ← t.obtainFile p
  pure (t.edit place edit)

/-- Writes a file. -/
def write (t : FileTree) (p : Path) (content : Bytes) : Except FileFault FileTree :=
  t.change p fun _ => content

/-- Makes a directory in one that is there. -/
def makeDirectory (t : FileTree) (p : Path) : Except FileFault FileTree := do
  match ← t.follow p false with
  | .at_ _ => throw .alreadyExists
  | .name directory last _ =>
    match t.entry? (directory ++ [last]), t.entry? directory with
    | some _, _ => throw .alreadyExists
    | none, none => throw .notFound
    | none, some _ => pure (t.put (directory ++ [last]) .directory)

/-- Makes a directory, or finds it there. -/
def obtainDirectory (t : FileTree) (p : Path) : Except FileFault FileTree :=
  match t.makeDirectory p with
  | .ok t => .ok t
  | .error fault => if t.hasDirectory p then .ok t else .error fault

/-- Makes a directory and, at most `fuel` steps up, the directories above it that are missing. -/
def makeDirectoriesWithin : Nat → FileTree → Path → FileTree × Option FileFault
  | 0, t, _ => (t, some .nothingAbove)
  | fuel + 1, t, p =>
    if p.bytes.isEmpty then (t, none)
    else match t.obtainDirectory p with
      | .ok t => (t, none)
      | .error .notFound =>
        match p.parent? with
        | none => (t, some .nothingAbove)
        | some above =>
          match makeDirectoriesWithin fuel t above with
          | (t, some fault) => (t, some fault)
          | (t, none) =>
            match t.obtainDirectory p with
            | .ok t => (t, none)
            | .error fault => (t, some fault)
      | .error fault => (t, some fault)

/-- Makes a directory and those above it that are missing. Where this ends in a fault, those made
before it stay. -/
def makeDirectories (t : FileTree) (p : Path) : FileTree × Option FileFault :=
  makeDirectoriesWithin (p.bytes.length + 1) t p

/-- The names below the working directory that lead to a place there. -/
def namesBelow? (t : FileTree) (place : Place) : Option (List Bytes) :=
  if t.working.isPrefixOf place ∧ t.working.length < place.length then
    some (place.drop t.working.length)
  else none

/-- Everything below the working directory, as sorted relative paths; those of directories end in a
slash. -/
def listing (t : FileTree) : List String :=
  let texts := t.entries.filterMap fun p => (t.namesBelow? p.1).map fun names =>
    Utf8.decodeLossy (Path.unsegments names ++ if p.2 = .directory then [Path.slash] else [])
  texts.mergeSort (fun a b => decide (a ≤ b))

end FileTree

end TierSweep
