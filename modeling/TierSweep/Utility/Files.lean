import TierSweep.FileTree.Mode
import TierSweep.FileTree.Rearrangement
import TierSweep.Utility.Reading

/-!
# Programs that change files

These programs make files, directories and links, take them away, move and copy them, and change their
modes. Each goes on with the next operand when one of them fails.
-/

namespace TierSweep.Utility

/-- A path without the slashes at its end. -/
def withoutSlashes (s : String) : String :=
  let cs := (s.toList.reverse.dropWhile (· = '/')).reverse
  if cs.isEmpty && !s.isEmpty then "/" else String.ofList cs

/-- The last name of a path. -/
def lastName (s : String) : String :=
  let cs := (withoutSlashes s).toList
  if cs = ['/'] then "/" else String.ofList (cs.reverse.takeWhile (· ≠ '/')).reverse

/-- A path without its last name. -/
def directoryName (s : String) : String :=
  let rest := (withoutSlashes s).toList.reverse.dropWhile (· ≠ '/')
  let rest := rest.dropWhile (· = '/')
  if !rest.isEmpty then String.ofList rest.reverse
  else if s.startsWith "/" then "/" else "."

/-- A path continued by a name. -/
def under (directory name : String) : String :=
  if directory.endsWith "/" then directory ++ name else directory ++ "/" ++ name

/-- The names in a directory, sorted. -/
def sortedNames (t : FileTree) (place : Place) : List String :=
  ((t.namesIn place).map Octets.ofBytes).mergeSort fun a b => decide (a ≤ b)

/-- Whether something is a directory. -/
def isDirectory (t : FileTree) (path : String) : Bool := t.hasDirectory (.ofOctets path)

/-- What lies at a path; a symbolic link at its end is followed only if it is said. -/
def look (t : FileTree) (follows : Bool) (path : String) : Except FileFault (Place × FileEntry) :=
  if follows then t.find (.ofOctets path) else t.findItself (.ofOctets path)

/-- Changes files, and reports it if that cannot be done. -/
def changeOr (x : Executable) (failure : String) (edit : FileTree → Except FileFault FileTree) : Act Bool := do
  match ← Act.change edit with
  | .ok _ => return true
  | .error fault =>
    complain x (failure ++ ": " ++ fault.words)
    return false

/-- Makes files that are not there. -/
def touch : Body := fun x _ =>
  withOptions ⟨"acd:fhmr:t:", [("no-create", 'c'), ("date", 'd'), ("reference", 'r'), ("no-dereference", 'h'), ("time", 't')],
    true⟩ 1 x fun p => do
    let t ← Act.files
    match p.operands, p.value? 'r' with
    | [], _ => misuse x 1 "missing file operand"
    | _, some name =>
      match look t true name with
      | .ok _ => return codeOf (← touchAll x p)
      | .error fault =>
        complain x ("failed to get attributes of " ++ quoted name ++ ": " ++ fault.words)
        return 1
    | _, none => return codeOf (← touchAll x p)
where
  /-- Makes the files that the operands name. -/
  touchAll (x : Executable) (p : Parsed) : Act Bool :=
    forEach p.operands fun name => do
      let t ← Act.files
      if name = "-" || (look t true name).isOk then return true
      else if p.has 'c' then return true
      else changeOr x ("cannot touch " ++ quoted name) fun t =>
        if name.endsWith "/" then
          throw (match look t true name with
            | .error fault => fault
            | .ok _ => .notDirectory)
        else (t.obtainFile (.ofOctets name)).map (·.1)

/-! ## Modes -/

/-- The places of directories and all below them, at most so deep. -/
def allBelow (t : FileTree) : Nat → String → List String
  | 0, path => [path]
  | depth + 1, path =>
    match look t false path with
    | .ok (place, .directory) =>
      path :: (sortedNames t place).flatMap fun name => allBelow t depth (under path name)
    | _ => [path]

/-- Changes modes. -/
def chmod : Body := fun x _ => do
  let modes := x.arguments.filter Mode.isArgument
  let others := x.arguments.filter (!Mode.isArgument ·)
  withOptions ⟨"cfRvr:", [("recursive", 'R'), ("verbose", 'v'), ("changes", 'c'), ("silent", 'f'), ("quiet", 'f'),
    ("reference", 'r')], true⟩ 1 { x with arguments := others } fun p => do
    let t ← Act.files
    let (mode?, names) := match modes, p.operands with
      | m :: _, names => (some m, names)
      | [], m :: names => if p.has 'r' then (none, m :: names) else (some m, names)
      | [], [] => (none, [])
    let change? : Option (Bool → Nat → Nat) := match p.value? 'r' with
      | some name =>
        match look t true name with
        | .ok (_, e) => some fun _ _ => FileTree.modeOf e
        | .error _ => none
      | none => mode?.bind (Mode.change? Mode.usualMask)
    match mode?, names, change? with
    | none, [], _ => misuse x 1 "missing operand"
    | some m, [], _ => misuse x 1 ("missing operand after " ++ quoted m)
    | _, _, none =>
      match p.value? 'r' with
      | some name =>
        complain x ("failed to get attributes of " ++ quoted name ++ ": No such file or directory")
        return 1
      | none => misuse x 1 ("invalid mode: " ++ quoted (mode?.getD ""))
    | _, names, some change =>
      let targets := if p.has 'R' then names.flatMap (allBelow t (t.entries.length + 1)) else names
      let fine ← forEach targets fun name => do
        let t ← Act.files
        match look t true name with
        | .error fault =>
          if !p.has 'f' then complain x ("cannot access " ++ quoted name ++ ": " ++ fault.words)
          return false
        | .ok (_, e) =>
          changeOr x ("changing permissions of " ++ quoted name) (·.changeMode (.ofOctets name)
            (change (e = .directory)))
      return codeOf fine

/-! ## Directories -/

/-- Makes directories. -/
def mkdir : Body := fun x _ =>
  withOptions ⟨"m:pvZ", [("mode", 'm'), ("parents", 'p'), ("verbose", 'v')], true⟩ 1 x fun p => do
    let badMode := ((p.value? 'm').map fun m => (Mode.change? Mode.usualMask m).isNone).getD false
    if p.operands.isEmpty then misuse x 1 "missing operand"
    else if badMode then
      complain x ("invalid mode " ++ quoted ((p.value? 'm').getD ""))
      return 1
    else
      let made (name : String) : Act Unit :=
        if p.has 'v' then Act.print (x.self ++ ": created directory " ++ quoted name ++ "\n") else pure ()
      let fine ← forEach p.operands fun name => do
        if p.has 'p' then
          let above := prefixes name
          let rec climb : List String → Act Bool
            | [] => return true
            | d :: ds => do
              let t ← Act.files
              if isDirectory t d then climb ds
              else match ← Act.change (·.makeDirectory (.ofOctets d)) with
                | .ok _ =>
                  made d
                  climb ds
                | .error fault =>
                  complain x ("cannot create directory " ++ quoted d ++ ": " ++ fault.words)
                  return false
          climb above
        else
          let fine ← changeOr x ("cannot create directory " ++ quoted name) (·.makeDirectory (.ofOctets name))
          if fine then made name
          return fine
      return codeOf fine
where
  /-- The paths to the directories on the way to a path, and the path itself. -/
  prefixes (path : String) : List String :=
    let names := path.splitOn "/"
    let paths := (List.range names.length).filterMap fun i =>
      if (names[i]?.getD "").isEmpty then none else some ("/".intercalate (names.take (i + 1)))
    if paths.isEmpty then [path] else paths

/-- Takes empty directories away. -/
def rmdir : Body := fun x _ =>
  withOptions ⟨"pvi", [("parents", 'p'), ("verbose", 'v'), ("ignore-fail-on-non-empty", 'i')], true⟩ 1 x fun p => do
    if p.operands.isEmpty then misuse x 1 "missing operand"
    else
      let fine ← forEach p.operands fun name => do
        let targets := if p.has 'p' then name :: above (name.length) name else [name]
        let rec climb : List String → Act Bool
          | [] => return true
          | d :: ds => do
            if p.has 'v' then Act.print (x.self ++ ": removing directory, " ++ quoted d ++ "\n")
            match ← Act.change (·.removeDirectory (.ofOctets d)) with
            | .ok _ => climb ds
            | .error .notEmpty =>
              if p.has 'i' then return true
              complain x ("failed to remove " ++ quoted d ++ ": Directory not empty")
              return false
            | .error fault =>
              complain x ("failed to remove " ++ quoted d ++ ": " ++ fault.words)
              return false
        climb targets
      return codeOf fine
where
  /-- The directories above a path, without the one where it begins. -/
  above : Nat → String → List String
    | 0, _ => []
    | fuel + 1, path =>
      let d := directoryName path
      if d = "." || d = "/" then [] else d :: above fuel d

/-- The words for what something is. -/
def kindWords (e : FileEntry) : String :=
  match e with
  | .directory => "directory"
  | .link _ => "symbolic link"
  | .sink | .zeros => "character special file"
  | .file content _ => if content.isEmpty then "regular empty file" else "regular file"
  | .program _ => "regular file"

/-- Takes what lies at a path away, and what is in it, at most so deep. -/
def removeWithin (x : Executable) (recursive emptied forced verbose asks : Bool) : Nat → String → Act Bool
  | 0, _ => return false
  | depth + 1, path => do
    let t ← Act.files
    let agreed (question : String) : Act Bool := if asks then confirms x question else pure true
    match look t false path with
    | .error fault =>
      if forced && (fault = .notFound || fault = .notDirectory) then return true
      complain x ("cannot remove " ++ quoted path ++ ": " ++ fault.words)
      return false
    | .ok (place, .directory) =>
      if !recursive && !emptied then
        complain x ("cannot remove " ++ quoted path ++ ": Is a directory")
        return false
      let names := sortedNames t place
      if recursive && !names.isEmpty && !(← agreed ("descend into directory " ++ quoted path)) then return true
      let inner ← if recursive then
          forEach names fun name =>
            removeWithin x recursive emptied forced verbose asks depth (under path name)
        else pure true
      if !inner then return false
      if !(← agreed ("remove directory " ++ quoted path)) then return true
      let fine ← changeOr x ("cannot remove " ++ quoted path) (·.removeDirectory (.ofOctets path))
      if fine && verbose then Act.print ("removed directory " ++ quoted path ++ "\n")
      return fine
    | .ok (_, e) =>
      if !(← agreed ("remove " ++ kindWords e ++ " " ++ quoted path)) then return true
      let fine ← changeOr x ("cannot remove " ++ quoted path) (·.removeFile (.ofOctets path))
      if fine && verbose then Act.print ("removed " ++ quoted path ++ "\n")
      return fine

/-- Takes files away. -/
def rm : Body := fun x _ =>
  withOptions ⟨"dfiIrRv", [("dir", 'd'), ("force", 'f'), ("recursive", 'r'), ("verbose", 'v'), ("one-file-system", 'x'),
    ("preserve-root", 'x'), ("no-preserve-root", 'x')], true⟩ 1 x fun p => do
    if p.operands.isEmpty then
      if p.has 'f' then return 0 else misuse x 1 "missing operand"
    else
      let recursive := p.has 'r' || p.has 'R'
      let asks := ((p.options.filter fun o => ['i', 'f', 'I'].contains o.1).getLast?.map (·.1)) = some 'i'
      let many := p.has 'I' && (recursive || 3 < p.operands.length)
      let question := "remove " ++ toString p.operands.length ++ " argument"
        ++ (if p.operands.length = 1 then "" else "s") ++ (if recursive then " recursively" else "")
      if many && !(← confirms x question) then return 0
      let fine ← forEach p.operands fun name => do
        let t ← Act.files
        let last := lastName name
        if recursive && (last = "." || last = "..") then
          complain x ("refusing to remove '.' or '..' directory: skipping " ++ quoted name)
          return false
        else if recursive && withoutSlashes name = "/" then
          complain x "it is dangerous to operate recursively on '/'"
          return false
        else removeWithin x recursive (p.has 'd') (p.has 'f') (p.has 'v') asks (t.entries.length + 2) name
      return codeOf fine

/-- Takes one name away. -/
def unlink : Body := fun x _ =>
  withOptions ⟨"", [], true⟩ 1 x fun p => do
    match p.operands with
    | [] => misuse x 1 "missing operand"
    | [name] => return codeOf (← changeOr x ("cannot unlink " ++ quoted name) (·.removeFile (.ofOctets name)))
    | _ :: extra :: _ => misuse x 1 ("extra operand " ++ quoted extra)

/-! ## Moving, copying and linking -/

/-- What is done with each of some sources, and the path it is done to. Nothing comes back if the
operands are wrong, which is reported. -/
def destinations (x : Executable) (p : Parsed) (single : Bool) : Act (Except Nat (List (String × String))) := do
  let t ← Act.files
  let into (d : String) (sources : List String) : List (String × String) :=
    sources.map fun s => (s, under d (lastName s))
  match p.value? 't', p.operands with
  | _, [] => return .error (← misuse x 1 "missing file operand")
  | some d, sources =>
    match look t true d with
    | .ok (_, .directory) => return .ok (into d sources)
    | .ok _ =>
      complain x ("target directory " ++ quoted d ++ ": Not a directory")
      return .error 1
    | .error fault =>
      complain x ("target directory " ++ quoted d ++ ": " ++ fault.words)
      return .error 1
  | none, [s] =>
    if single then return .ok [(s, under "." (lastName s))]
    else return .error (← misuse x 1 ("missing destination file operand after " ++ quoted s))
  | none, operands =>
    let sources := operands.dropLast
    let d := operands.getLast?.getD ""
    if p.has 'T' then
      match sources with
      | [s] => return .ok [(s, d)]
      | _ => return .error (← misuse x 1 ("extra operand " ++ quoted ((operands.drop 2).headD "")))
    else if isDirectory t d && !(p.has 'n' && x.program = "ln" && !(look t false d).isOk) then
      return .ok (into d sources)
    else match sources with
      | [s] => return .ok [(s, d)]
      | _ =>
        match look t true d with
        | .error fault => complain x ("target " ++ quoted d ++ ": " ++ fault.words)
        | .ok _ => complain x ("target " ++ quoted d ++ ": Not a directory")
        return .error 1

/-- Moves one file or directory. -/
def moveOne (x : Executable) (p : Parsed) (source target : String) : Act Bool := do
  let t ← Act.files
  match look t false source with
  | .error fault =>
    complain x ("cannot stat " ++ quoted source ++ ": " ++ fault.words)
    return false
  | .ok (place, entry) =>
    let there? := (look t false target).toOption
    match there? with
    | some (there, e) =>
      if p.has 'n' then
        complain x ("not replacing " ++ quoted target)
        return false
      else if there = place then
        complain x (quoted source ++ " and " ++ quoted target ++ " are the same file")
        return false
      else if p.has 'i' && !(← confirms x ("overwrite " ++ quoted target)) then return false
      else if e = .directory && entry ≠ .directory then
        complain x ("cannot overwrite directory " ++ quoted target ++ " with non-directory")
        return false
      else if e ≠ .directory && entry = .directory then
        complain x ("cannot overwrite non-directory " ++ quoted target ++ " with directory " ++ quoted source)
        return false
      else rename
    | none =>
      match t.spotPlace (.ofOctets target) with
      | .ok there =>
        if entry = .directory && FileTree.isBelow there place then
          complain x ("cannot move " ++ quoted source ++ " to a subdirectory of itself, " ++ quoted target)
          return false
        else rename
      | .error _ => rename
where
  /-- Renames the source. -/
  rename : Act Bool := do
    let fine ← changeOr x ("cannot move " ++ quoted source ++ " to " ++ quoted target)
      (·.rename (.ofOctets source) (.ofOctets target))
    if fine && p.has 'v' then Act.print ("renamed " ++ quoted source ++ " -> " ++ quoted target ++ "\n")
    return fine

/-- Moves files and directories. -/
def mv : Body := fun x _ =>
  withOptions ⟨"bfinS:t:TuvZ", [("force", 'f'), ("no-clobber", 'n'), ("target-directory", 't'), ("no-target-directory", 'T'),
    ("verbose", 'v'), ("update", 'u'), ("interactive", 'i')], true⟩ 1 x fun p => do
    match ← destinations x p false with
    | .error code => return code
    | .ok pairs => return codeOf (← pairs.foldlM (fun fine (s, d) => do return (← moveOne x p s d) && fine) true)

/-- Copies what lies at a path, and what is in it, at most so deep. -/
def copyWithin (x : Executable) (p : Parsed) (recursive : Bool) : Nat → Bool → String → String → Act Bool
  | 0, _, _, _ => return false
  | depth + 1, outer, source, target => do
    let t ← Act.files
    let follows := if p.has 'P' || p.has 'a' || p.has 'd' then false
      else p.has 'L' || !recursive || (outer && p.has 'H')
    match look t follows source with
    | .error fault =>
      complain x ("cannot stat " ++ quoted source ++ ": " ++ fault.words)
      return false
    | .ok (place, .directory) =>
      if !recursive then
        complain x ("-r not specified; omitting directory " ++ quoted source)
        return false
      let copyNames : Act Bool := forEach (sortedNames t place) fun name =>
        copyWithin x p recursive depth false (under source name) (under target name)
      let there := t.spotPlace (.ofOctets target)
      let isInside := match there with
        | .ok q => q = place || FileTree.isBelow q place
        | .error _ => false
      if isInside then
        if !(look t true target).isOk then
          let _ ← Act.change (·.makeDirectory (.ofOctets target))
        let _ ← copyNames
        complain x ("cannot copy a directory, " ++ quoted source ++ ", into itself, " ++ quoted target)
        return false
      match look t true target with
      | .ok (_, .directory) => copyNames
      | .ok _ =>
        complain x ("cannot overwrite non-directory " ++ quoted target ++ " with directory " ++ quoted source)
        return false
      | .error _ =>
        if ← changeOr x ("cannot create directory " ++ quoted target) (·.makeDirectory (.ofOctets target)) then
          copyWithin.tell p source target
          copyNames
        else return false
    | .ok (place, entry) =>
      match look t true target with
      | .ok (there, e) =>
        if p.has 'n' then return true
        else if there = place then
          complain x (quoted source ++ " and " ++ quoted target ++ " are the same file")
          return false
        else if p.has 'i' && !(← confirms x ("overwrite " ++ quoted target)) then return false
        else if e = .directory then
          complain x ("cannot overwrite directory " ++ quoted target ++ " with non-directory")
          return false
        else copyWithin.write x p source target entry
      | .error _ => copyWithin.write x p source target entry
where
  /-- Tells that something was copied. -/
  tell (p : Parsed) (source target : String) : Act Unit := do
    if p.has 'v' then Act.print (quoted source ++ " -> " ++ quoted target ++ "\n")
  /-- Copies what is no directory. -/
  write (x : Executable) (p : Parsed) (source target : String) (entry : FileEntry) : Act Bool := do
    let copy (t : FileTree) : Except FileFault FileTree :=
      match entry with
      | .link l => do
        let t ← match t.findItself (.ofOctets target) with
          | .ok _ => t.removeFile (.ofOctets target)
          | .error _ => pure t
        t.makeLink l (.ofOctets target)
      | _ => do
        let fresh := p.has 'p' || p.has 'a'
        let t ← t.copyEntry entry (.ofOctets target)
        if fresh then t.changeMode (.ofOctets target) fun _ => FileTree.modeOf entry else pure t
    let fine ← changeOr x ("cannot create regular file " ++ quoted target) copy
    if fine then tell p source target
    return fine

/-- Copies files and directories. -/
def cp : Body := fun x _ =>
  withOptions ⟨"abdfHilLnPprRsS:t:TuvxZ", [("archive", 'a'), ("force", 'f'), ("no-clobber", 'n'), ("recursive", 'r'),
    ("target-directory", 't'), ("no-target-directory", 'T'), ("verbose", 'v'), ("update", 'u'), ("preserve", 'p'),
    ("dereference", 'L'), ("no-dereference", 'P')], true⟩ 1 x fun p => do
    match ← destinations x p false with
    | .error code => return code
    | .ok pairs =>
      let t ← Act.files
      let recursive := p.has 'r' || p.has 'R' || p.has 'a'
      return codeOf (← pairs.foldlM (fun fine (s, d) => do
        return (← copyWithin x p recursive (t.entries.length + 2) true s d) && fine) true)

/-- Makes links. A link that is not symbolic is a copy. -/
def ln : Body := fun x _ =>
  withOptions ⟨"bdfFinLPrsS:t:Tv", [("symbolic", 's'), ("force", 'f'), ("no-dereference", 'n'), ("target-directory", 't'),
    ("no-target-directory", 'T'), ("verbose", 'v'), ("relative", 'r')], true⟩ 1 x fun p => do
    match ← destinations x p true with
    | .error code => return code
    | .ok pairs =>
      let fine ← pairs.foldlM (fun fine (s, d) => do return (← one x p s d) && fine) true
      return codeOf fine
where
  /-- Makes one link. -/
  one (x : Executable) (p : Parsed) (source target : String) : Act Bool := do
    let symbolic := p.has 's'
    let failure := "failed to create " ++ (if symbolic then "symbolic" else "hard") ++ " link " ++ quoted target
    let t ← Act.files
    let source? := if symbolic then .ok ([], FileEntry.sink) else look t false source
    match source? with
    | .error fault =>
      complain x ("failed to access " ++ quoted source ++ ": " ++ fault.words)
      return false
    | .ok (place, entry) =>
      if entry = .directory && !symbolic then
        complain x (source ++ ": hard link not allowed for directory")
        return false
      let isSame := !symbolic && (t.spotPlace (.ofOctets target)).toOption = some place
      if isSame && p.has 'f' then
        complain x (quoted source ++ " and " ++ quoted target ++ " are the same file")
        return false
      let isThere := (look t false target).isOk
      let replaces ← if isThere && p.has 'i' then confirms x ("replace " ++ quoted target) else pure (p.has 'f')
      if p.has 'i' && isThere && !replaces then return false
      if replaces && isThere then
        let _ ← Act.change (·.removeFile (.ofOctets target))
      let fine ← changeOr x failure fun t =>
        if symbolic then t.makeLink (Octets.toBytes source) (.ofOctets target)
        else match t.findItself (.ofOctets target) with
          | .ok _ => throw .alreadyExists
          | .error .notFound => do
            let (t, there) ← t.obtainFile (.ofOctets target)
            pure (t.put there entry)
          | .error fault => throw fault
      if fine && p.has 'v' then
        Act.print (quoted target ++ (if symbolic then " -> " else " => ") ++ quoted source ++ "\n")
      return fine

/-- Makes a link without further ado. -/
def link : Body := fun x environment =>
  withOptions ⟨"", [], true⟩ 1 x fun p => do
    match p.operands with
    | [] => misuse x 1 "missing operand"
    | [a] => misuse x 1 ("missing operand after " ++ quoted a)
    | [a, b] => ln { x with arguments := ["-T", a, b] } environment
    | _ :: _ :: extra :: _ => misuse x 1 ("extra operand " ++ quoted extra)

/-- Copies files into place and makes them executable, or makes directories. -/
def install : Body := fun x environment =>
  withOptions ⟨"bcCdDg:m:o:pst:Tv", [("directory", 'd'), ("mode", 'm'), ("target-directory", 't'),
    ("no-target-directory", 'T'), ("verbose", 'v')], true⟩ 1 x fun p => do
    if p.has 'd' then mkdir { x with arguments := "-p" :: "--" :: p.operands } environment
    else
      match ← destinations x p false with
      | .error code => return code
      | .ok pairs =>
        let mode := (((p.value? 'm').bind (Mode.change? Mode.usualMask)).map (· false 0)).getD FileEntry.runnableMode
        let fine ← pairs.foldlM (fun fine (s, d) => do
          if p.has 'D' then
            let _ ← Act.change fun t => pure (t.makeDirectories (.ofOctets (directoryName d))).1
          let t ← Act.files
          let copied ← copyWithin x p false (t.entries.length + 2) true s d
          if copied then
            let _ ← Act.change (·.changeMode (.ofOctets d) fun _ => mode)
          return copied && fine) true
        return codeOf fine

/-- Changes the sizes of files. -/
def truncate : Body := fun x _ =>
  withOptions ⟨"cos:r:", [("size", 's'), ("no-create", 'c'), ("reference", 'r')], true⟩ 1 x fun p => do
    let t ← Act.files
    let size? : Option (Option Char × Nat) := match p.value? 's', p.value? 'r' with
      | some s, _ =>
        match s.toList with
        | '<' :: cs => (count? (String.ofList cs)).map fun n => (some '<', n.2)
        | '>' :: cs => (count? (String.ofList cs)).map fun n => (some '>', n.2)
        | _ => count? s
      | none, some r =>
        match t.read (.ofOctets r) with
        | .ok content => some (none, content.length)
        | .error _ => none
      | none, none => none
    match size?, p.operands with
    | none, _ =>
      if p.has 's' then
        complain x ("Invalid number: " ++ quoted ((p.value? 's').getD ""))
        return 1
      else misuse x 1 "you must specify either '--size' or '--reference'"
    | _, [] => misuse x 1 "missing file operand"
    | some (sign?, n), names =>
      let fine ← forEach names fun name => do
        let t ← Act.files
        if p.has 'c' && !(look t true name).isOk then return true
        else changeOr x ("cannot open " ++ quoted name ++ " for writing") (·.change (.ofOctets name) fun content =>
          let size := match sign? with
            | some '+' => content.length + n
            | some '-' => content.length - n
            | some '<' => min content.length n
            | some '>' => max content.length n
            | _ => n
          content.take size ++ List.replicate (size - content.length) 0)
      return codeOf fine

/-- Copies blocks from one file to another. -/
def dd : Body := fun x _ => do
  let settings := x.arguments.map fun a =>
    let name := a.toList.takeWhile (· ≠ '=')
    (String.ofList name, if name.length = a.length then none else some (dropChars (name.length + 1) a))
  let value? (name : String) : Option String := (settings.reverse.lookup name).getD none
  let known := ["if", "of", "bs", "ibs", "obs", "count", "skip", "seek", "conv", "status", "iflag", "oflag"]
  match settings.find? fun s => !known.contains s.1 || s.2.isNone with
  | some (name, v?) =>
    misuse x 1 ("unrecognized operand " ++ quoted (name ++ (v?.map ("=" ++ ·)).getD ""))
  | none =>
    let number (name : String) : Option Nat := (value? name).bind fun v => (count? v).map (·.2)
    let wrong := ["bs", "ibs", "obs", "count", "skip", "seek"].find? fun n => (value? n).isSome && (number n).isNone
    match wrong with
    | some n =>
      complain x ("invalid number: " ++ quoted ((value? n).getD ""))
      return 1
    | none =>
      let size := ((number "bs").orElse fun _ => number "ibs").getD 512
      let outSize := ((number "bs").orElse fun _ => number "obs").getD 512
      let source ← match value? "if" with
        | some name => (·.mapError fun fault => (name, fault)) <$> Act.openFile name .read
        | none => pure (.ok Act.input)
      match source with
      | .error (name, fault) =>
        complain x ("failed to open " ++ quoted name ++ ": " ++ fault.words)
        return 1
      | .ok d =>
        let step (acc : Nat × List String) : Act (Except (Nat × List String) String) := do
          let (left, texts) := acc
          let done : Except (Nat × List String) String := .ok (String.join texts.reverse)
          if left = 0 then return done
          match ← Act.readAtMost d left with
          | .error _ => return done
          | .ok text => return if text.isEmpty then done else .error (left - text.length, text :: texts)
        let skipped := (number "skip").getD 0 * size
        let _ ← Act.settleWithin step Act.patience (skipped, [])
        let text? ← match number "count" with
          | some n => Act.settleWithin step Act.patience (n * size, [])
          | none => Except.toOption <$> Act.readAll d
        let text := text?.getD ""
        let fine ← match value? "of" with
          | none =>
            Act.print text
            pure true
          | some name =>
            let start := (number "seek").getD 0 * outSize
            let keeps := (((value? "conv").getD "").splitOn ",").contains "notrunc"
            let bytes := Octets.toBytes text
            changeOr x ("failed to open " ++ quoted name) (·.change (.ofOctets name) fun content =>
              content.take start ++ List.replicate (start - content.length) 0 ++ bytes
                ++ if keeps then content.drop (start + bytes.length) else [])
        let whole := text.length / size
        let rest := if text.length % size = 0 then 0 else 1
        if value? "status" ≠ some "none" then
          let line := toString whole ++ "+" ++ toString rest ++ " records "
          Act.complain (line ++ "in\n" ++ line ++ "out\n" ++ toString text.length ++ " bytes copied, 0.000100 s\n")
        return codeOf fine

/-- Makes a file or directory with a name that nothing has yet, and writes the name. -/
def mktemp : Body := fun x environment =>
  withOptions ⟨"dp:qtuT:", [("directory", 'd'), ("quiet", 'q'), ("dry-run", 'u'), ("tmpdir", 'T'), ("suffix", 's')], true⟩ 1 x fun p => do
    let t ← Act.files
    let (id, _) ← Act.identify
    let shape := p.operands.headD "tmp.XXXXXXXXXX"
    let base := (environment.lookup "TMPDIR").getD "/tmp"
    let inDirectory := p.operands.isEmpty || p.has 'p' || p.has 't' || p.has 'T'
    let directory := match p.value? 'p', p.value? 'T' with
      | some d, _ => d
      | none, some d => if d.isEmpty then base else d
      | none, none => base
    let marks := (shape.toList.reverse.takeWhile (· = 'X')).length
    if 1 < p.operands.length then misuse x 1 "too many templates"
    else if marks < 3 then
      complain x ("too few X's in template " ++ quoted shape)
      return 1
    else
      let stem := String.ofList (shape.toList.take (shape.length - marks))
      let candidates := (List.range (t.entries.length + 1)).map fun i =>
        let name := stem ++ Format.padded marks false 'A' (toString (id * 1000 + i))
        if inDirectory then under directory name else name
      match candidates.find? fun c => !(look t false c).isOk with
      | none => return 1
      | some path =>
        let kind := if p.has 'd' then "directory" else "file"
        let fine ← if p.has 'u' then pure true
          else changeOr x ("failed to create " ++ kind ++ " via template " ++ quoted shape) fun t =>
            if p.has 'd' then t.makeDirectory (.ofOctets path)
            else (t.obtainFile (.ofOctets path)).map (·.1)
        if fine then Act.print (path ++ "\n")
        return codeOf fine

end TierSweep.Utility
