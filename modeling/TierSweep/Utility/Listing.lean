import TierSweep.Text.Glob
import TierSweep.Utility.Condition
import TierSweep.Utility.Files
import TierSweep.Utility.Starting

/-!
# Programs that tell what files there are

These programs list directories, look for files, describe them, and take paths apart.
-/

namespace TierSweep.Utility

/-! ## Paths -/

/-- Writes the last names of paths. -/
def basename : Body := fun x _ =>
  withOptions ⟨"as:z", [("multiple", 'a'), ("suffix", 's'), ("zero", 'z')], false⟩ 1 x fun p => do
    let many := p.has 'a' || p.has 's'
    let strip (suffix name : String) : String :=
      if !suffix.isEmpty && name.endsWith suffix && suffix.length < name.length then
        takeChars (name.length - suffix.length) name
      else name
    let ending := if p.has 'z' then "\x00" else "\n"
    match p.operands with
    | [] => misuse x 1 "missing operand"
    | names =>
      if many then
        Act.print (String.join (names.map fun n => strip ((p.value? 's').getD "") (lastName n) ++ ending))
        return 0
      else match names with
        | [n] =>
          Act.print (lastName n ++ ending)
          return 0
        | [n, suffix] =>
          Act.print (strip suffix (lastName n) ++ ending)
          return 0
        | _ => misuse x 1 ("extra operand " ++ quoted ((names.drop 2).headD ""))

/-- Writes paths without their last names. -/
def dirname : Body := fun x _ =>
  withOptions ⟨"z", [("zero", 'z')], true⟩ 1 x fun p => do
    if p.operands.isEmpty then misuse x 1 "missing operand"
    else
      let ending := if p.has 'z' then "\x00" else "\n"
      Act.print (String.join (p.operands.map fun n => directoryName n ++ ending))
      return 0

/-- The path from the root to a place. -/
def placePath (place : Place) : String := Octets.ofBytes (Path.slash :: Path.unsegments place)

/-- The path from the root to where a path leads. What is missing is an error, unless it is the last name
or nothing need be there at all. -/
def canonical? (t : FileTree) (lastMayMiss anyMayMiss : Bool) (path : String) : Except FileFault String :=
  match t.find (.ofOctets path), t.follow (.ofOctets path) true with
  | .ok (place, _), _ => .ok (placePath place)
  | .error fault, .ok (.name directory last _) =>
    if fault = .notFound && (lastMayMiss || anyMayMiss) then .ok (placePath (directory ++ [last]))
    else .error fault
  | .error fault, _ =>
    if !anyMayMiss || path.isEmpty then .error fault
    else
      let rec climb : Nat → String → List String → Except FileFault String
        | 0, _, _ => .error .notFound
        | fuel + 1, p, names =>
          let d := directoryName p
          let names := lastName p :: names
          match t.find (.ofOctets d) with
          | .ok (place, _) => .ok (placePath (place ++ names.map Octets.toBytes))
          | .error _ => climb fuel d names
      climb (path.length + 1) path []

/-- Writes where symbolic links lead. -/
def readlink : Body := fun x _ =>
  withOptions ⟨"femnqsvz", [("canonicalize", 'f'), ("canonicalize-existing", 'e'), ("canonicalize-missing", 'm'),
    ("no-newline", 'n'), ("zero", 'z'), ("quiet", 'q'), ("silent", 'q'), ("verbose", 'v')], true⟩ 1 x fun p => do
    if p.operands.isEmpty then misuse x 1 "missing operand"
    else
      let ending := if p.has 'z' then "\x00" else if p.has 'n' && p.operands.length = 1 then "" else "\n"
      let fine ← forEach p.operands fun name => do
        let t ← Act.files
        let answer :=
          if p.has 'f' || p.has 'e' || p.has 'm' then canonical? t (!p.has 'e') (p.has 'm') name
          else match t.findItself (.ofOctets name) with
            | .ok (_, .link target) => .ok (Octets.ofBytes target)
            | .ok _ => .error .invalid
            | .error fault => .error fault
        match answer with
        | .ok text =>
          Act.print (text ++ ending)
          return true
        | .error fault =>
          if p.has 'v' then complain x (name ++ ": " ++ fault.words)
          return false
      return codeOf fine

/-- Writes where paths lead. -/
def realpath : Body := fun x _ =>
  withOptions ⟨"emLPqszR:B:", [("canonicalize-existing", 'e'), ("canonicalize-missing", 'm'), ("quiet", 'q'), ("zero", 'z'),
    ("no-symlinks", 's'), ("relative-to", 'R'), ("relative-base", 'B')], true⟩ 1 x fun p => do
    if p.operands.isEmpty then misuse x 1 "missing operand"
    else
      let ending := if p.has 'z' then "\x00" else "\n"
      let fine ← forEach p.operands fun name => do
        let t ← Act.files
        match canonical? t (!p.has 'e') (p.has 'm') name with
        | .ok text =>
          let text := match (p.value? 'R').map (canonical? t true true) with
            | some (.ok base) => relativePath base text
            | _ => text
          Act.print (text ++ ending)
          return true
        | .error fault =>
          if !p.has 'q' then complain x (name ++ ": " ++ fault.words)
          return false
      return codeOf fine
where
  /-- The way from one place to another. -/
  relativePath (base path : String) : String :=
    let names (s : String) : List String := (s.splitOn "/").filter (!·.isEmpty)
    let rec go : List String → List String → List String
      | a :: as, b :: bs => if a = b then go as bs else ((a :: as).map fun _ => "..") ++ (b :: bs)
      | as, bs => (as.map fun _ => "..") ++ bs
    let way := go (names base) (names path)
    if way.isEmpty then "." else "/".intercalate way

/-- Writes the working directory. -/
def pwd : Body := fun x environment =>
  withOptions ⟨"LP", [("logical", 'L'), ("physical", 'P')], true⟩ 1 x fun p => do
    let t ← Act.files
    let place := placePath t.working
    let named := (environment.lookup "PWD").getD ""
    let logical := p.has 'L' && named.startsWith "/" &&
      match t.find (.ofOctets named) with
      | .ok (q, _) => q = t.working
      | .error _ => false
    Act.print ((if logical then named else place) ++ "\n")
    return 0

/-! ## Descriptions -/

/-- The letter for what something is. -/
def kindLetter : FileEntry → Char
  | .directory => 'd'
  | .link _ => 'l'
  | .sink | .zeros => 'c'
  | .file _ _ | .program _ => '-'

/-- A mode in letters. -/
def modeText (e : FileEntry) : String :=
  let mode := FileTree.modeOf e
  let bit (n : Nat) (c : Char) : Char := if mode &&& n ≠ 0 then c else '-'
  let last (execute special : Nat) (c : Char) : Char :=
    if mode &&& special ≠ 0 then (if mode &&& execute ≠ 0 then c else c.toUpper) else bit execute 'x'
  String.ofList [kindLetter e, bit 0o400 'r', bit 0o200 'w', last 0o100 0o4000 's', bit 0o40 'r', bit 0o20 'w',
    last 0o10 0o2000 's', bit 4 'r', bit 2 'w', last 1 0o1000 't']

/-- How long something is. -/
def sizeOf (e : FileEntry) : Nat :=
  match e with
  | .file content _ => content.length
  | .link target => target.length
  | .directory => 4096
  | .sink | .zeros => 0
  | .program _ => 35664

/-- How many blocks something takes. -/
def blocksOf (e : FileEntry) : Nat :=
  match e with
  | .directory => 4
  | .file content _ => (content.length + 4095) / 4096 * 4
  | .program _ => 36
  | _ => 0

/-- Describes files. -/
def stat : Body := fun x _ =>
  withOptions ⟨"Lfc:p:t", [("dereference", 'L'), ("format", 'c'), ("printf", 'p'), ("terse", 't'), ("file-system", 'f')], true⟩ 1 x fun p => do
    if p.operands.isEmpty then misuse x 1 "missing operand"
    else
      let fine ← forEach p.operands fun name => do
        let t ← Act.files
        match look t (p.has 'L') name with
        | .error fault =>
          complain x ("cannot statx " ++ quoted name ++ ": " ++ fault.words)
          return false
        | .ok (place, e) =>
          let one (c : Char) : String := match c with
            | 'n' => name
            | 'N' => match e with
              | .link target => quoted name ++ " -> " ++ quoted (Octets.ofBytes target)
              | _ => quoted name
            | 's' => toString (sizeOf e)
            | 'a' => Format.digitsOf 8 (FileTree.modeOf e) false
            | 'A' => modeText e
            | 'F' => kindWords e
            | 'U' | 'G' => "root"
            | 'u' | 'g' => "0"
            | 'h' => if e = .directory then toString (2 + ((t.namesIn place).filter fun n =>
                t.entry? (place ++ [n]) = some .directory).length) else "1"
            | 'b' => toString (2 * blocksOf e)
            | 'B' => "512"
            | 'o' => "4096"
            | 'f' => Format.digitsOf 16 (FileTree.modeOf e + match e with
              | .directory => 0o40000
              | .link _ => 0o120000
              | .sink | .zeros => 0o20000
              | _ => 0o100000) false
            | 'X' | 'Y' | 'Z' | 'W' => "0"
            | '%' => "%"
            | _ => "?"
          let rec fill : List Char → List String
            | '%' :: c :: cs => one c :: fill cs
            | c :: cs => String.singleton c :: fill cs
            | [] => []
          match p.value? 'c', p.value? 'p' with
          | some f, _ => Act.print (String.join (fill f.toList) ++ "\n")
          | none, some f =>
            Act.print (String.join (fill (Format.unescape Format.formatEscapes f).1.toList))
          | none, none =>
            Act.print (String.join (fill ("  File: %n\n  Size: %s\t\tBlocks: %b\tIO Block: %o   %F\nAccess: (%a/%A)"
              ++ "  Uid: (%u/%U)   Gid: (%g/%G)\n").toList))
          return true
      return codeOf fine

/-! ## Directories -/

/-- How a listing shows a name: with a mark for what it is, if it is said. -/
def shownName (p : Parsed) (name : String) (e : FileEntry) : String :=
  name ++
    if p.has 'F' then
      match e with
      | .directory => "/"
      | .link _ => if p.has 'l' then "" else "@"
      | e => if e.isExecutable then "*" else ""
    else if p.has 'p' && e = .directory then "/"
    else ""

/-- The lines of a listing. -/
def listed (p : Parsed) (t : FileTree) (items : List (String × Place × FileEntry)) : String :=
  let long := p.has 'l' || p.has 'n' || p.has 'g' || p.has 'o'
  if !long then
    let names := items.map fun (name, _, e) =>
      (if p.has 's' then toString (blocksOf e) ++ " " else "") ++ shownName p name e
    if p.has 'm' then (if names.isEmpty then "" else ", ".intercalate names ++ "\n") else unlines names
  else
    let links (place : Place) (e : FileEntry) : Nat :=
      if e = .directory then
        2 + ((t.namesIn place).filter fun n => t.entry? (place ++ [n]) = some .directory).length
      else 1
    let width (f : Place → FileEntry → Nat) : Nat :=
      items.foldl (fun n (_, place, e) => max n (toString (f place e)).length) 0
    let sizeWidth := width fun _ e => sizeOf e
    let linkWidth := width links
    let owner := if p.has 'n' then "0" else "root"
    let row (item : String × Place × FileEntry) : String :=
      let (name, place, e) := item
      let parts := [modeText e, Format.padded linkWidth false ' ' (toString (links place e))]
        ++ (if p.has 'g' then [] else [owner]) ++ (if p.has 'o' then [] else [owner])
        ++ [Format.padded sizeWidth false ' ' (toString (sizeOf e)), "Jan  1 00:00", shownName p name e]
      let target := match e with
        | .link target => " -> " ++ Octets.ofBytes target
        | _ => ""
      " ".intercalate parts ++ target
    unlines (items.map row)

/-- Sorts what a listing shows. -/
def sortedItems (p : Parsed) (items : List (String × Place × FileEntry)) : List (String × Place × FileEntry) :=
  let byName := items.mergeSort fun a b => decide (a.1 ≤ b.1)
  let sorted :=
    if p.has 'U' || p.has 'f' then items
    else if p.has 'S' then byName.mergeSort fun a b => decide (sizeOf b.2.2 ≤ sizeOf a.2.2)
    else if p.has 't' then items.reverse
    else byName
  if p.has 'r' then sorted.reverse else sorted

/-- What a directory shows. -/
def directoryItems (p : Parsed) (t : FileTree) (place : Place) : List (String × Place × FileEntry) :=
  let all := p.has 'a' || p.has 'f'
  let own := (t.namesIn place).filterMap fun n =>
    let name := Octets.ofBytes n
    if name.startsWith "." && !all && !p.has 'A' then none
    else if p.has 'B' && name.endsWith "~" then none
    else (t.entry? (place ++ [n])).map fun e => (name, place ++ [n], e)
  let special := if all then [(".", place, FileEntry.directory), ("..", place.dropLast, .directory)] else []
  sortedItems p (special ++ own)

/-- Lists directories, and those in them if it is said, at most so deep. -/
def listWithin (p : Parsed) : Nat → Bool → Bool → String → Place → Act Unit
  | 0, _, _, _, _ => return
  | depth + 1, titled, begins, path, place => do
    let t ← Act.files
    let items := directoryItems p t place
    let total := items.foldl (fun n (_, _, e) => n + blocksOf e) 0
    let long := p.has 'l' || p.has 'n' || p.has 'g' || p.has 'o' || p.has 's'
    Act.print ((if titled then (if begins then "" else "\n") ++ path ++ ":\n" else "")
      ++ (if long then "total " ++ toString total ++ "\n" else "")
      ++ listed p t items)
    if p.has 'R' then
      (items.filter fun (name, _, e) => e = .directory && name ≠ "." && name ≠ "..").forM fun (name, q, _) =>
        listWithin p depth true false (under path name) q

/-- Lists files and what is in directories. -/
def ls : Body := fun x _ =>
  withOptions ⟨"aA1bBcCdDfFgGhHiI:klLmnNopqQrRsStT:uUvw:xXZ", [("all", 'a'), ("almost-all", 'A'), ("directory", 'd'),
    ("recursive", 'R'), ("reverse", 'r'), ("human-readable", 'h'), ("color", 'O'), ("size", 's')], true⟩ 2
    { x with arguments := x.arguments.filter fun a => !a.startsWith "--color" } fun p => do
    let t ← Act.files
    let names := if p.operands.isEmpty then ["."] else p.operands
    let follows := !(p.has 'l' || p.has 'd' || p.has 'F') || p.has 'L' || p.has 'H'
    let see (name : String) : Except FileFault (Place × FileEntry) :=
      match look t follows name with
      | .ok found => .ok found
      | .error fault =>
        match look t false name with
        | .ok found => .ok found
        | .error _ => .error fault
    let found ← names.foldlM (fun (acc : List (String × Place × FileEntry) × Bool) name => do
      match see name with
      | .ok (place, e) => return (acc.1 ++ [(name, place, e)], acc.2)
      | .error fault =>
        complain x ("cannot access " ++ quoted name ++ ": " ++ fault.words)
        return (acc.1, false)) ([], true)
    let (items, fine) := found
    let isOpened (i : String × Place × FileEntry) : Bool := i.2.2 = .directory && !p.has 'd'
    let plain := sortedItems p (items.filter (!isOpened ·))
    let opened := sortedItems p (items.filter isOpened)
    Act.print (listed p t plain)
    let titled := 1 < names.length || p.has 'R'
    let _ ← opened.foldlM (fun begins (name, place, _) => do
      listWithin p (t.entries.length + 1) titled begins name place
      return false) plain.isEmpty
    return if fine then 0 else 2

/-- Tells how much room files take. -/
def du : Body := fun x _ =>
  withOptions ⟨"abchksmd:", [("all", 'a'), ("summarize", 's'), ("bytes", 'b'), ("total", 'c'), ("max-depth", 'd')], true⟩ 1 x fun p => do
    let fine ← forEach (if p.operands.isEmpty then ["."] else p.operands) fun name => do
      let t ← Act.files
      match look t false name with
      | .error fault =>
        complain x ("cannot access " ++ quoted name ++ ": " ++ fault.words)
        return false
      | .ok _ =>
        let size (path : String) : Nat :=
          (allBelow t (t.entries.length + 1) path).foldl (fun n q => match look t false q with
            | .ok (_, e) => n + if p.has 'b' then sizeOf e else blocksOf e
            | .error _ => n) 0
        let shown := ((allBelow t (t.entries.length + 1) name).reverse).filter fun q =>
          q = name || (!p.has 's' && (p.has 'a' || match look t false q with
            | .ok (_, e) => e = .directory
            | .error _ => false))
        Act.print (unlines (shown.map fun q => toString (size q) ++ "\t" ++ q))
        return true
    return codeOf fine

/-! ## Looking for files -/

/-- What a search asks of a file or does with it. -/
inductive Criterion where
  | always
  | never
  | both (a b : Criterion)
  | either (a b : Criterion)
  | not (a : Criterion)
  | name (folds : Bool) (pattern : String)
  | path (folds : Bool) (pattern : String)
  | kind (letters : List Char)
  | empty
  /-- A number that is compared: more, less or equal. -/
  | size (sign? : Option Char) (count unit : Nat)
  | mode (sign? : Option Char) (bits : Nat)
  | executable
  | print (ending : String)
  | formatted (text : String)
  | delete
  | prune
  | stop
  | execute (words : List String)
  | executeAll (words : List String)

namespace Criterion

/-- Whether a criterion does something with the files that it is about. -/
def acts : Criterion → Bool
  | both a b | either a b => a.acts || b.acts
  | not a => a.acts
  | print _ | formatted _ | delete | stop | execute _ | executeAll _ => true
  | _ => false

/-- Whether a criterion takes files away. -/
def deletes : Criterion → Bool
  | both a b | either a b => a.deletes || b.deletes
  | not a => a.deletes
  | delete => true
  | _ => false

end Criterion

/-- What a search has come to. -/
structure Search where
  fine : Bool
  stopped : Bool
  /-- The files that programs are started with at the end, and the words before them. -/
  gathered : List (List String × String)

/-- A file that a search comes by. -/
structure Candidate where
  path : String
  place : Place
  entry : FileEntry
  depth : Nat

/-- Whether a text fits a pattern for file names. -/
def fitsPattern (folds : Bool) (pattern text : String) : Bool :=
  let fold (s : String) : List Char := (if folds then s.toLower else s).toList
  Glob.fits (Glob.ofMarks (Glob.marksOfChars (fold pattern))) (fold text)

/-- Applies a criterion to a file: whether it holds, and whether what is in the file is passed over. -/
def applyCriterion (x : Executable) (environment : Environment) (f : Candidate) :
    Criterion → Search → Act (Bool × Bool × Search)
  | .always, s => return (true, false, s)
  | .never, s => return (false, false, s)
  | .both a b, s => do
    let (holds, passes, s) ← applyCriterion x environment f a s
    if !holds || s.stopped then return (false, passes, s)
    let (holds, more, s) ← applyCriterion x environment f b s
    return (holds, passes || more, s)
  | .either a b, s => do
    let (holds, passes, s) ← applyCriterion x environment f a s
    if holds || s.stopped then return (holds, passes, s)
    let (holds, more, s) ← applyCriterion x environment f b s
    return (holds, passes || more, s)
  | .not a, s => do
    let (holds, passes, s) ← applyCriterion x environment f a s
    return (!holds, passes, s)
  | .name folds pattern, s => return (fitsPattern folds pattern (lastName f.path), false, s)
  | .path folds pattern, s => return (fitsPattern folds pattern f.path, false, s)
  | .kind letters, s =>
    return (letters.contains (if kindLetter f.entry = '-' then 'f' else kindLetter f.entry), false, s)
  | .empty, s => do
    let t ← Act.files
    return (match f.entry with
      | .directory => (t.namesIn f.place).isEmpty
      | .file content _ => content.isEmpty
      | _ => false, false, s)
  | .size sign? count unit, s =>
    let n := (sizeOf f.entry + unit - 1) / unit
    return (compared sign? n count, false, s)
  | .mode sign? bits, s =>
    let mode := FileTree.modeOf f.entry
    return (match sign? with
      | some '-' => mode &&& bits = bits
      | some '/' => bits = 0 || mode &&& bits ≠ 0
      | _ => mode = bits, false, s)
  | .executable, s => return (f.entry.isExecutable || f.entry = .directory, false, s)
  | .print ending, s => do
    Act.print (f.path ++ ending)
    return (true, false, s)
  | .formatted text, s => do
    Act.print (String.join (fill text.toList))
    return (true, false, s)
  | .delete, s => do
    if f.path = "." then return (true, false, s)
    let fine ← changeOr x ("cannot delete " ++ quoted f.path) fun t =>
      if f.entry = .directory then t.removeDirectory (.ofOctets f.path) else t.removeFile (.ofOctets f.path)
    return (fine, false, { s with fine := s.fine && fine })
  | .prune, s => return (true, true, s)
  | .stop, s => return (true, false, { s with stopped := true })
  | .execute words, s => do
    let child ← Act.fork (becomeOrReport x quoted (words.map (fillIn "\x7b\x7d" f.path)) environment)
    return (decide ((← await child).status = 0), false, s)
  | .executeAll words, s => return (true, false, { s with gathered := s.gathered ++ [(words, f.path)] })
where
  /-- Compares two numbers as the sign says. -/
  compared (sign? : Option Char) (n count : Nat) : Bool :=
    match sign? with
    | some '+' => count < n
    | some '-' => n < count
    | _ => n = count
  /-- A format with what is known about the file. -/
  fill : List Char → List String
    | '%' :: c :: cs => (match c with
      | 'p' => f.path
      | 'f' => lastName f.path
      | 'h' => if f.path.toList.contains '/' then directoryName f.path else "."
      | 's' => toString (sizeOf f.entry)
      | 'm' => Format.digitsOf 8 (FileTree.modeOf f.entry) false
      | 'd' => toString f.depth
      | 'y' => if kindLetter f.entry = '-' then "f" else String.singleton (kindLetter f.entry)
      | 'P' => "/".intercalate ((f.path.splitOn "/").drop ((f.path.splitOn "/").length - f.depth))
      | '%' => "%"
      | c => String.ofList ['%', c]) :: fill cs
    | c :: cs => String.singleton c :: fill cs
    | [] => []

/-- Where a search begins and ends, and in which order it goes. -/
structure SearchBounds where
  least : Nat
  most : Nat
  /-- Whether what is in a directory comes before it. -/
  inside : Bool
  follows : Bool

/-- Searches a file and all below it, at most so deep. -/
def searchWithin (x : Executable) (environment : Environment) (b : SearchBounds) (c : Criterion) :
    Nat → Nat → String → Search → Act Search
  | 0, _, _, s => return s
  | fuel + 1, depth, path, s => do
    if s.stopped then return s
    let t ← Act.files
    let seen : Except FileFault (Place × FileEntry) := match look t b.follows path with
      | .ok found => .ok found
      | .error _ => look t false path
    match seen with
    | .error fault =>
      if depth = 0 then complain x (quoted path ++ ": " ++ fault.words)
      return { s with fine := s.fine && 0 < depth }
    | .ok (place, entry) =>
      let visit (s : Search) : Act (Bool × Search) := do
        if depth < b.least then return (false, s)
        let (_, passes, s) ← applyCriterion x environment ⟨path, place, entry, depth⟩ c s
        return (passes, s)
      let descend (s : Search) : Act Search := do
        if entry ≠ .directory || b.most ≤ depth then return s
        let t ← Act.files
        ((t.namesIn place).map Octets.ofBytes).foldlM
          (fun s name => searchWithin x environment b c fuel (depth + 1) (under path name) s) s
      if b.inside then
        let s ← descend s
        if s.stopped then return s
        return (← visit s).2
      else
        let (passes, s) ← visit s
        if passes then return s else descend s

/-- Reads criteria: first alternatives, then those that must hold together, then single ones. -/
def readCriteria (b : SearchBounds) : Nat → List String → Except String (Criterion × SearchBounds × List String)
  | 0, _ => .error "expression is too long"
  | fuel + 1, words => alternatives fuel b words
where
  /-- Criteria of which one must hold. -/
  alternatives : Nat → SearchBounds → List String → Except String (Criterion × SearchBounds × List String)
    | 0, _, _ => .error "expression is too long"
    | fuel + 1, b, words => do
      let (c, b, rest) ← together fuel b words
      match rest with
      | "-o" :: rest | "-or" :: rest =>
        let (d, b, rest) ← alternatives fuel b rest
        pure (.either c d, b, rest)
      | rest => pure (c, b, rest)
  /-- Criteria that must all hold. -/
  together : Nat → SearchBounds → List String → Except String (Criterion × SearchBounds × List String)
    | 0, _, _ => .error "expression is too long"
    | fuel + 1, b, words => do
      let (c, b, rest) ← single fuel b words
      match rest with
      | [] | ")" :: _ | "-o" :: _ | "-or" :: _ => pure (c, b, rest)
      | "-a" :: rest | "-and" :: rest =>
        let (d, b, rest) ← together fuel b rest
        pure (.both c d, b, rest)
      | rest =>
        let (d, b, rest) ← together fuel b rest
        pure (.both c d, b, rest)
  /-- One criterion. -/
  single : Nat → SearchBounds → List String → Except String (Criterion × SearchBounds × List String)
    | 0, _, _ => .error "expression is too long"
    | fuel + 1, b, words =>
      match words with
      | "!" :: rest | "-not" :: rest => do
        let (c, b, rest) ← single fuel b rest
        pure (.not c, b, rest)
      | "(" :: rest => do
        match ← alternatives fuel b rest with
        | (c, b, ")" :: rest) => pure (c, b, rest)
        | _ => throw "invalid expression; I was expecting to find a ')' somewhere but did not see one."
      | "-print" :: rest => .ok (.print "\n", b, rest)
      | "-print0" :: rest => .ok (.print "\x00", b, rest)
      | "-delete" :: rest => .ok (.delete, { b with inside := true }, rest)
      | "-depth" :: rest | "-d" :: rest => .ok (.always, { b with inside := true }, rest)
      | "-prune" :: rest => .ok (.prune, b, rest)
      | "-quit" :: rest => .ok (.stop, b, rest)
      | "-true" :: rest => .ok (.always, b, rest)
      | "-false" :: rest => .ok (.never, b, rest)
      | "-empty" :: rest => .ok (.empty, b, rest)
      | "-follow" :: rest => .ok (.always, { b with follows := true }, rest)
      | "-mount" :: rest | "-xdev" :: rest => .ok (.always, b, rest)
      | "-executable" :: rest => .ok (.executable, b, rest)
      | "-readable" :: rest | "-writable" :: rest => .ok (.always, b, rest)
      | "-exec" :: rest | "-execdir" :: rest | "-ok" :: rest =>
        let words := rest.takeWhile fun w => w ≠ ";" && w ≠ "+"
        match rest.drop words.length with
        | ";" :: rest => .ok (.execute words, b, rest)
        | "+" :: rest => .ok (.executeAll (words.filter (· ≠ "\x7b\x7d")), b, rest)
        | _ => .error "missing argument to '-exec'"
      | word :: argument :: rest => withArgument b word argument rest
      | [word] =>
        if ["-name", "-iname", "-path", "-type", "-size", "-maxdepth", "-mindepth", "-perm", "-printf"].contains word then
          .error ("missing argument to '" ++ word ++ "'")
        else .error ("unknown predicate '" ++ word ++ "'")
      | [] => .error "expected an expression"
  /-- A criterion with an argument. -/
  withArgument (b : SearchBounds) (word argument : String) (rest : List String) :
      Except String (Criterion × SearchBounds × List String) :=
    let signed : Option Char × String := match argument.toList with
      | '+' :: cs => (some '+', String.ofList cs)
      | '-' :: cs => (some '-', String.ofList cs)
      | '/' :: cs => (some '/', String.ofList cs)
      | _ => (none, argument)
    match word with
    | "-name" => .ok (.name false argument, b, rest)
    | "-iname" => .ok (.name true argument, b, rest)
    | "-path" | "-wholename" => .ok (.path false argument, b, rest)
    | "-ipath" => .ok (.path true argument, b, rest)
    | "-type" =>
      let letters := (argument.splitOn ",").flatMap String.toList
      if letters.all ['f', 'd', 'l', 'c', 'b', 'p', 's'].contains then .ok (.kind letters, b, rest)
      else .error ("Unknown argument to -type: " ++ argument)
    | "-maxdepth" =>
      match digits? argument with
      | some n => .ok (.always, { b with most := n }, rest)
      | none => .error ("Expected a positive decimal integer argument to -maxdepth, but got " ++ quoted argument)
    | "-mindepth" =>
      match digits? argument with
      | some n => .ok (.always, { b with least := n }, rest)
      | none => .error ("Expected a positive decimal integer argument to -mindepth, but got " ++ quoted argument)
    | "-size" =>
      let (sign?, text) := signed
      let ds := text.toList.takeWhile Char.isDigit
      let unit? : Option Nat := match text.toList.drop ds.length with
        | [] | ['b'] => some 512
        | ['c'] => some 1
        | ['w'] => some 2
        | ['k'] => some 1024
        | ['M'] => some 1048576
        | ['G'] => some 1073741824
        | _ => none
      match digits? (String.ofList ds), unit? with
      | some n, some unit => .ok (.size sign? n unit, b, rest)
      | _, _ => .error ("Invalid argument " ++ quoted argument ++ " to -size")
    | "-perm" =>
      let (sign?, text) := signed
      match Mode.change? 0 text with
      | some change => .ok (.mode sign? (change false 0), b, rest)
      | none => .error ("invalid mode " ++ quoted argument)
    | "-printf" => .ok (.formatted (Format.unescape Format.formatEscapes argument).1, b, rest)
    | "-newer" | "-user" | "-group" | "-mtime" | "-mmin" => .ok (.never, b, rest)
    | _ => .error ("unknown predicate '" ++ word ++ "'")

/-- Looks for files. -/
def find : Body := fun x environment => do
  if ["--help", "-help", "--version", "-version"].any x.arguments.contains then return ← introduce x
  let isExpression (a : String) : Bool := (a.startsWith "-" && 1 < a.length) || a = "(" || a = "!"
  let flags := x.arguments.takeWhile fun a => ["-L", "-H", "-P"].contains a
  let arguments := x.arguments.drop flags.length
  let starts := arguments.takeWhile (!isExpression ·)
  let words := arguments.drop starts.length
  let bounds : SearchBounds := ⟨0, 1000000000, false, flags.contains "-L"⟩
  let fuel := 3 * words.length + 5
  let parsed := if words.isEmpty then .ok (.always, bounds, []) else readCriteria bounds fuel words
  match parsed with
  | .error fault =>
    complain x fault
    return 1
  | .ok (_, _, word :: _) =>
    complain x (if word = ")" then "invalid expression; you have used a binary operator with nothing before it."
      else "paths must precede expression: '" ++ word ++ "'")
    return 1
  | .ok (c, bounds, []) =>
    let c := if c.acts then c else .both c (.print "\n")
    let t ← Act.files
    let s ← (if starts.isEmpty then ["."] else starts).foldlM
      (fun s start => searchWithin x environment bounds c (t.entries.length + 2) 0 start s)
      (⟨true, false, []⟩ : Search)
    let groups := (s.gathered.map (·.1)).eraseDups
    let fine ← groups.foldlM (fun fine words => do
      let paths := (s.gathered.filter (·.1 = words)).map (·.2)
      let child ← Act.fork (becomeOrReport x quoted (words ++ paths) environment)
      return decide ((← await child).status = 0) && fine) true
    return codeOf (s.fine && fine)

end TierSweep.Utility
