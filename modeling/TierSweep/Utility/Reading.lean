import TierSweep.Utility.Format
import TierSweep.Utility.Options

/-!
# Programs that read text

These programs read files or their input and write it again, wholly or in part, or count what is in it.
-/

namespace TierSweep.Utility

/-- The number that digits write. -/
def digits? (s : String) : Option Nat :=
  if !s.isEmpty && s.toList.all Char.isDigit then s.toNat? else none

/-- Copies from one descriptor to another up to the end. -/
def copyAll (source target : Nat) : Act Bool := do
  let step (_ : Unit) : Act (Except Unit Bool) := do
    match ← Act.read source with
    | .error _ => return .ok false
    | .ok text =>
      if text.isEmpty then return .ok true
      match ← Act.write target text with
      | .ok _ => return .error ()
      | .error _ => return .ok false
  return (← Act.settleWithin step Act.patience ()).getD false

/-- A byte as it is shown. -/
def shownByte (tabs : Bool) (c : Char) : String :=
  let n := c.toNat
  let low (n : Nat) : String :=
    if n = 127 then "^?" else if n < 32 then "^" ++ String.singleton (Char.ofNat (n + 64))
    else String.singleton (Char.ofNat n)
  if c = '\n' || (c = '\t' && !tabs) then String.singleton c
  else if 128 ≤ n then "M-" ++ low (n - 128)
  else low n

/-- Lines without the empty ones that follow an empty one. -/
def squeezed : List String → List String
  | a :: b :: rest => if a.isEmpty && b.isEmpty then squeezed (b :: rest) else a :: squeezed (b :: rest)
  | ls => ls

/-- Writes files one after another. -/
def cat : Body := fun x _ =>
  withOptions ⟨"AbeEnstTuv", [("show-all", 'A'), ("number-nonblank", 'b'), ("show-ends", 'E'), ("number", 'n'),
    ("squeeze-blank", 's'), ("show-tabs", 'T'), ("show-nonprinting", 'v')], true⟩ 1 x fun p => do
    let ends := p.has 'E' || p.has 'A' || p.has 'e'
    let tabs := p.has 'T' || p.has 'A' || p.has 't'
    let bytes := p.has 'v' || p.has 'A' || p.has 'e' || p.has 't'
    let isPlain := !(ends || tabs || bytes || p.has 'n' || p.has 'b' || p.has 's')
    let names := if p.operands.isEmpty then ["-"] else p.operands
    let open_ (name : String) : Act (Option Nat) := do
      if name = "-" then return some Act.input
      match ← Act.openFile name .read with
      | .ok d => return some d
      | .error fault =>
        complain x (name ++ ": " ++ fault.words)
        return none
    if isPlain then
      let fine ← forEach names fun name => do
        match ← open_ name with
        | none => return false
        | some d =>
          let t ← Act.files
          if name ≠ "-" && t.hasDirectory (.ofOctets name) then
            complain x (name ++ ": Is a directory")
            return false
          let fine ← copyAll d Act.output
          if name ≠ "-" then Act.close d
          return fine
      return codeOf fine
    else
      let step (acc : String × Bool) (name : String) : Act (String × Bool) := do
        match ← open_ name with
        | none => return (acc.1, false)
        | some d =>
          match ← Act.readAll d with
          | .ok text => return (acc.1 ++ text, acc.2)
          | .error fault =>
            complain x (name ++ ": " ++ fault.words)
            return (acc.1, false)
      let (text, fine) ← names.foldlM step ("", true)
      let unfinished := !text.isEmpty && text.toList.getLast? ≠ some '\n'
      let ls := if p.has 's' then squeezed (linesOf text) else linesOf text
      let show_ (l : String) : String :=
        if bytes || tabs then
          String.join (l.toList.map fun c =>
            if c = '\t' then (if tabs then "^I" else "\t")
            else if bytes then shownByte tabs c else String.singleton c)
        else l
      let (out, _) := ls.foldl (fun (acc : List String × Nat) l =>
        let counts := if p.has 'b' then !l.isEmpty else p.has 'n'
        let n := if counts then acc.2 + 1 else acc.2
        let lead := if counts then Format.padded 6 false ' ' (toString n) ++ "\t" else ""
        ((lead ++ show_ l ++ if ends then "$" else "") :: acc.1, n)) ([], 0)
      let whole := "\n".intercalate out.reverse
      Act.print (if unfinished || out.isEmpty then whole else whole ++ "\n")
      return codeOf fine

/-- A count of bytes or lines, perhaps with a sign in front and a unit behind. -/
def count? (s : String) : Option (Option Char × Nat) :=
  let cs := s.toList
  let (sign, cs) := match cs with
    | '+' :: rest => (some '+', rest)
    | '-' :: rest => (some '-', rest)
    | _ => (none, cs)
  let ds := cs.takeWhile Char.isDigit
  let unit? : Option Nat := match cs.drop ds.length with
    | [] => some 1
    | ['b'] => some 512
    | ['k'] | ['K'] => some 1024
    | ['M'] => some 1048576
    | _ => none
  match (String.ofList ds).toNat?, unit? with
  | some n, some unit => if ds.isEmpty then none else some (sign, n * unit)
  | _, _ => none

/-- Arguments in which a count alone behind a dash is written as an option. -/
def modernized (as : List String) : List String :=
  match as with
  | a :: rest =>
    match a.toList with
    | '-' :: d :: ds =>
      if d.isDigit then
        let number := (d :: ds).takeWhile Char.isDigit
        let letters := (d :: ds).drop number.length
        let unit := if letters.contains 'c' then "-c" else "-n"
        [unit, String.ofList number] ++ rest
      else as
    | '+' :: d :: ds =>
      if d.isDigit then "-n" :: String.ofList ('+' :: d :: ds) :: rest else as
    | _ => as
  | [] => []

/-- Text cut behind each end of a line. -/
def pieces (text : String) : List String :=
  let parts := text.splitOn "\n"
  let whole := parts.dropLast.map (· ++ "\n")
  match parts.getLast? with
  | some "" | none => whole
  | some last => whole ++ [last]

/-- The first characters of a text. -/
def takeChars (n : Nat) (s : String) : String := String.ofList (s.toList.take n)

/-- The text behind the first characters. -/
def dropChars (n : Nat) (s : String) : String := String.ofList (s.toList.drop n)

/-- The beginning of a text: so many bytes or lines, or all but so many. -/
def beginning (bytes : Bool) (allBut : Bool) (n : Nat) (text : String) : String :=
  if bytes then takeChars (if allBut then text.length - n else n) text
  else
    let ps := pieces text
    String.join (ps.take (if allBut then ps.length - n else n))

/-- The end of a text: so many bytes or lines, or all from one on. -/
def ending (bytes : Bool) (from_ : Bool) (n : Nat) (text : String) : String :=
  if bytes then dropChars (if from_ then n - 1 else text.length - n) text
  else
    let ps := pieces text
    String.join (ps.drop (if from_ then n - 1 else ps.length - n))

/-- Writes parts of files, with their names if there are several. A part is written by reading from a
descriptor. -/
def writeParts (x : Executable) (p : Parsed) (part : Nat → Act Bool) : Act Nat := do
  let names := if p.operands.isEmpty then ["-"] else p.operands
  let titled := (1 < names.length && !p.has 'q') || p.has 'v'
  let step (acc : Bool × Bool) (name : String) : Act (Bool × Bool) := do
    let opened ← if name = "-" then pure (.ok Act.input) else Act.openFile name .read
    match opened with
    | .error fault =>
      complain x ("cannot open " ++ quoted name ++ " for reading: " ++ fault.words)
      return (acc.1, false)
    | .ok d =>
      let title := if name = "-" then "standard input" else name
      if titled then Act.print ((if acc.1 then "" else "\n") ++ "==> " ++ title ++ " <==\n")
      let t ← Act.files
      let fine ← if name ≠ "-" && t.hasDirectory (.ofOctets name) then
          complain x ("error reading " ++ quoted name ++ ": Is a directory")
          pure false
        else part d
      if name ≠ "-" then Act.close d
      return (false, acc.2 && fine)
  let (_, fine) ← names.foldlM step (true, true)
  return codeOf fine

/-- Writes a part of all that is left to read. -/
def partOfRest (part : String → String) (d : Nat) : Act Bool := do
  match ← Act.readAll d with
  | .ok text =>
    Act.print (part text)
    return true
  | .error _ => return false

/-- Copies at most so many lines from a file, and reads no further. -/
def copyLines (d : Nat) : Nat → Act Bool
  | 0 => return true
  | n + 1 => do
    match ← Act.readLine d with
    | .error _ => return false
    | .ok line =>
      if line.isEmpty then return true
      Act.print line
      copyLines d n

/-- Copies at most so many lines, but more may be read. -/
def passLines (d lines : Nat) : Act Bool := do
  let step (left : Nat) : Act (Except Nat Bool) := do
    if left = 0 then return .ok true
    match ← Act.read d with
    | .error _ => return .ok false
    | .ok text =>
      if text.isEmpty then return .ok true
      let taken := (pieces text).take left
      Act.print (String.join taken)
      return .error (left - (taken.filter fun (l : String) => l.endsWith "\n").length)
  return (← Act.settleWithin step Act.patience lines).getD false

/-- Copies at most so many bytes. -/
def copyBytes (d bytes : Nat) : Act Bool := do
  let step (left : Nat) : Act (Except Nat Bool) := do
    if left = 0 then return .ok true
    match ← Act.readAtMost d left with
    | .error _ => return .ok false
    | .ok text =>
      if text.isEmpty then return .ok true
      Act.print text
      return .error (left - text.length)
  return (← Act.settleWithin step Act.patience bytes).getD false

/-- Writes the beginning of files. -/
def head : Body := fun x _ =>
  withOptions ⟨"n:c:qvz", [("lines", 'n'), ("bytes", 'c'), ("quiet", 'q'), ("silent", 'q'), ("verbose", 'v')], true⟩ 1
    { x with arguments := modernized x.arguments } fun p => do
    let last := (p.options.filter fun o => o.1 = 'n' || o.1 = 'c').getLast?.getD ('n', "10")
    let bytes := last.1 = 'c'
    match count? last.2 with
    | none => misuseCount x bytes last.2
    | some (sign?, n) =>
      writeParts x p fun d => do
        if sign? = some '-' then partOfRest (beginning bytes true n) d
        else if bytes then copyBytes d n
        else if d ≠ Act.input || (← Act.measure d).isNone then passLines d n
        else copyLines d n
where
  /-- Reports a count that is none. -/
  misuseCount (x : Executable) (bytes : Bool) (text : String) : Act Nat := do
    complain x ("invalid number of " ++ (if bytes then "bytes" else "lines") ++ ": " ++ quoted text)
    return 1

/-- Writes the end of files. -/
def tail : Body := fun x _ =>
  withOptions ⟨"n:c:qvfFz", [("lines", 'n'), ("bytes", 'c'), ("quiet", 'q'), ("silent", 'q'), ("verbose", 'v')], true⟩ 1
    { x with arguments := modernized x.arguments } fun p => do
    let last := (p.options.filter fun o => o.1 = 'n' || o.1 = 'c').getLast?.getD ('n', "10")
    let bytes := last.1 = 'c'
    match count? last.2 with
    | none => head.misuseCount x bytes last.2
    | some (sign?, n) => writeParts x p (partOfRest (ending bytes (sign? = some '+') n))

/-- The counts of a text: lines, words, bytes, and the length of its longest line. -/
structure Counts where
  lines : Nat
  words : Nat
  bytes : Nat
  longest : Nat

namespace Counts

/-- Nothing counted. -/
def zero : Counts := ⟨0, 0, 0, 0⟩

/-- Whether a character separates words. -/
def isSpace (c : Char) : Bool := c = ' ' || (9 ≤ c.toNat && c.toNat ≤ 13)

/-- The counts of a text. -/
def ofText (text : String) : Counts :=
  let (lines, words, bytes, longest, current, _) := text.toList.foldl
    (fun (l, w, b, m, k, inside) c =>
      let space := isSpace c
      let k' := if c = '\n' then 0 else k + 1
      (if c = '\n' then l + 1 else l, if !space && !inside then w + 1 else w, b + 1, max m k', k', !space))
    (0, 0, 0, 0, 0, false)
  ⟨lines, words, bytes, max longest current⟩

/-- The counts of two texts together. -/
def add (a b : Counts) : Counts :=
  ⟨a.lines + b.lines, a.words + b.words, a.bytes + b.bytes, max a.longest b.longest⟩

end Counts

/-- Counts lines, words and bytes. -/
def wc : Body := fun x _ =>
  withOptions ⟨"lwcmL", [("lines", 'l'), ("words", 'w'), ("bytes", 'c'), ("chars", 'm'), ("max-line-length", 'L')], true⟩ 1 x
    fun p => do
    let chosen := ['l', 'w', 'm', 'c', 'L'].filter p.has
    let chosen := if chosen.isEmpty then ['l', 'w', 'c'] else chosen
    let names := p.operands
    let t ← Act.files
    let size (name : String) : Option Nat :=
      match t.find (.ofOctets name) with
      | .ok (_, .file content _) => some content.length
      | _ => none
    let inputSize ← Act.measure Act.input
    let sizes := if names.isEmpty then [inputSize]
      else (names.filter fun n => n = "-" || t.has (.ofOctets n)).map fun n =>
        if n = "-" then inputSize else size n
    let total := sizes.foldl (fun n s => n + s.getD 0) 0
    let width :=
      if names.length ≤ 1 && chosen.length = 1 then 1
      else if sizes.isEmpty then 1
      else max (toString total).length (if sizes.any Option.isNone then 7 else 1)
    let line (c : Counts) (name : String) : String :=
      let numbers := chosen.map fun k => match k with
        | 'l' => c.lines
        | 'w' => c.words
        | 'L' => c.longest
        | _ => c.bytes
      " ".intercalate (numbers.map fun n => Format.padded width false ' ' (toString n))
        ++ (if name.isEmpty then "" else " " ++ name) ++ "\n"
    let step (acc : Counts × Bool) (name : String) : Act (Counts × Bool) := do
      let answer ← if name = "-" || name.isEmpty then Act.readAll Act.input else Act.readFile name
      match answer with
      | .ok text =>
        let c := Counts.ofText text
        Act.print (line c name)
        return (acc.1.add c, acc.2)
      | .error fault =>
        complain x (name ++ ": " ++ fault.words)
        if fault = .isDirectory then Act.print (line .zero name)
        return (acc.1, false)
    let (sum, fine) ← (if names.isEmpty then [""] else names).foldlM step (.zero, true)
    if 1 < names.length then Act.print (line sum "total")
    return codeOf fine

/-- Writes its input to its output and to files. -/
def tee : Body := fun x _ =>
  withOptions ⟨"aip", [("append", 'a'), ("ignore-interrupts", 'i')], true⟩ 1 x fun p => do
    let mode : OpenMode := if p.has 'a' then .append else .write
    let step (acc : List Nat × Bool) (name : String) : Act (List Nat × Bool) := do
      match ← Act.openFile name mode with
      | .ok d => return (acc.1 ++ [d], acc.2)
      | .error fault =>
        complain x (name ++ ": " ++ fault.words)
        return (acc.1, false)
    let (files, fine) ← p.operands.foldlM step ([], true)
    let copy (_ : Unit) : Act (Except Unit Bool) := do
      match ← Act.read Act.input with
      | .error _ => return .ok false
      | .ok text =>
        if text.isEmpty then return .ok true
        (Act.output :: files).forM fun d => do
          let _ ← Act.write d text
        return .error ()
    let read := (← Act.settleWithin copy Act.patience ()).getD false
    return codeOf (fine && read)

/-- Writes the same line again and again. -/
def yes : Body := fun x _ => do
  let line := (if x.arguments.isEmpty then "y" else " ".intercalate x.arguments) ++ "\n"
  let block := String.join (List.replicate 64 line)
  let _ ← Act.repeatWithin (do
    match ← Act.write Act.output block with
    | .ok _ => return none
    | .error _ => return some ()) Act.patience
  return 1

/-- Writes the lines of files, each from its end to its beginning. -/
def rev : Body := fun x _ => do
  let fine ← withInputs x x.arguments fun _ text => do
    let turned := (pieces text).map fun l =>
      let cs := l.toList
      if cs.getLast? = some '\n' then String.ofList (cs.dropLast.reverse ++ ['\n'])
      else String.ofList cs.reverse
    Act.print (String.join turned)
    return true
  return codeOf fine

/-- Writes the lines of files, the last first. -/
def tac : Body := fun x _ => do
  let fine ← withInputs x x.arguments fun _ text => do
    Act.print (String.join (pieces text).reverse)
    return true
  return codeOf fine

end TierSweep.Utility
