import TierSweep.Digest.Sha256
import TierSweep.Utility.Condition
import TierSweep.Utility.Files
import TierSweep.Utility.Starting

/-!
# Programs that write what they are told or what they know

These programs write their arguments, test a condition, compare files, or tell about the machine and the time.
-/

namespace TierSweep.Utility

/-- Succeeds. -/
def succeed : Body := fun _ _ => return 0

/-- Fails. -/
def failing : Body := fun _ _ => return 1

/-- Whether the only argument of a program asks what it is. -/
def isQuestion (x : Executable) : Bool := x.arguments = ["--help"] || x.arguments = ["--version"]

/-- Writes its arguments. -/
def echo : Body := fun x _ => do
  if isQuestion x then return ← introduce x
  let isOption (a : String) : Bool :=
    match a.toList with
    | '-' :: c :: cs => (c :: cs).all ['n', 'e', 'E'].contains
    | _ => false
  let options := x.arguments.takeWhile isOption
  let letters := options.flatMap fun a => a.toList.drop 1
  let text := " ".intercalate (x.arguments.drop options.length)
  let resolves := (letters.filter (· ≠ 'n')).getLast? = some 'e'
  let (text, isCut) := if resolves then Format.unescape ⟨true, true, true, true⟩ text else (text, false)
  Act.print (text ++ if letters.contains 'n' || isCut then "" else "\n")
  return 0

/-- Writes its arguments by a format. -/
def printf : Body := fun x _ => do
  if isQuestion x then return ← introduce x
  match x.arguments with
  | [] => misuse x 1 "missing operand"
  | "--" :: [] => misuse x 1 "missing operand"
  | "--" :: format :: rest => written x format rest
  | format :: rest => written x format rest
where
  /-- Writes arguments by a format. -/
  written (x : Executable) (format : String) (rest : List String) : Act Nat := do
    let p := Format.write ⟨false, false, true, true⟩ ⟨true, false, true, true⟩ format rest
    Act.print p.text
    p.complaints.forM fun c => complain x c
    return if p.failed then 1 else 0

/-- Whether a condition holds. The first name a program is called by tells whether a bracket closes it. -/
def test : Body := fun x _ => do
  let closed := x.program = "["
  if closed && x.arguments.getLast? ≠ some "]" then
    complain x "missing ']'"
    return 2
  let words := if closed then x.arguments.dropLast else x.arguments
  let t ← Act.files
  match Condition.holds ⟨[], "invalid integer "⟩ t words with
  | .ok b => return if b then 0 else 1
  | .error fault =>
    complain x fault
    return 2

/-! ## The machine -/

/-- Tells where programs lie. -/
def which : Body := fun x environment =>
  withOptions ⟨"as", [], false⟩ 2 x fun p => do
    if p.operands.isEmpty then return 1
    let directories := (environment.lookup "PATH").getD ""
    let fine ← forEach p.operands fun name => do
      let t ← Act.files
      let candidates := if name.toList.contains '/' then [name] else Path.candidates directories name
      let found := candidates.filter fun c =>
        match t.find (.ofOctets c) with
        | .ok (_, e) => e.isExecutable
        | .error _ => false
      match found with
      | [] => return false
      | first :: _ =>
        if !p.has 's' then Act.print (unlines (if p.has 'a' then found else [first]))
        return true
    return codeOf fine

/-- Tells who the user is. -/
def whoami : Body := fun x _ =>
  withOptions ⟨"", [], true⟩ 1 x fun p => withoutOperands x p do
    Act.print "root\n"
    return 0

/-- Tells the numbers and names of the user and its groups. -/
def user : Body := fun x _ =>
  withOptions ⟨"agGnruzZ", [("user", 'u'), ("group", 'g'), ("groups", 'G'), ("name", 'n'), ("real", 'r')], true⟩ 1 x fun p => do
    if let some name := p.operands.find? fun n => n ≠ "root" && n ≠ "0" then
      complain x (quoted name ++ ": no such user")
      return 1
    let one := if p.has 'n' then "root" else "0"
    Act.print (if p.has 'u' || p.has 'g' || p.has 'G' then one ++ "\n"
      else "uid=0(root) gid=0(root) groups=0(root)\n")
    return 0

/-- Tells the name of the machine. -/
def hostname : Body := fun _ _ => do
  Act.print "localhost\n"
  return 0

/-- Tells what kind of machine it is. -/
def uname : Body := fun x _ =>
  withOptions ⟨"asnrvmpio", [("all", 'a'), ("kernel-name", 's'), ("nodename", 'n'), ("kernel-release", 'r'), ("machine", 'm'),
    ("operating-system", 'o')], true⟩ 1 x fun p => do
    match p.operands with
    | extra :: _ => misuse x 1 ("extra operand " ++ quoted extra)
    | [] =>
      let facts := [('s', "Linux"), ('n', "localhost"), ('r', "6.1.0"), ('v', "#1 SMP"), ('m', "x86_64"), ('o', "GNU/Linux")]
      let chosen := facts.filter fun f => p.has 'a' || p.has f.1
      Act.print (" ".intercalate ((if chosen.isEmpty then facts.take 1 else chosen).map (·.2)) ++ "\n")
      return 0

/-- Tells how many processors there are. -/
def nproc : Body := fun x _ =>
  withOptions ⟨"ai:", [("all", 'a'), ("ignore", 'i')], true⟩ 1 x fun p => withoutOperands x p do
    Act.print "1\n"
    return 0

/-- Makes sure that files are written, which they always are. -/
def sync : Body := fun x _ =>
  withOptions ⟨"df", [("data", 'd'), ("file-system", 'f')], true⟩ 1 x fun p => do
    let t ← Act.files
    let fine ← forEach p.operands fun name => do
      match t.find (.ofOctets name) with
      | .ok _ => return true
      | .error fault =>
        complain x ("error opening " ++ quoted name ++ ": " ++ fault.words)
        return false
    return codeOf fine

/-! ## The time -/

/-- The seconds that count as passed when the clock begins. -/
def clockStart : Nat := 1767225600

/-- Whether a year has a leap day. -/
def isLeap (year : Nat) : Bool := year % 4 = 0 && (year % 100 ≠ 0 || year % 400 = 0)

/-- The year that a day counted from the beginning of 1970 belongs to, and the day in it. -/
def yearOf : Nat → Nat → Nat → Nat × Nat
  | 0, year, day => (year, day)
  | fuel + 1, year, day =>
    let length := if isLeap year then 366 else 365
    if day < length then (year, day) else yearOf fuel (year + 1) (day - length)

/-- The month that a day of a year belongs to, and the day in it, both counted from zero. -/
def monthOf (leap : Bool) (day : Nat) : Nat × Nat :=
  let lengths := [31, if leap then 29 else 28, 31, 30, 31, 30, 31, 31, 30, 31, 30, 31]
  let rec go : Nat → Nat → List Nat → Nat × Nat
    | n, day, l :: ls => if day < l then (n, day) else go (n + 1) (day - l) ls
    | n, day, [] => (n, day)
  go 0 day lengths

/-- A point in time by a format. -/
def timeText (seconds nanos : Nat) : Nat → List Char → String
  | 0, _ => ""
  | fuel + 1, cs =>
    let day := seconds / 86400
    let (year, dayOfYear) := yearOf (day + 1) 1970 day
    let (month, dayOfMonth) := monthOf (isLeap year) dayOfYear
    let two (n : Nat) : String := Format.padded 2 false '0' (toString n)
    let hour := seconds / 3600 % 24
    let minute := seconds / 60 % 60
    let second := seconds % 60
    let weekDays := ["Thursday", "Friday", "Saturday", "Sunday", "Monday", "Tuesday", "Wednesday"]
    let months := ["January", "February", "March", "April", "May", "June", "July", "August", "September", "October",
      "November", "December"]
    let weekDay := weekDays[day % 7]?.getD ""
    let monthName := months[month]?.getD ""
    let one (c : Char) : String := match c with
      | 's' => toString seconds
      | 'N' => Format.padded 9 false '0' (toString nanos)
      | 'Y' => toString year
      | 'y' => two (year % 100)
      | 'C' => two (year / 100)
      | 'm' => two (month + 1)
      | 'd' => two (dayOfMonth + 1)
      | 'e' => Format.padded 2 false ' ' (toString (dayOfMonth + 1))
      | 'j' => Format.padded 3 false '0' (toString (dayOfYear + 1))
      | 'H' => two hour
      | 'k' => Format.padded 2 false ' ' (toString hour)
      | 'I' => two ((hour + 11) % 12 + 1)
      | 'M' => two minute
      | 'S' => two second
      | 'p' => if hour < 12 then "AM" else "PM"
      | 'A' => weekDay
      | 'a' => takeChars 3 weekDay
      | 'B' => monthName
      | 'b' | 'h' => takeChars 3 monthName
      | 'u' => toString ((day + 3) % 7 + 1)
      | 'w' => toString ((day + 4) % 7)
      | 'Z' => "UTC"
      | 'z' => "+0000"
      | 'F' => timeText seconds nanos fuel "%Y-%m-%d".toList
      | 'T' | 'X' => timeText seconds nanos fuel "%H:%M:%S".toList
      | 'R' => timeText seconds nanos fuel "%H:%M".toList
      | 'D' | 'x' => timeText seconds nanos fuel "%m/%d/%y".toList
      | 'c' => timeText seconds nanos fuel "%a %b %e %H:%M:%S %Y".toList
      | 'n' => "\n"
      | 't' => "\t"
      | '%' => "%"
      | c => String.ofList ['%', c]
    match cs with
    | '%' :: '3' :: 'N' :: rest => takeChars 3 (one 'N') ++ timeText seconds nanos fuel rest
    | '%' :: '6' :: 'N' :: rest => takeChars 6 (one 'N') ++ timeText seconds nanos fuel rest
    | '%' :: '-' :: c :: rest =>
      let digits := (one c).toList.dropWhile fun d => d = '0' || d = ' '
      (if digits.isEmpty then "0" else String.ofList digits) ++ timeText seconds nanos fuel rest
    | '%' :: c :: rest => one c ++ timeText seconds nanos fuel rest
    | c :: rest => String.singleton c ++ timeText seconds nanos fuel rest
    | [] => ""

/-- Tells the time. -/
def date : Body := fun x _ =>
  withOptions ⟨"ud:r:R", [("utc", 'u'), ("universal", 'u'), ("date", 'd'), ("reference", 'r')], true⟩ 1 x fun p => do
    let now ← Act.clock
    let given? : Option (Option Nat) := (p.value? 'd').map fun d =>
      match d.toList with
      | '@' :: cs => digits? (String.ofList cs)
      | _ => if d = "now" || d.isEmpty then some (clockStart + now.seconds) else none
    match given?, p.operands with
    | some none, _ =>
      complain x ("invalid date " ++ quoted ((p.value? 'd').getD ""))
      return 1
    | given?, operands =>
      let (seconds, nanos) := match given? with
        | some (some s) => (s, 0)
        | _ => (clockStart + now.seconds, now.subsecNanos)
      match operands with
      | [] =>
        Act.print (timeText seconds nanos 100 "%a %b %e %H:%M:%S UTC %Y".toList ++ "\n")
        return 0
      | [f] =>
        if f.startsWith "+" then
          Act.print (timeText seconds nanos (f.length + 100) (dropChars 1 f).toList ++ "\n")
          return 0
        else
          complain x ("invalid date " ++ quoted f)
          return 1
      | _ :: extra :: _ => misuse x 1 ("extra operand " ++ quoted extra)

/-! ## Comparing files -/

/-- Writes digests of files. -/
def sha256sum : Body := fun x _ =>
  withOptions ⟨"bctwz", [("check", 'c'), ("binary", 'b'), ("text", 't')], true⟩ 1 x fun p => do
    let fine ← withInputs x p.operands fun name text => do
      Act.print (Hex.ofBytes (Sha256.hash (Octets.toBytes text)) ++ "  " ++ name ++ "\n")
      return true
    return codeOf fine

/-- Reads two files, or reports those that cannot be read. -/
def readBoth (x : Executable) (a b : String) : Act (Option (String × String)) := do
  let read (name : String) : Act (Option String) := do
    match ← if name = "-" then Act.readAll Act.input else Act.readFile name with
    | .ok text => return some text
    | .error fault =>
      complain x (name ++ ": " ++ fault.words)
      return none
  match ← read a, ← read b with
  | some s, some t => return some (s, t)
  | _, _ => return none

/-- Compares two files byte by byte. -/
def cmp : Body := fun x _ =>
  withOptions ⟨"bi:ln:s", [("quiet", 's'), ("silent", 's'), ("verbose", 'l'), ("bytes", 'n')], true⟩ 2 x fun p => do
    match p.operands with
    | [] => misuse x 2 "missing operand after 'cmp'"
    | a :: rest =>
      let b := rest.headD "-"
      let x := if p.has 's' then { x with self := "" } else x
      let quiet := p.has 's'
      let both? ← if quiet then do
          let t ← Act.files
          let has (n : String) : Bool := n = "-" || (t.has (.ofOctets n) && !t.hasDirectory (.ofOctets n))
          if has a && has b then readBoth x a b else pure none
        else readBoth x a b
      match both? with
      | none => return 2
      | some (s, t) =>
        let limit := ((p.value? 'n').bind digits?)
        let cut (s : String) : List Char := match limit with
          | some n => s.toList.take n
          | none => s.toList
        let cs := cut s
        let ds := cut t
        let shared := ((cs.zip ds).takeWhile fun (c, d) => c = d).length
        if cs = ds then return 0
        else
          if shared = cs.length || shared = ds.length then
            let short := if cs.length < ds.length then a else b
            if !quiet then
              Act.complain ("cmp: EOF on " ++ short ++ " after byte " ++ toString shared ++ ", line "
                ++ toString ((cs.take shared).filter (· = '\n')).length ++ "\n")
          else if !quiet then
            Act.print (a ++ " " ++ b ++ " differ: char " ++ toString (shared + 1) ++ ", line "
              ++ toString (((cs.take shared).filter (· = '\n')).length + 1) ++ "\n")
          return 1

/-- A change that leads from some lines to others: the lines that are left out, those that take their place,
and where both begin, counted from zero. -/
structure Hunk where
  old : List String
  new : List String
  oldStart : Nat
  newStart : Nat

/-- The length of the longest common part of two lists, for all their ends: the row for the first list, given
the row for its tail. -/
def commonRow (l : String) : List String → List Nat → List Nat
  | m :: ms, n :: ns =>
    match commonRow l ms ns with
    | r :: rs => (if l = m then (ns.headD 0) + 1 else max n r) :: r :: rs
    | [] => []
  | _, _ => [0]

/-- The rows for all ends of a list, the whole first. -/
def commonRows (ms : List String) : List String → List (List Nat)
  | [] => [List.replicate (ms.length + 1) 0]
  | l :: ls =>
    match commonRows ms ls with
    | row :: rows => commonRow l ms row :: row :: rows
    | [] => []

/-- The changes that lead from some lines to others, going by the rows for their ends. -/
def hunks : Nat → Nat → Nat → List (List Nat) → List String → List String → List Hunk
  | 0, _, _, _, _, _ => []
  | fuel + 1, i, j, rows, ls, ms =>
    match ls, ms with
    | [], [] => []
    | l :: ls', m :: ms' =>
      if l = m then hunks fuel (i + 1) (j + 1) (rows.tail.map List.tail) ls' ms'
      else
        let down := ((rows.drop 1).headD []).headD 0
        let right := (rows.headD []).tail.headD 0
        if right ≤ down then joined ⟨[l], [], i, j⟩ (hunks fuel (i + 1) j rows.tail ls' ms)
        else joined ⟨[], [m], i, j⟩ (hunks fuel i (j + 1) (rows.map List.tail) ls ms')
    | ls, ms => [⟨ls, ms, i, j⟩]
where
  /-- Puts a change before others; it is one with the first if they touch. -/
  joined (h : Hunk) : List Hunk → List Hunk
    | k :: ks =>
      if k.oldStart = h.oldStart + h.old.length && k.newStart = h.newStart + h.new.length then
        ⟨h.old ++ k.old, h.new ++ k.new, h.oldStart, h.newStart⟩ :: ks
      else h :: k :: ks
    | [] => [h]

/-- A change as it is shown. -/
def Hunk.text (h : Hunk) : String :=
  let range (start count : Nat) : String :=
    if count = 0 then toString start
    else if count = 1 then toString (start + 1)
    else toString (start + 1) ++ "," ++ toString (start + count)
  let letter := if h.old.isEmpty then "a" else if h.new.isEmpty then "d" else "c"
  range h.oldStart h.old.length ++ letter ++ range h.newStart h.new.length ++ "\n"
    ++ String.join (h.old.map fun l => "< " ++ l ++ "\n")
    ++ (if h.old.isEmpty || h.new.isEmpty then "" else "---\n")
    ++ String.join (h.new.map fun l => "> " ++ l ++ "\n")

/-- Compares two files, or two directories at most so deep; whether they are the same, if they could be
read. -/
def compareWithin (x : Executable) (p : Parsed) : Nat → Bool → String → String → Act (Option Bool)
  | 0, _, _, _ => return some true
  | depth + 1, inner, a, b => do
    let t ← Act.files
    match t.find (.ofOctets a), t.find (.ofOctets b) with
    | .ok (place, .directory), .ok (q, .directory) =>
      if inner && !p.has 'r' then
        Act.print ("Common subdirectories: " ++ a ++ " and " ++ b ++ "\n")
        return some true
      let own := sortedNames t place
      let others := sortedNames t q
      let all := (own ++ others.filter (!own.contains ·)).mergeSort fun m n => decide (m ≤ n)
      all.foldlM (fun same? name => do
        let new? ← if own.contains name && others.contains name then
            compareWithin x p depth true (under a name) (under b name)
          else
            Act.print ("Only in " ++ (if own.contains name then a else b) ++ ": " ++ name ++ "\n")
            pure (some false)
        return match same?, new? with
          | some m, some n => some (m && n)
          | _, _ => none) (some true)
    | _, _ =>
      match ← readBoth x a b with
      | none => return none
      | some (s, u) =>
        if s = u then
          if p.has 's' then Act.print ("Files " ++ a ++ " and " ++ b ++ " are identical\n")
          return some true
        if p.has 'q' then Act.print ("Files " ++ a ++ " and " ++ b ++ " differ\n")
        else
          let ls := linesOf s
          let ms := linesOf u
          let options := String.join ((x.arguments.filter (·.startsWith "-")).map (" " ++ ·))
          if inner then Act.print ("diff" ++ options ++ " " ++ a ++ " " ++ b ++ "\n")
          Act.print (String.join ((hunks (ls.length + ms.length + 1) 0 0 (commonRows ms ls) ls ms).map Hunk.text))
        return some false

/-- Compares two files line by line, or two directories. -/
def diff : Body := fun x _ =>
  withOptions ⟨"abBwiqrsuU:NyctTE", [("brief", 'q'), ("unified", 'u'), ("recursive", 'r'), ("ignore-all-space", 'w'),
    ("ignore-case", 'i'), ("new-file", 'N'), ("report-identical-files", 's')], true⟩ 2 x fun p => do
    match p.operands with
    | [a, b] =>
      let t ← Act.files
      let within (d other : String) : String :=
        if isDirectory t d && !isDirectory t other then under d (lastName other) else d
      match ← compareWithin x p (t.entries.length + 2) false (within a b) (within b a) with
      | some same => return codeOf same
      | none => return 2
    | [] => misuse x 2 "missing operand after 'diff'"
    | [a] => misuse x 2 ("missing operand after " ++ quoted a)
    | _ :: _ :: extra :: _ => misuse x 2 ("extra operand " ++ quoted extra)

end TierSweep.Utility
