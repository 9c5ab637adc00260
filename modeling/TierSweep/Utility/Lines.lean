import TierSweep.Text.Glob
import TierSweep.Utility.Reading

/-!
# Programs that work line by line

These programs sort lines, leave some out, cut parts out of them, join them, number them, or change their
characters.
-/

namespace TierSweep.Utility

/-! ## Sorting -/

/-- A part of lines by which they are sorted. -/
structure SortKey where
  /-- The field and the character in it where the part begins, counted from zero. -/
  first : Nat × Nat
  /-- The field where it ends and how many of its characters belong to it, if not all. -/
  last? : Option (Nat × Option Nat)
  letters : List Char

/-- Where numbers that are sorted begin and end: their sign and their digits. -/
def sortNumber (s : String) : Int × List Char :=
  let cs := s.toList.dropWhile isBlankChar
  let (negative, cs) := match cs with
    | '-' :: cs => (true, cs)
    | _ => (false, cs)
  let whole := cs.takeWhile Char.isDigit
  let fraction := match cs.drop whole.length with
    | '.' :: more => more.takeWhile Char.isDigit
    | _ => []
  let scale := 12
  let fraction := (fraction ++ List.replicate scale '0').take scale
  let n : Nat := (whole ++ fraction).foldl (fun n c => 10 * n + (c.toNat - '0'.toNat)) 0
  (if negative then -(n : Int) else n, [])
where
  /-- Whether a character is a blank. -/
  isBlankChar (c : Char) : Bool := c = ' ' || c = '\t'

/-- The fields of a line: cut at a separator, or before each run of blanks. -/
def sortFields (separator? : Option Char) (line : String) : List String :=
  match separator? with
  | some c => line.splitOn (String.singleton c)
  | none => (go line.toList).map String.ofList
where
  /-- Cuts before each run of blanks that follows something else. -/
  go : List Char → List (List Char)
    | [] => [[]]
    | c :: cs =>
      match go cs with
      | [] => [[c]]
      | f :: fs =>
        if !sortNumber.isBlankChar c && (cs.head?.map sortNumber.isBlankChar).getD false then
          [c] :: f :: fs
        else (c :: f) :: fs

/-- The part of a line by which it is sorted. -/
def SortKey.part (k : SortKey) (separator? : Option Char) (line : String) : String :=
  let between := match separator? with
    | some c => String.singleton c
    | none => ""
  let fields := sortFields separator? line
  let skip (s : String) (n : Nat) : String :=
    let s := if k.letters.contains 'b' then
      String.ofList (s.toList.dropWhile sortNumber.isBlankChar) else s
    dropChars n s
  let upTo := match k.last? with
    | none => fields
    | some (f, none) => fields.take (f + 1)
    | some (f, some n) => fields.take f ++ (fields[f]?.map (takeChars n)).toList
  match upTo.drop k.first.1 with
  | [] => ""
  | f :: fs => between.intercalate (skip f k.first.2 :: fs)

/-- How two texts are ordered. -/
def compareTexts (letters : List Char) (a b : String) : Ordering :=
  let keep (s : String) : String :=
    let cs := s.toList
    let cs := if letters.contains 'd' then cs.filter fun c => c.isAlphanum || c = ' ' || c = '\t' else cs
    let cs := if letters.contains 'i' then cs.filter fun c => 32 ≤ c.toNat && c.toNat ≤ 126 else cs
    let cs := if letters.contains 'b' then cs.dropWhile sortNumber.isBlankChar else cs
    String.ofList (if letters.contains 'f' then cs.map Char.toUpper else cs)
  let order :=
    if letters.contains 'n' || letters.contains 'g' then compare (sortNumber a).1 (sortNumber b).1
    else if letters.contains 'V' then
      compareVersions (a.length + b.length + 1) a.toList b.toList
    else compare (keep a) (keep b)
  if letters.contains 'r' then order.swap else order
where
  /-- How two texts are ordered when digits in them are numbers. -/
  compareVersions : Nat → List Char → List Char → Ordering
    | 0, _, _ => .eq
    | _, [], [] => .eq
    | _, [], _ => .lt
    | _, _, [] => .gt
    | fuel + 1, c :: cs, d :: ds =>
      if c.isDigit && d.isDigit then
        let m := (c :: cs).takeWhile Char.isDigit
        let n := (d :: ds).takeWhile Char.isDigit
        match compare ((String.ofList m).toNat?.getD 0) ((String.ofList n).toNat?.getD 0) with
        | .eq => compareVersions fuel ((c :: cs).drop m.length) ((d :: ds).drop n.length)
        | o => o
      else match compare c d with
        | .eq => compareVersions fuel cs ds
        | o => o

/-- Reads a part by which lines are sorted. -/
def sortKey? (s : String) : Option SortKey :=
  let position (cs : List Char) : Option (Nat × Option Nat × List Char) :=
    let f := cs.takeWhile Char.isDigit
    let rest := cs.drop f.length
    (String.ofList f).toNat?.map fun n =>
      match rest with
      | '.' :: more =>
        let d := more.takeWhile Char.isDigit
        (n, (String.ofList d).toNat?, more.drop d.length)
      | _ => (n, none, rest)
  let (front, back) := match s.splitOn "," with
    | [a] => (a, none)
    | [a, b] => (a, some b)
    | _ => ("", none)
  match position front.toList with
  | none => none
  | some (f, c?, letters) =>
    if f = 0 then none
    else match back with
      | none => some ⟨(f - 1, (c?.getD 1) - 1), none, letters⟩
      | some back =>
        (position back.toList).map fun (g, d?, more) =>
          ⟨(f - 1, (c?.getD 1) - 1), some (g - 1, d?.bind fun d => if d = 0 then none else some d),
            letters ++ more⟩

/-- Sorts lines. -/
def sort : Body := fun x _ =>
  withOptions ⟨"bcCdfghik:mMno:rRsS:t:T:uVz", [("reverse", 'r'), ("unique", 'u'), ("numeric-sort", 'n'), ("key", 'k'),
    ("field-separator", 't'), ("output", 'o'), ("check", 'c'), ("stable", 's'), ("ignore-case", 'f'),
    ("version-sort", 'V'), ("ignore-leading-blanks", 'b')], true⟩ 2 x fun p => do
    let read (acc : List String × Bool) (name : String) : Act (List String × Bool) := do
      let answer ← if name = "-" then Act.readAll Act.input else Act.readFile name
      match answer with
      | .ok text => return (acc.1 ++ linesOf text, acc.2)
      | .error fault =>
        complain x ("cannot read: " ++ name ++ ": " ++ fault.words)
        return (acc.1, false)
    let (ls, fine) ← (if p.operands.isEmpty then ["-"] else p.operands).foldlM read ([], true)
    if !fine then return 2
    let letters := (p.options.map (·.1)).filter ['b', 'd', 'f', 'g', 'i', 'n', 'r', 'V'].contains
    let separator? := (p.value? 't').bind fun s => s.toList.head?
    let parts := (p.options.filter (·.1 = 'k')).map (·.2)
    if let some part := parts.find? fun k => (sortKey? k).isNone then
      complain x ("invalid field specification " ++ quoted part)
      return 2
    let keys := parts.filterMap sortKey?
    let byKeys (a b : String) : Ordering :=
      if keys.isEmpty then compareTexts letters a b
      else keys.foldl (fun o k =>
        if o ≠ .eq then o
        else
          let ls := if k.letters.isEmpty then letters else k.letters
          compareTexts ls (k.part separator? a) (k.part separator? b)) .eq
    let order (a b : String) : Ordering :=
      match byKeys a b with
      | .eq =>
        if p.has 's' || p.has 'u' then .eq
        else if letters.contains 'r' then compare b a else compare a b
      | o => o
    if p.has 'c' || p.has 'C' then
      let rec misplaced : Nat → List String → Option (Nat × String)
        | n, a :: b :: rest =>
          let o := order a b
          if o = .gt || (o = .eq && p.has 'u') then some (n + 1, b) else misplaced (n + 1) (b :: rest)
        | _, _ => none
      match misplaced 1 ls with
      | none => return 0
      | some (n, l) =>
        if p.has 'c' then
          complain x (p.operands.headD "-" ++ ":" ++ toString n ++ ": disorder: " ++ l)
        return 1
    let sorted := ls.mergeSort fun a b => order a b ≠ .gt
    let rec distinct : List String → List String
      | a :: b :: rest => if byKeys a b = .eq then distinct (a :: rest) else a :: distinct (b :: rest)
      | ls => ls
      termination_by ls => ls.length
    let out := unlines (if p.has 'u' then distinct sorted else sorted)
    match p.value? 'o' with
    | none =>
      Act.print out
      return 0
    | some name =>
      match ← Act.openFile name .write with
      | .ok d =>
        let _ ← Act.write d out
        return 0
      | .error fault =>
        complain x ("open failed: " ++ name ++ ": " ++ fault.words)
        return 2

/-- Runs of lines that count as the same, and how long they are. -/
def runsOf (same : String → String → Bool) : List String → List (String × Nat)
  | [] => []
  | l :: ls =>
    match runsOf same ls with
    | (m, n) :: rest => if same l m then (l, n + 1) :: rest else (l, 1) :: (m, n) :: rest
    | [] => [(l, 1)]

/-- Leaves out lines that are the same as the one before. -/
def uniq : Body := fun x _ =>
  withOptions ⟨"cdDuif:s:w:z", [("count", 'c'), ("repeated", 'd'), ("unique", 'u'), ("ignore-case", 'i'),
    ("skip-fields", 'f'), ("skip-chars", 's'), ("check-chars", 'w')], true⟩ 1 x fun p => do
    let number (c : Char) : Nat := ((p.value? c).bind digits?).getD 0
    let key (l : String) : String :=
      let rec skipFields : Nat → List Char → List Char
        | 0, cs => cs
        | n + 1, cs =>
          skipFields n ((cs.dropWhile sortNumber.isBlankChar).dropWhile (!sortNumber.isBlankChar ·))
      let cs := (skipFields (number 'f') l.toList).drop (number 's')
      let cs := if p.has 'w' then cs.take (number 'w') else cs
      String.ofList (if p.has 'i' then cs.map Char.toLower else cs)
    let work (name text : String) : Act Bool := do
      let _ := name
      let runs := runsOf (fun a b => key a = key b) (linesOf text)
      let runs := runs.filter fun r => (!p.has 'd' || 1 < r.2) && (!p.has 'u' || r.2 = 1)
      let out := unlines (runs.map fun r =>
        if p.has 'c' then Format.padded 7 false ' ' (toString r.2) ++ " " ++ r.1 else r.1)
      match p.operands[1]? with
      | none => Act.print out
      | some target =>
        match ← Act.openFile target .write with
        | .ok d => let _ ← Act.write d out
        | .error fault => complain x (target ++ ": " ++ fault.words)
      return true
    return codeOf (← withInputs x (p.operands.take 1) work)

/-- Writes which lines of two sorted files are in one or both. -/
def comm : Body := fun x _ =>
  withOptions ⟨"123", [], true⟩ 1 x fun p => do
    match p.operands with
    | [a, b] =>
      let read (name : String) : Act (Option String) := do
        match ← if name = "-" then Act.readAll Act.input else Act.readFile name with
        | .ok text => return some text
        | .error fault =>
          complain x (name ++ ": " ++ fault.words)
          return none
      match ← read a, ← read b with
      | some s, some t =>
        let one (column : Nat) (l : String) : List String :=
          let left := (['1', '2', '3'].take column).filter (!p.has ·)
          if (['1', '2', '3'][column]?.map p.has).getD false then []
          else [String.join (left.map fun _ => "\t") ++ l]
        let rec merge : Nat → List String → List String → List String
          | 0, _, _ => []
          | _, [], [] => []
          | fuel + 1, l :: ls, [] => one 0 l ++ merge fuel ls []
          | fuel + 1, [], m :: ms => one 1 m ++ merge fuel [] ms
          | fuel + 1, l :: ls, m :: ms =>
            match compare l m with
            | .lt => one 0 l ++ merge fuel ls (m :: ms)
            | .gt => one 1 m ++ merge fuel (l :: ls) ms
            | .eq => one 2 l ++ merge fuel ls ms
        let ls := linesOf s
        let ms := linesOf t
        Act.print (unlines (merge (ls.length + ms.length + 1) ls ms))
        return 0
      | _, _ => return 1
    | [] => misuse x 1 "missing operand"
    | [a] => misuse x 1 ("missing operand after " ++ quoted a)
    | _ :: _ :: c :: _ => misuse x 1 ("extra operand " ++ quoted c)

/-! ## Cutting and joining -/

/-- Reads a list of ranges: where they begin and, if they end, where. -/
def ranges? (s : String) : Option (List (Nat × Option Nat)) :=
  (s.splitOn ",").mapM fun r =>
    match r.splitOn "-" with
    | [n] => (digits? n).bind fun n => if n = 0 then none else some (n, some n)
    | [a, b] =>
      if a.isEmpty && b.isEmpty then none
      else do
        let first ← if a.isEmpty then some 1 else digits? a
        let last? ← if b.isEmpty then some none else (digits? b).map some
        if first = 0 || (last?.map fun l => decide (l < first)).getD false then none
        else pure (first, last?)
    | _ => none

/-- Whether a number lies in one of some ranges. -/
def inRanges (rs : List (Nat × Option Nat)) (n : Nat) : Bool :=
  rs.any fun (a, b?) => a ≤ n && (b?.map fun b => decide (n ≤ b)).getD true

/-- The members of a list whose numbers, counted from one, lie in some ranges. -/
def selected {α : Type} (rs : List (Nat × Option Nat)) (complement : Bool) (as : List α) : List α :=
  ((as.zip (List.range as.length)).filter fun (_, i) => inRanges rs (i + 1) ≠ complement).map (·.1)

/-- Writes parts of lines. -/
def cut : Body := fun x _ =>
  withOptions ⟨"b:c:d:f:nsO:Cz", [("bytes", 'b'), ("characters", 'c'), ("delimiter", 'd'), ("fields", 'f'),
    ("only-delimited", 's'), ("output-delimiter", 'O'), ("complement", 'C')], true⟩ 1 x fun p => do
    let list? := (p.options.filter fun o => ['b', 'c', 'f'].contains o.1).head?
    match list? with
    | none => misuse x 1 "you must specify a list of bytes, characters, or fields"
    | some (kind, list) =>
      match ranges? list with
      | none =>
        misuse x 1 (if kind = 'f' then "invalid field range" else "invalid byte, character or field list")
      | some rs =>
        let d := p.value? 'd'
        if (d.map String.length).getD 1 ≠ 1 then misuse x 1 "the delimiter must be a single character"
        else if d.isSome && kind ≠ 'f' then
          misuse x 1 "an input delimiter may be specified only when operating on fields"
        else
          let separator := d.getD "\t"
          let between := (p.value? 'O').getD separator
          let one (l : String) : List String :=
            if kind = 'f' then
              let fs := l.splitOn separator
              if fs.length ≤ 1 then (if p.has 's' then [] else [l])
              else [between.intercalate (selected rs (p.has 'C') fs)]
            else [String.ofList (selected rs (p.has 'C') l.toList)]
          let fine ← withInputs x p.operands fun _ text => do
            Act.print (unlines ((linesOf text).flatMap one))
            return true
          return codeOf fine

/-- A text with the notations in a list of separators resolved. -/
def separatorsOf : List Char → List String
  | '\\' :: 'n' :: cs => "\n" :: separatorsOf cs
  | '\\' :: 't' :: cs => "\t" :: separatorsOf cs
  | '\\' :: '0' :: cs => "" :: separatorsOf cs
  | '\\' :: c :: cs => String.singleton c :: separatorsOf cs
  | c :: cs => String.singleton c :: separatorsOf cs
  | [] => []

/-- Texts joined by separators, which are used in turn. -/
def joinedBy (separators : List String) (as : List String) : String :=
  let n := max 1 separators.length
  ((as.zip (List.range as.length)).foldl (fun s (a, i) =>
    s ++ (if i = 0 then "" else separators[(i - 1) % n]?.getD "") ++ a) "")

/-- Joins the lines of files side by side, or those of each file. -/
def paste : Body := fun x _ =>
  withOptions ⟨"d:sz", [("delimiters", 'd'), ("serial", 's')], true⟩ 1 x fun p => do
    let separators := separatorsOf ((p.value? 'd').getD "\t").toList
    let names := if p.operands.isEmpty then ["-"] else p.operands
    let inputs := (names.filter (· = "-")).length
    let answer ← if inputs = 0 then pure (.ok "") else Act.readAll Act.input
    let text := answer.toOption.getD ""
    let shared := linesOf text
    let read (acc : List (List String) × Nat × Bool) (name : String) :
        Act (List (List String) × Nat × Bool) := do
      let (columns, taken, fine) := acc
      if name = "-" then
        let own := if p.has 's' then (if taken = 0 then shared else [])
          else ((shared.zip (List.range shared.length)).filter fun (_, i) => i % inputs = taken).map (·.1)
        return (columns ++ [own], taken + 1, fine)
      match ← Act.readFile name with
      | .ok text => return (columns ++ [linesOf text], taken, fine)
      | .error fault =>
        complain x (name ++ ": " ++ fault.words)
        return (columns, taken, false)
    let (columns, _, fine) ← names.foldlM read ([], 0, true)
    if !fine then return 1
    let rows :=
      if p.has 's' then columns
      else
        let height := columns.foldl (fun n c => max n c.length) 0
        (List.range height).map fun i => columns.map fun column => column[i]?.getD ""
    Act.print (unlines (rows.map (joinedBy separators)))
    return 0

/-- Breaks lines that are too long. -/
def fold : Body := fun x _ =>
  withOptions ⟨"bsw:", [("width", 'w'), ("spaces", 's'), ("bytes", 'b')], true⟩ 1
    { x with arguments := match modernized x.arguments with
        | "-n" :: rest => "-w" :: rest
        | as => as } fun p => do
    match digits? ((p.value? 'w').getD "80") with
    | none | some 0 => misuse x 1 ("invalid number of columns: " ++ quoted ((p.value? 'w').getD ""))
    | some width =>
      let rec broken : Nat → List Char → List String
        | 0, cs => [String.ofList cs]
        | fuel + 1, cs =>
          if cs.length ≤ width then [String.ofList cs]
          else
            let front := cs.take width
            let blank := front.reverse.dropWhile (· ≠ ' ')
            let n := if p.has 's' && !blank.isEmpty then blank.length else width
            String.ofList (cs.take n) :: broken fuel (cs.drop n)
      let fine ← withInputs x p.operands fun _ text => do
        let out := (pieces text).map fun l =>
          let ended := l.endsWith "\n"
          let cs := if ended then l.toList.dropLast else l.toList
          "\n".intercalate (broken (cs.length + 1) cs) ++ if ended then "\n" else ""
        Act.print (String.join out)
        return true
      return codeOf fine

/-- Numbers lines. -/
def nl : Body := fun x _ =>
  withOptions ⟨"b:w:s:n:v:i:h:f:d:l:p", [("body-numbering", 'b'), ("number-width", 'w'), ("number-separator", 's'),
    ("number-format", 'n'), ("starting-line-number", 'v'), ("line-increment", 'i')], true⟩ 1 x fun p => do
    let width := ((p.value? 'w').bind digits?).getD 6
    let separator := (p.value? 's').getD "\t"
    let step := ((p.value? 'i').bind digits?).getD 1
    let style := (p.value? 'b').getD "t"
    let shape := (p.value? 'n').getD "rn"
    let texts ← (if p.operands.isEmpty then ["-"] else p.operands).mapM fun name => do
      match ← if name = "-" then Act.readAll Act.input else Act.readFile name with
      | .ok text => return (text, true)
      | .error fault =>
        complain x (name ++ ": " ++ fault.words)
        return ("", false)
    let ls := texts.flatMap fun t => linesOf t.1
    let start := ((p.value? 'v').bind digits?).getD 1
    let (out, _) := ls.foldl (fun (acc : List String × Nat) l =>
      let counts := style = "a" || (style = "t" && !l.isEmpty)
      let number := if shape = "ln" then Format.padded width true ' ' (toString acc.2)
        else Format.padded width false (if shape = "rz" then '0' else ' ') (toString acc.2)
      if counts then ((number ++ separator ++ l) :: acc.1, acc.2 + step)
      else ((String.ofList (List.replicate (width + separator.length) ' ') ++ l) :: acc.1, acc.2))
      ([], start)
    Act.print (unlines out.reverse)
    return codeOf (texts.all (·.2))

/-! ## Characters -/

/-- The characters of a kind that sets call by name. -/
def kindChars (name : String) : List Char :=
  ((List.range 256).map Char.ofNat).filter (Glob.isOfKind name)

/-- The characters of a set. An element that is repeated to fill the set is given apart. -/
def setWithin : Nat → List Char → List Char × Option Char
  | 0, _ => ([], none)
  | _ + 1, [] => ([], none)
  | fuel + 1, '[' :: ':' :: cs =>
    let name := cs.takeWhile (· ≠ ':')
    match cs.drop name.length with
    | ':' :: ']' :: rest =>
      let (more, fill?) := setWithin fuel rest
      (kindChars (String.ofList name) ++ more, fill?)
    | _ =>
      let (more, fill?) := setWithin fuel (':' :: cs)
      ('[' :: more, fill?)
  | fuel + 1, '[' :: c :: '*' :: ']' :: rest =>
    let (more, fill?) := setWithin fuel rest
    (more, some (fill?.getD c))
  | fuel + 1, cs =>
    let one (cs : List Char) : Option (Char × List Char) :=
      match cs with
      | '\\' :: rest =>
        match Format.escape? Format.formatEscapes rest with
        | some (c, n) => some (c, rest.drop n)
        | none =>
          match rest with
          | c :: rest => some (c, rest)
          | [] => some ('\\', [])
      | c :: rest => some (c, rest)
      | [] => none
    match one cs with
    | none => ([], none)
    | some (a, '-' :: rest) =>
      match one rest with
      | some (b, rest) =>
        let (more, fill?) := setWithin fuel rest
        ((List.range (b.toNat + 1 - a.toNat)).map (fun i => Char.ofNat (a.toNat + i)) ++ more, fill?)
      | none => ([a, '-'], none)
    | some (a, rest) =>
      let (more, fill?) := setWithin fuel rest
      (a :: more, fill?)

/-- The characters of a set that is to have so many. -/
def setChars (s : String) (size : Nat) : List Char :=
  let (cs, fill?) := setWithin (s.length + 1) s.toList
  match fill? with
  | some c => cs ++ List.replicate (size - cs.length) c
  | none => cs

/-- A text in which runs of a character of a set are cut down to one. -/
def squeezeRuns (inSet : Char → Bool) : List Char → List Char
  | a :: b :: rest =>
    if a = b && inSet a then squeezeRuns inSet (b :: rest) else a :: squeezeRuns inSet (b :: rest)
  | cs => cs

/-- Changes, deletes or squeezes characters. -/
def tr : Body := fun x _ =>
  withOptions ⟨"cCdst", [("complement", 'c'), ("delete", 'd'), ("squeeze-repeats", 's'), ("truncate-set1", 't')], false⟩ 1 x
    fun p => do
    let complement := p.has 'c' || p.has 'C'
    let translates := !p.has 'd' && (1 < p.operands.length)
    let needed := if p.has 'd' = p.has 's' then 2 else 1
    match p.operands with
    | [] => misuse x 1 "missing operand"
    | first :: rest =>
      if rest.length + 1 < needed then do
        complain x ("missing operand after " ++ quoted first)
        Act.complain (if p.has 'd' then "Two strings must be given when both deleting and squeezing repeats.\n"
          else "Two strings must be given when translating.\n")
        Act.complain ("Try '" ++ x.self ++ " --help' for more information.\n")
        return 1
      else if 2 < rest.length + 1 || (p.has 'd' && !p.has 's' && !rest.isEmpty) then do
        complain x ("extra operand " ++ quoted ((if p.has 'd' && !p.has 's' then rest else rest.drop 1).headD ""))
        if p.has 'd' && !p.has 's' then
          Act.complain "Only one string may be given when deleting without squeezing repeats.\n"
        Act.complain ("Try '" ++ x.self ++ " --help' for more information.\n")
        return 1
      else
        let listed := setChars first 0
        let from_ := if complement then
          ((List.range 256).map Char.ofNat).filter (!listed.contains ·) else listed
        let second := rest.headD ""
        let target := setChars second from_.length
        if translates && target.isEmpty then do
          complain x "when not truncating set1, string2 must be non-empty"
          return 1
        let from_ := if p.has 't' then from_.take target.length else from_
        let last := target.getLast?.getD ' '
        let pairs := from_.zip (target ++ List.replicate (from_.length - target.length) last)
        let table := (List.range 256).map fun i =>
          let c := Char.ofNat i
          (pairs.reverse.lookup c).getD c
        let table := table.toArray
        let member (set : List Char) : Array Bool :=
          ((List.range 256).map fun i => set.contains (Char.ofNat i)).toArray
        let inFirst := member from_
        let inLast := member (if rest.isEmpty then from_ else target)
        let change (text : String) : List Char :=
          let cs := text.toList
          let cs := if p.has 'd' then cs.filter fun c => !(inFirst[c.toNat]?.getD false) else cs
          if translates then cs.map fun c => table[c.toNat]?.getD c else cs
        let step (before? : Option Char) : Act (Except (Option Char) Bool) := do
          match ← Act.read Act.input with
          | .error fault =>
            complain x ("read error: " ++ fault.words)
            return .ok false
          | .ok text =>
            if text.isEmpty then return .ok true
            let cs := change text
            let out :=
              if p.has 's' then
                let whole := match before? with
                  | some c => c :: cs
                  | none => cs
                let squeezed := squeezeRuns (fun c => inLast[c.toNat]?.getD false) whole
                if before?.isSome then squeezed.drop 1 else squeezed
              else cs
            Act.print (String.ofList out)
            return .error (match cs.getLast? with
              | some c => some c
              | none => before?)
        return codeOf ((← Act.settleWithin step Act.patience none).getD false)

/-! ## Sequences of numbers -/

/-- A decimal number: its digits as a number and how many of them are behind the point. -/
def decimal? (s : String) : Option (Int × Nat) :=
  let cs := s.toList.dropWhile (· = ' ')
  let (negative, cs) := match cs with
    | '-' :: cs => (true, cs)
    | '+' :: cs => (false, cs)
    | _ => (false, cs)
  let whole := cs.takeWhile Char.isDigit
  let (fraction, rest) := match cs.drop whole.length with
    | '.' :: more => (more.takeWhile Char.isDigit, more.dropWhile Char.isDigit)
    | rest => ([], rest)
  let exponent? : Option Nat := match rest with
    | [] => some 0
    | e :: ds => if e = 'e' || e = 'E' then digits? (String.ofList (ds.dropWhile (· = '+'))) else none
  match exponent? with
  | none => none
  | some e =>
    if whole.isEmpty && fraction.isEmpty then none
    else
      let n : Nat := (whole ++ fraction).foldl (fun n c => 10 * n + (c.toNat - '0'.toNat)) 0
      let places := fraction.length
      let (n, places) := if e ≤ places then (n, places - e) else (n * tenTo (e - places), 0)
      some (if negative then -(n : Int) else n, places)

/-- A number with so many digits behind the point. -/
def decimalText (n : Int) (places : Nat) : String :=
  (if n < 0 then "-" else "") ++ Format.fixedText n.natAbs (tenTo places) places

/-- Writes numbers from one to another. -/
def seq : Body := fun x _ => do
  let isNumber (a : String) : Bool :=
    match a.toList with
    | '-' :: c :: _ => c.isDigit || c = '.'
    | _ => false
  let rec split : Nat → List String → List String × List String
    | 0, as => ([], as)
    | _ + 1, [] => ([], [])
    | fuel + 1, a :: rest =>
      if isNumber a || !a.startsWith "-" then ([], a :: rest)
      else if a = "-s" || a = "-f" then
        let (os, ns) := split fuel rest.tail
        (a :: rest.take 1 ++ os, ns)
      else if a = "--" then ([a], rest)
      else
        let (os, ns) := split fuel rest
        (a :: os, ns)
  let (os, numbers) := split (x.arguments.length + 1) x.arguments
  withOptions ⟨"s:f:w", [("separator", 's'), ("format", 'f'), ("equal-width", 'w')], true⟩ 1
    { x with arguments := os } fun p => do
    let bad (a : String) : Act Nat := misuse x 1 ("invalid floating point argument: " ++ quoted a)
    let write (first step last : String) : Act Nat := do
      match decimal? first, decimal? step, decimal? last with
      | none, _, _ => bad first
      | _, none, _ => bad step
      | _, _, none => bad last
      | some (a, p1), some (d, p2), some (b, p3) =>
        let places := max p1 p2
        let wide := max places p3
        let a := a * tenTo (wide - p1)
        let d := d * tenTo (wide - p2)
        let b := b * tenTo (wide - p3)
        if d = 0 then misuse x 1 ("invalid Zero increment value: " ++ quoted step)
        else
          let count : Nat := if 0 < d then (if b < a then 0 else ((b - a) / d).toNat + 1)
            else (if a < b then 0 else ((a - b) / (-d)).toNat + 1)
          let values := (List.range count).map fun (i : Nat) =>
            decimalText (Int.tdiv (a + (i : Int) * d) (tenTo (wide - places))) places
          let width := if p.has 'w' then values.foldl (fun n v => max n v.length) 0 else 0
          let pad (v : String) : String :=
            if v.startsWith "-" then "-" ++ Format.padded (width - 1) false '0' (dropChars 1 v)
            else Format.padded width false '0' v
          let shown := match p.value? 'f' with
            | some f => values.map fun v =>
              (Format.write Format.formatEscapes Format.argumentEscapes f [v]).text
            | none => values.map pad
          if !shown.isEmpty then
            Act.print (((p.value? 's').getD "\n").intercalate shown ++ "\n")
          return 0
    match numbers with
    | [] => misuse x 1 "missing operand"
    | [last] => write "1" "1" last
    | [first, last] => write first "1" last
    | [first, step, last] => write first step last
    | _ :: _ :: _ :: extra :: _ => misuse x 1 ("extra operand " ++ quoted extra)

end TierSweep.Utility
