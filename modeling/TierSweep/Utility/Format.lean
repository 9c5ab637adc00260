import TierSweep.Duration
import TierSweep.Number.Decimal

/-!
# Formatted output

A format is text with directives, each of which writes one argument. It is gone over again as long as
arguments are left, and an argument that is missing counts as empty or zero.
-/

namespace TierSweep.Format

/-- Which notations with a backslash there are. -/
structure Escapes where
  /-- Whether a zero may come in front of the three digits of a byte. -/
  leadingZero : Bool
  /-- Whether the digits of a byte must begin with a zero. -/
  onlyLeadingZero : Bool
  /-- Whether a byte can be written with two digits in base sixteen. -/
  hexadecimal : Bool
  /-- Whether the output can be cut off. -/
  cutsOff : Bool

/-- The value of a digit in bases up to sixteen. -/
def digit? (base : Nat) (c : Char) : Option Nat :=
  let n :=
    if c.isDigit then c.toNat - '0'.toNat
    else if 'a' ≤ c && c ≤ 'f' then c.toNat - 'a'.toNat + 10
    else if 'A' ≤ c && c ≤ 'F' then c.toNat - 'A'.toNat + 10
    else base
  if n < base then some n else none

/-- The number that some digits write. -/
def ofDigits (base : Nat) (ds : List Char) : Nat :=
  ds.foldl (fun n d => n * base + (digit? base d).getD 0) 0

/-- The byte that at most so many digits write, and how many there are. -/
def byteOf (base most : Nat) (cs : List Char) : Char × Nat :=
  let ds := (cs.take most).takeWhile fun c => (digit? base c).isSome
  (Char.ofNat (ofDigits base ds % 256), ds.length)

/-- The character that a letter behind a backslash stands for. -/
def named? (c : Char) : Option Char :=
  match c with
  | 'a' => some '\x07'
  | 'b' => some '\x08'
  | 'f' => some '\x0c'
  | 'n' => some '\n'
  | 'r' => some '\r'
  | 't' => some '\t'
  | 'v' => some '\x0b'
  | '\\' => some '\\'
  | _ => none

/-- The character that the notation behind a backslash stands for, and how long the notation is. -/
def escape? (e : Escapes) (cs : List Char) : Option (Char × Nat) :=
  match cs with
  | [] => none
  | c :: rest =>
    match named? c with
    | some d => some (d, 1)
    | none =>
      if c = 'e' && e.hexadecimal then some ('\x1b', 1)
      else if c = 'x' && e.hexadecimal then
        let (d, n) := byteOf 16 2 rest
        if n = 0 then none else some (d, n + 1)
      else if c = '0' && e.leadingZero then
        let (d, n) := byteOf 8 3 rest
        some (d, n + 1)
      else if (digit? 8 c).isSome && !e.onlyLeadingZero then some (byteOf 8 3 cs)
      else none

/-- Resolves the notations in a text, at most so many, and tells whether the output is cut off. -/
def unescapeWithin (e : Escapes) : Nat → List Char → List Char × Bool
  | 0, cs => (cs, false)
  | _ + 1, [] => ([], false)
  | fuel + 1, '\\' :: rest =>
    if rest.head? = some 'c' && e.cutsOff then ([], true)
    else match escape? e rest with
      | some (c, n) =>
        let (more, isCut) := unescapeWithin e fuel (rest.drop n)
        (c :: more, isCut)
      | none =>
        let (more, isCut) := unescapeWithin e fuel rest
        ('\\' :: more, isCut)
  | fuel + 1, c :: rest =>
    let (more, isCut) := unescapeWithin e fuel rest
    (c :: more, isCut)

/-- Resolves the notations in a text and tells whether the output is cut off. -/
def unescape (e : Escapes) (text : String) : String × Bool :=
  let (cs, isCut) := unescapeWithin e (text.length + 1) text.toList
  (String.ofList cs, isCut)

/-- The notations in the arguments of `echo` and of the directive `%b`. -/
def argumentEscapes : Escapes := ⟨true, false, false, true⟩

/-- The notations in a format. -/
def formatEscapes : Escapes := ⟨false, false, false, false⟩

/-- A width or precision. -/
inductive Size where
  | fixed (n : Nat)
  /-- It is given by an argument. -/
  | given

/-- A part of a format. -/
inductive Item where
  | text (s : String)
  /-- The end of all output. -/
  | stop
  | directive (flags : List Char) (width precision : Option Size) (conversion : Char)
  | invalid (s : String)

/-- The letters of directives. -/
def conversions : List Char :=
  ['d', 'i', 'o', 'u', 'x', 'X', 'c', 's', 'b', 'e', 'E', 'f', 'F', 'g', 'G']

/-- Reads a width or precision. -/
def size? (cs : List Char) : Option Size × List Char :=
  match cs with
  | '*' :: rest => (some .given, rest)
  | _ =>
    let ds := cs.takeWhile Char.isDigit
    if ds.isEmpty then (none, cs) else (some (.fixed (ofDigits 10 ds)), cs.drop ds.length)

/-- Reads a format, at most so many parts. -/
def itemsWithin (e : Escapes) : Nat → List Char → List Item
  | 0, _ => []
  | _ + 1, [] => []
  | fuel + 1, '%' :: '%' :: rest => .text "%" :: itemsWithin e fuel rest
  | fuel + 1, '%' :: rest =>
    let flags := rest.takeWhile fun c => ['-', '+', ' ', '0', '#'].contains c
    let (width, rest') := size? (rest.drop flags.length)
    let (precision, rest'') := match rest' with
      | '.' :: more =>
        let (p, more) := size? more
        (some (p.getD (.fixed 0)), more)
      | _ => (none, rest')
    match rest'' with
    | c :: more =>
      if conversions.contains c then .directive flags width precision c :: itemsWithin e fuel more
      else [.invalid (String.ofList ('%' :: rest.take (rest.length - more.length)))]
    | [] => [.invalid (String.ofList ('%' :: rest))]
  | fuel + 1, '\\' :: rest =>
    if rest.head? = some 'c' && e.cutsOff then [.stop]
    else match escape? e rest with
      | some (c, n) => .text (String.singleton c) :: itemsWithin e fuel (rest.drop n)
      | none => .text "\\" :: itemsWithin e fuel rest
  | fuel + 1, c :: rest =>
    let run := (c :: rest).takeWhile fun c => c ≠ '%' && c ≠ '\\'
    .text (String.ofList run) :: itemsWithin e fuel ((c :: rest).drop run.length)

/-- What has been written, what is wrong, and the arguments left. -/
structure Progress where
  text : String
  complaints : List String
  arguments : List String
  stopped : Bool
  failed : Bool

/-- A text made longer by characters at one side. -/
def padded (width : Nat) (left : Bool) (fill : Char) (s : String) : String :=
  let padding := String.ofList (List.replicate (width - s.length) fill)
  if left then s ++ padding else padding ++ s

/-- The digits of a number. -/
def digitsOf (base n : Nat) (upper : Bool) : String :=
  let ds := Nat.toDigits base n
  String.ofList (if upper then ds.map Char.toUpper else ds)

/-- A number with its sign, filled up to a width. -/
def signedText (flags : List Char) (width : Nat) (precision? : Option Nat) (negative : Bool)
    (lead digits : String) : String :=
  let sign := if negative then "-" else if flags.contains '+' then "+"
    else if flags.contains ' ' then " " else ""
  let digits := match precision? with
    | some p => padded p false '0' digits
    | none => digits
  let front := sign ++ lead
  if flags.contains '-' then padded width true ' ' (front ++ digits)
  else if flags.contains '0' && precision?.isNone then
    front ++ padded (width - front.length) false '0' digits
  else padded width false ' ' (front ++ digits)

/-- Whether a character is white space. -/
def isSpace (c : Char) : Bool := c = ' ' || (9 ≤ c.toNat && c.toNat ≤ 13)

/-- The number with which a text begins, and whether that is all of it. Nothing comes back if the text
begins with no number. -/
def integer? (s : String) : Option (Int × Bool) :=
  match s.toList with
  | '\'' :: c :: _ | '"' :: c :: _ => some (c.toNat, true)
  | cs =>
    let cs := cs.dropWhile isSpace
    let (negative, cs) := match cs with
      | '-' :: cs => (true, cs)
      | '+' :: cs => (false, cs)
      | _ => (false, cs)
    let read (base : Nat) (cs : List Char) : Option (Int × Bool) :=
      let ds := cs.takeWhile fun c => (digit? base c).isSome
      if ds.isEmpty then none
      else
        let n : Int := ofDigits base ds
        some (if negative then -n else n, ds.length = cs.length)
    match cs with
    | '0' :: 'x' :: rest | '0' :: 'X' :: rest =>
      match read 16 rest with
      | some r => some r
      | none => some (0, false)
    | '0' :: _ => read 8 cs
    | _ => read 10 cs

/-- The greatest number that can be written with a sign. -/
def greatest : Int := twoTo 63 - 1

/-- A number cut down to those that can be written, and whether it had to be. -/
def bounded (n : Int) : Int × Bool :=
  if greatest < n then (greatest, true)
  else if n < -greatest - 1 then (-greatest - 1, true)
  else (n, false)

/-- The part of a text that writes a decimal number. -/
def decimalPart (cs : List Char) : List Char :=
  let sign := cs.takeWhile fun c => c = '-' || c = '+'
  let sign := sign.take 1
  let whole := (cs.drop sign.length).takeWhile Char.isDigit
  let rest := cs.drop (sign.length + whole.length)
  let (fraction, rest) := match rest with
    | '.' :: more =>
      let ds := more.takeWhile Char.isDigit
      ('.' :: ds, more.drop ds.length)
    | _ => ([], rest)
  let exponent := match rest with
    | e :: more =>
      if e = 'e' || e = 'E' then
        let sign := (more.takeWhile fun c => c = '-' || c = '+').take 1
        let ds := (more.drop sign.length).takeWhile Char.isDigit
        if ds.isEmpty then [] else e :: (sign ++ ds)
      else []
    | [] => []
  if whole.isEmpty && fraction.length ≤ 1 then [] else sign ++ whole ++ fraction ++ exponent

/-- A fraction rounded to a number of decimal places. -/
def fixedText (num den places : Nat) : String :=
  let n := Duration.roundDiv (num * tenTo places) den
  let ds := padded (places + 1) false '0' (toString n)
  let cs := ds.toList
  if places = 0 then ds
  else String.ofList (cs.take (cs.length - places) ++ '.' :: cs.drop (cs.length - places))

/-- The exponent of the first digit of a positive fraction, found at most so many steps from zero. -/
def exponentOf (num den : Nat) : Nat → Int → Int
  | 0, e => e
  | fuel + 1, e =>
    let scaled (e : Int) : Nat × Nat :=
      if 0 ≤ e then (num, den * tenTo e.toNat) else (num * tenTo (-e).toNat, den)
    let (n, d) := scaled e
    if n < d then exponentOf num den fuel (e - 1)
    else if 10 * d ≤ n then exponentOf num den fuel (e + 1)
    else e

/-- The digits of a fraction with one in front of the point, and their exponent. -/
def scientific (num den places : Nat) : Nat × Int :=
  if num = 0 then (0, 0)
  else
    let e := exponentOf num den 700 0
    let shift : Int := places - e
    let n := if 0 ≤ shift then Duration.roundDiv (num * tenTo shift.toNat) den
      else Duration.roundDiv num (den * tenTo (-shift).toNat)
    if n = tenTo (places + 1) then (tenTo places, e + 1) else (n, e)

/-- An exponent as it is written. -/
def exponentText (e : Int) : String :=
  "e" ++ (if e < 0 then "-" else "+") ++ padded 2 false '0' (toString e.natAbs)

/-- A fraction with an exponent. -/
def scientificText (num den places : Nat) : String :=
  let (n, e) := scientific num den places
  let cs := (padded (places + 1) false '0' (toString n)).toList
  let digits := if places = 0 then cs else cs.take 1 ++ '.' :: cs.drop 1
  String.ofList digits ++ exponentText e

/-- A text without the zeros at the end of its fraction. -/
def withoutZeros (s : String) : String :=
  let cs := s.toList
  if !cs.contains '.' then s
  else
    let digits := cs.takeWhile (· ≠ 'e')
    let digits := (digits.reverse.dropWhile (· = '0')).dropWhile (· = '.')
    String.ofList (digits.reverse ++ cs.dropWhile (· ≠ 'e'))

/-- A double as a directive writes it, without its sign. -/
def floatText (conversion : Char) (alternative : Bool) (precision : Nat) (num den : Nat) : String :=
  let text := match conversion.toLower with
    | 'f' => fixedText num den precision
    | 'e' => scientificText num den precision
    | _ =>
      let p := max 1 precision
      let (_, e) := scientific num den (p - 1)
      let s := if -4 ≤ e && e < (p : Int) then fixedText num den ((p : Int) - 1 - e).toNat
        else scientificText num den (p - 1)
      if alternative then s else withoutZeros s
  if conversion.isUpper then text.toUpper else text

/-- Writes one argument, or the width or precision that it gives. -/
def writeDirective (e : Escapes) (flags : List Char) (width precision : Option Size) (conversion : Char)
    (p : Progress) : Progress :=
  let takeSize (s : Option Size) (p : Progress) : Option Int × Progress :=
    match s with
    | none => (none, p)
    | some (.fixed n) => (some n, p)
    | some .given =>
      (some (((integer? (p.arguments.headD "")).map (·.1)).getD 0), { p with arguments := p.arguments.tail })
  let (width?, p) := takeSize width p
  let (precision?, p) := takeSize precision p
  let flags := if (width?.getD 0) < 0 then '-' :: flags else flags
  let width := (width?.getD 0).natAbs
  let precision? := match precision? with
    | some n => if n < 0 then none else some n.toNat
    | none => none
  let argument := p.arguments.headD ""
  let missing := p.arguments.isEmpty
  let p := { p with arguments := p.arguments.tail }
  let left := flags.contains '-'
  let add (s : String) (p : Progress) : Progress := { p with text := p.text ++ s }
  let cut (s : String) : String := match precision? with
    | some n => String.ofList (s.toList.take n)
    | none => s
  let complain (what : String) (p : Progress) : Progress :=
    { p with complaints := p.complaints ++ [argument ++ ": " ++ what], failed := true }
  let number : Int × Progress :=
    if missing || argument.isEmpty then (0, p)
    else match integer? argument with
      | none => (0, complain "expected numeric value" p)
      | some (n, true) => (n, p)
      | some (n, false) => (n, complain "not completely converted" p)
  let outOfRange := "Numerical result out of range"
  if conversion = 's' then add (padded width left ' ' (cut argument)) p
  else if conversion = 'c' then
    add (padded width left ' ' (String.ofList (argument.toList.take 1))) p
  else if conversion = 'b' then
    let (s, isCut) := unescape e argument
    { add (padded width left ' ' (cut s)) p with stopped := isCut }
  else if conversion = 'd' || conversion = 'i' then
    let (n, p) := number
    let (n, tooBig) := bounded n
    let p := if tooBig then complain outOfRange p else p
    add (signedText flags width precision? (n < 0) "" (toString n.natAbs)) p
  else if ['o', 'u', 'x', 'X'].contains conversion then
    let (n, p) := number
    let most : Int := twoTo 64 - 1
    let (n, p) := if most < n then (most, complain outOfRange p) else (n, p)
    let n := (n.emod (twoTo 64)).toNat
    let flags := flags.filter fun c => c ≠ '+' && c ≠ ' '
    let base := if conversion = 'o' then 8 else if conversion = 'u' then 10 else 16
    let lead := if !flags.contains '#' || n = 0 then ""
      else if conversion = 'o' then "0" else if conversion = 'x' then "0x"
      else if conversion = 'X' then "0X" else ""
    add (signedText flags width precision? false lead (digitsOf base n (conversion = 'X'))) p
  else
    let cs := argument.toList.dropWhile isSpace
    let part := decimalPart cs
    let p :=
      if missing || argument.isEmpty then p
      else if part.isEmpty then complain "expected numeric value" p
      else if part.length < cs.length then complain "not completely converted" p
      else p
    match Binary64.parse? (String.ofList part) with
    | some (.finite negative rank) =>
      add (signedText flags width none negative ""
        (floatText conversion (flags.contains '#') (precision?.getD 6) (Binary64.units rank) (twoTo 1074))) p
    | _ =>
      let zero := floatText conversion (flags.contains '#') (precision?.getD 6) 0 1
      add (signedText flags width none false "" zero) p

/-- Goes over the parts of a format once. -/
def pass (e : Escapes) : List Item → Progress → Progress
  | [], p => p
  | item :: rest, p =>
    if p.stopped then p
    else match item with
      | .text s => pass e rest { p with text := p.text ++ s }
      | .stop => { p with stopped := true }
      | .directive flags width precision c => pass e rest (writeDirective e flags width precision c p)
      | .invalid s =>
        { p with complaints := p.complaints ++ [s ++ ": invalid directive"], stopped := true, failed := true }

/-- Goes over a format again as long as it uses up arguments, at most so many times. -/
def passes (e : Escapes) (items : List Item) : Nat → Progress → Progress
  | 0, p => p
  | fuel + 1, p =>
    let q := pass e items p
    if q.stopped || q.arguments.isEmpty || q.arguments.length = p.arguments.length then q
    else passes e items fuel q

/-- Writes arguments by a format. -/
def write (inFormat inArguments : Escapes) (format : String) (arguments : List String) : Progress :=
  passes inArguments (itemsWithin inFormat (format.length + 1) format.toList) (arguments.length + 1)
    ⟨"", [], arguments, false, false⟩

end TierSweep.Format
