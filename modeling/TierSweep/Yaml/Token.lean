import TierSweep.Yaml.Text

/-!
# Tokens of a YAML text

The lexer turns indentation into block starts and ends, and finds out afterwards that something was a
key: a key on one line is known as one only when its colon comes, and its token is then put in front
of what has been read since. A place where such a key may have started stays open until the line
ends, for at most 1024 bytes.
-/

namespace TierSweep.Yaml

/-- A token of a YAML text. -/
inductive Token where
  | versionDirective (major minor : Nat)
  | tagDirective (handle stem : Bytes)
  | documentStart
  | documentEnd
  | blockSequenceStart
  | blockMappingStart
  | blockEnd
  | flowSequenceStart
  | flowSequenceEnd
  | flowMappingStart
  | flowMappingEnd
  | blockEntry
  | flowEntry
  | key
  | value
  | reference (name : List Char)
  | anchor (name : List Char)
  | tag (handle suffix : Bytes)
  | scalar (text : List Char) (isPlain : Bool)
  deriving DecidableEq

/-- A place where a key on one line may have started. -/
structure OpenKey where
  /-- Whether there must be a key here because the line begins at the present indentation. -/
  required : Bool
  /-- How many tokens stood in front of it. -/
  tokens : Nat
  index : Nat
  line : Nat
  column : Nat

/-- What the lexer knows at a place in the text. -/
structure Lexer where
  cursor : Cursor
  /-- The tokens read, latest first. -/
  reversed : List Token
  /-- How many tokens are read. -/
  count : Nat
  /-- The indentation of the innermost block collection, negative outside all of them. -/
  indent : Int
  /-- The indentations of the collections around it. -/
  outer : List Int
  /-- The place of a possible key in the innermost flow collection or outside all of them. -/
  openKey : Option OpenKey
  /-- The same for the collections around it; there are as many as flow collections are open. -/
  outerKeys : List (Option OpenKey)
  /-- Whether a key on one line may start here. -/
  keyAllowed : Bool

namespace Lexer

/-- The lexer at the start of a text. -/
def start (cs : List Char) : Lexer := ⟨.start cs, [], 0, -1, [], none, [], true⟩

/-- Whether a flow collection is open. -/
def inFlow (l : Lexer) : Bool := !l.outerKeys.isEmpty

/-- Moves on to a place. -/
def goTo (l : Lexer) (c : Cursor) : Lexer := { l with cursor := c }

/-- Moves on by some characters of the line. -/
def skip (l : Lexer) (n : Nat) : Lexer := l.goTo (l.cursor.skip n)

/-- Sets whether a key may start here. -/
def allowKey (l : Lexer) (b : Bool) : Lexer := { l with keyAllowed := b }

/-- Adds a token. -/
def push (l : Lexer) (t : Token) : Lexer :=
  { l with reversed := t :: l.reversed, count := l.count + 1 }

/-- Adds a token behind the first `n` tokens. -/
def insertAt (l : Lexer) (n : Nat) (t : Token) : Lexer :=
  let (later, earlier) := l.reversed.splitAt (l.count - n)
  { l with reversed := later ++ t :: earlier, count := l.count + 1 }

/-- Whether a possible key has come too far from its start. -/
def isStale (l : Lexer) (k : OpenKey) : Bool :=
  k.line < l.cursor.line || k.index + 1024 < l.cursor.index

/-- Gives up a possible key that has come too far, which is a fault where a key is required. -/
def refreshKey (l : Lexer) : Option OpenKey → Except Fault (Option OpenKey)
  | none => .ok none
  | some k =>
    if l.isStale k then if k.required then .error .simpleKey else .ok none else .ok (some k)

/-- Gives up all possible keys that have come too far. -/
def refreshKeys (l : Lexer) : Except Fault Lexer := do
  let outerKeys ← l.outerKeys.mapM l.refreshKey
  let openKey ← l.refreshKey l.openKey
  pure { l with openKey, outerKeys }

/-- Gives up the possible key of the innermost collection. -/
def dropKey (l : Lexer) : Except Fault Lexer :=
  match l.openKey with
  | some k => if k.required then .error .simpleKey else .ok { l with openKey := none }
  | none => .ok l

/-- Notes that a key may start here. -/
def saveKey (l : Lexer) : Except Fault Lexer := do
  if !l.keyAllowed then return l
  let required := !l.inFlow && l.indent = l.cursor.column
  let l ← l.dropKey
  let c := l.cursor
  pure { l with openKey := some ⟨required, l.count, c.index, c.line, c.column⟩ }

/-- Starts a block collection at a column if it is indented more than the present one. The token is put
behind the first `n` tokens, or behind all of them. -/
def indentTo (l : Lexer) (column : Nat) (n? : Option Nat) (t : Token) : Lexer :=
  if l.inFlow then l
  else if l.indent < column then
    let l := { l with outer := l.indent :: l.outer, indent := column }
    match n? with
    | none => l.push t
    | some n => l.insertAt n t
  else l

/-- Ends the block collections that are indented more than a column. -/
def unindent (column : Int) : List Int → Lexer → Lexer
  | [], l => l
  | i :: rest, l =>
    if column < l.indent then unindent column rest { l.push .blockEnd with indent := i, outer := rest }
    else l

/-- Ends the block collections that are indented more than a column, outside flow collections. -/
def unindentTo (l : Lexer) (column : Int) : Lexer :=
  if l.inFlow then l else unindent column l.outer l

/-- Goes on to the next token, past blanks, comments and line ends. A byte order mark may start each
line; a tab is no blank where a key may start in block context. -/
def toNextToken : Nat → Lexer → Lexer
  | 0, l => l
  | fuel + 1, l =>
    let c := l.cursor
    let c := if c.column = 0 ∧ c.sees '\uFEFF' then c.skip 1 else c
    let tabs := l.inFlow || !l.keyAllowed
    let c := (c.skipWhile fun x => x = ' ' || (tabs && x = '\t')).skipComment
    match c.lineBreak? with
    | some (_, c) => toNextToken fuel ((l.goTo c).allowKey (l.keyAllowed || !l.inFlow))
    | none => l.goTo c

/-- Reads a number of a version directive, of one to nine digits. -/
def versionNumber (c : Cursor) : Except Fault (Nat × Cursor) :=
  let (ds, c) := c.takeWhile Char.isDigit
  if ds.isEmpty || 9 < ds.length then .error .directive
  else .ok (ds.foldl (fun n d => 10 * n + (d.toNat - '0'.toNat)) 0, c)

/-- A character of a tag other than an escape. Commas and brackets belong to it only in verbatim
tags. -/
def isTagChar (verbatim : Bool) (c : Char) : Bool :=
  isWord c || ";/?:@&=+$.!~*'()".toList.contains c || (verbatim && ",[]".toList.contains c)

/-- The byte of an ASCII character. -/
def byteOf (c : Char) : UInt8 := UInt8.ofNat c.toNat

/-- A byte written as a percent sign and two hexadecimal digits, and the place after it. -/
def escapedByte (c : Cursor) : Except Fault (Nat × Cursor) :=
  match c.rest with
  | '%' :: a :: b :: _ =>
    match Hex.value? [a, b] with
    | some n => .ok (n, c.skip 3)
    | none => .error .tag
  | _ => .error .tag

/-- Reads `n` escaped bytes that continue a character. -/
def continuationBytes : Nat → Cursor → Except Fault (Bytes × Cursor)
  | 0, c => .ok ([], c)
  | n + 1, c => do
    let (b, c) ← escapedByte c
    if b < 0x80 ∨ 0xC0 ≤ b then throw .tag
    let (bs, c) ← continuationBytes n c
    pure (UInt8.ofNat b :: bs, c)

/-- Reads one character written by escapes. -/
def escapedBytes (c : Cursor) : Except Fault (Bytes × Cursor) := do
  let (b, c) ← escapedByte c
  let more ←
    if b < 0x80 then pure 0
    else if 0xC0 ≤ b ∧ b < 0xE0 then pure 1
    else if 0xE0 ≤ b ∧ b < 0xF0 then pure 2
    else if 0xF0 ≤ b ∧ b < 0xF8 then pure 3
    else throw .tag
  let (bs, c) ← continuationBytes more c
  pure (UInt8.ofNat b :: bs, c)

/-- Reads the characters of a tag. The first argument bounds their number. -/
def tagChars (verbatim : Bool) : Nat → Cursor → Except Fault (Bytes × Cursor)
  | 0, c => .ok ([], c)
  | fuel + 1, c =>
    match c.peek with
    | some x =>
      if x = '%' then do
        let (bs, c) ← escapedBytes c
        let (more, c) ← tagChars verbatim fuel c
        pure (bs ++ more, c)
      else if isTagChar verbatim x then do
        let (more, c) ← tagChars verbatim fuel (c.skip 1)
        pure (byteOf x :: more, c)
      else .ok ([], c)
    | none => .ok ([], c)

/-- Reads the characters of a tag, of which there must be one unless something went before. A zero byte,
which only an escape can write, ends the tag for those who read it. -/
def tagText (verbatim afterHead : Bool) (c : Cursor) : Except Fault (Bytes × Cursor) := do
  let (bs, c) ← tagChars verbatim (c.rest.length + 1) c
  if bs.isEmpty && !afterHead then throw .tag
  pure (bs.takeWhile (· ≠ 0), c)

/-- The byte of an exclamation mark. -/
def bang : UInt8 := byteOf '!'

/-- Reads an exclamation mark, the word after it, and a closing exclamation mark if there is one. The
result is the word and whether it was closed. -/
def tagHandle (c : Cursor) : Except Fault (Bytes × Bool × Cursor) :=
  if c.sees '!' then
    let (word, c) := (c.skip 1).takeWhile isWord
    if c.sees '!' then .ok (word.map byteOf, true, c.skip 1) else .ok (word.map byteOf, false, c)
  else .error .tag

/-- Reads a directive after its percent sign. -/
def directive (c : Cursor) : Except Fault (Token × Cursor) := do
  let (name, c) := c.takeWhile isWord
  if name.isEmpty || !c.blankOrEndAt 0 then throw .directive
  if name = "YAML".toList then
    let (major, c) ← versionNumber c.skipBlanks
    if !c.sees '.' then throw .directive
    let (minor, c) ← versionNumber (c.skip 1)
    pure (.versionDirective major minor, c)
  else if name = "TAG".toList then
    let (word, closed, c) ← tagHandle c.skipBlanks
    if !closed && !word.isEmpty then throw .tag
    if !(c.peek.any isBlank) then throw .directive
    let (stem, c) ← tagText true false c.skipBlanks
    if !c.blankOrEndAt 0 then throw .directive
    pure (.tagDirective (bang :: word ++ if closed then [bang] else []) stem, c)
  else throw .directive

/-- Reads a tag: verbatim in angle brackets, with a handle, or with an exclamation mark alone. -/
def tagToken (inFlow : Bool) (c : Cursor) : Except Fault (Token × Cursor) := do
  let (t, c) ←
    if c.seesAt 1 (· = '<') then do
      let (bs, c) ← tagText true false (c.skip 2)
      if !c.sees '>' then throw Fault.tag
      pure (Token.tag [] bs, c.skip 1)
    else do
      let (word, closed, c) ← tagHandle c
      if closed then
        let (bs, c) ← tagText false false c
        pure (Token.tag (bang :: word ++ [bang]) bs, c)
      else
        let (bs, c) ← tagText false true c
        let suffix := word ++ bs
        pure (if suffix.isEmpty then Token.tag [] [bang] else Token.tag [bang] suffix, c)
  if !c.blankOrEndAt 0 && !(inFlow && c.sees ',') then throw .tag
  pure (t, c)

/-- Reads the name of an anchor or alias. -/
def anchorName (c : Cursor) : Except Fault (List Char × Cursor) :=
  let (name, c) := (c.skip 1).takeWhile isWord
  if name.isEmpty then .error .anchorName
  else if c.blankOrEndAt 0 || c.peek.any (fun x => "?:,]\x7d%@".toList.contains x || x = '\x60') then
    .ok (name, c)
  else .error .anchorName

/-- Ends all block collections and possible keys, as before a directive or document marker. -/
def closeBlocks (l : Lexer) : Except Fault Lexer := do
  let l ← (l.unindentTo (-1)).dropKey
  pure (l.allowKey false)

/-- Reads a directive. -/
def lexDirective (l : Lexer) : Except Fault Lexer := do
  let l ← l.closeBlocks
  let (t, c) ← directive (l.cursor.skip 1)
  let c := c.skipBlanks.skipComment
  if !c.atLineEnd then throw .directive
  pure ((l.push t).goTo c.skipBreak)

/-- Reads a document marker. -/
def lexMarker (l : Lexer) (t : Token) : Except Fault Lexer := do
  let l ← l.closeBlocks
  pure ((l.push t).skip 3)

/-- Reads an opening bracket or brace. -/
def lexFlowStart (l : Lexer) (t : Token) : Except Fault Lexer := do
  let l ← l.saveKey
  let l := { l with outerKeys := l.openKey :: l.outerKeys, openKey := none }
  pure (((l.allowKey true).push t).skip 1)

/-- Reads a closing bracket or brace. -/
def lexFlowEnd (l : Lexer) (t : Token) : Except Fault Lexer := do
  let l ← l.dropKey
  let l := match l.outerKeys with
    | k :: ks => { l with openKey := k, outerKeys := ks }
    | [] => l
  pure (((l.allowKey false).push t).skip 1)

/-- Reads a comma in a flow collection. -/
def lexFlowEntry (l : Lexer) : Except Fault Lexer := do
  let l ← l.dropKey
  pure (((l.allowKey true).push .flowEntry).skip 1)

/-- Starts a block collection of the given kind here unless one is open already. -/
def blockStart (l : Lexer) (t : Token) : Except Fault Lexer :=
  if l.inFlow then .ok l
  else if l.keyAllowed then .ok (l.indentTo l.cursor.column none t)
  else .error .blockContext

/-- Reads the hyphen of a sequence entry. -/
def lexBlockEntry (l : Lexer) : Except Fault Lexer := do
  let l ← (← l.blockStart .blockSequenceStart).dropKey
  pure (((l.allowKey true).push .blockEntry).skip 1)

/-- Reads the question mark of a key. -/
def lexKey (l : Lexer) : Except Fault Lexer := do
  let l ← (← l.blockStart .blockMappingStart).dropKey
  pure (((l.allowKey !l.inFlow).push .key).skip 1)

/-- Reads the colon of a value, which makes a key of what may have been one. -/
def lexValue (l : Lexer) : Except Fault Lexer := do
  match l.openKey with
  | some k =>
    let l := (l.insertAt k.tokens .key).indentTo k.column (some k.tokens) .blockMappingStart
    pure ((({ l with openKey := none }.allowKey false).push .value).skip 1)
  | none =>
    let l ← l.blockStart .blockMappingStart
    pure (((l.allowKey !l.inFlow).push .value).skip 1)

/-- Reads an anchor or alias. -/
def lexAnchor (l : Lexer) (t : List Char → Token) : Except Fault Lexer := do
  let l ← l.saveKey
  let (name, c) ← anchorName l.cursor
  pure (((l.allowKey false).push (t name)).goTo c)

/-- Reads a tag. -/
def lexTag (l : Lexer) : Except Fault Lexer := do
  let l ← l.saveKey
  let (t, c) ← tagToken l.inFlow l.cursor
  pure (((l.allowKey false).push t).goTo c)

/-- Reads a block text. -/
def lexBlockText (l : Lexer) (literal : Bool) : Except Fault Lexer := do
  let l ← l.dropKey
  let (text, c) ← block literal l.indent l.cursor
  pure (((l.allowKey true).push (.scalar text false)).goTo c)

/-- Reads a quoted text. -/
def lexQuoted (l : Lexer) (single : Bool) : Except Fault Lexer := do
  let l ← l.saveKey
  let (text, c) ← quoted single l.cursor
  pure (((l.allowKey false).push (.scalar text false)).goTo c)

/-- Reads a plain text. After a line break a key may start again. -/
def lexPlain (l : Lexer) : Except Fault Lexer := do
  let l ← l.saveKey
  let (text, broke, c) ← plain l.inFlow (l.indent + 1).toNat l.cursor
  pure (((l.allowKey broke).push (.scalar text true)).goTo c)

/-- Whether a plain text may start with a character, the next one given. -/
def startsPlain (inFlow : Bool) (x : Char) (next : Option Char) : Bool :=
  let blankNext := next.any isBlank
  let blankOrEnd := next.all fun y => isBlank y || isBreak y
  !("-?:,[]\x7b\x7d#&*!|>'\"%@".toList.contains x || x = '\x60' || isBlank x || isBreak x)
    || (x = '-' && !blankNext)
    || (!inFlow && (x = '?' || x = ':') && !blankOrEnd)

/-- Reads the token that starts with character `x`. -/
def lexToken (l : Lexer) (x : Char) : Except Fault Lexer :=
  let c := l.cursor
  let single := c.blankOrEndAt 1
  if c.column = 0 ∧ x = '%' then l.lexDirective
  else if c.atDocumentStart then l.lexMarker .documentStart
  else if c.atDocumentEnd then l.lexMarker .documentEnd
  else if x = '[' then l.lexFlowStart .flowSequenceStart
  else if x = '{' then l.lexFlowStart .flowMappingStart
  else if x = ']' then l.lexFlowEnd .flowSequenceEnd
  else if x = '}' then l.lexFlowEnd .flowMappingEnd
  else if x = ',' then l.lexFlowEntry
  else if x = '-' ∧ single then l.lexBlockEntry
  else if x = '?' ∧ (l.inFlow ∨ single) then l.lexKey
  else if x = ':' ∧ (l.inFlow ∨ single) then l.lexValue
  else if x = '*' then l.lexAnchor .reference
  else if x = '&' then l.lexAnchor .anchor
  else if x = '!' then l.lexTag
  else if x = '|' ∧ !l.inFlow then l.lexBlockText true
  else if x = '>' ∧ !l.inFlow then l.lexBlockText false
  else if x = '\'' then l.lexQuoted true
  else if x = '"' then l.lexQuoted false
  else if startsPlain l.inFlow x c.rest[1]? then l.lexPlain
  else .error .indicator

/-- Reads all tokens. The first argument bounds their number. -/
def run : Nat → Lexer → Except Fault Lexer
  | 0, _ => .error .unfinished
  | fuel + 1, l => do
    let l ← (l.toNextToken (l.cursor.rest.length + 1)).refreshKeys
    let l := l.unindentTo l.cursor.column
    match l.cursor.peek with
    | none => (l.unindentTo (-1)).dropKey
    | some x => run fuel (← l.lexToken x)

end Lexer

/-- The tokens of a YAML text. -/
def Token.ofChars (cs : List Char) : Except Fault (List Token) := do
  let l ← (Lexer.start cs).run (cs.length + 1)
  pure l.reversed.reverse

end TierSweep.Yaml
