import TierSweep.Text.Utf8

/-!
# A place in a YAML text

The characters not yet read, with the line and column of the first of them. Five characters end a
line; a carriage return and a line feed together end one line.
-/

namespace TierSweep.Yaml

/-- What is wrong with a YAML text. -/
inductive Fault where
  | character
  | indicator
  | blockContext
  | simpleKey
  | directive
  | anchorName
  | tag
  | blockHeader
  | tabIndentation
  | unclosedQuote
  | escape
  | plainColon
  | version
  | documentStart
  | nodeContent
  | sequenceEntry
  | mappingKey
  | flowSeparator
  | unknownAnchor
  | tagValue
  | integerRange
  | duplicateKey
  | tooDeep
  | tooManyAliases
  | secondDocument
  | unfinished
  deriving DecidableEq, Repr

/-- What a fault says. -/
def Fault.message : Fault → String
  | character => "a character is not allowed"
  | indicator => "no token starts with this character"
  | blockContext => "a block entry, key or value is not allowed here"
  | simpleKey => "a key on one line lacks its colon"
  | directive => "a directive is malformed or unknown"
  | anchorName => "an anchor or alias lacks a proper name"
  | tag => "a tag is malformed"
  | blockHeader => "the header of a block text is malformed"
  | tabIndentation => "a tab stands where indentation is expected"
  | unclosedQuote => "a quoted text is not closed"
  | escape => "an escape is not known or malformed"
  | plainColon => "a colon in a plain text is not allowed here"
  | version => "the version is not supported or given twice"
  | documentStart => "a document start is missing"
  | nodeContent => "a node is missing"
  | sequenceEntry => "a sequence entry is missing"
  | mappingKey => "a mapping key is missing"
  | flowSeparator => "a separator or closing bracket is missing"
  | unknownAnchor => "an alias has no anchor"
  | tagValue => "a value does not fit its tag"
  | integerRange => "an integer is out of range"
  | duplicateKey => "a key occurs twice"
  | tooDeep => "values are nested too deeply"
  | tooManyAliases => "aliases are repeated too often"
  | secondDocument => "there is more than one document"
  | unfinished => "the text could not be finished"

/-- A character that ends a line. -/
def isBreak (c : Char) : Bool :=
  c = '\r' || c = '\n' || c = '\u0085' || c = '\u2028' || c = '\u2029'

/-- A space or a tab. -/
def isBlank (c : Char) : Bool := c = ' ' || c = '\t'

/-- A character of names: a letter or digit of ASCII, a hyphen or an underscore. -/
def isWord (c : Char) : Bool := c.isAlphanum || c = '-' || c = '_'

/-- A character that may occur in a YAML text at all. -/
def isAllowed (c : Char) : Bool :=
  let n := c.toNat
  n = 0x09 || n = 0x0A || n = 0x0D || (0x20 ≤ n && n ≤ 0x7E) || n = 0x85 || (0xA0 ≤ n && n ≤ 0xD7FF)
    || (0xE000 ≤ n && n ≤ 0xFFFD) || (0x10000 ≤ n && n ≤ 0x10FFFF)

/-- The characters of a YAML text. -/
def characters (bytes : Bytes) : Except Fault (List Char) :=
  match (Utf8.units bytes).mapM id with
  | some cs => if cs.all isAllowed then .ok cs else .error .character
  | none => .error .character

/-- A place in a text. -/
structure Cursor where
  rest : List Char
  /-- How many bytes the characters in front take. -/
  index : Nat
  line : Nat
  column : Nat

namespace Cursor

/-- The start of a text. -/
def start (cs : List Char) : Cursor := ⟨cs, 0, 0, 0⟩

/-- The next character, if there is one. -/
def peek (c : Cursor) : Option Char := c.rest.head?

/-- Whether the next character is `x`. -/
def sees (c : Cursor) (x : Char) : Bool := c.peek = some x

/-- Whether the character `n` places on has a property; false beyond the end. -/
def seesAt (c : Cursor) (n : Nat) (p : Char → Bool) : Bool := (c.rest[n]?).any p

/-- Whether a blank, a break or the end is `n` places on. -/
def blankOrEndAt (c : Cursor) (n : Nat) : Bool :=
  (c.rest[n]?).all fun x => isBlank x || isBreak x

/-- Whether the end of the text is reached. -/
def atEnd (c : Cursor) : Bool := c.rest.isEmpty

/-- Whether the line ends here. -/
def atLineEnd (c : Cursor) : Bool := c.peek.all isBreak

/-- The place `n` characters on in the same line. -/
def skip (c : Cursor) (n : Nat) : Cursor :=
  ⟨c.rest.drop n, c.index + Utf8.size (c.rest.take n), c.line, c.column + n⟩

/-- The longest run of characters with a property, none of which may end a line, and the place after
it. -/
def takeWhile (c : Cursor) (p : Char → Bool) : List Char × Cursor :=
  let cs := c.rest.takeWhile p
  (cs, c.skip cs.length)

/-- The place after a run of characters with a property. -/
def skipWhile (c : Cursor) (p : Char → Bool) : Cursor := (c.takeWhile p).2

/-- The place after blanks. -/
def skipBlanks (c : Cursor) : Cursor := c.skipWhile isBlank

/-- The place at the end of the line if a comment starts here. -/
def skipComment (c : Cursor) : Cursor := if c.sees '#' then c.skipWhile (!isBreak ·) else c

/-- A line break as it is kept in a text, and the place after it. All breaks become line feeds except
the two separators of lines and paragraphs. -/
def lineBreak? (c : Cursor) : Option (Char × Cursor) :=
  match c.rest with
  | '\r' :: '\n' :: rest => some ('\n', ⟨rest, c.index + 2, c.line + 1, 0⟩)
  | x :: rest =>
    if x = '\u2028' ∨ x = '\u2029' then some (x, ⟨rest, c.index + x.utf8Size, c.line + 1, 0⟩)
    else if isBreak x then some ('\n', ⟨rest, c.index + x.utf8Size, c.line + 1, 0⟩)
    else none
  | [] => none

/-- The place after a line break if there is one here. -/
def skipBreak (c : Cursor) : Cursor := (c.lineBreak?.map (·.2)).getD c

/-- Whether three hyphens that stand alone begin this line. -/
def atDocumentStart (c : Cursor) : Bool :=
  c.column = 0 && c.rest.take 3 = ['-', '-', '-'] && c.blankOrEndAt 3

/-- Whether three dots that stand alone begin this line. -/
def atDocumentEnd (c : Cursor) : Bool :=
  c.column = 0 && c.rest.take 3 = ['.', '.', '.'] && c.blankOrEndAt 3

/-- Whether a document marker begins this line. -/
def atDocumentMarker (c : Cursor) : Bool := c.atDocumentStart || c.atDocumentEnd

end Cursor

end TierSweep.Yaml
