import TierSweep.Text.Hex
import TierSweep.Number.Decimal

/-!
# Tokens of a JSON text

A JSON text falls into punctuation, strings and bare words without knowing what the words mean. The
content of a string is kept as written, with its escapes and with its malformed bytes, because a part
of a text that nobody asks for is checked for its shape only.
-/

namespace TierSweep.Json

/-- The content of a string as written; `none` stands for malformed bytes. -/
abbrev RawText := List (Option Char)

/-- A token of a JSON text. -/
inductive Token where
  | openArray
  | closeArray
  | openObject
  | closeObject
  | comma
  | colon
  | text (raw : RawText)
  | word (cs : List Char)
  deriving DecidableEq

namespace RawText

/-- Whether a string's content has the shape of one: no control character, every backslash begins an
escape, and `\u` is followed by four hexadecimal digits. -/
def wellFormed : RawText → Bool
  | [] => true
  | some '\\' :: some 'u' :: some a :: some b :: some c :: some d :: rest =>
    (Hex.value? [a, b, c, d]).isSome && wellFormed rest
  | some '\\' :: some c :: rest =>
    ['"', '\\', '/', 'b', 'f', 'n', 'r', 't'].contains c && wellFormed rest
  | some '\\' :: _ => false
  | some c :: rest => !decide (c < ' ') && wellFormed rest
  | none :: rest => wellFormed rest

/-- The character of a one-letter escape. -/
def escaped? : Char → Option Char
  | '"' => some '"'
  | '\\' => some '\\'
  | '/' => some '/'
  | 'b' => some '\x08'
  | 'f' => some '\x0c'
  | 'n' => some '\n'
  | 'r' => some '\r'
  | 't' => some '\t'
  | _ => none

/-- The characters of a string's content. A `\u` escape of the first half of a surrogate pair must be
followed by an escape of the second half, and a second half alone is refused, as are malformed
bytes. -/
def decode? : RawText → Option (List Char)
  | [] => some []
  | some '\\' :: some 'u' :: some a :: some b :: some c :: some d :: rest => do
    let n ← Hex.value? [a, b, c, d]
    if 0xDC00 ≤ n ∧ n < 0xE000 then none
    else if 0xD800 ≤ n ∧ n < 0xDC00 then
      match rest with
      | some '\\' :: some 'u' :: some e :: some f :: some g :: some h :: rest => do
        let m ← Hex.value? [e, f, g, h]
        if 0xDC00 ≤ m ∧ m < 0xE000 then
          (Char.ofNat (0x10000 + (n - 0xD800) * 0x400 + (m - 0xDC00)) :: ·) <$> decode? rest
        else none
      | _ => none
    else (Char.ofNat n :: ·) <$> decode? rest
  | some '\\' :: some c :: rest => do
    let c ← escaped? c
    (c :: ·) <$> decode? rest
  | some '\\' :: _ => none
  | some c :: rest => if c < ' ' then none else (c :: ·) <$> decode? rest
  | none :: _ => none

/-- The text of a string's content. -/
def text? (raw : RawText) : Option String := (decode? raw).map String.ofList

end RawText

namespace Token

/-- Blank characters between tokens. -/
def isBlank (c : Char) : Bool := c = ' ' || c = '\n' || c = '\t' || c = '\r'

/-- The token of a punctuation character. -/
def punctuation? : Char → Option Token
  | '[' => some .openArray
  | ']' => some .closeArray
  | '{' => some .openObject
  | '}' => some .closeObject
  | ',' => some .comma
  | ':' => some .colon
  | _ => none

/-- Where the reading of tokens stands. -/
inductive Reading where
  | between
  /-- In a string, with its content so far in reverse, and whether a backslash came last. -/
  | inText (reversed : RawText) (escaping : Bool)
  /-- In a bare word, with its characters so far in reverse. -/
  | inWord (reversed : List Char)

/-- The tokens of a text, or nothing if a string is left open, has the wrong shape, or a malformed
byte stands outside a string. -/
def tokens? : Reading → List (Option Char) → Option (List Token)
  | .between, [] => some []
  | .inText _ _, [] => none
  | .inWord w, [] => some [.word w.reverse]
  | .inText raw true, u :: rest => tokens? (.inText (u :: raw) false) rest
  | .inText raw false, u :: rest =>
    if u = some '"' then
      if RawText.wellFormed raw.reverse then (.text raw.reverse :: ·) <$> tokens? .between rest
      else none
    else tokens? (.inText (u :: raw) (u = some '\\')) rest
  | _, none :: _ => none
  | .between, some c :: rest =>
    if isBlank c then tokens? .between rest
    else if c = '"' then tokens? (.inText [] false) rest
    else match punctuation? c with
      | some t => (t :: ·) <$> tokens? .between rest
      | none => tokens? (.inWord [c]) rest
  | .inWord w, some c :: rest =>
    if isBlank c then (.word w.reverse :: ·) <$> tokens? .between rest
    else if c = '"' then (.word w.reverse :: ·) <$> tokens? (.inText [] false) rest
    else match punctuation? c with
      | some t => (fun ts => .word w.reverse :: t :: ts) <$> tokens? .between rest
      | none => tokens? (.inWord (c :: w)) rest

end Token

end TierSweep.Json
