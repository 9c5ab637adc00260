import TierSweep.Yaml.Token

/-!
# Forms of a YAML document

A form is a document as it is written: collections and scalars with their anchors and tags, and
aliases by name. Tags have been expanded by the directives; what a scalar or an alias stands for is
not decided here.
-/

namespace TierSweep.Yaml

/-- An anchor and a tag in front of a node. -/
structure Properties where
  anchor? : Option (List Char)
  tag? : Option Bytes

/-- A node as it is written. -/
inductive Form where
  | reference (name : List Char)
  | scalar (properties : Properties) (text : List Char) (isPlain : Bool)
  | sequence (properties : Properties) (items : List Form)
  | mapping (properties : Properties) (pairs : List (Form × Form))

namespace Form

/-- No anchor and no tag. -/
def bare : Properties := ⟨none, none⟩

/-- A node that is not written at all. -/
def empty : Form := .scalar bare [] true

/-- The handles of tags with what they stand for. -/
abbrev Handles := List (Bytes × Bytes)

/-- The bytes of a text of ASCII characters. -/
def ascii (s : String) : Bytes := s.toList.map Lexer.byteOf

/-- The handles that need no directive. -/
def standardHandles : Handles :=
  [([Lexer.bang], [Lexer.bang]), ([Lexer.bang, Lexer.bang], ascii "tag:yaml.org,2002:")]

/-- Reads the directives in front of a document. A handle must not be declared twice, and the version
must be given once at most and be known. -/
def directives : Bool → Handles → List Token → Except Fault (Handles × List Token)
  | versioned, handles, .versionDirective major minor :: rest =>
    if !versioned && major = 1 && (minor = 1 || minor = 2) then directives true handles rest
    else .error .version
  | versioned, handles, .tagDirective handle stem :: rest =>
    if (handles.lookup handle).isSome then .error .directive
    else directives versioned (handles ++ [(handle, stem)]) rest
  | _, handles, ts => .ok (handles, ts)

/-- Reads an anchor and a tag in either order; both may be missing. -/
def properties (handles : Handles) (ts : List Token) : Except Fault (Properties × List Token) := do
  let expand (handle suffix : Bytes) : Except Fault Bytes :=
    if handle.isEmpty then .ok suffix
    else match handles.lookup handle with
      | some stem => .ok (stem ++ suffix)
      | none => .error .tag
  match ts with
  | .anchor a :: .tag h s :: rest => pure (⟨some a, some (← expand h s)⟩, rest)
  | .tag h s :: .anchor a :: rest => pure (⟨some a, some (← expand h s)⟩, rest)
  | .anchor a :: rest => pure (⟨some a, none⟩, rest)
  | .tag h s :: rest => pure (⟨none, some (← expand h s)⟩, rest)
  | _ => pure (bare, ts)

/-- Whether the next token is one of some. -/
def next (ts : List Token) (options : List Token) : Bool := ts.head?.any options.contains

/-- Whether a value may be left out in a block mapping before these tokens. -/
def emptyInMapping (ts : List Token) : Bool := next ts [.key, .value, .blockEnd]

mutual

/-- Reads a node. In block context it may be a block collection, and where a mapping's value is due
also a sequence that is not indented. The first argument bounds the depth of the reading. -/
def node : Nat → Handles → (inBlock atValue : Bool) → List Token → Except Fault (Form × List Token)
  | 0, _, _, _, _ => .error .unfinished
  | fuel + 1, handles, inBlock, atValue, ts =>
    match ts with
    | .reference name :: rest => .ok (.reference name, rest)
    | _ => do
      let (p, ts) ← properties handles ts
      match ts with
      | .scalar text isPlain :: rest => pure (.scalar p text isPlain, rest)
      | .flowSequenceStart :: rest =>
        let (items, rest) ← flowItems fuel handles true [] rest
        pure (.sequence p items, rest)
      | .flowMappingStart :: rest =>
        let (pairs, rest) ← flowPairs fuel handles true [] rest
        pure (.mapping p pairs, rest)
      | _ =>
        if atValue && next ts [.blockEntry] then
          let (items, rest) ← bareItems fuel handles [] ts
          pure (.sequence p items, rest)
        else match inBlock, ts with
          | true, .blockSequenceStart :: rest =>
            let (items, rest) ← blockItems fuel handles [] rest
            pure (.sequence p items, rest)
          | true, .blockMappingStart :: rest =>
            let (pairs, rest) ← blockPairs fuel handles [] rest
            pure (.mapping p pairs, rest)
          | _, _ =>
            if p.anchor?.isSome || p.tag?.isSome then pure (.scalar p [] true, ts)
            else throw .nodeContent

/-- Reads the entries of a block sequence and its end. -/
def blockItems : Nat → Handles → List Form → List Token → Except Fault (List Form × List Token)
  | 0, _, _, _ => .error .unfinished
  | fuel + 1, handles, items, ts =>
    match ts with
    | .blockEntry :: ts =>
      if next ts [.blockEntry, .blockEnd] then blockItems fuel handles (empty :: items) ts
      else do
        let (item, ts) ← node fuel handles true false ts
        blockItems fuel handles (item :: items) ts
    | .blockEnd :: ts => .ok (items.reverse, ts)
    | _ => .error .sequenceEntry

/-- Reads the entries of a sequence that is not indented, which ends where no further one comes. -/
def bareItems : Nat → Handles → List Form → List Token → Except Fault (List Form × List Token)
  | 0, _, _, _ => .error .unfinished
  | fuel + 1, handles, items, ts =>
    match ts with
    | .blockEntry :: ts =>
      if next ts [.blockEntry, .key, .value, .blockEnd] then
        bareItems fuel handles (empty :: items) ts
      else do
        let (item, ts) ← node fuel handles true false ts
        bareItems fuel handles (item :: items) ts
    | _ => .ok (items.reverse, ts)

/-- Reads the keys and values of a block mapping and its end. -/
def blockPairs : Nat → Handles → List (Form × Form) → List Token →
    Except Fault (List (Form × Form) × List Token)
  | 0, _, _, _ => .error .unfinished
  | fuel + 1, handles, pairs, ts =>
    match ts with
    | .key :: ts => do
      let (k, ts) ←
        if emptyInMapping ts then pure (empty, ts) else node fuel handles true true ts
      match ts with
      | .value :: ts => do
        let (v, ts) ←
          if emptyInMapping ts then pure (empty, ts) else node fuel handles true true ts
        blockPairs fuel handles ((k, v) :: pairs) ts
      | _ => blockPairs fuel handles ((k, empty) :: pairs) ts
    | .blockEnd :: ts => .ok (pairs.reverse, ts)
    | _ => .error .mappingKey

/-- Reads the items of a flow sequence and its end. A key makes a mapping of one pair. -/
def flowItems : Nat → Handles → (first : Bool) → List Form → List Token →
    Except Fault (List Form × List Token)
  | 0, _, _, _, _ => .error .unfinished
  | fuel + 1, handles, first, items, ts =>
    match ts with
    | .flowSequenceEnd :: ts => .ok (items.reverse, ts)
    | _ => do
      let ts ← match first, ts with
        | true, ts => pure ts
        | false, .flowEntry :: ts => pure ts
        | false, _ => throw Fault.flowSeparator
      match ts with
      | .flowSequenceEnd :: ts => pure (items.reverse, ts)
      | .key :: ts =>
        let (k, ts) ←
          if next ts [.value, .flowEntry, .flowSequenceEnd] then pure (empty, ts.drop 1)
          else node fuel handles false false ts
        let (v, ts) ← flowValue fuel handles .flowSequenceEnd ts
        flowItems fuel handles false (.mapping bare [(k, v)] :: items) ts
      | _ =>
        let (item, ts) ← node fuel handles false false ts
        flowItems fuel handles false (item :: items) ts

/-- Reads the value after a key in a flow collection; it may be left out, with its colon or without. -/
def flowValue : Nat → Handles → (close : Token) → List Token → Except Fault (Form × List Token)
  | 0, _, _, _ => .error .unfinished
  | fuel + 1, handles, close, ts =>
    match ts with
    | .value :: ts =>
      if next ts [.flowEntry, close] then .ok (empty, ts) else node fuel handles false false ts
    | _ => .ok (empty, ts)

/-- Reads the pairs of a flow mapping and its end. -/
def flowPairs : Nat → Handles → (first : Bool) → List (Form × Form) → List Token →
    Except Fault (List (Form × Form) × List Token)
  | 0, _, _, _, _ => .error .unfinished
  | fuel + 1, handles, first, pairs, ts =>
    match ts with
    | .flowMappingEnd :: ts => .ok (pairs.reverse, ts)
    | _ => do
      let ts ← match first, ts with
        | true, ts => pure ts
        | false, .flowEntry :: ts => pure ts
        | false, _ => throw Fault.flowSeparator
      match ts with
      | .flowMappingEnd :: ts => pure (pairs.reverse, ts)
      | .key :: ts =>
        let (k, ts) ←
          if next ts [.value, .flowEntry, .flowMappingEnd] then pure (empty, ts)
          else node fuel handles false false ts
        let (v, ts) ← flowValue fuel handles .flowMappingEnd ts
        flowPairs fuel handles false ((k, v) :: pairs) ts
      | _ =>
        let (k, ts) ← node fuel handles false false ts
        flowPairs fuel handles false ((k, empty) :: pairs) ts

end

/-- Whether a document without content ends or begins here. -/
def atDocumentEdge (ts : List Token) : Bool :=
  match ts with
  | [] => true
  | .versionDirective .. :: _ => true
  | .tagDirective .. :: _ => true
  | .documentStart :: _ => true
  | .documentEnd :: _ => true
  | _ => false

/-- Reads the tokens of a text with one document at most. The document needs a start marker if
directives stand in front of it, and after its end only further end markers may come. -/
def ofTokens? (ts : List Token) : Except Fault (Option Form) := do
  let fuel := 4 * ts.length + 8
  if ts.isEmpty then return none
  let explicit := match ts with
    | .versionDirective .. :: _ => true
    | .tagDirective .. :: _ => true
    | .documentStart :: _ => true
    | _ => false
  let (form, rest) ←
    if explicit then do
      let (handles, rest) ← directives false [] ts
      match rest with
      | .documentStart :: rest =>
        if atDocumentEdge rest then pure (empty, rest)
        else node fuel (handles ++ standardHandles) true false rest
      | _ => throw Fault.documentStart
    else node fuel standardHandles true false ts
  if (rest.dropWhile (· = .documentEnd)).isEmpty then pure (some form) else throw .secondDocument

mutual

/-- How many events a reader of the form would report: one for a scalar or an alias, and two for the
ends of a collection. -/
def events : Form → Nat
  | .reference _ => 1
  | .scalar .. => 1
  | .sequence _ items => 2 + eventsOfItems items
  | .mapping _ pairs => 2 + eventsOfPairs pairs

/-- The events of the items of a sequence. -/
def eventsOfItems : List Form → Nat
  | [] => 0
  | f :: rest => events f + eventsOfItems rest

/-- The events of the pairs of a mapping. -/
def eventsOfPairs : List (Form × Form) → Nat
  | [] => 0
  | (k, v) :: rest => events k + events v + eventsOfPairs rest

end

end Form

end TierSweep.Yaml
