import TierSweep.Yaml.Scalar

/-!
# The value of a YAML document

Aliases are first tied to the anchors in front of them, then the form is turned into a value in which
every alias is replaced by what it stands for. Nesting is limited to 128 collections, aliases
included, and the number of replacements to a hundred for every event of the document.
-/

namespace TierSweep.Yaml

/-- A form in which an alias names its anchor by number. -/
inductive Linked where
  | reference (id : Nat)
  | scalar (tag? : Option Bytes) (text : List Char) (isPlain : Bool)
  | sequence (tag? : Option Bytes) (items : List Linked)
  | mapping (tag? : Option Bytes) (pairs : List (Linked × Linked))

/-- The anchors of a document: the numbers of the names, and the anchored nodes with their number and
their place in the order of the document. -/
structure Anchors where
  names : List (List Char × Nat)
  nodes : List (Nat × Nat × Linked)
  /-- How many nodes have begun. -/
  begun : Nat

namespace Anchors

/-- Begins a node and numbers its anchor if it has one: by how many different names came before. A
name given again is numbered anew. -/
def begin (s : Anchors) (anchor? : Option (List Char)) : Option (Nat × Nat) × Anchors :=
  let place := s.begun
  let s := { s with begun := s.begun + 1 }
  match anchor? with
  | none => (none, s)
  | some name =>
    let id := s.names.length
    (some (id, place), { s with names := (name, id) :: s.names.filter (·.1 ≠ name) })

/-- Notes an anchored node. -/
def note (s : Anchors) (anchor? : Option (Nat × Nat)) (v : Linked) : Anchors :=
  match anchor? with
  | none => s
  | some (id, place) => { s with nodes := (id, place, v) :: s.nodes }

/-- The node of a number. If several nodes share it, the one that begins last counts. -/
def find? (s : Anchors) (id : Nat) : Option Linked :=
  let candidates := s.nodes.filter (·.1 = id)
  (candidates.foldl (fun best n =>
    match best with
    | some (place, v) => if place < n.2.1 then some n.2 else some (place, v)
    | none => some n.2) none).map (·.2)

end Anchors

namespace Form

mutual

/-- Ties the aliases of a form to the anchors in front of them. -/
def link : Form → Anchors → Except Fault (Linked × Anchors)
  | .reference name, s =>
    match s.names.lookup name with
    | some id => .ok (.reference id, { s with begun := s.begun + 1 })
    | none => .error .unknownAnchor
  | .scalar p text isPlain, s =>
    let (anchor?, s) := s.begin p.anchor?
    let v := Linked.scalar p.tag? text isPlain
    .ok (v, s.note anchor? v)
  | .sequence p items, s => do
    let (anchor?, s) := s.begin p.anchor?
    let (items, s) ← linkItems items s
    let v := Linked.sequence p.tag? items
    pure (v, s.note anchor? v)
  | .mapping p pairs, s => do
    let (anchor?, s) := s.begin p.anchor?
    let (pairs, s) ← linkPairs pairs s
    let v := Linked.mapping p.tag? pairs
    pure (v, s.note anchor? v)

/-- Ties the aliases of the items of a sequence. -/
def linkItems : List Form → Anchors → Except Fault (List Linked × Anchors)
  | [], s => .ok ([], s)
  | f :: rest, s => do
    let (v, s) ← link f s
    let (vs, s) ← linkItems rest s
    pure (v :: vs, s)

/-- Ties the aliases of the keys and values of a mapping. -/
def linkPairs : List (Form × Form) → Anchors → Except Fault (List (Linked × Linked) × Anchors)
  | [], s => .ok ([], s)
  | (f, g) :: rest, s => do
    let (k, s) ← link f s
    let (v, s) ← link g s
    let (vs, s) ← linkPairs rest s
    pure ((k, v) :: vs, s)

end

end Form

namespace Linked

/-- The local tag of a node: a tag that begins with an exclamation mark and is a text. The mark is
dropped unless it stands alone. -/
def localTag? : Option Bytes → Option String
  | some (b :: rest) =>
    if b = Lexer.bang then Utf8.decode? (if rest.isEmpty then [b] else rest) else none
  | _ => none

/-- Puts a value under a local tag. -/
def wrap (tag? : Option String) (v : Node) : Node :=
  match tag? with
  | some tag => .tagged tag v
  | none => v

/-- A computation that counts the replaced aliases and may fail. -/
abbrev Counting (α : Type) := Nat → Except Fault (α × Nat)

/-- Turns items into values, one after another. -/
def composeItems (compose : Linked → Counting Node) : List Linked → Counting (List Node)
  | [], n => .ok ([], n)
  | f :: rest, n => do
    let (v, n) ← compose f n
    let (vs, n) ← composeItems compose rest n
    pure (v :: vs, n)

/-- Turns pairs into entries, one after another. No key may occur twice. -/
def composePairs (compose : Linked → Counting Node) :
    List (Node × Node) → List (Linked × Linked) → Counting (List (Node × Node))
  | reversed, [], n => .ok (reversed.reverse, n)
  | reversed, (f, g) :: rest, n => do
    let (k, n) ← compose f n
    if Node.hasKey k reversed then throw .duplicateKey
    let (v, n) ← compose g n
    composePairs compose ((k, v) :: reversed) rest n

/-- The value of a linked form. The first argument bounds the steps, of which there are at most two for
each level of nesting. -/
def compose (anchors : Anchors) (limit : Nat) : Nat → (depth : Nat) → Linked → Counting Node
  | 0, _, _, _ => .error .unfinished
  | fuel + 1, depth, f, n =>
    match f with
    | .reference id =>
      if limit < n + 1 then .error .tooManyAliases
      else match anchors.find? id with
        | some g => compose anchors limit fuel depth g (n + 1)
        | none => .error .unknownAnchor
    | .scalar tag? text isPlain => do
      let s := String.ofList text
      let v ← match localTag? tag?, tag? with
        | some _, _ => if isPlain then Scalar.resolve s else pure (.text s)
        | none, some tag => Scalar.resolveTagged tag s isPlain
        | none, none => if isPlain then Scalar.resolve s else pure (.text s)
      pure (wrap (localTag? tag?) v, n)
    | .sequence tag? items =>
      match depth with
      | 0 => .error .tooDeep
      | depth + 1 => do
        let (vs, n) ← composeItems (compose anchors limit fuel depth) items n
        pure (wrap (localTag? tag?) (.sequence vs), n)
    | .mapping tag? pairs =>
      match depth with
      | 0 => .error .tooDeep
      | depth + 1 => do
        let (vs, n) ← composePairs (compose anchors limit fuel depth) [] pairs n
        pure (wrap (localTag? tag?) (.mapping vs), n)

end Linked

/-- The greatest nesting of collections. -/
def maxDepth : Nat := 128

/-- The value of a form. -/
def Form.toNode (f : Form) : Except Fault Node := do
  let (linked, anchors) ← f.link ⟨[], [], 0⟩
  let (v, _) ← linked.compose anchors (100 * f.events) (2 * maxDepth + 3) maxDepth 0
  pure v

/-- The value of a YAML text with at most one document. A text without a document is null. -/
def Node.ofBytes (bytes : Bytes) : Except Fault Node := do
  let cs ← characters bytes
  let tokens ← Token.ofChars cs
  match ← Form.ofTokens? tokens with
  | none => pure .null
  | some form => form.toNode

end TierSweep.Yaml
