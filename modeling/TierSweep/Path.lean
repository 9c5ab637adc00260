import TierSweep.Failure

/-!
# Paths

A path is a sequence of bytes that a slash cuts into names. It need not be a text. Joining follows the
usual rule that an absolute path on the right replaces what is on the left.
-/

namespace TierSweep

/-- A path in the file system. -/
structure Path where
  bytes : Bytes
  deriving DecidableEq, Repr

namespace Path

/-- The byte that separates names. -/
def slash : UInt8 := 0x2F

/-- The path written as a text. -/
def ofString (s : String) : Path := ⟨Utf8.encode s⟩

/-- The path as a text, if it is one. -/
def text? (p : Path) : Option String := Utf8.decode? p.bytes

/-- The path as shown to people, malformed bytes replaced. -/
def display (p : Path) : String := Utf8.decodeLossy p.bytes

/-- Whether the path starts at the root. -/
def isAbsolute (p : Path) : Bool := p.bytes.head? = some slash

/-- Continues a path. A slash is put in between unless there is one already or the left side is
empty; an absolute right side replaces the left. -/
def join (p q : Path) : Path :=
  if q.isAbsolute then q
  else if p.bytes.isEmpty || p.bytes.getLast? = some slash then ⟨p.bytes ++ q.bytes⟩
  else ⟨p.bytes ++ slash :: q.bytes⟩

/-- Continues a path by a text. -/
def joinString (p : Path) (s : String) : Path := p.join (ofString s)

/-- Cuts bytes at slashes: the names between them, some of which may be empty. -/
def segments : Bytes → List Bytes
  | [] => [[]]
  | b :: rest =>
    if b = slash then [] :: segments rest
    else match segments rest with
      | [] => [[b]]
      | s :: more => (b :: s) :: more

/-- Puts slashes between names. -/
def unsegments : List Bytes → Bytes
  | [] => []
  | [s] => s
  | s :: rest => s ++ slash :: unsegments rest

theorem segments_ne_nil (bs : Bytes) : segments bs ≠ [] := by
  cases bs with
  | nil => simp [segments]
  | cons b rest =>
    unfold segments
    split
    · simp
    · split <;> simp

/-- Cutting loses nothing but the slashes. -/
theorem unsegments_segments (bs : Bytes) : unsegments (segments bs) = bs := by
  induction bs with
  | nil => rfl
  | cons b rest ih =>
    unfold segments
    split
    · next h =>
      cases hs : segments rest with
      | nil => exact absurd hs (segments_ne_nil rest)
      | cons s more => simp_all [unsegments]
    · cases hs : segments rest with
      | nil => exact absurd hs (segments_ne_nil rest)
      | cons s more => cases more <;> simp_all [unsegments]

/-- The name that stands for the directory itself. -/
def here : Bytes := [0x2E]

/-- The name that stands for the directory above. -/
def above : Bytes := [0x2E, 0x2E]

/-- Drops trailing names that do not move. -/
def dropIdle (names : List Bytes) : List Bytes :=
  (names.reverse.dropWhile fun s => s.isEmpty || s = here).reverse

/-- The part in front of the names: the root, or a leading dot. -/
def front (p : Path) : Bytes :=
  match p.bytes with
  | [] => []
  | b :: rest =>
    if b = slash then [slash]
    else if b = 0x2E ∧ (rest.isEmpty ∨ rest.head? = some slash) then [b]
    else []

/-- The path without its last name. The root and the empty path have none. -/
def parent? (p : Path) : Option Path :=
  let front := p.front
  match dropIdle (segments (p.bytes.drop front.length)) with
  | [] => if front = here then some ⟨[]⟩ else none
  | names => some ⟨front ++ unsegments (dropIdle names.dropLast)⟩

/-- The path in JSON, which only a text can be. -/
def toJson (p : Path) : Except Failure Json :=
  match p.text? with
  | some s => .ok (.text s)
  | none => .error .notWritable

end Path

end TierSweep
