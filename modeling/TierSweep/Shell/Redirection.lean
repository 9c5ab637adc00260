import TierSweep.Shell.Expansion

/-!
# Redirections

Before a command is carried out its redirections are expanded, all of them, and then take effect one
after another. What the descriptors meant before can be kept and given back afterwards.
-/

namespace TierSweep.Shell

/-- A redirection whose words have been expanded. -/
inductive Rerouting where
  | file (descriptor : Nat) (direction : Direction) (path : String)
  /-- The same as another descriptor, or nothing. -/
  | copy (descriptor : Nat) (source? : Option Nat)
  | text (descriptor : Nat) (body : String)

namespace Rerouting

/-- The descriptor that changes. -/
def descriptor : Rerouting → Nat
  | file d _ _ => d
  | copy d _ => d
  | text d _ => d

/-- What a descriptor meant before: the descriptor under which that was kept, if it meant anything. -/
abbrev Kept := List (Nat × Option Nat)

/-- How opening a file failed. -/
def openFault (creates : Bool) (path : String) (fault : FileFault) : String :=
  (if creates then "cannot create " else "cannot open ") ++ path ++ ": "
    ++ if fault = .notFound ∨ fault = .notDirectory then
        (if creates then "Directory nonexistent" else "No such file")
      else fault.words

/-- Makes a descriptor mean what another, newly opened one means. -/
def moveTo (opened target : Nat) : Run Unit := do
  let _ ← Run.ask (Act.copy opened target)
  Run.ask (Act.close opened)

/-- Opens the file of a redirection. -/
def openFile (direction : Direction) (path : String) : Run (Except String Nat) := do
  let s ← get
  let mode : OpenMode := match direction with
    | .input => .read
    | .output => if s.has 'C' then .fresh else .write
    | .clobber => .write
    | .append => .append
    | .update => .update
  match ← Run.ask (Act.openFile path mode) with
  | .ok d => return .ok d
  | .error fault => return .error (openFault (direction ≠ .input) path fault)

/-- Puts one redirection into effect, or tells why this cannot be done. -/
def perform (r : Rerouting) : Run (Except String Unit) := do
  match r with
  | .file d direction path =>
    match ← openFile direction path with
    | .error fault => return .error fault
    | .ok opened =>
      moveTo opened d
      return .ok ()
  | .copy d none =>
    Run.ask (Act.close d)
    return .ok ()
  | .copy d (some source) =>
    match ← Run.ask (Act.copy source d) with
    | .ok _ => return .ok ()
    | .error fault => return .error (toString source ++ ": " ++ fault.words)
  | .text d body =>
    let (reading, writing) ← Run.ask Act.pipe
    let _ ← Run.ask (Act.write writing body)
    Run.ask (Act.close writing)
    moveTo reading d
    return .ok ()

/-- Keeps what a descriptor means. -/
def keep (d : Nat) : Run (Option Nat) := do
  match ← Run.ask (Act.keep d) with
  | .ok kept => return some kept
  | .error _ => return none

/-- Gives back what descriptors meant before, the last first. -/
def restore : Kept → Run Unit
  | [] => return
  | (d, kept?) :: rest => do
    match kept? with
    | some kept => moveTo kept d
    | none => Run.ask (Act.close d)
    restore rest

/-- Forgets what descriptors meant before. -/
def forget (kept : Kept) : Run Unit :=
  kept.forM fun
    | (_, some d) => Run.ask (Act.close d)
    | (_, none) => return

/-- Puts redirections into effect one after another and keeps what the descriptors meant before. It
stops at the first that fails and tells so. -/
def performAll : List Rerouting → Kept → Run (Kept × Bool)
  | [], kept => return (kept, true)
  | r :: rest, kept => do
    let before ← keep r.descriptor
    let kept := (r.descriptor, before) :: kept
    match ← perform r with
    | .ok _ => performAll rest kept
    | .error fault =>
      Run.report fault
      return (kept, false)

/-- Expands a redirection. -/
def ofRedirection (output : Command → Run String) : Redirection → Run Rerouting
  | .file d direction target => return .file d direction (← Expansion.assigned output target)
  | .text d body => return .text d (← Expansion.text output body)
  | .copy d target => do
    let text ← Expansion.text output target
    match text.toList with
    | ['-'] => return .copy d none
    | [c] =>
      if c.isDigit then return .copy d (some (c.toNat - '0'.toNat))
      else Run.fail "Syntax error: Bad fd number"
    | _ => Run.fail "Syntax error: Bad fd number"

end Rerouting

end TierSweep.Shell
