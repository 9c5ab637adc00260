/-!
# Modes

A mode says in bits what the owner of a file, its group and others may do with it. Changes of modes are
written as digits in base eight or with letters.
-/

namespace TierSweep.Mode

/-- The bits of a mode for the owner, the group and others, as often as they are chosen. -/
def whoBits (who : List Char) : Nat :=
  (if who.contains 'u' || who.contains 'a' then 0o4700 else 0)
    ||| (if who.contains 'g' || who.contains 'a' then 0o2070 else 0)
    ||| (if who.contains 'o' || who.contains 'a' then 0o1007 else 0)

/-- The mode that a change which is written with letters makes of a mode. Nothing comes back if it is not
understood. -/
def symbolic? (mask : Nat) (directory : Bool) : Nat → List Char → Nat → Option Nat
  | 0, _, mode => some mode
  | fuel + 1, cs, mode =>
    let who := cs.takeWhile fun c => ['u', 'g', 'o', 'a'].contains c
    let rec actions : Nat → List Char → Nat → Option (Nat × List Char)
      | 0, _, _ => none
      | fuel + 1, cs, mode =>
        match cs with
        | op :: rest =>
          if ['+', '-', '='].contains op then
            let letters := rest.takeWhile fun c => ['r', 'w', 'x', 'X', 's', 't', 'u', 'g', 'o'].contains c
            let all := letters.foldl (fun b c => b ||| (match c with
              | 'r' => 0o444
              | 'w' => 0o222
              | 'x' => 0o111
              | 'X' => if directory || mode &&& 0o111 ≠ 0 then 0o111 else 0
              | 's' => 0o6000
              | 't' => 0o1000
              | 'u' => (mode >>> 6 &&& 7) * 0o111
              | 'g' => (mode >>> 3 &&& 7) * 0o111
              | _ => (mode &&& 7) * 0o111)) 0
            let scope := if who.isEmpty then whoBits ['a'] &&& (0o7777 - (mask &&& 0o777)) else whoBits who
            let bits := all &&& scope
            let cleared (n : Nat) : Nat := mode &&& (0o7777 - n)
            let mode := if op = '+' then mode ||| bits
              else if op = '-' then cleared bits
              else cleared (if who.isEmpty then 0o777 else scope &&& 0o777) ||| bits
            actions fuel (rest.drop letters.length) mode
          else if op = ',' then some (mode, rest)
          else none
        | [] => some (mode, [])
    let behind := cs.drop who.length
    match behind.head? with
    | some op =>
      if ['+', '-', '='].contains op then
        match actions (behind.length + 1) behind mode with
        | some (mode, []) => some mode
        | some (mode, rest) => symbolic? mask directory fuel rest mode
        | none => none
      else none
    | none => none

/-- The change of a mode that a text writes. -/
def change? (mask : Nat) (s : String) : Option (Bool → Nat → Nat) :=
  let cs := s.toList
  if !cs.isEmpty && cs.all fun c => '0' ≤ c && c ≤ '7' then
    let n := cs.foldl (fun n c => 8 * n + (c.toNat - '0'.toNat)) 0
    if n ≤ 0o7777 then some fun _ _ => n else none
  else
    match symbolic? mask false (cs.length + 1) cs 0 with
    | none => none
    | some _ => some fun directory mode =>
      (symbolic? mask directory (cs.length + 1) cs mode).getD mode

/-- Whether an argument is a mode although a dash begins it. -/
def isArgument (a : String) : Bool :=
  match a.toList with
  | '-' :: c :: _ => ['r', 'w', 'x', 'X', 's', 't', 'u', 'g', 'o', '0', '1', '2', '3', '4', '5', '6', '7'].contains c
  | _ => false

/-- The mask that takes write access from group and others. -/
def usualMask : Nat := 0o022

/-- A mode without some bits. -/
def without (mode bits : Nat) : Nat := mode - (mode &&& bits)

/-- What a mode allows in letters, for the owner, the group and others. -/
def letters (mode : Nat) : String :=
  let one (who : String) (bits : Nat) : String :=
    who ++ "=" ++ (if bits &&& 4 ≠ 0 then "r" else "") ++ (if bits &&& 2 ≠ 0 then "w" else "")
      ++ (if bits &&& 1 ≠ 0 then "x" else "")
  one "u" (mode >>> 6 &&& 7) ++ "," ++ one "g" (mode >>> 3 &&& 7) ++ "," ++ one "o" (mode &&& 7)

end TierSweep.Mode
