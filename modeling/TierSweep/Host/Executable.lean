import TierSweep.Host.Machine

/-!
# Files that can be executed

A file can be executed if it is a program of the operating system or if its first line names an
interpreter, which is then executed with the path of the file. What is given to a program as its
arguments begins with the name under which it was called.
-/

namespace TierSweep

/-- A program of the operating system and what it is given. -/
structure Executable where
  program : String
  /-- The name under which it was called. -/
  self : String
  arguments : List String

namespace Executable

/-- How many scripts in a row may name one another as their interpreters. -/
def maxScripts : Nat := 5

/-- How many bytes of a script are looked at for its interpreter. -/
def headSize : Nat := 255

/-- Whether a byte separates the parts of the line that names an interpreter. -/
def isGap (b : UInt8) : Bool := b = 0x20 || b = 0x09

/-- The interpreter that a script names in its first line, and one argument for it. A name that does
not end where the line is cut off is none. Behind a line that is not ended there are zero bytes, so
such a line may name the interpreter with the empty name. -/
def interpreter? (content : Bytes) : Option (Bytes × List Bytes) :=
  match (content.take headSize).takeWhile fun b => b ≠ 0x0A with
  | 0x23 :: 0x21 :: line =>
    let line := line.dropWhile isGap
    let name := line.takeWhile fun b => !isGap b
    let rest := line.drop name.length
    let argument := ((rest.dropWhile isGap).reverse.dropWhile isGap).reverse.takeWhile (· ≠ 0)
    let isCut := rest.isEmpty && !(content.take headSize).contains 0x0A && headSize < content.length
    let isLine := (content.take headSize).contains 0x0A || headSize < content.length
    if (name.isEmpty && isLine) || isCut then none
    else some (name.takeWhile (· ≠ 0), if argument.isEmpty then [] else [argument])
  | _ => none

/-- What executing a file comes to if at most so many scripts name one another. -/
def ofFileWithin (t : FileTree) : Nat → Path → String → List String → Except FileFault Executable
  | scripts, p, self, arguments => do
    match ← t.find p with
    | (_, .program name) => pure ⟨name, self, arguments⟩
    | (_, .file content mode) =>
      if !(FileEntry.file content mode).isExecutable then throw .denied
      else match interpreter? content, scripts with
        | none, _ => throw .unknownFormat
        | some ([], _), _ => throw .denied
        | some _, 0 => throw .tooManyLinks
        | some (name, first), scripts + 1 =>
          ofFileWithin t scripts ⟨name⟩ (Octets.ofBytes name)
            (first.map Octets.ofBytes ++ Octets.ofBytes p.bytes :: arguments)
    | _ => throw .denied

/-- What executing a file with some arguments comes to. -/
def ofFile (t : FileTree) (p : Path) (self : String) (arguments : List String) :
    Except FileFault Executable :=
  ofFileWithin t maxScripts p self arguments

end Executable

/-- The path that an octet text writes. -/
def Path.ofOctets (s : String) : Path := ⟨Octets.toBytes s⟩

/-- The paths at which a program may lie that is looked for in directories separated by colons. An
empty directory is the working directory. -/
def Path.candidates (directories name : String) : List String :=
  (directories.splitOn ":").map fun d => if d.isEmpty then name else d ++ "/" ++ name

end TierSweep
