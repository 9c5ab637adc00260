/-!
# Powers of two and ten

The two kinds of powers in which doubles, decimal numerals and durations are counted.
-/

namespace TierSweep

/-- A power of two. -/
abbrev twoTo (n : Nat) : Nat := Nat.pow 2 n

/-- A power of ten. -/
abbrev tenTo (n : Nat) : Nat := Nat.pow 10 n

end TierSweep
