import TierSweep.Text.Utf8

/-!
# Reading back UTF-8

The bytes of a text read back as its characters, whatever follows them (`Utf8.units_encode`), so
both ways of reading recover the text and different texts have different bytes. A byte below `0x80`
always ends what was begun before it: around such a byte the two sides are read independently,
however malformed they are (`Utf8.units_append_ascii`), and its character is read nowhere else
(`Utf8.mem_of_mem_units`).

## Main results

* `Utf8.units_encode`, `Utf8.decodeLossy_encode`, `Utf8.encode_injective`.
* `Utf8.units_append_ascii`, `Utf8.mem_encode_ascii`, `Utf8.mem_of_mem_units`.
-/

namespace TierSweep.Utf8

/-! ### Bytes of one character -/

private theorem toNat_ofNat_byte {n : Nat} (h : n < 256) : (UInt8.ofNat n).toNat = n :=
  UInt8.toNat_ofNat_of_lt' h

private theorem start_one {n : Nat} (h : n < 0x80) :
    start (UInt8.ofNat n) = .char (Char.ofNat n) := by
  rw [start, toNat_ofNat_byte (by omega)]
  simp only [if_pos h]

private theorem start_two {n : Nat} (h : 0xC2 ≤ n) (h' : n < 0xE0) :
    start (UInt8.ofNat n) = .opens ⟨0x80, 0xBF, 0, n - 0xC0⟩ := by
  rw [start, toNat_ofNat_byte (by omega)]
  simp only [if_neg (show ¬n < 0x80 by omega), if_neg (show ¬n < 0xC2 by omega), if_pos h']

private theorem start_three {n : Nat} (h : 0xE0 ≤ n) (h' : n < 0xF0) :
    start (UInt8.ofNat n) = .opens
      ⟨if n = 0xE0 then 0xA0 else 0x80, if n = 0xED then 0x9F else 0xBF, 1, n - 0xE0⟩ := by
  rw [start, toNat_ofNat_byte (by omega)]
  simp only [if_neg (show ¬n < 0x80 by omega), if_neg (show ¬n < 0xC2 by omega),
    if_neg (show ¬n < 0xE0 by omega), if_pos h']
  split
  · next hn => subst hn; rfl
  · split
    · next hn => subst hn; rfl
    · rfl

private theorem start_four {n : Nat} (h : 0xF0 ≤ n) (h' : n < 0xF5) :
    start (UInt8.ofNat n) = .opens
      ⟨if n = 0xF0 then 0x90 else 0x80, if n = 0xF4 then 0x8F else 0xBF, 2, n - 0xF0⟩ := by
  rw [start, toNat_ofNat_byte (by omega)]
  simp only [if_neg (show ¬n < 0x80 by omega), if_neg (show ¬n < 0xC2 by omega),
    if_neg (show ¬n < 0xE0 by omega), if_neg (show ¬n = 0xE0 by omega),
    if_neg (show ¬n = 0xED by omega), if_neg (show ¬n < 0xF0 by omega)]
  split
  · next hn => subst hn; rfl
  · split
    · next hn => rw [if_neg (show ¬n = 0xF4 by omega)]
    · next hn =>
      obtain rfl : n = 0xF4 := by omega
      rfl

/-- A byte that goes on with a character adds six bits to it. -/
private theorem unitsAfter_tail (o : Open) {k : Nat} (hk : k < 0x40) (rest : Bytes)
    (hlow : o.low.toNat ≤ k + 0x80) (hhigh : k + 0x80 ≤ o.high.toNat) :
    unitsAfter o (UInt8.ofNat (k + 0x80) :: rest) =
      match o.more with
      | 0 => some (Char.ofNat (o.bits * 64 + k)) :: units rest
      | more + 1 => unitsAfter ⟨0x80, 0xBF, more, o.bits * 64 + k⟩ rest := by
  have hb : (UInt8.ofNat (k + 0x80)).toNat = k + 0x80 := toNat_ofNat_byte (by omega)
  have hin : o.low ≤ UInt8.ofNat (k + 0x80) ∧ UInt8.ofNat (k + 0x80) ≤ o.high := by
    rw [UInt8.le_iff_toNat_le, UInt8.le_iff_toNat_le, hb]
    exact ⟨hlow, hhigh⟩
  have hpush : o.push (UInt8.ofNat (k + 0x80)) = o.bits * 64 + k := by
    unfold Open.push
    rw [hb]
    exact congrArg _ (Nat.add_sub_cancel k 0x80)
  rw [unitsAfter]
  cases o.more with
  | zero => simp only [if_pos hin, hpush]
  | succ more => simp only [if_pos hin, hpush]

private theorem unitsAfter_last {bits k : Nat} (hk : k < 0x40) (rest : Bytes) :
    unitsAfter ⟨0x80, 0xBF, 0, bits⟩ (UInt8.ofNat (k + 0x80) :: rest)
      = some (Char.ofNat (bits * 64 + k)) :: units rest :=
  unitsAfter_tail _ hk rest (by simp only [UInt8.reduceToNat]; omega)
    (by simp only [UInt8.reduceToNat]; omega)

private theorem unitsAfter_last_two {bits j k : Nat} (hj : j < 0x40) (hk : k < 0x40)
    (rest : Bytes) :
    unitsAfter ⟨0x80, 0xBF, 1, bits⟩ (UInt8.ofNat (j + 0x80) :: UInt8.ofNat (k + 0x80) :: rest)
      = some (Char.ofNat ((bits * 64 + j) * 64 + k)) :: units rest := by
  rw [unitsAfter_tail _ hj _ (by simp only [UInt8.reduceToNat]; omega)
    (by simp only [UInt8.reduceToNat]; omega)]
  exact unitsAfter_last hk rest

/-- The bytes of a character are read as that character. -/
theorem units_encodeChar (c : Char) (rest : Bytes) :
    units (String.utf8EncodeChar c ++ rest) = some c :: units rest := by
  have hc : Char.ofNat c.val.toNat = c := Char.ofNat_toNat c
  have hvalid : c.val.toNat < 0xD800 ∨ 0xDFFF < c.val.toNat ∧ c.val.toNat < 0x110000 := c.valid
  rw [String.utf8EncodeChar]
  generalize c.val.toNat = v at hc hvalid
  by_cases h₁ : v ≤ 0x7F
  · rw [if_pos h₁, List.singleton_append, units, start_one (by omega), hc]
  by_cases h₂ : v ≤ 0x7FF
  · rw [if_neg h₁, if_pos h₂, List.cons_append, List.singleton_append, units,
      start_two (by omega) (by omega)]
    simp only
    rw [unitsAfter_last (by omega),
      show (v / 64 % 0x20 + 0xC0 - 0xC0) * 64 + v % 0x40 = v by omega, hc]
  by_cases h₃ : v ≤ 0xFFFF
  · rw [if_neg h₁, if_neg h₂, if_pos h₃, List.cons_append, List.cons_append, List.singleton_append,
      units, start_three (by omega) (by omega)]
    simp only
    -- the first byte bounds the second one: no surrogate is encoded
    rw [unitsAfter_tail _ (by omega) _
      (by simp only; split <;> simp only [UInt8.reduceToNat] <;> omega)
      (by simp only; split <;> simp only [UInt8.reduceToNat] <;> omega)]
    simp only
    rw [unitsAfter_last (by omega), show ((v / 4096 % 0x10 + 0xE0 - 0xE0) * 64
      + v / 64 % 0x40) * 64 + v % 0x40 = v by omega, hc]
  · rw [if_neg h₁, if_neg h₂, if_neg h₃, List.cons_append, List.cons_append, List.cons_append,
      List.singleton_append, units, start_four (by omega) (by omega)]
    simp only
    rw [unitsAfter_tail _ (by omega) _
      (by simp only; split <;> simp only [UInt8.reduceToNat] <;> omega)
      (by simp only; split <;> simp only [UInt8.reduceToNat] <;> omega)]
    simp only
    rw [unitsAfter_last_two (by omega) (by omega), show (((v / 262144 % 0x08 + 0xF0 - 0xF0) * 64
      + v / 4096 % 0x40) * 64 + v / 64 % 0x40) * 64 + v % 0x40 = v by omega, hc]

/-! ### Texts -/

/-- The bytes of a text are read as its characters, whatever follows them. -/
theorem units_encode (s : String) (rest : Bytes) :
    units (encode s ++ rest) = s.toList.map some ++ units rest := by
  rw [encode]
  induction s.toList with
  | nil => rfl
  | cons c cs ih =>
    rw [List.flatMap_cons, List.append_assoc, units_encodeChar, ih, List.map_cons, List.cons_append]

theorem units_encode_self (s : String) : units (encode s) = s.toList.map some := by
  have h := units_encode s []
  rwa [List.append_nil, units, List.append_nil] at h

/-- Reading the bytes of a text gives the text back. -/
theorem decodeLossy_encode (s : String) : decodeLossy (encode s) = s := by
  rw [decodeLossy, units_encode_self, List.map_map]
  exact (congrArg String.ofList (List.map_id s.toList)).trans String.ofList_toList

/-- Different texts have different bytes. -/
theorem encode_injective {s t : String} (h : encode s = encode t) : s = t := by
  rw [← decodeLossy_encode s, h, decodeLossy_encode]

@[simp] theorem encode_append (s t : String) : encode (s ++ t) = encode s ++ encode t := by
  rw [encode, String.toList_append, List.flatMap_append]
  rfl

/-! ### Bytes that stand for themselves -/

/-- A byte below `0x80` occurs in a text only as the character of that number. -/
theorem mem_encode_ascii {b : UInt8} (hb : b < 0x80) {s : String} (h : b ∈ encode s) :
    Char.ofNat b.toNat ∈ s.toList := by
  have hb : b.toNat < 0x80 := hb
  obtain ⟨c, hc, hbc⟩ := List.mem_flatMap.mp h
  suffices hval : b.toNat = c.val.toNat by
    rw [hval]
    exact (Char.ofNat_toNat c).symm ▸ hc
  have hlarge {n : Nat} (h₁ : 0x80 ≤ n) (h₂ : n < 256) (heq : b = UInt8.ofNat n) : False := by
    rw [heq, toNat_ofNat_byte h₂] at hb
    omega
  rw [String.utf8EncodeChar] at hbc
  generalize c.val.toNat = v at hbc
  by_cases h₁ : v ≤ 0x7F
  · rw [if_pos h₁, List.mem_singleton] at hbc
    rw [hbc, toNat_ofNat_byte (by omega)]
  -- all bytes of a longer character are at least `0x80`
  exfalso
  by_cases h₂ : v ≤ 0x7FF
  · rw [if_neg h₁, if_pos h₂] at hbc
    simp only [List.mem_cons, List.not_mem_nil, or_false] at hbc
    rcases hbc with h | h <;> exact hlarge (by omega) (by omega) h
  by_cases h₃ : v ≤ 0xFFFF
  · rw [if_neg h₁, if_neg h₂, if_pos h₃] at hbc
    simp only [List.mem_cons, List.not_mem_nil, or_false] at hbc
    rcases hbc with h | h | h <;> exact hlarge (by omega) (by omega) h
  · rw [if_neg h₁, if_neg h₂, if_neg h₃] at hbc
    simp only [List.mem_cons, List.not_mem_nil, or_false] at hbc
    rcases hbc with h | h | h | h <;> exact hlarge (by omega) (by omega) h

private theorem start_ascii {b : UInt8} (hb : b < 0x80) : start b = .char (Char.ofNat b.toNat) := by
  have hb : b.toNat < 0x80 := hb
  rw [start]
  simp only [if_pos hb]

/-- What has begun goes on with bytes from `0x80` on, and the character that it may end as is none
below `0x80`. -/
private structure Open.IsLong (o : Open) : Prop where
  low : 0x80 ≤ o.low
  two_le : 2 ≤ o.bits * 64 + (o.low.toNat - 0x80)
  last : o.more = 0 → 0x80 ≤ o.bits * 64 + (o.low.toNat - 0x80)

private theorem isLong_of_start {b : UInt8} {o : Open} (h : start b = .opens o) : o.IsLong := by
  simp only [start] at h
  repeat' split at h
  all_goals cases h
  all_goals refine ⟨of_decide_eq_true rfl, ?_, ?_⟩
  all_goals simp only [UInt8.reduceToNat]
  all_goals omega

private theorem Open.le_push {o : Open} {b : UInt8} (hb : o.low ≤ b) :
    o.bits * 64 + (o.low.toNat - 0x80) ≤ o.push b :=
  Nat.add_le_add_left (Nat.sub_le_sub_right (UInt8.le_iff_toNat_le.mp hb) _) _

private theorem Open.IsLong.push {o : Open} (h : o.IsLong) {b : UInt8} (hb : o.low ≤ b)
    (more : Nat) : (⟨0x80, 0xBF, more, o.push b⟩ : Open).IsLong := by
  have hpush := Nat.le_trans h.two_le (o.le_push hb)
  refine ⟨UInt8.le_rfl, ?_, fun _ => ?_⟩
  all_goals simp only [UInt8.reduceToNat]
  all_goals omega

private theorem units_ascii {b : UInt8} (hb : b < 0x80) (after : Bytes) :
    units (b :: after) = some (Char.ofNat b.toNat) :: units after := by
  rw [units, start_ascii hb]

/-- A byte that does not go on with a character ends it, and is read as if nothing were before. -/
private theorem unitsAfter_out {o : Open} {b : UInt8} (h : ¬(o.low ≤ b ∧ b ≤ o.high))
    (after : Bytes) : unitsAfter o (b :: after) = none :: units (b :: after) := by
  rw [unitsAfter, if_neg h, units]
  cases start b <;> rfl

/-- A byte below `0x80` ends a character that has begun and is a character itself. -/
private theorem unitsAfter_ascii {b : UInt8} (hb : b < 0x80) {o : Open} (ho : 0x80 ≤ o.low)
    (after : Bytes) :
    unitsAfter o (b :: after) = none :: some (Char.ofNat b.toNat) :: units after := by
  have hout : ¬(o.low ≤ b ∧ b ≤ o.high) := fun hin =>
    absurd (UInt8.le_trans ho hin.1) (UInt8.not_le.mpr hb)
  rw [unitsAfter_out hout, units_ascii hb]

/-- A byte below `0x80` ends whatever was begun before it, so both sides of it are read
independently. -/
theorem units_append_ascii {b : UInt8} (hb : b < 0x80) (before after : Bytes) :
    units (before ++ b :: after)
      = units before ++ some (Char.ofNat b.toNat) :: units after := by
  -- a character that has begun is kept along, with its next byte bounded away from `b`
  suffices h : ∀ n, ∀ before : Bytes, before.length ≤ n →
      units (before ++ b :: after)
          = units before ++ some (Char.ofNat b.toNat) :: units after ∧
        ∀ o : Open, 0x80 ≤ o.low → unitsAfter o (before ++ b :: after)
          = unitsAfter o before ++ some (Char.ofNat b.toNat) :: units after from
    (h before.length before (Nat.le_refl _)).1
  intro n
  induction n with
  | zero =>
    intro before hn
    obtain rfl := List.length_eq_zero_iff.mp (Nat.le_zero.mp hn)
    exact ⟨units_ascii hb after, fun o ho => unitsAfter_ascii hb ho after⟩
  | succ n ih =>
    intro before hn
    cases before with
    | nil => exact ⟨(ih [] (Nat.zero_le n)).1, (ih [] (Nat.zero_le n)).2⟩
    | cons x before =>
      obtain ⟨hunits, hafter⟩ := ih before (Nat.le_of_succ_le_succ hn)
      refine ⟨?_, fun o ho => ?_⟩
      · rw [List.cons_append, units, units]
        cases hx : start x with
        | char c => simp only [hunits, List.cons_append]
        | malformed => simp only [hunits, List.cons_append]
        | opens o => exact hafter o ((isLong_of_start hx).low)
      · rw [List.cons_append, unitsAfter, unitsAfter]
        by_cases hin : o.low ≤ x ∧ x ≤ o.high
        · rw [if_pos hin, if_pos hin]
          cases o.more with
          | zero => simp only [hunits, List.cons_append]
          | succ more => exact hafter _ UInt8.le_rfl
        · rw [if_neg hin, if_neg hin]
          cases hx : start x with
          | char c => simp only [hunits, List.cons_append]
          | malformed => simp only [hunits, List.cons_append]
          | opens o => simp only [hafter o (isLong_of_start hx).low, List.cons_append]

private theorem start_eq_char {b : UInt8} {c : Char} (h : start b = .char c) :
    c = Char.ofNat b.toNat := by
  simp only [start] at h
  repeat' split at h
  all_goals cases h
  rfl

/-- A character is the one of its number, and a number that belongs to none gives zero. -/
private theorem toNat_ofNat (n : Nat) : (Char.ofNat n).toNat = n ∨ (Char.ofNat n).toNat = 0 := by
  by_cases h : n.isValidChar
  · exact .inl (congrArg Char.toNat (dif_pos h))
  · exact .inr (congrArg Char.toNat (dif_neg h))

/-- A character that is read from some bytes is the first byte, or is read behind it. -/
private theorem mem_units_cons {c : Char} {b : UInt8} {rest : Bytes}
    (h : some c ∈ units (b :: rest)) : start b = .char c ∨ some c ∈ units rest ∨
      ∃ o, start b = .opens o ∧ some c ∈ unitsAfter o rest := by
  rw [units] at h
  cases hb : start b with
  | char d =>
    rw [hb] at h
    rcases List.mem_cons.mp h with h | h
    · exact .inl (by rw [Option.some.inj h])
    · exact .inr (.inl h)
  | opens o =>
    rw [hb] at h
    exact .inr (.inr ⟨o, rfl, h⟩)
  | malformed =>
    rw [hb] at h
    exact .inr (.inl ((List.mem_cons.mp h).resolve_left (Option.some_ne_none c)))

/-- A character that is read inside one that has begun is that one, or is read behind it. -/
private theorem mem_unitsAfter_cons {c : Char} {o : Open} {b : UInt8} {rest : Bytes}
    (h : some c ∈ unitsAfter o (b :: rest)) : some c ∈ units (b :: rest) ∨
      o.low ≤ b ∧ (some c ∈ units rest ∨ (o.more = 0 ∧ c = Char.ofNat (o.push b)) ∨
        ∃ more, some c ∈ unitsAfter ⟨0x80, 0xBF, more, o.push b⟩ rest) := by
  by_cases hin : o.low ≤ b ∧ b ≤ o.high
  · rw [unitsAfter, if_pos hin] at h
    refine .inr ⟨hin.1, ?_⟩
    cases hmore : o.more with
    | zero =>
      rw [hmore] at h
      rcases List.mem_cons.mp h with h | h
      · exact .inr (.inl ⟨rfl, Option.some.inj h⟩)
      · exact .inl h
    | succ more =>
      rw [hmore] at h
      exact .inr (.inr ⟨more, h⟩)
  · rw [unitsAfter_out hin] at h
    exact .inl ((List.mem_cons.mp h).resolve_left (Option.some_ne_none c))

/-- A character below `0x80` is read only where its byte is, however malformed the rest is. Zero is
apart: it is also read for numbers that belong to no character. -/
theorem mem_of_mem_units {c : Char} (hpos : 0 < c.toNat) (hc : c.toNat < 0x80) {bytes : Bytes}
    (h : some c ∈ units bytes) : UInt8.ofNat c.toNat ∈ bytes := by
  have hread {n : Nat} (hn : c = Char.ofNat n) : c.toNat = n := by
    rcases toNat_ofNat n with h | h <;> rw [← hn] at h <;> omega
  suffices hall : ∀ bytes : Bytes, (some c ∈ units bytes → UInt8.ofNat c.toNat ∈ bytes) ∧
      ∀ o : Open, o.IsLong → some c ∈ unitsAfter o bytes → UInt8.ofNat c.toNat ∈ bytes from
    (hall bytes).1 h
  intro bytes
  induction bytes with
  | nil =>
    refine ⟨fun h => absurd h List.not_mem_nil, fun o _ h => ?_⟩
    rw [unitsAfter, List.mem_singleton] at h
    cases h
  | cons b rest ih =>
    obtain ⟨hunits, hafter⟩ := ih
    have hcons (h : some c ∈ units (b :: rest)) : UInt8.ofNat c.toNat ∈ b :: rest := by
      obtain hb | h | ⟨o, ho, h⟩ := mem_units_cons h
      · rw [hread (start_eq_char hb), UInt8.ofNat_toNat]
        exact List.mem_cons_self
      · exact List.mem_cons_of_mem b (hunits h)
      · exact List.mem_cons_of_mem b (hafter o (isLong_of_start ho) h)
    refine ⟨hcons, fun o ho h => ?_⟩
    obtain h | ⟨hlow, h | ⟨hmore, heq⟩ | ⟨more, h⟩⟩ := mem_unitsAfter_cons h
    · exact hcons h
    · exact List.mem_cons_of_mem b (hunits h)
    · -- what has begun is too large to be `c`
      have hpush := Nat.le_trans (ho.last hmore) (o.le_push hlow)
      rw [← hread heq] at hpush
      exact absurd hc (Nat.not_lt.mpr hpush)
    · exact List.mem_cons_of_mem b (hafter _ (ho.push hlow more) h)

end TierSweep.Utf8
