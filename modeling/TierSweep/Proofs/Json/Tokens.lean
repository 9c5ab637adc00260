import TierSweep.Proofs.Json.Integers
import TierSweep.Proofs.Json.Strings
import TierSweep.Proofs.Text.Encoding

/-!
# The tokens of a written tree

The compact text of a tree spells its tokens (`Json.tokens`), and nothing that is written before or
after it changes them: a word ends at a punctuation mark, and a string ends at its closing quote
because every quote inside it is escaped. The statement is about pieces of text, and it is put
together along the text: two pieces with a punctuation mark between them spell what they spell
alone.

## Main definitions

* `Json.Spells` — some characters spell some tokens, wherever a word may end behind them.
* `Json.tokens` — the tokens of a tree.

## Main results

* `Json.spells_chars`, `Json.tokens?_units_encode_write`.
-/

namespace TierSweep.Json

open Token (tokens? punctuation? isBlank)

/-- A word that is written in front of `rest` ends there. -/
def EndsWords (rest : List (Option Char)) : Prop :=
  ∀ w, tokens? (.inWord w) rest = (.word w.reverse :: ·) <$> tokens? .between rest

/-- The characters spell the tokens in front of every text that ends words. -/
def Spells (cs : List Char) (ts : List Token) : Prop :=
  ∀ rest, EndsWords rest →
    tokens? .between (cs.map some ++ rest) = (ts ++ ·) <$> tokens? .between rest

/-! ### Punctuation and words -/

section

variable {c : Char} {t : Token}

theorem ne_of_punctuation? (h : punctuation? c = some t) : isBlank c = false ∧ c ≠ '"' := by
  rw [Token.punctuation?.eq_def] at h
  split at h <;> first | decide | cases h

theorem tokens?_punctuation (h : punctuation? c = some t) (rest : List (Option Char)) :
    tokens? .between (some c :: rest) = (t :: ·) <$> tokens? .between rest := by
  obtain ⟨hblank, hquote⟩ := ne_of_punctuation? h
  simp [tokens?, hblank, hquote, h]

theorem endsWords_nil : EndsWords [] := fun _ => rfl

theorem endsWords_punctuation (h : punctuation? c = some t) (rest : List (Option Char)) :
    EndsWords (some c :: rest) := by
  obtain ⟨hblank, hquote⟩ := ne_of_punctuation? h
  intro w
  rw [tokens?_punctuation h, tokens?]
  simp only [hblank, hquote, h, Bool.false_eq_true, if_false, Option.map_eq_map, Option.map_map]
  rfl

end

/-- The character is part of a word: no blank, no quote and no punctuation mark. -/
def inWords (c : Char) : Bool := !isBlank c && c != '"' && (punctuation? c).isNone

theorem inWords_iff {c : Char} :
    inWords c = true ↔ (isBlank c = false ∧ c ≠ '"') ∧ punctuation? c = none := by
  simp [inWords]

/-- Written numbers are words. -/
theorem inWords_of_isNumeral {c : Char} (h : isNumeral c = true) : inWords c = true := by
  have hne (d : Char) (hd : isNumeral d = false) : c ≠ d := by
    rintro rfl
    rw [h] at hd
    cases hd
  have hpunctuation : punctuation? c = none := by
    rw [Token.punctuation?.eq_def]
    split <;> first | rfl | exact absurd h (by decide)
  simp [inWords_iff, isBlank, hpunctuation, hne ' ' rfl, hne '\n' rfl, hne '\t' rfl, hne '\r' rfl,
    hne '"' rfl]

theorem tokens?_inWord {cs : List Char} (h : ∀ c ∈ cs, inWords c = true) (w : List Char)
    (rest : List (Option Char)) :
    tokens? (.inWord w) (cs.map some ++ rest) = tokens? (.inWord (cs.reverse ++ w)) rest := by
  induction cs generalizing w with
  | nil => rfl
  | cons c cs ih =>
    obtain ⟨hc, hcs⟩ := List.forall_mem_cons.mp h
    rw [inWords_iff] at hc
    simp [tokens?, hc, ih hcs]

theorem spells_word {cs : List Char} (hne : cs ≠ []) (h : ∀ c ∈ cs, inWords c = true) :
    Spells cs [.word cs] := by
  intro rest hrest
  cases cs with
  | nil => exact absurd rfl hne
  | cons c cs =>
    obtain ⟨hc, hcs⟩ := List.forall_mem_cons.mp h
    rw [inWords_iff] at hc
    simp [tokens?, hc, tokens?_inWord hcs, hrest _]

/-! ### Strings -/

theorem tokens?_inText {cs : List Char} (h : ∀ c ∈ cs, c ≠ '"' ∧ c ≠ '\\') (raw : RawText)
    (rest : List (Option Char)) :
    tokens? (.inText raw false) (cs.map some ++ rest)
      = tokens? (.inText ((cs.map some).reverse ++ raw) false) rest := by
  induction cs generalizing raw with
  | nil => rfl
  | cons c cs ih =>
    obtain ⟨⟨hquote, hslash⟩, hcs⟩ := List.forall_mem_cons.mp h
    simp [tokens?, hquote, hslash, ih hcs]

theorem ne_of_mem_pad {width n : Nat} {c : Char} (h : c ∈ Hex.pad width n) :
    c ≠ '"' ∧ c ≠ '\\' := by
  have hdigit : ∀ d < 16, Hex.digit d ≠ '"' ∧ Hex.digit d ≠ '\\' := by decide
  induction width generalizing n with
  | zero => cases h
  | succ width ih =>
    rw [Hex.pad, List.mem_append, List.mem_singleton] at h
    rcases h with h | rfl
    · exact ih h
    · exact hdigit _ (Nat.mod_lt n (by decide))

/-- No character ends the string it is written in. -/
theorem tokens?_escape (c : Char) (raw : RawText) (rest : List (Option Char)) :
    tokens? (.inText raw false) ((escape c).map some ++ rest)
      = tokens? (.inText (((escape c).map some).reverse ++ raw) false) rest := by
  obtain ⟨e, he, -, -⟩ | ⟨-, hc⟩ | ⟨-, hquote, hslash, hc⟩ := escape_cases c
  · simp [he, tokens?]
  · have hpad := tokens?_inText fun d (hd : d ∈ Hex.pad 4 c.toNat) => ne_of_mem_pad hd
    simp [hc, tokens?, hpad]
  · exact hc ▸ tokens?_inText (by simp [hquote, hslash]) raw rest

theorem spells_quoted (s : String) : Spells (quoted s) [.text (rawText s)] := by
  have hcontent (cs : List Char) (raw : RawText) (rest : List (Option Char)) :
      tokens? (.inText raw false) ((cs.flatMap escape).map some ++ rest)
        = tokens? (.inText (((cs.flatMap escape).map some).reverse ++ raw) false) rest := by
    induction cs generalizing raw with
    | nil => rfl
    | cons c cs ih =>
      rw [List.flatMap_cons, List.map_append, List.append_assoc, tokens?_escape, ih,
        List.reverse_append, List.append_assoc]
  intro rest _
  have hshape := wellFormed_rawText s
  rw [rawText] at hshape ⊢
  simp [quoted, tokens?, isBlank, hcontent, hshape]

/-! ### Texts put together -/

theorem spells_nil : Spells [] [] := fun rest _ => by simp

/-- A punctuation mark keeps what is before it and what is after it apart. -/
theorem Spells.punctuate {c : Char} {t : Token} {cs ds : List Char} {ts us : List Token}
    (h : Spells cs ts) (hc : punctuation? c = some t) (h' : Spells ds us) :
    Spells (cs ++ c :: ds) (ts ++ t :: us) := by
  intro rest hrest
  rw [List.map_append, List.map_cons, List.append_assoc, List.cons_append,
    h _ (endsWords_punctuation hc _), tokens?_punctuation hc, h' rest hrest]
  simp [Function.comp_def]

/-! ### Trees -/

mutual

/-- The tokens of a tree's compact text. -/
def tokens : Json → List Token
  | .null => [.word "null".toList]
  | .bool b => [.word (if b then "true" else "false").toList]
  | .int n => [.word (toString n).toList]
  | .real x => [.word (realText x).toList]
  | .text s => [.text (rawText s)]
  | .array items => .openArray :: tokensOfItems items ++ [.closeArray]
  | .object fields => .openObject :: tokensOfFields fields ++ [.closeObject]

/-- The tokens of items separated by commas. -/
def tokensOfItems : List Json → List Token
  | [] => []
  | [v] => tokens v
  | v :: rest => tokens v ++ .comma :: tokensOfItems rest

/-- The tokens of fields separated by commas. -/
def tokensOfFields : List (String × Json) → List Token
  | [] => []
  | [(k, v)] => [.text (rawText k)] ++ .colon :: tokens v
  | (k, v) :: rest =>
    [.text (rawText k)] ++ .colon :: tokens v ++ .comma :: tokensOfFields rest

end

theorem tokensOfItems_cons_cons (v w : Json) (items : List Json) :
    tokensOfItems (v :: w :: items) = tokens v ++ .comma :: tokensOfItems (w :: items) := by
  simp [tokensOfItems]

theorem tokensOfFields_cons_cons (p q : String × Json) (fields : List (String × Json)) :
    tokensOfFields (p :: q :: fields)
      = .text (rawText p.1) :: .colon ::
        (tokens p.2 ++ .comma :: tokensOfFields (q :: fields)) := by
  simp [tokensOfFields]

/-- A magnitude is written with a point or with the mark of a power of ten. -/
theorem magnitude_ne_empty (style : NumberStyle) (rank : Nat) : style.magnitude rank ≠ "" := by
  rw [NumberStyle.magnitude]
  split
  · decide
  · simp only
    split
    · rw [NumberStyle.positional]
      split <;> simp
    · simp [NumberStyle.scientific]

theorem toString_int_ne_empty (n : Int) : toString n ≠ "" := by
  intro h
  have hchars := congrArg String.toList h
  rw [toList_toString_int] at hchars
  exact Nat.toDigits_ne_nil (List.append_eq_nil_iff.mp hchars).2

theorem spells_numeral {s : String} (hne : s ≠ "") (h : OfNumerals s) :
    Spells s.toList [.word s.toList] :=
  spells_word (by simpa using hne) fun c hc => inWords_of_isNumeral (h c hc)

theorem spells_charsOfItems {items : List Json}
    (h : ∀ v ∈ items, Spells v.chars v.tokens) :
    Spells (charsOfItems items) (tokensOfItems items) := by
  induction items with
  | nil => exact spells_nil
  | cons v items ih =>
    obtain ⟨hv, hitems⟩ := List.forall_mem_cons.mp h
    cases items with
    | nil => exact hv
    | cons w items => exact hv.punctuate rfl (ih hitems)

theorem spells_charsOfFields {fields : List (String × Json)}
    (h : ∀ p ∈ fields, Spells p.2.chars p.2.tokens) :
    Spells (charsOfFields fields) (tokensOfFields fields) := by
  induction fields with
  | nil => exact spells_nil
  | cons p fields ih =>
    obtain ⟨hv, hfields⟩ := List.forall_mem_cons.mp h
    have hp := (spells_quoted p.1).punctuate (c := ':') rfl hv
    cases fields with
    | nil => exact hp
    | cons q fields => exact hp.punctuate rfl (ih hfields)

/-- The compact text of a tree spells its tokens, whatever its strings and numbers are. -/
theorem spells_chars (v : Json) : Spells v.chars v.tokens := by
  have hword (s : String) (hne : s ≠ "") (h : s.toList.all inWords = true) :
      Spells s.toList [.word s.toList] :=
    spells_word (by simpa using hne) (List.all_eq_true.mp h)
  have hnull := hword "null" (by decide) (by decide)
  induction v with
  | null => exact hnull
  | bool b => cases b <;> exact hword _ (by decide) (by decide)
  | int n => exact spells_numeral (toString_int_ne_empty n) (ofNumerals_toString_int n)
  | real x =>
    cases x with
    | nan => exact hnull
    | infinity negative => exact hnull
    | finite negative rank =>
      have hsign : OfNumerals (if negative then "-" else "") := by cases negative <;> decide
      have hne : (if negative then "-" else "") ++ numberStyle.magnitude rank ≠ "" := by
        simp [magnitude_ne_empty]
      exact spells_numeral hne (hsign.append (numberStyle.ofNumerals_magnitude rank))
  | text s => exact spells_quoted s
  | array items ih =>
    exact spells_nil.punctuate rfl ((spells_charsOfItems ih).punctuate rfl spells_nil)
  | object fields ih =>
    exact spells_nil.punctuate rfl ((spells_charsOfFields ih).punctuate rfl spells_nil)

/-- The tokens of a tree are read from the bytes of its compact text. -/
theorem tokens?_units_encode_write (v : Json) :
    tokens? .between (Utf8.units (Utf8.encode v.write)) = some v.tokens := by
  have h := spells_chars v [] endsWords_nil
  rw [List.append_nil] at h
  rw [Utf8.units_encode_self, write, String.toList_ofList, h]
  simp [tokens?]

end TierSweep.Json
