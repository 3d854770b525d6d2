import Mathlib.Algebra.Group.Nat.Defs
import RecordPlan.Text.Utf8

/-!
# UTF-8 read and written

A character of more than one byte is written as a first byte, which tells
how many follow, and as `tailBytes`, six bits in each. Reading such a
character is reading its tail with a number that grows by six bits from
byte to byte (`piecesFrom_some_eq_cons_iff`); the bounds that the first
byte puts on the second keep out numbers that have a shorter form or are
no characters. So what a character is written as is read as that character
(`piecesFrom_none_encode`), and nothing else is
(`eq_encode_of_piecesFrom_none`). The bytes that are read as a text are
those that the text is written as (`decode_eq_ok_iff`).
-/

namespace RecordPlan.Text.Utf8

/-- The last `k` bytes of a code point, with six bits in each. -/
def tailBytes : Nat → Nat → List UInt8
  | 0, _ => []
  | k + 1, v => UInt8.ofNat (v / 64 ^ k % 64 + 0x80) :: tailBytes k v

theorem toNat_tailByte (n : Nat) : (UInt8.ofNat (n % 64 + 0x80)).toNat = n % 64 + 0x80 := by
  rw [UInt8.toNat_ofNat_of_lt' (by show _ < 256; omega)]

/-- Bytes of a tail are within the bounds for bytes that continue a
character. -/
theorem tailByte_bounds (n : Nat) :
    0x80 ≤ UInt8.ofNat (n % 64 + 0x80) ∧ UInt8.ofNat (n % 64 + 0x80) ≤ 0xBF := by
  rw [UInt8.le_iff_toNat_le, UInt8.le_iff_toNat_le, toNat_tailByte]
  simp only [UInt8.reduceToNat]
  omega

theorem toNat_ofNat_of_isValidChar {v : Nat} (h : v.isValidChar) : (Char.ofNat v).toNat = v := by
  rw [Char.ofNat, dif_pos h]
  rfl

/-- A byte that continues a character adds its six bits to the number read
so far. -/
theorem div_eq_iff_of_tail {b : UInt8} (low : 0x80 ≤ b) (high : b ≤ 0xBF) {bits v k : Nat} :
    v / 64 ^ k = 64 * bits + (b.toNat - 0x80) ↔
      v / 64 ^ (k + 1) = bits ∧ UInt8.ofNat (v / 64 ^ k % 64 + 0x80) = b := by
  rw [UInt8.le_iff_toNat_le] at low high
  simp only [UInt8.reduceToNat] at low high
  rw [← UInt8.toNat_inj, toNat_tailByte, Nat.pow_succ, ← Nat.div_div_eq_div_mul]
  omega

/-- A character that has been read in part goes on with a byte that is
within bounds. -/
theorem piecesFrom_some_eq_cons {p : Partial} {bytes : List UInt8} {c : Char}
    {ps : List Piece} :
    piecesFrom (some p) bytes = .char c :: ps ↔
      ∃ b rest, bytes = b :: rest ∧ p.low ≤ b ∧ b ≤ p.high ∧
        if p.owed ≤ 1 then
          Char.ofNat (64 * p.bits + (b.toNat - 0x80)) = c ∧ piecesFrom none rest = ps
        else
          piecesFrom
            (some ⟨64 * p.bits + (b.toNat - 0x80), p.taken + 1, p.owed - 1, 0x80, 0xBF⟩) rest
            = .char c :: ps := by
  cases bytes with
  | nil => simp [piecesFrom]
  | cons b rest =>
    rw [piecesFrom]
    by_cases inside : p.low ≤ b ∧ b ≤ p.high
    · rw [if_pos inside]
      split <;> simp [and_assoc, *]
    · rw [if_neg inside]
      constructor
      · intro h
        cases h
      · rintro ⟨b', rest', eq, low, high, -⟩
        obtain ⟨rfl, rfl⟩ := List.cons.inj eq
        exact absurd ⟨low, high⟩ inside

/-- **The tail of a character** is read if and only if it is there, with a
first byte that is within bounds. -/
theorem piecesFrom_some_eq_cons_iff {bits taken k : Nat} {low high : UInt8}
    (hlow : 0x80 ≤ low) (hhigh : high ≤ 0xBF) {bytes : List UInt8} {c : Char}
    {ps : List Piece} :
    piecesFrom (some ⟨bits, taken, k + 1, low, high⟩) bytes = .char c :: ps ↔
      ∃ v rest, bytes = tailBytes (k + 1) v ++ rest ∧ v / 64 ^ (k + 1) = bits ∧
        low ≤ UInt8.ofNat (v / 64 ^ k % 64 + 0x80) ∧
        UInt8.ofNat (v / 64 ^ k % 64 + 0x80) ≤ high ∧
        Char.ofNat v = c ∧ piecesFrom none rest = ps := by
  induction k generalizing bits taken low high bytes with
  | zero =>
    rw [piecesFrom_some_eq_cons]
    simp only [Nat.le_refl, if_true, Nat.zero_add]
    constructor
    · rintro ⟨b, rest, rfl, low_le, le_high, rfl, rfl⟩
      obtain ⟨eq, byte⟩ := (div_eq_iff_of_tail (UInt8.le_trans hlow low_le)
        (UInt8.le_trans le_high hhigh) (v := 64 * bits + (b.toNat - 0x80)) (k := 0)).1
        (by rw [Nat.pow_zero, Nat.div_one])
      refine ⟨64 * bits + (b.toNat - 0x80), rest, ?_, eq, ?_, ?_, rfl, rfl⟩
      · rw [tailBytes, byte]; rfl
      · rw [byte]; exact low_le
      · rw [byte]; exact le_high
    · rintro ⟨v, rest, rfl, rfl, low_le, le_high, rfl, rfl⟩
      have eq := (div_eq_iff_of_tail (UInt8.le_trans hlow low_le)
        (UInt8.le_trans le_high hhigh) (k := 0)).2 ⟨rfl, rfl⟩
      refine ⟨_, rest, rfl, low_le, le_high, ?_, rfl⟩
      rw [← eq, Nat.pow_zero, Nat.div_one]
  | succ k ih =>
    rw [piecesFrom_some_eq_cons]
    simp only [show ¬ k + 1 + 1 ≤ 1 by omega, if_false]
    constructor
    · rintro ⟨b, rest, rfl, low_le, le_high, h⟩
      -- only the first byte of a tail may have bounds of its own, so the ones
      -- that are known of the next byte say nothing new
      obtain ⟨v, rest, rfl, hv, -, -, rfl, rfl⟩ := (ih (by decide) (by decide)).1 h
      obtain ⟨eq, byte⟩ := (div_eq_iff_of_tail (UInt8.le_trans hlow low_le)
        (UInt8.le_trans le_high hhigh)).1 hv
      refine ⟨v, rest, ?_, eq, ?_, ?_, rfl, rfl⟩
      · exact congrArg (· :: _) byte.symm
      · rw [byte]; exact low_le
      · rw [byte]; exact le_high
    · rintro ⟨v, rest, rfl, rfl, low_le, le_high, rfl, rfl⟩
      have eq := (div_eq_iff_of_tail (UInt8.le_trans hlow low_le)
        (UInt8.le_trans le_high hhigh)).2 ⟨rfl, rfl⟩
      refine ⟨_, tailBytes (k + 1) v ++ rest, rfl, low_le, le_high, ?_⟩
      obtain ⟨low_le', le_high'⟩ := tailByte_bounds (v / 64 ^ k)
      exact (ih (by decide) (by decide)).2 ⟨v, rest, rfl, eq, low_le', le_high', rfl, rfl⟩

/-! ## First bytes -/

section Start

variable {b : UInt8}

theorem start_one (h : b.toNat < 0x80) : start b = .inl (.char (Char.ofNat b.toNat)) := by
  unfold start
  rw [if_pos (UInt8.lt_iff_toNat_lt.2 h)]

theorem start_two (h : 0xC2 ≤ b.toNat) (h' : b.toNat < 0xE0) :
    start b = .inr ⟨b.toNat - 0xC0, 1, 1, 0x80, 0xBF⟩ := by
  unfold start
  simp only [UInt8.lt_iff_toNat_lt, UInt8.reduceToNat]
  rw [if_neg (by omega), if_neg (by omega), if_pos h']

theorem start_three (h : 0xE0 ≤ b.toNat) (h' : b.toNat < 0xF0) :
    start b = .inr ⟨b.toNat - 0xE0, 1, 2, if b = 0xE0 then 0xA0 else 0x80,
      if b = 0xED then 0x9F else 0xBF⟩ := by
  unfold start
  simp only [UInt8.lt_iff_toNat_lt, UInt8.reduceToNat]
  rw [if_neg (by omega), if_neg (by omega), if_neg (by omega), if_pos h']

theorem start_four (h : 0xF0 ≤ b.toNat) (h' : b.toNat < 0xF5) :
    start b = .inr ⟨b.toNat - 0xF0, 1, 3, if b = 0xF0 then 0x90 else 0x80,
      if b = 0xF4 then 0x8F else 0xBF⟩ := by
  unfold start
  simp only [UInt8.lt_iff_toNat_lt, UInt8.reduceToNat]
  rw [if_neg (by omega), if_neg (by omega), if_neg (by omega), if_neg (by omega), if_pos h']

/-- The remaining bytes begin no character. -/
theorem start_none (h : 0x80 ≤ b.toNat) (h' : b.toNat < 0xC2 ∨ 0xF5 ≤ b.toNat) :
    start b = .inl (.illFormed 1) := by
  unfold start
  simp only [UInt8.lt_iff_toNat_lt, UInt8.reduceToNat]
  rw [if_neg (by omega)]
  rcases h' with h' | h'
  · rw [if_pos h']
  · rw [if_neg (by omega), if_neg (by omega), if_neg (by omega), if_neg (by omega)]

/-- The lower bound on the second byte, in numbers. -/
theorem ite_le_tailByte {k low low' : UInt8} {n : Nat} :
    (if b = k then low else low') ≤ UInt8.ofNat (n % 64 + 0x80) ↔
      (if b.toNat = k.toNat then low.toNat else low'.toNat) ≤ n % 64 + 0x80 := by
  rw [UInt8.le_iff_toNat_le, toNat_tailByte]
  simp only [← UInt8.toNat_inj, apply_ite UInt8.toNat]

/-- The upper bound on the second byte, in numbers. -/
theorem tailByte_le_ite {k high high' : UInt8} {n : Nat} :
    UInt8.ofNat (n % 64 + 0x80) ≤ (if b = k then high else high') ↔
      n % 64 + 0x80 ≤ if b.toNat = k.toNat then high.toNat else high'.toNat := by
  rw [UInt8.le_iff_toNat_le, toNat_tailByte]
  simp only [← UInt8.toNat_inj, apply_ite UInt8.toNat]

end Start

section Encode

variable {c : Char}

theorem utf8EncodeChar_one (h : c.toNat < 0x80) :
    String.utf8EncodeChar c = [UInt8.ofNat c.toNat] := by
  unfold String.utf8EncodeChar
  exact if_pos (Nat.le_of_lt_succ h)

theorem utf8EncodeChar_two (h : 0x80 ≤ c.toNat) (h' : c.toNat < 0x800) :
    String.utf8EncodeChar c = UInt8.ofNat (c.toNat / 64 ^ 1 + 0xC0) :: tailBytes 1 c.toNat := by
  simp only [String.utf8EncodeChar, Char.toNat_val]
  rw [if_neg (by omega), if_pos (by omega), Nat.mod_eq_of_lt (by show c.toNat / 64 < 32; omega)]
  simp [tailBytes]

theorem utf8EncodeChar_three (h : 0x800 ≤ c.toNat) (h' : c.toNat < 0x10000) :
    String.utf8EncodeChar c = UInt8.ofNat (c.toNat / 64 ^ 2 + 0xE0) :: tailBytes 2 c.toNat := by
  simp only [String.utf8EncodeChar, Char.toNat_val]
  rw [if_neg (by omega), if_neg (by omega), if_pos (by omega),
    Nat.mod_eq_of_lt (by show c.toNat / 4096 < 16; omega)]
  simp [tailBytes]

theorem utf8EncodeChar_four (h : 0x10000 ≤ c.toNat) (h' : c.toNat < 0x110000) :
    String.utf8EncodeChar c = UInt8.ofNat (c.toNat / 64 ^ 3 + 0xF0) :: tailBytes 3 c.toNat := by
  simp only [String.utf8EncodeChar, Char.toNat_val]
  rw [if_neg (by omega), if_neg (by omega), if_neg (by omega),
    Nat.mod_eq_of_lt (by show c.toNat / 262144 < 8; omega)]
  simp [tailBytes]

end Encode

/-! ## Whole characters -/

section Character

variable {c : Char} {bytes rest : List UInt8} {ps : List Piece}

/-- **What a character is written as** is read as that character. -/
theorem piecesFrom_none_encode (c : Char) (rest : List UInt8) :
    piecesFrom none (String.utf8EncodeChar c ++ rest) = .char c :: piecesFrom none rest := by
  have bound : c.toNat < 0xD800 ∨ 0xDFFF < c.toNat ∧ c.toNat < 0x110000 := c.valid
  have lead : ∀ n, n < 256 → (UInt8.ofNat n).toNat = n := fun n h =>
    UInt8.toNat_ofNat_of_lt' h
  by_cases one : c.toNat < 0x80
  · rw [utf8EncodeChar_one one, List.singleton_append, piecesFrom,
      start_one (by rw [lead _ (by omega)]; exact one), lead _ (by omega), Char.ofNat_toNat]
  by_cases two : c.toNat < 0x800
  · have byte := lead (c.toNat / 64 ^ 1 + 0xC0) (by omega)
    rw [utf8EncodeChar_two (by omega) two, List.cons_append, piecesFrom,
      start_two (by omega) (by omega)]
    obtain ⟨low_le, le_high⟩ := tailByte_bounds (c.toNat / 64 ^ 0)
    exact (piecesFrom_some_eq_cons_iff (by decide) (by decide)).2
      ⟨c.toNat, rest, rfl, by omega, low_le, le_high, c.ofNat_toNat, rfl⟩
  by_cases three : c.toNat < 0x10000
  · have byte := lead (c.toNat / 64 ^ 2 + 0xE0) (by omega)
    rw [utf8EncodeChar_three (by omega) three, List.cons_append, piecesFrom,
      start_three (by omega) (by omega)]
    refine (piecesFrom_some_eq_cons_iff (by split <;> decide) (by split <;> decide)).2
      ⟨c.toNat, rest, rfl, by omega, ?_, ?_, c.ofNat_toNat, rfl⟩
    · rw [ite_le_tailByte, byte]
      simp only [UInt8.reduceToNat]
      split <;> omega
    · rw [tailByte_le_ite, byte]
      simp only [UInt8.reduceToNat]
      split <;> omega
  · have byte := lead (c.toNat / 64 ^ 3 + 0xF0) (by omega)
    rw [utf8EncodeChar_four (by omega) (by omega), List.cons_append, piecesFrom,
      start_four (by omega) (by omega)]
    refine (piecesFrom_some_eq_cons_iff (by split <;> decide) (by split <;> decide)).2
      ⟨c.toNat, rest, rfl, by omega, ?_, ?_, c.ofNat_toNat, rfl⟩
    · rw [ite_le_tailByte, byte]
      simp only [UInt8.reduceToNat]
      split <;> omega
    · rw [tailByte_le_ite, byte]
      simp only [UInt8.reduceToNat]
      split <;> omega

/-- What a character is written as, told by its first byte. -/
theorem lead_cons_tailBytes {b : UInt8} {lead v k : Nat} (hv : v / 64 ^ k = b.toNat - lead)
    (le : lead ≤ b.toNat) : UInt8.ofNat (v / 64 ^ k + lead) :: tailBytes k v = b :: tailBytes k v := by
  rw [hv, Nat.sub_add_cancel le, UInt8.ofNat_toNat]

theorem utf8EncodeChar_ofNat_two {b : UInt8} {v : Nat} (h : 0xC2 ≤ b.toNat) (h' : b.toNat < 0xE0)
    (hv : v / 64 ^ 1 = b.toNat - 0xC0) :
    String.utf8EncodeChar (Char.ofNat v) = b :: tailBytes 1 v := by
  have value := toNat_ofNat_of_isValidChar (v := v) (.inl (by omega))
  rw [utf8EncodeChar_two (by omega) (by omega), value]
  exact lead_cons_tailBytes hv (by omega)

/-- The bounds for E0 keep out what fits in two bytes, those for ED what is
no character. -/
theorem utf8EncodeChar_ofNat_three {b : UInt8} {v : Nat} (h : 0xE0 ≤ b.toNat) (h' : b.toNat < 0xF0)
    (hv : v / 64 ^ 2 = b.toNat - 0xE0)
    (low : (if b = 0xE0 then 0xA0 else 0x80) ≤ UInt8.ofNat (v / 64 ^ 1 % 64 + 0x80))
    (high : UInt8.ofNat (v / 64 ^ 1 % 64 + 0x80) ≤ if b = 0xED then 0x9F else 0xBF) :
    String.utf8EncodeChar (Char.ofNat v) = b :: tailBytes 2 v := by
  rw [ite_le_tailByte] at low
  rw [tailByte_le_ite] at high
  simp only [UInt8.reduceToNat] at low high
  have bounds : 0x800 ≤ v ∧ (v < 0xD800 ∨ 0xDFFF < v ∧ v < 0x10000) := by
    split at low <;> split at high <;> omega
  have value := toNat_ofNat_of_isValidChar (v := v) (bounds.2.imp id fun h => by omega)
  rw [utf8EncodeChar_three (by omega) (by omega), value]
  exact lead_cons_tailBytes hv (by omega)

/-- The bounds for F0 keep out what fits in three bytes, those for F4 what
is beyond the last character. -/
theorem utf8EncodeChar_ofNat_four {b : UInt8} {v : Nat} (h : 0xF0 ≤ b.toNat) (h' : b.toNat < 0xF5)
    (hv : v / 64 ^ 3 = b.toNat - 0xF0)
    (low : (if b = 0xF0 then 0x90 else 0x80) ≤ UInt8.ofNat (v / 64 ^ 2 % 64 + 0x80))
    (high : UInt8.ofNat (v / 64 ^ 2 % 64 + 0x80) ≤ if b = 0xF4 then 0x8F else 0xBF) :
    String.utf8EncodeChar (Char.ofNat v) = b :: tailBytes 3 v := by
  rw [ite_le_tailByte] at low
  rw [tailByte_le_ite] at high
  simp only [UInt8.reduceToNat] at low high
  have bounds : 0x10000 ≤ v ∧ v < 0x110000 := by
    split at low <;> split at high <;> omega
  have value := toNat_ofNat_of_isValidChar (v := v) (.inr (by omega))
  rw [utf8EncodeChar_four (by omega) (by omega), value]
  exact lead_cons_tailBytes hv (by omega)

/-- **What is read as a character** is what it is written as. -/
theorem eq_encode_of_piecesFrom_none (h : piecesFrom none bytes = .char c :: ps) :
    ∃ rest, bytes = String.utf8EncodeChar c ++ rest ∧ piecesFrom none rest = ps := by
  cases bytes with
  | nil => cases h
  | cons b bytes =>
    have lt := b.toNat_lt
    rw [piecesFrom] at h
    by_cases one : b.toNat < 0x80
    · rw [start_one one] at h
      obtain ⟨eq, rfl⟩ := List.cons.inj h
      obtain rfl := Piece.char.inj eq
      have value := toNat_ofNat_of_isValidChar (v := b.toNat) (.inl (by omega))
      refine ⟨bytes, ?_, rfl⟩
      rw [utf8EncodeChar_one (by omega), value, UInt8.ofNat_toNat]
      rfl
    by_cases none : b.toNat < 0xC2 ∨ 0xF5 ≤ b.toNat
    · rw [start_none (by omega) none] at h
      cases h
    by_cases two : b.toNat < 0xE0
    · rw [start_two (by omega) two] at h
      obtain ⟨v, rest, rfl, hv, -, -, rfl, rfl⟩ :=
        (piecesFrom_some_eq_cons_iff (by decide) (by decide)).1 h
      refine ⟨rest, ?_, rfl⟩
      rw [utf8EncodeChar_ofNat_two (by omega) two hv, List.cons_append]
    by_cases three : b.toNat < 0xF0
    · rw [start_three (by omega) three] at h
      obtain ⟨v, rest, rfl, hv, low, high, rfl, rfl⟩ :=
        (piecesFrom_some_eq_cons_iff (by split <;> decide) (by split <;> decide)).1 h
      refine ⟨rest, ?_, rfl⟩
      rw [utf8EncodeChar_ofNat_three (by omega) three hv low high, List.cons_append]
    · rw [start_four (by omega) (by omega)] at h
      obtain ⟨v, rest, rfl, hv, low, high, rfl, rfl⟩ :=
        (piecesFrom_some_eq_cons_iff (by split <;> decide) (by split <;> decide)).1 h
      refine ⟨rest, ?_, rfl⟩
      rw [utf8EncodeChar_ofNat_four (by omega) (by omega) hv low high, List.cons_append]

end Character

/-! ## Texts -/

/-- A text is what pieces come to that are its characters. -/
theorem collect_eq_ok_iff {i : Nat} {ps : List Piece} {text : List Char} :
    collect i ps = .ok text ↔ ps = text.map .char := by
  induction ps generalizing i text with
  | nil => cases text <;> simp [collect]
  | cons p ps ih =>
    cases p with
    | char c =>
      cases text with
      | nil => cases h : collect (i + c.utf8Size) ps <;> simp [collect, Except.map, h]
      | cons d text =>
        rw [collect, List.map_cons, List.cons.injEq, Piece.char.injEq,
          ← ih (i := i + c.utf8Size)]
        cases collect (i + c.utf8Size) ps <;> simp [Except.map]
    | illFormed length => cases text <;> simp [collect]
    | cutShort => cases text <;> simp [collect]

/-- What has been read in part comes to a piece in any case. -/
theorem piecesFrom_some_ne_nil {p : Partial} {bytes : List UInt8} :
    piecesFrom (some p) bytes ≠ [] := by
  induction bytes generalizing p with
  | nil => simp [piecesFrom]
  | cons b bytes ih =>
    rw [piecesFrom]
    split
    · dsimp only
      split
      · simp
      · exact ih
    · simp

theorem piecesFrom_none_eq_nil {bytes : List UInt8} (h : piecesFrom none bytes = []) :
    bytes = [] := by
  cases bytes with
  | nil => rfl
  | cons b bytes =>
    rw [piecesFrom] at h
    cases hb : start b with
    | inl piece => simp [hb] at h
    | inr p => exact absurd (by simpa [hb] using h) piecesFrom_some_ne_nil

theorem pieces_eq_map_char_iff {bytes : List UInt8} {text : List Char} :
    pieces bytes = text.map .char ↔ bytes = encode text := by
  unfold pieces
  induction text generalizing bytes with
  | nil =>
    refine ⟨piecesFrom_none_eq_nil, ?_⟩
    rintro rfl
    rfl
  | cons c text ih =>
    rw [encode, List.flatMap_cons, ← encode]
    constructor
    · intro h
      obtain ⟨rest, rfl, later⟩ := eq_encode_of_piecesFrom_none h
      rw [ih.1 later]
    · rintro rfl
      rw [piecesFrom_none_encode, ih.2 rfl]
      rfl

/-- **The bytes that are read as a text** are those that the text is
written as. -/
theorem decode_eq_ok_iff {bytes : List UInt8} {text : List Char} :
    decode bytes = .ok text ↔ bytes = encode text := by
  rw [decode, collect_eq_ok_iff, pieces_eq_map_char_iff]

/-- What a text is written as is shown as that text. -/
theorem decodeLossy_encode (text : List Char) : decodeLossy (encode text) = text := by
  rw [decodeLossy, pieces_eq_map_char_iff.2 rfl, List.map_map]
  exact List.map_id text

/-- **The bytes that are as they are shown** are those that some text is written
as. -/
theorem encode_decodeLossy_eq_iff {bytes : List UInt8} :
    encode (decodeLossy bytes) = bytes ↔ ∃ text, bytes = encode text := by
  constructor
  · intro h
    exact ⟨_, h.symm⟩
  · rintro ⟨text, rfl⟩
    rw [decodeLossy_encode]

/-! ## Texts put together -/

theorem encode_append (s t : List Char) : encode (s ++ t) = encode s ++ encode t :=
  List.flatMap_append

theorem le_of_mem_tailBytes {b : UInt8} {k v : Nat} (h : b ∈ tailBytes k v) : 0x80 ≤ b := by
  induction k with
  | zero => cases h
  | succ k ih =>
    rcases List.mem_cons.1 h with rfl | later
    · exact (tailByte_bounds _).1
    · exact ih later

/-- The bytes of a character beyond ASCII are none of ASCII. -/
theorem le_of_mem_utf8EncodeChar {c : Char} (beyond : 0x80 ≤ c.toNat) {b : UInt8}
    (h : b ∈ String.utf8EncodeChar c) : 0x80 ≤ b := by
  have bound : c.toNat < 0xD800 ∨ 0xDFFF < c.toNat ∧ c.toNat < 0x110000 := c.valid
  have first {n lead : Nat} (low : 0x80 ≤ lead) (high : n + lead < 256) :
      0x80 ≤ UInt8.ofNat (n + lead) := by
    rw [UInt8.le_iff_toNat_le, UInt8.toNat_ofNat_of_lt' high]
    show 0x80 ≤ n + lead
    omega
  by_cases two : c.toNat < 0x800
  · rw [utf8EncodeChar_two beyond two] at h
    rcases List.mem_cons.1 h with rfl | later
    · exact first (by decide) (by omega)
    · exact le_of_mem_tailBytes later
  by_cases three : c.toNat < 0x10000
  · rw [utf8EncodeChar_three (by omega) three] at h
    rcases List.mem_cons.1 h with rfl | later
    · exact first (by decide) (by omega)
    · exact le_of_mem_tailBytes later
  · rw [utf8EncodeChar_four (by omega) (by omega)] at h
    rcases List.mem_cons.1 h with rfl | later
    · exact first (by decide) (by omega)
    · exact le_of_mem_tailBytes later

/-- A byte of ASCII is a byte of no character but its own. -/
theorem eq_of_mem_utf8EncodeChar {c d : Char} (ascii : c.toNat < 0x80)
    (h : UInt8.ofNat c.toNat ∈ String.utf8EncodeChar d) : d = c := by
  have byte {n : Nat} (small : n < 0x80) : (UInt8.ofNat n).toNat = n :=
    UInt8.toNat_ofNat_of_lt' (by show n < 256; omega)
  have asciiToo : d.toNat < 0x80 := by
    refine Nat.lt_of_not_le fun beyond => ?_
    have le := UInt8.le_iff_toNat_le.1 (le_of_mem_utf8EncodeChar beyond h)
    rw [byte ascii] at le
    exact absurd ascii (Nat.not_lt.2 le)
  rw [utf8EncodeChar_one asciiToo, List.mem_singleton] at h
  have number := congrArg UInt8.toNat h
  rw [byte ascii, byte asciiToo] at number
  exact (Char.toNat_inj.1 number).symm

/-- **A byte of ASCII in a text** is a character of the text, and what stands
before and behind it are texts. The induction is on the characters of the
text, of which only that one has the byte. -/
theorem encode_eq_append_cons_iff {c : Char} (ascii : c.toNat < 0x80) {text : List Char}
    {bytes rest : List UInt8} :
    encode text = bytes ++ UInt8.ofNat c.toNat :: rest ↔
      ∃ s t, text = s ++ c :: t ∧ encode s = bytes ∧ encode t = rest := by
  constructor
  · induction text generalizing bytes with
    | nil => simp [encode]
    | cons d text ih =>
      intro h
      rw [encode, List.flatMap_cons, ← encode] at h
      have behind (bytes' : List UInt8) (here : bytes = String.utf8EncodeChar d ++ bytes')
          (later : encode text = bytes' ++ UInt8.ofNat c.toNat :: rest) :
          ∃ s t, d :: text = s ++ c :: t ∧ encode s = bytes ∧ encode t = rest := by
        obtain ⟨s, t, rfl, rfl, rfl⟩ := ih later
        exact ⟨d :: s, t, rfl, here.symm, rfl⟩
      rcases List.append_eq_append_iff.1 h with ⟨bytes', here, later⟩ | ⟨more, here, later⟩
      · exact behind bytes' here later
      cases more with
      | nil => exact behind [] (by simpa using here.symm) later.symm
      | cons b more =>
        obtain ⟨rfl, rfl⟩ := List.cons.inj later
        obtain rfl : d = c := eq_of_mem_utf8EncodeChar ascii (by simp [here])
        rw [utf8EncodeChar_one ascii] at here
        obtain ⟨rfl, same⟩ | ⟨-, none⟩ := List.singleton_eq_append_iff.1 here
        · obtain rfl := List.cons.inj same |>.2
          exact ⟨[], text, rfl, rfl, rfl⟩
        · cases none
  · rintro ⟨s, t, rfl, rfl, rfl⟩
    rw [encode_append, encode, encode, encode, List.flatMap_cons, utf8EncodeChar_one ascii]
    rfl

end RecordPlan.Text.Utf8
