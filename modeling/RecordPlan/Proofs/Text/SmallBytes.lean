import RecordPlan.Proofs.Text.LetterCase
import RecordPlan.Proofs.Text.Utf8

/-!
# Small letters among bytes

Each letter of ASCII is one byte in UTF-8, and bytes of other characters are
none of these. So letters can be made small before bytes are read as
characters or after it (`Utf8.decode_map_smallByte`): what is no UTF-8 is none
either way, and for the same reason at the same place.

While a character of several bytes is being read, no byte of ASCII can go on
with it, and what it comes to is beyond ASCII. That is what the induction over
the bytes carries (`Utf8.Partial.IsBeyond`).
-/

namespace RecordPlan.Text

/-- The byte of a letter in small form; any other byte is as it is. -/
def smallByte (b : UInt8) : UInt8 := if 0x41 ≤ b ∧ b ≤ 0x5A then b + 0x20 else b

namespace Utf8

variable {b : UInt8} {p : Partial}

theorem smallByte_of_beyond (h : 0x80 ≤ b) : smallByte b = b :=
  if_neg fun letter => by grind

/-- Bytes of ASCII become bytes of ASCII. -/
theorem smallByte_lt (h : b < 0x80) : smallByte b < 0x80 := by
  unfold smallByte
  split <;> grind

/-- The character of a byte in small form. -/
theorem ofNat_smallByte (h : b < 0x80) :
    Char.ofNat (smallByte b).toNat = (Char.ofNat b.toNat).toLower := by
  have bytes : ∀ n < 128,
      Char.ofNat (smallByte (UInt8.ofNat n)).toNat = (Char.ofNat n).toLower := by decide
  have small := bytes b.toNat h
  rwa [UInt8.ofNat_toNat] at small

/-- A piece in small letters. -/
def Piece.lowered : Piece → Piece
  | .char c => .char c.toLower
  | piece => piece

/-- **Whether a character that has been read in part is beyond ASCII**, and so
are the bytes that go on with it. -/
structure Partial.IsBeyond (p : Partial) : Prop where
  /-- The next byte is none of ASCII. -/
  low : 0x80 ≤ p.low
  /-- The least number that the character can have is none of ASCII. -/
  number : 0x80 ≤ (64 * p.bits + (p.low.toNat - 0x80)) * 64 ^ (p.owed - 1)

/-- A character of several bytes is beyond ASCII: the bounds on its second byte
keep out what has a shorter form. -/
theorem Partial.IsBeyond.of_start (h : start b = .inr p) : p.IsBeyond := by
  rcases Nat.lt_or_ge b.toNat 0x80 with one | beyond
  · rw [start_one one] at h
    cases h
  by_cases none : b.toNat < 0xC2 ∨ 0xF5 ≤ b.toNat
  · rw [start_none beyond none] at h
    cases h
  rcases Nat.lt_or_ge b.toNat 0xE0 with two | beyond
  · rw [start_two (by omega) two] at h
    obtain rfl := Sum.inr.inj h
    exact ⟨UInt8.le_refl _, by simp only [UInt8.reduceToNat]; omega⟩
  rcases Nat.lt_or_ge b.toNat 0xF0 with three | beyond
  · rw [start_three beyond three] at h
    obtain rfl := Sum.inr.inj h
    by_cases first : b = 0xE0
    · subst first
      exact ⟨by decide, by decide⟩
    · have above : b.toNat ≠ 0xE0 := fun eq => first (UInt8.toNat_inj.1 eq)
      simp only [if_neg first]
      exact ⟨UInt8.le_refl _, by simp only [UInt8.reduceToNat]; omega⟩
  · rw [start_four beyond (by omega)] at h
    obtain rfl := Sum.inr.inj h
    by_cases first : b = 0xF0
    · subst first
      exact ⟨by decide, by decide⟩
    · have above : b.toNat ≠ 0xF0 := fun eq => first (UInt8.toNat_inj.1 eq)
      simp only [if_neg first]
      exact ⟨UInt8.le_refl _, by simp only [UInt8.reduceToNat]; omega⟩

/-- A byte that may follow adds at least what the least one adds. -/
theorem Partial.IsBeyond.number_of_le (h : p.IsBeyond) (low : p.low ≤ b) :
    0x80 ≤ (64 * p.bits + (b.toNat - 0x80)) * 64 ^ (p.owed - 1) := by
  have below : p.low.toNat ≤ b.toNat := low
  exact Nat.le_trans h.number (Nat.mul_le_mul_right _ (by omega))

/-- With one more byte it still is. -/
theorem Partial.IsBeyond.step (h : p.IsBeyond) (low : p.low ≤ b) (more : 1 < p.owed) :
    Partial.IsBeyond ⟨64 * p.bits + (b.toNat - 0x80), p.taken + 1, p.owed - 1, 0x80, 0xBF⟩ := by
  have number := h.number_of_le low
  rw [show p.owed - 1 = p.owed - 1 - 1 + 1 by omega, Nat.pow_succ', ← Nat.mul_assoc,
    Nat.mul_comm _ 64] at number
  refine ⟨UInt8.le_refl _, ?_⟩
  simpa only [UInt8.reduceToNat, Nat.sub_self, Nat.add_zero] using number

/-- With its last byte a character is none that could become small. -/
theorem Partial.IsBeyond.toLower (h : p.IsBeyond) (low : p.low ≤ b) (last : p.owed ≤ 1) :
    (Char.ofNat (64 * p.bits + (b.toNat - 0x80))).toLower =
      Char.ofNat (64 * p.bits + (b.toNat - 0x80)) := by
  have number := h.number_of_le low
  rw [show p.owed - 1 = 0 by omega, Nat.pow_zero, Nat.mul_one] at number
  refine toLower_of_not_isUpper fun upper => ?_
  have range := isUpper_iff.1 upper
  by_cases valid : (64 * p.bits + (b.toNat - 0x80)).isValidChar
  · rw [toNat_ofNat_of_isValidChar valid] at range
    omega
  · rw [Char.ofNat, dif_neg valid] at range
    exact absurd range (by decide)

/-- What a byte in small form begins. -/
theorem start_smallByte (b : UInt8) : start (smallByte b) = (start b).map Piece.lowered id := by
  by_cases ascii : b < 0x80
  · rw [start, start, if_pos (smallByte_lt ascii), if_pos ascii, ofNat_smallByte ascii]
    rfl
  · rw [smallByte_of_beyond (UInt8.not_lt.1 ascii), start, if_neg ascii]
    split_ifs <;> rfl

/-- **Pieces of bytes in small form** are the pieces of the bytes in small form,
by induction on the bytes. -/
theorem piecesFrom_map_smallByte {p? : Option Partial} (h : ∀ p ∈ p?, p.IsBeyond)
    (bytes : List UInt8) :
    piecesFrom p? (bytes.map smallByte) = (piecesFrom p? bytes).map Piece.lowered := by
  induction bytes generalizing p? with
  | nil => cases p? <;> rfl
  | cons b rest ih =>
    have fresh : piecesFrom none ((b :: rest).map smallByte) =
        (piecesFrom none (b :: rest)).map Piece.lowered := by
      rw [List.map_cons, piecesFrom, piecesFrom, start_smallByte]
      cases begun : start b with
      | inl piece => exact congrArg (piece.lowered :: ·) (ih (by simp))
      | inr q =>
        refine ih fun p hp => ?_
        obtain rfl := Option.some.inj hp
        exact .of_start begun
    cases p? with
    | none => exact fresh
    | some p =>
      have beyond := h p rfl
      by_cases inside : p.low ≤ b ∧ b ≤ p.high
      · rw [List.map_cons, smallByte_of_beyond (UInt8.le_trans beyond.low inside.1), piecesFrom,
          piecesFrom, if_pos inside, if_pos inside]
        by_cases last : p.owed ≤ 1
        · simp only [if_pos last, List.map_cons, Piece.lowered]
          rw [beyond.toLower inside.1 last, ih (by simp)]
        · simp only [if_neg last]
          refine ih fun q hq => ?_
          obtain rfl := Option.some.inj hq
          exact beyond.step inside.1 (Nat.not_le.1 last)
      · -- a letter does not go on with the character in either form
        have outside : ¬ (p.low ≤ smallByte b ∧ smallByte b ≤ p.high) := by
          by_cases ascii : b < 0x80
          · have small := smallByte_lt ascii
            have low := beyond.low
            grind
          · rwa [smallByte_of_beyond (UInt8.not_lt.1 ascii)]
        rw [List.map_cons, piecesFrom, piecesFrom, if_neg outside, if_neg inside]
        rw [List.map_cons, piecesFrom, piecesFrom] at fresh
        rw [List.map_cons, fresh]
        rfl

theorem utf8Size_toLower (c : Char) : c.toLower.utf8Size = c.utf8Size :=
  toLower_of_letters (by decide) c

/-- The first defect is in the same place. -/
theorem collect_map_lowered (index : Nat) (ps : List Piece) :
    collect index (ps.map Piece.lowered) = (collect index ps).map (List.map Char.toLower) := by
  induction ps generalizing index with
  | nil => rfl
  | cons piece ps ih =>
    cases piece with
    | char c =>
      rw [List.map_cons, Piece.lowered, collect, collect, utf8Size_toLower, ih]
      cases collect (index + c.utf8Size) ps <;> rfl
    | illFormed length => rfl
    | cutShort => rfl

/-- **Bytes in small form are read as the text in small letters**, and are not
UTF-8 for the same reason. -/
theorem decode_map_smallByte (bytes : List UInt8) :
    decode (bytes.map smallByte) = (decode bytes).map (List.map Char.toLower) := by
  rw [decode, pieces, piecesFrom_map_smallByte (by simp), collect_map_lowered]
  rfl

end Utf8

end RecordPlan.Text
