import Mathlib.Tactic.SplitIfs
import RecordPlan.Proofs.Text.Utf8

/-!
# Texts in the order of their bytes

Texts can be ordered by their characters or by the bytes of their UTF-8 form,
and it comes to the same (`encode_lt_encode_iff`). The reason is that the first
byte of a character grows with the number of bytes that follow it, and that the
bits of the number are written from the highest on. So of two characters the
lesser one has the lesser bytes, whatever stands behind them
(`utf8EncodeChar_append_lt`).
-/

namespace RecordPlan.Text.Utf8

variable {c d : Char} {k v w : Nat} {x y : List UInt8} {s t : List Char}

/-! ## Characters -/

/-- How many bytes of a character follow the first one. -/
def tailLength (v : Nat) : Nat :=
  if v < 0x80 then 0 else if v < 0x800 then 1 else if v < 0x10000 then 2 else 3

/-- The first byte of a character, as a number. -/
def firstByte (v : Nat) : Nat :=
  if v < 0x80 then v
  else if v < 0x800 then v / 64 ^ 1 + 0xC0
  else if v < 0x10000 then v / 64 ^ 2 + 0xE0
  else v / 64 ^ 3 + 0xF0

theorem utf8EncodeChar_eq_cons (c : Char) : String.utf8EncodeChar c =
    UInt8.ofNat (firstByte c.toNat) :: tailBytes (tailLength c.toNat) c.toNat := by
  have bound : c.toNat < 0xD800 ∨ 0xDFFF < c.toNat ∧ c.toNat < 0x110000 := c.valid
  unfold firstByte tailLength
  split
  · next one => rw [utf8EncodeChar_one one, tailBytes]
  split
  · next two => rw [utf8EncodeChar_two (by omega) two]
  split
  · next three => rw [utf8EncodeChar_three (by omega) three]
  · next four => rw [utf8EncodeChar_four (by omega) (by omega)]

theorem firstByte_lt (h : v < 0x110000) : firstByte v < 256 := by
  unfold firstByte
  split_ifs <;> omega

/-- The lesser character has the lesser first byte, or the same one and the
lesser bits behind it. -/
theorem firstByte_lt_or (h : v < w) : firstByte v < firstByte w ∨
    firstByte v = firstByte w ∧ tailLength v = tailLength w ∧
      v % 64 ^ tailLength w < w % 64 ^ tailLength w := by
  unfold firstByte tailLength
  split_ifs <;> omega

/-- The lesser bits have the lesser bytes. -/
theorem tailBytes_append_lt (h : v % 64 ^ k < w % 64 ^ k) (x y : List UInt8) :
    tailBytes k v ++ x < tailBytes k w ++ y := by
  induction k with
  | zero => simp [Nat.mod_one] at h
  | succ k ih =>
    rw [Nat.mod_pow_succ, Nat.mod_pow_succ] at h
    rw [tailBytes, tailBytes, List.cons_append, List.cons_append, List.cons_lt_cons_iff,
      UInt8.lt_iff_toNat_lt, toNat_tailByte, toNat_tailByte]
    rcases Nat.lt_trichotomy (v / 64 ^ k % 64) (w / 64 ^ k % 64) with less | same | greater
    · exact .inl (Nat.add_lt_add_right less _)
    · rw [same] at h ⊢
      exact .inr ⟨rfl, ih (Nat.lt_of_add_lt_add_right h)⟩
    · -- no bits further behind make up for the lesser six
      have more := Nat.mul_le_mul_left (64 ^ k) greater
      have rest := Nat.mod_lt w (Nat.pow_pos (n := k) (show 0 < 64 by decide))
      rw [Nat.mul_succ] at more
      omega

/-- **The lesser character has the lesser bytes**, whatever stands behind
them. -/
theorem utf8EncodeChar_append_lt (h : c < d) (x y : List UInt8) :
    String.utf8EncodeChar c ++ x < String.utf8EncodeChar d ++ y := by
  have number {c : Char} : (UInt8.ofNat (firstByte c.toNat)).toNat = firstByte c.toNat := by
    refine UInt8.toNat_ofNat_of_lt' (firstByte_lt ?_)
    have bound : c.toNat < 0xD800 ∨ 0xDFFF < c.toNat ∧ c.toNat < 0x110000 := c.valid
    omega
  have less : c.toNat < d.toNat := UInt32.lt_iff_toNat_lt.1 h
  rw [utf8EncodeChar_eq_cons, utf8EncodeChar_eq_cons, List.cons_append, List.cons_append,
    List.cons_lt_cons_iff, UInt8.lt_iff_toNat_lt, number, number]
  refine (firstByte_lt_or less).imp_right fun ⟨first, length, bits⟩ => ?_
  rw [first, length]
  exact ⟨rfl, tailBytes_append_lt bits x y⟩

/-! ## Texts -/

theorem encode_cons (c : Char) (t : List Char) :
    encode (c :: t) = String.utf8EncodeChar c ++ encode t :=
  List.flatMap_cons

theorem encode_lt_encode (h : s < t) : encode s < encode t := by
  induction h with
  | nil =>
    rw [encode_cons, utf8EncodeChar_eq_cons]
    exact List.nil_lt_cons _ _
  | rel less =>
    rw [encode_cons, encode_cons]
    exact utf8EncodeChar_append_lt less _ _
  | cons _ ih =>
    rw [encode_cons, encode_cons]
    exact List.append_left_lt ih

/-- **Texts are in the order of their bytes.** -/
theorem encode_lt_encode_iff : encode s < encode t ↔ s < t := by
  refine ⟨fun h => Decidable.byContradiction fun not => ?_, encode_lt_encode⟩
  rcases List.le_iff_lt_or_eq.1 (List.not_lt.1 not) with less | rfl
  · exact List.lt_asymm h (encode_lt_encode less)
  · exact List.lt_irrefl _ h

end RecordPlan.Text.Utf8
