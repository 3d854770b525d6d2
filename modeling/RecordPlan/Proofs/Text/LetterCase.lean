import Mathlib.Algebra.Group.Nat.Defs
import Mathlib.Data.List.Induction
import RecordPlan.Proofs.Text.Part
import RecordPlan.Text.LetterCase

/-!
# Readers that ignore case

A reader **ignores case** if it makes the same of a text and of the text in
small letters (`IgnoresCase`), and so the same of texts that differ in the case
of ASCII letters only (`IgnoresCase.eq_of_sameButCase`).

Readers that take a text apart at its separators ignore case if the readers of
the parts do, because letters become letters: characters of any other kind are
found in the same places (`toLower_eq_iff`, `splitOn_map_toLower`).

The case of digits is all that is lost when their number is read, if it is known
how many of them there were (`map_toLower_eq_of_hexNumber`).
-/

namespace RecordPlan.Text

variable {α : Type} {c x : Char} {f : List Char → α} {a b t : List Char}

/-! ## Characters -/

theorem toLower_of_not_isUpper (h : ¬ c.isUpper = true) : c.toLower = c := by
  rw [isUpper_iff] at h
  exact dif_neg h

/-- A capital letter is one of 26. -/
theorem exists_of_isUpper (h : c.isUpper = true) : ∃ k < 26, c = Char.ofNat (65 + k) := by
  obtain ⟨low, high⟩ := isUpper_iff.1 h
  refine ⟨c.toNat - 65, by omega, ?_⟩
  rw [Nat.add_sub_cancel' low, Char.ofNat_toNat]

/-- What a capital letter becomes, by number. -/
theorem toNat_toLower (h : c.isUpper = true) : c.toLower.toNat = c.toNat + 32 := by
  have letters : ∀ k < 26,
      (Char.ofNat (65 + k)).toLower.toNat = (Char.ofNat (65 + k)).toNat + 32 := by decide
  obtain ⟨k, hk, rfl⟩ := exists_of_isUpper h
  exact letters k hk

theorem not_isUpper_toLower (c : Char) : ¬ c.toLower.isUpper = true := by
  by_cases upper : c.isUpper = true
  · have range := isUpper_iff.1 upper
    rw [isUpper_iff, toNat_toLower upper]
    omega
  · rwa [toLower_of_not_isUpper upper]

theorem toLower_toLower (c : Char) : c.toLower.toLower = c.toLower :=
  toLower_of_not_isUpper (not_isUpper_toLower c)

/-- **What is the same for the letters of ASCII** in either case is the same for
all characters. -/
theorem toLower_of_letters {f : Char → α}
    (letters : ∀ k < 26, f (Char.ofNat (65 + k)).toLower = f (Char.ofNat (65 + k))) (c : Char) :
    f c.toLower = f c := by
  by_cases upper : c.isUpper = true
  · obtain ⟨k, hk, rfl⟩ := exists_of_isUpper upper
    exact letters k hk
  · rw [toLower_of_not_isUpper upper]

/-- Only letters become letters, and they become nothing else. -/
theorem toLower_eq_iff (h : x.isAlpha = false) : c.toLower = x ↔ c = x := by
  have letters : ∀ k < 26, (Char.ofNat (65 + k)).isAlpha = true ∧
      (Char.ofNat (65 + k)).toLower.isAlpha = true := by decide
  by_cases upper : c.isUpper = true
  · obtain ⟨k, hk, rfl⟩ := exists_of_isUpper upper
    obtain ⟨capital, small⟩ := letters k hk
    refine iff_of_false (fun eq => ?_) (fun eq => ?_)
    · rw [eq, h] at small
      cases small
    · rw [eq, h] at capital
      cases capital
  · rw [toLower_of_not_isUpper upper]

theorem toLower_beq (h : x.isAlpha = false) (c : Char) : (c.toLower == x) = (c == x) := by
  rw [Bool.eq_iff_iff, beq_iff_eq, beq_iff_eq, toLower_eq_iff h]

theorem hexValue?_toLower (c : Char) : hexValue? c.toLower = hexValue? c :=
  toLower_of_letters (by decide) c

theorem isBlank_toLower (c : Char) : isBlank c.toLower = isBlank c :=
  toLower_of_letters (by decide) c

theorem isHexDigit_toLower (c : Char) : isHexDigit c.toLower = isHexDigit c := by
  rw [isHexDigit, hexValue?_toLower, isHexDigit]

/-! ## Texts -/

/-- What is no letter is found where it was. -/
theorem map_toLower_eq_cons_iff (h : x.isAlpha = false) :
    t.map Char.toLower = x :: a ↔ ∃ b, t = x :: b ∧ b.map Char.toLower = a := by
  rw [List.map_eq_cons_iff]
  constructor
  · rintro ⟨c, b, rfl, first, rest⟩
    exact ⟨b, by rw [(toLower_eq_iff h).1 first], rest⟩
  · rintro ⟨b, rfl, rest⟩
    exact ⟨x, b, rfl, (toLower_eq_iff h).2 rfl, rest⟩

theorem map_toLower_ne_cons (h : x.isAlpha = false) (ne : ∀ b, t ≠ x :: b) (a : List Char) :
    t.map Char.toLower ≠ x :: a := by
  intro eq
  obtain ⟨b, found, -⟩ := (map_toLower_eq_cons_iff h).1 eq
  exact ne b found

/-- The parts of a text in small letters. -/
theorem splitOn_map_toLower (h : x.isAlpha = false) (t : List Char) :
    (t.map Char.toLower).splitOn x = (t.splitOn x).map (List.map Char.toLower) := by
  induction t with
  | nil => rw [List.map_nil, List.splitOn_nil]; rfl
  | cons c t ih =>
    simp only [List.splitOn] at ih
    rw [List.splitOn, List.splitOn, List.map_cons, List.splitOnP_cons_eq_if_modifyHead,
      List.splitOnP_cons_eq_if_modifyHead, toLower_beq h, ih]
    split
    · rfl
    · cases List.splitOnP (fun c => c == x) t <;> rfl

/-- **Whether a reader makes the same of every text and of the text in small
letters.** -/
def IgnoresCase (f : List Char → α) : Prop := ∀ t, f (t.map Char.toLower) = f t

/-- **What ignores case** makes the same of texts that differ in nothing
else. -/
theorem IgnoresCase.eq_of_sameButCase (h : IgnoresCase f) (same : sameButCase a b = true) :
    f a = f b := by
  rw [← h a, ← h b, eq_of_beq same]

theorem ignoresCase_hexNumber : IgnoresCase hexNumber := by
  intro t
  simp only [hexNumber, List.foldl_map, hexValue?_toLower]

theorem ignoresCase_all_isHexDigit : IgnoresCase (·.all isHexDigit) := by
  intro t
  show (t.map Char.toLower).all isHexDigit = t.all isHexDigit
  rw [List.all_map]
  exact congrArg t.all (funext isHexDigit_toLower)

/-! ## Digits of a number -/

/-- A digit in small letters is what its value is written as. -/
theorem exists_toLower_eq_digitChar (h : isHexDigit c = true) :
    ∃ d < 16, hexValue? c = some d ∧ c.toLower = Nat.digitChar d := by
  have digits : ∀ k < 123, isHexDigit (Char.ofNat k) = true →
      ∃ d < 16, hexValue? (Char.ofNat k) = some d ∧ (Char.ofNat k).toLower = Nat.digitChar d := by
    decide
  have small := isAlphanum_iff.1 (isAlphanum_of_isHexDigit h)
  have spelled := digits c.toNat (by omega)
  rw [Char.ofNat_toNat] at spelled
  exact spelled h

/-- So many digits make up so large a number. -/
theorem hexNumber_lt (h : ∀ c ∈ t, isHexDigit c = true) : hexNumber t < 16 ^ t.length := by
  induction t using List.reverseRecOn with
  | nil => exact Nat.one_pos
  | append_singleton t c ih =>
    obtain ⟨d, small, value, -⟩ := exists_toLower_eq_digitChar (h c (by simp))
    have front := ih fun c hc => h c (List.mem_append_left _ hc)
    rw [hexNumber_concat t value, List.length_append, List.length_singleton, Nat.pow_succ]
    omega

/-- **Digits of one number** differ in nothing but their case, if there are
equally many of them. -/
theorem map_toLower_eq_of_hexNumber (ha : ∀ c ∈ a, isHexDigit c = true)
    (hb : ∀ c ∈ b, isHexDigit c = true) (length : a.length = b.length)
    (number : hexNumber a = hexNumber b) : a.map Char.toLower = b.map Char.toLower := by
  induction a using List.reverseRecOn generalizing b with
  | nil => rw [List.length_eq_zero_iff.1 length.symm]
  | append_singleton a c ih =>
    rcases List.eq_nil_or_concat' b with rfl | ⟨b, c', rfl⟩
    · rw [List.length_append, List.length_singleton] at length
      cases length
    · rw [List.length_append, List.length_append] at length
      obtain ⟨d, small, value, lower⟩ := exists_toLower_eq_digitChar (ha c (by simp))
      obtain ⟨d', small', value', lower'⟩ := exists_toLower_eq_digitChar (hb c' (by simp))
      rw [hexNumber_concat a value, hexNumber_concat b value'] at number
      -- the last digits are the remainders, the digits before them the quotients
      obtain rfl : d = d' := by omega
      have front := ih (fun c hc => ha c (List.mem_append_left _ hc))
        (fun c hc => hb c (List.mem_append_left _ hc)) (Nat.add_right_cancel length) (by omega)
      rw [List.map_append, List.map_append, List.map_singleton, List.map_singleton, lower, lower',
        front]

end RecordPlan.Text
