import Mathlib.Data.List.InsertIdx
import RecordPlan.Name.Punycode

/-!
# Encoded labels are read back

What `encode` writes for a label, `decode?` reads as that label
(`decode?_encode`). Three things have to fit together.

A **number** is written digit by digit until nothing is left, and reading
adds up the same digits with the same thresholds
(`foldlM_digit?_numberDigits`). The number stays far enough below the limit
for its weights to stay there too, since a digit that is not the last one
is at least 1.

An **insertion** is told by how far the pair of character and place has
moved, and this tells which one it was if the pair has moved forward
(`Stage.insert?_delta`). `Stage.Admits` says that a list of insertions moves
forward all the way, and that none lies outside of the text.

The **order** of the insertions that `encode` undoes is of this kind: the
character to be erased is the greatest, and the last of those that are
equal, so the one that is erased next stands before it if it is not smaller
(`IsLastInserted.of_eraseIdx`). So the insertions of a text build it from
its ASCII characters (`builds_insertions`).
-/

namespace RecordPlan.Name.Punycode

open Unicode (isAscii)

/-! ## Digits -/

theorem digitValue?_digitOf {v : Nat} (h : v < base) : digitValue? (digitOf v) = some v := by
  have all : ∀ w ∈ List.range base, digitValue? (digitOf w) = some w := by decide
  exact all v (List.mem_range.2 h)

/-- The digits of labels are small letters and decimal digits. -/
theorem isLower_or_isDigit_digitOf {v : Nat} (h : v < base) :
    (digitOf v).isLower = true ∨ (digitOf v).isDigit = true := by
  have all : ∀ w ∈ List.range base, (digitOf w).isLower = true ∨ (digitOf w).isDigit = true := by
    decide
  exact all v (List.mem_range.2 h)

theorem numberDigits_ne_nil (position bias number : Nat) :
    numberDigits position bias number ≠ [] := by
  rw [numberDigits]
  split <;> exact List.cons_ne_nil _ _

/-- A number is written with digits. -/
theorem exists_of_mem_numberDigits {position bias number : Nat} {c : Char}
    (h : c ∈ numberDigits position bias number) : ∃ v < base, c = digitOf v := by
  induction position, number using numberDigits.induct bias with
  | case1 position number t below =>
    have bounds := threshold_bounds position bias
    rw [numberDigits, if_pos below, List.mem_singleton] at h
    refine ⟨number, ?_, h⟩
    unfold base
    omega
  | case2 position number t notBelow ih =>
    have bounds := threshold_bounds position bias
    rw [numberDigits, if_neg notBelow, List.mem_cons] at h
    rcases h with rfl | h
    · refine ⟨_, ?_, rfl⟩
      have := Nat.mod_lt (number - threshold position bias)
        (show 0 < base - threshold position bias by unfold base; omega)
      omega
    · exact ih h

/-! ## Numbers -/

/-- The last digit of a number makes the insertion. -/
theorem digit?_last {s : Stage} {number weight position v : Nat}
    (below : v < threshold position s.bias)
    (bound : s.place + (number + v * weight) < limit) :
    Reading.digit? ⟨s, number, weight, position⟩ (digitOf v) =
      (s.insert? (number + v * weight)).map Reading.ofStage := by
  have bounds := threshold_bounds position s.bias
  have digit : v < base := by unfold base; omega
  unfold Reading.digit?
  rw [digitValue?_digitOf digit, Option.bind_eq_bind, Option.bind_some]
  rw [if_neg (Nat.not_le.2 bound), if_pos below]
  cases s.insert? (number + v * weight) <;> rfl

/-- Any other digit is added with its weight. -/
theorem digit?_more {s : Stage} {number weight position v : Nat} (digit : v < base)
    (notBelow : ¬ v < threshold position s.bias)
    (bound : s.place + (number + v * weight) < limit)
    (weightBound : weight * (base - threshold position s.bias) < limit) :
    Reading.digit? ⟨s, number, weight, position⟩ (digitOf v) =
      some ⟨s, number + v * weight, weight * (base - threshold position s.bias),
        position + base⟩ := by
  unfold Reading.digit?
  rw [digitValue?_digitOf digit, Option.bind_eq_bind, Option.bind_some]
  rw [if_neg (Nat.not_le.2 bound), if_neg notBelow, if_neg (Nat.not_le.2 weightBound)]
  rfl

/-- A number is its first digit and the rest at the next weight. -/
theorem digit_add_rest {t n : Nat} (notBelow : ¬ n < t) :
    t + (n - t) % (base - t) + (n - t) / (base - t) * (base - t) = n := by
  rw [Nat.add_assoc, Nat.mod_add_div', Nat.add_sub_cancel' (Nat.not_lt.1 notBelow)]

/-- **A number is read as it was written**, and makes its insertion, if it
is so small that its weights stay below the limit. -/
theorem foldlM_digit?_numberDigits {s : Stage} {position number weight n : Nat}
    (pos : 0 < weight) (bound : 35 * (s.place + (number + n * weight)) < limit) :
    (numberDigits position s.bias n).foldlM Reading.digit? ⟨s, number, weight, position⟩ =
      (s.insert? (number + n * weight)).map Reading.ofStage := by
  induction n using Nat.strongRecOn generalizing position number weight with
  | ind n ih =>
    rw [numberDigits]
    split
    · next below =>
      rw [List.foldlM_cons, digit?_last below (by omega)]
      cases s.insert? (number + n * weight) <;> rfl
    · next notBelow =>
      have bounds := threshold_bounds position s.bias
      have sum := digit_add_rest notBelow
      generalize ht : threshold position s.bias = t at bounds notBelow sum ⊢
      have room : 0 < base - t := by unfold base; omega
      have mod_lt := Nat.mod_lt (n - t) room
      have div_le := Nat.div_le_self (n - t) (base - t)
      generalize hv : t + (n - t) % (base - t) = v at sum ⊢
      generalize (n - t) / (base - t) = m at sum div_le ⊢
      -- what has been read and what is still to come add up to the same number
      have split : number + v * weight + m * (weight * (base - t)) = number + n * weight := by
        rw [← sum, Nat.add_mul, Nat.add_assoc, Nat.mul_comm weight, Nat.mul_assoc]
      -- a digit that is not the last one is at least 1, so the number it belongs
      -- to is no smaller than its weight
      have weightBound : weight * (base - t) < limit := by
        have le : weight * (base - t) ≤ weight * 35 :=
          Nat.mul_le_mul_left _ (by unfold base; omega)
        have one : 1 * weight ≤ n * weight := Nat.mul_le_mul_right _ (by omega)
        omega
      subst ht
      rw [List.foldlM_cons, digit?_more (by omega) (by omega) (by omega) weightBound]
      rw [← split]
      exact ih m (by omega) (Nat.mul_pos pos room) (by rw [split]; exact bound)

/-! ## Insertions -/

namespace Stage

variable {s : Stage} {c : Char} {i : Nat} {ins : List (Char × Nat)}

/-- The number that tells an insertion. -/
def delta (s : Stage) (c : Char) (i : Nat) : Nat :=
  (c.toNat - s.code) * (s.text.length + 1) + i - s.place

/-- The stage after an insertion. -/
def after (s : Stage) (c : Char) (i : Nat) : Stage :=
  ⟨s.text.insertIdx i c, c.toNat, i + 1,
    adapt (s.delta c i) (s.text.length + 1) (s.place == 0)⟩

/-- The stage after some insertions. -/
def afterAll (s : Stage) (ins : List (Char × Nat)) : Stage :=
  ins.foldl (fun s insertion => s.after insertion.1 insertion.2) s

theorem afterAll_cons : s.afterAll ((c, i) :: ins) = (s.after c i).afterAll ins := rfl

theorem afterAll_append_singleton : s.afterAll (ins ++ [(c, i)]) = (s.afterAll ins).after c i := by
  rw [afterAll, List.foldl_append]
  rfl

/-- Whether an insertion moves forward and lies within the text: to a
greater character, or to a later place for the same one. -/
def Reaches (s : Stage) (c : Char) (i : Nat) : Prop :=
  s.code ≤ c.toNat ∧ (c.toNat = s.code → s.place ≤ i) ∧ i ≤ s.text.length

/-- Whether each of some insertions moves forward from the one before. -/
def Admits (s : Stage) : List (Char × Nat) → Prop
  | [] => True
  | (c, i) :: rest => s.Reaches c i ∧ (s.after c i).Admits rest

theorem admits_append_singleton :
    s.Admits (ins ++ [(c, i)]) ↔ s.Admits ins ∧ (s.afterAll ins).Reaches c i := by
  induction ins generalizing s with
  | nil => simp [Admits, afterAll]
  | cons insertion rest ih =>
    rw [List.cons_append, Admits, Admits, ih, and_assoc]
    rfl

theorem length_text_after (h : s.Reaches c i) :
    (s.after c i).text.length = s.text.length + 1 :=
  List.length_insertIdx_of_le_length h.2.2 c

theorem length_text_afterAll (h : s.Admits ins) :
    (s.afterAll ins).text.length = s.text.length + ins.length := by
  induction ins generalizing s with
  | nil => rfl
  | cons insertion rest ih =>
    obtain ⟨reaches, admits⟩ := h
    rw [show s.afterAll (insertion :: rest) = (s.after insertion.1 insertion.2).afterAll rest
      from rfl, ih admits, length_text_after reaches, List.length_cons]
    omega

/-- The place stays within the text. -/
theorem place_after_le (h : s.Reaches c i) : (s.after c i).place ≤ (s.after c i).text.length := by
  rw [length_text_after h]
  exact Nat.succ_le_succ h.2.2

/-- From a place within the text, an insertion that moves forward is told by
the whole way to it. -/
theorem place_add_delta (h : s.Reaches c i) (place : s.place ≤ s.text.length) :
    s.place + s.delta c i = (c.toNat - s.code) * (s.text.length + 1) + i := by
  refine Nat.add_sub_cancel' ?_
  rcases Nat.eq_or_lt_of_le h.1 with eq | lt
  · exact Nat.le_trans (h.2.1 eq.symm) (Nat.le_add_left _ _)
  · have one : 1 * (s.text.length + 1) ≤ (c.toNat - s.code) * (s.text.length + 1) :=
      Nat.mul_le_mul_right _ (Nat.sub_pos_of_lt lt)
    omega

/-- The insertion that a number leads to. -/
theorem insert?_eq_some {number : Nat}
    (code : s.code + (s.place + number) / (s.text.length + 1) = c.toNat)
    (place : (s.place + number) % (s.text.length + 1) = i) :
    s.insert? number = some
      ⟨s.text.insertIdx i c, c.toNat, i + 1,
        adapt number (s.text.length + 1) (s.place == 0)⟩ := by
  subst place
  have valid : (s.code + (s.place + number) / (s.text.length + 1)).isValidChar := by
    rw [code]
    exact c.valid
  -- rewriting with `code` alone would leave a proof about the old number
  have char : Char.ofNatAux _ valid = c := by
    rw [← Char.ofNat_toNat c, ← code]
    exact (dif_pos valid).symm
  unfold insert?
  show dite _ _ _ = _
  rw [dif_pos valid, char, code]

/-- **The number of an insertion makes the insertion.** -/
theorem insert?_delta (h : s.Reaches c i) (place : s.place ≤ s.text.length) :
    s.insert? (s.delta c i) = some (s.after c i) := by
  have below : i < s.text.length + 1 := Nat.lt_succ_of_le h.2.2
  refine insert?_eq_some ?_ ?_
  · rw [place_add_delta h place, Nat.mul_comm, Nat.mul_add_div (Nat.succ_pos _),
      Nat.div_eq_of_lt below, Nat.add_zero, Nat.add_sub_cancel' h.1]
  · rw [place_add_delta h place, Nat.mul_comm, Nat.mul_add_mod, Nat.mod_eq_of_lt below]

/-- The number of an insertion is small if the text is. -/
theorem place_add_delta_lt (h : s.Reaches c i) (place : s.place ≤ s.text.length) :
    s.place + s.delta c i < 0x110000 * (s.text.length + 1) := by
  have code : c.toNat - s.code ≤ 0x10FFFF := by
    have valid : c.toNat < 0xD800 ∨ 0xDFFF < c.toNat ∧ c.toNat < 0x110000 := c.valid
    omega
  have le : (c.toNat - s.code) * (s.text.length + 1) ≤ 0x10FFFF * (s.text.length + 1) :=
    Nat.mul_le_mul_right _ code
  have within := h.2.2
  rw [place_add_delta h place]
  omega

end Stage

theorem insertionDigits_cons (s : Stage) (c : Char) (i : Nat) (rest : List (Char × Nat)) :
    insertionDigits s ((c, i) :: rest) =
      numberDigits base s.bias (s.delta c i) ++ insertionDigits (s.after c i) rest := rfl

/-- **Insertions are read as they were written.** -/
theorem foldlM_digit?_insertionDigits {s : Stage} {ins : List (Char × Nat)} (admits : s.Admits ins)
    (place : s.place ≤ s.text.length) (short : s.text.length + ins.length ≤ 63) :
    (insertionDigits s ins).foldlM Reading.digit? (.ofStage s) = some (.ofStage (s.afterAll ins)) := by
  induction ins generalizing s with
  | nil => rfl
  | cons insertion rest ih =>
    obtain ⟨c, i⟩ := insertion
    obtain ⟨reaches, admits⟩ := admits
    rw [List.length_cons] at short
    have bound := s.place_add_delta_lt reaches place
    have number : (numberDigits base s.bias (s.delta c i)).foldlM Reading.digit? (.ofStage s) =
        some (.ofStage (s.after c i)) := by
      rw [Reading.ofStage, foldlM_digit?_numberDigits Nat.one_pos (by unfold limit; omega),
        Nat.zero_add, Nat.mul_one, Stage.insert?_delta reaches place]
      rfl
    rw [insertionDigits_cons, List.foldlM_append, number, Stage.afterAll_cons]
    refine ih admits (Stage.place_after_le reaches) ?_
    rw [Stage.length_text_after reaches]
    omega

/-! ## The order of insertions -/

/-- Where the greatest character beyond ASCII stands in a text, the last of
those that are equal. -/
structure IsLastInserted (text : List Char) (c : Char) (i : Nat) : Prop where
  /-- The character stands at the place. -/
  here : text[i]? = some c
  /-- The character is not ASCII. -/
  beyond : isAscii c = false
  /-- No character is greater, and all behind the place are smaller. -/
  greatest : ∀ (j : Nat) (d : Char), text[j]? = some d →
    d.toNat ≤ c.toNat ∧ (i < j → d.toNat < c.toNat)

theorem toNat_lt_of_isAscii {c d : Char} (hc : isAscii c = false) (hd : isAscii d = true) :
    d.toNat < c.toNat :=
  Nat.lt_of_lt_of_le (of_decide_eq_true hd) (Nat.not_lt.1 (of_decide_eq_false hc))

namespace IsLastInserted

variable {b c : Char} {rest : List Char} {i : Nat}

/-- A character in front of smaller ones. -/
theorem first (beyond : isAscii b = false) (smaller : ∀ d ∈ rest, d.toNat < b.toNat) :
    IsLastInserted (b :: rest) b 0 := by
  refine ⟨rfl, beyond, fun j d hd => ?_⟩
  cases j with
  | zero =>
    obtain rfl : b = d := Option.some.inj hd
    exact ⟨Nat.le_refl _, fun lt => absurd lt (Nat.lt_irrefl 0)⟩
  | succ j =>
    have lt := smaller d (List.mem_of_getElem? hd)
    exact ⟨Nat.le_of_lt lt, fun _ => lt⟩

/-- A character in front that is not greater changes only the place. -/
theorem cons (h : IsLastInserted rest c i) (le : b.toNat ≤ c.toNat) :
    IsLastInserted (b :: rest) c (i + 1) := by
  refine ⟨h.here, h.beyond, fun j d hd => ?_⟩
  cases j with
  | zero =>
    obtain rfl : b = d := Option.some.inj hd
    exact ⟨le, fun lt => absurd lt (Nat.not_lt_zero _)⟩
  | succ j =>
    obtain ⟨le, later⟩ := h.greatest j d hd
    exact ⟨le, fun lt => later (Nat.lt_of_succ_lt_succ lt)⟩

theorem toNat_le (h : IsLastInserted rest c i) {d : Char} (hd : d ∈ rest) :
    d.toNat ≤ c.toNat := by
  obtain ⟨j, hj⟩ := List.getElem?_of_mem hd
  exact (h.greatest j d hj).1

end IsLastInserted

/-- The place of the character inserted last, where there is one. -/
theorem lastInserted?_spec (text : List Char) :
    match lastInserted? text with
    | some (c, i) => IsLastInserted text c i
    | none => ∀ c ∈ text, isAscii c = true := by
  induction text with
  | nil => simp [lastInserted?]
  | cons b rest ih =>
    rw [lastInserted?]
    cases hrest : lastInserted? rest with
    | some found =>
      obtain ⟨c, i⟩ := found
      rw [hrest] at ih
      change IsLastInserted rest c i at ih
      dsimp only
      by_cases lt : c < b
      · rw [if_pos lt]
        have lt : c.toNat < b.toNat := lt
        refine .first ?_ fun d hd => Nat.lt_of_le_of_lt (ih.toNat_le hd) lt
        have beyond := of_decide_eq_false ih.beyond
        exact decide_eq_false (by omega)
      · rw [if_neg lt]
        exact ih.cons (Nat.not_lt.1 lt)
    | none =>
      rw [hrest] at ih
      dsimp only at ih ⊢
      by_cases ascii : isAscii b = true
      · rw [if_pos ascii]
        simpa using ⟨ascii, ih⟩
      · rw [if_neg ascii]
        have beyond : isAscii b = false := by simpa using ascii
        exact .first beyond fun d hd => toNat_lt_of_isAscii beyond (ih d hd)

theorem isLastInserted_of_eq_some {text : List Char} {c : Char} {i : Nat}
    (h : lastInserted? text = some (c, i)) : IsLastInserted text c i := by
  have spec := lastInserted?_spec text
  rwa [h] at spec

theorem isAscii_of_lastInserted?_eq_none {text : List Char} (h : lastInserted? text = none) :
    ∀ c ∈ text, isAscii c = true := by
  have spec := lastInserted?_spec text
  rwa [h] at spec

namespace IsLastInserted

variable {text : List Char} {c d : Char} {i k : Nat}

/-- What is erased next stands before what is erased now, if it is not
smaller. -/
theorem of_eraseIdx (h : IsLastInserted text c i) (next : IsLastInserted (text.eraseIdx i) d k) :
    d.toNat ≤ c.toNat ∧ (c.toNat = d.toNat → k < i) := by
  have here := next.here
  rw [List.getElem?_eraseIdx] at here
  split at here
  · next before => exact ⟨(h.greatest k d here).1, fun _ => before⟩
  · next behind =>
    obtain ⟨le, smaller⟩ := h.greatest (k + 1) d here
    have lt := smaller (by omega)
    exact ⟨le, fun eq => by omega⟩

theorem lt_length (h : IsLastInserted text c i) : i < text.length :=
  (List.getElem?_eq_some_iff.1 h.here).1

theorem length_eraseIdx (h : IsLastInserted text c i) :
    (text.eraseIdx i).length + 1 = text.length := by
  rw [List.length_eraseIdx_of_lt h.lt_length]
  have := h.lt_length
  omega

theorem insertIdx_eraseIdx (h : IsLastInserted text c i) :
    (text.eraseIdx i).insertIdx i c = text := by
  obtain ⟨lt, rfl⟩ := List.getElem?_eq_some_iff.1 h.here
  exact List.insertIdx_eraseIdx_getElem lt

/-- Erasing it leaves the ASCII characters as they are. -/
theorem filter_eraseIdx (h : IsLastInserted text c i) :
    (text.eraseIdx i).filter isAscii = text.filter isAscii := by
  obtain ⟨lt, rfl⟩ := List.getElem?_eq_some_iff.1 h.here
  conv_rhs => rw [← List.take_append_drop i text, List.drop_eq_getElem_cons lt]
  rw [List.eraseIdx_eq_take_drop_succ, List.filter_append, List.filter_append,
    List.filter_cons_of_neg (by simp [h.beyond])]

end IsLastInserted

/-- Insertions that build a text from a stage, and where they end: at the
place of the character that was inserted last. -/
structure Builds (s : Stage) (ins : List (Char × Nat)) (text : List Char) : Prop where
  /-- The insertions move forward. -/
  admits : s.Admits ins
  /-- The text is what they come to. -/
  text_eq : (s.afterAll ins).text = text
  /-- They end where they began, or behind the last character. -/
  ends : ((s.afterAll ins).code = 0x80 ∧ (s.afterAll ins).place = 0) ∨
    ∃ c i, IsLastInserted text c i ∧ (s.afterAll ins).code = c.toNat ∧
      (s.afterAll ins).place = i + 1

/-- One more insertion builds a text from what is left when its last
character is erased. -/
theorem Builds.append_singleton {s : Stage} {ins : List (Char × Nat)} {text : List Char} {c : Char}
    {i : Nat} (last : IsLastInserted text c i) (builds : Builds s ins (text.eraseIdx i)) :
    Builds s (ins ++ [(c, i)]) text := by
  have reaches : (s.afterAll ins).Reaches c i := by
    have within : i ≤ (s.afterAll ins).text.length := by
      have lt := last.lt_length
      have length := last.length_eraseIdx
      rw [builds.text_eq]
      omega
    rcases builds.ends with ⟨code, place⟩ | ⟨d, k, next, code, place⟩
    · -- nothing has been inserted, so every character beyond ASCII is reached
      have beyond := of_decide_eq_false last.beyond
      exact ⟨by omega, fun _ => by omega, within⟩
    · -- what was inserted before is what would be erased next
      obtain ⟨le, before⟩ := last.of_eraseIdx next
      exact ⟨by omega, fun eq => by have := before (by omega); omega, within⟩
  refine ⟨Stage.admits_append_singleton.2 ⟨builds.admits, reaches⟩, ?_, .inr ⟨c, i, last, ?_⟩⟩
  · rw [Stage.afterAll_append_singleton]
    show (s.afterAll ins).text.insertIdx i c = text
    rw [builds.text_eq, last.insertIdx_eraseIdx]
  · rw [Stage.afterAll_append_singleton]
    exact ⟨rfl, rfl⟩

/-- **The insertions of a text build it** from its ASCII characters. -/
theorem builds_insertions {n : Nat} {text : List Char} (enough : text.length ≤ n) :
    Builds (.initial (text.filter isAscii)) (insertions n text) text := by
  induction n generalizing text with
  | zero =>
    obtain rfl := List.length_eq_zero_iff.1 (Nat.le_zero.1 enough)
    exact ⟨trivial, rfl, .inl ⟨rfl, rfl⟩⟩
  | succ n ih =>
    rw [insertions]
    cases h : lastInserted? text with
    | none =>
      refine ⟨trivial, ?_, .inl ⟨rfl, rfl⟩⟩
      exact List.filter_eq_self.2 (isAscii_of_lastInserted?_eq_none h)
    | some found =>
      have last := isLastInserted_of_eq_some h
      have length := last.length_eraseIdx
      have builds := ih (show (text.eraseIdx found.2).length ≤ n by omega)
      rw [last.filter_eraseIdx] at builds
      exact builds.append_singleton last

/-- Insertions are written with digits. -/
theorem exists_of_mem_insertionDigits {s : Stage} {ins : List (Char × Nat)} {c : Char}
    (h : c ∈ insertionDigits s ins) : ∃ v < base, c = digitOf v := by
  induction ins generalizing s with
  | nil => cases h
  | cons insertion rest ih =>
    rw [insertionDigits_cons, List.mem_append] at h
    exact h.elim exists_of_mem_numberDigits ih

/-- Every insertion takes a digit. -/
theorem length_le_length_insertionDigits (s : Stage) (ins : List (Char × Nat)) :
    ins.length ≤ (insertionDigits s ins).length := by
  induction ins generalizing s with
  | nil => exact Nat.le_refl 0
  | cons insertion rest ih =>
    have one := List.length_pos_iff.2 (numberDigits_ne_nil base s.bias (s.delta insertion.1 insertion.2))
    have more := ih (s.after insertion.1 insertion.2)
    rw [insertionDigits_cons, List.length_append, List.length_cons]
    omega

/-! ## Labels -/

theorem splitLastHyphen?_eq_none {text : List Char} (h : '-' ∉ text) :
    splitLastHyphen? text = none := by
  induction text with
  | nil => rfl
  | cons c rest ih =>
    rw [List.mem_cons, not_or] at h
    rw [splitLastHyphen?, ih h.2]
    exact if_neg fun eq => h.1 eq.symm

theorem splitLastHyphen?_append {after : List Char} (before : List Char) (h : '-' ∉ after) :
    splitLastHyphen? (before ++ '-' :: after) = some (before, after) := by
  induction before with
  | nil =>
    rw [List.nil_append, splitLastHyphen?, splitLastHyphen?_eq_none h]
    rfl
  | cons c rest ih => rw [List.cons_append, splitLastHyphen?, ih]

section Label

variable {label : List Char}

/-- The digits that tell the insertions of a label. -/
def extension (label : List Char) : List Char :=
  insertionDigits (.initial (label.filter isAscii)) (insertions label.length label)

theorem hyphen_not_mem_extension : '-' ∉ extension label := by
  intro h
  obtain ⟨v, hv, eq⟩ := exists_of_mem_insertionDigits h
  have digit := isLower_or_isDigit_digitOf hv
  rw [← eq] at digit
  exact absurd digit (by decide)

/-- The form of a label without ASCII characters is digits only. -/
theorem encode_of_basic_eq_nil (h : label.filter isAscii = []) :
    encode label = extension label := by
  rw [encode, if_pos h]
  rfl

/-- The form of any other label has a hyphen before the digits. -/
theorem encode_of_basic_ne_nil (h : label.filter isAscii ≠ []) :
    encode label = label.filter isAscii ++ '-' :: extension label := by
  rw [encode, if_neg h, List.append_assoc]
  rfl

/-- The digits tell every character that is not ASCII. -/
theorem length_le_add_length_extension (label : List Char) :
    label.length ≤ (label.filter isAscii).length + (extension label).length := by
  have builds := builds_insertions (Nat.le_refl label.length)
  have length := Stage.length_text_afterAll builds.admits
  rw [builds.text_eq] at length
  rw [length]
  exact Nat.add_le_add_left (length_le_length_insertionDigits _ _) _

/-- A label is no longer than its form. -/
theorem length_le_length_encode : label.length ≤ (encode label).length := by
  have length := length_le_add_length_extension label
  by_cases h : label.filter isAscii = []
  · rw [encode_of_basic_eq_nil h]
    simpa [h] using length
  · rw [encode_of_basic_ne_nil h, List.length_append, List.length_cons]
    omega

/-- There are digits if there are characters beyond ASCII. -/
theorem extension_ne_nil (h : label.all isAscii = false) : extension label ≠ [] := by
  have length := length_le_add_length_extension label
  obtain ⟨c, mem, beyond⟩ := List.all_eq_false.1 h
  have lt : (label.filter isAscii).length < label.length :=
    List.length_filter_lt_length_iff_exists.2 ⟨c, mem, by simpa using beyond⟩
  refine List.length_pos_iff.1 ?_
  omega

/-- The form of a label with characters beyond ASCII ends with a digit. -/
theorem getLast?_encode (h : label.all isAscii = false) :
    (encode label).getLast? = (extension label).getLast? := by
  by_cases basic : label.filter isAscii = []
  · rw [encode_of_basic_eq_nil basic]
  · rw [encode_of_basic_ne_nil basic, List.getLast?_append,
      List.getLast?_cons_of_ne_nil (extension_ne_nil h)]
    exact Option.or_of_isSome (List.getLast?_isSome.2 (extension_ne_nil h))

/-- A form is read as its digits are, from its ASCII characters on. -/
theorem decode?_encode_eq : decode? (encode label) =
    ((extension label).foldlM Reading.digit?
      (.ofStage (.initial ((label.filter isAscii).map Char.toLower)))).bind
        fun r => if r.isComplete then some r.stage.text else none := by
  by_cases h : label.filter isAscii = []
  · rw [encode_of_basic_eq_nil h, decode?, splitLastHyphen?_eq_none hyphen_not_mem_extension, h]
    rfl
  · rw [encode_of_basic_ne_nil h, decode?, splitLastHyphen?_append _ hyphen_not_mem_extension]
    obtain ⟨c, rest, eq⟩ := List.exists_cons_of_ne_nil h
    rw [eq]
    rfl

/-- **An encoded label is read back**, if its ASCII characters are in small
form and it is not too long for a label. -/
theorem decode?_encode (small : ∀ c ∈ label, isAscii c = true → c.toLower = c)
    (short : label.length ≤ 63) : decode? (encode label) = some label := by
  have builds := builds_insertions (Nat.le_refl label.length)
  have length := Stage.length_text_afterAll builds.admits
  rw [builds.text_eq] at length
  have basic : (label.filter isAscii).map Char.toLower = label.filter isAscii := by
    refine (List.map_congr_left fun c hc => ?_).trans (List.map_id _)
    obtain ⟨mem, ascii⟩ := List.mem_filter.1 hc
    exact small c mem ascii
  have read : (extension label).foldlM Reading.digit? (.ofStage (.initial (label.filter isAscii))) =
      some (.ofStage _) :=
    foldlM_digit?_insertionDigits builds.admits (Nat.zero_le _) (by rw [← length]; exact short)
  have complete (s : Stage) : (Reading.ofStage s).isComplete = true := rfl
  rw [decode?_encode_eq, basic, read, Option.bind_some, if_pos (complete _)]
  exact congrArg some builds.text_eq

end Label

end RecordPlan.Name.Punycode
