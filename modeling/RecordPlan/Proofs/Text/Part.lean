import Mathlib.Data.List.Forall2
import Mathlib.Data.List.TakeWhile
import RecordPlan.Text.Blank
import RecordPlan.Text.Decimal
import RecordPlan.Text.Hex

/-!
# Texts in parts

Names are labels with dots between them, addresses are numbers with dots or
colons between them. Such a text is taken apart at its separators
(`splitOn_intercalate_map`) and read part by part, so it is read back if its
parts are (`mapM_map`). Each of its characters is a separator or belongs to a
part (`mem_intercalate`).

A part that is a number is read back from its digits (`hexNumber_hexDigits`,
`readDecimal?_decimalDigits`), and a decimal number without zeros in front of it
is written as it is read (`decimalDigits_of_readDecimal?`), so that a text is read
as a decimal number if it is the digits of one behind any number of zeros
(`readDecimal?_eq_some_iff`). Whatever else readers ask of the digits is shown for
a single digit and for one more digit behind others (`toDigits_induction`).
-/

namespace RecordPlan.Text

variable {n : Nat} {c x : Char} {parts : List (List Char)}

/-! ## Parts -/

/-- What is done to all parts is done if it is done to each. -/
theorem mapM_eq_some_iff {α β : Type} {f : α → Option β} {as : List α} {bs : List β} :
    as.mapM f = some bs ↔ as.map f = bs.map some := by
  induction as generalizing bs with
  | nil => cases bs <;> simp
  | cons a as ih =>
    rw [List.mapM_cons]
    cases bs with
    | nil => simp [Option.bind_eq_some_iff]
    | cons b bs => simp [Option.bind_eq_some_iff, ih]

/-- Parts are read one by one. -/
theorem mapM_eq_some_iff_forall₂ {α β : Type} {f : α → Option β} {as : List α} {bs : List β} :
    as.mapM f = some bs ↔ List.Forall₂ (fun a b => f a = some b) as bs := by
  rw [mapM_eq_some_iff, ← List.forall₂_eq_eq_eq, List.forall₂_map_left_iff,
    List.forall₂_map_right_iff]

/-- Parts that have one counterpart each are related to these. -/
theorem forall₂_iff_eq_map {α β : Type} {R : α → β → Prop} {f : α → β}
    (h : ∀ a b, R a b ↔ b = f a) {as : List α} {bs : List β} :
    List.Forall₂ R as bs ↔ bs = as.map f := by
  have graph : R = fun a b => f a = b :=
    funext fun a => funext fun b => propext ((h a b).trans eq_comm)
  rw [graph, ← List.forall₂_map_left_iff, List.forall₂_eq_eq_eq, eq_comm]

/-- Parts that are only judged are kept if all of them pass. -/
theorem map_filter_eq_map_some_iff {α : Type} {p : α → Bool} {as bs : List α} :
    (as.map fun a => (some a).filter p) = bs.map some ↔ (∀ a ∈ as, p a = true) ∧ bs = as := by
  have kept (passed : ∀ a ∈ as, p a = true) :
      (as.map fun a => (some a).filter p) = as.map some :=
    List.map_congr_left fun a ha => Option.filter_some_pos (passed a ha)
  constructor
  · intro h
    have passed (a : α) (ha : a ∈ as) : p a = true := by
      have mem : (some a).filter p ∈ bs.map some := h ▸ List.mem_map_of_mem ha
      obtain ⟨b, -, eq⟩ := List.mem_map.1 mem
      obtain ⟨same, passed⟩ := Option.filter_eq_some_iff.1 eq.symm
      exact Option.some.inj same ▸ passed
    have same : bs.map some = as.map some := h.symm.trans (kept passed)
    exact ⟨passed, List.map_injective_iff.2 (fun _ _ => Option.some.inj) same⟩
  · rintro ⟨passed, rfl⟩
    exact kept passed

/-- **Parts are read back** if each of them is. -/
theorem mapM_map {α β : Type} {write : β → α} {read : α → Option β}
    (h : ∀ b, read (write b) = some b) (bs : List β) : (bs.map write).mapM read = some bs := by
  rw [mapM_eq_some_iff, List.map_map]
  exact List.map_congr_left fun b _ => h b

/-- There is a separator in front of every part but the first. -/
theorem intercalate_cons (separator part : List Char) (parts : List (List Char)) :
    separator.intercalate (part :: parts) = part ++ parts.flatMap (separator ++ ·) := by
  induction parts generalizing part with
  | nil => rw [List.intercalate_singleton, List.flatMap_nil, List.append_nil]
  | cons next parts ih =>
    rw [List.intercalate_cons_cons, ih, List.flatMap_cons, List.append_assoc, List.append_assoc]

/-- Every character of a text with separators is one of them or belongs to a
part. -/
theorem mem_intercalate (h : c ∈ List.intercalate [x] parts) :
    c = x ∨ ∃ part ∈ parts, c ∈ part := by
  induction parts with
  | nil => cases h
  | cons part parts ih =>
    cases parts with
    | nil =>
      rw [List.intercalate_singleton] at h
      exact .inr ⟨part, List.mem_cons_self, h⟩
    | cons next parts =>
      rw [List.intercalate_cons_cons, List.mem_append, List.mem_append, List.mem_singleton] at h
      rcases h with (first | separator) | later
      · exact .inr ⟨part, List.mem_cons_self, first⟩
      · exact .inl separator
      · obtain separator | ⟨other, there, inside⟩ := ih later
        · exact .inl separator
        · exact .inr ⟨other, List.mem_cons_of_mem _ there, inside⟩

/-- Every character of such a text is a separator or belongs to what is written
for a part. -/
theorem mem_intercalate_map {α : Type} {write : α → List Char} {as : List α}
    (h : c ∈ List.intercalate [x] (as.map write)) : c = x ∨ ∃ a ∈ as, c ∈ write a := by
  obtain separator | ⟨part, there, inside⟩ := mem_intercalate h
  · exact .inl separator
  · obtain ⟨a, ha, rfl⟩ := List.mem_map.1 there
    exact .inr ⟨a, ha, inside⟩

/-- There is a separator between two parts. -/
theorem separator_mem_intercalate (part next : List Char) (parts : List (List Char)) :
    x ∈ List.intercalate [x] (part :: next :: parts) := by
  rw [List.intercalate_cons_cons]
  exact List.mem_append_left _ (List.mem_append_right _ (List.mem_singleton_self x))

/-- **A text with separators is taken apart** into what is written for its
parts, if there is no separator in it. -/
theorem splitOn_intercalate_map {α : Type} {write : α → List Char} {as : List α}
    (h : ∀ a, x ∉ write a) (ne : as ≠ []) :
    (List.intercalate [x] (as.map write)).splitOn x = as.map write := by
  refine List.splitOn_intercalate x (fun part there => ?_) (mt List.map_eq_nil_iff.1 ne)
  obtain ⟨a, -, rfl⟩ := List.mem_map.1 there
  exact h a

/-! ## Letters and digits -/

theorem isLower_iff : c.isLower = true ↔ 97 ≤ c.toNat ∧ c.toNat ≤ 122 := by
  show (decide ('a'.val ≤ c.val) && decide (c.val ≤ 'z'.val)) = true ↔ _
  rw [Bool.and_eq_true, decide_eq_true_iff, decide_eq_true_iff]
  exact Iff.rfl

theorem isUpper_iff : c.isUpper = true ↔ 65 ≤ c.toNat ∧ c.toNat ≤ 90 := by
  show decide ('A'.val ≤ c.val ∧ c.val ≤ 'Z'.val) = true ↔ _
  rw [decide_eq_true_iff]
  exact Iff.rfl

/-- Letters and digits of ASCII by number. -/
theorem isAlphanum_iff :
    c.isAlphanum = true ↔
      (65 ≤ c.toNat ∧ c.toNat ≤ 90) ∨ (97 ≤ c.toNat ∧ c.toNat ≤ 122) ∨
        (48 ≤ c.toNat ∧ c.toNat ≤ 57) := by
  show (c.isUpper || c.isLower || c.isDigit) = true ↔ _
  rw [Bool.or_eq_true, Bool.or_eq_true, isUpper_iff, isLower_iff, Char.isDigit_iff_toNat, or_assoc]
  exact Iff.rfl

/-! ## Digits of a number -/

/-- **Induction on the digits of a number**: a digit of its own, and a digit
behind those of a number that is not zero. -/
theorem toDigits_induction {b : Nat} (hb : 1 < b) {P : Nat → List Char → Prop}
    (digit : ∀ d < b, P d [Nat.digitChar d])
    (more : ∀ m d ds, 0 < m → d < b → P m ds → P (b * m + d) (ds ++ [Nat.digitChar d])) (n : Nat) :
    P n (Nat.toDigits b n) := by
  induction n using Nat.strongRecOn with
  | ind n ih =>
    rw [Nat.toDigits_eq_if hb]
    split
    · next small => exact digit n small
    · next large =>
      have pos : 0 < n / b := Nat.div_pos (Nat.not_lt.1 large) (Nat.zero_lt_of_lt hb)
      have rest := ih (n / b) (Nat.div_lt_self (by omega) hb)
      have whole := more (n / b) (n % b) _ pos (Nat.mod_lt n (Nat.zero_lt_of_lt hb)) rest
      rwa [Nat.div_add_mod] at whole

theorem isHexDigit_digitChar {d : Nat} (h : d < 16) : isHexDigit (Nat.digitChar d) = true := by
  rw [isHexDigit, hexValue?_digitChar h]
  rfl

/-- Decimal digits are hexadecimal digits. -/
theorem isHexDigit_of_isDigit (h : c.isDigit = true) : isHexDigit c = true := by
  have range : '0' ≤ c ∧ c ≤ '9' := by
    show 48 ≤ c.val ∧ c.val ≤ 57
    simpa [Char.isDigit] using h
  rw [isHexDigit, hexValue?, if_pos range]
  rfl

theorem isAlphanum_of_isHexDigit (h : isHexDigit c = true) : c.isAlphanum = true := by
  rw [isAlphanum_iff]
  unfold isHexDigit hexValue? at h
  simp only [Char.le_def, UInt32.le_iff_toNat_le, Char.toNat_val] at h
  grind

/-- One more digit behind others. -/
theorem hexNumber_concat (ds : List Char) {d : Nat} (h : hexValue? c = some d) :
    hexNumber (ds ++ [c]) = 16 * hexNumber ds + d := by
  rw [hexNumber, List.foldl_append, List.foldl_cons, List.foldl_nil, h]
  rfl

theorem hexNumber_append_digitChar {d : Nat} (ds : List Char) (h : d < 16) :
    hexNumber (ds ++ [Nat.digitChar d]) = 16 * hexNumber ds + d :=
  hexNumber_concat ds (hexValue?_digitChar h)

/-- **A number is read back** from its hexadecimal digits. -/
theorem hexNumber_hexDigits (n : Nat) : hexNumber (hexDigits n) = n := by
  refine toDigits_induction (P := fun n ds => hexNumber ds = n) (by decide) ?digit ?more n
  case digit =>
    intro d small
    exact (hexNumber_append_digitChar [] small).trans (Nat.zero_add d)
  case more =>
    intro m d ds _ small rest
    rw [hexNumber_append_digitChar ds small, rest]

theorem isHexDigit_of_mem_hexDigits (h : c ∈ hexDigits n) : isHexDigit c = true := by
  refine toDigits_induction (P := fun _ ds => ∀ c ∈ ds, isHexDigit c = true) (by decide)
    ?digit ?more n c h
  case digit =>
    intro d small c h
    obtain rfl := List.mem_singleton.1 h
    exact isHexDigit_digitChar small
  case more =>
    intro _ d ds _ small rest c h
    rcases List.mem_append.1 h with front | last
    · exact rest c front
    · obtain rfl := List.mem_singleton.1 last
      exact isHexDigit_digitChar small

theorem hexDigits_ne_nil (n : Nat) : hexDigits n ≠ [] := Nat.toDigits_ne_nil

theorem isDigit_of_mem_decimalDigits (h : c ∈ decimalDigits n) : c.isDigit = true :=
  Nat.isDigit_of_mem_toDigits (by decide) (by decide) h

/-- Only zero is written with a zero in front. -/
theorem eq_zero_of_head?_decimalDigits (h : (decimalDigits n).head? = some '0') : n = 0 := by
  revert h
  refine (toDigits_induction (P := fun n ds => ds ≠ [] ∧ (ds.head? = some '0' → n = 0))
    (by decide) ?digit ?more n).2
  case digit =>
    have digits : ∀ d < 10, Nat.digitChar d = '0' → d = 0 := by decide
    exact fun d small => ⟨List.cons_ne_nil _ _, fun h => digits d small (Option.some.inj h)⟩
  case more =>
    rintro m d (_ | ⟨first, ds⟩) pos small ⟨ne, front⟩
    · exact absurd rfl ne
    · exact ⟨List.cons_ne_nil _ _, fun h => absurd (front h) (Nat.ne_of_gt pos)⟩

/-- A decimal digit is what a number below ten is written as. -/
theorem exists_digitChar_eq (h : c.isDigit = true) : ∃ d < 10, Nat.digitChar d = c := by
  have digits : ∀ d < 10, Nat.digitChar d = Char.ofNat (48 + d) := by decide
  obtain ⟨low, high⟩ : 48 ≤ c.toNat ∧ c.toNat ≤ 57 := Char.isDigit_iff_toNat.1 h
  refine ⟨c.toNat - 48, by omega, ?_⟩
  rw [digits _ (by omega), Nat.add_sub_cancel' low, Char.ofNat_toNat]

/-- Digits behind a number that is not zero are digits of a number. -/
theorem toDigits_ofDigitChars {m : Nat} (pos : 0 < m) {ds : List Char}
    (digits : ∀ c ∈ ds, c.isDigit = true) :
    Nat.toDigits 10 (Nat.ofDigitChars 10 ds m) = Nat.toDigits 10 m ++ ds := by
  induction ds generalizing m with
  | nil => rw [Nat.ofDigitChars_nil, List.append_nil]
  | cons c ds ih =>
    obtain ⟨d, small, rfl⟩ := exists_digitChar_eq (digits c List.mem_cons_self)
    rw [Nat.ofDigitChars_cons_digitChar_of_lt_ten small,
      ih (by omega) fun c hc => digits c (List.mem_cons_of_mem _ hc),
      ← Nat.toDigits_append_toDigits (by decide) pos small, Nat.toDigits_of_lt_base small,
      List.append_assoc, List.singleton_append]

/-- **A number is written as it is read**, unless there are zeros in front of
it. -/
theorem decimalDigits_of_readDecimal? {text : List Char} (h : readDecimal? text = some n)
    (zeros : text.head? = some '0' → text = ['0']) : decimalDigits n = text := by
  unfold readDecimal? at h
  split at h
  · next form =>
    obtain ⟨c, ds, rfl⟩ := List.exists_cons_of_ne_nil form.1
    have digits := List.all_eq_true.1 form.2
    obtain ⟨d, small, rfl⟩ := exists_digitChar_eq (digits c List.mem_cons_self)
    rw [Nat.ofDigitChars_cons_digitChar_of_lt_ten small, Nat.mul_zero, Nat.zero_add] at h
    obtain rfl := Option.some.inj h
    rcases Nat.eq_zero_or_pos d with rfl | pos
    · obtain rfl : ds = [] := (List.cons.inj (zeros rfl)).2
      rfl
    · have more := toDigits_ofDigitChars pos fun c hc => digits c (List.mem_cons_of_mem _ hc)
      rwa [Nat.toDigits_of_lt_base small] at more
  · cases h

/-- A zero in front of other digits makes no difference. -/
theorem readDecimal?_zero_cons {ds : List Char} (ne : ds ≠ []) :
    readDecimal? ('0' :: ds) = readDecimal? ds := by
  simp [readDecimal?, ne, Nat.ofDigitChars_cons]

/-- **The texts that are read as a number** are its digits, with any number of
zeros in front of them. -/
theorem readDecimal?_eq_some_iff {text : List Char} : readDecimal? text = some n ↔
    ∃ zeros, text = List.replicate zeros '0' ++ decimalDigits n := by
  constructor
  · intro h
    induction text with
    | nil => cases h
    | cons c ds ih =>
      by_cases zero : c = '0' ∧ ds ≠ []
      · obtain ⟨rfl, ne⟩ := zero
        rw [readDecimal?_zero_cons ne] at h
        obtain ⟨zeros, rfl⟩ := ih h
        exact ⟨zeros + 1, rfl⟩
      · refine ⟨0, (decimalDigits_of_readDecimal? h fun first => ?_).symm⟩
        obtain rfl := Option.some.inj first
        rw [Classical.not_not.1 fun ne => zero ⟨rfl, ne⟩]
  · rintro ⟨zeros, rfl⟩
    induction zeros with
    | zero => exact readDecimal?_decimalDigits n
    | succ zeros ih =>
      rw [List.replicate_succ, List.cons_append, readDecimal?_zero_cons, ih]
      exact List.append_ne_nil_of_right_ne_nil _ Nat.toDigits_ne_nil

/-! ## Signs -/

/-- Only a plus sign is left out. -/
theorem exists_eq_append_withoutPlus (text : List Char) :
    ∃ sign, (sign = [] ∨ sign = ['+']) ∧ text = sign ++ withoutPlus text := by
  unfold withoutPlus
  split
  · exact ⟨['+'], .inr rfl, rfl⟩
  · exact ⟨[], .inl rfl, rfl⟩

theorem withoutPlus_of_not_mem {text : List Char} (h : '+' ∉ text) : withoutPlus text = text := by
  refine withoutPlus.eq_2 text ?_
  rintro rest rfl
  exact h List.mem_cons_self

theorem withoutPlus_sign_append {sign text : List Char} (hs : sign = [] ∨ sign = ['+'])
    (h : '+' ∉ text) : withoutPlus (sign ++ text) = text := by
  rcases hs with rfl | rfl
  · exact withoutPlus_of_not_mem h
  · rfl

/-! ## Blanks -/

theorem not_isBlank_of_isAlphanum (h : c.isAlphanum = true) : isBlank c = false := by
  rw [isAlphanum_iff] at h
  simp [isBlank]
  omega

theorem not_isBlank_of_isDigit (h : c.isDigit = true) : isBlank c = false :=
  not_isBlank_of_isAlphanum (isAlphanum_iff.2 (.inr (.inr (Char.isDigit_iff_toNat.1 h))))

/-- Whatever is trimmed from a text is blank. -/
theorem exists_eq_append_trim (text : List Char) :
    ∃ before after, text = before ++ trim text ++ after ∧
      (∀ c ∈ before, isBlank c = true) ∧ ∀ c ∈ after, isBlank c = true := by
  refine ⟨text.takeWhile isBlank, ((text.dropWhile isBlank).reverse.takeWhile isBlank).reverse,
    ?_, fun c hc => List.all_eq_true.1 List.all_takeWhile c hc,
    fun c hc => List.all_eq_true.1 List.all_takeWhile c (List.mem_reverse.1 hc)⟩
  rw [trim, List.append_assoc, ← List.reverse_append, List.takeWhile_append_dropWhile,
    List.reverse_reverse, List.takeWhile_append_dropWhile]

/-- **Blanks around a text are trimmed**, and nothing else is if there are none in
it. -/
theorem trim_append_append {before text after : List Char} (hb : ∀ c ∈ before, isBlank c = true)
    (h : ∀ c ∈ text, isBlank c = false) (ha : ∀ c ∈ after, isBlank c = true) :
    trim (before ++ text ++ after) = text := by
  have kept {t : List Char} (ht : ∀ c ∈ t, isBlank c = false) : t.dropWhile isBlank = t := by
    cases t with
    | nil => rfl
    | cons c t => exact List.dropWhile_cons_of_neg (by simp [ht c List.mem_cons_self])
  have front : (text ++ after).dropWhile isBlank = if text = [] then [] else text ++ after := by
    cases text with
    | nil => exact List.dropWhile_eq_nil_iff.2 ha
    | cons c text => exact List.dropWhile_cons_of_neg (by simp [h c List.mem_cons_self])
  rw [trim, List.append_assoc, List.dropWhile_append_of_pos hb, front]
  split
  · next empty => exact empty.symm
  · rw [List.reverse_append, List.dropWhile_append_of_pos fun c hc => ha c (List.mem_reverse.1 hc),
      kept fun c hc => h c (List.mem_reverse.1 hc), List.reverse_reverse]

end RecordPlan.Text
