import RecordPlan.Name.Label
import RecordPlan.Proofs.Name.Punycode
import RecordPlan.Proofs.Text.LetterCase

/-!
# Labels in ASCII

The ASCII form of an accepted label consists of small letters, digits and
hyphens (`isStored_of_mem_asciiLabel`), all of which stand for themselves
when a name is prepared. Read as a label again, it has the Unicode form that
it was made from (`unicodeLabel?_asciiLabel`): an ASCII label does not begin
like an encoded one, for that has hyphens at the third and at the fourth
place, and an encoded label is read back.
-/

namespace RecordPlan.Name

open Unicode (isAscii Mapping)
open Unicode.Canonical (normalize normalize_of_ascii)

variable {c : Char} {label : List Char}

/-! ## Characters -/

/-- The characters of stored labels: small letters, digits and the
hyphen. -/
def IsStored (c : Char) : Prop :=
  (97 ≤ c.toNat ∧ c.toNat ≤ 122) ∨ (48 ≤ c.toNat ∧ c.toNat ≤ 57) ∨ c.toNat = 45

theorem isStored_iff : IsStored c ↔ c.isLower = true ∨ c.isDigit = true ∨ c = '-' := by
  unfold IsStored
  rw [Text.isLower_iff, Char.isDigit_iff_toNat, ← Char.toNat_inj]
  exact Iff.rfl

/-- A character is stored if the strict rule accepts it and it is ASCII. -/
theorem isStored_of_isHostCharacter (host : isHostCharacter c = true) (ascii : isAscii c = true) :
    IsStored c := by
  rw [isStored_iff]
  simpa [isHostCharacter, ascii, or_assoc] using host

namespace IsStored

theorem isAscii (h : IsStored c) : isAscii c = true := by
  unfold IsStored at h
  exact decide_eq_true (by omega)

theorem not_isUpper (h : IsStored c) : ¬ c.isUpper = true := by
  rw [Text.isUpper_iff]
  unfold IsStored at h
  omega

theorem toLower (h : IsStored c) : c.toLower = c :=
  Text.toLower_of_not_isUpper h.not_isUpper

/-- What is stored is none of the characters with other numbers. -/
theorem ne {d : Char} (h : IsStored c) (hd : ¬ IsStored d) : c ≠ d := by
  rintro rfl
  exact hd h

end IsStored

/-- A small character of ASCII stands for itself. -/
theorem image?_of_isAscii (ascii : isAscii c = true) (small : ¬ c.isUpper = true) :
    Mapping.image? c = some [c] := by
  unfold Mapping.image? Mapping.of
  rw [if_pos ascii, if_neg small]

/-! ## Forms of labels -/

/-- The characters of the form of a label. -/
theorem Punycode.mem_encode (h : c ∈ Punycode.encode label) :
    c ∈ label ∧ isAscii c = true ∨ IsStored c := by
  have digit (hc : c ∈ extension label) : IsStored c := by
    obtain ⟨v, hv, rfl⟩ := exists_of_mem_insertionDigits hc
    exact isStored_iff.2 ((isLower_or_isDigit_digitOf hv).imp_right .inl)
  by_cases basic : label.filter Unicode.isAscii = []
  · rw [encode_of_basic_eq_nil basic] at h
    exact .inr (digit h)
  · rw [encode_of_basic_ne_nil basic, List.mem_append, List.mem_cons] at h
    rcases h with ascii | rfl | hc
    · exact .inl (List.mem_filter.1 ascii)
    · exact .inr (isStored_iff.2 (.inr (.inr rfl)))
    · exact .inr (digit hc)

/-- What the strict rule asks of a label. -/
theorem Rule.admits_of_accepts (h : Rule.strict.accepts label = true) :
    (∀ c ∈ label, isHostCharacter c = true) ∧ hyphensWellPlaced label = true := by
  simp only [Rule.accepts, Rule.admits, Bool.and_eq_true, List.all_eq_true] at h
  exact h.1.1.1.1.1

/-- An accepted label stays as it is when it is prepared: its characters stand
for themselves, and it is in composed form. -/
theorem Rule.stays_of_accepts {rule : Rule} (h : rule.accepts label = true) :
    (∀ c ∈ label, Mapping.image? c = some [c]) ∧ normalize label = label := by
  simp only [Rule.accepts, Bool.and_eq_true, List.all_eq_true, beq_iff_eq] at h
  refine ⟨fun c hc => ?_, h.1.1.1.2⟩
  have valid : Mapping.of c = .valid := of_decide_eq_true (h.1.1.1.1.2 c hc)
  rw [Mapping.image?, valid]

/-- What the strict rule accepts, the lenient one accepts as well. -/
theorem Rule.accepts_of_strict (rule : Rule) (h : Rule.strict.accepts label = true) :
    rule.accepts label = true := by
  cases rule with
  | strict => exact h
  | lenient =>
    simp only [Rule.accepts, Bool.and_eq_true] at h ⊢
    exact ⟨⟨⟨⟨⟨rfl, h.1.1.1.1.2⟩, h.1.1.1.2⟩, h.1.1.2⟩, h.1.2⟩, h.2⟩

theorem isStored_of_accepts (h : Rule.strict.accepts label = true) (hc : c ∈ label)
    (ascii : isAscii c = true) : IsStored c :=
  isStored_of_isHostCharacter ((Rule.admits_of_accepts h).1 c hc) ascii

/-- **The ASCII form of an accepted label** consists of characters that can
be stored. -/
theorem isStored_of_mem_asciiLabel (h : Rule.strict.accepts label = true)
    (hc : c ∈ asciiLabel label) : IsStored c := by
  unfold asciiLabel at hc
  split at hc
  · next ascii => exact isStored_of_accepts h hc (List.all_eq_true.1 ascii c hc)
  · rw [List.mem_append] at hc
    rcases hc with mark | code
    · have marks : ∀ d ∈ encodedMark, IsStored d := by simp [encodedMark, IsStored]
      exact marks c mark
    · rcases Punycode.mem_encode code with ⟨mem, ascii⟩ | stored
      · exact isStored_of_accepts h mem ascii
      · exact stored

/-- An accepted label does not begin like an encoded one. -/
theorem not_isPrefixOf_of_accepts (h : Rule.strict.accepts label = true) :
    ¬ encodedMark.isPrefixOf label = true := by
  intro mark
  obtain ⟨rest, rfl⟩ := List.isPrefixOf_iff_prefix.1 mark
  have placed := (Rule.admits_of_accepts h).2
  simp [hyphensWellPlaced, encodedMark] at placed

/-- An accepted label is read as itself. -/
theorem unicodeLabel?_of_accepts (h : Rule.strict.accepts label = true) :
    unicodeLabel? .strict label = some label := by
  unfold unicodeLabel?
  rw [(Rule.stays_of_accepts h).2]
  dsimp only
  rw [if_neg (not_isPrefixOf_of_accepts h)]
  exact Option.filter_some_pos h

/-- The code of an accepted label, if it is not too long, is decoded. -/
theorem decodeLabel?_encode (h : Rule.strict.accepts label = true)
    (beyond : label.all isAscii = false) (short : (Punycode.encode label).length ≤ 63) :
    decodeLabel? (Punycode.encode label) = some label := by
  have stored (c : Char) (hc : c ∈ Punycode.encode label) : IsStored c := by
    rcases Punycode.mem_encode hc with ⟨mem, ascii⟩ | stored
    · exact isStored_of_accepts h mem ascii
    · exact stored
  have last := Punycode.getLast?_encode beyond
  have notEmpty : Punycode.encode label ≠ [] := by
    rw [← List.getLast?_isSome, last, List.getLast?_isSome]
    exact Punycode.extension_ne_nil beyond
  have notHyphen : (Punycode.encode label).getLast? ≠ some '-' := by
    rw [last]
    exact fun eq => Punycode.hyphen_not_mem_extension (List.mem_of_getLast? eq)
  unfold decodeLabel?
  rw [if_pos ⟨notEmpty, List.all_eq_true.2 fun c hc => (stored c hc).isAscii, notHyphen,
    Nat.le_trans short (by decide)⟩]
  refine Punycode.decode?_encode (fun c mem ascii => ?_)
    (Nat.le_trans Punycode.length_le_length_encode short)
  exact (isStored_of_accepts h mem ascii).toLower

/-- A label in ASCII is decoded if it begins like an encoded one. -/
theorem unicodeLabel?_of_ascii {rule : Rule} {text : List Char} (ascii : text.all isAscii = true) :
    unicodeLabel? rule text =
      (if encodedMark.isPrefixOf text then decodeLabel? (text.drop encodedMark.length)
        else some text).filter rule.accepts := by
  rw [unicodeLabel?, normalize_of_ascii ascii]

/-- **The ASCII form of an accepted label is read as that label**, under either
rule. -/
theorem unicodeLabel?_asciiLabel (rule : Rule) (h : Rule.strict.accepts label = true)
    (short : (asciiLabel label).length ≤ 63) :
    unicodeLabel? rule (asciiLabel label) = some label := by
  have ascii : (asciiLabel label).all isAscii = true :=
    List.all_eq_true.2 fun c hc => (isStored_of_mem_asciiLabel h hc).isAscii
  rw [unicodeLabel?_of_ascii ascii]
  unfold asciiLabel at short ⊢
  by_cases all : label.all isAscii = true
  · -- an accepted label is not taken for an encoded one
    rw [if_pos all, if_neg (not_isPrefixOf_of_accepts h)]
    exact Option.filter_some_pos (Rule.accepts_of_strict rule h)
  · rw [if_neg all] at short ⊢
    have code : (Punycode.encode label).length ≤ 63 := by
      rw [List.length_append] at short
      omega
    have mark : encodedMark.isPrefixOf (encodedMark ++ Punycode.encode label) = true :=
      List.isPrefixOf_iff_prefix.2 (List.prefix_append _ _)
    rw [if_pos mark, List.drop_left, decodeLabel?_encode h (by simpa using all) code]
    exact Option.filter_some_pos (Rule.accepts_of_strict rule h)

end RecordPlan.Name
