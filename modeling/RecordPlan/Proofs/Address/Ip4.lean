import RecordPlan.Address.Ip4
import RecordPlan.Proofs.Text.Part

/-!
# IPv4 addresses are read back

`Ip4.ofText?` reads what `Ip4.text` writes (`Ip4.ofText?_text`), for every
address, and nothing else (`Ip4.ofText?_eq_some_iff`). A text that may be an
address of any kind is read as an IPv4 address first, so the texts of the other
kinds must not be taken for one. An IPv4 address has a dot in it
(`Ip4.ofText?_of_no_dot`), and other than dots it has nothing but digits
(`Ip4.ofText?_of_mem`).
-/

namespace RecordPlan.Ip4

variable {a : Ip4} {t part : List Char} {c : Char} {o : BitVec 8}

/-- A number of an address is read back. -/
theorem octet?_decimalDigits (o : BitVec 8) : octet? (Text.decimalDigits o.toNat) = some o := by
  have length : (Text.decimalDigits o.toNat).length ≤ 3 :=
    (Nat.length_toDigits_le_iff (by decide) (by decide)).2 (by omega)
  have zeros : (Text.decimalDigits o.toNat).head? = some '0' →
      Text.decimalDigits o.toNat = ['0'] := by
    intro front
    rw [Text.eq_zero_of_head?_decimalDigits front]
    rfl
  rw [octet?, if_pos ⟨length, zeros⟩, Text.readDecimal?_decimalDigits, Option.bind_some,
    if_pos o.isLt, BitVec.ofNat_toNat, BitVec.setWidth_eq]

/-- The numbers of an address make up its bits. -/
theorem append_octets (x : BitVec 32) :
    x.extractLsb' 24 8 ++ x.extractLsb' 16 8 ++ x.extractLsb' 8 8 ++ x.extractLsb' 0 8 = x := by
  refine BitVec.eq_of_getLsbD_eq fun i hi => ?_
  simp only [BitVec.getLsbD_append, BitVec.getLsbD_extractLsb']
  grind

/-- The bits of an address are made up of its numbers. -/
theorem octets_append (a b c d : BitVec 8) : octets ⟨a ++ b ++ c ++ d⟩ = [a, b, c, d] := by
  simp only [octets, List.cons.injEq, and_true]
  refine ⟨?_, ?_, ?_, ?_⟩ <;> refine BitVec.eq_of_getLsbD_eq fun i hi => ?_ <;>
    simp only [BitVec.getLsbD_append, BitVec.getLsbD_extractLsb'] <;> grind

/-- A number of an address is written as it is read. -/
theorem decimalDigits_of_octet? (h : octet? part = some o) :
    Text.decimalDigits o.toNat = part := by
  unfold octet? at h
  split at h
  · next form =>
    obtain ⟨n, read, h⟩ := Option.bind_eq_some_iff.1 h
    split at h
    · next small =>
      obtain rfl := Option.some.inj h
      rw [BitVec.toNat_ofNat, Nat.mod_eq_of_lt small]
      exact Text.decimalDigits_of_readDecimal? read form.2
    · cases h
  · cases h

/-- **Every address is read back.** -/
theorem ofText?_text (a : Ip4) : ofText? a.text = some a := by
  have dot (o : BitVec 8) : '.' ∉ Text.decimalDigits o.toNat := fun h => by
    cases Text.isDigit_of_mem_decimalDigits h
  have parts : a.text.splitOn '.' = a.octets.map fun o => Text.decimalDigits o.toNat :=
    Text.splitOn_intercalate_map dot (List.cons_ne_nil _ _)
  rw [ofText?, parts, Text.mapM_map octet?_decimalDigits]
  exact congrArg (fun bits => some (mk bits)) (append_octets a.bits)

/-- **There is one text for each address.** -/
theorem ofText?_eq_some_iff : ofText? t = some a ↔ t = a.text := by
  refine ⟨fun h => ?_, fun eq => eq ▸ ofText?_text a⟩
  unfold ofText? at h
  split at h
  · next b₁ b₂ b₃ b₄ read =>
    obtain rfl := Option.some.inj h
    have parts : t.splitOn '.' = [b₁, b₂, b₃, b₄].map fun o => Text.decimalDigits o.toNat := by
      rw [← List.forall₂_eq_eq_eq, List.forall₂_map_right_iff]
      exact (Text.mapM_eq_some_iff_forall₂.1 read).imp fun _ _ h => (decimalDigits_of_octet? h).symm
    rw [text, octets_append, ← parts, List.intercalate_splitOn]
  · cases h

/-- The characters of an address are digits and dots. -/
theorem mem_text (h : c ∈ a.text) : c.isDigit = true ∨ c = '.' := by
  rcases Text.mem_intercalate_map h with rfl | ⟨o, -, digit⟩
  · exact .inr rfl
  · exact .inl (Text.isDigit_of_mem_decimalDigits digit)

/-! ## What is no IPv4 address -/

/-- A text that has not four parts is no IPv4 address. -/
theorem ofText?_of_length (h : (t.splitOn '.').length ≠ 4) : ofText? t = none := by
  rw [ofText?]
  split
  · next read =>
    have length := congrArg List.length (Text.mapM_eq_some_iff.1 read)
    rw [List.length_map] at length
    exact absurd length h
  · rfl

/-- A text without a dot is no IPv4 address. -/
theorem ofText?_of_no_dot (h : '.' ∉ t) : ofText? t = none := by
  refine ofText?_of_length ?_
  rw [List.splitOn_eq_singleton h, List.length_singleton]
  decide

/-- The numbers of an address consist of digits. -/
theorem isDigit_of_octet? (h : octet? part = some o) (hc : c ∈ part) : c.isDigit = true := by
  unfold octet? Text.readDecimal? at h
  split at h
  · split at h
    · next digits => exact List.all_eq_true.1 digits.2 c hc
    · cases h
  · cases h

/-- A text with any other character than digits and dots is no IPv4
address. -/
theorem ofText?_of_mem (h : c ∈ t) (digit : c.isDigit = false) (dot : c ≠ '.') :
    ofText? t = none := by
  have h : c ∈ List.intercalate ['.'] (t.splitOn '.') := by rwa [List.intercalate_splitOn]
  obtain rfl | ⟨part, there, inside⟩ := Text.mem_intercalate h
  · exact absurd rfl dot
  have unread (os : List (BitVec 8)) : (t.splitOn '.').mapM octet? ≠ some os := by
    intro read
    have numbers := Text.mapM_eq_some_iff.1 read
    obtain ⟨o, -, ho⟩ := List.mem_map.1 (numbers ▸ List.mem_map_of_mem there)
    rw [isDigit_of_octet? ho.symm inside] at digit
    cases digit
  rw [ofText?]
  split
  · next read => exact absurd read (unread _)
  · rfl

end RecordPlan.Ip4
