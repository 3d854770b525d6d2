import RecordPlan.Proofs.Address.Ip6
import RecordPlan.HostId.Mac

/-!
# MAC addresses are read back

A text is read as a MAC address if it consists of groups of hexadecimal digits
with one separator between them (`Mac.isGrouped_of_ofText?`), whatever it is
that the digits denote. Such a text is no IP address of any kind
(`Mac.ip4OfText?_eq_none`, `Mac.ip6OfText?_eq_none`): with colons between them
there are too few groups for an IPv6 address that leaves none of them out, with
dots there are too few for an IPv4 address, and neither has hyphens.

There are three ways to write a MAC address (`Mac.spellings`), of which
`Mac.text` is one. All of them are read back (`Mac.ofText?_of_mem_spellings`).
-/

namespace RecordPlan.Mac

variable {m : Mac} {c x : Char} {t : List Char} {count size : Nat}

/-! ## Bytes and their digits -/

theorem isHexDigit_of_mem_pair {b : BitVec 8} (h : c ∈ pair b) : Text.isHexDigit c = true := by
  have high : b.toNat / 16 < 16 := by omega
  have low : b.toNat % 16 < 16 := by omega
  rcases List.mem_cons.1 h with rfl | h
  · exact Text.isHexDigit_digitChar high
  · obtain rfl := List.mem_singleton.1 h
    exact Text.isHexDigit_digitChar low

theorem hexNumber_append_pair (ds : List Char) (b : BitVec 8) :
    Text.hexNumber (ds ++ pair b) = 256 * Text.hexNumber ds + b.toNat := by
  have high : b.toNat / 16 < 16 := by omega
  have low : b.toNat % 16 < 16 := by omega
  rw [pair, List.append_cons, Text.hexNumber_append_digitChar _ low,
    Text.hexNumber_append_digitChar _ high]
  omega

/-- Bytes are read one behind the other. -/
theorem hexNumber_append_pairs (ds : List Char) (bs : List (BitVec 8)) :
    Text.hexNumber (ds ++ (bs.map pair).flatten) =
      bs.foldl (fun n b => 256 * n + b.toNat) (Text.hexNumber ds) := by
  induction bs generalizing ds with
  | nil => rw [List.map_nil, List.flatten_nil, List.append_nil, List.foldl_nil]
  | cons b bs ih =>
    rw [List.map_cons, List.flatten_cons, ← List.append_assoc, ih, hexNumber_append_pair,
      List.foldl_cons]

/-- The digits of a MAC address denote its bits. -/
theorem hexNumber_bytes (m : Mac) : Text.hexNumber (m.bytes.map pair).flatten = m.bits.toNat := by
  have none : Text.hexNumber [] = 0 := rfl
  have lt := m.bits.isLt
  refine (hexNumber_append_pairs [] m.bytes).trans ?_
  simp only [bytes, none, List.foldl_cons, List.foldl_nil, BitVec.extractLsb'_toNat,
    Nat.shiftRight_eq_div_pow]
  omega

/-! ## Groups of digits -/

/-- **Whether a text consists of groups of digits**, so many of such a size, with
a separator between them. -/
def IsGrouped (x : Char) (count size : Nat) (t : List Char) : Prop :=
  (t.splitOn x).length = count ∧
    ∀ g ∈ t.splitOn x, g.length = size ∧ ∀ c ∈ g, Text.isHexDigit c = true

theorem digits?_eq_some_iff {ds : List Char} :
    digits? x count size t = some ds ↔ IsGrouped x count size t ∧ (t.splitOn x).flatten = ds := by
  have form : ((t.splitOn x).length = count ∧
      ((t.splitOn x).all fun g => g.length == size && g.all Text.isHexDigit) = true) ↔
        IsGrouped x count size t := by
    simp [IsGrouped, List.all_eq_true]
  unfold digits?
  dsimp only
  split
  · next grouped => rw [and_iff_right (form.1 grouped), Option.some.injEq]
  · next ungrouped => exact iff_of_false nofun fun h => ungrouped (form.2 h.1)

namespace IsGrouped

/-- Such a text consists of digits and separators. -/
theorem mem (h : IsGrouped x count size t) (hc : c ∈ t) : Text.isHexDigit c = true ∨ c = x := by
  have hc : c ∈ List.intercalate [x] (t.splitOn x) := by rwa [List.intercalate_splitOn]
  obtain separator | ⟨g, hg, inside⟩ := Text.mem_intercalate hc
  · exact .inr separator
  · exact .inl ((h.2 g hg).2 c inside)

/-- There is a separator in it if there is more than one group. -/
theorem separator_mem (h : IsGrouped x count size t) (many : 2 ≤ count) : x ∈ t := by
  refine Decidable.byContradiction fun absent => ?_
  have one := h.1
  rw [List.splitOn_eq_singleton absent, List.length_singleton] at one
  omega

end IsGrouped

/-- The forms of a MAC address. -/
theorem isGrouped_of_ofText? (h : ofText? t = some m) :
    IsGrouped ':' 6 2 t ∨ IsGrouped '-' 6 2 t ∨ IsGrouped '.' 3 4 t := by
  rw [ofText?, Option.map_eq_some_iff] at h
  obtain ⟨ds, read, -⟩ := h
  simp only [Option.orElse_eq_orElse, Option.orElse_eq_or, Option.or_eq_some_iff,
    digits?_eq_some_iff] at read
  exact read.imp And.left fun later => later.2.imp And.left fun last => last.2.1

/-! ## What is a MAC address is nothing else -/

/-- **A MAC address is no IPv4 address.** -/
theorem ip4OfText?_eq_none (h : ofText? t = some m) : Ip4.ofText? t = none := by
  rcases isGrouped_of_ofText? h with colons | hyphens | dots
  · exact Ip4.ofText?_of_mem (colons.separator_mem (by decide)) rfl (by decide)
  · exact Ip4.ofText?_of_mem (hyphens.separator_mem (by decide)) rfl (by decide)
  · exact Ip4.ofText?_of_length (by rw [dots.1]; decide)

/-- **A MAC address is no IPv6 address.** -/
theorem ip6OfText?_eq_none (h : ofText? t = some m) : Ip6.ofText? t = none := by
  have apart {x : Char} {count size : Nat} (grouped : IsGrouped x count size t)
      (other : ¬ (Text.isHexDigit ':' = true ∨ ':' = x)) : Ip6.ofText? t = none := by
    have noColon : ':' ∉ t := mt grouped.mem other
    refine Ip6.ofText?_of_few_parts (Ip6.splitGap?_of_not_mem noColon) ?_
    rw [List.splitOn_eq_singleton noColon, List.length_singleton]
    decide
  rcases isGrouped_of_ofText? h with colons | hyphens | dots
  · refine Ip6.ofText?_of_few_parts ?_ (Nat.le_of_eq colons.1)
    have filled : ∀ g ∈ t.splitOn ':', g ≠ [] ∧ ':' ∉ g := by
      intro g hg
      obtain ⟨length, digits⟩ := colons.2 g hg
      refine ⟨fun empty => ?_, fun colon => absurd (digits _ colon) (by decide)⟩
      rw [empty] at length
      cases length
    have gap := Ip6.splitGap?_intercalate_append filled []
    rwa [List.intercalate_splitOn, List.append_nil] at gap
  · exact apart hyphens (by decide)
  · exact apart dots (by decide)

/-- A text that denotes a MAC address consists of digits and separators. -/
theorem mem_of_ofText? (h : ofText? t = some m) (hc : c ∈ t) :
    Text.isHexDigit c = true ∨ c = ':' ∨ c = '-' ∨ c = '.' := by
  rcases isGrouped_of_ofText? h with colons | hyphens | dots
  · exact (colons.mem hc).imp_right .inl
  · exact (hyphens.mem hc).imp_right fun eq => .inr (.inl eq)
  · exact (dots.mem hc).imp_right fun eq => .inr (.inr eq)

/-! ## Spellings -/

/-- The spelling with hyphens. -/
def dashed (m : Mac) : List Char := List.intercalate ['-'] (m.bytes.map pair)

/-- The spelling with dots. -/
def dotted (m : Mac) : List Char :=
  List.intercalate ['.'] ([0, 2, 4].map fun i => ((m.bytes.drop i).take 2).flatMap pair)

/-- **The spellings of a MAC address** in small letters. -/
def spellings (m : Mac) : List (List Char) := [m.text, m.dashed, m.dotted]

/-- Groups of digits are taken apart. -/
theorem digits?_intercalate {gs : List (List Char)} (ne : gs ≠ [])
    (separator : Text.isHexDigit x = false)
    (groups : ∀ g ∈ gs, g.length = size ∧ ∀ c ∈ g, Text.isHexDigit c = true) :
    digits? x gs.length size (List.intercalate [x] gs) = some gs.flatten := by
  have split : (List.intercalate [x] gs).splitOn x = gs := by
    refine List.splitOn_intercalate x (fun g hg there => ?_) ne
    rw [(groups g hg).2 x there] at separator
    cases separator
  rw [digits?_eq_some_iff, IsGrouped, split]
  exact ⟨⟨rfl, groups⟩, rfl⟩

/-- A text without the separator is one group. -/
theorem digits?_of_not_mem (h : x ∉ t) (many : 2 ≤ count) : digits? x count size t = none := by
  rw [Option.eq_none_iff_forall_ne_some]
  intro ds read
  exact h ((digits?_eq_some_iff.1 read).1.separator_mem many)

/-- The digits of a MAC address, in the groups of each spelling. -/
theorem digits?_spellings (m : Mac) :
    digits? ':' 6 2 m.text = some (m.bytes.map pair).flatten ∧
      digits? '-' 6 2 m.dashed = some (m.bytes.map pair).flatten ∧
      digits? '.' 3 4 m.dotted = some (m.bytes.map pair).flatten := by
  have ne : m.bytes.map pair ≠ [] := List.cons_ne_nil _ _
  have pairs : ∀ g ∈ m.bytes.map pair, g.length = 2 ∧ ∀ c ∈ g, Text.isHexDigit c = true := by
    intro g hg
    obtain ⟨b, -, rfl⟩ := List.mem_map.1 hg
    exact ⟨rfl, fun c => isHexDigit_of_mem_pair⟩
  have quads : ∀ g ∈ [0, 2, 4].map fun i => ((m.bytes.drop i).take 2).flatMap pair,
      g.length = 4 ∧ ∀ c ∈ g, Text.isHexDigit c = true := by
    intro g hg
    obtain ⟨i, hi, rfl⟩ := List.mem_map.1 hg
    refine ⟨?_, fun c hc => ?_⟩
    · have lengths : ∀ i ∈ [0, 2, 4], (((m.bytes.drop i).take 2).flatMap pair).length = 4 := by
        simp only [List.forall_mem_cons]
        exact ⟨rfl, rfl, rfl, List.forall_mem_nil _⟩
      exact lengths i hi
    · obtain ⟨b, -, inside⟩ := List.mem_flatMap.1 hc
      exact isHexDigit_of_mem_pair inside
  exact ⟨digits?_intercalate ne rfl pairs, digits?_intercalate ne rfl pairs,
    digits?_intercalate (List.cons_ne_nil _ _) rfl quads⟩

/-- **Every spelling is read back.** -/
theorem ofText?_of_mem_spellings (h : t ∈ m.spellings) : ofText? t = some m := by
  obtain ⟨colons, hyphens, dots⟩ := digits?_spellings m
  have value : some (mk (BitVec.ofNat 48 (Text.hexNumber (m.bytes.map pair).flatten))) =
      some m := by
    rw [hexNumber_bytes, BitVec.ofNat_toNat, BitVec.setWidth_eq]
  -- the forms are tried one after the other, so the earlier ones must fail
  have absent {x y : Char} {count size : Nat} {t ds : List Char}
      (read : digits? x count size t = some ds) (other : ¬ (Text.isHexDigit y = true ∨ y = x)) :
      digits? y 6 2 t = none :=
    digits?_of_not_mem (mt (digits?_eq_some_iff.1 read).1.mem other) (by decide)
  simp only [spellings, List.mem_cons, List.not_mem_nil, or_false] at h
  rw [← value]
  rcases h with rfl | rfl | rfl
  · rw [ofText?, colons]
    rfl
  · rw [ofText?, absent hyphens (by decide), hyphens]
    rfl
  · rw [ofText?, absent dots (by decide), absent dots (by decide), dots]
    rfl

theorem ofText?_text (m : Mac) : ofText? m.text = some m :=
  ofText?_of_mem_spellings List.mem_cons_self

/-! ## The characters of a MAC address -/

/-- A MAC address consists of digits and colons. -/
theorem mem_text (h : c ∈ m.text) : Text.isHexDigit c = true ∨ c = ':' :=
  (digits?_eq_some_iff.1 (digits?_spellings m).1).1.mem h

/-- A MAC address has a colon in it. -/
theorem colon_mem_text (m : Mac) : ':' ∈ m.text :=
  Text.separator_mem_intercalate _ _ _

end RecordPlan.Mac
