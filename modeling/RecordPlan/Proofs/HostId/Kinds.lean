import RecordPlan.Proofs.HostId.Basic
import RecordPlan.Proofs.HostId.LetterCase
import RecordPlan.Proofs.HostId.Mac

/-!
# What a text is before it is a host ID

A text may be an IPv4 address, an IPv6 address, an IPv6 address with a zone
behind it, or a MAC address. `HostText.IsSpelling` says which texts are which,
without any reader, and no text is two of them or one of them in two ways.

So it makes no difference in which order the readers are tried. One function
finds what a text is (`HostText.ofText?_eq_some_iff`), and `HostId.parse` makes
of a text what its kind and the prefix length say (`HostText.outcome`,
`HostId.parse_eq_outcome`), for every text that is not empty.
-/

namespace RecordPlan

/-! ## The texts of MAC addresses -/

namespace Mac

variable {m : Mac} {x : Char} {s t ds es : List Char} {count size : Nat}

/-- **A way to write a MAC address**: one of its spellings, in any letter
case. -/
def IsSpelling (m : Mac) (t : List Char) : Prop :=
  ∃ s ∈ m.spellings, Text.sameButCase t s = true

/-- The groups of a text are of the same size. -/
theorem IsGrouped.map_length (h : IsGrouped x count size t) :
    (t.splitOn x).map List.length = List.replicate count size := by
  rw [List.eq_replicate_iff, List.length_map]
  refine ⟨h.1, fun k hk => ?_⟩
  obtain ⟨g, hg, rfl⟩ := List.mem_map.1 hk
  exact (h.2 g hg).1

/-- A text is known by its digits, if it is known how they are grouped. -/
theorem eq_of_digits? (ht : digits? x count size t = some ds)
    (hs : digits? x count size s = some ds) : t = s := by
  obtain ⟨groupedT, flatT⟩ := digits?_eq_some_iff.1 ht
  obtain ⟨groupedS, flatS⟩ := digits?_eq_some_iff.1 hs
  have groups : t.splitOn x = s.splitOn x :=
    List.eq_iff_flatten_eq.2 ⟨flatT.trans flatS.symm,
      groupedT.map_length.trans groupedS.map_length.symm⟩
  calc t = List.intercalate [x] (t.splitOn x) := (List.intercalate_splitOn x).symm
    _ = List.intercalate [x] (s.splitOn x) := by rw [groups]
    _ = s := List.intercalate_splitOn x

/-- There are as many digits as the groups hold. -/
theorem length_of_digits? (h : digits? x count size t = some ds) : ds.length = count * size := by
  obtain ⟨grouped, rfl⟩ := digits?_eq_some_iff.1 h
  rw [List.length_flatten, grouped.map_length, List.sum_replicate_nat]

theorem isHexDigit_of_digits? (h : digits? x count size t = some ds) :
    ∀ c ∈ ds, Text.isHexDigit c = true := by
  obtain ⟨grouped, rfl⟩ := digits?_eq_some_iff.1 h
  intro c hc
  obtain ⟨g, hg, inside⟩ := List.mem_flatten.1 hc
  exact (grouped.2 g hg).2 c inside

/-- **Texts with the same number** and the same groups differ in letter case at
most. -/
theorem sameButCase_of_digits? (separator : x.isAlpha = false)
    (ht : digits? x count size t = some ds) (hs : digits? x count size s = some es)
    (number : Text.hexNumber ds = Text.hexNumber es) : Text.sameButCase t s = true := by
  have length : ds.length = es.length := (length_of_digits? ht).trans (length_of_digits? hs).symm
  have small : ds.map Char.toLower = es.map Char.toLower :=
    Text.map_toLower_eq_of_hexNumber (isHexDigit_of_digits? ht) (isHexDigit_of_digits? hs) length
      number
  have lowerT : digits? x count size (t.map Char.toLower) = some (es.map Char.toLower) := by
    rw [digits?_map_toLower separator, ht, Option.map_some, small]
  have lowerS : digits? x count size (s.map Char.toLower) = some (es.map Char.toLower) := by
    rw [digits?_map_toLower separator, hs, Option.map_some]
  exact beq_iff_eq.2 (eq_of_digits? lowerT lowerS)

/-- **The texts that are read as a MAC address** are the ways to write it. -/
theorem ofText?_eq_some_iff : ofText? t = some m ↔ m.IsSpelling t := by
  constructor
  · intro h
    obtain ⟨ds, read, rfl⟩ := Option.map_eq_some_iff.1 h
    -- twelve digits fill the 48 bits, so that their number is not cut off
    have number {x : Char} {count size : Nat} (h : digits? x count size t = some ds)
        (twelve : count * size = 12) :
        Text.hexNumber ds =
          Text.hexNumber ((mk (BitVec.ofNat 48 (Text.hexNumber ds))).bytes.map pair).flatten := by
      have lt : Text.hexNumber ds < 2 ^ 48 := by
        have digits := Text.hexNumber_lt (isHexDigit_of_digits? h)
        rwa [length_of_digits? h, twelve] at digits
      rw [hexNumber_bytes, BitVec.toNat_ofNat, Nat.mod_eq_of_lt lt]
    obtain ⟨colons, hyphens, dots⟩ :=
      digits?_spellings (mk (BitVec.ofNat 48 (Text.hexNumber ds)))
    simp only [Option.orElse_eq_orElse, Option.orElse_eq_or, Option.or_eq_some_iff] at read
    rcases read with h | ⟨-, h | ⟨-, h⟩⟩
    · exact ⟨_, by simp [spellings], sameButCase_of_digits? rfl h colons (number h rfl)⟩
    · exact ⟨_, by simp [spellings], sameButCase_of_digits? rfl h hyphens (number h rfl)⟩
    · exact ⟨_, by simp [spellings], sameButCase_of_digits? rfl h dots (number h rfl)⟩
  · rintro ⟨s, spelling, same⟩
    rw [ignoresCase_ofText?.eq_of_sameButCase same, ofText?_of_mem_spellings spelling]

/-- **The text of a MAC address** is one of the ways to write it. -/
theorem isSpelling_text (m : Mac) : m.IsSpelling m.text :=
  ofText?_eq_some_iff.1 (ofText?_text m)

end Mac

/-! ## Kinds of text -/

/-- **What a text may be**, and for what. -/
inductive HostText where
  /-- An IPv4 address. -/
  | ip4 (address : Ip4)
  /-- An IPv6 address. -/
  | ip6 (address : Ip6)
  /-- An IPv6 address with a zone. -/
  | zoned (address : Ip6)
  /-- A MAC address. -/
  | mac (mac : Mac)
  deriving DecidableEq

namespace HostText

variable {k : HostText} {a : Ip6} {v4 : Ip4} {m : Mac} {t : List Char}

/-- **The texts that are so.** There is one for each IPv4 address. What stands
behind the first `%` is the zone, whatever it is. -/
def IsSpelling : HostText → List Char → Prop
  | ip4 a, t => t = a.text
  | ip6 a, t => a.IsSpelling t
  | zoned a, t => ∃ front zone, t = front ++ '%' :: zone ∧ '%' ∉ front ∧ a.IsSpelling front
  | mac m, t => m.IsSpelling t

/-- The IPv6 address before the first `%` of a text. -/
def zonedIp6? (t : List Char) : Option Ip6 :=
  if '%' ∈ t then Ip6.ofText? (t.takeWhile (· != '%')) else none

/-- What a text is, found in the order in which it is read. -/
def ofText? (t : List Char) : Option HostText :=
  (Ip4.ofText? t).map ip4 <|> (Ip6.ofText? t).map ip6 <|> (zonedIp6? t).map zoned <|>
    (Mac.ofText? t).map mac

theorem zonedIp6?_eq_some_iff : zonedIp6? t = some a ↔ (zoned a).IsSpelling t := by
  -- all of the text before a percent sign is taken, if there is none in it
  have front {u v : List Char} (absent : '%' ∉ u) :
      (u ++ '%' :: v).takeWhile (· != '%') = u := by
    have before (c : Char) (hc : c ∈ u) : (c != '%') = true :=
      bne_iff_ne.2 fun eq => absent (eq ▸ hc)
    rw [List.takeWhile_append_of_pos before, List.takeWhile_cons_of_neg (by decide),
      List.append_nil]
  rw [zonedIp6?]
  split
  · next percent =>
    obtain ⟨u, v, rfl, absent⟩ := List.eq_append_cons_of_mem percent
    rw [front absent, Ip6.ofText?_eq_some_iff]
    refine ⟨fun h => ⟨u, v, rfl, absent, h⟩, ?_⟩
    rintro ⟨u', v', eq, absent', h⟩
    rwa [← front absent, eq, front absent']
  · next noPercent =>
    refine iff_of_false nofun ?_
    rintro ⟨u, v, rfl, -⟩
    exact noPercent (List.mem_append_right u List.mem_cons_self)

/-- A text with a percent sign in it is no address. -/
theorem ofText?_of_percent (h : '%' ∈ t) :
    Ip4.ofText? t = none ∧ Ip6.ofText? t = none ∧ Mac.ofText? t = none := by
  refine ⟨Ip4.ofText?_of_mem h rfl (by decide), ?_, ?_⟩
  · rw [Option.eq_none_iff_forall_ne_some]
    exact fun a read => absurd ((Ip6.ofText?_eq_some_iff.1 read).mem h) (by decide)
  · rw [Option.eq_none_iff_forall_ne_some]
    exact fun m read => absurd (Mac.mem_of_ofText? read h) (by decide)

theorem ofText?_of_isSpelling (h : k.IsSpelling t) : ofText? t = some k := by
  cases k with
  | ip4 a =>
    rw [ofText?, Ip4.ofText?_eq_some_iff.2 h]
    rfl
  | ip6 a =>
    have noIp4 : Ip4.ofText? t = none :=
      Ip4.ofText?_of_mem (Ip6.IsSpelling.colon_mem h) rfl (by decide)
    rw [ofText?, noIp4, Ip6.ofText?_eq_some_iff.2 h]
    rfl
  | zoned a =>
    have percent : '%' ∈ t := by
      obtain ⟨front, zone, rfl, -⟩ := h
      exact List.mem_append_right front List.mem_cons_self
    obtain ⟨noIp4, noIp6, -⟩ := ofText?_of_percent percent
    rw [ofText?, noIp4, noIp6, zonedIp6?_eq_some_iff.2 h]
    rfl
  | mac m =>
    have isMac : Mac.ofText? t = some m := Mac.ofText?_eq_some_iff.2 h
    have noZone : zonedIp6? t = none := by
      refine if_neg fun percent => ?_
      rw [(ofText?_of_percent percent).2.2] at isMac
      cases isMac
    rw [ofText?, Mac.ip4OfText?_eq_none isMac, Mac.ip6OfText?_eq_none isMac, noZone, isMac]
    rfl

/-- **What a text is** does not depend on the order in which it is read. -/
theorem ofText?_eq_some_iff : ofText? t = some k ↔ k.IsSpelling t := by
  refine ⟨fun h => ?_, ofText?_of_isSpelling⟩
  simp only [ofText?, Option.orElse_eq_orElse, Option.orElse_eq_or, Option.or_eq_some_iff,
    Option.map_eq_some_iff] at h
  rcases h with ⟨a, read, rfl⟩ | ⟨-, ⟨a, read, rfl⟩ | ⟨-, ⟨a, read, rfl⟩ | ⟨-, m, read, rfl⟩⟩⟩
  · exact Ip4.ofText?_eq_some_iff.1 read
  · exact Ip6.ofText?_eq_some_iff.1 read
  · exact zonedIp6?_eq_some_iff.1 read
  · exact Mac.ofText?_eq_some_iff.1 read

/-- The empty text is of no kind. -/
theorem not_isSpelling_nil (k : HostText) : ¬ k.IsSpelling [] := by
  have nothing : ofText? [] = none := rfl
  rw [← ofText?_eq_some_iff, nothing]
  nofun

/-- **No text is of two kinds**, or of one kind for two reasons. -/
theorem IsSpelling.unique {k' : HostText} (h : k.IsSpelling t) (h' : k'.IsSpelling t) : k = k' :=
  Option.some.inj ((ofText?_eq_some_iff.2 h).symm.trans (ofText?_eq_some_iff.2 h'))

/-! ## What is made of a text -/

/-- What is made of a text of a kind, for networks of a prefix length. -/
def outcome (n : UInt8) : HostText → Except HostIdError (Option HostId)
  | ip4 a => .error (.ip4Address a)
  | ip6 a => if 128 < n then .error (.invalidPrefixLength n) else .ok (some (.suffix a n))
  | zoned _ => .error .hasZone
  | mac m => if maxMacPrefixLen < n then .error (.subnetTooSmall n) else .ok (some (.mac m))

end HostText

namespace HostId

theorem hasZone_eq (t : List Char) : hasZone t = (HostText.zonedIp6? t).isSome := by
  rw [hasZone, HostText.zonedIp6?]
  split
  · next percent => rw [List.contains_iff_mem.2 percent, Bool.true_and]
  · next noPercent =>
    rw [← List.contains_iff_mem, Bool.not_eq_true] at noPercent
    rw [noPercent]
    rfl

/-- **What is made of a text** that is not empty is what is made of its
kind. -/
theorem parse_eq_outcome {raw : String} (ne : raw ≠ "") (n : UInt8) :
    parse raw n = (HostText.ofText? raw.toList).elim (.error .notHostId) (HostText.outcome n) := by
  have filled : raw.toList ≠ [] := mt String.toList_eq_nil_iff.1 ne
  rw [parse, HostText.ofText?, if_neg filled, hasZone_eq]
  cases Ip4.ofText? raw.toList with
  | some a => rfl
  | none =>
    cases Ip6.ofText? raw.toList with
    | some a => rfl
    | none =>
      cases HostText.zonedIp6? raw.toList with
      | some a => rfl
      | none => cases Mac.ofText? raw.toList <;> rfl

/-- A text of a kind is made what its kind says. -/
theorem parse_of_isSpelling {raw : String} {k : HostText} (h : k.IsSpelling raw.toList)
    (n : UInt8) : parse raw n = k.outcome n := by
  have ne : raw ≠ "" := by
    rintro rfl
    exact k.not_isSpelling_nil h
  rw [parse_eq_outcome ne, HostText.ofText?_of_isSpelling h, Option.elim_some]

/-- **Every text is classified in one way.** No text is of two kinds, nor of one
kind for two reasons. An IPv6 address is a host part for the prefix length that
it was read against, if there is such a length; a MAC address is one if there
is room for it; an IPv4 address and an address with a zone are rejected for
every length, and so is every text that is of no kind, unless it is empty.
Whatever is read as a host ID has an address in every network of that length. -/
theorem texts_are_of_one_kind :
    (∀ (t : List Char) (k k' : HostText), k.IsSpelling t → k'.IsSpelling t → k = k') ∧
    ∀ (raw : String) (n : UInt8),
      (parse raw n = .ok none ↔ raw = "") ∧
      (∀ a l, parse raw n = .ok (some (suffix a l)) ↔
        (HostText.ip6 a).IsSpelling raw.toList ∧ l = n ∧ n ≤ 128) ∧
      (∀ l, parse raw n = .error (.invalidPrefixLength l) ↔
        (∃ a, (HostText.ip6 a).IsSpelling raw.toList) ∧ l = n ∧ 128 < n) ∧
      (∀ m, parse raw n = .ok (some (mac m)) ↔
        (HostText.mac m).IsSpelling raw.toList ∧ n ≤ 64) ∧
      (∀ l, parse raw n = .error (.subnetTooSmall l) ↔
        (∃ m, (HostText.mac m).IsSpelling raw.toList) ∧ l = n ∧ 64 < n) ∧
      (∀ a, parse raw n = .error (.ip4Address a) ↔ (HostText.ip4 a).IsSpelling raw.toList) ∧
      (parse raw n = .error .hasZone ↔ ∃ a, (HostText.zoned a).IsSpelling raw.toList) ∧
      (parse raw n = .error .notHostId ↔
        raw ≠ "" ∧ ∀ k : HostText, ¬ k.IsSpelling raw.toList) ∧
      ∀ h, parse raw n = .ok (some h) →
        ∀ network : Network, network.length = n → (h.inNetwork? network).isSome = true := by
  refine ⟨fun t k k' => HostText.IsSpelling.unique, fun raw n => ?_⟩
  have combined (h : HostId) (parsed : parse raw n = .ok (some h)) (network : Network)
      (length : network.length = n) : (h.inNetwork? network).isSome = true :=
    isSome_inNetwork?_iff.2 (length ▸ fits_of_parse parsed)
  simp only [and_iff_left combined]
  -- in each case it is known what is made of the text, and so what is not
  by_cases empty : raw = ""
  · subst empty
    have parsed : parse "" n = .ok none := rfl
    simp [parsed, HostText.not_isSpelling_nil]
  cases found : HostText.ofText? raw.toList with
  | none =>
    have parsed : parse raw n = .error .notHostId := by
      rw [parse_eq_outcome empty, found, Option.elim_none]
    have nothing (k : HostText) : ¬ k.IsSpelling raw.toList := by
      rw [← HostText.ofText?_eq_some_iff, found]
      nofun
    simp [parsed, nothing, empty]
  | some k =>
    have parsed := parse_of_isSpelling (HostText.ofText?_eq_some_iff.1 found) n
    have only (k' : HostText) : k'.IsSpelling raw.toList ↔ k = k' := by
      rw [← HostText.ofText?_eq_some_iff, found, Option.some.injEq]
    cases k with
    | ip4 a => simp [parsed, HostText.outcome, only, empty]
    | ip6 a =>
      rw [HostText.outcome] at parsed
      split at parsed
      · next long => simp [parsed, only, empty, long, @eq_comm _ n]
      · next short => simp [parsed, only, empty, short, UInt8.not_lt.1 short, @eq_comm _ n]
    | zoned a => simp [parsed, HostText.outcome, only, empty]
    | mac m =>
      rw [HostText.outcome, maxMacPrefixLen] at parsed
      split at parsed
      · next long => simp [parsed, only, empty, long, @eq_comm _ n]
      · next short => simp [parsed, only, empty, short, UInt8.not_lt.1 short]

/-- An address that ends in dotted form, an address with a zone, and a MAC
address with dots. -/
theorem dotted_texts_are_classified :
    let a : Ip6 := ⟨0xFFFF01020304#128⟩
    let m : Mac := ⟨0x5E005301#48⟩
    let network : Network := ⟨⟨0x20010DB8#128 <<< 96⟩, 60, by decide⟩
    (∀ k : HostText, k.IsSpelling "::ffff:1.2.3.4".toList → k = .ip6 a) ∧
      parse "::ffff:1.2.3.4" 128 = .ok (some (suffix a 128)) ∧
      parse "::ffff:1.2.3.4" 129 = .error (.invalidPrefixLength 129) ∧
      parse "fe80::1%eth0" 255 = .error .hasZone ∧
      parse "0000.5E00.5301" 65 = .error (.subnetTooSmall 65) ∧
      parse "0000.5E00.5301" 60 = .ok (some (mac m)) ∧
      ((mac m).inNetwork? network).isSome = true := by
  intro a m network
  obtain ⟨unique, made⟩ := texts_are_of_one_kind
  have isIp6 : (HostText.ip6 a).IsSpelling "::ffff:1.2.3.4".toList :=
    HostText.ofText?_eq_some_iff.1 (by decide)
  have isZoned : (HostText.zoned ⟨0xFE80#128 <<< 112 ||| 1⟩).IsSpelling "fe80::1%eth0".toList :=
    HostText.ofText?_eq_some_iff.1 (by decide)
  have isMac : (HostText.mac m).IsSpelling "0000.5E00.5301".toList :=
    HostText.ofText?_eq_some_iff.1 (by decide)
  obtain ⟨-, suffixes, -⟩ := made "::ffff:1.2.3.4" 128
  obtain ⟨-, -, tooLong, -⟩ := made "::ffff:1.2.3.4" 129
  obtain ⟨-, -, -, -, -, -, zones, -⟩ := made "fe80::1%eth0" 255
  obtain ⟨-, -, -, -, tooSmall, -⟩ := made "0000.5E00.5301" 65
  obtain ⟨-, -, -, macs, -, -, -, -, combined⟩ := made "0000.5E00.5301" 60
  have parsed : parse "0000.5E00.5301" 60 = .ok (some (mac m)) := (macs m).2 ⟨isMac, by decide⟩
  exact ⟨fun k is => unique _ _ _ is isIp6, (suffixes a 128).2 ⟨isIp6, rfl, by decide⟩,
    (tooLong 129).2 ⟨⟨a, isIp6⟩, rfl, by decide⟩, zones.2 ⟨_, isZoned⟩,
    (tooSmall 65).2 ⟨⟨m, isMac⟩, rfl, by decide⟩, parsed, combined _ parsed network rfl⟩

end HostId

end RecordPlan
