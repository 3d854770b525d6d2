import RecordPlan.Proofs.Address.Ip6
import RecordPlan.Proofs.Address.Octets
import RecordPlan.Proofs.HostId.Basic

/-!
# Interface identifiers as host parts

The interface identifier of a MAC address is the host part of an address whose
first eight bytes are empty (`Mac.expanded`), and so a MAC address is one way
to write a host part: in every network that leaves room for it, both give the
same address (`HostId.inNetwork?_mac_eq_suffix`). The two are not computed in
the same way. One puts the identifier in the place of the last 64 bits, the
other fills the empty ones among them, and that is the same because a network
that leaves room is empty there.

The MAC address can be read back from any address that it gives
(`Mac.ofAddress_append_interfaceId`), so no two of them share one.
-/

namespace RecordPlan

namespace Mac

variable {m : Mac} {s : Nat}

/-- **The bytes that an interface identifier fills an address with**: eight
empty ones, and the two halves of the MAC address around a mark, with one bit
turned over. -/
def expandedBytes (m : Mac) : List (BitVec 8) :=
  List.replicate 8 0 ++ (m.bytes.take 3).modifyHead (· ^^^ 0x02) ++
    0xFF :: 0xFE :: m.bytes.drop 3

/-- The address with an interface identifier and nothing before it. -/
def expanded (m : Mac) : Ip6 := ⟨0#64 ++ m.interfaceId⟩

/-- The MAC address whose interface identifier an address ends with. -/
def ofAddress (a : Ip6) : Mac :=
  ⟨(a.bits.extractLsb' 40 24 ^^^ 0x020000#24) ++ a.bits.extractLsb' 0 24⟩

/-! ## The parts of an interface identifier -/

theorem extractLsb'_interfaceId_low {k : Nat} (h : s + k ≤ 24) :
    m.interfaceId.extractLsb' s k = m.bits.extractLsb' s k := by
  have low : m.interfaceId.extractLsb' s k = (m.bits.extractLsb' 0 24).extractLsb' s k :=
    BitVec.extractLsb'_append_eq_of_add_le h
  rw [low, Ip6.extractLsb'_extractLsb' _ h, Nat.zero_add]

theorem extractLsb'_interfaceId_mark {k : Nat} (h : s + k ≤ 16) :
    m.interfaceId.extractLsb' (24 + s) k = (0xFFFE#16).extractLsb' s k := by
  have front : m.interfaceId.extractLsb' (24 + s) k =
      ((m.bits.extractLsb' 24 24 ^^^ 0x020000#24) ++ 0xFFFE#16).extractLsb' (24 + s - 24) k :=
    BitVec.extractLsb'_append_eq_of_le (by omega)
  rw [front, Nat.add_sub_cancel_left, BitVec.extractLsb'_append_eq_of_add_le h]

theorem extractLsb'_interfaceId_high {k : Nat} (h : s + k ≤ 24) :
    m.interfaceId.extractLsb' (40 + s) k =
      m.bits.extractLsb' (24 + s) k ^^^ (0x020000#24).extractLsb' s k := by
  have front : m.interfaceId.extractLsb' (40 + s) k =
      ((m.bits.extractLsb' 24 24 ^^^ 0x020000#24) ++ 0xFFFE#16).extractLsb' (40 + s - 24) k :=
    BitVec.extractLsb'_append_eq_of_le (by omega)
  have place : 40 + s - 24 - 16 = s := by omega
  rw [front, BitVec.extractLsb'_append_eq_of_le (by omega), place, BitVec.extractLsb'_xor,
    Ip6.extractLsb'_extractLsb' _ h]

/-- **The bytes of the address with an interface identifier only.** -/
theorem octets_expanded (m : Mac) : m.expanded.octets = m.expandedBytes := by
  have empty (s : Nat) (h : 64 ≤ s) : m.expanded.bits.extractLsb' s 8 = 0 := by
    refine (BitVec.extractLsb'_append_eq_of_le h).trans ?_
    exact BitVec.extractLsb'_zero
  have filled (s : Nat) (h : s + 8 ≤ 64) :
      m.expanded.bits.extractLsb' s 8 = m.interfaceId.extractLsb' s 8 :=
    BitVec.extractLsb'_append_eq_of_add_le h
  have low (s : Nat) (h : s + 8 ≤ 24) :
      m.expanded.bits.extractLsb' s 8 = m.bits.extractLsb' s 8 :=
    (filled s (by omega)).trans (extractLsb'_interfaceId_low h)
  have mark (s : Nat) (h : s + 8 ≤ 16) :
      m.expanded.bits.extractLsb' (24 + s) 8 = (0xFFFE#16).extractLsb' s 8 :=
    (filled _ (by omega)).trans (extractLsb'_interfaceId_mark h)
  have high (s : Nat) (h : s + 8 ≤ 24) : m.expanded.bits.extractLsb' (40 + s) 8 =
      m.bits.extractLsb' (24 + s) 8 ^^^ (0x020000#24).extractLsb' s 8 :=
    (filled _ (by omega)).trans (extractLsb'_interfaceId_high h)
  have bytes : m.expandedBytes =
      [0, 0, 0, 0, 0, 0, 0, 0, m.bits.extractLsb' 40 8 ^^^ 0x02, m.bits.extractLsb' 32 8,
        m.bits.extractLsb' 24 8, 0xFF, 0xFE, m.bits.extractLsb' 16 8, m.bits.extractLsb' 8 8,
        m.bits.extractLsb' 0 8] := rfl
  simp only [Ip6.octets, Ip6.octet, List.range, List.range.loop, List.map_cons, List.map_nil, bytes,
    List.cons.injEq]
  -- of the first half only the first byte is not as it was: the bit lies there
  exact ⟨empty 120 (by decide), empty 112 (by decide), empty 104 (by decide), empty 96 (by decide),
    empty 88 (by decide), empty 80 (by decide), empty 72 (by decide), empty 64 (by decide),
    high 16 (by decide), (high 8 (by decide)).trans BitVec.xor_zero,
    (high 0 (by decide)).trans BitVec.xor_zero, mark 8 (by decide), mark 0 (by decide),
    low 16 (by decide), low 8 (by decide), low 0 (by decide), trivial⟩

/-- **A MAC address is read back** from an address that ends with its interface
identifier. -/
theorem ofAddress_append_interfaceId (p : BitVec 64) (m : Mac) :
    ofAddress ⟨p ++ m.interfaceId⟩ = m := by
  have tail (s k : Nat) (h : s + k ≤ 64) :
      (p ++ m.interfaceId : BitVec 128).extractLsb' s k = m.interfaceId.extractLsb' s k :=
    BitVec.extractLsb'_append_eq_of_add_le h
  have high : m.interfaceId.extractLsb' 40 24 =
      m.bits.extractLsb' 24 24 ^^^ (0x020000#24).extractLsb' 0 24 :=
    extractLsb'_interfaceId_high (s := 0) (Nat.le_refl 24)
  have halves : m.bits.extractLsb' 24 24 ++ m.bits.extractLsb' 0 24 = m.bits.extractLsb' 0 48 :=
    BitVec.extractLsb'_append_extractLsb'_eq_extractLsb' rfl
  rw [ofAddress, tail 40 24 (by decide), tail 0 24 (by decide), high,
    extractLsb'_interfaceId_low (Nat.le_refl 24), BitVec.extractLsb'_eq_self, BitVec.xor_assoc,
    BitVec.xor_self, BitVec.xor_zero, halves, BitVec.extractLsb'_eq_self]

end Mac

/-! ## Networks that leave room -/

/-- The base of a network that leaves room is empty in its second half. -/
theorem Network.base_eq_append (network : Network) (room : network.length.toNat ≤ 64) :
    network.base = network.base.extractLsb' 64 64 ++ 0#64 := by
  refine BitVec.eq_of_getLsbD_eq fun i hi => ?_
  rw [BitVec.getLsbD_append, BitVec.getLsbD_extractLsb', getLsbD_base, getLsbD_base]
  by_cases second : i < 64
  · have empty : ¬ 128 - network.length.toNat ≤ i := by omega
    simp [second, empty]
  · have place : 64 + (i - 64) = i := by omega
    have first : i - 64 < 64 := by omega
    simp [second, first, place]

/-- A prefix that leaves room covers nothing of the second half. -/
theorem append_and_hostMask {n : UInt8} (room : n.toNat ≤ 64) (x : BitVec 64) :
    (0#64 ++ x) &&& hostMask n = 0#64 ++ x := by
  refine BitVec.eq_of_getLsbD_eq fun i _ => ?_
  rw [BitVec.getLsbD_and, getLsbD_hostMask, BitVec.getLsbD_append]
  by_cases second : i < 64
  · have kept : i < 128 - n.toNat := by omega
    simp [second, kept]
  · simp [second]

namespace HostId

variable {m : Mac} {network : Network}

/-- **A MAC address is a way to write a host part.** -/
theorem inNetwork?_mac_eq_suffix (le : network.length ≤ 64) :
    (mac m).inNetwork? network = (suffix m.expanded network.length).inNetwork? network := by
  have room : network.length.toNat ≤ 64 := UInt8.le_iff_toNat_le.1 le
  have unmasked : m.expanded.bits &&& hostMask network.length = m.expanded.bits :=
    append_and_hostMask room m.interfaceId
  have joined : network.base ||| m.expanded.bits =
      network.base.extractLsb' 64 64 ++ m.interfaceId := by
    calc network.base ||| m.expanded.bits
        = (network.base.extractLsb' 64 64 ++ 0#64) ||| (0#64 ++ m.interfaceId) :=
          congrArg (· ||| m.expanded.bits) (network.base_eq_append room)
      _ = network.base.extractLsb' 64 64 ++ m.interfaceId := by
          rw [BitVec.or_append, BitVec.or_zero, BitVec.zero_or]
  rw [inNetwork?_mac le, inNetwork?_suffix rfl, unmasked, joined]

/-- **A MAC address is read back** from every address that it gives. -/
theorem ofAddress_of_inNetwork? {x : Ip6} (h : (mac m).inNetwork? network = some x) :
    Mac.ofAddress x = m := by
  have fits : (mac m).Fits network.length :=
    isSome_inNetwork?_iff.1 (Option.isSome_iff_exists.2 ⟨x, h⟩)
  rw [inNetwork?_mac fits] at h
  rw [← Option.some.inj h, Mac.ofAddress_append_interfaceId]

/-- **A MAC address gives the addresses of its expanded identifier.** It has an
address in the networks of up to 64 bits and in no others: the one that the
host part of the expanded bytes has there. The address lies in the network, is
the same for whatever address the network is given by, and tells the MAC
address, which no other MAC address shares in any network. -/
theorem macs_are_expanded_host_parts (m : Mac) :
    ∃ expanded : Ip6,
      expanded.octets = m.expandedBytes ∧
      ∀ network : Network,
        (((mac m).inNetwork? network).isSome = true ↔ network.length ≤ 64) ∧
        (network.length ≤ 64 →
          (mac m).inNetwork? network = (suffix expanded network.length).inNetwork? network) ∧
        ∀ x, (mac m).inNetwork? network = some x →
          x.AgreeOn network.length.toNat network.address ∧
          (∀ other : Network, other.length = network.length →
            other.address.AgreeOn network.length.toNat network.address →
              (mac m).inNetwork? other = some x) ∧
          Mac.ofAddress x = m ∧
          ∀ (m' : Mac) (other : Network), (mac m').inNetwork? other = some x → m' = m := by
  refine ⟨m.expanded, m.octets_expanded, fun network =>
    ⟨isSome_inNetwork?_iff, inNetwork?_mac_eq_suffix, fun x hx => ?_⟩⟩
  have readBack := ofAddress_of_inNetwork? hx
  exact ⟨agreeOn_of_inNetwork? hx, fun other => inNetwork?_of_agreeOn hx, readBack,
    fun m' other hx' => (ofAddress_of_inNetwork? hx').symm.trans readBack⟩

/-- A MAC address in a network of 60 bits that is given by an address with bits
behind them. -/
theorem mac_behind_60_bits :
    let m : Mac := ⟨0xAABBCCDDEEFF#48⟩
    let network : Network := ⟨⟨0x20010DB80000123F00000000000000FF#128⟩, 60, by decide⟩
    ∃ x : Ip6, (mac m).inNetwork? network = some x ∧
      x.octets = [0x20, 0x01, 0x0D, 0xB8, 0x00, 0x00, 0x12, 0x30,
        0xA8, 0xBB, 0xCC, 0xFF, 0xFE, 0xDD, 0xEE, 0xFF] ∧
      Mac.ofAddress x = m ∧
      (suffix ⟨0xA8BBCCFFFEDDEEFF#128⟩ 60).inNetwork? network = some x := by
  intro m network
  obtain ⟨expanded, bytes, inNetwork⟩ := macs_are_expanded_host_parts m
  obtain ⟨goes, same, address⟩ := inNetwork network
  obtain ⟨x, hx⟩ := Option.isSome_iff_exists.1 (goes.2 (by decide))
  have hexpanded : expanded = ⟨0xA8BBCCFFFEDDEEFF#128⟩ :=
    Ip6.octets_inj.1 (bytes.trans (by decide))
  refine ⟨x, hx, ?bytes, (address x hx).2.2.1, ?hostPart⟩
  case bytes =>
    have value : x = ⟨0x20010DB800001230A8BBCCFFFEDDEEFF#128⟩ :=
      Option.some.inj (hx.symm.trans (by decide))
    rw [value]
    decide
  case hostPart => rw [← hx, ← hexpanded, same (by decide)]

end HostId

end RecordPlan
