import RecordPlan.Proofs.Address.Octets
import RecordPlan.Proofs.HostId.Basic

/-!
# Host parts as numbers

`HostId.mask` takes what the prefix covers from a host part, and
`HostId.inNetwork?` puts what is left behind a network. On the numbers that
the bytes denote this is arithmetic with a power of two: the host part is a
remainder, and the address is that of the network, less its own remainder, plus
the one of the host part.

`HostId.host_parts_are_remainders` says so for every host part and every prefix
length, those beyond the width of an address included, together with what
follows: where there is an address, and which host parts and which networks
give the same one.
-/

namespace RecordPlan.HostId

variable {a b : Ip6} {n : UInt8} {network : Network}

theorem mask_suffix (a : Ip6) (n : UInt8) : (suffix a n).mask = suffix (a.hostPart n) n := rfl

/-- Nothing more is taken from a host part the second time. -/
theorem mask_mask (h : HostId) : h.mask.mask = h.mask := by
  cases h with
  | suffix a n => rw [mask_suffix, mask_suffix, Ip6.hostPart, Ip6.hostPart, BitVec.and_assoc,
      BitVec.and_self]
  | mac m => rfl

/-- The number of a host part, which is zero if the prefix is as long as an
address or longer. -/
theorem bigEndian_hostPart (a : Ip6) (n : UInt8) :
    bigEndian (a.hostPart n).octets =
      if n ≤ 128 then bigEndian a.octets % 2 ^ (128 - n.toNat) else 0 := by
  rw [Ip6.bigEndian_octets, Ip6.bigEndian_octets, Ip6.hostPart, toNat_and_hostMask]
  split
  · rfl
  · next long =>
    have long : 128 < n.toNat := UInt8.lt_iff_toNat_lt.1 (UInt8.not_le.1 long)
    rw [Nat.sub_eq_zero_of_le (Nat.le_of_lt long), Nat.pow_zero, Nat.mod_one]

/-- **The host part is found again** in the address that it gives. -/
theorem hostPart_base_or (network : Network) (a : Ip6) :
    Ip6.hostPart network.length ⟨network.base ||| (a.bits &&& hostMask network.length)⟩ =
      a.hostPart network.length := by
  refine congrArg Ip6.mk (BitVec.eq_of_getLsbD_eq fun i _ => ?_)
  simp only [BitVec.getLsbD_and, BitVec.getLsbD_or, Network.getLsbD_base, getLsbD_hostMask]
  by_cases h : i < 128 - network.length.toNat
  · simp [h, Nat.not_le.2 h]
  · simp [h]

/-- **Two host parts give a network the same address** exactly if nothing but
what the prefix covers tells them apart. -/
theorem inNetwork?_suffix_eq_iff (eq : network.length = n) :
    (suffix b n).inNetwork? network = (suffix a n).inNetwork? network ↔
      (suffix b n).mask = (suffix a n).mask := by
  subst eq
  constructor
  · intro same
    rw [inNetwork?_suffix rfl, inNetwork?_suffix rfl] at same
    rw [mask_suffix, mask_suffix, ← hostPart_base_or network b, Option.some.inj same,
      hostPart_base_or]
  · intro same
    rw [inNetwork?, inNetwork?, same]

/-- **A host part is a remainder.** Without what the prefix covers, a host part
is the remainder in a division by the power of two that the prefix leaves, and
nothing if it leaves none; clearing the bytes in place comes to the same and
reaches outside of nothing. In a network of its length, and in no other, a host
part has an address: the address of the network less its remainder, plus the
remainder of the host part. It lies in the network, is the same for whatever
address the network is given by, and is shared by exactly the host parts that
have the same remainder. -/
theorem host_parts_are_remainders (a : Ip6) (n : UInt8) :
    ∃ rest : Ip6,
      (suffix a n).mask = suffix rest n ∧
      (suffix rest n).mask = suffix rest n ∧
      clearPrefix? n a.octets = some rest.octets ∧
      (bigEndian rest.octets =
        if n ≤ 128 then bigEndian a.octets % 2 ^ (128 - n.toNat) else 0) ∧
      ∀ network : Network,
        (((suffix a n).inNetwork? network).isSome = true ↔ network.length = n) ∧
        ∀ x, (suffix a n).inNetwork? network = some x →
          x.octets = List.zipWith (· ||| ·) (Ip6.mk network.base).octets rest.octets ∧
          (bigEndian x.octets =
            bigEndian network.address.octets -
              bigEndian network.address.octets % 2 ^ (128 - n.toNat) +
                bigEndian a.octets % 2 ^ (128 - n.toNat)) ∧
          x.AgreeOn n.toNat network.address ∧
          (∀ other : Network, other.length = n → other.address.AgreeOn n.toNat network.address →
            (suffix a n).inNetwork? other = some x) ∧
          ∀ b, (suffix b n).inNetwork? network = some x ↔
            (suffix b n).mask = (suffix a n).mask := by
  refine ⟨a.hostPart n, mask_suffix a n, mask_mask (suffix a n), clearPrefix?_octets n a,
    bigEndian_hostPart a n, fun network => ⟨isSome_inNetwork?_iff.trans eq_comm, fun x hx => ?_⟩⟩
  obtain rfl : n = network.length :=
    isSome_inNetwork?_iff.1 (Option.isSome_iff_exists.2 ⟨x, hx⟩)
  have value := Option.some.inj (hx.symm.trans (inNetwork?_suffix rfl))
  refine ⟨?bytes, ?number, agreeOn_of_inNetwork? hx, fun other => inNetwork?_of_agreeOn hx, ?hosts⟩
  case bytes => rw [value, ← Ip6.octets_or, Ip6.hostPart]
  case number => simp only [Ip6.bigEndian_octets, value, Network.toNat_base_or]
  case hosts =>
    intro b
    rw [← hx]
    exact inNetwork?_suffix_eq_iff rfl

/-- A prefix of 44 bits ends in the middle of the sixth byte. What stands there
before its end comes from the network, also where the host part has other bits
or the address of the network has bits behind it. -/
theorem host_part_behind_44_bits :
    let a : Ip6 := ⟨0xFFFFFFFFFFFFABCD0000000000000001#128⟩
    let b : Ip6 := ⟨0x00000000000FABCD0000000000000001#128⟩
    let network : Network := ⟨⟨0x20010DB81230000000000000000000FF#128⟩, 44, by decide⟩
    ∃ x, (suffix a 44).inNetwork? network = some x ∧
      bigEndian x.octets = 0x20010DB8123FABCD0000000000000001 ∧
      clearPrefix? 44 a.octets =
        some [0, 0, 0, 0, 0, 0x0F, 0xAB, 0xCD, 0, 0, 0, 0, 0, 0, 0, 1] ∧
      (suffix b 44).inNetwork? network = some x := by
  intro a b network
  obtain ⟨rest, masked, -, cleared, -, inNetwork⟩ := host_parts_are_remainders a 44
  obtain ⟨goes, address⟩ := inNetwork network
  obtain ⟨x, hx⟩ := Option.isSome_iff_exists.1 (goes.2 rfl)
  obtain ⟨-, number, -, -, shared⟩ := address x hx
  obtain ⟨rfl, -⟩ := suffix.inj masked
  exact ⟨x, hx, number.trans (by decide), cleared.trans (by decide), (shared b).2 (by decide)⟩

end RecordPlan.HostId
