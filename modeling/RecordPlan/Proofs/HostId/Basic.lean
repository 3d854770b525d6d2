import RecordPlan.HostId.Basic
import RecordPlan.Proofs.Address.Network

/-!
# Host IDs in networks

A host ID **fits** a prefix length if it is a host part that was read
against that very length, or a MAC address and the length leaves room for
it. Whatever is read as a host ID for a prefix length fits it
(`HostId.fits_of_parse`), and what fits has an address in every network of
that length (`HostId.inNetwork?_of_fits`), while nothing else has
(`HostId.isSome_inNetwork?_iff`). That address lies in the network, and the
network is all of the detected address that it depends on.
-/

namespace RecordPlan.HostId

variable {h : HostId} {n : UInt8}

/-- Whether a host ID goes with networks of a length. -/
def Fits (n : UInt8) : HostId → Prop
  | suffix _ m => m = n
  | mac _ => n ≤ maxMacPrefixLen

/-- **What is read as a host ID** for a prefix length fits it. -/
theorem fits_of_parse {raw : String} (parsed : parse raw n = .ok (some h)) : h.Fits n := by
  unfold parse at parsed
  dsimp only at parsed
  split at parsed
  · cases parsed
  split at parsed
  · cases parsed
  split at parsed
  · split at parsed
    · cases parsed
    · obtain rfl := Option.some.inj (Except.ok.inj parsed)
      rfl
  split at parsed
  · cases parsed
  split at parsed
  · split at parsed
    · cases parsed
    · next le =>
      obtain rfl := Option.some.inj (Except.ok.inj parsed)
      exact UInt8.not_lt.1 le
  · cases parsed

/-- **Only the empty text is read as no host ID.** -/
theorem toList_eq_nil_of_parse {raw : String} (absent : parse raw n = .ok none) :
    raw.toList = [] := by
  unfold parse at absent
  dsimp only at absent
  split at absent
  · assumption
  split at absent
  · cases absent
  split at absent
  · split at absent <;> cases absent
  split at absent
  · cases absent
  split at absent
  · split at absent <;> cases absent
  · cases absent

/-- A host ID makes of a network no more than its base and its length. -/
theorem inNetwork?_congr {network network' : Network} (length : network.length = network'.length)
    (base : network.base = network'.base) : h.inNetwork? network = h.inNetwork? network' := by
  unfold inNetwork?
  rw [length, base]

/-- The address of a host part: its bits stand behind those of the
network. -/
theorem inNetwork?_suffix {a : Ip6} {network : Network} (eq : n = network.length) :
    (suffix a n).inNetwork? network = some ⟨network.base ||| (a.bits &&& hostMask n)⟩ := by
  rw [inNetwork?, mask]
  exact if_pos eq.symm

/-- The address of a MAC address: the interface identifier stands behind
the first half of the network. -/
theorem inNetwork?_mac {m : Mac} {network : Network} (le : network.length ≤ maxMacPrefixLen) :
    (mac m).inNetwork? network = some ⟨network.base.extractLsb' 64 64 ++ m.interfaceId⟩ := by
  rw [inNetwork?, mask]
  exact if_pos le

/-- **A host ID that fits has an address**, and the address lies in the
network. -/
theorem inNetwork?_of_fits {network : Network} (fits : h.Fits network.length) :
    ∃ a, h.inNetwork? network = some a ∧ a.AgreeOn network.length.toNat network.address := by
  cases h with
  | suffix s n =>
    obtain rfl : n = network.length := fits
    refine ⟨_, inNetwork?_suffix rfl, fun i hi => ?_⟩
    rw [BitVec.getMsbD_or, BitVec.getMsbD_and, Network.getMsbD_base, getMsbD_hostMask]
    simp [hi, Nat.not_le.2 hi]
  | mac m =>
    refine ⟨_, inNetwork?_mac fits, fun i hi => ?_⟩
    -- the first 64 bits are those of the base, and the network is no longer
    have le : network.length.toNat ≤ 64 := UInt8.le_iff_toNat_le.1 fits
    rw [BitVec.getMsbD_append, if_neg (by omega), BitVec.getMsbD_extractLsb']
    have place : 128 - (64 + 64 - i) = i := by omega
    simp [place, Network.getMsbD_base, hi]
    omega

/-- **A host ID has an address** in the networks that it fits and in no
others. -/
theorem isSome_inNetwork?_iff {network : Network} :
    (h.inNetwork? network).isSome = true ↔ h.Fits network.length := by
  rw [inNetwork?]
  cases h with
  | suffix a n =>
    show (if network.length = n then some _ else none).isSome = true ↔ n = network.length
    split
    · next eq => exact iff_of_true rfl eq.symm
    · next ne => exact iff_of_false Bool.false_ne_true (Ne.symm ne)
  | mac m =>
    show (if network.length ≤ maxMacPrefixLen then some _ else none).isSome = true ↔ _
    split
    · next le => exact iff_of_true rfl le
    · next long => exact iff_of_false Bool.false_ne_true long

/-- The address of a host lies in the network. -/
theorem agreeOn_of_inNetwork? {network : Network} {a : Ip6} (ha : h.inNetwork? network = some a) :
    a.AgreeOn network.length.toNat network.address := by
  obtain ⟨b, hb, agree⟩ :=
    inNetwork?_of_fits (isSome_inNetwork?_iff.1 (Option.isSome_iff_exists.2 ⟨a, ha⟩))
  rwa [Option.some.inj (ha.symm.trans hb)]

/-- The address of a host is the same for every address that shares the
network. -/
theorem inNetwork?_of_agreeOn {network other : Network} {a : Ip6}
    (ha : h.inNetwork? network = some a) (length : other.length = network.length)
    (shares : other.address.AgreeOn network.length.toNat network.address) :
    h.inNetwork? other = some a :=
  (inNetwork?_congr length (Network.base_eq_of_agreeOn length shares)).trans ha

end RecordPlan.HostId
