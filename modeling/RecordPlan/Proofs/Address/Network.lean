import Mathlib.Algebra.Group.Nat.Defs
import RecordPlan.Address.Network

/-!
# Addresses that share a network

Bits are counted from the front here, as prefix lengths do. Two addresses
share a network of length `n` if they agree on the first `n` bits. The
base of a network has the bits of its address there and is empty behind
them (`Network.getMsbD_base`), so it is the same for all addresses that
share the network (`Network.base_eq_of_agreeOn`).

As a number, the host part of an address is what remains of it in a division
by a power of two (`toNat_and_hostMask`), and the base of a network is the
address without that remainder (`Network.toNat_base`).
-/

namespace RecordPlan

/-- Two addresses agree on the first `n` bits. -/
def Ip6.AgreeOn (n : Nat) (a b : Ip6) : Prop :=
  ∀ i < n, a.bits.getMsbD i = b.bits.getMsbD i

/-- The mask of the host part has a one exactly behind the network. -/
theorem getMsbD_hostMask (n : UInt8) (i : Nat) :
    (hostMask n).getMsbD i = (decide (i < 128) && decide (n.toNat ≤ i)) := by
  rw [hostMask, BitVec.getMsbD_ushiftRight, BitVec.getMsbD_allOnes]
  by_cases h : n.toNat ≤ i
  · simp [h, Nat.not_lt.2 h]
    omega
  · simp [h, Nat.not_le.1 h]

/-- The mask of the host part, counted from the end. -/
theorem getLsbD_hostMask (n : UInt8) (i : Nat) :
    (hostMask n).getLsbD i = decide (i < 128 - n.toNat) := by
  rw [hostMask, BitVec.getLsbD_ushiftRight, BitVec.getLsbD_allOnes]
  exact decide_eq_decide.2 (by omega)

theorem toNat_hostMask (n : UInt8) : (hostMask n).toNat = 2 ^ (128 - n.toNat) - 1 := by
  refine Nat.eq_of_testBit_eq fun i => ?_
  rw [BitVec.testBit_toNat, getLsbD_hostMask, Nat.testBit_two_pow_sub_one]

/-- **The host part as a number.** -/
theorem toNat_and_hostMask (x : BitVec 128) (n : UInt8) :
    (x &&& hostMask n).toNat = x.toNat % 2 ^ (128 - n.toNat) := by
  rw [BitVec.toNat_and, toNat_hostMask, Nat.and_two_pow_sub_one_eq_mod]

namespace Network

/-- The bits of the base of a network. -/
theorem getMsbD_base (network : Network) (i : Nat) :
    network.base.getMsbD i =
      (decide (i < network.length.toNat) && network.address.bits.getMsbD i) := by
  rw [base, BitVec.getMsbD_and, BitVec.getMsbD_not, getMsbD_hostMask]
  by_cases inside : i < 128
  · by_cases h : i < network.length.toNat
    · simp [inside, h, Nat.not_le.2 h]
    · simp [inside, h, Nat.not_lt.1 h]
  · simp [inside, BitVec.getMsbD_of_ge _ _ (Nat.not_lt.1 inside)]

/-- **Addresses that share a network** give it the same base. -/
theorem base_eq_of_agreeOn {m n : Network} (length : m.length = n.length)
    (agree : m.address.AgreeOn n.length.toNat n.address) : m.base = n.base := by
  refine BitVec.eq_of_getMsbD_eq fun i _ => ?_
  rw [getMsbD_base, getMsbD_base, length]
  by_cases h : i < n.length.toNat
  · rw [agree i h]
  · simp [h]

/-- The base of a network, counted from the end. -/
theorem getLsbD_base (network : Network) (i : Nat) :
    network.base.getLsbD i =
      (decide (128 - network.length.toNat ≤ i) && network.address.bits.getLsbD i) := by
  rw [base, BitVec.getLsbD_and, BitVec.getLsbD_not, getLsbD_hostMask]
  by_cases inside : i < 128
  · by_cases h : i < 128 - network.length.toNat
    · simp [h, Nat.not_le.2 h]
    · simp [inside, h, Nat.not_lt.1 h]
  · simp [BitVec.getLsbD_of_ge _ _ (Nat.not_lt.1 inside)]

/-- **The base of a network as a number**, a multiple of a power of two. -/
theorem toNat_base (network : Network) :
    network.base.toNat = 2 ^ (128 - network.length.toNat) *
      (network.address.bits.toNat / 2 ^ (128 - network.length.toNat)) := by
  refine Nat.eq_of_testBit_eq fun i => ?_
  rw [BitVec.testBit_toNat, getLsbD_base, Nat.testBit_two_pow_mul, Nat.testBit_div_two_pow,
    BitVec.testBit_toNat]
  by_cases h : 128 - network.length.toNat ≤ i
  · rw [Nat.sub_add_cancel h]
  · rw [decide_eq_false h, Bool.false_and, Bool.false_and]

/-- An address of a network as a number: the base, and a host part behind
it. -/
theorem toNat_base_or (network : Network) (x : BitVec 128) :
    (network.base ||| (x &&& hostMask network.length)).toNat =
      network.address.bits.toNat - network.address.bits.toNat % 2 ^ (128 - network.length.toNat) +
        x.toNat % 2 ^ (128 - network.length.toNat) := by
  rw [BitVec.toNat_or, toNat_and_hostMask, toNat_base,
    ← Nat.two_pow_add_eq_or_of_lt (Nat.mod_lt _ (Nat.two_pow_pos _)),
    Nat.mul_div_self_eq_mod_sub_self]

end Network

end RecordPlan
