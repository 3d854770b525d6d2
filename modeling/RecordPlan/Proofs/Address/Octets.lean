import RecordPlan.Proofs.Address.Network

/-!
# The bytes of an address

An address has sixteen bytes (`Ip6.octets`). Read as one number, the first
byte highest, they denote the number of its bits (`Ip6.bigEndian_octets`), so
they tell it from every other address (`Ip6.octets_inj`).

`clearPrefix?` clears the first bits of such a sequence of bytes as a loop over
an array does: the whole bytes first, then what lies of the prefix in the byte
behind them. Every access is checked: it gives no result if more bytes are to
be cleared than there are, or if a byte is to be shifted by its own width.
`clearPrefix?_octets` says that this never happens, for no length at all, and
that what remains is the host part of the address.
-/

namespace RecordPlan

/-- The number that bytes denote, the first byte highest. -/
def bigEndian (bytes : List (BitVec 8)) : Nat :=
  bytes.foldl (fun n b => 256 * n + b.toNat) 0

namespace Ip6

variable {a b : Ip6} {i : Nat} {n : UInt8}

/-! ## Bytes and numbers -/

/-- A byte of an address, counted from the front. -/
def octet (a : Ip6) (i : Nat) : BitVec 8 := a.bits.extractLsb' (120 - 8 * i) 8

/-- **The 16 bytes of an address.** -/
def octets (a : Ip6) : List (BitVec 8) := (List.range 16).map a.octet

@[simp]
theorem length_octets (a : Ip6) : a.octets.length = 16 := by
  rw [octets, List.length_map, List.length_range]

@[simp]
theorem getElem_octets (h : i < a.octets.length) : a.octets[i] = a.octet i := by
  simp [octets]

/-- The first bytes of an address denote the number of its first bits. -/
theorem bigEndian_take_octets {k : Nat} (a : Ip6) (hk : k ≤ 16) :
    bigEndian ((List.range k).map a.octet) = a.bits.toNat / 2 ^ (128 - 8 * k) := by
  induction k with
  | zero =>
    rw [Nat.div_eq_of_lt a.bits.isLt]
    rfl
  | succ k ih =>
    -- the number of one byte more is cut off eight bits further behind
    have first := ih (by omega)
    have places : 128 - 8 * k = 120 - 8 * k + 8 := by omega
    rw [places, Nat.pow_add, ← Nat.div_div_eq_div_mul] at first
    have last : 128 - 8 * (k + 1) = 120 - 8 * k := by omega
    rw [last, bigEndian, List.range_succ, List.map_append, List.foldl_append, ← bigEndian, first,
      List.map_singleton, List.foldl_cons, List.foldl_nil, octet, BitVec.extractLsb'_toNat,
      Nat.shiftRight_eq_div_pow, Nat.div_add_mod]

/-- **The bytes of an address denote the number of its bits.** -/
theorem bigEndian_octets (a : Ip6) : bigEndian a.octets = a.bits.toNat := by
  rw [octets, bigEndian_take_octets a (Nat.le_refl 16), Nat.pow_zero, Nat.div_one]

/-- An address is told by its bytes. -/
theorem octets_inj : a.octets = b.octets ↔ a = b := by
  refine ⟨fun h => ?_, congrArg octets⟩
  have number := congrArg bigEndian h
  rw [bigEndian_octets, bigEndian_octets] at number
  cases a
  cases b
  exact congrArg mk (BitVec.eq_of_toNat_eq number)

/-- Addresses are joined byte by byte. -/
theorem octets_or (a b : Ip6) :
    octets ⟨a.bits ||| b.bits⟩ = List.zipWith (· ||| ·) a.octets b.octets := by
  refine List.ext_getElem (by simp) fun i _ _ => ?_
  rw [getElem_octets, List.getElem_zipWith, getElem_octets, getElem_octets]
  exact BitVec.extractLsb'_or

theorem getLsbD_octet (a : Ip6) (i j : Nat) :
    (a.octet i).getLsbD j = (decide (j < 8) && a.bits.getLsbD (120 - 8 * i + j)) := by
  rw [octet, BitVec.getLsbD_extractLsb']

/-! ## The host part, byte by byte -/

/-- The address without the first `n` bits. -/
def hostPart (n : UInt8) (a : Ip6) : Ip6 := ⟨a.bits &&& hostMask n⟩

/-- A bit of the host part, found in its byte. -/
theorem getLsbD_octet_hostPart (n : UInt8) (a : Ip6) (i j : Nat) :
    ((a.hostPart n).octet i).getLsbD j =
      ((a.octet i).getLsbD j && decide (120 - 8 * i + j < 128 - n.toNat)) := by
  rw [getLsbD_octet, getLsbD_octet, hostPart, BitVec.getLsbD_and, getLsbD_hostMask, Bool.and_assoc]

/-- Bytes that the prefix covers are empty. -/
theorem octet_hostPart_of_lt (h : i < n.toNat / 8) : (a.hostPart n).octet i = 0 := by
  refine BitVec.eq_of_getLsbD_eq fun j hj => ?_
  have outside : ¬ 120 - 8 * i + j < 128 - n.toNat := by omega
  rw [getLsbD_octet_hostPart, decide_eq_false outside, Bool.and_false]
  exact BitVec.getLsbD_zero.symm

/-- Bytes behind the prefix are as they were. -/
theorem octet_hostPart_of_gt (h : n.toNat / 8 < i) (hi : i < 16) :
    (a.hostPart n).octet i = a.octet i := by
  refine BitVec.eq_of_getLsbD_eq fun j hj => ?_
  have inside : 120 - 8 * i + j < 128 - n.toNat := by omega
  rw [getLsbD_octet_hostPart, decide_eq_true inside, Bool.and_true]

/-- The byte in which the prefix ends keeps its last bits. -/
theorem octet_hostPart_boundary (hi : n.toNat / 8 < 16) :
    (a.hostPart n).octet (n.toNat / 8) =
      a.octet (n.toNat / 8) &&& (BitVec.allOnes 8 >>> (n.toNat % 8)) := by
  refine BitVec.eq_of_getLsbD_eq fun j hj => ?_
  have same : 120 - 8 * (n.toNat / 8) + j < 128 - n.toNat ↔ n.toNat % 8 + j < 8 := by omega
  rw [getLsbD_octet_hostPart, BitVec.getLsbD_and, BitVec.getLsbD_ushiftRight,
    BitVec.getLsbD_allOnes]
  exact congrArg _ (decide_eq_decide.2 same)

end Ip6

/-! ## Clearing a prefix in place -/

/-- Bytes with the first `k` of them cleared; none if there are not so many. -/
def zeroFirst? (k : Nat) (bytes : List (BitVec 8)) : Option (List (BitVec 8)) :=
  if k ≤ bytes.length then some (List.replicate k 0 ++ bytes.drop k) else none

/-- A byte of ones, shifted by `k`; none if that is the width of a byte or
more. -/
def lowOnes? (k : Nat) : Option (BitVec 8) :=
  if k < 8 then some (BitVec.allOnes 8 >>> k) else none

/-- **Bytes with the first `n` bits cleared in place**: whole bytes are set to
zero, and the byte behind them, if there is one, is masked. -/
def clearPrefix? (n : UInt8) (bytes : List (BitVec 8)) : Option (List (BitVec 8)) := do
  let whole := min (n.toNat / 8) bytes.length
  let cleared ← zeroFirst? whole bytes
  match cleared[whole]? with
  | none => return cleared
  | some boundary => return cleared.set whole (boundary &&& (← lowOnes? (n.toNat % 8)))

/-- **Clearing in place gives the bytes of the host part**, for every length,
and none of its accesses fails. -/
theorem clearPrefix?_octets (n : UInt8) (a : Ip6) :
    clearPrefix? n a.octets = some (a.hostPart n).octets := by
  have low : lowOnes? (n.toNat % 8) = some (BitVec.allOnes 8 >>> (n.toNat % 8)) :=
    if_pos (Nat.mod_lt _ (by decide))
  have cleared (k : Nat) (hk : k ≤ 16) :
      zeroFirst? k a.octets = some (List.replicate k 0 ++ a.octets.drop k) :=
    if_pos (by rwa [Ip6.length_octets])
  unfold clearPrefix?
  dsimp only
  rw [Ip6.length_octets, cleared _ (Nat.min_le_right _ 16), Option.bind_eq_bind, Option.bind_some]
  by_cases inside : n.toNat / 8 < 16
  · -- the prefix ends in a byte of the address
    have boundary : (List.replicate (n.toNat / 8) 0 ++ a.octets.drop (n.toNat / 8))[n.toNat / 8]? =
        some (a.octet (n.toNat / 8)) := by
      rw [List.getElem?_append_right (by simp)]
      simp [inside]
    rw [Nat.min_eq_left (Nat.le_of_lt inside), boundary, low]
    refine congrArg some (List.ext_getElem (by simp; omega) fun i _ hi => ?_)
    rw [Ip6.length_octets] at hi
    rw [Ip6.getElem_octets, List.getElem_set]
    rcases Nat.lt_trichotomy i (n.toNat / 8) with before | rfl | behind
    · simp [Ip6.octet_hostPart_of_lt before, List.getElem_append_left, before,
        Nat.ne_of_gt before]
    · simp [Ip6.octet_hostPart_boundary hi]
    · simp [Ip6.octet_hostPart_of_gt behind hi, List.getElem_append_right, Nat.le_of_lt behind,
        Nat.ne_of_lt behind]
  · -- the prefix covers all of it
    rw [Nat.min_eq_right (Nat.le_of_not_lt inside), List.getElem?_eq_none (by simp)]
    refine congrArg some (List.ext_getElem (by simp) fun i _ hi => ?_)
    rw [Ip6.length_octets] at hi
    rw [Ip6.getElem_octets, Ip6.octet_hostPart_of_lt (by omega),
      List.getElem_append_left (by rwa [List.length_replicate]), List.getElem_replicate]

end RecordPlan
