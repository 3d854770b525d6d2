import RecordPlan.Address.Ip6

/-!
# IPv6 networks

A network is the set of addresses that share their first bits. It is
given by one of its addresses and by the number of those bits. An address
in a network has two halves: what it shares with the network, and what is
left, its host part. `hostMask` has ones where the host part is.
-/

namespace RecordPlan

/-- The ones after the first `length` bits; no ones at all from 128 on. -/
def hostMask (length : UInt8) : BitVec 128 := BitVec.allOnes 128 >>> length.toNat

/-- **A network**: an address in it, and how many bits its addresses
share. -/
structure Network where
  /-- An address in the network. -/
  address : Ip6
  /-- How many bits are shared. -/
  length : UInt8
  /-- An address has no more than 128 bits to share. -/
  length_le : length ≤ 128

namespace Network

/-- The network of an address; none if there are not so many bits. -/
def ofAddress? (address : Ip6) (length : UInt8) : Option Network :=
  if h : length ≤ 128 then some ⟨address, length, h⟩ else none

/-- The address of the network itself, with an empty host part. -/
def base (n : Network) : BitVec 128 := n.address.bits &&& ~~~hostMask n.length

end Network

end RecordPlan
