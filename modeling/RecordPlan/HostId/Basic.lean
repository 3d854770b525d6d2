import RecordPlan.Address.Network
import RecordPlan.HostId.Mac

/-!
# Host IDs

A **host ID** says which host of a network is meant, whatever the
network: by the host part of its addresses, or by its MAC address. A host
part is written as an IPv6 address and is read against a prefix length,
which it keeps; its bits before that length are without meaning.

`HostId.parse` reads a host ID, `HostId.inNetwork?` gives the address of
the host in a network. A MAC address takes up the last 64 bits of an
address, so it goes with prefixes of up to 64 bits only.
-/

namespace RecordPlan

/-- The longest prefix that leaves room for an interface identifier. -/
def maxMacPrefixLen : UInt8 := 64

/-- **A host ID.** -/
inductive HostId where
  /-- The host part of an address, read against a prefix length. -/
  | suffix (address : Ip6) (prefixLen : UInt8)
  /-- A MAC address. -/
  | mac (mac : Mac)
  deriving DecidableEq

/-- Why a text is no host ID. -/
inductive HostIdError where
  /-- No address has a prefix of this length. -/
  | invalidPrefixLength (prefixLen : UInt8)
  /-- The text is an IPv4 address. -/
  | ip4Address (address : Ip4)
  /-- The text is neither an address nor a MAC address. -/
  | notHostId
  /-- The text is an IPv6 address with a zone. -/
  | hasZone
  /-- A MAC address does not fit behind a prefix of this length. -/
  | subnetTooSmall (prefixLen : UInt8)
  deriving DecidableEq

namespace HostIdError

/-- Whether the text denotes no host ID whatever the prefix length. -/
def isNotHostId : HostIdError → Bool
  | ip4Address _ | notHostId => true
  | _ => false

/-- The forms of a MAC address in a diagnostic. -/
def macForms : String :=
  "not in the form \"aa:bb:cc:dd:ee:ff\", \"aa-bb-cc-dd-ee-ff\" or \"aabb.ccdd.eeff\""

/-- The text of the error in a diagnostic. -/
def message : HostIdError → String
  | invalidPrefixLength n => "invalid prefix length " ++ toString n.toNat
  | ip4Address a =>
    "not an IPv6 or MAC (EUI-48) address; " ++ String.ofList a.text ++ " is an IPv4 address"
  | notHostId =>
    "not an IPv6 or MAC (EUI-48) address; as an IP address: invalid IP address syntax; " ++
      "as a MAC address: " ++ macForms
  | hasZone => "IPv6 address as a host ID should not have IPv6 zone"
  | subnetTooSmall n =>
    "IPv6 subnet /" ++ toString n.toNat ++ " is too small for a MAC (EUI-48) host ID; " ++
      "decrease the prefix length to 64 or less"

end HostIdError

namespace HostId

/-- Whether the text before the first `%` is an IPv6 address. -/
def hasZone (text : List Char) : Bool :=
  text.contains '%' && (Ip6.ofText? (text.takeWhile (· != '%'))).isSome

/-- **The host ID that a text denotes** for networks of a prefix length;
none if the text is empty. -/
def parse (raw : String) (prefixLen : UInt8) : Except HostIdError (Option HostId) :=
  let text := raw.toList
  if text = [] then .ok none
  else match Ip4.ofText? text with
  | some a => .error (.ip4Address a)
  | none =>
    match Ip6.ofText? text with
    | some a =>
      if 128 < prefixLen then .error (.invalidPrefixLength prefixLen)
      else .ok (some (.suffix a prefixLen))
    | none =>
      if hasZone text then .error .hasZone
      else match Mac.ofText? text with
        | some m =>
          if maxMacPrefixLen < prefixLen then .error (.subnetTooSmall prefixLen)
          else .ok (some (.mac m))
        | none => .error .notHostId

/-- The host ID without what the prefix covers. A MAC address is as it
is. -/
def mask : HostId → HostId
  | suffix a n => suffix ⟨a.bits &&& hostMask n⟩ n
  | mac m => mac m

/-- **The address of the host in a network**; none if the host ID does not
go with the length of the network. -/
def inNetwork? (h : HostId) (network : Network) : Option Ip6 :=
  match h.mask with
  | suffix a n => if network.length = n then some ⟨network.base ||| a.bits⟩ else none
  | mac m =>
    if network.length ≤ maxMacPrefixLen then
      some ⟨network.base.extractLsb' 64 64 ++ m.interfaceId⟩
    else none

/-- The text of a host ID. -/
def text : HostId → String
  | suffix a _ => String.ofList a.text
  | mac m => String.ofList m.text

end HostId

end RecordPlan
