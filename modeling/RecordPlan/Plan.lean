import RecordPlan.Managed
import RecordPlan.Predicate

/-!
# Plans

A **plan** is what settings come to: the domains that are managed, which
of them are proxied, and how the address of a host is found from an
address that was detected. A domain with a host ID gets the address of its
host in the network of the detected one; any other domain gets the
detected address itself.
-/

namespace RecordPlan

/-- **A plan.** -/
structure Plan where
  /-- The domains that are managed, with their host IDs. -/
  managed : Managed
  /-- Which domains are proxied. -/
  proxied : Predicate
  /-- How many bits the network of a detected address has. -/
  prefixLen : UInt8
  deriving DecidableEq

namespace Plan

/-- The domains of a family. -/
def domainsOf (p : Plan) (family : Family) : List Domain := p.managed.domainsOf family

/-- Whether a domain is proxied. -/
def isProxied (p : Plan) (d : Domain) : Bool := p.proxied.selects d

/-- The host ID of a domain. -/
def hostId? (p : Plan) (d : Domain) : Option HostId := p.managed.hostIds.find? d

/-- Whether no domain is managed. -/
def isEmpty (p : Plan) : Bool := p.managed.isEmpty

/-- **The address that a domain should have** when an address has been
detected; none if the host ID does not go with the prefix length. -/
def ip6Address? (p : Plan) (d : Domain) (detected : Ip6) : Option Ip6 :=
  match p.hostId? d with
  | none => some detected
  | some id => (Network.ofAddress? detected p.prefixLen).bind id.inNetwork?

end Plan

/-- A DNS record that the plan asks for. -/
structure Record where
  /-- The domain, as it is shown. -/
  domain : String
  /-- The family of the address. -/
  family : Family
  /-- Whether the domain is proxied. -/
  proxied : Bool
  /-- The address, where it is known. -/
  address : Option Ip6
  deriving DecidableEq

/-- The records of one family. -/
def Plan.recordsOf (p : Plan) (detected : Option Ip6) (family : Family) : List Record :=
  (p.domainsOf family).map fun d =>
    { domain := d.describe
      family
      proxied := p.isProxied d
      address := match family with
        | .v4 => none
        | .v6 => detected.bind (p.ip6Address? d) }

/-- **The records of a plan**, those for IPv4 before those for IPv6; the
latter have addresses if one has been detected. -/
def Plan.records (p : Plan) (detected : Option Ip6) : List Record :=
  Family.all.flatMap (p.recordsOf detected)

end RecordPlan
