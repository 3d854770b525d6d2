import RecordPlan.Domain.Order
import RecordPlan.Journal
import RecordPlan.Setting.Entry

/-!
# Managed domains

Settings name domains for both families of addresses, for IPv4 alone, and
for IPv6 alone, the latter with host IDs. `consolidate` merges the lists
into what is **managed**: the domains of each family, in order and without
repetitions, and the host IDs of those that have one. A domain may be
given the same host ID any number of times, but no two different ones.
-/

namespace RecordPlan

/-- A family of addresses. -/
inductive Family where
  /-- IPv4. -/
  | v4
  /-- IPv6. -/
  | v6
  deriving DecidableEq

namespace Family

/-- Both families, in order. -/
def all : List Family := [v4, v6]

/-- The name of a family. -/
def text : Family → String
  | v4 => "IPv4"
  | v6 => "IPv6"

/-- The name of a family in JSON. -/
def jsonName : Family → String
  | v4 => "v4"
  | v6 => "v6"

end Family

/-- The domains that settings name. -/
structure DomainLists where
  /-- For both families. -/
  shared : List Domain
  /-- For IPv4. -/
  ip4 : List Domain
  /-- For IPv6, possibly with host IDs. -/
  ip6 : List Entry

/-- Host IDs by domain, in the order of the domains. -/
abbrev HostIds := List (Domain × HostId)

namespace HostIds

/-- The host ID of a domain. -/
def find? (ids : HostIds) (d : Domain) : Option HostId :=
  (List.find? (fun entry => entry.1.sameName d) ids).map (·.2)

/-- Adds a domain that has no host ID yet. -/
def insert (d : Domain) (id : HostId) : HostIds → HostIds
  | [] => [(d, id)]
  | entry :: rest =>
    if entry.1.le d then entry :: insert d id rest else (d, id) :: entry :: rest

/-- Adds the host IDs of a list of entries, or names the first domain
that is given a second one. -/
def collect (ids : HostIds) : List Entry → Except SettingsError HostIds
  | [] => .ok ids
  | ⟨_, none⟩ :: rest => collect ids rest
  | ⟨d, some id⟩ :: rest =>
    match ids.find? d with
    | none => collect (ids.insert d id) rest
    | some first =>
      if first = id then collect ids rest else .error (.conflictingHostId d first id)

end HostIds

/-- **What is managed.** -/
structure Managed where
  /-- The domains of each family, in order and without repetitions. -/
  domains : List (Family × List Domain)
  /-- The host IDs of domains for IPv6. -/
  hostIds : HostIds
  deriving DecidableEq

namespace Managed

/-- Nothing is managed. -/
def empty : Managed := ⟨[], []⟩

instance : Inhabited Managed := ⟨empty⟩

/-- The domains of a family. -/
def domainsOf (m : Managed) (family : Family) : List Domain :=
  (m.domains.lookup family).getD []

/-- Whether no domain is managed. -/
def isEmpty (m : Managed) : Bool := m.domains.all (·.2.isEmpty)

end Managed

/-- **Merges lists of domains.** -/
def consolidate (lists : DomainLists) : Checked Managed :=
  match HostIds.collect [] lists.ip6 with
  | .error e => failWith e
  | .ok hostIds =>
    return {
      domains := [
        (.v4, Domain.sort (lists.ip4 ++ lists.shared)),
        (.v6, Domain.sort (lists.ip6.map (·.domain) ++ lists.shared))]
      hostIds }

end RecordPlan
