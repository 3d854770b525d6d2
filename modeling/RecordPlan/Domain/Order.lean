import RecordPlan.Domain.Basic

/-!
# Domains in order

Domains are ordered by their names in the domain name system, character
by character. Two domains that were parsed are equal as soon as their
names are; a domain that was built without a check may share its name
with another one, since a name may begin with the mark of a wildcard. So
the order compares names, and equality compares domains.

`Domain.sort` puts domains in order and drops repetitions.
-/

namespace RecordPlan.Domain

/-- How two domains are ordered. -/
def order (a b : Domain) : Ordering := compare a.dnsName b.dnsName

/-- Whether one domain does not come after another. -/
def le (a b : Domain) : Bool := a.dnsName ≤ b.dnsName

/-- Whether two domains have the same place in the order. -/
def sameName (a b : Domain) : Bool := a.dnsName == b.dnsName

/-- Drops every domain that is equal to the one before it. -/
def dropRepeats : List Domain → List Domain
  | [] => []
  | [d] => [d]
  | d :: e :: rest => if d = e then dropRepeats (e :: rest) else d :: dropRepeats (e :: rest)

/-- **Domains in order, without repetitions.** Domains of one name keep
their order. -/
def sort (ds : List Domain) : List Domain := dropRepeats (ds.mergeSort le)

end RecordPlan.Domain
