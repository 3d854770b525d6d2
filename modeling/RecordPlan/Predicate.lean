import RecordPlan.Domain.Basic

/-!
# Predicates on domains

A **predicate** tells for every domain whether it is selected. `is` and
`sub` select by a list of domains, exactly those or all that lie under
them; what they select is combined by "not", "and" and "or". A predicate
holds no more than its meaning needs: parentheses leave no trace in it.
-/

namespace RecordPlan

/-- **A predicate on domains.** -/
inductive Predicate where
  /-- Selects every domain, or none. -/
  | const (value : Bool)
  /-- Selects the domains of a list. -/
  | is (targets : List Domain)
  /-- Selects the domains that are, or lie under, one of a list. -/
  | sub (targets : List Domain)
  /-- Selects what another predicate does not. -/
  | not (p : Predicate)
  /-- Selects what both of two predicates do. -/
  | and (left right : Predicate)
  /-- Selects what one of two predicates does. -/
  | or (left right : Predicate)
  deriving DecidableEq

namespace Predicate

/-- Selecting nothing is the default. -/
instance : Inhabited Predicate := ⟨const false⟩

/-- **Whether a domain is selected.** -/
def selects : Predicate → Domain → Bool
  | const value, _ => value
  | is targets, d => targets.any (· = d)
  | sub targets, d => targets.any (d.isUnder ·)
  | not p, d => !p.selects d
  | and left right, d => left.selects d && right.selects d
  | or left right, d => left.selects d || right.selects d

end Predicate

end RecordPlan
