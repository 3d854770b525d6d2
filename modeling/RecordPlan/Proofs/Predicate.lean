import RecordPlan.Predicate
import RecordPlan.Proofs.Domain.Labels

/-!
# What lists of domains select

Behind `is` a list selects its domains, and behind `sub` all that lies under
one of them. Since that goes by labels, nothing is selected that ends with the
name of a domain in the middle of a label, and a list behind `sub` selects
everything below what it selects. The wildcard of a name lies under that name,
but the name does not lie under its wildcard, nor does anything else.

The main statement is `sub_goes_by_labels`.
-/

namespace RecordPlan

open Domain (fqdn wildcard)
open Predicate (is sub)

variable {ds : List Domain} {d e : Domain}

theorem selects_is_iff : (is ds).selects d = true ↔ d ∈ ds := by
  simp [Predicate.selects]

theorem selects_sub_iff : (sub ds).selects d = true ↔ ∃ t ∈ ds, d.isUnder t = true := by
  simp [Predicate.selects]

/-- What is selected by itself is selected with all that lies under it. -/
theorem selects_sub_of_is (h : (is ds).selects d = true) : (sub ds).selects d = true :=
  selects_sub_iff.2 ⟨d, selects_is_iff.1 h, d.isUnder_refl⟩

/-- **Behind `sub` a list selects everything below what it selects.** -/
theorem selects_sub_of_isUnder (h : (sub ds).selects d = true) (under : e.isUnder d = true) :
    (sub ds).selects e = true := by
  obtain ⟨t, ht, above⟩ := selects_sub_iff.1 h
  exact selects_sub_iff.2 ⟨t, ht, Domain.isUnder_trans under above⟩

theorem selects_sub_singleton : (sub [e]).selects d = true ↔ d.isUnder e = true := by
  simp [selects_sub_iff]

/-- **Lying under goes by labels.** A domain lies under another one if the labels
of the other, the star of a wildcard among them, are the last ones of its own.
So it is an order up to the name, and behind `sub` a list selects everything
below what it selects, and all that it selects behind `is`. Of the domains that
have been parsed, `sub` of a wildcard selects that wildcard only, while `sub` of
a name selects the wildcard of that name. -/
theorem sub_goes_by_labels :
    (∀ d e : Domain, d.isUnder e = true ↔ e.labels <:+ d.labels) ∧
    (∀ d : Domain, d.isUnder d = true) ∧
    (∀ d e f : Domain, d.isUnder e = true → e.isUnder f = true → d.isUnder f = true) ∧
    (∀ d e : Domain, d.isUnder e = true → e.isUnder d = true → d.dnsName = e.dnsName) ∧
    (∀ (ds : List Domain) (d e : Domain),
      (sub ds).selects d = true → e.isUnder d = true → (sub ds).selects e = true) ∧
    (∀ (ds : List Domain) (d : Domain),
      (is ds).selects d = true → (sub ds).selects d = true) ∧
    (∀ (suffix : String) (d : Domain), d.IsParsed →
      ((sub [wildcard suffix]).selects d = true ↔ d = wildcard suffix)) ∧
    ∀ suffix : String, (sub [fqdn suffix]).selects (wildcard suffix) = true := by
  refine ⟨fun _ _ => Domain.isUnder_iff, Domain.isUnder_refl, fun _ _ _ => Domain.isUnder_trans,
    fun _ _ => Domain.isUnder_antisymm, fun _ _ _ => selects_sub_of_isUnder,
    fun _ _ => selects_sub_of_is, fun suffix d parsed => ?_, fun suffix => ?_⟩
  · rw [selects_sub_singleton, parsed.isUnder_wildcard_iff]
  · rw [selects_sub_singleton]
    exact Domain.wildcard_isUnder_fqdn suffix

/-- A name with an empty label, and a wildcard, under names that they end with,
while a name that ends with another one in the middle of a label does not lie
under it, and a name like that of a wildcard lies under it and above it. -/
theorem names_with_odd_labels_are_selected :
    (fqdn "a..org").isUnder (fqdn ".org") = true ∧
      (fqdn "ab.org").isUnder (fqdn "b.org") = false ∧
      (fqdn "a..org").isUnder (fqdn "org") = true ∧
      (fqdn "*.org").dnsName = (wildcard "org").dnsName ∧
      (sub [fqdn "b.org"]).selects (wildcard "b.org") = true ∧
      (sub [fqdn "b.org"]).selects (wildcard "a.b.org") = true ∧
      (sub [wildcard "b.org"]).selects (fqdn "a.b.org") = false := by
  obtain ⟨labels, -, trans, antisymm, below, itself, wildcards, ofName⟩ := sub_goes_by_labels
  have first : (fqdn "a..org").isUnder (fqdn ".org") = true := (labels _ _).2 (by decide)
  have second : (fqdn ".org").isUnder (fqdn "org") = true := (labels _ _).2 (by decide)
  have parsed : (fqdn "a.b.org").IsParsed := ⟨"a.b.org", by decide⟩
  refine ⟨first, ?_, trans _ _ _ first second, ?_, ofName "b.org", ?_, ?_⟩
  · exact Bool.eq_false_iff.2 (mt (labels _ _).1 (by decide))
  · exact antisymm _ _ ((labels _ _).2 (by decide)) ((labels _ _).2 (by decide))
  · exact below _ (fqdn "b.org") _ (itself _ _ (by decide)) ((labels _ _).2 (by decide))
  · exact Bool.eq_false_iff.2 (mt (wildcards "b.org" _ parsed).1 (by decide))

end RecordPlan
