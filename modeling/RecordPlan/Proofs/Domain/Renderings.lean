import RecordPlan.Proofs.Domain.Order

/-!
# The texts of a domain

A domain that has been parsed is written in two ways: by its name in the
domain name system, and as it is shown. Either text is parsed as that domain
again, so parsing and writing is a projection, and either text tells the
domain from all others that have been parsed. So does its place in the order,
which compares names, although equality compares domains
(`Domain.order_eq_eq_iff`). The main statement is
`Domain.renderings_are_parsed_back`.
-/

namespace RecordPlan.Domain

variable {d e : Domain}

/-- Domains have the same place in the order if they have the same name. -/
theorem order_eq_eq_iff : d.order e = .eq ↔ d.dnsName = e.dnsName := by
  rw [order, Std.LawfulEqCmp.compare_eq_iff_eq]

/-- **What a text is parsed as is parsed back from both of its renderings.** Its
name is not empty and has no star in it. Of two domains that have been parsed
it comes to the same whether they are equal, have the same name in the domain
name system, are shown alike, or have the same place in the order. -/
theorem renderings_are_parsed_back :
    (∀ (raw : String) (d : Domain), Domain.parse raw = .ok d →
      Domain.parse d.dnsName = .ok d ∧ Domain.parse d.describe = .ok d ∧
        d.name ≠ "" ∧ '*' ∉ d.name.toList) ∧
    ∀ (raw raw' : String) (d e : Domain), Domain.parse raw = .ok d → Domain.parse raw' = .ok e →
      (d = e ↔ d.dnsName = e.dnsName) ∧ (d = e ↔ d.describe = e.describe) ∧
        (d = e ↔ d.order e = .eq) := by
  constructor
  · intro raw d h
    have parsed : d.IsParsed := ⟨raw, h⟩
    exact ⟨parsed.parse_dnsName, parsed.parse_describe, parsed.name_ne_empty,
      parsed.star_not_mem_name⟩
  · intro raw raw' d e hd he
    have parsed : d.IsParsed := ⟨raw, hd⟩
    have parsed' : e.IsParsed := ⟨raw', he⟩
    have names : d = e ↔ d.dnsName = e.dnsName :=
      eq_iff_of_parse parsed.parse_dnsName parsed'.parse_dnsName
    have shown : d = e ↔ d.describe = e.describe :=
      eq_iff_of_parse parsed.parse_describe parsed'.parse_describe
    exact ⟨names, shown, names.trans order_eq_eq_iff.symm⟩

/-- A wildcard in capital letters is parsed back, and is shown otherwise than
the name that it is the wildcard of. -/
theorem wildcard_is_parsed_back :
    Domain.parse "*.A-1.Org" = .ok (wildcard "a-1.org") ∧
      Domain.parse "A-1.org" = .ok (fqdn "a-1.org") ∧
      Domain.parse (wildcard "a-1.org").describe = .ok (wildcard "a-1.org") ∧
      (wildcard "a-1.org").describe ≠ (fqdn "a-1.org").describe ∧
      (wildcard "a-1.org").order (fqdn "a-1.org") ≠ .eq := by
  have parsed : Domain.parse "*.A-1.Org" = .ok (wildcard "a-1.org") := by decide
  have parsed' : Domain.parse "A-1.org" = .ok (fqdn "a-1.org") := by decide
  obtain ⟨-, shown, order⟩ := renderings_are_parsed_back.2 _ _ _ _ parsed parsed'
  have ne : wildcard "a-1.org" ≠ fqdn "a-1.org" := by decide
  exact ⟨parsed, parsed', (renderings_are_parsed_back.1 _ _ parsed).2.1, mt shown.2 ne,
    mt order.2 ne⟩

end RecordPlan.Domain
