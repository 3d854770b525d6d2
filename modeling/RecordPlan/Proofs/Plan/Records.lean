import RecordPlan.Proofs.Settings.WrittenBack

/-!
# Records show the plan

A record is what an operator is shown of a domain in a plan: a text for the
domain, a family, a flag, and possibly an address. `Record.Shows` says what
each of these has to be, and the records of a plan show its domains one by
one, those for IPv4 before those for IPv6 (`Plan.recordsOf_shows`). There are none
exactly if the plan is empty (`Settings.records_eq_nil_iff_of_resolve`).

Nothing is lost on the way to a text if the plan is one that settings resolve
to. Its domains have been parsed, so no two of them have the same text
(`Domain.eq_of_describe_eq`), and each of them has an address as soon as one
is detected. The main statement is `resolved_plan_is_shown`.
-/

namespace RecordPlan

variable {plan : Plan} {detected : Option Ip6} {family : Family} {d : Domain} {r : Record}

/-- **A record shows a domain** of a family in a plan. -/
structure Record.Shows (plan : Plan) (detected : Option Ip6) (family : Family) (d : Domain)
    (r : Record) : Prop where
  /-- The text is that of the domain. -/
  domain : r.domain = d.describe
  /-- The family is named. -/
  family : r.family = family
  /-- The flag is what the predicate of the plan says about the domain. -/
  proxied : r.proxied = plan.proxied.selects d
  /-- No address is shown for IPv4. -/
  ip4_address : r.family = .v4 → r.address = none
  /-- No address is shown if none has been detected. -/
  undetected : detected = none → r.address = none
  /-- The address for IPv6 is the one that the plan finds for the domain. -/
  ip6_address : r.family = .v6 → ∀ x, detected = some x →
    ∃ a, plan.ip6Address? d x = some a ∧ r.address = some a

/-- An address is shown for IPv6, and only if one has been detected. -/
theorem Record.Shows.address_isSome_iff (h : r.Shows plan detected family d) :
    r.address.isSome = true ↔ r.family = .v6 ∧ detected.isSome = true := by
  cases hdetected : detected with
  | none => simp [h.undetected hdetected]
  | some x =>
    cases hfamily : r.family with
    | v4 => simp [h.ip4_address hfamily]
    | v6 =>
      obtain ⟨a, -, ha⟩ := h.ip6_address hfamily x hdetected
      simp [ha]

namespace Plan

theorem records_eq_append (plan : Plan) (detected : Option Ip6) :
    plan.records detected = plan.recordsOf detected .v4 ++ plan.recordsOf detected .v6 := by
  simp [records, Family.all]

/-- **There is a record for each domain of a family**, and it shows the domain
if the plan finds an address for it. -/
theorem exists_recordsOf_eq_map (found : ∀ d x, ∃ a, plan.ip6Address? d x = some a)
    (detected : Option Ip6) (family : Family) :
    ∃ record : Domain → Record, plan.recordsOf detected family = (plan.domainsOf family).map record ∧
      ∀ d, (record d).Shows plan detected family d := by
  refine ⟨_, rfl, fun d => ?_⟩
  cases family with
  | v4 => exact ⟨rfl, rfl, rfl, fun _ => rfl, fun _ => rfl, nofun⟩
  | v6 =>
    refine ⟨rfl, rfl, rfl, nofun, ?_, ?_⟩
    · rintro rfl
      rfl
    · rintro - x rfl
      obtain ⟨a, ha⟩ := found d x
      exact ⟨a, ha, ha⟩

/-- **The records of a family show its domains one by one.** -/
theorem recordsOf_shows (found : ∀ d x, ∃ a, plan.ip6Address? d x = some a)
    (detected : Option Ip6) (family : Family) :
    List.Forall₂ (Record.Shows plan detected family) (plan.domainsOf family)
      (plan.recordsOf detected family) := by
  obtain ⟨record, eq, shows⟩ := plan.exists_recordsOf_eq_map found detected family
  rw [eq, List.forall₂_map_right_iff, List.forall₂_same]
  exact fun d _ => shows d

/-- A record shows a domain of its family. -/
theorem exists_shows_of_mem (found : ∀ d x, ∃ a, plan.ip6Address? d x = some a)
    (hr : r ∈ plan.records detected) :
    ∃ d ∈ plan.domainsOf r.family, r.Shows plan detected r.family d := by
  obtain ⟨family, -, hr⟩ := List.mem_flatMap.1 hr
  obtain ⟨record, eq, shows⟩ := plan.exists_recordsOf_eq_map found detected family
  rw [eq] at hr
  obtain ⟨d, hd, rfl⟩ := List.mem_map.1 hr
  obtain rfl := (shows d).family
  exact ⟨d, hd, shows d⟩

/-- No two records have both family and text in common, if no two domains of a
family have the same text. -/
theorem pairwise_records (apart : ∀ family,
      (plan.domainsOf family).Pairwise fun d e => d.describe ≠ e.describe)
    (detected : Option Ip6) :
    (plan.records detected).Pairwise fun r r' => ¬ (r.family = r'.family ∧ r.domain = r'.domain) := by
  have families : Family.all.Pairwise (· ≠ ·) := by decide
  rw [records, List.flatMap_def, List.pairwise_flatten, List.forall_mem_map, List.pairwise_map]
  refine ⟨fun family _ => ?_, families.imp fun {family family'} differ r hr r' hr' same => ?_⟩
  · rw [recordsOf, List.pairwise_map]
    exact (apart family).imp fun differ same => differ same.2
  · obtain ⟨d, -, rfl⟩ := List.mem_map.1 hr
    obtain ⟨e, -, rfl⟩ := List.mem_map.1 hr'
    exact differ same.1

end Plan

/-- A plan that settings resolve to manages domains that have been parsed, those
of each family in ascending order. -/
theorem Settings.isParsed_of_resolve {s : Settings}
    (resolved : s.resolve.outcome.result = .ok plan) (family : Family) :
    (∀ d ∈ plan.domainsOf family, d.IsParsed) ∧ Domain.Ascending (plan.domainsOf family) := by
  obtain ⟨lists, readable, merge⟩ := exists_isMerge_of_resolve resolved
  exact ⟨fun d hd => readable.isParsed d (merge.mem_all family hd), merge.ascending family⟩

/-- **No record is shown** of a plan that settings resolve to exactly if it manages no
domain. -/
theorem Settings.records_eq_nil_iff_of_resolve {s : Settings}
    (resolved : s.resolve.outcome.result = .ok plan) (detected : Option Ip6) :
    plan.records detected = [] ↔ plan.isEmpty = true := by
  obtain ⟨lists, -, merge⟩ := exists_isMerge_of_resolve resolved
  have nil : plan.records detected = [] ↔ ∀ family, plan.domainsOf family = [] := by
    have each (family : Family) : family ∈ Family.all := by cases family <;> decide
    simp [Plan.records, Plan.recordsOf, each]
  rw [nil]
  exact ⟨Managed.isEmpty_of_domainsOf_eq_nil merge.families,
    Managed.domainsOf_eq_nil_of_isEmpty⟩

/-- **The records of a plan that settings resolve to show the plan**, whether or
not an address has been detected: each domain for IPv4 once and in ascending
order, then each domain for IPv6, and nothing else. Family and text tell a
record from all others; records of one text have the same flag; and those for
IPv6 have addresses exactly if one has been detected. -/
theorem resolved_plan_is_shown {s : Settings} {j j' : Journal}
    (resolved : s.resolve.run.run j = (.ok plan, j')) (detected : Option Ip6) :
    (∀ family, Domain.Ascending (plan.domainsOf family)) ∧
    (∃ ip4 ip6, plan.records detected = ip4 ++ ip6 ∧
      List.Forall₂ (Record.Shows plan detected .v4) (plan.domainsOf .v4) ip4 ∧
      List.Forall₂ (Record.Shows plan detected .v6) (plan.domainsOf .v6) ip6) ∧
    ((plan.records detected).Pairwise fun r r' =>
      ¬ (r.family = r'.family ∧ r.domain = r'.domain)) ∧
    (∀ r ∈ plan.records detected, ∀ r' ∈ plan.records detected,
      r.domain = r'.domain → r.proxied = r'.proxied) ∧
    ∀ r ∈ plan.records detected,
      r.address.isSome = true ↔ r.family = .v6 ∧ detected.isSome = true := by
  have result : s.resolve.outcome.result = .ok plan := by
    rw [← (Settings.resolve_spec s).1.appends.run_result j, resolved]
  have found (d : Domain) (x : Ip6) : ∃ a, plan.ip6Address? d x = some a :=
    Settings.exists_ip6Address?_of_resolve result d x
  have managed := Settings.isParsed_of_resolve result
  refine ⟨fun family => (managed family).2,
    ⟨_, _, plan.records_eq_append detected, plan.recordsOf_shows found detected .v4,
      plan.recordsOf_shows found detected .v6⟩,
    plan.pairwise_records (fun family => ?_) detected, fun r hr r' hr' same => ?_, fun r hr => ?_⟩
  · refine (managed family).2.imp_of_mem fun {d e} hd he lt same => ?_
    obtain rfl := Domain.eq_of_describe_eq ((managed family).1 d hd) ((managed family).1 e he) same
    exact String.lt_irrefl _ lt
  · obtain ⟨d, hd, shows⟩ := plan.exists_shows_of_mem found hr
    obtain ⟨e, he, shows'⟩ := plan.exists_shows_of_mem found hr'
    obtain rfl : d = e := Domain.eq_of_describe_eq ((managed _).1 d hd) ((managed _).1 e he)
      (by rw [← shows.domain, same, shows'.domain])
    rw [shows.proxied, shows'.proxied]
  · obtain ⟨d, -, shows⟩ := plan.exists_shows_of_mem found hr
    exact shows.address_isSome_iff

/-! ## A domain of both families and its wildcard -/

/-- Settings with a domain for both families, which alone is proxied, and its
wildcard for IPv6, with a host part. -/
def sharedSettings : Settings :=
  { (default : Settings) with
    domains := .ofString "a.org"
    ip6Domains := .ofString "*.a.org[::5]"
    proxied := .ofString "is(a.org)" }

/-- What these settings resolve to. -/
def sharedPlan : Plan :=
  { managed :=
      { domains := [(.v4, [.fqdn "a.org"]), (.v6, [.wildcard "a.org", .fqdn "a.org"])]
        hostIds := [(.wildcard "a.org", .suffix ⟨5⟩ 64)] }
    proxied := .is [.fqdn "a.org"]
    prefixLen := 64 }

theorem sharedSettings_resolve : sharedSettings.resolve.outcome.result = .ok sharedPlan := by
  refine Settings.resolve_result_eq_ok.2 ⟨by decide, [.fqdn "a.org"], [],
    [⟨.wildcard "a.org", some (.suffix ⟨5⟩ 64)⟩], sharedPlan.managed, .is [.fqdn "a.org"],
    ?_, ?_, ?_, ?_, ?_, rfl⟩
  · refine readSetting_result_eq_ok.2 ⟨[.word "a.org"], rfl, scanDomains_result_eq_ok.2 ?_⟩
    exact ⟨[⟨.fqdn "a.org", none⟩], .domain rfl .nil, rfl⟩
  · exact readSetting_result_eq_ok.2 ⟨[], rfl, scanDomains_result_eq_ok.2 ⟨[], .nil, rfl⟩⟩
  · refine readSetting_result_eq_ok.2 ⟨[.word "*.a.org", .leftBracket, .word "::5", .rightBracket],
      rfl, scanEntries_result_eq_ok.2 ?_⟩
    exact .withHostId rfl rfl rfl .nil
  · refine consolidate_result_eq_ok.2 ⟨rfl, ?_⟩
    have ip4 : Domain.Ascending [.fqdn "a.org"] := by decide
    have ip6 : Domain.Ascending [.wildcard "a.org", .fqdn "a.org"] := by decide
    show _ = [(Family.v4, Domain.sort [.fqdn "a.org"]),
      (.v6, Domain.sort [.wildcard "a.org", .fqdn "a.org"])]
    rw [ip4.sort_eq (by decide), ip6.sort_eq (by decide)]
    rfl
  · refine readSetting_result_eq_ok.2 ⟨[.word "is", .leftParen, .word "a.org", .rightParen], rfl,
      scanExpression_result_eq_ok.2 ?_⟩
    exact (Derives.is (by decide) (.domain rfl .nil)).disjunction

/-- When `2001:db8::1` is detected, the domain is shown once for each family, with
the same flag and with addresses for IPv6 alone, and its wildcard with that of the
host; no two records have both family and text in common. -/
theorem sharedPlan_is_shown :
    (∃ j', sharedSettings.resolve.run.run .empty = (.ok sharedPlan, j')) ∧
      sharedPlan.records (some ⟨0x20010DB8000000000000000000000001⟩) =
        [⟨"a.org", .v4, true, none⟩,
          ⟨"*.a.org", .v6, false, some ⟨0x20010DB8000000000000000000000005⟩⟩,
          ⟨"a.org", .v6, true, some ⟨0x20010DB8000000000000000000000001⟩⟩] ∧
      (sharedPlan.records (some ⟨0x20010DB8000000000000000000000001⟩)).Pairwise fun r r' =>
        ¬ (r.family = r'.family ∧ r.domain = r'.domain) := by
  have run := (Settings.resolve_spec sharedSettings).1.appends .empty
  rw [sharedSettings_resolve] at run
  obtain ⟨-, -, apart, -⟩ := resolved_plan_is_shown run (some ⟨0x20010DB8000000000000000000000001⟩)
  exact ⟨⟨_, run⟩, rfl, apart⟩

end RecordPlan
