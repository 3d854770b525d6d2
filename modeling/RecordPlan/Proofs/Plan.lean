import RecordPlan.Plan
import RecordPlan.Proofs.Managed.Merging
import RecordPlan.Proofs.Setting.Expression
import RecordPlan.Proofs.Settings.Resolve

/-!
# Plans always have an address

`Plan.ip6Address?` may fail, since a plan may hold a host ID that does not
go with its prefix length. No plan that settings resolve to is of this
kind: its prefix length has been checked, and its host IDs are those of a
list that was read against that very length (`Settings.plan_of_resolve`). They stand
in order, so a domain has the one under its name (`Settings.hostId?_eq_some_iff_of_resolve`).

An address that is found with a host ID lies in the network of the
detected one, and the network is all that it depends on
(`Plan.ip6Address?_of_fits`). So to find an address again, from the one
that was found before, changes nothing. The main statement is
`resolved_plan_has_addresses`.
-/

namespace RecordPlan

namespace Plan

variable {p : Plan} {d : Domain} {id : HostId}

/-- Without a host ID the detected address is the right one. -/
theorem ip6Address?_of_none (h : p.hostId? d = none) (x : Ip6) : p.ip6Address? d x = some x := by
  rw [ip6Address?, h]

/-- With a host ID the address is that of the host in the network. -/
theorem ip6Address?_of_some (h : p.hostId? d = some id) (le : p.prefixLen ≤ 128) (x : Ip6) :
    p.ip6Address? d x = id.inNetwork? ⟨x, p.prefixLen, le⟩ := by
  rw [ip6Address?, h]
  show (Network.ofAddress? x p.prefixLen).bind _ = _
  rw [Network.ofAddress?, dif_pos le]
  rfl

/-- **A host ID that fits leads to an address** in the network of the
detected one, which is the same for all of that network. -/
theorem ip6Address?_of_fits (h : p.hostId? d = some id) (le : p.prefixLen ≤ 128)
    (fits : id.Fits p.prefixLen) (x : Ip6) :
    ∃ a, p.ip6Address? d x = some a ∧ a.AgreeOn p.prefixLen.toNat x ∧
      ∀ y : Ip6, y.AgreeOn p.prefixLen.toNat x → p.ip6Address? d y = some a := by
  have fitsNetwork : id.Fits (Network.mk x p.prefixLen le).length := fits
  obtain ⟨a, ha, agree⟩ := HostId.inNetwork?_of_fits fitsNetwork
  refine ⟨a, (ip6Address?_of_some h le x).trans ha, agree, fun y hy => ?_⟩
  rw [ip6Address?_of_some h le y]
  exact HostId.inNetwork?_of_agreeOn ha rfl hy

end Plan

/-- **The plan that settings resolve to** has a prefix length that was
checked, host IDs only for domains it manages, and only such as fit. -/
theorem Settings.plan_of_resolve {s : Settings} {plan : Plan}
    (resolved : s.resolve.outcome.result = .ok plan) :
    plan.prefixLen ≤ 128 ∧
      ∀ d id, (d, id) ∈ plan.managed.hostIds →
        d ∈ plan.domainsOf .v6 ∧ id.Fits plan.prefixLen := by
  obtain ⟨le, shared, ip4, ip6, managed, proxied, -, -, read, merged, -, rfl⟩ :=
    resolve_result_eq_ok.1 resolved
  refine ⟨le, fun d id there => ?_⟩
  obtain ⟨ts, -, scanned⟩ := readSetting_result_eq_ok.1 read
  obtain ⟨collected, domains⟩ := consolidate_result_eq_ok.1 merged
  have entry : ⟨d, some id⟩ ∈ ip6 :=
    (HostIds.mem_of_collect collected there).resolve_left List.not_mem_nil
  refine ⟨?_, (scanEntries_result_eq_ok.1 scanned).fits entry⟩
  -- the entry that gives the host ID also names the domain for IPv6
  show d ∈ (managed.domains.lookup .v6).getD []
  rw [domains]
  show d ∈ Domain.sort (ip6.map (·.domain) ++ shared)
  rw [Domain.mem_sort]
  exact List.mem_append_left _ (List.mem_map_of_mem entry)

/-- **The host ID of a domain** in such a plan is the one that is managed under its
name. -/
theorem Settings.hostId?_eq_some_iff_of_resolve {s : Settings} {plan : Plan}
    (resolved : s.resolve.outcome.result = .ok plan) (d : Domain) (id : HostId) :
    plan.hostId? d = some id ↔ ∃ e, (e, id) ∈ plan.managed.hostIds ∧ e.dnsName = d.dnsName := by
  obtain ⟨-, shared, ip4, ip6, managed, proxied, -, -, -, merged, -, rfl⟩ :=
    resolve_result_eq_ok.1 resolved
  obtain ⟨collected, -⟩ := consolidate_result_eq_ok.1 merged
  exact HostIds.find?_eq_some_iff
    (HostIds.ascending_of_collect HostIds.Represents.nil.ascending collected)

/-- A plan that settings resolve to finds an address for every domain. -/
theorem Settings.exists_ip6Address?_of_resolve {s : Settings} {plan : Plan}
    (resolved : s.resolve.outcome.result = .ok plan) (d : Domain) (x : Ip6) :
    ∃ a, plan.ip6Address? d x = some a := by
  obtain ⟨le, hostIds⟩ := plan_of_resolve resolved
  cases h : plan.hostId? d with
  | none => exact ⟨x, Plan.ip6Address?_of_none h x⟩
  | some id =>
    obtain ⟨e, -, there⟩ := HostIds.mem_of_find? h
    obtain ⟨a, ha, -⟩ := Plan.ip6Address?_of_fits h le (hostIds e id there).2 x
    exact ⟨a, ha⟩

/-- **A plan that settings resolve to has an address for every domain**,
whatever address is detected: the detected one if the domain has no host
ID, and otherwise one of the same network, which depends on the network
only. If it is detected next, it is found again. A domain has the host ID
that is managed under its name. -/
theorem resolved_plan_has_addresses {s : Settings} {j j' : Journal} {plan : Plan}
    (resolved : s.resolve.run.run j = (.ok plan, j')) :
    plan.prefixLen ≤ 128 ∧
    (∀ d id, (d, id) ∈ plan.managed.hostIds → d ∈ plan.domainsOf .v6) ∧
    (∀ d a n, (d, .suffix a n) ∈ plan.managed.hostIds → n = plan.prefixLen) ∧
    (∀ d m, (d, .mac m) ∈ plan.managed.hostIds → plan.prefixLen ≤ 64) ∧
    (∀ d id, plan.hostId? d = some id ↔
      ∃ e, (e, id) ∈ plan.managed.hostIds ∧ e.dnsName = d.dnsName) ∧
    ∀ d x, ∃ a, plan.ip6Address? d x = some a ∧
      (plan.hostId? d = none → a = x) ∧
      (∀ id, plan.hostId? d = some id → a.AgreeOn plan.prefixLen.toNat x ∧
        ∀ y : Ip6, y.AgreeOn plan.prefixLen.toNat x → plan.ip6Address? d y = some a) ∧
      plan.ip6Address? d a = some a := by
  have result : s.resolve.outcome.result = .ok plan := by
    rw [← (Settings.resolve_spec s).1.appends.run_result j, resolved]
  obtain ⟨le, hostIds⟩ := Settings.plan_of_resolve result
  refine ⟨le, fun d id there => (hostIds d id there).1,
    fun d a n there => (hostIds d _ there).2, fun d m there => (hostIds d _ there).2,
    Settings.hostId?_eq_some_iff_of_resolve result, fun d x => ?_⟩
  cases h : plan.hostId? d with
  | none =>
    refine ⟨x, Plan.ip6Address?_of_none h x, fun _ => rfl, ?_, Plan.ip6Address?_of_none h x⟩
    exact fun _ found => nomatch found
  | some id =>
    obtain ⟨e, -, there⟩ := HostIds.mem_of_find? h
    obtain ⟨a, ha, agree, same⟩ := Plan.ip6Address?_of_fits h le (hostIds e id there).2 x
    -- the address that is found lies in the network itself, so `same` applies to it
    refine ⟨a, ha, ?_, fun _ _ => ⟨agree, same⟩, same a agree⟩
    exact fun absent => nomatch absent

/-! ## A plan with both kinds of host IDs -/

/-- Settings with a host part and a MAC address, for networks of 48 bits. -/
def hostIdSettings : Settings :=
  { (default : Settings) with
    ip6Domains := .ofString "a.org[::1],b.org[aa-bb-cc-dd-ee-ff]"
    prefixLen := 48 }

/-- What these settings resolve to. -/
def hostIdPlan : Plan :=
  { managed :=
      { domains := [(.v4, []), (.v6, [.fqdn "a.org", .fqdn "b.org"])]
        hostIds := [(.fqdn "a.org", .suffix ⟨1⟩ 48), (.fqdn "b.org", .mac ⟨0xAABBCCDDEEFF⟩)] }
    proxied := .const false
    prefixLen := 48 }

theorem sort_hostIdPlan :
    Domain.sort [.fqdn "a.org", .fqdn "b.org"] = [.fqdn "a.org", .fqdn "b.org"] := by
  simp [Domain.sort, List.mergeSort, List.merge, List.MergeSort.Internal.splitInTwo, Domain.le]
  decide

theorem hostIdSettings_resolve : hostIdSettings.resolve.outcome.result = .ok hostIdPlan := by
  refine Settings.resolve_result_eq_ok.2 ⟨by decide, [], [],
    [⟨.fqdn "a.org", some (.suffix ⟨1⟩ 48)⟩, ⟨.fqdn "b.org", some (.mac ⟨0xAABBCCDDEEFF⟩)⟩],
    hostIdPlan.managed, .const false, ?_, ?_, ?_, ?_, ?_, rfl⟩
  · exact readSetting_result_eq_ok.2 ⟨[], rfl, scanDomains_result_eq_ok.2 ⟨[], .nil, rfl⟩⟩
  · exact readSetting_result_eq_ok.2 ⟨[], rfl, scanDomains_result_eq_ok.2 ⟨[], .nil, rfl⟩⟩
  · refine readSetting_result_eq_ok.2 ⟨[.word "a.org", .leftBracket, .word "::1", .rightBracket,
      .comma, .word "b.org", .leftBracket, .word "aa-bb-cc-dd-ee-ff", .rightBracket], rfl,
      scanEntries_result_eq_ok.2 ?_⟩
    exact .withHostId rfl rfl rfl (.comma (.withHostId rfl rfl rfl .nil))
  · refine consolidate_result_eq_ok.2 ⟨rfl, ?_⟩
    show _ = [(Family.v4, Domain.sort []), (.v6, Domain.sort [.fqdn "a.org", .fqdn "b.org"])]
    rw [sort_hostIdPlan]
    simp [Domain.sort, Domain.dropRepeats, hostIdPlan]
  · refine readSetting_result_eq_ok.2 ⟨[.word "false"], rfl, scanExpression_result_eq_ok.2 ?_⟩
    exact (Derives.false (by decide)).disjunction

/-- When `2001:db8:1:2:3:4:5:6` is detected, the host of `b.org` has the address
`2001:db8:1:0:a8bb:ccff:fedd:eeff` in the same network, and it is found again when it
is detected next. -/
theorem hostIdPlan_has_address :
    ∃ j', hostIdSettings.resolve.run.run .empty = (.ok hostIdPlan, j') ∧
      hostIdPlan.hostId? (.fqdn "b.org") = some (.mac ⟨0xAABBCCDDEEFF⟩) ∧
      let x : Ip6 := ⟨0x20010DB8000100020003000400050006⟩
      let a : Ip6 := ⟨0x20010DB800010000A8BBCCFFFEDDEEFF⟩
      hostIdPlan.ip6Address? (.fqdn "b.org") x = some a ∧ a.AgreeOn 48 x ∧
        hostIdPlan.ip6Address? (.fqdn "b.org") a = some a := by
  have run := (Settings.resolve_spec hostIdSettings).1.appends .empty
  rw [hostIdSettings_resolve] at run
  obtain ⟨-, -, -, -, hostIds, addresses⟩ := resolved_plan_has_addresses run
  have hostId := (hostIds (.fqdn "b.org") (.mac ⟨0xAABBCCDDEEFF⟩)).2
    ⟨.fqdn "b.org", List.mem_cons_of_mem _ List.mem_cons_self, rfl⟩
  obtain ⟨a, ha, -, agree, again⟩ :=
    addresses (.fqdn "b.org") ⟨0x20010DB8000100020003000400050006⟩
  obtain rfl : a = ⟨0x20010DB800010000A8BBCCFFFEDDEEFF⟩ := Option.some.inj (ha.symm.trans rfl)
  exact ⟨_, run, hostId, ha, (agree _ hostId).1, again⟩

end RecordPlan
