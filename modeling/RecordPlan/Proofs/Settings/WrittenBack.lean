import RecordPlan.Proofs.Managed.Merging
import RecordPlan.Proofs.Plan
import RecordPlan.Proofs.Setting.PrintedEntries

/-!
# Plans are written back as settings

A plan may be written as settings (`Plan.toSettings`): its domains for each
family as a list, those for IPv6 with their host IDs, and its predicate with
all parentheses. If the plan is one that settings come to, it is what the
settings that it is written as come to, without a message
(`resolved_plan_is_written_back`).

There are two sides to this. What has been read can be read back from its
text: its domains have been parsed, and its host IDs fit the prefix length
(`Listing.isReadable`, `Derives.isParsed`). And nothing is left to merge in
what has been merged: a merge is also the merge of the lists that it consists
of (`IsMerge.again`).
-/

namespace RecordPlan

variable {n : UInt8} {ts : List Token} {es : List Entry} {d : Domain} {p : Predicate}

/-! ## What has been read can be read back -/

/-- The domains of a list have been parsed. -/
theorem Listing.isParsed {prefixLen : Option UInt8} (list : Listing prefixLen ts es) :
    ∀ d ∈ es.map (·.domain), d.IsParsed := by
  induction list with
  | nil => exact fun d hd => nomatch hd
  | comma _ ih => exact ih
  | domain parsed _ ih | withHostId _ parsed _ _ ih =>
    exact List.forall_mem_cons.2 ⟨⟨_, parsed⟩, ih⟩

/-- **The entries of a list can be read back.** -/
theorem Listing.isReadable (list : Listing (some n) ts es) (le : n ≤ 128) :
    ∀ e ∈ es, e.IsReadable n := by
  intro e he
  refine ⟨list.isParsed _ (List.mem_map_of_mem he), fun id given => ⟨?_, le⟩⟩
  refine list.fits (d := e.domain) ?_
  rwa [← given]

/-- **The domains of an expression have been parsed.** -/
theorem Derives.isParsed {level : Level} (derived : Derives level ts p) :
    ∀ d ∈ p.domains, d.IsParsed := by
  induction derived with
  | ofConjunction _ ih | ofNegation _ ih | even _ _ ih | odd _ _ ih | parentheses _ ih => exact ih
  | or _ _ ihLeft ihRight | and _ _ ihLeft ihRight =>
    exact List.forall_mem_append.2 ⟨ihLeft, ihRight⟩
  | true _ | false _ => exact fun d hd => nomatch hd
  | is _ list | sub _ list => exact list.isParsed

/-- **Lists of domains that can be read back** from their texts. -/
structure DomainLists.IsReadable (n : UInt8) (lists : DomainLists) : Prop where
  /-- The domains for both families have been parsed. -/
  shared : ∀ d ∈ lists.shared, d.IsParsed
  /-- The domains for IPv4 have been parsed. -/
  ip4 : ∀ d ∈ lists.ip4, d.IsParsed
  /-- The entries for IPv6 can be read back. -/
  ip6 : ∀ e ∈ lists.ip6, e.IsReadable n

namespace DomainLists.IsReadable

variable {lists : DomainLists}

theorem isParsed (h : lists.IsReadable n) : ∀ d ∈ lists.all, d.IsParsed := by
  refine List.forall_mem_append.2 ⟨List.forall_mem_append.2 ⟨h.ip4, h.shared⟩, fun d hd => ?_⟩
  obtain ⟨e, he, rfl⟩ := List.mem_map.1 hd
  exact (h.ip6 e he).parsed

theorem unmarked (h : lists.IsReadable n) : ∀ d ∈ lists.all, d.IsUnmarked :=
  fun d hd => (h.isParsed d hd).isUnmarked

end DomainLists.IsReadable

theorem isParsed_of_readDomains {key : String} {value : List UInt8} {ds : List Domain}
    (read : (readDomains key value).outcome.result = .ok ds) : ∀ d ∈ ds, d.IsParsed := by
  obtain ⟨ts, es, -, list, rfl⟩ := readDomains_result_eq_ok.1 read
  exact list.isParsed

/-- The lists that settings name can be read back. -/
theorem Settings.isReadable_of_lists? {s : Settings} {lists : DomainLists} (le : s.prefixLen ≤ 128)
    (named : s.lists? = some lists) : lists.IsReadable s.prefixLen := by
  obtain ⟨shared, ip4, ip6⟩ := lists?_eq_some_iff.1 named
  obtain ⟨ts, -, list⟩ := readEntries_result_eq_ok.1 ip6
  exact ⟨isParsed_of_readDomains shared, isParsed_of_readDomains ip4, list.isReadable le⟩

/-! ## Nothing is left to merge -/

namespace Managed

/-- The entries for IPv6: its domains, with their host IDs. -/
def entries (m : Managed) : List Entry :=
  (m.domainsOf .v6).map fun d => ⟨d, m.hostIds.find? d⟩

/-- The lists that what is managed consists of. -/
def lists (m : Managed) : DomainLists where
  shared := []
  ip4 := m.domainsOf .v4
  ip6 := m.entries

theorem map_domain_entries (m : Managed) : m.entries.map (·.domain) = m.domainsOf .v6 :=
  map_domain_map _ _

end Managed

namespace IsMerge

variable {lists : DomainLists} {m : Managed} {id : HostId}

/-- What is managed is named by the lists. -/
theorem mem_all (h : IsMerge lists m) (family : Family) (hd : d ∈ m.domainsOf family) :
    d ∈ lists.all := by
  simp only [DomainLists.all, List.mem_append]
  cases family with
  | v4 => exact .inl ((h.mem_ip4 d).1 hd)
  | v6 => exact ((h.mem_ip6 d).1 hd).elim .inr fun shared => .inl (.inr shared)

/-- The entries of a merge give the host IDs that the lists give. -/
theorem mem_entries_iff (h : IsMerge lists m) (unmarked : ∀ d ∈ lists.all, d.IsUnmarked) :
    ⟨d, some id⟩ ∈ m.entries ↔ ⟨d, some id⟩ ∈ lists.ip6 := by
  have unmarkedEntries (e : Entry) (he : e ∈ lists.ip6) : e.domain.IsUnmarked :=
    unmarked e.domain (List.mem_append_right _ (List.mem_map_of_mem he))
  have found (hd : d ∈ m.domainsOf .v6) : m.hostIds.find? d = some id ↔ ⟨d, some id⟩ ∈ lists.ip6 :=
    h.hostIds.find?_eq_some_iff unmarkedEntries (unmarked d (h.mem_all .v6 hd))
  constructor
  · intro mem
    obtain ⟨d, hd, eq⟩ := List.mem_map.1 mem
    obtain ⟨rfl, given⟩ := Entry.mk.inj eq
    exact (found hd).1 given
  · intro mem
    have hd : d ∈ m.domainsOf .v6 := (h.mem_ip6 d).2 (.inl (List.mem_map_of_mem mem))
    exact List.mem_map.2 ⟨d, hd, congrArg (Entry.mk d) ((found hd).2 mem)⟩

/-- **A merge is its own merge.** -/
theorem again (h : IsMerge lists m) (unmarked : ∀ d ∈ lists.all, d.IsUnmarked) :
    IsMerge m.lists m where
  families := h.families
  ascending := h.ascending
  mem_ip4 d := (or_iff_left List.not_mem_nil).symm
  mem_ip6 d := by
    show _ ↔ d ∈ m.entries.map (·.domain) ∨ d ∈ []
    rw [m.map_domain_entries, or_iff_left List.not_mem_nil]
  hostIds := by
    refine ⟨h.hostIds.ascending, fun d id => ?_⟩
    exact (h.hostIds.mem_iff d id).trans (h.mem_entries_iff unmarked).symm

/-- A merge can be read back if the lists can. -/
theorem isReadable (h : IsMerge lists m) (readable : lists.IsReadable n) :
    m.lists.IsReadable n where
  shared d hd := nomatch hd
  ip4 d hd := readable.isParsed d (h.mem_all .v4 hd)
  ip6 e he := by
    obtain ⟨d, hd, rfl⟩ := List.mem_map.1 he
    refine ⟨readable.isParsed d (h.mem_all .v6 hd), fun id given => ?_⟩
    have entry : ⟨d, some id⟩ ∈ m.entries := by rwa [← given]
    exact (readable.ip6 _ ((h.mem_entries_iff readable.unmarked).1 entry)).fits id rfl

end IsMerge

/-- What a plan manages that settings resolve to is the merge of lists that can
be read back. -/
theorem Settings.exists_isMerge_of_resolve {s : Settings} {plan : Plan}
    (resolved : s.resolve.outcome.result = .ok plan) :
    ∃ lists : DomainLists, lists.IsReadable plan.prefixLen ∧ IsMerge lists plan.managed := by
  obtain ⟨le, ⟨lists, named, merged⟩, -, length⟩ := resolve_result_eq_ok_iff_lists?.1 resolved
  have readable := isReadable_of_lists? le named
  exact ⟨lists, length ▸ readable, isMerge_of_consolidate readable.unmarked merged⟩

/-! ## Plans -/

/-- **The settings that a plan is written as.** -/
def Plan.toSettings (p : Plan) : Settings where
  domains := .empty
  ip4Domains := .ofString (Predicate.printList (p.domainsOf .v4))
  ip6Domains := .ofString (Entry.printList "," p.managed.entries)
  prefixLen := p.prefixLen
  proxied := .ofString p.proxied.print

/-- A list of domains is read back. -/
theorem readDomains_printList {ds : List Domain} (parsed : ∀ d ∈ ds, d.IsParsed) (key : String)
    (j : Journal) :
    (readDomains key (RawValue.ofString (Predicate.printList ds)).bytes).run.run j =
      (.ok ds, j) := by
  have tokens : Token.ofBytes (RawValue.ofString (Predicate.printList ds)).bytes =
      .ok (Predicate.listTokens ds) :=
    Token.ofBytes_eq_ok_iff.2 ⟨_, rfl, Predicate.ofText_printList parsed⟩
  refine (readDomains_of_listing tokens (Predicate.missingCommas_listTokens_eq_nil ds)
    (Predicate.listing_listTokens parsed) j).trans ?_
  rw [map_domain_map]

/-- An expression is read back. -/
theorem readExpression_print (parsed : ∀ d ∈ p.domains, d.IsParsed) (key : String) (j : Journal) :
    (readExpression key (RawValue.ofString p.print).bytes).run.run j = (.ok p, j) :=
  readExpression_of_derives (Token.ofBytes_eq_ok_iff.2 ⟨_, rfl, Predicate.ofText_print parsed⟩)
    p.missingCommas_tokens_eq_nil (Predicate.derives_tokens parsed) j

/-- **A plan is written back** if nothing in it is left to merge and all of it
can be read back. -/
theorem Plan.run_resolve_toSettings {plan : Plan} (le : plan.prefixLen ≤ 128)
    (merge : IsMerge plan.managed.lists plan.managed)
    (readable : plan.managed.lists.IsReadable plan.prefixLen)
    (parsed : ∀ d ∈ plan.proxied.domains, d.IsParsed) (j : Journal) :
    plan.toSettings.resolve.run.run j = (.ok plan, j) := by
  have comma : Entry.IsSeparator "," := ⟨[], rfl, fun _ h => nomatch h⟩
  have shared : (readDomains domainsKey RawValue.empty.bytes).run.run j = (.ok [], j) :=
    readDomains_of_listing rfl rfl .nil j
  exact Settings.run_resolve_of_silent le shared (readDomains_printList readable.ip4 _ j)
    (Entry.readEntries_printList comma readable.ip6 _ j)
    (merge.run_consolidate readable.unmarked j) (readExpression_print parsed _ j)

/-- **A plan that settings resolve to is written back**: the settings that it is
written as resolve to the same plan, with the same domains, host IDs, predicate
and prefix length, and nothing is written into the journal. -/
theorem resolved_plan_is_written_back {s : Settings} {j j' : Journal} {plan : Plan}
    (resolved : s.resolve.run.run j = (.ok plan, j')) (k : Journal) :
    plan.toSettings.resolve.run.run k = (.ok plan, k) := by
  have result : s.resolve.outcome.result = .ok plan := by
    rw [← (Settings.resolve_spec s).1.appends.run_result j, resolved]
  obtain ⟨le, ⟨lists, named, merged⟩, read, length⟩ :=
    Settings.resolve_result_eq_ok_iff_lists?.1 result
  have readable := Settings.isReadable_of_lists? le named
  have merge := isMerge_of_consolidate readable.unmarked merged
  obtain ⟨ts, -, scanned⟩ := readSetting_result_eq_ok.1 read
  rw [← length] at le readable
  exact plan.run_resolve_toSettings le (merge.again readable.unmarked) (merge.isReadable readable)
    (scanExpression_result_eq_ok.1 scanned).isParsed k

/-- The plan with both kinds of host IDs is written with the MAC address in its
first form, and is written back. -/
theorem hostIdPlan_is_written_back :
    (∃ j', hostIdSettings.resolve.run.run .empty = (.ok hostIdPlan, j')) ∧
      hostIdPlan.toSettings.ip6Domains =
        .ofString "a.org[::1],b.org[aa:bb:cc:dd:ee:ff]" ∧
      hostIdPlan.toSettings.resolve.run.run .empty = (.ok hostIdPlan, .empty) := by
  have run := (Settings.resolve_spec hostIdSettings).1.appends .empty
  rw [hostIdSettings_resolve] at run
  exact ⟨⟨_, run⟩, by rfl, resolved_plan_is_written_back run .empty⟩

end RecordPlan
