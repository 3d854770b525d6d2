import RecordPlan.Proofs.Managed

/-!
# Merging lists

What lists are merged into is told without any reference to how it is done:
the domains of each family, in ascending order, and the host ID of every
domain that an entry gives one to (`IsMerge`). There is no more than one
such merge, and lists that say the same in a different order, or more than
once, have the same one (`IsMerge.unique`).

Host IDs are collected entry by entry. At each step those collected so far
**represent** the entries that have been gone through
(`HostIds.Represents`), and so a host ID that differs from the one that is
there is the first that differs from an earlier one
(`HostIds.represents_or_conflict`). The main statement is
`lists_are_merged_exactly`.
-/

namespace RecordPlan

variable {ids ids' : HostIds} {d e : Domain} {id : HostId} {es before : List Entry}

/-! ## Entries that agree -/

/-- **Whether no domain is given two different host IDs.** -/
def HostIdsAgree (es : List Entry) : Prop :=
  ∀ d id id', ⟨d, some id⟩ ∈ es → ⟨d, some id'⟩ ∈ es → id = id'

/-- The host ID that a domain is given first. -/
def firstHostId? (es : List Entry) (d : Domain) : Option HostId :=
  es.findSome? fun e => if e.domain = d then e.hostId else none

/-- **The first entry that differs** from an earlier one: it gives a domain
the host ID `second`, after the first host ID of that domain has been
`first`, and the entries before it agree. -/
def IsFirstConflict (es : List Entry) (d : Domain) (first second : HostId) : Prop :=
  ∃ before after, es = before ++ ⟨d, some second⟩ :: after ∧ HostIdsAgree before ∧
    firstHostId? before d = some first ∧ first ≠ second

theorem mem_of_firstHostId? (h : firstHostId? es d = some id) : ⟨d, some id⟩ ∈ es := by
  obtain ⟨⟨e, given⟩, mem, found⟩ := List.exists_of_findSome?_eq_some h
  dsimp only at found
  split at found
  · next same => exact same ▸ found ▸ mem
  · cases found

/-- The host ID that is given first is the only one, where entries agree. -/
theorem HostIdsAgree.firstHostId?_eq_some (agree : HostIdsAgree es) (mem : ⟨d, some id⟩ ∈ es) :
    firstHostId? es d = some id := by
  cases h : firstHostId? es d with
  | none =>
    have absent := List.findSome?_eq_none_iff.1 h _ mem
    simp at absent
  | some id' => exact congrArg some (agree d id' id (mem_of_firstHostId? h) mem)

/-- Where there is a conflict, entries do not agree. -/
theorem IsFirstConflict.not_agree {first second : HostId} (h : IsFirstConflict es d first second) :
    ¬ HostIdsAgree es := by
  obtain ⟨before, after, rfl, -, given, ne⟩ := h
  intro agree
  refine ne (agree d first second ?_ ?_)
  · exact List.mem_append_left _ (mem_of_firstHostId? given)
  · exact List.mem_append_right _ List.mem_cons_self

/-! ## Collecting host IDs -/

namespace HostIds

/-- **Host IDs represent entries** if they are those that the entries give
to domains, in the order of the domains. -/
structure Represents (ids : HostIds) (es : List Entry) : Prop where
  /-- Every domain has one host ID, and domains are in order. -/
  ascending : Domain.Ascending (ids.map (·.1))
  /-- The host IDs are those that entries give. -/
  mem_iff : ∀ d id, (d, id) ∈ ids ↔ ⟨d, some id⟩ ∈ es

theorem find?_eq_none_iff :
    ids.find? d = none ↔ ∀ entry ∈ ids, entry.1.dnsName ≠ d.dnsName := by
  simp [find?, Domain.sameName]

/-- A host ID is added at its place. -/
theorem ascending_insert (h : Domain.Ascending (ids.map (·.1))) (absent : ids.find? d = none) :
    Domain.Ascending ((insert d id ids).map (·.1)) := by
  rw [find?_eq_none_iff] at absent
  induction ids with
  | nil => exact List.pairwise_singleton _ d
  | cons entry rest ih =>
    obtain ⟨first, later⟩ := List.pairwise_cons.1 h
    rw [insert]
    split
    · next le =>
      have inserted := ih later fun entry mem => absent entry (List.mem_cons_of_mem _ mem)
      refine List.pairwise_cons.2 ⟨fun e mem => ?_, inserted⟩
      obtain ⟨⟨e, id'⟩, there, rfl⟩ := List.mem_map.1 mem
      rcases mem_insert.1 there with eq | old
      · obtain ⟨rfl, rfl⟩ := Prod.mk.inj eq
        exact Std.lt_of_le_of_ne (Domain.le_iff.1 le) (absent entry List.mem_cons_self)
      · exact first e (List.mem_map_of_mem old)
    · next notLe =>
      have before : d.dnsName < entry.1.dnsName := String.not_le.1 (mt Domain.le_iff.2 notLe)
      refine List.pairwise_cons.2 ⟨fun e mem => ?_, h⟩
      rcases List.mem_cons.1 mem with rfl | mem
      · exact before
      · exact String.lt_trans before (first e mem)

/-- Host IDs are collected in the order of the domains. -/
theorem ascending_of_collect (h : Domain.Ascending (ids.map (·.1)))
    (collected : collect ids es = .ok ids') : Domain.Ascending (ids'.map (·.1)) := by
  induction ids, es using collect.induct with
  | case1 ids => exact Except.ok.inj collected ▸ h
  | case2 ids d rest ih => exact ih h collected
  | case3 ids d id rest absent ih =>
    rw [collect, absent] at collected
    exact ih (ascending_insert h absent) collected
  | case4 ids d rest first found ih =>
    rw [collect, found] at collected
    exact ih h (by simpa using collected)
  | case5 ids d id rest first found ne =>
    rw [collect, found] at collected
    simp [ne] at collected

/-- **The host ID that is found** for a domain is the one that its name has. -/
theorem find?_eq_some_iff (h : Domain.Ascending (ids.map (·.1))) :
    ids.find? d = some id ↔ ∃ e, (e, id) ∈ ids ∧ e.dnsName = d.dnsName := by
  have given {id : HostId} (found : ids.find? d = some id) :
      ∃ e, (e, id) ∈ ids ∧ e.dnsName = d.dnsName := by
    obtain ⟨e, same, mem⟩ := mem_of_find? found
    exact ⟨e, mem, beq_iff_eq.1 same⟩
  refine ⟨given, ?_⟩
  rintro ⟨e, mem, same⟩
  cases found : ids.find? d with
  | none => exact absurd same (find?_eq_none_iff.1 found _ mem)
  | some id' =>
    -- no name stands twice in an ascending list
    obtain ⟨e', mem', same'⟩ := given found
    have nodup : (ids.map (Domain.dnsName ∘ (·.1))).Nodup := by
      rw [← List.map_map]
      exact h.nodup_map_dnsName
    have eq : (e', id') = (e, id) := List.inj_on_of_nodup_map nodup mem' mem (same'.trans same.symm)
    exact congrArg some (Prod.mk.inj eq).2

namespace Represents

theorem nil : Represents [] [] :=
  ⟨.nil, fun _ _ => by simp⟩

/-- Entries that are represented agree, for no domain stands twice in an
ascending list. -/
theorem agree (h : ids.Represents es) : HostIdsAgree es := by
  intro d id id' mem mem'
  have eq : (d, id) = (d, id') := List.inj_on_of_nodup_map h.ascending.nodup
    ((h.mem_iff d id).2 mem) ((h.mem_iff d id').2 mem') rfl
  exact congrArg Prod.snd eq

/-- **Entries that give the same host IDs** are represented by the same. -/
theorem unique {es' : List Entry} (h : ids.Represents es) (h' : ids'.Represents es')
    (same : ∀ d id, ⟨d, some id⟩ ∈ es ↔ ⟨d, some id⟩ ∈ es') : ids = ids' := by
  have ascending := List.pairwise_map.1 h.ascending
  have ascending' := List.pairwise_map.1 h'.ascending
  refine Domain.eq_of_pairwise_lt (fun entry => entry.1.dnsName) ascending ascending' ?_
  rintro ⟨d, id⟩
  rw [h.mem_iff, h'.mem_iff, same]

/-- The host ID that is found for a domain is the one that an entry gives
it. -/
theorem find?_eq_some_iff (h : ids.Represents es) (unmarked : ∀ e ∈ es, e.domain.IsUnmarked)
    (hd : d.IsUnmarked) : ids.find? d = some id ↔ ⟨d, some id⟩ ∈ es := by
  rw [HostIds.find?_eq_some_iff h.ascending, ← h.mem_iff]
  constructor
  · rintro ⟨e, mem, same⟩
    obtain rfl : e = d := Domain.eq_of_dnsName_eq (unmarked _ ((h.mem_iff e id).1 mem)) hd same
    exact mem
  · exact fun mem => ⟨d, mem, rfl⟩

/-- An entry without a host ID gives none. -/
theorem append_none (h : ids.Represents es) : ids.Represents (es ++ [⟨d, none⟩]) :=
  ⟨h.ascending, fun e id => by simp [h.mem_iff]⟩

/-- An entry may give a host ID again. -/
theorem append_old (h : ids.Represents es) (mem : ⟨d, some id⟩ ∈ es) :
    ids.Represents (es ++ [⟨d, some id⟩]) := by
  refine ⟨h.ascending, fun e id' => ?_⟩
  rw [h.mem_iff, List.mem_append, List.mem_singleton]
  exact ⟨.inl, fun old => old.elim (fun there => there) fun eq => eq ▸ mem⟩

/-- A domain that has no host ID yet is given one. -/
theorem append_new (h : ids.Represents es) (absent : ids.find? d = none) :
    (ids.insert d id).Represents (es ++ [⟨d, some id⟩]) := by
  refine ⟨ascending_insert h.ascending absent, fun e id' => ?_⟩
  rw [mem_insert, h.mem_iff, List.mem_append, List.mem_singleton, or_comm]
  simp

end Represents

/-- **Collecting host IDs** goes on until they represent all entries, or
stops at the first that differs from an earlier one. The induction is on the
entries that are left; those that have been gone through are represented. -/
theorem represents_or_conflict (h : ids.Represents before)
    (unmarked : ∀ e ∈ before ++ es, e.domain.IsUnmarked) :
    (∃ ids', collect ids es = .ok ids' ∧ ids'.Represents (before ++ es)) ∨
    ∃ d first second, collect ids es = .error (.conflictingHostId d first second) ∧
      IsFirstConflict (before ++ es) d first second := by
  induction ids, es using collect.induct generalizing before with
  | case1 ids => exact .inl ⟨ids, rfl, by rwa [List.append_nil]⟩
  | case2 ids d rest ih =>
    rw [List.append_cons] at unmarked ⊢
    rw [collect]
    exact ih h.append_none unmarked
  | case3 ids d id rest absent ih =>
    rw [List.append_cons] at unmarked ⊢
    rw [collect, absent]
    exact ih (h.append_new absent) unmarked
  | case4 ids d rest first found ih =>
    have unmarkedBefore (e : Entry) (mem : e ∈ before) := unmarked e (List.mem_append_left _ mem)
    have unmarkedDomain : d.IsUnmarked :=
      unmarked ⟨d, some first⟩ (List.mem_append_right _ List.mem_cons_self)
    have mem := (h.find?_eq_some_iff unmarkedBefore unmarkedDomain).1 found
    rw [List.append_cons] at unmarked ⊢
    rw [collect, found]
    simpa using ih (h.append_old mem) unmarked
  | case5 ids d second rest first found ne =>
    have unmarkedBefore (e : Entry) (mem : e ∈ before) := unmarked e (List.mem_append_left _ mem)
    have unmarkedDomain : d.IsUnmarked :=
      unmarked ⟨d, some second⟩ (List.mem_append_right _ List.mem_cons_self)
    have mem := (h.find?_eq_some_iff unmarkedBefore unmarkedDomain).1 found
    refine .inr ⟨d, first, second, ?_, before, rest, rfl, h.agree, ?_, ne⟩
    · simp [collect, found, ne]
    · exact h.agree.firstHostId?_eq_some mem

end HostIds

/-! ## Merges -/

namespace DomainLists

/-- The domains of all lists. -/
def all (lists : DomainLists) : List Domain :=
  lists.ip4 ++ lists.shared ++ lists.ip6.map (·.domain)

/-- **Whether lists say the same**, possibly in a different order, or more
than once. -/
structure SaysTheSame (lists lists' : DomainLists) : Prop where
  /-- For both families. -/
  shared : ∀ d, d ∈ lists.shared ↔ d ∈ lists'.shared
  /-- For IPv4. -/
  ip4 : ∀ d, d ∈ lists.ip4 ↔ d ∈ lists'.ip4
  /-- For IPv6. -/
  ip6 : ∀ e, e ∈ lists.ip6 ↔ e ∈ lists'.ip6

end DomainLists

/-- **What lists are merged into.** -/
structure IsMerge (lists : DomainLists) (managed : Managed) : Prop where
  /-- There are domains for either family. -/
  families : managed.domains.map (·.1) = [.v4, .v6]
  /-- Domains are in ascending order. -/
  ascending : ∀ family, Domain.Ascending (managed.domainsOf family)
  /-- The domains for IPv4. -/
  mem_ip4 : ∀ d, d ∈ managed.domainsOf .v4 ↔ d ∈ lists.ip4 ∨ d ∈ lists.shared
  /-- The domains for IPv6. -/
  mem_ip6 : ∀ d, d ∈ managed.domainsOf .v6 ↔ d ∈ lists.ip6.map (·.domain) ∨ d ∈ lists.shared
  /-- The host IDs are those that are given. -/
  hostIds : managed.hostIds.Represents lists.ip6

namespace Managed

variable {managed managed' : Managed}

/-- What is managed is the domains of the two families and the host IDs. -/
theorem eq_mk_of_families (families : managed.domains.map (·.1) = [.v4, .v6]) :
    managed =
      ⟨[(.v4, managed.domainsOf .v4), (.v6, managed.domainsOf .v6)], managed.hostIds⟩ := by
  obtain ⟨domains, ids⟩ := managed
  match domains, families with
  | [(.v4, _), (.v6, _)], _ => rfl

theorem eq_of_families (families : managed.domains.map (·.1) = [.v4, .v6])
    (families' : managed'.domains.map (·.1) = [.v4, .v6])
    (domainsOf : ∀ family, managed.domainsOf family = managed'.domainsOf family)
    (hostIds : managed.hostIds = managed'.hostIds) : managed = managed' := by
  rw [eq_mk_of_families families, eq_mk_of_families families', domainsOf .v4, domainsOf .v6,
    hostIds]

/-- **Where no domain is managed** none is managed for either family. -/
theorem domainsOf_eq_nil_of_isEmpty (h : managed.isEmpty = true) (family : Family) :
    managed.domainsOf family = [] := by
  rw [Managed.domainsOf]
  cases found : managed.domains.lookup family with
  | none => rfl
  | some ds =>
    obtain ⟨before, after, domains, -⟩ := List.lookup_eq_some_iff.1 found
    have mem : (family, ds) ∈ managed.domains := domains ▸ List.mem_append_right _ List.mem_cons_self
    exact List.isEmpty_iff.1 (List.all_eq_true.1 h _ mem)

example (family : Family) : Managed.empty.domainsOf family = [] := rfl

theorem isEmpty_of_domainsOf_eq_nil (families : managed.domains.map (·.1) = [.v4, .v6])
    (h : ∀ family, managed.domainsOf family = []) : managed.isEmpty = true := by
  rw [eq_mk_of_families families, h .v4, h .v6]
  rfl

end Managed

/-- **Lists that say the same have one merge.** -/
theorem IsMerge.unique {lists lists' : DomainLists} {managed managed' : Managed}
    (h : IsMerge lists managed) (h' : IsMerge lists' managed') (same : lists.SaysTheSame lists') :
    managed = managed' := by
  refine Managed.eq_of_families h.families h'.families (fun family => ?_) ?_
  · refine (h.ascending family).eq_of_mem_iff (h'.ascending family) fun d => ?_
    cases family with
    | v4 => rw [h.mem_ip4, h'.mem_ip4, same.ip4, same.shared]
    | v6 => simp only [h.mem_ip6, h'.mem_ip6, List.mem_map, same.ip6, same.shared]
  · exact h.hostIds.unique h'.hostIds fun d id => same.ip6 _

variable {lists : DomainLists}

/-- The lists of all families, with host IDs that represent the entries, are
a merge. -/
theorem isMerge_of_represents (unmarked : ∀ d ∈ lists.all, d.IsUnmarked)
    (represents : ids.Represents lists.ip6) : IsMerge lists
      { domains := [
          (.v4, Domain.sort (lists.ip4 ++ lists.shared)),
          (.v6, Domain.sort (lists.ip6.map (·.domain) ++ lists.shared))]
        hostIds := ids } where
  families := rfl
  ascending family := by
    cases family with
    | v4 => exact Domain.ascending_sort fun d hd => unmarked d (List.mem_append_left _ hd)
    | v6 =>
      refine Domain.ascending_sort fun d hd => unmarked d ?_
      rcases List.mem_append.1 hd with ip6 | shared
      · exact List.mem_append_right _ ip6
      · exact List.mem_append_left _ (List.mem_append_right _ shared)
  mem_ip4 d := Domain.mem_sort.trans List.mem_append
  mem_ip6 d := Domain.mem_sort.trans List.mem_append
  hostIds := represents

/-- **Merging** comes to the merge, or stops at the first conflict. -/
theorem consolidate_spec (unmarked : ∀ d ∈ lists.all, d.IsUnmarked) :
    (∃ managed, IsMerge lists managed ∧
      ∀ j : Journal, (consolidate lists).run.run j = (.ok managed, j)) ∨
    ∃ d first second, IsFirstConflict lists.ip6 d first second ∧
      ∀ j : Journal, (consolidate lists).run.run j =
        (.error (.conflictingHostId d first second),
          j.report .error (SettingsError.conflictingHostId d first second).message) := by
  have unmarkedEntries (e : Entry) (mem : e ∈ [] ++ lists.ip6) : e.domain.IsUnmarked :=
    unmarked e.domain (List.mem_append_right _ (List.mem_map_of_mem mem))
  rcases HostIds.represents_or_conflict .nil unmarkedEntries with
    ⟨ids, collected, represents⟩ | ⟨d, first, second, stopped, conflict⟩
  · refine .inl ⟨_, isMerge_of_represents unmarked represents, fun j => ?_⟩
    rw [consolidate, collected]
    rfl
  · refine .inr ⟨d, first, second, conflict, fun j => ?_⟩
    rw [consolidate, stopped]
    rfl

/-- What merging comes to is a merge. -/
theorem isMerge_of_consolidate {managed : Managed} (unmarked : ∀ d ∈ lists.all, d.IsUnmarked)
    (merged : (consolidate lists).outcome.result = .ok managed) : IsMerge lists managed := by
  have merged : ((consolidate lists).run.run .empty).1 = .ok managed := merged
  rcases consolidate_spec unmarked with ⟨managed', merge, run⟩ | ⟨d, first, second, -, run⟩
  · rw [run] at merged
    obtain rfl := Except.ok.inj merged
    exact merge
  · rw [run] at merged
    cases merged

/-- Lists that say the same name the same domains. -/
theorem DomainLists.SaysTheSame.mem_all {lists' : DomainLists} (same : lists.SaysTheSame lists') :
    d ∈ lists'.all ↔ d ∈ lists.all := by
  simp only [DomainLists.all, List.mem_append, List.mem_map, same.ip4, same.shared, same.ip6]

/-- Where entries agree, merging comes to the merge. -/
theorem consolidate_of_agree (unmarked : ∀ d ∈ lists.all, d.IsUnmarked)
    (agree : HostIdsAgree lists.ip6) : ∃ managed, IsMerge lists managed ∧
      ∀ j : Journal, (consolidate lists).run.run j = (.ok managed, j) := by
  refine (consolidate_spec unmarked).resolve_right ?_
  rintro ⟨d, first, second, conflict, -⟩
  exact conflict.not_agree agree

/-- **A merge is what merging comes to.** -/
theorem IsMerge.run_consolidate {managed : Managed} (h : IsMerge lists managed)
    (unmarked : ∀ d ∈ lists.all, d.IsUnmarked) (j : Journal) :
    (consolidate lists).run.run j = (.ok managed, j) := by
  obtain ⟨managed', merge, run⟩ := consolidate_of_agree unmarked h.hostIds.agree
  rw [run j, merge.unique h ⟨fun _ => .rfl, fun _ => .rfl, fun _ => .rfl⟩]

/-- **Lists are merged exactly.** If no domain is given two different host
IDs, lists come to their merge, and so do all lists that say the same, and
nothing is written. Otherwise the first entry that differs from an earlier
one is named in the error, and the error is all that is written. -/
theorem lists_are_merged_exactly :
    (∀ raw d, Domain.parse raw = .ok d → d.IsUnmarked) ∧
    ∀ lists : DomainLists, (∀ d ∈ lists.all, d.IsUnmarked) →
      ((∃ managed j j', (consolidate lists).run.run j = (.ok managed, j')) ↔
        HostIdsAgree lists.ip6) ∧
      (HostIdsAgree lists.ip6 → ∃ managed, IsMerge lists managed ∧
        (∀ d id, d.IsUnmarked → (managed.hostIds.find? d = some id ↔ ⟨d, some id⟩ ∈ lists.ip6)) ∧
        ∀ lists' : DomainLists, lists.SaysTheSame lists' → ∀ j : Journal,
          (consolidate lists').run.run j = (.ok managed, j)) ∧
      (¬ HostIdsAgree lists.ip6 → ∃ d first second, IsFirstConflict lists.ip6 d first second ∧
        ∀ j : Journal, (consolidate lists).run.run j =
          (.error (.conflictingHostId d first second),
            j.report .error (SettingsError.conflictingHostId d first second).message)) := by
  refine ⟨fun raw d parsed => Domain.IsParsed.isUnmarked ⟨raw, parsed⟩, fun lists unmarked => ?_⟩
  have unmarkedEntries (e : Entry) (mem : e ∈ lists.ip6) : e.domain.IsUnmarked :=
    unmarked e.domain (List.mem_append_right _ (List.mem_map_of_mem mem))
  refine ⟨⟨?_, fun agree => ?_⟩, fun agree => ?_, fun differ => ?_⟩
  · rintro ⟨managed, j, j', run⟩
    rcases consolidate_spec unmarked with ⟨_, merge, -⟩ | ⟨d, first, second, -, failed⟩
    · exact merge.hostIds.agree
    · rw [failed j] at run
      cases run
  · obtain ⟨managed, -, run⟩ := consolidate_of_agree unmarked agree
    exact ⟨managed, .empty, .empty, run .empty⟩
  · obtain ⟨managed, merge, -⟩ := consolidate_of_agree unmarked agree
    refine ⟨managed, merge, fun d id hd => merge.hostIds.find?_eq_some_iff unmarkedEntries hd,
      fun lists' same j => ?_⟩
    -- what the same lists come to is a merge as well, and there is only one
    have agree' : HostIdsAgree lists'.ip6 := fun d id id' mem mem' =>
      agree d id id' ((same.ip6 _).2 mem) ((same.ip6 _).2 mem')
    obtain ⟨managed', merge', run'⟩ :=
      consolidate_of_agree (fun d hd => unmarked d (same.mem_all.1 hd)) agree'
    rw [run' j, merge.unique merge' same]
  · refine (consolidate_spec unmarked).resolve_left ?_
    rintro ⟨managed, merge, -⟩
    exact differ merge.hostIds.agree

/-- Lists that name a domain for both families and for one, and give another
one its host ID twice. -/
def interleavedLists : DomainLists where
  shared := [.fqdn "b.org"]
  ip4 := [.wildcard "a.org", .fqdn "b.org"]
  ip6 := [⟨.fqdn "c.org", some (.mac ⟨1⟩)⟩, ⟨.fqdn "a.org", none⟩, ⟨.fqdn "c.org", none⟩,
    ⟨.fqdn "c.org", some (.mac ⟨1⟩)⟩]

/-- The same in a different order, with other repetitions. -/
def reorderedLists : DomainLists where
  shared := [.fqdn "b.org", .fqdn "b.org"]
  ip4 := [.fqdn "b.org", .wildcard "a.org"]
  ip6 := [⟨.fqdn "c.org", none⟩, ⟨.fqdn "a.org", none⟩, ⟨.fqdn "c.org", some (.mac ⟨1⟩)⟩]

/-- Lists that give a domain two host IDs, with another one in between. -/
def conflictingLists : DomainLists where
  shared := []
  ip4 := []
  ip6 := [⟨.fqdn "c.org", some (.mac ⟨1⟩)⟩, ⟨.fqdn "a.org", some (.mac ⟨1⟩)⟩,
    ⟨.fqdn "c.org", some (.mac ⟨2⟩)⟩]

/-- Reordered lists have the same merge, and of conflicting ones there is
none. -/
theorem interleaved_lists_are_merged :
    (∀ d ∈ interleavedLists.all, d.IsUnmarked) ∧ HostIdsAgree interleavedLists.ip6 ∧
    interleavedLists.SaysTheSame reorderedLists ∧
    (∃ managed, IsMerge interleavedLists managed ∧
      (consolidate reorderedLists).run.run .empty = (.ok managed, .empty)) ∧
    (∀ d ∈ conflictingLists.all, d.IsUnmarked) ∧ ¬ HostIdsAgree conflictingLists.ip6 ∧
    ∃ d first second, IsFirstConflict conflictingLists.ip6 d first second ∧
      ((consolidate conflictingLists).run.run .empty).1 =
        .error (.conflictingHostId d first second) := by
  have unmarked : ∀ d ∈ interleavedLists.all, d.IsUnmarked := by decide
  have agree : HostIdsAgree interleavedLists.ip6 := by
    intro d id id' mem mem'
    simp [interleavedLists] at mem mem'
    rw [mem.2, mem'.2]
  have same : interleavedLists.SaysTheSame reorderedLists := by
    constructor <;> simp [interleavedLists, reorderedLists, or_comm, or_left_comm]
  have unmarked' : ∀ d ∈ conflictingLists.all, d.IsUnmarked := by decide
  have differ : ¬ HostIdsAgree conflictingLists.ip6 := by
    intro agree
    exact absurd (agree (.fqdn "c.org") (.mac ⟨1⟩) (.mac ⟨2⟩) (by decide) (by decide)) (by decide)
  obtain ⟨-, merges⟩ := lists_are_merged_exactly
  obtain ⟨-, merged, -⟩ := merges interleavedLists unmarked
  obtain ⟨-, -, conflict⟩ := merges conflictingLists unmarked'
  obtain ⟨managed, merge, -, run⟩ := merged agree
  obtain ⟨d, first, second, isFirst, failed⟩ := conflict differ
  exact ⟨unmarked, agree, same, ⟨managed, merge, run _ same _⟩, unmarked', differ,
    d, first, second, isFirst, congrArg Prod.fst (failed _)⟩

end RecordPlan
