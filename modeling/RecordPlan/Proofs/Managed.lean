import RecordPlan.Managed
import RecordPlan.Proofs.Domain.Order
import RecordPlan.Proofs.HostId.Basic
import RecordPlan.Proofs.Journal
import RecordPlan.Proofs.Setting.Entry

/-!
# What is managed comes from the lists

Merging lists makes nothing up. A domain is managed for a family exactly
if one of the lists for that family has it (`consolidate_result_eq_ok`
with `Domain.mem_sort`), and every host ID is one that an entry gives its
domain (`HostIds.mem_of_collect`). So what holds of the host IDs in a list
holds of all host IDs that are managed; above all, that they fit the
prefix length they were read against (`Listing.fits`).
-/

namespace RecordPlan

/-! ## Host IDs of domains -/

namespace HostIds

variable {ids ids' : HostIds} {d e : Domain} {id h : HostId} {es : List Entry}

/-- The host ID that is found is there, under the name that was looked
for. -/
theorem mem_of_find? (found : ids.find? d = some id) :
    ∃ e, e.sameName d = true ∧ (e, id) ∈ ids := by
  obtain ⟨entry, h, rfl⟩ := Option.map_eq_some_iff.1 found
  refine ⟨entry.1, ?_, List.mem_of_find?_eq_some h⟩
  exact List.find?_some (p := fun entry : Domain × HostId => entry.1.sameName d) h

theorem mem_insert : (e, h) ∈ insert d id ids ↔ (e, h) = (d, id) ∨ (e, h) ∈ ids := by
  induction ids with
  | nil => simp [insert]
  | cons entry rest ih =>
    rw [insert]
    split
    · rw [List.mem_cons, ih, List.mem_cons]
      exact or_left_comm
    · exact List.mem_cons

/-- **Every host ID that is collected** was there before, or an entry gives
it to its domain. -/
theorem mem_of_collect (collected : collect ids es = .ok ids') (there : (e, h) ∈ ids') :
    (e, h) ∈ ids ∨ ⟨e, some h⟩ ∈ es := by
  induction ids, es using collect.induct with
  | case1 ids =>
    rw [collect] at collected
    obtain rfl := Except.ok.inj collected
    exact .inl there
  | case2 ids d rest ih =>
    rw [collect] at collected
    exact (ih collected).imp_right (List.mem_cons_of_mem _)
  | case3 ids d id rest absent ih =>
    rw [collect, absent] at collected
    rcases ih collected with inserted | entry
    · rcases mem_insert.1 inserted with eq | old
      · obtain ⟨rfl, rfl⟩ := Prod.mk.inj eq
        exact .inr List.mem_cons_self
      · exact .inl old
    · exact .inr (List.mem_cons_of_mem _ entry)
  | case4 ids d rest first found ih =>
    rw [collect, found] at collected
    exact (ih (by simpa using collected)).imp_right (List.mem_cons_of_mem _)
  | case5 ids d id rest first found ne =>
    rw [collect, found] at collected
    simp [ne] at collected

end HostIds

/-! ## Lists -/

/-- **The host IDs of a list fit** the prefix length that they were read
against. -/
theorem Listing.fits {n : UInt8} {ts : List Token} {es : List Entry}
    (list : Listing (some n) ts es) {d : Domain} {h : HostId} (there : ⟨d, some h⟩ ∈ es) :
    h.Fits n := by
  induction list with
  | nil => cases there
  | comma _ ih => exact ih there
  | domain _ _ ih =>
    rcases List.mem_cons.1 there with eq | there
    · cases eq
    · exact ih there
  | withHostId hn _ parsed _ ih =>
    rcases List.mem_cons.1 there with eq | there
    · obtain rfl := Option.some.inj hn
      obtain ⟨rfl, rfl⟩ := Entry.mk.inj eq
      exact HostId.fits_of_parse parsed
    · exact ih there

/-- **Lists are merged** if their host IDs are collected, and then all of
their domains are managed. -/
theorem consolidate_result_eq_ok {lists : DomainLists} {managed : Managed} :
    (consolidate lists).outcome.result = .ok managed ↔
      HostIds.collect [] lists.ip6 = .ok managed.hostIds ∧
      managed.domains = [
        (.v4, Domain.sort (lists.ip4 ++ lists.shared)),
        (.v6, Domain.sort (lists.ip6.map (·.domain) ++ lists.shared))] := by
  unfold consolidate
  cases HostIds.collect [] lists.ip6 with
  | error e => simp [Outcome.failure]
  | ok ids =>
    cases managed
    simp [eq_comm, and_comm]

end RecordPlan
