import Mathlib.Data.List.Destutter
import RecordPlan.Proofs.Domain.Order
import RecordPlan.Proofs.Text.ByteOrder

/-!
# Sorted domains

`Domain.sort` puts domains in the order of the bytes of their names, and drops a
domain that is equal to the one before it. For unmarked domains that leaves no
domain twice, as `Domain.ascending_sort` says. Where two domains share a name
they are not equal, and may take turns: then what is sorted need not be
ascending, but no two neighbours in it are equal, and it stays as it is when it
is sorted again (`Domain.sort_sort`).

The star of a wildcard comes before all characters of names that have been
parsed, so wildcards come first in what is sorted of them
(`Domain.exists_eq_append_of_pairwise`). The main statement is
`Domain.sorted_domains_are_in_order`.
-/

namespace RecordPlan.Domain

open Text.Utf8 (encode)

variable {d e : Domain} {ds : List Domain}

/-- **The bytes of the name in the domain name system.** -/
def dnsBytes (d : Domain) : List UInt8 := encode d.dnsName.toList

theorem dnsBytes_lt_iff : d.dnsBytes < e.dnsBytes ↔ d.dnsName < e.dnsName :=
  Text.Utf8.encode_lt_encode_iff.trans String.lt_iff.symm

theorem dnsBytes_le_iff : d.dnsBytes ≤ e.dnsBytes ↔ le d e = true := by
  rw [le_iff, ← List.not_lt, dnsBytes_lt_iff, Std.not_lt]

/-! ## Repetitions -/

theorem dropRepeats_eq_destutter (ds : List Domain) : dropRepeats ds = ds.destutter (· ≠ ·) := by
  induction ds using dropRepeats.induct with
  | case1 => rfl
  | case2 d => rfl
  | case3 d rest ih =>
    rw [dropRepeats, if_pos rfl, ih, List.destutter_cons_cons, if_neg (not_not_intro rfl),
      List.destutter_cons']
  | case4 d e rest ne ih =>
    rw [dropRepeats, if_neg ne, ih, List.destutter_cons_cons, if_pos ne, List.destutter_cons']

/-- What is sorted is in order. -/
theorem pairwise_sort (ds : List Domain) : (sort ds).Pairwise fun d e => le d e = true := by
  rw [sort, dropRepeats_eq_destutter]
  exact (pairwise_mergeSort_le ds).sublist (List.destutter_sublist _ _)

/-- No neighbours in it are equal. -/
theorem isChain_sort (ds : List Domain) : (sort ds).IsChain (· ≠ ·) := by
  rw [sort, dropRepeats_eq_destutter]
  exact List.isChain_destutter _ _

/-- **What is sorted stays as it is.** -/
theorem sort_sort (ds : List Domain) : sort (sort ds) = sort ds := by
  have again : sort (sort ds) = dropRepeats (sort ds) :=
    congrArg dropRepeats (List.mergeSort_of_pairwise (pairwise_sort ds))
  rw [again, dropRepeats_eq_destutter]
  exact List.destutter_of_isChain _ _ (isChain_sort ds)

/-- Domains that share a name may take turns. -/
example : sort [fqdn "*.a", wildcard "a", fqdn "*.a"] = [fqdn "*.a", wildcard "a", fqdn "*.a"] := by
  cbv

/-! ## Wildcards -/

/-- Whether the name of a domain is not empty and consists of characters that
are stored, and of dots. -/
def IsPlain (d : Domain) : Prop :=
  d.name ≠ "" ∧ ∀ c ∈ d.name.toList, Name.IsStored c ∨ c = '.'

/-- What has been parsed has such a name. -/
theorem IsParsed.isPlain (h : d.IsParsed) : d.IsPlain :=
  ⟨h.name_ne_empty, fun _ => h.isStored_of_mem_name⟩

/-- **A wildcard comes before a name**, because the star comes before what names
begin with. -/
theorem dnsName_wildcard_lt {name : String} (h : (fqdn name).IsPlain) (suffix : String) :
    (wildcard suffix).dnsName < (fqdn name).dnsName := by
  obtain ⟨ne, chars⟩ := h
  obtain ⟨c, rest, eq⟩ := List.exists_cons_of_ne_nil (mt String.toList_eq_nil_iff.1 ne)
  have first : '*' < c := by
    show 42 < c.toNat
    rcases chars c (eq ▸ List.mem_cons_self) with stored | rfl
    · unfold Name.IsStored at stored
      omega
    · decide
  show (wildcard suffix).dnsName.toList < name.toList
  rw [dnsName_wildcard_toList, show name.toList = c :: rest from eq]
  exact .rel first

/-- **Wildcards come first** in what is in order. -/
theorem exists_eq_append_of_pairwise (plain : ∀ d ∈ ds, d.IsPlain)
    (ordered : ds.Pairwise fun d e => le d e = true) :
    ∃ suffixes names : List String, ds = suffixes.map wildcard ++ names.map fqdn := by
  induction ds with
  | nil => exact ⟨[], [], rfl⟩
  | cons d ds ih =>
    obtain ⟨suffixes, names, rfl⟩ :=
      ih (fun e he => plain e (List.mem_cons_of_mem _ he)) ordered.of_cons
    cases d with
    | wildcard suffix => exact ⟨suffix :: suffixes, names, rfl⟩
    | fqdn name =>
      cases suffixes with
      | nil => exact ⟨[], name :: names, rfl⟩
      | cons suffix suffixes =>
        have before := le_iff.1 (List.rel_of_pairwise_cons ordered List.mem_cons_self)
        have behind := dnsName_wildcard_lt (plain _ List.mem_cons_self) suffix
        exact absurd behind (Std.not_lt.2 before)

/-- **Sorted domains are in order.** Sorting keeps the domains that there are,
puts them in the order of the bytes of their names, leaves no domain next to its
equal, and does nothing to what is sorted. Unmarked domains, which are all that
have been parsed, come out in strict order, so none comes twice, and those that
there are decide on the list. If their names consist of stored characters and
dots, the wildcards come first. -/
theorem sorted_domains_are_in_order :
    (∀ ds : List Domain,
      (∀ d, d ∈ sort ds ↔ d ∈ ds) ∧
      ((sort ds).Pairwise fun d e => d.dnsBytes ≤ e.dnsBytes) ∧
      (sort ds).IsChain (· ≠ ·) ∧
      sort (sort ds) = sort ds) ∧
    (∀ d : Domain, d.IsParsed → d.IsUnmarked ∧ d.IsPlain) ∧
    ∀ ds : List Domain, (∀ d ∈ ds, d.IsUnmarked) →
      ((sort ds).Pairwise fun d e => d.dnsBytes < e.dnsBytes) ∧
      (sort ds).Nodup ∧
      (∀ es, (∀ d, d ∈ ds ↔ d ∈ es) → sort ds = sort es) ∧
      ((∀ d ∈ ds, d.IsPlain) →
        ∃ suffixes names : List String, sort ds = suffixes.map wildcard ++ names.map fqdn) := by
  refine ⟨fun ds => ⟨fun d => mem_sort, ?_, isChain_sort ds, sort_sort ds⟩,
    fun d parsed => ⟨parsed.isUnmarked, parsed.isPlain⟩, fun ds unmarked => ?_⟩
  · exact (pairwise_sort ds).imp dnsBytes_le_iff.2
  · have ascending := ascending_sort unmarked
    exact ⟨ascending.imp dnsBytes_lt_iff.2, ascending.nodup, fun es => sort_eq_of_mem_iff unmarked,
      fun plain => exists_eq_append_of_pairwise (fun d hd => plain d (mem_sort.1 hd))
        (pairwise_sort ds)⟩

/-- A list with a repetition and a wildcard in it. The wildcard comes first,
although its suffix comes last. -/
theorem wildcard_is_sorted_first :
    sort [fqdn "b.org", fqdn "a.org", wildcard "c.org", fqdn "b.org"] =
        [wildcard "c.org", fqdn "a.org", fqdn "b.org"] ∧
      (sort [fqdn "b.org", fqdn "a.org", wildcard "c.org", fqdn "b.org"]).Nodup ∧
      ∃ suffixes names : List String,
        sort [fqdn "b.org", fqdn "a.org", wildcard "c.org", fqdn "b.org"] =
          suffixes.map wildcard ++ names.map fqdn := by
  obtain ⟨-, parsed, inOrder⟩ := sorted_domains_are_in_order
  have names : ∀ d ∈ [fqdn "b.org", fqdn "a.org", wildcard "c.org", fqdn "b.org"], d.IsParsed := by
    simp only [List.forall_mem_cons]
    exact ⟨⟨"b.org", by decide⟩, ⟨"a.org", by decide⟩, ⟨"*.c.org", by decide⟩, ⟨"b.org", by decide⟩,
      List.forall_mem_nil _⟩
  obtain ⟨-, nodup, same, wildcards⟩ := inOrder _ fun d hd => (parsed d (names d hd)).1
  refine ⟨?_, nodup, wildcards fun d hd => (parsed d (names d hd)).2⟩
  have members (d : Domain) : d ∈ [fqdn "b.org", fqdn "a.org", wildcard "c.org", fqdn "b.org"] ↔
      d ∈ [wildcard "c.org", fqdn "a.org", fqdn "b.org"] := by
    simp only [List.mem_cons, List.not_mem_nil, or_false]
    grind
  have sorted : Ascending [wildcard "c.org", fqdn "a.org", fqdn "b.org"] := by decide
  exact (same _ members).trans (sorted.sort_eq (by decide))

end RecordPlan.Domain
