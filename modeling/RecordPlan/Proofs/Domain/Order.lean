import Mathlib.Data.List.Sort
import RecordPlan.Domain.Order
import RecordPlan.Proofs.Domain.Basic

/-!
# Domains in order

Domains are ordered by their names in the domain name system. These tell
domains apart as long as no name of a fully qualified domain is **marked**,
which is to say that it begins with the mark of a wildcard
(`Domain.eq_of_dnsName_eq`); no domain that has been parsed is marked
(`Domain.IsParsed.isUnmarked`).

So the order of unmarked domains is strict. `Domain.sort` puts them in
**ascending** order (`Domain.ascending_sort`), and since there is only one
way to put the same domains in ascending order
(`Domain.Ascending.eq_of_mem_iff`), what is sorted depends on nothing but
which domains there are.
-/

namespace RecordPlan.Domain

variable {d e : Domain} {ds es : List Domain}

/-! ## Names that tell domains apart -/

/-- Whether a domain is not a fully qualified one with the name of a
wildcard. -/
def IsUnmarked : Domain → Prop
  | fqdn name => ¬ wildcardMark.toList <+: name.toList
  | wildcard _ => True

instance (d : Domain) : Decidable d.IsUnmarked :=
  match d with
  | fqdn name => inferInstanceAs (Decidable (¬ wildcardMark.toList <+: name.toList))
  | wildcard _ => inferInstanceAs (Decidable True)

/-- A domain that has been parsed is unmarked. -/
theorem IsParsed.isUnmarked (h : d.IsParsed) : d.IsUnmarked := by
  cases d with
  | fqdn name =>
    rintro ⟨rest, eq⟩
    exact h.head_name_ne ('.' :: rest) eq.symm
  | wildcard suffix => trivial

/-- The name of a wildcard is marked. -/
theorem IsUnmarked.ne_dnsName_wildcard {name suffix : String} (h : (fqdn name).IsUnmarked) :
    name ≠ (wildcard suffix).dnsName := by
  rintro rfl
  exact h ⟨suffix.toList, (dnsName_wildcard_toList suffix).symm⟩

/-- **Unmarked domains are told apart by their names.** -/
theorem eq_of_dnsName_eq (hd : d.IsUnmarked) (he : e.IsUnmarked) (h : d.dnsName = e.dnsName) :
    d = e := by
  cases d with
  | fqdn name =>
    cases e with
    | fqdn name' => exact congrArg fqdn h
    | wildcard suffix => exact absurd h hd.ne_dnsName_wildcard
  | wildcard suffix =>
    cases e with
    | fqdn name => exact absurd h.symm he.ne_dnsName_wildcard
    | wildcard suffix' =>
      have texts := congrArg String.toList h
      rw [dnsName_wildcard_toList, dnsName_wildcard_toList] at texts
      simp only [List.cons.injEq, true_and] at texts
      exact congrArg wildcard (String.toList_inj.1 texts)

/-! ## Ascending lists -/

/-- **Whether domains are in strictly ascending order.** -/
def Ascending (ds : List Domain) : Prop := ds.Pairwise fun d e => d.dnsName < e.dnsName

instance (ds : List Domain) : Decidable (Ascending ds) :=
  inferInstanceAs (Decidable (ds.Pairwise fun d e => d.dnsName < e.dnsName))

/-- A list whose members have strictly ascending keys is made by its members
alone. -/
theorem eq_of_pairwise_lt {α : Type} (key : α → String) {l m : List α}
    (hl : l.Pairwise fun a b => key a < key b) (hm : m.Pairwise fun a b => key a < key b)
    (h : ∀ a, a ∈ l ↔ a ∈ m) : l = m := by
  have irrefl : Std.Irrefl fun a b => key a < key b := ⟨fun a => String.lt_irrefl (key a)⟩
  have antisymm : Std.Antisymm fun a b => key a < key b :=
    ⟨fun _ _ lt gt => absurd (String.lt_trans lt gt) (String.lt_irrefl _)⟩
  exact List.Pairwise.eq_of_mem_iff hl hm h

/-- **There is one way to put domains in ascending order.** -/
theorem Ascending.eq_of_mem_iff (hd : Ascending ds) (he : Ascending es)
    (h : ∀ d, d ∈ ds ↔ d ∈ es) : ds = es :=
  eq_of_pairwise_lt dnsName hd he h

/-- No name stands twice in an ascending list. -/
theorem Ascending.nodup_map_dnsName (h : Ascending ds) : (ds.map dnsName).Nodup := by
  refine List.pairwise_map.2 (h.imp fun {d e} lt same => ?_)
  rw [same] at lt
  exact String.lt_irrefl _ lt

theorem Ascending.nodup (h : Ascending ds) : ds.Nodup := h.nodup_map_dnsName.of_map _

/-! ## Sorting -/

theorem mem_dropRepeats : d ∈ dropRepeats ds ↔ d ∈ ds := by
  induction ds using dropRepeats.induct with
  | case1 => rfl
  | case2 e => rfl
  | case3 e rest ih =>
    rw [dropRepeats, if_pos rfl, ih]
    simp
  | case4 e f rest h ih =>
    rw [dropRepeats, if_neg h, List.mem_cons, ih, List.mem_cons (a := d) (b := e)]

/-- Sorting keeps the domains that there are. -/
@[simp]
theorem mem_sort : d ∈ sort ds ↔ d ∈ ds :=
  mem_dropRepeats.trans List.mem_mergeSort

theorem le_iff : le d e = true ↔ d.dnsName ≤ e.dnsName := decide_eq_true_iff

/-- Without repetitions an order that is not strict becomes strict. -/
theorem ascending_dropRepeats (unmarked : ∀ d ∈ ds, d.IsUnmarked)
    (ordered : ds.Pairwise fun d e => le d e = true) : Ascending (dropRepeats ds) := by
  induction ds using dropRepeats.induct with
  | case1 => exact .nil
  | case2 e => exact List.pairwise_singleton _ e
  | case3 e rest ih =>
    rw [dropRepeats, if_pos rfl]
    exact ih (fun d hd => unmarked d (List.mem_cons_of_mem _ hd)) ordered.of_cons
  | case4 e f rest ne ih =>
    rw [dropRepeats, if_neg ne]
    have later := ih (fun d hd => unmarked d (List.mem_cons_of_mem _ hd)) ordered.of_cons
    refine List.pairwise_cons.2 ⟨fun d hd => ?_, later⟩
    have strict : e.dnsName < f.dnsName := by
      refine Std.lt_of_le_of_ne (le_iff.1 (List.rel_of_pairwise_cons ordered ?_)) fun same => ne ?_
      · exact List.mem_cons_self
      · exact eq_of_dnsName_eq (unmarked e List.mem_cons_self)
          (unmarked f (List.mem_cons_of_mem _ List.mem_cons_self)) same
    -- what stands behind `f` does not come before it
    rcases List.mem_cons.1 (mem_dropRepeats.1 hd) with rfl | behind
    · exact strict
    · exact Std.lt_of_lt_of_le strict (le_iff.1 (List.rel_of_pairwise_cons ordered.of_cons behind))

/-- Before repetitions are dropped the domains are in order. -/
theorem pairwise_mergeSort_le (ds : List Domain) :
    (ds.mergeSort le).Pairwise fun d e => le d e = true := by
  refine List.pairwise_mergeSort (fun d e f => ?_) (fun d e => ?_) ds
  · simpa only [le_iff] using String.le_trans
  · simpa only [Bool.or_eq_true, le_iff] using String.le_total d.dnsName e.dnsName

/-- **What is sorted is in ascending order.** -/
theorem ascending_sort (unmarked : ∀ d ∈ ds, d.IsUnmarked) : Ascending (sort ds) :=
  ascending_dropRepeats (fun d hd => unmarked d (List.mem_mergeSort.1 hd))
    (pairwise_mergeSort_le ds)

/-- **Sorting depends on nothing but which domains there are.** -/
theorem sort_eq_of_mem_iff (unmarked : ∀ d ∈ ds, d.IsUnmarked) (h : ∀ d, d ∈ ds ↔ d ∈ es) :
    sort ds = sort es := by
  refine (ascending_sort unmarked).eq_of_mem_iff
    (ascending_sort fun d hd => unmarked d ((h d).2 hd)) fun d => ?_
  rw [mem_sort, mem_sort, h d]

/-- What is in ascending order stays as it is. -/
theorem Ascending.sort_eq (h : Ascending ds) (unmarked : ∀ d ∈ ds, d.IsUnmarked) : sort ds = ds :=
  (ascending_sort unmarked).eq_of_mem_iff h fun _ => mem_sort

end RecordPlan.Domain
