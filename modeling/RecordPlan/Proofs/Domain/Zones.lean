import RecordPlan.Proofs.Domain.Labels

/-!
# The zones of a domain

The zones that may hold a domain are found from the front, where one dot after
the other is passed, while `Domain.isUnder` compares names from the end. Both
come to the labels of the name: its zones are the texts that its last labels
make, one for each label (`Domain.mem_zones_iff`, `Domain.length_zones`).

So the zones of a domain are the names that it lies under. A wildcard lies under
one more name, which is its own, and which nothing that is parsed has. The main
statement is `Domain.zones_are_the_names_above`.
-/

namespace RecordPlan.Domain

open Name (FollowsDot)

variable {d : Domain} {s t : List Char} {z : String}

/-! ## What follows a dot -/

/-- What follows a dot is shorter. -/
theorem length_lt_of_followsDot (h : FollowsDot s t) : s.length < t.length := by
  obtain ⟨front, rfl⟩ := h
  rw [List.length_append, List.length_cons]
  omega

theorem followsDot_cons_iff {c : Char} :
    FollowsDot s (c :: t) ↔ c = '.' ∧ t = s ∨ FollowsDot s t := by
  constructor
  · rintro ⟨_ | ⟨first, front⟩, eq⟩
    · exact .inl ⟨(List.cons.inj eq).1, (List.cons.inj eq).2⟩
    · exact .inr ⟨front, (List.cons.inj eq).2⟩
  · rintro (⟨rfl, rfl⟩ | ⟨front, rfl⟩)
    · exact ⟨[], rfl⟩
    · exact ⟨c :: front, rfl⟩

/-- **All that follows a dot is found.** -/
theorem mem_afterDots : s ∈ afterDots t ↔ FollowsDot s t := by
  induction t with
  | nil => exact iff_of_false List.not_mem_nil fun ⟨front, eq⟩ => by simp at eq
  | cons c t ih =>
    rw [afterDots, followsDot_cons_iff]
    split
    · next dot => rw [List.mem_cons, ih, and_iff_right dot, eq_comm]
    · next other => rw [ih, or_iff_right fun h => other h.1]

/-- What follows a later dot follows a dot of what follows an earlier one. -/
theorem pairwise_afterDots (t : List Char) :
    (afterDots t).Pairwise fun s s' => FollowsDot s' s := by
  induction t with
  | nil => exact .nil
  | cons c t ih =>
    rw [afterDots]
    split
    · exact List.pairwise_cons.2 ⟨fun s => mem_afterDots.1, ih⟩
    · exact ih

/-- There is a label behind each dot, and one before them all. -/
theorem length_afterDots (t : List Char) : (afterDots t).length + 1 = (Name.labels t).length := by
  induction t with
  | nil => rfl
  | cons c t ih =>
    rw [Name.labels, List.splitOn_cons_eq_if_modifyHead, afterDots]
    simp only [beq_iff_eq]
    split
    · rw [List.length_cons, List.length_cons, ih, Name.labels]
    · rw [List.length_modifyHead, ih, Name.labels]

/-! ## Zones -/

theorem length_zones (d : Domain) : d.zones.length = (Name.labels d.name.toList).length := by
  rw [zones, List.length_map, List.length_cons, length_afterDots]

/-- **Each zone follows a dot of those before it.** -/
theorem pairwise_zones (d : Domain) :
    d.zones.Pairwise fun z z' => FollowsDot z'.toList z.toList := by
  rw [zones, List.pairwise_map]
  simp only [String.toList_ofList]
  exact List.pairwise_cons.2 ⟨fun s => mem_afterDots.1, pairwise_afterDots _⟩

/-- **The zones of a domain** are the texts that the last labels of its name
make. -/
theorem mem_zones_iff : z ∈ d.zones ↔ (fqdn z).labels <:+ Name.labels d.name.toList := by
  rw [labels_fqdn, Name.labels_suffix_iff, zones, ← mem_afterDots, List.mem_map]
  constructor
  · rintro ⟨s, hs, rfl⟩
    rw [String.toList_ofList]
    exact (List.mem_cons.1 hs).imp_left Eq.symm
  · intro h
    exact ⟨z.toList, List.mem_cons.2 (h.imp_left Eq.symm), String.ofList_toList⟩

/-- A domain lies under its zones, and a wildcard under its own name. -/
theorem isUnder_fqdn_iff :
    d.isUnder (fqdn z) = true ↔
      z ∈ d.zones ∨ ∃ suffix, d = wildcard suffix ∧ z = "*." ++ suffix := by
  rw [isUnder_iff, mem_zones_iff]
  cases d with
  | fqdn name => simp [labels_fqdn, Domain.name]
  | wildcard suffix =>
    have own : (fqdn z).labels = ['*'] :: Name.labels suffix.toList ↔ z = "*." ++ suffix := by
      rw [← labels_wildcard, labels_inj]
      exact Iff.rfl
    rw [labels_wildcard, List.suffix_cons_iff, own, or_comm]
    simp [Domain.name]

/-- **The zones of a domain are the names that it lies under.** There are as
many of them as its name has labels. Each is shorter than those before it, which
lie under it, so they are all different. A name that a domain lies under is one
of them, unless the domain is a wildcard and the name is its own; and no text
that is parsed as it is has such a name. -/
theorem zones_are_the_names_above (d : Domain) :
    d.zones.length = (Name.labels d.name.toList).length ∧
    d.zones.Nodup ∧
    (d.zones.Pairwise fun z z' =>
      z'.length < z.length ∧ (fqdn z).isUnder (fqdn z') = true) ∧
    (∀ z : String, (∀ suffix, d = wildcard suffix → z ≠ "*." ++ suffix) →
      (z ∈ d.zones ↔ d.isUnder (fqdn z) = true)) ∧
    ∀ z : String, (fqdn z).IsParsed → (z ∈ d.zones ↔ d.isUnder (fqdn z) = true) := by
  have apart (z : String) (other : ∀ suffix, d = wildcard suffix → z ≠ "*." ++ suffix) :
      z ∈ d.zones ↔ d.isUnder (fqdn z) = true := by
    rw [isUnder_fqdn_iff, or_iff_left]
    exact fun ⟨suffix, isWildcard, own⟩ => other suffix isWildcard own
  have behind := d.pairwise_zones
  refine ⟨d.length_zones, behind.imp ?ne, behind.imp ?shorter, apart, fun z parsed => apart z ?_⟩
  case ne =>
    rintro z _ follows rfl
    exact Nat.lt_irrefl _ (length_lt_of_followsDot follows)
  case shorter =>
    intro z z' follows
    refine ⟨?_, isUnder_iff_dnsName.2 (.inr follows)⟩
    rw [← String.length_toList, ← String.length_toList]
    exact length_lt_of_followsDot follows
  · rintro suffix - rfl
    exact parsed.head_name_ne _ String.toList_append

/-- A wildcard of a name with an empty label. It lies under its own name too,
which is none of its zones. -/
theorem zones_of_empty_label :
    (wildcard "a..b").zones.length = 3 ∧
      ".b" ∈ (wildcard "a..b").zones ∧
      "b" ∈ (wildcard "a..b").zones ∧
      "a" ∉ (wildcard "a..b").zones ∧
      "*.a..b" ∉ (wildcard "a..b").zones ∧
      (wildcard "a..b").isUnder (fqdn "*.a..b") = true := by
  obtain ⟨length, -, -, above, parsed⟩ := zones_are_the_names_above (wildcard "a..b")
  have other (z : String) (ne : z ≠ "*.a..b") (suffix : String)
      (eq : wildcard "a..b" = wildcard suffix) : z ≠ "*." ++ suffix := by
    cases eq
    exact ne
  refine ⟨length.trans (by decide), ?_, ?_, ?_, by decide, by decide⟩
  · exact (above ".b" (other _ (by decide))).2 (by decide)
  · exact (parsed "b" ⟨"b", by decide⟩).2 (by decide)
  · exact mt (above "a" (other _ (by decide))).1 (by decide)

end RecordPlan.Domain
