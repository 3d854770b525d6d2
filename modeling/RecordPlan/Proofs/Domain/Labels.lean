import RecordPlan.Proofs.Domain.Basic

/-!
# Domains by their labels

Dots make **labels** of the name of a domain, and the star of a wildcard is a
label like any other. One domain lies under another if the labels of the other
are the last ones of its own (`Domain.isUnder_iff`). This holds for all names
there are: for those without a character, for those that begin or end with a
dot or have two dots in a row, and for those that hold a star.

So `Domain.isUnder` is an order up to the name, since being the last part of a
list is one. Of domains that have been parsed, only the wildcard itself lies
under a wildcard (`Domain.IsParsed.isUnder_wildcard_iff`).
-/

namespace RecordPlan

namespace Name

variable {s t : List Char} {ls ms : List (List Char)}

/-- A text is put together again from its labels. -/
theorem ofLabels_labels (t : List Char) : ofLabels (labels t) = t := List.intercalate_splitOn '.'

/-- A dot stands between the labels before it and those behind it. -/
theorem labels_append_dot (s t : List Char) : labels (s ++ '.' :: t) = labels s ++ labels t :=
  List.splitOn_append_cons_self s t

theorem labels_ne_nil (t : List Char) : labels t ≠ [] := List.splitOn_ne_nil '.' t

theorem ofLabels_append (hl : ls ≠ []) (hm : ms ≠ []) :
    ofLabels (ls ++ ms) = ofLabels ls ++ '.' :: ofLabels ms := by
  simp only [ofLabels]
  induction ls with
  | nil => exact absurd rfl hl
  | cons label rest ih =>
    by_cases last : rest = []
    · subst last
      rw [List.singleton_append, List.intercalate_cons_of_ne_nil hm, List.intercalate_singleton,
        List.append_assoc, List.singleton_append]
    · have more : rest ++ ms ≠ [] := List.append_ne_nil_of_left_ne_nil last ms
      rw [List.cons_append, List.intercalate_cons_of_ne_nil more, ih last,
        List.intercalate_cons_of_ne_nil last]
      exact (List.append_assoc _ _ _).symm

/-- Whether a text is what follows one of the dots of another one. -/
def FollowsDot (s t : List Char) : Prop := ∃ front, t = front ++ '.' :: s

/-- **The last labels of a text** are those of the text itself and of what
follows one of its dots. -/
theorem labels_suffix_iff : labels s <:+ labels t ↔ t = s ∨ FollowsDot s t := by
  constructor
  · rintro ⟨front, eq⟩
    have whole : t = ofLabels (front ++ labels s) := by rw [eq, ofLabels_labels]
    by_cases none : front = []
    · left
      rw [whole, none, List.nil_append, ofLabels_labels]
    · right
      refine ⟨ofLabels front, ?_⟩
      rw [whole, ofLabels_append none (labels_ne_nil s), ofLabels_labels]
  · rintro (rfl | ⟨front, rfl⟩)
    · exact List.suffix_rfl
    · rw [labels_append_dot]
      exact List.suffix_append _ _

end Name

namespace Domain

variable {d e f : Domain}

/-- **The labels of a domain**, the star of a wildcard among them. -/
def labels (d : Domain) : List (List Char) := Name.labels d.dnsName.toList

/-- A name that ends with another one is read with what stands before it. -/
theorem isUnder_of_append (front : List Char) (h : d.dnsName.toList = front ++ e.dnsName.toList) :
    d.isUnder e = true ↔ front = [] ∨ ∃ before, front = before ++ ['.'] := by
  have suffix : e.dnsName.toList.isSuffixOf d.dnsName.toList = true :=
    List.isSuffixOf_iff_suffix.2 ⟨front, h.symm⟩
  have rest :
      d.dnsName.toList.take (d.dnsName.toList.length - e.dnsName.toList.length) = front := by
    rw [h, List.length_append, Nat.add_sub_cancel, List.take_left]
  simp only [isUnder, suffix, rest, Bool.true_and]
  rcases List.eq_nil_or_concat front with rfl | ⟨before, c, rfl⟩
  · simp
  · simp [List.getLast?_append]

/-- **One domain lies under another** if its name is that of the other, or ends
with it behind a dot. -/
theorem isUnder_iff_dnsName :
    d.isUnder e = true ↔ d.dnsName.toList = e.dnsName.toList ∨
      Name.FollowsDot e.dnsName.toList d.dnsName.toList := by
  constructor
  · intro h
    have suffix := h
    rw [isUnder, Bool.and_eq_true] at suffix
    obtain ⟨front, eq⟩ := List.isSuffixOf_iff_suffix.1 suffix.1
    rcases (isUnder_of_append front eq.symm).1 h with rfl | ⟨before, rfl⟩
    · exact .inl eq.symm
    · refine .inr ⟨before, ?_⟩
      rw [← eq, List.append_assoc, List.singleton_append]
  · rintro (same | ⟨front, eq⟩)
    · exact (isUnder_of_append [] same).2 (.inl rfl)
    · refine (isUnder_of_append (front ++ ['.']) ?_).2 (.inr ⟨front, rfl⟩)
      rw [eq, List.append_assoc, List.singleton_append]

/-- **One domain lies under another** if the labels of the other are the last
ones of its own. -/
theorem isUnder_iff : d.isUnder e = true ↔ e.labels <:+ d.labels :=
  isUnder_iff_dnsName.trans Name.labels_suffix_iff.symm

/-- Labels tell the name. -/
theorem labels_inj : d.labels = e.labels ↔ d.dnsName = e.dnsName := by
  refine ⟨fun h => ?_, fun h => by rw [labels, labels, h]⟩
  have names := congrArg Name.ofLabels h
  rwa [labels, labels, Name.ofLabels_labels, Name.ofLabels_labels, String.toList_inj] at names

/-! ## The order -/

theorem isUnder_refl (d : Domain) : d.isUnder d = true := isUnder_iff.2 List.suffix_rfl

theorem isUnder_trans (h : d.isUnder e = true) (h' : e.isUnder f = true) : d.isUnder f = true :=
  isUnder_iff.2 ((isUnder_iff.1 h').trans (isUnder_iff.1 h))

/-- Domains that lie under each other have the same name. -/
theorem isUnder_antisymm (h : d.isUnder e = true) (h' : e.isUnder d = true) :
    d.dnsName = e.dnsName := by
  have below := isUnder_iff.1 h
  have above := isUnder_iff.1 h'
  exact labels_inj.1 (above.eq_of_length_le below.length_le)

/-! ## Wildcards -/

theorem labels_fqdn (name : String) : (fqdn name).labels = Name.labels name.toList := rfl

/-- The star of a wildcard is a label. -/
theorem labels_wildcard (suffix : String) :
    (wildcard suffix).labels = ['*'] :: Name.labels suffix.toList := by
  rw [labels, dnsName_wildcard_toList]
  exact Name.labels_append_dot ['*'] suffix.toList

/-- **A wildcard lies under the name that it is a wildcard of.** -/
theorem wildcard_isUnder_fqdn (suffix : String) :
    (wildcard suffix).isUnder (fqdn suffix) = true := by
  rw [isUnder_iff, labels_wildcard, labels_fqdn]
  exact List.suffix_cons _ _

/-- **What lies under a wildcard** is that wildcard, among domains that have
been parsed: there is no star behind their first label. -/
theorem IsParsed.isUnder_wildcard_iff {suffix : String} (h : d.IsParsed) :
    d.isUnder (wildcard suffix) = true ↔ d = wildcard suffix := by
  refine ⟨fun under => ?_, fun eq => eq ▸ isUnder_refl d⟩
  rw [isUnder_iff_dnsName, dnsName_wildcard_toList] at under
  have star (front : List Char) : '*' ∈ front ++ '.' :: '*' :: '.' :: suffix.toList := by simp
  cases d with
  | fqdn name =>
    refine absurd ?_ h.star_not_mem_name
    show '*' ∈ (fqdn name).dnsName.toList
    rcases under with same | ⟨front, behind⟩
    · exact same ▸ List.mem_cons_self
    · exact behind ▸ star front
  | wildcard suffix' =>
    rw [dnsName_wildcard_toList] at under
    rcases under with same | ⟨_ | ⟨c, front⟩, behind⟩
    · simp only [List.cons.injEq, true_and, String.toList_inj] at same
      rw [same]
    · cases (List.cons.inj behind).1
    · -- the star of the wildcard that is above stands behind the mark
      have inside : '*' ∈ '.' :: suffix'.toList := (List.cons.inj behind).2 ▸ star front
      exact absurd (List.mem_of_ne_of_mem (by decide) inside) h.star_not_mem_name

end Domain

end RecordPlan
