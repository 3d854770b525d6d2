import RecordPlan.Domain.Basic
import RecordPlan.Proofs.Name.International

/-!
# Domains that have been parsed

A domain that has been parsed has a name in its ASCII form
(`Domain.IsParsed.toAscii?_name`), and is what its name in the domain name
system is parsed as (`Domain.IsParsed.parse_dnsName`). That name is not
empty and consists of small letters, digits, hyphens and dots, with a star
in front if it is that of a wildcard.

What such a domain is shown as is parsed as it as well
(`Domain.IsParsed.parse_describe`), and so tells it from all others
(`Domain.eq_of_describe_eq`).
-/

namespace RecordPlan.Domain

open Name (IsStored)

/-- Whether a domain is what some text is parsed as. -/
def IsParsed (d : Domain) : Prop := ∃ raw, Domain.parse raw = .ok d

variable {d : Domain}

theorem normalizeName_eq_ok_iff {name : List Char} {text : String} :
    normalizeName name = .ok text ↔
      name ≠ [] ∧ ∃ ascii, Name.toAscii? name = some ascii ∧ String.ofList ascii = text := by
  unfold normalizeName
  split
  · next empty => simp [empty]
  · next notEmpty => cases Name.toAscii? name <;> simp [notEmpty]

theorem map_eq_ok_iff {x : Except DomainError String} {kind : String → Domain} :
    x.map kind = .ok d ↔ ∃ text, x = .ok text ∧ kind text = d := by
  cases x <;> simp [Except.map]

/-- What is parsed has a name that has been normalized. -/
theorem exists_normalizeName_of_parse {raw : String} (h : Domain.parse raw = .ok d) :
    ∃ typed, normalizeName typed = .ok d.name := by
  unfold Domain.parse at h
  split at h
  · cases h
  · obtain ⟨text, hname, rfl⟩ := map_eq_ok_iff.1 h
    exact ⟨_, hname⟩
  · obtain ⟨text, hname, rfl⟩ := map_eq_ok_iff.1 h
    exact ⟨_, hname⟩

theorem dnsName_wildcard_toList (suffix : String) :
    (wildcard suffix).dnsName.toList = '*' :: '.' :: suffix.toList :=
  String.toList_append

/-- **A domain written with another name** is parsed as that domain if the
other name is one that its own name is the ASCII form of. -/
theorem parse_withName {text : String} (normal : normalizeName text.toList = .ok d.name)
    (noStar : ∀ rest, text.toList ≠ '*' :: rest) : Domain.parse (d.withName text) = .ok d := by
  cases d with
  | fqdn name =>
    show Domain.parse text = _
    unfold Domain.parse
    split
    · next eq => exact absurd eq (noStar _)
    · next eq => exact absurd eq (noStar _)
    · rw [show normalizeName text.toList = .ok name from normal]
      rfl
  | wildcard suffix =>
    have marked : ((wildcard suffix).withName text).toList = '*' :: '.' :: text.toList :=
      String.toList_append
    unfold Domain.parse
    rw [marked]
    show (normalizeName text.toList).map _ = _
    rw [show normalizeName text.toList = .ok suffix from normal]
    rfl

namespace IsParsed

/-- The name of a domain that has been parsed is its own ASCII form. -/
theorem toAscii?_name (h : d.IsParsed) : Name.toAscii? d.name.toList = some d.name.toList := by
  obtain ⟨raw, h⟩ := h
  obtain ⟨typed, h⟩ := exists_normalizeName_of_parse h
  obtain ⟨-, ascii, hascii, eq⟩ := normalizeName_eq_ok_iff.1 h
  rw [← eq, String.toList_ofList]
  exact Name.toAscii?_of_toAscii? hascii

theorem name_ne_nil (h : d.IsParsed) : d.name.toList ≠ [] :=
  (Name.isStored_of_toAscii? h.toAscii?_name).1

theorem name_ne_empty (h : d.IsParsed) : d.name ≠ "" :=
  fun empty => h.name_ne_nil (String.toList_eq_nil_iff.2 empty)

theorem isStored_of_mem_name (h : d.IsParsed) {c : Char} (hc : c ∈ d.name.toList) :
    IsStored c ∨ c = '.' :=
  (Name.isStored_of_toAscii? h.toAscii?_name).2 c hc

theorem normalizeName_name (h : d.IsParsed) : normalizeName d.name.toList = .ok d.name :=
  normalizeName_eq_ok_iff.2 ⟨h.name_ne_nil, _, h.toAscii?_name, String.ofList_toList⟩

/-- There is no star in the name of a domain that has been parsed. -/
theorem star_not_mem_name (h : d.IsParsed) : '*' ∉ d.name.toList := by
  intro star
  rcases h.isStored_of_mem_name star with stored | dot
  · exact stored.ne (by unfold IsStored; decide) rfl
  · cases dot

/-- The name of a domain that has been parsed does not begin with a star. -/
theorem head_name_ne (h : d.IsParsed) (rest : List Char) : d.name.toList ≠ '*' :: rest :=
  fun eq => h.star_not_mem_name (eq ▸ List.mem_cons_self)

/-- **A domain that has been parsed** is what its name in the domain name
system is parsed as. -/
theorem parse_dnsName (h : d.IsParsed) : Domain.parse d.dnsName = .ok d :=
  parse_withName h.normalizeName_name h.head_name_ne

/-- The characters of the name in the domain name system. -/
theorem isStored_of_mem_dnsName (h : d.IsParsed) {c : Char} (hc : c ∈ d.dnsName.toList) :
    IsStored c ∨ c = '.' ∨ c = '*' := by
  have stored := h.isStored_of_mem_name (c := c)
  cases d with
  | fqdn name => exact (stored hc).imp_right .inl
  | wildcard suffix =>
    rw [dnsName_wildcard_toList, List.mem_cons, List.mem_cons] at hc
    rcases hc with star | dot | mem
    · exact .inr (.inr star)
    · exact .inr (.inl dot)
    · exact (stored mem).imp_right .inl

theorem dnsName_ne_nil (h : d.IsParsed) : d.dnsName.toList ≠ [] := by
  cases d with
  | fqdn name => exact h.name_ne_nil
  | wildcard suffix =>
    rw [dnsName_wildcard_toList]
    exact List.cons_ne_nil _ _

end IsParsed

/-! ## Domains as they are shown -/

theorem describe_of_toUnicode? {shown : List Char}
    (h : Name.toUnicode? d.name.toList = some shown) :
    d.describe = d.withName (String.ofList shown) := by
  rw [describe, h]

/-- A domain that has been parsed has a Unicode form, which its own name is
the ASCII form of, and in which there is no star. -/
theorem IsParsed.exists_toUnicode? (h : d.IsParsed) :
    ∃ shown, Name.toUnicode? d.name.toList = some shown ∧
      normalizeName shown = .ok d.name ∧ '*' ∉ shown := by
  obtain ⟨shown, eq, mapped, host⟩ := Name.exists_toUnicode?_of_toAscii? h.toAscii?_name
  have notEmpty : shown ≠ [] := by
    rintro rfl
    have none : Name.toAscii? [] = none := by decide
    rw [none] at mapped
    cases mapped
  refine ⟨shown, eq, normalizeName_eq_ok_iff.2 ⟨notEmpty, _, mapped, String.ofList_toList⟩, ?_⟩
  intro star
  rcases host '*' star with dot | host
  · cases dot
  · exact absurd host (by decide)

/-- **A domain that has been parsed** is what the text that it is shown as is
parsed as. -/
theorem IsParsed.parse_describe (h : d.IsParsed) : Domain.parse d.describe = .ok d := by
  obtain ⟨shown, eq, normal, noStar⟩ := h.exists_toUnicode?
  rw [describe_of_toUnicode? eq]
  refine parse_withName ?_ fun rest => ?_
  · rwa [String.toList_ofList]
  · rw [String.toList_ofList]
    rintro rfl
    exact noStar List.mem_cons_self

/-- A text that is parsed back tells apart domains that have been parsed. -/
theorem eq_iff_of_parse {e : Domain} {render : Domain → String} (hd : Domain.parse (render d) = .ok d)
    (he : Domain.parse (render e) = .ok e) : d = e ↔ render d = render e := by
  refine ⟨congrArg render, fun same => ?_⟩
  rw [same, he] at hd
  exact (Except.ok.inj hd).symm

/-- **Domains that have been parsed are told apart by what they are shown
as.** -/
theorem eq_of_describe_eq {e : Domain} (hd : d.IsParsed) (he : e.IsParsed)
    (h : d.describe = e.describe) : d = e :=
  (eq_iff_of_parse hd.parse_describe he.parse_describe).2 h

end RecordPlan.Domain
