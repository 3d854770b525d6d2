import RecordPlan.Proofs.Domain.HostName
import RecordPlan.Proofs.Text.Bytes

/-!
# How long domains are

The name of a domain that has been parsed fits the limits of the domain name
system: each of its labels has from 1 to 63 bytes, and there are no more than 253
bytes in all (`Domain.IsParsed.label_bounds`, `Domain.IsParsed.length_name_le`).

The limits are put on the name without the mark of a wildcard. The mark is a
label of one byte, and of labels it leaves nothing to be desired, but with its dot
it takes up two bytes of the whole. So the name of a wildcard in the domain name
system may have as many as 255 bytes (`Domain.longestWildcard`), which is more
than there may be. It is as short as it should be if and only if the name that it
is a wildcard of has no more than 251. The main statement is
`Domain.length_of_parsed_domain`.
-/

namespace RecordPlan.Domain

open Text (byteLength)

variable {d : Domain} {label : List Char}

namespace IsParsed

/-- **The labels of a name** are neither empty nor too long. -/
theorem label_bounds_name (h : d.IsParsed) (there : label ∈ Name.labels d.name.toList) :
    1 ≤ label.length ∧ label.length ≤ 63 := by
  obtain ⟨labels, strict, eq⟩ := Name.exists_isStrict_of_toAscii? h.toAscii?_name
  rw [← eq, strict.labels_ofLabels] at there
  obtain ⟨shown, mem, rfl⟩ := List.mem_map.1 there
  obtain ⟨ne, le⟩ := strict.asciiLabel_bounds mem
  exact ⟨List.length_pos_iff.2 ne, le⟩

/-- **A name** is not too long. -/
theorem length_name_le (h : d.IsParsed) : d.name.toList.length ≤ 253 := by
  obtain ⟨labels, strict, eq⟩ := Name.exists_isStrict_of_toAscii? h.toAscii?_name
  have limits := strict.limits
  rw [Name.fitsLimits, Bool.and_eq_true, decide_eq_true_iff, eq] at limits
  exact limits.2

/-- The star of a wildcard is not too long a label either. -/
theorem label_bounds (h : d.IsParsed) (there : label ∈ d.labels) :
    1 ≤ label.length ∧ label.length ≤ 63 := by
  cases d with
  | fqdn name => exact h.label_bounds_name there
  | wildcard suffix =>
    rw [labels_wildcard] at there
    rcases List.mem_cons.1 there with rfl | there
    · decide
    · exact h.label_bounds_name there

/-- The name in the domain name system is ASCII. -/
theorem ascii_dnsName (h : d.IsParsed) : ∀ c ∈ d.dnsName.toList, c.toNat < 0x80 := by
  intro c hc
  rcases h.isStored_of_mem_dnsName hc with stored | rfl | rfl
  · exact Name.isAscii_iff.1 stored.isAscii
  · decide
  · decide

/-- There is a byte for each character of the name. -/
theorem byteLength_name (h : d.IsParsed) : byteLength d.name.toList = d.name.toList.length := by
  refine Text.byteLength_of_ascii fun c hc => ?_
  rcases h.isStored_of_mem_name hc with stored | rfl
  · exact Name.isAscii_iff.1 stored.isAscii
  · decide

/-- There is a byte for each character of a label. -/
theorem byteLength_label (h : d.IsParsed) (there : label ∈ d.labels) :
    byteLength label = label.length :=
  Text.byteLength_of_ascii fun c hc => h.ascii_dnsName c (Name.mem_of_mem_labels there hc)

end IsParsed

/-- The mark of a wildcard takes up two bytes. -/
theorem byteLength_dnsName_wildcard (suffix : String) :
    byteLength (wildcard suffix).dnsName.toList = byteLength suffix.toList + 2 := by
  rw [dnsName_wildcard_toList, Text.byteLength_cons, Text.byteLength_cons,
    Text.utf8Size_eq_one (by decide), Text.utf8Size_eq_one (by decide)]
  omega

/-- **How long a domain is that has been parsed.** Its name has a byte for each
character. Every label has from 1 to 63 bytes, the star of a wildcard among them,
and without its mark the name has no more than 253. A name without a mark is
therefore short enough for the domain name system. A wildcard has two bytes more,
and so may have as many as 255; it is short enough if and only if the name that it
is a wildcard of has no more than 251. -/
theorem length_of_parsed_domain {raw : String} (parsed : Domain.parse raw = .ok d) :
    (∀ label ∈ d.labels, 1 ≤ byteLength label ∧ byteLength label ≤ 63) ∧
    byteLength d.name.toList ≤ 253 ∧
    (∀ name, d = fqdn name → byteLength d.dnsName.toList ≤ 253) ∧
    ∀ suffix, d = wildcard suffix →
      byteLength d.dnsName.toList = byteLength suffix.toList + 2 ∧
        byteLength d.dnsName.toList ≤ 255 ∧
        (byteLength d.dnsName.toList ≤ 253 ↔ byteLength suffix.toList ≤ 251) := by
  have h : d.IsParsed := ⟨raw, parsed⟩
  have name : byteLength d.name.toList ≤ 253 := by
    rw [h.byteLength_name]
    exact h.length_name_le
  refine ⟨fun label there => ?_, name, ?_, ?_⟩
  · rw [h.byteLength_label there]
    exact h.label_bounds there
  · rintro _ rfl
    exact name
  · rintro suffix rfl
    have mark := byteLength_dnsName_wildcard suffix
    have le : byteLength suffix.toList ≤ 253 := name
    omega

/-! ## The longest wildcard -/

/-- A name of 253 characters. -/
def longestName : List Char :=
  Name.ofLabels [.replicate 63 'a', .replicate 63 'a', .replicate 63 'a', .replicate 61 'a']

theorem byteLength_longestName : byteLength longestName = 253 := by decide +kernel

/-- What its wildcard is written as. -/
def longestWildcard : String := String.ofList ('*' :: '.' :: longestName)

theorem parse_longestWildcard :
    Domain.parse longestWildcard = .ok (wildcard (String.ofList longestName)) := by
  have ascii : ∀ c ∈ longestName, Unicode.isAscii c = true := List.all_eq_true.1 (by decide +kernel)
  have unencoded : Name.IsUnencoded longestName := by decide +kernel
  have host : Name.IsHostName longestName := by decide +kernel
  have small : longestName = longestName.map Char.toLower := by decide +kernel
  have normal : normalizeName longestName = .ok (String.ofList longestName) :=
    normalizeName_eq_ok_iff.2 ⟨List.cons_ne_nil _ _, longestName,
      (Name.toAscii?_eq_some_iff_isHostName ascii unencoded).2 ⟨host, small⟩, rfl⟩
  rw [Domain.parse, longestWildcard, String.toList_ofList]
  exact map_eq_ok_iff.2 ⟨_, normal, rfl⟩

/-- **The longest wildcard** is parsed, and its name in the domain name system has
255 bytes. -/
theorem longestWildcard_is_parsed :
    Domain.parse longestWildcard = .ok (wildcard (String.ofList longestName)) ∧
      byteLength (wildcard (String.ofList longestName)).dnsName.toList = 255 ∧
      ∀ label ∈ (wildcard (String.ofList longestName)).labels, byteLength label ≤ 63 := by
  obtain ⟨labels, -, -, wildcards⟩ := length_of_parsed_domain parse_longestWildcard
  refine ⟨parse_longestWildcard, ?_, fun label there => (labels label there).2⟩
  rw [(wildcards _ rfl).1, String.toList_ofList, byteLength_longestName]

/-- A domain that is parsed may be too long for the domain name system. -/
theorem parsed_domain_may_be_too_long :
    ¬ ∀ raw d, Domain.parse raw = .ok d → byteLength d.dnsName.toList ≤ 253 := by
  intro short
  have le := short _ _ parse_longestWildcard
  rw [byteLength_dnsName_wildcard, String.toList_ofList, byteLength_longestName] at le
  exact absurd le (by decide)

end RecordPlan.Domain
