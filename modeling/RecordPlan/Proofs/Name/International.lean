import RecordPlan.Name.International
import RecordPlan.Proofs.Name.Label
import RecordPlan.Proofs.Text.Part

/-!
# Names in ASCII

The ASCII form of a name is a name that is already in its ASCII form:
`toAscii?` maps it to itself (`toAscii?_of_toAscii?`). Its characters stand
for themselves, it falls apart into the labels that it was put together
from, and each of them is read as the label that it stands for. So what is
judged in the end is the same as before.

For the same reason it always has a Unicode form, and that is mapped back to
it (`exists_toUnicode?_of_toAscii?`).
-/

namespace RecordPlan.Name

open Unicode (isAscii Mapping)
open Unicode.Bidi (nameKeepsDirection)
open Text (mapM_eq_some_iff)

/-- **What a name has to be** under the strict rule: labels that are accepted
one by one and together, with ASCII forms that fit the limits. -/
structure IsStrict (labels : List (List Char)) : Prop where
  /-- There is a label. -/
  ne_nil : labels ≠ []
  /-- Every label is accepted. -/
  accepts : ∀ label ∈ labels, Rule.strict.accepts label = true
  /-- The labels keep their direction. -/
  direction : nameKeepsDirection labels = true
  /-- The ASCII form fits the limits. -/
  limits : fitsLimits (labels.map asciiLabel) = true

variable {name ascii : List Char} {labels : List (List Char)}

theorem accepts_of_unicodeLabel? {rule : Rule} {mapped label : List Char}
    (h : unicodeLabel? rule mapped = some label) : rule.accepts label = true := by
  unfold unicodeLabel? at h
  exact (Option.filter_eq_some_iff.1 h).2

theorem unicodeLabels?_eq_some_iff {rule : Rule} :
    unicodeLabels? rule name = some labels ↔
      ∃ mapped, Mapping.mapText? name = some mapped ∧
        (Name.labels mapped).map (unicodeLabel? rule) = labels.map some ∧
        nameKeepsDirection labels = true := by
  unfold unicodeLabels?
  simp only [Option.bind_eq_bind, Option.bind_eq_some_iff, mapM_eq_some_iff]
  refine exists_congr fun mapped => and_congr_right fun _ => ?_
  constructor
  · rintro ⟨read, eq, h⟩
    split at h
    · next keeps =>
      obtain rfl := Option.some.inj h
      exact ⟨eq, keeps⟩
    · cases h
  · rintro ⟨eq, keeps⟩
    exact ⟨labels, eq, if_pos keeps⟩

theorem toAscii?_eq_some_iff :
    toAscii? name = some ascii ↔ ∃ labels, unicodeLabels? .strict name = some labels ∧
      fitsLimits (labels.map asciiLabel) = true ∧ ofLabels (labels.map asciiLabel) = ascii := by
  unfold toAscii?
  simp only [Option.bind_eq_bind, Option.bind_eq_some_iff]
  refine exists_congr fun labels => and_congr_right fun _ => ?_
  rw [Option.ite_none_right_eq_some, Option.some.injEq]

/-- A name with an ASCII form is strict, and the form is put together from
its labels. -/
theorem exists_isStrict_of_toAscii? (h : toAscii? name = some ascii) :
    ∃ labels, IsStrict labels ∧ ofLabels (labels.map asciiLabel) = ascii := by
  obtain ⟨labels, read, limits, eq⟩ := toAscii?_eq_some_iff.1 h
  obtain ⟨mapped, -, each, direction⟩ := unicodeLabels?_eq_some_iff.1 read
  refine ⟨labels, ⟨?_, fun label mem => ?_, direction, limits⟩, eq⟩
  · -- even the empty text has a label, the empty one
    rintro rfl
    exact List.splitOn_ne_nil '.' mapped (List.map_eq_nil_iff.1 each)
  · have some_mem : some label ∈ labels.map some := List.mem_map_of_mem mem
    rw [← each] at some_mem
    obtain ⟨part, -, hpart⟩ := List.mem_map.1 some_mem
    exact accepts_of_unicodeLabel? hpart

/-- Text that stands for itself is mapped to itself. -/
theorem mapText?_of_image? {text : List Char} (h : ∀ c ∈ text, Mapping.image? c = some [c]) :
    Mapping.mapText? text = some text := by
  unfold Mapping.mapText?
  have each : text.mapM Mapping.image? = some (text.map fun c => [c]) := by
    rw [mapM_eq_some_iff, List.map_map]
    exact List.map_congr_left h
  rw [each, Option.map_some, ← List.flatMap_def, List.flatMap_singleton']

/-- A name consists of its labels and of dots. -/
theorem mem_ofLabels {c : Char} (h : c ∈ ofLabels labels) :
    c = '.' ∨ ∃ label ∈ labels, c ∈ label :=
  Text.mem_intercalate h

namespace IsStrict

variable {label : List Char}

/-- The forms of the labels are not empty, and short enough to be read. -/
theorem asciiLabel_bounds (h : IsStrict labels) (mem : label ∈ labels) :
    asciiLabel label ≠ [] ∧ (asciiLabel label).length ≤ 63 := by
  have limits := h.limits
  unfold fitsLimits at limits
  rw [Bool.and_eq_true, List.all_eq_true] at limits
  exact of_decide_eq_true (limits.1 _ (List.mem_map_of_mem mem))

theorem isStored_of_mem (h : IsStrict labels) {c : Char}
    (hc : c ∈ ofLabels (labels.map asciiLabel)) : IsStored c ∨ c = '.' := by
  rcases mem_ofLabels hc with dot | ⟨form, mem, hc⟩
  · exact .inr dot
  · obtain ⟨label, hlabel, rfl⟩ := List.mem_map.1 mem
    exact .inl (isStored_of_mem_asciiLabel (h.accepts label hlabel) hc)

/-- The ASCII form of a strict name falls apart into those of its labels. -/
theorem labels_ofLabels (h : IsStrict labels) :
    Name.labels (ofLabels (labels.map asciiLabel)) = labels.map asciiLabel := by
  refine List.splitOn_intercalate '.' ?_ (mt List.map_eq_nil_iff.1 h.ne_nil)
  -- no dot is stored, so none stands inside of a label
  intro form mem dot
  obtain ⟨label, hlabel, rfl⟩ := List.mem_map.1 mem
  have stored := isStored_of_mem_asciiLabel (h.accepts label hlabel) dot
  exact stored.ne (by unfold IsStored; decide) rfl

theorem ofLabels_ne_nil (h : IsStrict labels) : ofLabels (labels.map asciiLabel) ≠ [] := by
  intro empty
  have split := h.labels_ofLabels
  rw [empty] at split
  have mem : [] ∈ labels.map asciiLabel := by
    rw [← split]
    exact List.mem_singleton_self _
  obtain ⟨label, hlabel, eq⟩ := List.mem_map.1 mem
  exact (h.asciiLabel_bounds hlabel).1 eq

/-- **The ASCII form of a strict name is read as that name**, under either
rule. -/
theorem unicodeLabels?_ofLabels (rule : Rule) (h : IsStrict labels) :
    unicodeLabels? rule (ofLabels (labels.map asciiLabel)) = some labels := by
  refine unicodeLabels?_eq_some_iff.2 ⟨_, mapText?_of_image? ?_, ?_, h.direction⟩
  · intro c hc
    rcases h.isStored_of_mem hc with stored | rfl
    · exact image?_of_isAscii stored.isAscii stored.not_isUpper
    · exact image?_of_isAscii rfl (by decide)
  · rw [h.labels_ofLabels, List.map_map]
    refine List.map_congr_left fun label mem => ?_
    exact unicodeLabel?_asciiLabel rule (h.accepts label mem) (h.asciiLabel_bounds mem).2

/-- **The ASCII form of a strict name is its own ASCII form.** -/
theorem toAscii?_ofLabels (h : IsStrict labels) :
    toAscii? (ofLabels (labels.map asciiLabel)) = some (ofLabels (labels.map asciiLabel)) :=
  toAscii?_eq_some_iff.2 ⟨labels, h.unicodeLabels?_ofLabels .strict, h.limits, rfl⟩

/-- **A strict name is shown as it is.** -/
theorem toUnicode?_ofLabels (h : IsStrict labels) :
    toUnicode? (ofLabels (labels.map asciiLabel)) = some (ofLabels labels) := by
  rw [toUnicode?, h.unicodeLabels?_ofLabels .lenient]
  rfl

/-- What a name is shown as consists of characters for hosts, and of dots. -/
theorem isHostCharacter_of_mem (h : IsStrict labels) {c : Char} (hc : c ∈ ofLabels labels) :
    c = '.' ∨ isHostCharacter c = true := by
  refine (mem_ofLabels hc).imp_right fun ⟨label, mem, hc⟩ => ?_
  exact (Rule.admits_of_accepts (h.accepts label mem)).1 c hc

/-- A strict name that is shown falls apart into its labels. -/
theorem labels_of_shown (h : IsStrict labels) : Name.labels (ofLabels labels) = labels := by
  refine List.splitOn_intercalate '.' (fun label mem dot => ?_) h.ne_nil
  have host := (Rule.admits_of_accepts (h.accepts label mem)).1 '.' dot
  exact absurd host (by decide)

/-- **A strict name that is shown** has the ASCII form that it was shown for. -/
theorem toAscii?_shown (h : IsStrict labels) :
    toAscii? (ofLabels labels) = some (ofLabels (labels.map asciiLabel)) := by
  have mapped : Mapping.mapText? (ofLabels labels) = some (ofLabels labels) := by
    refine mapText?_of_image? fun c hc => ?_
    rcases mem_ofLabels hc with rfl | ⟨label, mem, hc⟩
    · exact image?_of_isAscii rfl (by decide)
    · exact (Rule.stays_of_accepts (h.accepts label mem)).1 c hc
  have read : unicodeLabels? .strict (ofLabels labels) = some labels := by
    refine unicodeLabels?_eq_some_iff.2 ⟨_, mapped, ?_, h.direction⟩
    rw [h.labels_of_shown]
    exact List.map_congr_left fun label mem => unicodeLabel?_of_accepts (h.accepts label mem)
  exact toAscii?_eq_some_iff.2 ⟨labels, read, h.limits, rfl⟩

end IsStrict

/-- **The ASCII form of a name** is mapped to itself. -/
theorem toAscii?_of_toAscii? (h : toAscii? name = some ascii) : toAscii? ascii = some ascii := by
  obtain ⟨labels, strict, rfl⟩ := exists_isStrict_of_toAscii? h
  exact strict.toAscii?_ofLabels

/-- **A name in its ASCII form can be shown**, in characters for hosts and
dots, and what it is shown as is mapped to that form again. -/
theorem exists_toUnicode?_of_toAscii? (h : toAscii? name = some ascii) :
    ∃ shown, toUnicode? ascii = some shown ∧ toAscii? shown = some ascii ∧
      ∀ c ∈ shown, c = '.' ∨ isHostCharacter c = true := by
  obtain ⟨labels, strict, rfl⟩ := exists_isStrict_of_toAscii? h
  exact ⟨_, strict.toUnicode?_ofLabels, strict.toAscii?_shown,
    fun c hc => strict.isHostCharacter_of_mem hc⟩

/-- The ASCII form of a name is not empty, and consists of stored characters
and dots. -/
theorem isStored_of_toAscii? (h : toAscii? name = some ascii) :
    ascii ≠ [] ∧ ∀ c ∈ ascii, IsStored c ∨ c = '.' := by
  obtain ⟨labels, strict, rfl⟩ := exists_isStrict_of_toAscii? h
  exact ⟨strict.ofLabels_ne_nil, fun c hc => strict.isStored_of_mem hc⟩

end RecordPlan.Name
