import RecordPlan.Proofs.Domain.Labels

/-!
# Host names

Among the names in ASCII, the strict rule accepts the **host names**: labels of
1 to 63 letters, digits and hyphens, with no hyphen at either end or at both the
third and the fourth place, and 253 characters in all (`Name.IsHostName`). Letter
case is free and is dropped: the ASCII form of a host name is the name in small
letters (`Name.toAscii?_eq_some_iff_isHostName`). So it can be told of every text
in ASCII which domain it is, or why it is none (`Domain.parse_ascii`).

Only names with a label that begins like an encoded one are left out. Such a
label is judged by what it encodes, and not by its own characters.
-/

namespace RecordPlan

namespace Name

open Unicode (isAscii Mapping)
open Unicode.Bidi (nameKeepsDirection)
open Unicode.Canonical (normalize_of_ascii)
open Unicode.Joining (isMark joinersApply joinersApplyFrom)
open Text (toLower_eq_iff toLower_of_not_isUpper toNat_toLower)

/-- **A label of a host name**, in any letter case. -/
structure IsHostLabel (label : List Char) : Prop where
  /-- There is a character. -/
  pos : 1 ≤ label.length
  /-- There are not too many of them. -/
  length_le : label.length ≤ 63
  /-- They are letters, digits and hyphens. -/
  characters : ∀ c ∈ label, c.isAlphanum = true ∨ c = '-'
  /-- No hyphen comes first. -/
  first : label.head? ≠ some '-'
  /-- No hyphen comes last. -/
  last : label.getLast? ≠ some '-'
  /-- No two hyphens come third and fourth. -/
  third_fourth : ¬ (label[2]? = some '-' ∧ label[3]? = some '-')

/-- **A host name**, in any letter case. -/
structure IsHostName (name : List Char) : Prop where
  /-- The name is not too long. -/
  length_le : name.length ≤ 253
  /-- What stands between its dots are labels. -/
  labels : ∀ label ∈ labels name, IsHostLabel label

/-- Whether no label of a name begins like an encoded one, in any letter
case. -/
def IsUnencoded (name : List Char) : Prop :=
  ∀ label ∈ labels name, ¬ encodedMark <+: label.map Char.toLower

instance : DecidablePred IsHostLabel := fun label =>
  decidable_of_iff
    (1 ≤ label.length ∧ label.length ≤ 63 ∧ label.all (fun c => c.isAlphanum || c == '-') = true ∧
      label.head? ≠ some '-' ∧ label.getLast? ≠ some '-' ∧
      ¬ (label[2]? = some '-' ∧ label[3]? = some '-')) <| by
    simp only [List.all_eq_true, Bool.or_eq_true, beq_iff_eq]
    exact ⟨fun ⟨pos, length, characters, first, last, inner⟩ =>
      ⟨pos, length, characters, first, last, inner⟩,
      fun h => ⟨h.pos, h.length_le, h.characters, h.first, h.last, h.third_fourth⟩⟩

instance : DecidablePred IsHostName := fun name =>
  decidable_of_iff (name.length ≤ 253 ∧ ∀ label ∈ labels name, IsHostLabel label)
    ⟨fun ⟨length, labels⟩ => ⟨length, labels⟩, fun h => ⟨h.length_le, h.labels⟩⟩

instance : DecidablePred IsUnencoded := fun name =>
  inferInstanceAs (Decidable (∀ label ∈ labels name, ¬ encodedMark <+: label.map Char.toLower))

variable {c : Char} {label name ascii : List Char} {ls : List (List Char)}

/-! ## Characters of ASCII -/

theorem isAscii_iff : isAscii c = true ↔ c.toNat < 128 := decide_eq_true_iff

theorem isAscii_toLower (c : Char) : isAscii c.toLower = isAscii c :=
  Text.toLower_of_letters (by decide) c

/-- A character of ASCII stands for its small form. -/
theorem image?_eq_toLower (ascii : isAscii c = true) : Mapping.image? c = some [c.toLower] := by
  by_cases upper : c.isUpper = true
  · unfold Mapping.image? Mapping.of
    rw [if_pos ascii, if_pos upper]
  · rw [image?_of_isAscii ascii upper, toLower_of_not_isUpper upper]

/-- A character is stored in small letters if it is a letter, a digit or the
hyphen. -/
theorem isStored_toLower_iff : IsStored c.toLower ↔ c.isAlphanum = true ∨ c = '-' := by
  have hyphen : c = '-' ↔ c.toNat = 45 := Char.toNat_inj.symm
  rw [Text.isAlphanum_iff, hyphen]
  unfold IsStored
  by_cases upper : c.isUpper = true
  · have range := Text.isUpper_iff.1 upper
    rw [toNat_toLower upper]
    omega
  · have range := mt Text.isUpper_iff.2 upper
    rw [toLower_of_not_isUpper upper]
    omega

/-! ## Texts of ASCII -/

theorem all_isAscii_map_toLower (ascii : ∀ c ∈ label, isAscii c = true) :
    (label.map Char.toLower).all isAscii = true := by
  rw [List.all_map, List.all_eq_true]
  exact fun c hc => (isAscii_toLower c).trans (ascii c hc)

/-- A text of ASCII stands for its small form. -/
theorem mapText?_eq_map_toLower (ascii : ∀ c ∈ name, isAscii c = true) :
    Mapping.mapText? name = some (name.map Char.toLower) := by
  have each : name.mapM Mapping.image? = some (name.map fun c => [c.toLower]) := by
    rw [Text.mapM_eq_some_iff, List.map_map]
    exact List.map_congr_left fun c hc => image?_eq_toLower (ascii c hc)
  rw [Mapping.mapText?, each, Option.map_some, ← List.flatMap_def, List.map_eq_flatMap]

/-- The labels of a name in small letters. -/
theorem labels_map_toLower (name : List Char) :
    labels (name.map Char.toLower) = (labels name).map (List.map Char.toLower) :=
  Text.splitOn_map_toLower (by decide) name

theorem mem_ofLabels_of_mem (mem : label ∈ ls) (hc : c ∈ label) : c ∈ ofLabels ls := by
  unfold ofLabels
  induction ls with
  | nil => cases mem
  | cons first rest ih =>
    by_cases last : rest = []
    · subst last
      rwa [List.intercalate_singleton, ← List.mem_singleton.1 mem]
    · rw [List.intercalate_cons_of_ne_nil last, List.mem_append, List.mem_append]
      rcases List.mem_cons.1 mem with rfl | there
      · exact .inl (.inl hc)
      · exact .inr (ih there)

/-- A label of a name consists of characters of the name. -/
theorem mem_of_mem_labels (mem : label ∈ labels name) (hc : c ∈ label) : c ∈ name := by
  rw [← ofLabels_labels name]
  exact mem_ofLabels_of_mem mem hc

/-! ## Labels -/

/-- Text without a joiner has none in a wrong place. -/
theorem joinersApplyFrom_of_ascii (ascii : ∀ c ∈ label, isAscii c = true) (before : List Char) :
    joinersApplyFrom before label = true := by
  induction label generalizing before with
  | nil => rfl
  | cons c rest ih =>
    have small := isAscii_iff.1 (ascii c List.mem_cons_self)
    have notJoiner : (c == Unicode.Joining.nonJoiner || c == Unicode.Joining.joiner) = false := by
      rw [Bool.or_eq_false_iff, beq_eq_false_iff_ne, beq_eq_false_iff_ne]
      refine ⟨?_, ?_⟩ <;> rintro rfl <;> exact absurd small (by decide)
    rw [joinersApplyFrom, notJoiner, Bool.not_false, Bool.true_or, Bool.true_and]
    exact ih (fun d hd => ascii d (List.mem_cons_of_mem _ hd)) _

/-- **Stored characters are accepted** as a label if their hyphens are well
placed. -/
theorem accepts_of_isStored (stored : ∀ c ∈ label, IsStored c)
    (placed : hyphensWellPlaced label = true) : Rule.strict.accepts label = true := by
  have ascii (c : Char) (hc : c ∈ label) : isAscii c = true := (stored c hc).isAscii
  have small : label.all isAscii = true := List.all_eq_true.2 ascii
  have host : label.all isHostCharacter = true := by
    refine List.all_eq_true.2 fun c hc => ?_
    have kinds := isStored_iff.1 (stored c hc)
    simpa [isHostCharacter, ascii c hc, or_assoc] using kinds
  have valid : label.all Mapping.isValid = true := by
    refine List.all_eq_true.2 fun c hc => ?_
    rw [Mapping.isValid, Mapping.of, if_pos (ascii c hc), if_neg (stored c hc).not_isUpper]
    rfl
  have noMark : label.head?.any isMark = false := by
    cases label with
    | nil => rfl
    | cons c rest =>
      show isMark c = false
      rw [isMark, ascii c List.mem_cons_self]
      rfl
  simp only [Rule.accepts, Rule.admits, Bool.and_eq_true, Bool.or_eq_true, beq_iff_eq]
  exact ⟨⟨⟨⟨⟨⟨host, placed⟩, valid⟩, normalize_of_ascii small⟩, by rw [noMark]; rfl⟩,
    joinersApplyFrom_of_ascii ascii []⟩, .inl small⟩

/-- **What the strict rule asks of a label in small letters** is what it asks
of the characters and the hyphens. -/
theorem accepts_map_toLower_iff (ascii : ∀ c ∈ label, isAscii c = true) :
    Rule.strict.accepts (label.map Char.toLower) = true ↔
      (∀ c ∈ label, c.isAlphanum = true ∨ c = '-') ∧
        hyphensWellPlaced (label.map Char.toLower) = true := by
  constructor
  · intro h
    refine ⟨fun c hc => isStored_toLower_iff.1 ?_, (Rule.admits_of_accepts h).2⟩
    exact isStored_of_accepts h (List.mem_map_of_mem hc) ((isAscii_toLower c).trans (ascii c hc))
  · rintro ⟨characters, placed⟩
    refine accepts_of_isStored (List.forall_mem_map.2 fun c hc => ?_) placed
    exact isStored_toLower_iff.2 (characters c hc)

/-- Hyphens stand where they stood before the letters became small ones. -/
theorem hyphensWellPlaced_map_toLower_iff :
    hyphensWellPlaced (label.map Char.toLower) = true ↔
      label.head? ≠ some '-' ∧ label.getLast? ≠ some '-' ∧
        ¬ (label[2]? = some '-' ∧ label[3]? = some '-') := by
  have hyphen (c? : Option Char) : c?.map Char.toLower = some '-' ↔ c? = some '-' := by
    cases c? with
    | none => simp
    | some c =>
      rw [Option.map_some, Option.some.injEq, Option.some.injEq]
      exact toLower_eq_iff (by decide)
  simp only [hyphensWellPlaced, Bool.and_eq_true, bne_iff_ne, ne_eq, Bool.not_eq_true',
    List.head?_map, List.getLast?_map, List.getElem?_map, hyphen, ← Bool.not_eq_true, beq_iff_eq]
  tauto

/-- A label of a host name is one that the strict rule accepts and that fits the
limits. -/
theorem isHostLabel_iff (ascii : ∀ c ∈ label, isAscii c = true) :
    IsHostLabel label ↔ Rule.strict.accepts (label.map Char.toLower) = true ∧
      label ≠ [] ∧ label.length ≤ maxLabelLength := by
  rw [accepts_map_toLower_iff ascii, hyphensWellPlaced_map_toLower_iff,
    ← List.length_pos_iff]
  constructor
  · intro h
    exact ⟨⟨h.characters, h.first, h.last, h.third_fourth⟩, h.pos, h.length_le⟩
  · rintro ⟨⟨characters, first, last, inner⟩, pos, length⟩
    exact ⟨pos, length, characters, first, last, inner⟩

/-! ## Names -/

/-- Names of ASCII have one direction. -/
theorem nameKeepsDirection_of_ascii (ascii : ∀ label ∈ ls, label.all isAscii = true) :
    nameKeepsDirection ls = true := by
  refine Bool.or_eq_true_iff.2 (.inl (List.all_eq_true.2 fun label hl => ?_))
  refine List.all_eq_true.2 fun c hc => ?_
  have small := List.all_eq_true.1 (ascii label hl) c hc
  rw [Unicode.Bidi.isRightward, small]
  rfl

/-- **The labels of an unencoded name** are its labels in small letters, if all
of them are accepted. -/
theorem unicodeLabels?_eq_some_iff_of_ascii (ascii : ∀ c ∈ name, isAscii c = true)
    (unencoded : IsUnencoded name) :
    unicodeLabels? .strict name = some ls ↔
      (∀ label ∈ labels name, Rule.strict.accepts (label.map Char.toLower) = true) ∧
        ls = labels (name.map Char.toLower) := by
  have small : ∀ label ∈ labels name, (label.map Char.toLower).all isAscii = true :=
    fun label hl => all_isAscii_map_toLower fun c hc => ascii c (mem_of_mem_labels hl hc)
  have each : (labels (name.map Char.toLower)).map (unicodeLabel? .strict) =
      (labels (name.map Char.toLower)).map fun label =>
        (some label).filter Rule.strict.accepts := by
    rw [labels_map_toLower, List.map_map, List.map_map]
    refine List.map_congr_left fun label hl => ?_
    rw [Function.comp_apply, unicodeLabel?_of_ascii (small label hl),
      if_neg (mt List.isPrefixOf_iff_prefix.1 (unencoded label hl))]
    rfl
  have direction : nameKeepsDirection (labels (name.map Char.toLower)) = true := by
    refine nameKeepsDirection_of_ascii ?_
    rwa [labels_map_toLower, List.forall_mem_map]
  have judged : (labels (name.map Char.toLower)).map (unicodeLabel? .strict) = ls.map some ↔
      (∀ label ∈ labels name, Rule.strict.accepts (label.map Char.toLower) = true) ∧
        ls = labels (name.map Char.toLower) := by
    rw [each, Text.map_filter_eq_map_some_iff]
    refine and_congr_left fun _ => ?_
    rw [labels_map_toLower, List.forall_mem_map]
  rw [unicodeLabels?_eq_some_iff]
  constructor
  · rintro ⟨mapped, hmapped, read, -⟩
    obtain rfl := Option.some.inj ((mapText?_eq_map_toLower ascii).symm.trans hmapped)
    exact judged.1 read
  · rintro ⟨accepted, rfl⟩
    exact ⟨_, mapText?_eq_map_toLower ascii, judged.2 ⟨accepted, rfl⟩, direction⟩

/-- Small letters take up as much room. -/
theorem fitsLimits_labels_iff :
    fitsLimits (labels (name.map Char.toLower)) = true ↔
      (∀ label ∈ labels name, label ≠ [] ∧ label.length ≤ maxLabelLength) ∧
        name.length ≤ maxLength := by
  rw [fitsLimits, ofLabels_labels, labels_map_toLower, List.length_map, Bool.and_eq_true,
    List.all_eq_true, List.forall_mem_map, decide_eq_true_iff]
  refine and_congr_left fun _ => forall₂_congr fun label _ => ?_
  rw [decide_eq_true_iff, List.length_map, ne_eq, List.map_eq_nil_iff]

/-- **The ASCII form of an unencoded name** exists if it is a host name, and is
the name in small letters. -/
theorem toAscii?_eq_some_iff_isHostName (hascii : ∀ c ∈ name, isAscii c = true)
    (unencoded : IsUnencoded name) :
    toAscii? name = some ascii ↔ IsHostName name ∧ ascii = name.map Char.toLower := by
  have hascii' : ∀ label ∈ labels name, ∀ c ∈ label, isAscii c = true :=
    fun label hl c hc => hascii c (mem_of_mem_labels hl hc)
  have forms : (labels (name.map Char.toLower)).map asciiLabel =
      labels (name.map Char.toLower) := by
    rw [labels_map_toLower, List.map_map]
    exact List.map_congr_left fun label hl => if_pos (all_isAscii_map_toLower (hascii' label hl))
  rw [toAscii?_eq_some_iff]
  simp only [unicodeLabels?_eq_some_iff_of_ascii hascii unencoded]
  constructor
  · rintro ⟨_, ⟨accepted, rfl⟩, limits, rfl⟩
    rw [forms] at limits ⊢
    obtain ⟨lengths, length⟩ := fitsLimits_labels_iff.1 limits
    exact ⟨⟨length, fun label hl =>
      (isHostLabel_iff (hascii' label hl)).2 ⟨accepted label hl, lengths label hl⟩⟩,
      ofLabels_labels _⟩
  · rintro ⟨host, rfl⟩
    have each (label : List Char) (hl : label ∈ labels name) :=
      (isHostLabel_iff (hascii' label hl)).1 (host.labels label hl)
    refine ⟨_, ⟨fun label hl => (each label hl).1, rfl⟩, ?_, ?_⟩
    · rw [forms]
      exact fitsLimits_labels_iff.2 ⟨fun label hl => (each label hl).2, host.length_le⟩
    · rw [forms, ofLabels_labels]

/-! ## What is no host name -/

/-- There is no empty label in a host name. -/
theorem IsHostName.nil_not_mem (h : IsHostName name) : [] ∉ Name.labels name :=
  fun mem => absurd (h.labels [] mem).pos (by decide)

/-- No dot is the last character of a host name. -/
theorem IsHostName.getLast?_ne (h : IsHostName name) : name.getLast? ≠ some '.' := by
  intro dot
  obtain ⟨front, rfl⟩ := List.getLast?_eq_some_iff.1 dot
  refine h.nil_not_mem ?_
  rw [labels_append_dot]
  exact List.mem_append_right _ (List.mem_singleton_self _)

/-- No two dots in a row are in a host name. -/
theorem IsHostName.not_infix (h : IsHostName name) : ¬ ['.', '.'] <:+: name := by
  rintro ⟨front, rest, rfl⟩
  refine h.nil_not_mem ?_
  have between : front ++ ['.', '.'] ++ rest = front ++ '.' :: ([] ++ '.' :: rest) := by simp
  rw [between, labels_append_dot, labels_append_dot]
  exact List.mem_append_right _ (List.mem_append_left _ (List.mem_singleton_self _))

/-- No star is in a host name. -/
theorem IsHostName.star_not_mem (h : IsHostName name) : '*' ∉ name := by
  intro star
  rw [← ofLabels_labels name] at star
  rcases mem_ofLabels star with dot | ⟨label, hl, star⟩
  · cases dot
  · exact absurd ((h.labels label hl).characters _ star) (by decide)

end Name

namespace Domain

open Unicode (isAscii)
open Name (IsHostName IsUnencoded)

/-- The name in a text: what stands behind the mark of a wildcard, if there is
one. -/
def nameText : List Char → List Char
  | '*' :: '.' :: suffix => suffix
  | name => name

/-- The kind of domain that a text asks for. -/
def kindOf : List Char → String → Domain
  | '*' :: '.' :: _ => wildcard
  | _ => fqdn

/-- What is parsed, but for a lone star, is the name in the text. -/
theorem parse_eq_map {raw : String} (h : raw.toList ≠ ['*']) :
    Domain.parse raw = (normalizeName (nameText raw.toList)).map (kindOf raw.toList) := by
  unfold Domain.parse
  split
  · next star => exact absurd star h
  · next mark => rw [mark]; rfl
  · next _ unmarked => rw [nameText.eq_2 _ unmarked, kindOf.eq_2 _ unmarked]

/-- There is no name in the empty text and behind a lone mark. -/
theorem nameText_eq_nil_iff {raw : List Char} : nameText raw = [] ↔ raw = [] ∨ raw = ['*', '.'] := by
  unfold nameText
  split
  · simp
  · next unmarked =>
    refine ⟨.inl, fun h => h.resolve_right fun mark => unmarked [] mark⟩

theorem mem_of_mem_nameText {raw : List Char} {c : Char} (h : c ∈ nameText raw) : c ∈ raw := by
  unfold nameText at h
  split at h
  · exact List.mem_cons_of_mem _ (List.mem_cons_of_mem _ h)
  · exact h

/-- The mark of a wildcard is no label that begins like an encoded one. -/
theorem isUnencoded_nameText {raw : List Char} (h : IsUnencoded raw) :
    IsUnencoded (nameText raw) := by
  unfold nameText
  split
  · next suffix =>
    have split : Name.labels ('*' :: '.' :: suffix) = ['*'] :: Name.labels suffix :=
      Name.labels_append_dot ['*'] suffix
    exact fun label hl => h label (split ▸ List.mem_cons_of_mem _ hl)
  · exact h

/-- **What a text of ASCII is parsed as**: a lone star and nothing at all are
told apart from names that are no host names. -/
theorem parse_of_ascii {raw : String} (ascii : ∀ c ∈ raw.toList, isAscii c = true)
    (unencoded : IsUnencoded raw.toList) :
    Domain.parse raw =
      if raw = "*" then .error .notFullyQualified
      else if raw = "" ∨ raw = "*." then .error .empty
      else if IsHostName (nameText raw.toList) then
        .ok (kindOf raw.toList (String.ofList ((nameText raw.toList).map Char.toLower)))
      else .error .invalidName := by
  have forms (form : List Char) : Name.toAscii? (nameText raw.toList) = some form ↔ _ :=
    Name.toAscii?_eq_some_iff_isHostName (fun c hc => ascii c (mem_of_mem_nameText hc))
      (isUnencoded_nameText unencoded)
  have nothing : nameText raw.toList = [] ↔ raw = "" ∨ raw = "*." := by
    rw [nameText_eq_nil_iff, ← String.toList_inj, ← String.toList_inj]
    rfl
  by_cases star : raw = "*"
  · subst star
    rfl
  · rw [if_neg star, parse_eq_map fun eq => star (String.toList_inj.1 eq), normalizeName]
    by_cases empty : nameText raw.toList = []
    · rw [if_pos empty, if_pos (nothing.1 empty)]
      rfl
    · rw [if_neg empty, if_neg (mt nothing.2 empty)]
      by_cases host : IsHostName (nameText raw.toList)
      · rw [if_pos host, (forms _).2 ⟨host, rfl⟩]
        rfl
      · have none : Name.toAscii? (nameText raw.toList) = none :=
          Option.eq_none_iff_forall_ne_some.2 fun form eq => host ((forms form).1 eq).1
        rw [if_neg host, none]
        rfl

/-- **The domains that are written in ASCII.** A text of which no label begins
like an encoded one is

* not fully qualified if it is a lone star,
* empty if there is nothing in it, or nothing behind the mark of a wildcard,
* the domain of the name in small letters if that name is a host name – a
  wildcard if there is a mark –,
* and invalid otherwise.

The last is so, among others, if a dot ends the name, if two dots in it stand
side by side, and if there is a star other than that of the mark. -/
theorem parse_ascii (raw : String) (ascii : ∀ c ∈ raw.toList, isAscii c = true)
    (unencoded : IsUnencoded raw.toList) :
    (Domain.parse raw = .error .notFullyQualified ↔ raw = "*") ∧
    (Domain.parse raw = .error .empty ↔ raw = "" ∨ raw = "*.") ∧
    (∀ d, Domain.parse raw = .ok d ↔
      IsHostName (nameText raw.toList) ∧
        d = kindOf raw.toList (String.ofList ((nameText raw.toList).map Char.toLower))) ∧
    (Domain.parse raw = .error .invalidName ↔
      raw ∉ ["*", "", "*."] ∧ ¬ IsHostName (nameText raw.toList)) ∧
    (raw ≠ "*" →
      (nameText raw.toList).getLast? = some '.' ∨ ['.', '.'] <:+: nameText raw.toList ∨
        '*' ∈ nameText raw.toList →
      Domain.parse raw = .error .invalidName) := by
  have parse := parse_of_ascii ascii unencoded
  have notHost (kind : raw = "*" ∨ raw = "" ∨ raw = "*.") :
      ¬ IsHostName (nameText raw.toList) := by
    rcases kind with rfl | rfl | rfl <;> decide
  have invalid : Domain.parse raw = .error .invalidName ↔
      raw ∉ ["*", "", "*."] ∧ ¬ IsHostName (nameText raw.toList) := by
    rw [parse]
    split_ifs <;> simp_all
  refine ⟨?star, ?empty, fun d => ?domain, invalid, fun notStar defect => invalid.2 ⟨?_, ?_⟩⟩
  case star =>
    rw [parse]
    split_ifs <;> simp_all
  case empty =>
    rw [parse]
    split_ifs <;> simp_all
  case domain =>
    rw [parse]
    split_ifs with star nothing host
    · exact iff_of_false (by simp) fun h => notHost (.inl star) h.1
    · exact iff_of_false (by simp) fun h => notHost (.inr nothing) h.1
    · rw [Except.ok.injEq, eq_comm, iff_and_self]
      exact fun _ => host
    · exact iff_of_false (by simp) fun h => host h.1
  · intro kind
    simp only [List.mem_cons, List.not_mem_nil, or_false] at kind
    rcases kind with rfl | rfl | rfl
    · exact notStar rfl
    · exact absurd defect (by decide)
    · exact absurd defect (by decide)
  · intro host
    rcases defect with dot | dots | star
    · exact host.getLast?_ne dot
    · exact host.not_infix dots
    · exact host.star_not_mem star

/-- A wildcard in mixed letter case is accepted; behind a second star it is
not. -/
theorem mixed_case_wildcard_is_parsed :
    Domain.parse "*.Exa--Mple.ORG" = .ok (.wildcard "exa--mple.org") ∧
      Domain.parse "*.*.Exa--Mple.ORG" = .error .invalidName := by
  obtain ⟨-, -, domain, -, -⟩ := parse_ascii "*.Exa--Mple.ORG"
    (List.all_eq_true.1 (by decide)) (by decide)
  obtain ⟨-, -, -, -, defect⟩ := parse_ascii "*.*.Exa--Mple.ORG"
    (List.all_eq_true.1 (by decide)) (by decide)
  have small : "exa--mple.org".toList = (String.ofList
      ((nameText "*.Exa--Mple.ORG".toList).map Char.toLower)).toList := by
    rw [String.toList_ofList]
    decide
  refine ⟨(domain _).2 ⟨by decide, ?_⟩, defect (by decide) (.inr (.inr (by decide)))⟩
  exact congrArg wildcard (String.toList_inj.1 small)

end Domain

end RecordPlan
