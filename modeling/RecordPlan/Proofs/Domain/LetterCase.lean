import RecordPlan.Proofs.Domain.HostName

/-!
# Domains in any letter case

What stands for a capital letter of ASCII when a name is prepared is what stands
for the small one. So a text is the same domain in any case of its ASCII
letters, or is rejected for the same reason (`Domain.parse_eq_of_sameButCase`).
-/

namespace RecordPlan

open Text (IgnoresCase)
open Unicode (isAscii Mapping)

/-! ## Names -/

namespace Name

theorem image?_toLower (c : Char) : Mapping.image? c.toLower = Mapping.image? c := by
  by_cases upper : c.isUpper = true
  · have range := Text.isUpper_iff.1 upper
    have ascii : isAscii c = true := isAscii_iff.2 (by omega)
    rw [image?_eq_toLower ascii, image?_eq_toLower ((isAscii_toLower c).trans ascii),
      Text.toLower_toLower]
  · rw [Text.toLower_of_not_isUpper upper]

theorem ignoresCase_mapText? : IgnoresCase Mapping.mapText? := by
  intro t
  rw [Mapping.mapText?, Mapping.mapText?, List.mapM_map]
  exact congrArg (fun image => (t.mapM image).map List.flatten) (funext image?_toLower)

theorem ignoresCase_toAscii? : IgnoresCase toAscii? := by
  intro t
  simp only [toAscii?, unicodeLabels?, ignoresCase_mapText? t]

end Name

/-! ## Domains -/

namespace Domain

theorem ignoresCase_normalizeName : IgnoresCase normalizeName := by
  intro t
  simp only [normalizeName, List.map_eq_nil_iff, Name.ignoresCase_toAscii? t]

/-- There are no letters in the mark of a wildcard. -/
theorem nameText_map_toLower (t : List Char) :
    nameText (t.map Char.toLower) = (nameText t).map Char.toLower ∧
      kindOf (t.map Char.toLower) = kindOf t := by
  by_cases mark : ∃ suffix, t = '*' :: '.' :: suffix
  · obtain ⟨suffix, rfl⟩ := mark
    exact ⟨rfl, rfl⟩
  · have unmarked (suffix : List Char) (eq : t = '*' :: '.' :: suffix) : False := mark ⟨suffix, eq⟩
    have unmarked' (suffix : List Char) (eq : t.map Char.toLower = '*' :: '.' :: suffix) :
        False := by
      obtain ⟨rest, rfl, behind⟩ := (Text.map_toLower_eq_cons_iff rfl).1 eq
      obtain ⟨suffix, rfl, -⟩ := (Text.map_toLower_eq_cons_iff rfl).1 behind
      exact unmarked suffix rfl
    rw [nameText.eq_2 _ unmarked', kindOf.eq_2 _ unmarked', nameText.eq_2 _ unmarked,
      kindOf.eq_2 _ unmarked]
    exact ⟨rfl, rfl⟩

theorem ignoresCase_parse : IgnoresCase fun t => Domain.parse (String.ofList t) := by
  intro t
  dsimp only
  by_cases star : t = ['*']
  · rw [star]
    rfl
  · have star' : t.map Char.toLower ≠ ['*'] := by
      intro eq
      obtain ⟨rest, rfl, behind⟩ := (Text.map_toLower_eq_cons_iff rfl).1 eq
      exact star (congrArg _ (List.map_eq_nil_iff.1 behind))
    obtain ⟨name, kind⟩ := nameText_map_toLower t
    rw [parse_eq_map (by rwa [String.toList_ofList]), parse_eq_map (by rwa [String.toList_ofList]),
      String.toList_ofList, String.toList_ofList, name, kind, ignoresCase_normalizeName]

/-- **A domain is the same in any letter case**, and so is the reason why a text
is none. -/
theorem parse_eq_of_sameButCase {a b : String} (same : Text.sameButCase a.toList b.toList = true) :
    Domain.parse a = Domain.parse b := by
  have eq := ignoresCase_parse.eq_of_sameButCase same
  rwa [String.ofList_toList, String.ofList_toList] at eq

end Domain

end RecordPlan
