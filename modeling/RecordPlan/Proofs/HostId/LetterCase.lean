import RecordPlan.HostId.Basic
import RecordPlan.Proofs.Address.Ip6
import RecordPlan.Proofs.Text.LetterCase

/-!
# Host IDs in any letter case

The digits of host IDs may be written in small and in capital letters.
`HostId.parse_eq_of_sameButCase` says that nothing about a host ID depends on
which of them are used: texts that differ in the case of ASCII letters only are
the same host ID, or are rejected for the same reason.
-/

namespace RecordPlan

open Text (IgnoresCase splitOn_map_toLower)

/-! ## Addresses -/

/-- There are no letters in an IPv4 address. -/
theorem Ip4.ignoresCase_ofText? : IgnoresCase ofText? := by
  intro t
  by_cases capital : ∃ c ∈ t, c.isUpper = true
  · -- with a letter in it the text is none in either case
    obtain ⟨c, hc, upper⟩ := capital
    have letters : ∀ k < 26,
        ((Char.ofNat (65 + k)).isDigit = false ∧ Char.ofNat (65 + k) ≠ '.') ∧
          (Char.ofNat (65 + k)).toLower.isDigit = false ∧ (Char.ofNat (65 + k)).toLower ≠ '.' := by
      decide
    obtain ⟨k, hk, rfl⟩ := Text.exists_of_isUpper upper
    obtain ⟨capital, small⟩ := letters k hk
    rw [ofText?_of_mem (List.mem_map_of_mem hc) small.1 small.2,
      ofText?_of_mem hc capital.1 capital.2]
  · have same : t.map Char.toLower = t := by
      refine (List.map_congr_left fun c hc => ?_).trans (List.map_id t)
      exact Text.toLower_of_not_isUpper fun upper => capital ⟨c, hc, upper⟩
    rw [same]

namespace Ip6

theorem ignoresCase_group? : IgnoresCase group? := by
  intro t
  have digits : (t.map Char.toLower).all Text.isHexDigit = t.all Text.isHexDigit :=
    Text.ignoresCase_all_isHexDigit t
  simp only [group?, List.length_map, digits, Text.ignoresCase_hexNumber t, ne_eq,
    List.map_eq_nil_iff]

theorem groupsOfParts?_map_toLower (ps : List (List Char)) :
    groupsOfParts? (ps.map (List.map Char.toLower)) = groupsOfParts? ps := by
  fun_induction groupsOfParts? ps with
  | case1 => rfl
  | case2 last a isIp4 =>
    rw [← Ip4.ignoresCase_ofText? last] at isIp4
    rw [List.map_singleton, groupsOfParts?, isIp4]
  | case3 last noIp4 =>
    rw [← Ip4.ignoresCase_ofText? last] at noIp4
    rw [List.map_singleton, groupsOfParts?, noIp4, ignoresCase_group? last]
  | case4 part rest more ih =>
    rw [List.map_cons, groupsOfParts?, ignoresCase_group? part, ih]
    exact fun empty => more (List.map_eq_nil_iff.1 empty)

theorem parts_map_toLower (t : List Char) :
    parts (t.map Char.toLower) = (parts t).map (List.map Char.toLower) := by
  have split : (t.map Char.toLower).splitOn ':' = (t.splitOn ':').map (List.map Char.toLower) :=
    splitOn_map_toLower rfl t
  by_cases empty : t = []
  · rw [empty]
    rfl
  · rw [parts, parts, if_neg empty, if_neg (mt List.map_eq_nil_iff.1 empty), split]

/-- A gap is in the same place. -/
theorem splitGap?_map_toLower (t : List Char) :
    splitGap? (t.map Char.toLower) = (splitGap? t).map fun (before, after) =>
      (before.map Char.toLower, after.map Char.toLower) := by
  fun_induction splitGap? t with
  | case1 => rfl
  | case2 after => rfl
  | case3 c rest single ih =>
    rw [List.map_cons, splitGap?, ih]
    · cases splitGap? rest <;> rfl
    · intro after colon gap
      cases rest with
      | nil => cases gap
      | cons d rest =>
        obtain ⟨next, -⟩ := List.cons.inj gap
        exact single rest ((Text.toLower_eq_iff rfl).1 colon)
          (congrArg (· :: rest) ((Text.toLower_eq_iff rfl).1 next))

theorem ignoresCase_ofText? : IgnoresCase ofText? := by
  intro t
  rw [ofText?, ofText?, splitGap?_map_toLower, splitOn_map_toLower rfl]
  cases splitGap? t with
  | none => exact congrArg (·.bind ofGroups?) (groupsOfParts?_map_toLower _)
  | some sides =>
    obtain ⟨before, after⟩ := sides
    have head : (parts (before.map Char.toLower)).mapM group? = (parts before).mapM group? := by
      rw [parts_map_toLower, List.mapM_map]
      exact congrArg (fun read => (parts before).mapM read) (funext ignoresCase_group?)
    dsimp only [Option.map_some]
    rw [head, parts_map_toLower, groupsOfParts?_map_toLower]

end Ip6

/-! ## MAC addresses -/

namespace Mac

theorem digits?_map_toLower {separator : Char} {count size : Nat}
    (h : separator.isAlpha = false) (t : List Char) :
    digits? separator count size (t.map Char.toLower) =
      (digits? separator count size t).map (List.map Char.toLower) := by
  have group : (fun g : List Char => g.length == size && g.all Text.isHexDigit) ∘
      List.map Char.toLower = fun g => g.length == size && g.all Text.isHexDigit := by
    funext g
    have digits : (g.map Char.toLower).all Text.isHexDigit = g.all Text.isHexDigit :=
      Text.ignoresCase_all_isHexDigit g
    rw [Function.comp_apply, List.length_map, digits]
  simp only [digits?, splitOn_map_toLower h, List.length_map, List.all_map, group]
  split
  · rw [Option.map_some, List.map_flatten]
  · rfl

theorem ignoresCase_ofText? : IgnoresCase ofText? := by
  intro t
  rw [ofText?, ofText?, digits?_map_toLower rfl, digits?_map_toLower rfl, digits?_map_toLower rfl]
  simp only [Option.orElse_eq_orElse, Option.orElse_eq_or, ← Option.map_or, Option.map_map]
  refine congrArg (Option.map · _) (funext fun digits => ?_)
  rw [Function.comp_apply, Text.ignoresCase_hexNumber]

end Mac

/-! ## Host IDs -/

namespace HostId

theorem ignoresCase_hasZone : IgnoresCase hasZone := by
  intro t
  have front : (· != '%') ∘ Char.toLower = (· != '%') :=
    funext fun c => congrArg not (Text.toLower_beq rfl c)
  have contains : (t.map Char.toLower).contains '%' = t.contains '%' := by
    rw [Bool.eq_iff_iff, List.contains_iff_mem, List.contains_iff_mem, List.mem_map]
    simp only [Text.toLower_eq_iff (x := '%') rfl, exists_eq_right]
  rw [hasZone, hasZone, contains, List.takeWhile_map, front, Ip6.ignoresCase_ofText?]

/-- **A host ID is the same in any letter case**, and so is the reason why a text
is none. -/
theorem parse_eq_of_sameButCase {a b : String} (same : Text.sameButCase a.toList b.toList = true)
    (n : UInt8) : parse a n = parse b n := by
  have empty : a.toList = [] ↔ b.toList = [] := by
    have lengths := congrArg List.length (eq_of_beq same)
    rw [List.length_map, List.length_map] at lengths
    rw [← List.length_eq_zero_iff, lengths, List.length_eq_zero_iff]
  simp only [parse, empty, Ip4.ignoresCase_ofText?.eq_of_sameButCase same,
    Ip6.ignoresCase_ofText?.eq_of_sameButCase same, ignoresCase_hasZone.eq_of_sameButCase same,
    Mac.ignoresCase_ofText?.eq_of_sameButCase same]

end HostId

end RecordPlan
