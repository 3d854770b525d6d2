import RecordPlan.Address.Ip6
import RecordPlan.Proofs.Address.Ip4

/-!
# The texts of IPv6 addresses

An address can be written in many ways: with all eight groups, or with a gap in
place of some groups of zero; each group with one to four digits; and the last
two groups as an IPv4 address. `Ip6.IsSpelling` gives them all, without any
reader, and `Ip6.ofText?` accepts just these texts (`Ip6.ofText?_eq_some_iff`).

What the reader sees first is the gap. No gap is seen inside of parts that have
colons between them, so the first gap that is seen is the one that was written
(`Ip6.splitGap?_intercalate_append`).

`Ip6.text` writes one of these texts, for every address: the groups before and
after the gap are those before and after a run of zeros
(`Ip6.longestZeros_spec`). So every address is read back (`Ip6.ofText?_text`).
-/

namespace RecordPlan.Ip6

variable {a : Ip6} {c : Char} {g : BitVec 16} {p t : List Char} {ps qs : List (List Char)}
  {gs hs : List (BitVec 16)}

/-! ## Groups -/

/-- **A way to write a group**: one to four digits. -/
structure IsGroup (p : List Char) (g : BitVec 16) : Prop where
  /-- There is a digit. -/
  ne_nil : p ≠ []
  /-- There are no more than four. -/
  length_le : p.length ≤ 4
  /-- There is nothing else. -/
  isHexDigit : ∀ c ∈ p, Text.isHexDigit c = true
  /-- The digits are those of the group. -/
  value : BitVec.ofNat 16 (Text.hexNumber p) = g

theorem group?_eq_some_iff : group? p = some g ↔ IsGroup p g := by
  rw [group?]
  split
  · next form =>
    rw [Option.some.injEq]
    exact ⟨fun h => ⟨form.1, form.2.1, List.all_eq_true.1 form.2.2, h⟩, IsGroup.value⟩
  · next form =>
    refine iff_of_false nofun fun h => form ⟨h.ne_nil, h.length_le, ?_⟩
    exact List.all_eq_true.2 h.isHexDigit

theorem IsGroup.not_mem (h : IsGroup p g) (other : Text.isHexDigit c = false) : c ∉ p := by
  intro mem
  rw [h.isHexDigit c mem] at other
  cases other

/-- The digits that a group is written with. -/
theorem isGroup_hexDigits (g : BitVec 16) : IsGroup (Text.hexDigits g.toNat) g where
  ne_nil := Text.hexDigits_ne_nil _
  length_le := (Nat.length_toDigits_le_iff (by decide) (by decide)).2 (by omega)
  isHexDigit _ := Text.isHexDigit_of_mem_hexDigits
  value := by rw [Text.hexNumber_hexDigits, BitVec.ofNat_toNat, BitVec.setWidth_eq]

/-- The groups of an address make up its bits. -/
theorem ofGroups?_groups (a : Ip6) : ofGroups? a.groups = some a := by
  refine congrArg some (congrArg mk (BitVec.eq_of_getLsbD_eq fun i hi => ?_))
  simp only [BitVec.getLsbD_append, BitVec.getLsbD_extractLsb']
  grind

/-- The bits of an address are made up of its groups. -/
theorem ofGroups?_eq_some_iff : ofGroups? gs = some a ↔ gs = a.groups := by
  refine ⟨fun h => ?_, fun eq => eq ▸ ofGroups?_groups a⟩
  unfold ofGroups? at h
  split at h
  · obtain rfl := Option.some.inj h
    simp only [groups, List.cons.injEq, and_true]
    refine ⟨?_, ?_, ?_, ?_, ?_, ?_, ?_, ?_⟩ <;> refine BitVec.eq_of_getLsbD_eq fun i hi => ?_ <;>
      simp only [BitVec.getLsbD_append, BitVec.getLsbD_extractLsb'] <;> grind
  · cases h

/-- The two groups that an IPv4 address stands for. -/
def groupsOfIp4 (a : Ip4) : List (BitVec 16) := [a.bits.extractLsb' 16 16, a.bits.extractLsb' 0 16]

/-- **A way to write groups**: each in digits, or the last two as an IPv4
address. -/
inductive Spells : List (List Char) → List (BitVec 16) → Prop
  /-- Nothing is written for no groups. -/
  | nil : Spells [] []
  /-- The last two groups are an IPv4 address. -/
  | ip4 (v4 : Ip4) : Spells [v4.text] (groupsOfIp4 v4)
  /-- The first group is written in digits. -/
  | cons {p : List Char} {g : BitVec 16} {ps : List (List Char)} {gs : List (BitVec 16)} :
    IsGroup p g → Spells ps gs → Spells (p :: ps) (g :: gs)

/-- Groups are written in digits. -/
theorem Spells.of_forall₂ (h : List.Forall₂ IsGroup ps gs) : Spells ps gs := by
  induction h with
  | nil => exact .nil
  | cons group _ ih => exact .cons group ih

/-- **Parts are read as the groups that they are written for.** -/
theorem groupsOfParts?_eq_some_iff : groupsOfParts? ps = some gs ↔ Spells ps gs := by
  constructor
  · intro h
    induction ps using groupsOfParts?.induct generalizing gs with
    | case1 =>
      obtain rfl := Option.some.inj h
      exact .nil
    | case2 last v4 isIp4 =>
      rw [groupsOfParts?, isIp4] at h
      obtain rfl := Option.some.inj h
      obtain rfl := Ip4.ofText?_eq_some_iff.1 isIp4
      exact .ip4 v4
    | case3 last noIp4 =>
      rw [groupsOfParts?, noIp4] at h
      obtain ⟨g, read, rfl⟩ := Option.map_eq_some_iff.1 h
      exact .cons (group?_eq_some_iff.1 read) .nil
    | case4 part rest more ih =>
      rw [groupsOfParts?] at h
      · obtain ⟨g, first, h⟩ := Option.bind_eq_some_iff.1 h
        obtain ⟨gs, later, h⟩ := Option.bind_eq_some_iff.1 h
        obtain rfl := Option.some.inj h
        exact .cons (group?_eq_some_iff.1 first) (ih later)
      · exact more
  · intro h
    induction h with
    | nil => rfl
    | ip4 v4 =>
      rw [groupsOfParts?, Ip4.ofText?_text]
      rfl
    | @cons p g ps gs group spells ih =>
      have read := group?_eq_some_iff.2 group
      cases ps with
      | nil =>
        -- digits alone are no IPv4 address, which has dots between them
        obtain rfl := Option.some.inj ih
        rw [groupsOfParts?, Ip4.ofText?_of_no_dot (group.not_mem rfl), read]
        rfl
      | cons q ps =>
        rw [groupsOfParts?, read, ih]
        · rfl
        · exact List.cons_ne_nil _ _

namespace Spells

/-- No part stands for more than one group, but for the last. -/
theorem length_le (h : Spells ps gs) : gs.length ≤ ps.length + 1 := by
  induction h with
  | nil => exact Nat.zero_le _
  | ip4 v4 => exact Nat.le_refl 2
  | cons _ _ ih => exact Nat.succ_le_succ ih

/-- The characters of the parts. -/
theorem mem (h : Spells ps gs) (hp : p ∈ ps) (hc : c ∈ p) :
    Text.isHexDigit c = true ∨ c = '.' := by
  induction h with
  | nil => cases hp
  | ip4 v4 =>
    obtain rfl := List.mem_singleton.1 hp
    exact (Ip4.mem_text hc).imp_left Text.isHexDigit_of_isDigit
  | cons group _ ih =>
    rcases List.mem_cons.1 hp with rfl | later
    · exact .inl (group.isHexDigit c hc)
    · exact ih later

/-- The parts are not empty, and there is no colon in them. -/
theorem filled (h : Spells ps gs) (hp : p ∈ ps) : p ≠ [] ∧ ':' ∉ p := by
  refine ⟨?_, fun colon => absurd (h.mem hp colon) (by decide)⟩
  induction h with
  | nil => cases hp
  | ip4 v4 =>
    obtain rfl := List.mem_singleton.1 hp
    exact List.ne_nil_of_mem (Text.separator_mem_intercalate _ _ _)
  | cons group _ ih =>
    rcases List.mem_cons.1 hp with rfl | later
    · exact group.ne_nil
    · exact ih later

end Spells

/-! ## The gap -/

/-- No gap begins before the first colon. -/
theorem splitGap?_append {w : List Char} (h : ':' ∉ w) (rest : List Char) :
    splitGap? (w ++ rest) = (splitGap? rest).map fun (before, after) => (w ++ before, after) := by
  induction w with
  | nil => simp
  | cons c w ih =>
    rw [List.mem_cons, not_or] at h
    rw [List.cons_append, splitGap?, ih h.2]
    · cases splitGap? rest <;> rfl
    · exact fun _ eq _ => h.1 eq.symm

/-- There is no gap without a colon. -/
theorem splitGap?_of_not_mem {t : List Char} (h : ':' ∉ t) : splitGap? t = none := by
  rw [← List.append_nil t, splitGap?_append h]
  rfl

/-- A single colon begins no gap. -/
theorem splitGap?_cons_colon (h : c ≠ ':') (rest : List Char) :
    splitGap? (':' :: c :: rest) =
      (splitGap? (c :: rest)).map fun (before, after) => (':' :: before, after) := by
  rw [splitGap?]
  rintro after - eq
  exact h (List.cons.inj eq).1

/-- **No gap is seen inside of parts** that have colons between them. -/
theorem splitGap?_intercalate_append (h : ∀ p ∈ ps, p ≠ [] ∧ ':' ∉ p) (rest : List Char) :
    splitGap? (List.intercalate [':'] ps ++ rest) =
      (splitGap? rest).map fun (before, after) => (List.intercalate [':'] ps ++ before, after) := by
  induction ps with
  | nil => simp
  | cons p ps ih =>
    have first := (h p List.mem_cons_self).2
    cases ps with
    | nil =>
      rw [List.intercalate_singleton]
      exact splitGap?_append first rest
    | cons q ps =>
      have later := ih fun r hr => h r (List.mem_cons_of_mem _ hr)
      obtain ⟨ne, noColon⟩ := h q (List.mem_cons_of_mem _ List.mem_cons_self)
      obtain ⟨c, q, rfl⟩ := List.exists_cons_of_ne_nil ne
      have hc : c ≠ ':' := fun eq => noColon (eq ▸ List.mem_cons_self)
      rw [List.intercalate_cons_cons_left, List.cons_append] at later
      rw [List.intercalate_cons_cons, List.intercalate_cons_cons_left]
      simp only [List.append_assoc, List.cons_append, List.nil_append]
      rw [splitGap?_append first, splitGap?_cons_colon hc, later]
      cases splitGap? rest <;> simp

/-- A gap is what stands between the texts before and after it. -/
theorem eq_of_splitGap? {before after : List Char} (h : splitGap? t = some (before, after)) :
    t = before ++ ':' :: ':' :: after := by
  fun_induction splitGap? t generalizing before with
  | case1 => cases h
  | case2 rest =>
    obtain ⟨rfl, rfl⟩ := Prod.mk.inj (Option.some.inj h)
    rfl
  | case3 c rest _ ih =>
    obtain ⟨sides, found, eq⟩ := Option.map_eq_some_iff.1 h
    obtain ⟨rfl, rfl⟩ := Prod.mk.inj eq
    rw [ih found, List.cons_append]

/-- A text is put together again from its parts. -/
theorem intercalate_parts (t : List Char) : List.intercalate [':'] (parts t) = t := by
  rw [parts]
  split
  · next empty => rw [empty, List.intercalate_nil]
  · exact List.intercalate_splitOn ':'

/-- **Parts are taken apart again.** -/
theorem parts_intercalate (h : ∀ p ∈ ps, p ≠ [] ∧ ':' ∉ p) :
    parts (List.intercalate [':'] ps) = ps := by
  cases ps with
  | nil => rfl
  | cons p ps =>
    have split := List.splitOn_intercalate ':' (fun q hq => (h q hq).2) (List.cons_ne_nil p ps)
    rw [parts, if_neg, split]
    intro empty
    rw [empty, List.splitOn_nil] at split
    exact (h p List.mem_cons_self).1 (List.cons.inj split).1.symm

/-! ## Addresses -/

/-- **A way to write an address**: all its groups, or with a gap in place of one
or more groups of zero. -/
inductive IsSpelling (a : Ip6) : List Char → Prop
  /-- All groups are written. -/
  | full {ps : List (List Char)} : Spells ps a.groups → IsSpelling a (List.intercalate [':'] ps)
  /-- Some groups of zero are left out. -/
  | gap {ps qs : List (List Char)} {gs hs : List (BitVec 16)} {n : Nat} :
    List.Forall₂ IsGroup ps gs → Spells qs hs →
      a.groups = gs ++ List.replicate (n + 1) 0 ++ hs →
        IsSpelling a (List.intercalate [':'] ps ++ ':' :: ':' :: List.intercalate [':'] qs)

/-- What is read is a way to write the address. -/
theorem isSpelling_of_ofText? (h : ofText? t = some a) : IsSpelling a t := by
  rw [ofText?] at h
  split at h
  · obtain ⟨gs, read, eight⟩ := Option.bind_eq_some_iff.1 h
    obtain rfl := ofGroups?_eq_some_iff.1 eight
    have joined : List.intercalate [':'] (t.splitOn ':') = t := List.intercalate_splitOn ':'
    rw [← joined]
    exact .full (groupsOfParts?_eq_some_iff.1 read)
  · next before after found =>
    obtain ⟨head, first, h⟩ := Option.bind_eq_some_iff.1 h
    obtain ⟨tail, later, h⟩ := Option.bind_eq_some_iff.1 h
    split at h
    · next lack =>
      obtain ⟨n, hn⟩ : ∃ n, 8 - head.length - tail.length = n + 1 :=
        Nat.exists_eq_succ_of_ne_zero (by omega)
      have eight := (ofGroups?_eq_some_iff.1 h).symm
      rw [hn] at eight
      have digits := (Text.mapM_eq_some_iff_forall₂.1 first).imp fun _ _ => group?_eq_some_iff.1
      rw [eq_of_splitGap? found, ← intercalate_parts before, ← intercalate_parts after]
      exact .gap digits (groupsOfParts?_eq_some_iff.1 later) eight
    · cases h

/-- **The texts that are read as an address** are the ways to write it. -/
theorem ofText?_eq_some_iff : ofText? t = some a ↔ IsSpelling a t := by
  refine ⟨isSpelling_of_ofText?, fun h => ?_⟩
  cases h with
  | @full ps spells =>
    have enough : 8 ≤ ps.length + 1 := spells.length_le
    have ne : ps ≠ [] := by
      rintro rfl
      exact absurd enough (by decide)
    have noGap := splitGap?_intercalate_append (fun p hp => spells.filled hp) []
    rw [List.append_nil] at noGap
    rw [ofText?, noGap]
    show (groupsOfParts? _).bind ofGroups? = some a
    rw [List.splitOn_intercalate ':' (fun p hp => (spells.filled hp).2) ne,
      groupsOfParts?_eq_some_iff.2 spells]
    exact ofGroups?_groups a
  | @gap ps qs gs hs n digits spells eight =>
    have filled (p : List Char) (hp : p ∈ ps) := (Spells.of_forall₂ digits).filled hp
    have found : splitGap? (List.intercalate [':'] ps ++ ':' :: ':' :: List.intercalate [':'] qs) =
        some (List.intercalate [':'] ps, List.intercalate [':'] qs) := by
      rw [splitGap?_intercalate_append filled, splitGap?]
      exact congrArg (fun text => some (text, _)) (List.append_nil _)
    have head : ps.mapM group? = some gs :=
      Text.mapM_eq_some_iff_forall₂.2 (digits.imp fun _ _ => group?_eq_some_iff.2)
    have length : 8 = gs.length + (n + 1) + hs.length := by
      have lengths := congrArg List.length eight
      rwa [List.length_append, List.length_append, List.length_replicate] at lengths
    have lack : 8 - gs.length - hs.length = n + 1 := by omega
    rw [ofText?, found]
    dsimp only
    rw [parts_intercalate filled, parts_intercalate fun p hp => spells.filled hp, head,
      groupsOfParts?_eq_some_iff.2 spells]
    show (if _ then ofGroups? _ else none) = _
    rw [if_pos (by omega), lack, ← eight]
    exact ofGroups?_groups a

namespace IsSpelling

/-- The characters of an address. -/
theorem mem (h : IsSpelling a t) (hc : c ∈ t) : Text.isHexDigit c = true ∨ c = ':' ∨ c = '.' := by
  have inside {ps : List (List Char)} {gs : List (BitVec 16)} (spells : Spells ps gs)
      (hc : c ∈ List.intercalate [':'] ps) : Text.isHexDigit c = true ∨ c = ':' ∨ c = '.' := by
    rcases Text.mem_intercalate hc with colon | ⟨p, hp, hc⟩
    · exact .inr (.inl colon)
    · exact (spells.mem hp hc).imp_right .inr
  cases h with
  | full spells => exact inside spells hc
  | gap digits spells _ =>
    rw [List.mem_append, List.mem_cons, List.mem_cons] at hc
    rcases hc with before | colon | colon | after
    · exact inside (.of_forall₂ digits) before
    · exact .inr (.inl colon)
    · exact .inr (.inl colon)
    · exact inside spells after

/-- An address has a colon in it. -/
theorem colon_mem (h : IsSpelling a t) : ':' ∈ t := by
  cases h with
  | @full ps spells =>
    have enough : 8 ≤ ps.length + 1 := spells.length_le
    match ps with
    | [] => exact absurd enough (by decide)
    | [p] => exact absurd enough (by simp)
    | p :: q :: ps => exact Text.separator_mem_intercalate p q ps
  | gap _ _ _ => exact List.mem_append_right _ List.mem_cons_self

end IsSpelling

/-- **Parts that leave no group out must be enough of them.** -/
theorem ofText?_of_few_parts (gap : splitGap? t = none) (few : (t.splitOn ':').length ≤ 6) :
    ofText? t = none := by
  rw [ofText?, gap]
  dsimp only
  rw [Option.bind_eq_none_iff]
  intro gs read
  have length := (groupsOfParts?_eq_some_iff.1 read).length_le
  rw [Option.eq_none_iff_forall_ne_some]
  rintro a eight
  obtain rfl := ofGroups?_eq_some_iff.1 eight
  have full : a.groups.length = 8 := rfl
  omega

/-! ## The longest run of zeros -/

/-- Zeros at the beginning, and what follows them. -/
theorem replicate_append_drop (gs : List (BitVec 16)) :
    List.replicate (gs.takeWhile (· == 0)).length 0 ++
      gs.drop (gs.takeWhile (· == 0)).length = gs := by
  have zero (g : BitVec 16) (hg : g ∈ gs.takeWhile (· == 0)) : g = 0 :=
    eq_of_beq (List.all_eq_true.1 List.all_takeWhile g hg)
  have zeros : gs.takeWhile (· == 0) = List.replicate (gs.takeWhile (· == 0)).length 0 :=
    List.eq_replicate_iff.2 ⟨rfl, zero⟩
  rw [← zeros]
  exact List.prefix_iff_eq_append.1 (List.takeWhile_prefix (· == 0))

/-- **A run of zeros is found** where there is one. -/
theorem longestZeros_spec (gs : List (BitVec 16)) :
    gs.take (longestZeros gs).1 ++ List.replicate (longestZeros gs).2 0 ++
      gs.drop ((longestZeros gs).1 + (longestZeros gs).2) = gs := by
  induction gs with
  | nil => rfl
  | cons g gs ih =>
    rw [longestZeros]
    dsimp only
    split
    · rw [Nat.add_right_comm]
      exact congrArg (g :: ·) ih
    · rw [Nat.zero_add]
      exact replicate_append_drop (g :: gs)

/-! ## The text of an address -/

/-- Bits of some bits are bits of the whole. -/
theorem extractLsb'_extractLsb' {w i m j k : Nat} (x : BitVec w) (h : j + k ≤ m) :
    (x.extractLsb' i m).extractLsb' j k = x.extractLsb' (i + j) k := by
  refine BitVec.eq_of_getLsbD_eq fun l hl => ?_
  simp only [BitVec.getLsbD_extractLsb', Nat.add_assoc]
  have inside : j + l < m := by omega
  simp [hl, inside]

/-- The groups of an address that stands for an IPv4 address. -/
theorem groups_of_mappedIp4? {v4 : Ip4} (h : a.mappedIp4? = some v4) :
    a.groups = List.replicate 5 0 ++
      [0xFFFF, v4.bits.extractLsb' 16 16, v4.bits.extractLsb' 0 16] := by
  unfold mappedIp4? at h
  split at h
  · next mark =>
    obtain rfl := Option.some.inj h
    have high (j : Nat) (hj : j + 16 ≤ 96) :
        a.bits.extractLsb' (32 + j) 16 = (0xFFFF#96).extractLsb' j 16 :=
      (extractLsb'_extractLsb' a.bits hj).symm.trans (congrArg _ mark)
    have low (j : Nat) (hj : j + 16 ≤ 32) :
        a.bits.extractLsb' j 16 = (a.bits.extractLsb' 0 32).extractLsb' j 16 :=
      (BitVec.extractLsb'_extractLsb'_of_le hj).symm
    simp only [groups, List.replicate, List.cons_append, List.nil_append, List.cons.injEq]
    exact ⟨high 80 (by decide), high 64 (by decide), high 48 (by decide), high 32 (by decide),
      high 16 (by decide), high 0 (by decide), low 16 (by decide), low 0 (by decide), trivial⟩
  · cases h

/-- Groups are written in digits. -/
theorem forall₂_hexDigits (gs : List (BitVec 16)) :
    List.Forall₂ IsGroup (gs.map fun g => Text.hexDigits g.toNat) gs := by
  rw [List.forall₂_map_left_iff, List.forall₂_same]
  exact fun g _ => isGroup_hexDigits g

/-- **The text of an address** is one of the ways to write it. -/
theorem isSpelling_text (a : Ip6) : IsSpelling a a.text := by
  rw [text]
  split
  · next v4 mapped =>
    have mark : IsGroup ['f', 'f', 'f', 'f'] 0xFFFF := group?_eq_some_iff.1 (by decide)
    have tail : List.intercalate [':'] [['f', 'f', 'f', 'f'], v4.text] =
        'f' :: 'f' :: 'f' :: 'f' :: ':' :: v4.text := by
      rw [List.intercalate_cons_cons, List.intercalate_singleton]
      rfl
    have spelling : IsSpelling a _ := .gap .nil (.cons mark (.ip4 v4)) (groups_of_mappedIp4? mapped)
    rwa [tail] at spelling
  · dsimp only
    split
    · next run =>
      obtain ⟨n, hn⟩ : ∃ n, (longestZeros a.groups).2 = n + 1 :=
        Nat.exists_eq_succ_of_ne_zero (by omega)
      have eight := (longestZeros_spec a.groups).symm
      refine .gap (forall₂_hexDigits _) (.of_forall₂ (forall₂_hexDigits _)) (n := n) ?_
      rwa [← hn]
    · exact .full (.of_forall₂ (forall₂_hexDigits _))

/-- **Every address is read back.** -/
theorem ofText?_text (a : Ip6) : ofText? a.text = some a :=
  ofText?_eq_some_iff.2 (isSpelling_text a)

/-- An address consists of digits, colons and dots. -/
theorem mem_text (h : c ∈ a.text) : Text.isHexDigit c = true ∨ c = ':' ∨ c = '.' :=
  (isSpelling_text a).mem h

/-- An address has a colon in it. -/
theorem colon_mem_text (a : Ip6) : ':' ∈ a.text := (isSpelling_text a).colon_mem

end RecordPlan.Ip6
