import RecordPlan.Proofs.HostId.Kinds
import RecordPlan.Proofs.Text.Bytes

/-!
# MAC addresses, step by step

`Mac.ofText?` takes a text apart and then looks at all of its groups. It may be
done in one go as well: by its length in bytes a text can have one form only, or
pairs with one of two separators, and its groups are read one by one into the six
bytes of the address (`Mac.read`). On the way places are written to and texts are
split at bytes, both of which may go wrong: there may be no such place, and no
character may end at such a byte.

They never do. What is written stands behind what has been written, of which there
is not too much yet (`Mac.run_storePairs`, `Mac.run_storeFours`), and only groups
that are ASCII are split. So reading step by step comes to the same as
`Mac.ofText?`, whatever the text (`Mac.run_read`), and texts of other forms are
rejected before anything goes wrong. The main statement is
`Mac.three_forms_are_read`.
-/

namespace RecordPlan.Mac

open Text (Fault byteLength splitAtByte withoutPlus)

/-! ## Steps -/

/-- **A step** of reading: it may reject the text, or go wrong. -/
abbrev Step (α : Type) := OptionT (Except Fault) α

namespace Step

variable {α β : Type} {a : α} {s : Step α}

/-- A step that has a result is gone on from. -/
theorem run_bind_of_some (h : s.run = .ok (some a)) (next : α → Step β) :
    (s >>= next).run = (next a).run := by
  rw [OptionT.run_bind, h]
  rfl

/-- A text that is rejected is not read on. -/
theorem run_bind_of_none (h : s.run = .ok none) (next : α → Step β) :
    (s >>= next).run = .ok none := by
  rw [OptionT.run_bind, h]
  rfl

end Step

/-- Splits a text at a byte. -/
def split (text : List Char) (n : Nat) : Step (List Char × List Char) :=
  OptionT.lift (splitAtByte text n)

/-- Writes a byte to its place. -/
def store (bytes : List (BitVec 8)) (i : Nat) (b : BitVec 8) : Step (List (BitVec 8)) :=
  if i < bytes.length then return bytes.set i b else OptionT.lift (.error .outOfRange)

/-- The byte that hexadecimal digits denote. A sign would be allowed. -/
def byteOfDigits? (text : List Char) : Option (BitVec 8) :=
  let digits := withoutPlus text
  if digits ≠ [] ∧ digits.all Text.isHexDigit ∧ Text.hexNumber digits < 256 then
    some (BitVec.ofNat 8 (Text.hexNumber digits))
  else none

/-- Whether a byte is a hexadecimal digit of ASCII. -/
def isHexByte (b : UInt8) : Bool := Text.isHexDigit (Char.ofNat b.toNat)

/-- The byte that two digits denote; the text is rejected if they are none. -/
def byteOfPair (part : List Char) : Step (BitVec 8) :=
  if byteLength part ≠ 2 ∨ (Text.Utf8.encode part).all isHexByte = false then failure
  else OptionT.mk (pure (byteOfDigits? part))

/-- **Stores pairs of digits** one by one. The text is rejected at the first that is
none, or that there is no place for. -/
def storePairs (count : Nat) (bytes : List (BitVec 8)) :
    List (List Char) → Step (List (BitVec 8) × Nat)
  | [] => return (bytes, count)
  | part :: parts =>
    if count < bytes.length then do
      let b ← byteOfPair part
      storePairs (count + 1) (bytes.set count b) parts
    else failure

/-- Stores four digits, half by half. The text is rejected if they are none, or if
they are too many. -/
def storeFour (count : Nat) (bytes : List (BitVec 8)) (group : List Char) :
    Step (List (BitVec 8)) :=
  if byteLength group = 4 ∧ group.all Unicode.isAscii = true ∧ count < 3 then do
    let high ← byteOfPair (← split group 2).1
    let bytes ← store bytes (2 * count) high
    let low ← byteOfPair (← split group 2).2
    store bytes (2 * count + 1) low
  else failure

/-- **Stores fours of digits** one by one. -/
def storeFours (count : Nat) (bytes : List (BitVec 8)) :
    List (List Char) → Step (List (BitVec 8) × Nat)
  | [] => return (bytes, count)
  | group :: groups => do
    let bytes ← storeFour count bytes group
    storeFours (count + 1) bytes groups

/-- The MAC address of six bytes. -/
def ofBytes (bytes : List (BitVec 8)) : Mac :=
  ⟨BitVec.ofNat 48 (bytes.foldl (fun n b => 256 * n + b.toNat) 0)⟩

/-- The MAC address that is stored, if all of it is. -/
def finish (all : Nat) (stored : List (BitVec 8) × Nat) : Step Mac :=
  if stored.2 = all then return ofBytes stored.1 else failure

/-- **The MAC address that a text denotes**, read step by step. -/
def read (text : List Char) : Step Mac :=
  let empty := List.replicate 6 (0 : BitVec 8)
  if byteLength text = 17 then
    let separator := if ':' ∈ text then ':' else '-'
    storePairs 0 empty (text.splitOn separator) >>= finish 6
  else if byteLength text = 14 then
    storeFours 0 empty (text.splitOn '.') >>= finish 3
  else failure

/-! ## Pairs -/

/-- Whether a text is a group of so many digits. -/
def isGroup (size : Nat) (g : List Char) : Bool := g.length == size && g.all Text.isHexDigit

/-- The byte of a pair. -/
def byteOf (part : List Char) : BitVec 8 := BitVec.ofNat 8 (Text.hexNumber part)

variable {c x : Char} {t g part : List Char} {count size : Nat} {front back : List (BitVec 8)}

theorem toNat_lt_of_isHexDigit (h : Text.isHexDigit c = true) : c.toNat < 0x80 := by
  have letters := Text.isAlphanum_iff.1 (Text.isAlphanum_of_isHexDigit h)
  omega

/-- A character has bytes that are digits if it is one itself. -/
theorem all_isHexByte_utf8EncodeChar (c : Char) :
    (String.utf8EncodeChar c).all isHexByte = Text.isHexDigit c := by
  by_cases ascii : c.toNat < 0x80
  · have number : (UInt8.ofNat c.toNat).toNat = c.toNat :=
      UInt8.toNat_ofNat_of_lt' (Nat.lt_trans ascii (by decide))
    rw [Text.Utf8.utf8EncodeChar_one ascii, List.all_cons, List.all_nil, Bool.and_true, isHexByte,
      number, Char.ofNat_toNat]
  · -- no byte beyond ASCII is a digit, and there is at least one
    have noDigit : Text.isHexDigit c = false :=
      Bool.eq_false_iff.2 fun digit => ascii (toNat_lt_of_isHexDigit digit)
    have noByte : ∀ b ∈ String.utf8EncodeChar c, isHexByte b = false := by
      intro b hb
      have beyond := UInt8.le_iff_toNat_le.1 (Text.Utf8.le_of_mem_utf8EncodeChar (by omega) hb)
      have code : (Char.ofNat b.toNat).toNat = b.toNat :=
        Text.Utf8.toNat_ofNat_of_isValidChar (.inl (Nat.lt_trans b.toNat_lt (by decide)))
      refine Bool.eq_false_iff.2 fun digit => ?_
      have small := toNat_lt_of_isHexDigit digit
      rw [code] at small
      exact absurd small (Nat.not_lt.2 beyond)
    obtain ⟨b, bs, eq⟩ := List.exists_cons_of_ne_nil
      (List.ne_nil_of_length_pos (String.length_utf8EncodeChar c ▸ c.utf8Size_pos))
    rw [noDigit, eq, List.all_cons, noByte b (eq ▸ List.mem_cons_self), Bool.false_and]

/-- The bytes of a text are digits if its characters are. -/
theorem all_isHexByte_encode (t : List Char) :
    (Text.Utf8.encode t).all isHexByte = t.all Text.isHexDigit := by
  rw [Text.Utf8.encode, List.all_flatMap]
  exact congrArg t.all (funext all_isHexByte_utf8EncodeChar)

theorem isGroup_iff : isGroup size g = true ↔
    g.length = size ∧ ∀ c ∈ g, Text.isHexDigit c = true := by
  rw [isGroup, Bool.and_eq_true, beq_iff_eq, List.all_eq_true]

/-- Digits have a byte each. -/
theorem byteLength_of_isHexDigit (digits : ∀ c ∈ g, Text.isHexDigit c = true) :
    byteLength g = g.length :=
  Text.byteLength_of_ascii fun c hc => toNat_lt_of_isHexDigit (digits c hc)

theorem byteLength_of_isGroup (h : isGroup size g = true) : byteLength g = size := by
  obtain ⟨length, digits⟩ := isGroup_iff.1 h
  rw [byteLength_of_isHexDigit digits, length]

/-- Two digits denote a number that a byte can hold. -/
theorem byteOfDigits?_of_isGroup (h : isGroup 2 part = true) :
    byteOfDigits? part = some (byteOf part) := by
  obtain ⟨length, digits⟩ := isGroup_iff.1 h
  have noPlus : '+' ∉ part := fun plus => absurd (digits '+' plus) (by decide)
  have small : Text.hexNumber part < 256 := by
    have lt := Text.hexNumber_lt digits
    rwa [length] at lt
  have ne : part ≠ [] := by
    rintro rfl
    cases length
  rw [byteOfDigits?, Text.withoutPlus_of_not_mem noPlus]
  exact if_pos ⟨ne, List.all_eq_true.2 digits, small⟩

/-- **Two digits denote a byte.** -/
theorem run_byteOfPair (h : isGroup 2 part = true) :
    (byteOfPair part).run = .ok (some (byteOf part)) := by
  have digits := List.all_eq_true.2 (isGroup_iff.1 h).2
  have form : ¬ (byteLength part ≠ 2 ∨ (Text.Utf8.encode part).all isHexByte = false) := by
    simp [byteLength_of_isGroup h, all_isHexByte_encode, digits]
  rw [byteOfPair, if_neg form, byteOfDigits?_of_isGroup h]
  rfl

/-- All other texts are rejected as pairs. -/
theorem run_byteOfPair_of_not (h : ¬ isGroup 2 part = true) :
    (byteOfPair part).run = .ok none := by
  have form : byteLength part ≠ 2 ∨ (Text.Utf8.encode part).all isHexByte = false := by
    rw [all_isHexByte_encode]
    refine or_iff_not_imp_right.2 fun digits length => h ?_
    have digits := List.all_eq_true.1 (Bool.not_eq_false _ ▸ digits)
    rw [byteLength_of_isHexDigit digits] at length
    exact isGroup_iff.2 ⟨length, digits⟩
  rw [byteOfPair, if_pos form]
  rfl

/-- **Storing pairs** behind those that have been stored: they take the places that
come next, if they are pairs and there are enough places. The induction is on the
pairs that are left. -/
theorem run_storePairs (front back : List (BitVec 8)) (parts : List (List Char)) :
    (storePairs front.length (front ++ back) parts).run =
      .ok (if parts.length ≤ back.length ∧ parts.all (isGroup 2) = true then
        some (front ++ parts.map byteOf ++ back.drop parts.length, front.length + parts.length)
      else none) := by
  induction parts generalizing front back with
  | nil =>
    show Except.ok (some (front ++ back, front.length)) = _
    simp
  | cons part parts ih =>
    rw [storePairs]
    cases back with
    | nil =>
      rw [if_neg (by simp), if_neg (by simp)]
      rfl
    | cons old back =>
      rw [if_pos (by simp)]
      by_cases pair : isGroup 2 part = true
      · have written : (front ++ old :: back).set front.length (byteOf part) =
            (front ++ [byteOf part]) ++ back := by simp
        have behind := ih (front ++ [byteOf part]) back
        rw [List.length_append, List.length_singleton] at behind
        rw [Step.run_bind_of_some (run_byteOfPair pair), written, behind]
        simp [pair, Nat.add_assoc, Nat.add_comm 1]
      · rw [Step.run_bind_of_none (run_byteOfPair_of_not pair), if_neg (by simp [pair])]

/-! ## Fours -/

/-- The two halves of a group of four digits. -/
def halves (g : List Char) : List (List Char) := [g.take 2, g.drop 2]

/-- Four digits are two and two. -/
theorem isGroup_four_iff (length : g.length = 4) :
    isGroup 4 g = true ↔ isGroup 2 (g.take 2) = true ∧ isGroup 2 (g.drop 2) = true := by
  match g, length with
  | [a, b, c, d], _ => simp [isGroup, and_assoc]

theorem run_split {n : Nat} (ascii : ∀ c ∈ g, c.toNat < 0x80) (le : n ≤ g.length) :
    (split g n).run = .ok (some (g.take n, g.drop n)) := by
  rw [split, Text.splitAtByte_of_ascii ascii le]
  rfl

/-- There is a place behind what has been stored, if something is behind it. -/
theorem run_store {i : Nat} (stored : front.length = i) (old b : BitVec 8) :
    (store (front ++ old :: back) i b).run = .ok (some (front ++ b :: back)) := by
  subst stored
  rw [store, if_pos (by simp)]
  show Except.ok (some _) = _
  simp

/-- **Storing four digits** behind those that have been stored: their halves take the
two places that come next, if they are digits and there are such places. Nothing goes
wrong: what is split is ASCII, and while there is a place there are two. -/
theorem run_storeFour {count : Nat} (stored : front.length = 2 * count)
    (places : front.length + back.length = 6) (g : List Char) :
    (storeFour count (front ++ back) g).run =
      .ok (if count < 3 ∧ isGroup 4 g = true then
        some (front ++ (halves g).map byteOf ++ back.drop 2)
      else none) := by
  rw [storeFour]
  by_cases form : byteLength g = 4 ∧ g.all Unicode.isAscii = true ∧ count < 3
  · rw [if_pos form]
    obtain ⟨length, ascii, room⟩ := form
    have ascii (c : Char) (hc : c ∈ g) : c.toNat < 0x80 :=
      of_decide_eq_true (List.all_eq_true.1 ascii c hc)
    rw [Text.byteLength_of_ascii ascii] at length
    have halved := run_split ascii (n := 2) (by omega)
    match back, places with
    | old :: old' :: back, _ =>
      rw [Step.run_bind_of_some halved]
      by_cases high : isGroup 2 (g.take 2) = true
      · rw [Step.run_bind_of_some (run_byteOfPair high),
          Step.run_bind_of_some (run_store stored old _), Step.run_bind_of_some halved]
        by_cases low : isGroup 2 (g.drop 2) = true
        · have next : (front ++ [byteOf (g.take 2)]).length = 2 * count + 1 := by simp [stored]
          rw [Step.run_bind_of_some (run_byteOfPair low), List.append_cons, run_store next,
            if_pos ⟨room, (isGroup_four_iff length).2 ⟨high, low⟩⟩]
          simp [halves]
        · rw [Step.run_bind_of_none (run_byteOfPair_of_not low), if_neg]
          exact fun h => low ((isGroup_four_iff length).1 h.2).2
      · rw [Step.run_bind_of_none (run_byteOfPair_of_not high), if_neg]
        exact fun h => high ((isGroup_four_iff length).1 h.2).1
    | [_], places | [], places =>
      simp at places
      omega
  · rw [if_neg form, if_neg]
    · rfl
    · rintro ⟨room, four⟩
      refine form ⟨byteLength_of_isGroup four, List.all_eq_true.2 fun c hc => ?_, room⟩
      exact decide_eq_true (toNat_lt_of_isHexDigit ((isGroup_iff.1 four).2 c hc))

/-- **Storing fours** behind those that have been stored. The induction is on the
groups that are left; with each of them two more places are taken. -/
theorem run_storeFours {count : Nat} (stored : front.length = 2 * count)
    (places : front.length + back.length = 6) (groups : List (List Char)) :
    (storeFours count (front ++ back) groups).run =
      .ok (if count + groups.length ≤ 3 ∧ groups.all (isGroup 4) = true then
        some (front ++ (groups.flatMap halves).map byteOf ++ back.drop (2 * groups.length),
          count + groups.length)
      else none) := by
  induction groups generalizing count front back with
  | nil =>
    show Except.ok (some (front ++ back, count)) = _
    have le : count ≤ 3 := by omega
    simp [le]
  | cons g groups ih =>
    rw [storeFours]
    have step := run_storeFour stored places g
    by_cases form : count < 3 ∧ isGroup 4 g = true
    · rw [if_pos form] at step
      rw [Step.run_bind_of_some step, ih]
      · have all : count + 1 + groups.length ≤ 3 ∧ groups.all (isGroup 4) = true ↔
            count + (g :: groups).length ≤ 3 ∧ (g :: groups).all (isGroup 4) = true := by
          simp [form.2, Nat.add_assoc, Nat.add_comm 1]
        have taken : (back.drop 2).drop (2 * groups.length) =
            back.drop (2 * (g :: groups).length) := by
          rw [List.drop_drop, List.length_cons, Nat.mul_add, Nat.add_comm]
        rw [taken]
        simp only [all]
        simp [Nat.add_assoc, Nat.add_comm 1]
      · rw [List.length_append, stored]
        rfl
      · rw [List.length_append, List.length_drop, stored]
        show 2 * count + 2 + _ = 6
        omega
    · rw [if_neg form] at step
      rw [Step.run_bind_of_none step, if_neg]
      rintro ⟨room, all⟩
      rw [List.length_cons] at room
      exact form ⟨by omega, List.all_eq_true.1 all g List.mem_cons_self⟩

/-! ## Whole texts -/

/-- The MAC address that twelve digits denote. -/
def ofDigits (ds : List Char) : Mac := ⟨BitVec.ofNat 48 (Text.hexNumber ds)⟩

theorem ofText?_eq (t : List Char) : ofText? t =
    (digits? ':' 6 2 t <|> digits? '-' 6 2 t <|> digits? '.' 3 4 t).map ofDigits := rfl

/-- Groups of digits are told by their groups. -/
theorem digits?_eq (x : Char) (count size : Nat) (t : List Char) : digits? x count size t =
    if (t.splitOn x).length = count ∧ (t.splitOn x).all (isGroup size) = true then
      some (t.splitOn x).flatten
    else none := rfl

/-- A pair in small letters is what its byte is written as. -/
theorem map_toLower_of_isGroup (h : isGroup 2 part = true) :
    part.map Char.toLower = pair (byteOf part) := by
  obtain ⟨length, digits⟩ := isGroup_iff.1 h
  match part, length with
  | [a, b], _ =>
    obtain ⟨high, highSmall, highValue, highLower⟩ :=
      Text.exists_toLower_eq_digitChar (digits a (by simp))
    obtain ⟨low, lowSmall, lowValue, lowLower⟩ :=
      Text.exists_toLower_eq_digitChar (digits b (by simp))
    have number : Text.hexNumber [a, b] = 16 * high + low := by
      rw [show [a, b] = [a] ++ [b] from rfl, Text.hexNumber_concat _ lowValue,
        show [a] = [] ++ [a] from rfl, Text.hexNumber_concat _ highValue,
        show Text.hexNumber [] = 0 from rfl, Nat.mul_zero, Nat.zero_add]
    have byte : (byteOf [a, b]).toNat = 16 * high + low := by
      rw [byteOf, number, BitVec.toNat_ofNat]
      omega
    rw [pair, byte, show (16 * high + low) / 16 = high by omega,
      show (16 * high + low) % 16 = low by omega, ← highLower, ← lowLower]
    rfl

/-- **Pairs that are stored** are the address that their digits denote. -/
theorem ofBytes_map_byteOf {parts : List (List Char)} (pairs : parts.all (isGroup 2) = true) :
    ofBytes (parts.map byteOf) = ofDigits parts.flatten := by
  have lower : parts.flatten.map Char.toLower = ((parts.map byteOf).map pair).flatten := by
    rw [List.map_flatten, List.map_map]
    exact congrArg List.flatten (List.map_congr_left fun part there =>
      map_toLower_of_isGroup (List.all_eq_true.1 pairs part there))
  have number := hexNumber_append_pairs [] (parts.map byteOf)
  rw [List.nil_append, ← lower, Text.ignoresCase_hexNumber] at number
  rw [ofDigits, number]
  rfl

/-- Halves of fours are pairs, of the same digits. -/
theorem halves_of_isGroup {groups : List (List Char)} (fours : groups.all (isGroup 4) = true) :
    (groups.flatMap halves).all (isGroup 2) = true ∧
      (groups.flatMap halves).flatten = groups.flatten := by
  constructor
  · rw [List.all_flatMap, List.all_eq_true]
    intro g there
    have four := List.all_eq_true.1 fours g there
    obtain ⟨high, low⟩ := (isGroup_four_iff (isGroup_iff.1 four).1).1 four
    rw [halves, List.all_cons, high, List.all_cons, low]
    rfl
  · rw [List.flatMap_def, List.flatten_flatten, List.map_map]
    have whole (g : List Char) : (halves g).flatten = g := by simp [halves]
    exact congrArg List.flatten ((List.map_congr_left fun g _ => whole g).trans (List.map_id _))

/-- What has been stored is an address if there is enough of it. -/
theorem run_bind_finish {p : Prop} [Decidable p] {all n : Nat} {bytes : List (BitVec 8)}
    {s : Step (List (BitVec 8) × Nat)} (h : s.run = .ok (if p then some (bytes, n) else none)) :
    (s >>= finish all).run = .ok (if p ∧ n = all then some (ofBytes bytes) else none) := by
  by_cases stored : p
  · rw [if_pos stored] at h
    rw [Step.run_bind_of_some h, finish]
    by_cases enough : n = all
    · rw [if_pos enough, if_pos ⟨stored, enough⟩]
      rfl
    · rw [if_neg enough, if_neg fun both => enough both.2]
      rfl
  · rw [if_neg stored] at h
    rw [Step.run_bind_of_none h, if_neg fun both => stored both.1]

/-- **Six pairs are read**, whatever is between them. -/
theorem run_read_pairs (x : Char) (t : List Char) :
    (storePairs 0 (List.replicate 6 0) (t.splitOn x) >>= finish 6).run =
      .ok ((digits? x 6 2 t).map ofDigits) := by
  refine (run_bind_finish (run_storePairs [] (List.replicate 6 0) (t.splitOn x))).trans ?_
  rw [digits?_eq]
  by_cases form : (t.splitOn x).length = 6 ∧ (t.splitOn x).all (isGroup 2) = true
  · have le : (t.splitOn x).length ≤ (List.replicate 6 (0 : BitVec 8)).length := Nat.le_of_eq form.1
    rw [if_pos form, if_pos ⟨⟨le, form.2⟩, by simp [form.1]⟩, form.1, Option.map_some,
      ← ofBytes_map_byteOf form.2]
    simp
  · rw [if_neg form, if_neg]
    · rfl
    · rintro ⟨⟨-, pairs⟩, enough⟩
      exact form ⟨by simpa using enough, pairs⟩

/-- **Three fours are read**, with dots between them. -/
theorem run_read_fours (t : List Char) :
    (storeFours 0 (List.replicate 6 0) (t.splitOn '.') >>= finish 3).run =
      .ok ((digits? '.' 3 4 t).map ofDigits) := by
  have stored : (storeFours 0 ([] ++ List.replicate 6 0) (t.splitOn '.')).run = _ :=
    run_storeFours rfl rfl (t.splitOn '.')
  refine (run_bind_finish stored).trans ?_
  rw [digits?_eq]
  by_cases form : (t.splitOn '.').length = 3 ∧ (t.splitOn '.').all (isGroup 4) = true
  · obtain ⟨pairs, digits⟩ := halves_of_isGroup form.2
    have le : 0 + (t.splitOn '.').length ≤ 3 := by omega
    rw [if_pos form, if_pos ⟨⟨le, form.2⟩, by omega⟩, form.1, Option.map_some, ← digits,
      ← ofBytes_map_byteOf pairs]
    simp
  · rw [if_neg form, if_neg]
    · rfl
    · rintro ⟨⟨-, fours⟩, enough⟩
      exact form ⟨by omega, fours⟩

/-! ## Forms and lengths -/

/-- **The length of groups** of the same size with a separator between them. -/
theorem length_intercalate {gs : List (List Char)} (ne : gs ≠ [])
    (sizes : ∀ g ∈ gs, g.length = size) :
    (List.intercalate [x] gs).length + 1 = gs.length * (size + 1) := by
  induction gs with
  | nil => exact absurd rfl ne
  | cons g gs ih =>
    obtain ⟨first, later⟩ := List.forall_mem_cons.1 sizes
    by_cases last : gs = []
    · subst last
      rw [List.intercalate_singleton, first, List.length_singleton, Nat.one_mul]
    · have rest := ih last later
      rw [List.intercalate_cons_of_ne_nil last, List.length_append, List.length_append, first,
        List.length_singleton, List.length_cons, Nat.add_mul]
      omega

/-- A text of groups of digits has a byte for each of its characters. -/
theorem IsGrouped.byteLength_eq (h : IsGrouped x count size t) (ascii : x.toNat < 0x80) :
    byteLength t + 1 = count * (size + 1) := by
  have small : ∀ c ∈ t, c.toNat < 0x80 := by
    intro c hc
    rcases h.mem hc with digit | rfl
    · exact toNat_lt_of_isHexDigit digit
    · exact ascii
  have length := length_intercalate (x := x) (List.splitOn_ne_nil x t) fun g hg => (h.2 g hg).1
  rwa [List.intercalate_splitOn, h.1, ← Text.byteLength_of_ascii small] at length

/-- A text of another length does not consist of such groups. -/
theorem digits?_of_byteLength (ascii : x.toNat < 0x80)
    (other : byteLength t + 1 ≠ count * (size + 1)) : digits? x count size t = none := by
  rw [Option.eq_none_iff_forall_ne_some]
  exact fun ds read => other ((digits?_eq_some_iff.1 read).1.byteLength_eq ascii)

/-- **Reading step by step** comes to the address that the text denotes, and never
goes wrong. -/
theorem run_read (t : List Char) : (read t).run = .ok (ofText? t) := by
  rw [read, ofText?_eq]
  by_cases seventeen : byteLength t = 17
  · have dots : digits? '.' 3 4 t = none := digits?_of_byteLength (by decide) (by omega)
    rw [if_pos seventeen, run_read_pairs, dots]
    by_cases colon : ':' ∈ t
    · have hyphens : digits? '-' 6 2 t = none := by
        rw [Option.eq_none_iff_forall_ne_some]
        intro ds read
        exact absurd ((digits?_eq_some_iff.1 read).1.mem colon) (by decide)
      rw [if_pos colon, hyphens]
      cases digits? ':' 6 2 t <;> rfl
    · rw [if_neg colon, digits?_of_not_mem colon (by decide)]
      cases digits? '-' 6 2 t <;> rfl
  · have colons : digits? ':' 6 2 t = none := digits?_of_byteLength (by decide) (by omega)
    have hyphens : digits? '-' 6 2 t = none := digits?_of_byteLength (by decide) (by omega)
    rw [if_neg seventeen, colons, hyphens]
    by_cases fourteen : byteLength t = 14
    · rw [if_pos fourteen, run_read_fours]
      rfl
    · have dots : digits? '.' 3 4 t = none := digits?_of_byteLength (by decide) (by omega)
      rw [if_neg fourteen, dots]
      rfl

/-- **A way to write a MAC address**: so many groups of digits of such a size, with a
separator between them, where the digits are those of the bytes of the address, in any
letter case and in order. -/
def IsWritten (m : Mac) (x : Char) (count size : Nat) (t : List Char) : Prop :=
  ∃ gs : List (List Char), gs.length = count ∧
    (∀ g ∈ gs, g.length = size ∧ ∀ c ∈ g, Text.isHexDigit c = true) ∧
    t = List.intercalate [x] gs ∧ gs.flatten.map Char.toLower = (m.bytes.map pair).flatten

variable {m : Mac}

/-- The digits of a MAC address are in small letters. -/
theorem map_toLower_bytes (m : Mac) :
    (m.bytes.map pair).flatten.map Char.toLower = (m.bytes.map pair).flatten := by
  have small : ∀ d < 16, (Nat.digitChar d).toLower = Nat.digitChar d := by decide
  have each (b : BitVec 8) : (pair b).map Char.toLower = pair b := by
    rw [pair, List.map_cons, List.map_singleton, small _ (by omega), small _ (by omega)]
  rw [List.map_flatten, List.map_map]
  exact congrArg List.flatten (List.map_congr_left fun b _ => each b)

/-- An address is written in some form if its digits are read in this form. -/
theorem isWritten_iff_digits? (pos : 0 < count) (separator : Text.isHexDigit x = false) :
    m.IsWritten x count size t ↔ ∃ ds, digits? x count size t = some ds ∧
      ds.map Char.toLower = (m.bytes.map pair).flatten := by
  constructor
  · rintro ⟨gs, rfl, groups, rfl, digits⟩
    exact ⟨_, digits?_intercalate (List.ne_nil_of_length_pos pos) separator groups, digits⟩
  · rintro ⟨ds, read, digits⟩
    obtain ⟨grouped, rfl⟩ := digits?_eq_some_iff.1 read
    exact ⟨t.splitOn x, grouped.1, grouped.2, (List.intercalate_splitOn x).symm, digits⟩

/-- **An address is written** in some form if the text is its spelling in that form, in
any letter case. -/
theorem isWritten_iff {s : List Char}
    (spelled : digits? x count size s = some (m.bytes.map pair).flatten) (pos : 0 < count)
    (separator : Text.isHexDigit x = false) (letter : x.isAlpha = false) :
    m.IsWritten x count size t ↔ Text.sameButCase t s = true := by
  rw [isWritten_iff_digits? pos separator]
  constructor
  · rintro ⟨ds, read, digits⟩
    refine sameButCase_of_digits? letter read spelled ?_
    rw [← digits, Text.ignoresCase_hexNumber]
  · intro same
    have lower : digits? x count size (t.map Char.toLower) =
        (digits? x count size t).map (List.map Char.toLower) := digits?_map_toLower letter t
    rw [eq_of_beq same, digits?_map_toLower letter, spelled, Option.map_some,
      map_toLower_bytes] at lower
    obtain ⟨ds, read, digits⟩ := Option.map_eq_some_iff.1 lower.symm
    exact ⟨ds, read, digits⟩

/-- **MAC addresses are written in three forms**, and reading one never goes wrong.
Whatever the text, reading it step by step comes to what it denotes: a MAC address if
it is six groups of two hexadecimal digits, all with colons or all with hyphens between
them, or three groups of four with dots – the address that has these twelve digits –
and nothing otherwise. No place is written to that there is not, and no text is split
inside of a character. -/
theorem three_forms_are_read (t : List Char) :
    (read t).run = .ok (ofText? t) ∧
    ∀ m, ofText? t = some m ↔
      m.IsWritten ':' 6 2 t ∨ m.IsWritten '-' 6 2 t ∨ m.IsWritten '.' 3 4 t := by
  refine ⟨run_read t, fun m => ?_⟩
  obtain ⟨colons, hyphens, dots⟩ := digits?_spellings m
  rw [ofText?_eq_some_iff, isWritten_iff colons (by decide) rfl rfl,
    isWritten_iff hyphens (by decide) rfl rfl, isWritten_iff dots (by decide) rfl rfl, IsSpelling]
  simp [spellings]

/-- A text may be as long as one with dots, and have a group with as many bytes as four
digits whose halves end inside of a character. It is rejected before it is split. -/
example : byteLength "1é2.0000.0000".toList = 14 ∧
    splitAtByte "1é2".toList 2 = .error .insideCharacter ∧
    (read "1é2.0000.0000".toList).run = .ok none := ⟨rfl, rfl, rfl⟩

end RecordPlan.Mac
