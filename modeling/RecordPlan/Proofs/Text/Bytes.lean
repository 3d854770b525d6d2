import RecordPlan.Proofs.Text.Utf8

/-!
# Texts by their bytes

A text has a length in bytes as well as one in characters, and the two are the
same if it is ASCII (`byteLength_of_ascii`). It may be split at a byte, too, but
not at every one: there may be no such byte, and there may be one inside of a
character. `splitAtByte` fails then, and succeeds at all other bytes
(`splitAtByte_eq_ok_iff`).
-/

namespace RecordPlan.Text

variable {text front back : List Char} {n : Nat}

/-- **The length of a text in bytes.** -/
def byteLength (text : List Char) : Nat := (Utf8.encode text).length

@[simp]
theorem byteLength_nil : byteLength [] = 0 := rfl

@[simp]
theorem byteLength_cons (c : Char) (text : List Char) :
    byteLength (c :: text) = c.utf8Size + byteLength text := by
  rw [byteLength, byteLength, Utf8.encode, Utf8.encode, List.flatMap_cons, List.length_append,
    String.length_utf8EncodeChar]

theorem utf8Size_eq_one {c : Char} (h : c.toNat < 0x80) : c.utf8Size = 1 := by
  rw [← String.length_utf8EncodeChar, Utf8.utf8EncodeChar_one h]
  rfl

/-- **A text of ASCII** has a byte for each character. -/
theorem byteLength_of_ascii (ascii : ∀ c ∈ text, c.toNat < 0x80) :
    byteLength text = text.length := by
  induction text with
  | nil => rfl
  | cons c text ih =>
    obtain ⟨first, rest⟩ := List.forall_mem_cons.1 ascii
    rw [byteLength_cons, utf8Size_eq_one first, ih rest, List.length_cons, Nat.add_comm]

/-- What may be wrong with an access to a part of something. -/
inductive Fault where
  /-- There is no such part. -/
  | outOfRange
  /-- The part begins or ends inside of a character. -/
  | insideCharacter
  deriving DecidableEq

/-- **Splits a text at a byte.** -/
def splitAtByte : List Char → Nat → Except Fault (List Char × List Char)
  | text, 0 => .ok ([], text)
  | [], _ + 1 => .error .outOfRange
  | c :: text, n + 1 =>
    if n + 1 < c.utf8Size then .error .insideCharacter
    else (splitAtByte text (n + 1 - c.utf8Size)).map fun (front, back) => (c :: front, back)

/-- Before a byte behind the first character there is that character. -/
theorem splitAtByte_cons {c : Char} (pos : 0 < n) (text : List Char) :
    splitAtByte (c :: text) n =
      if n < c.utf8Size then .error .insideCharacter
      else (splitAtByte text (n - c.utf8Size)).map fun (front, back) => (c :: front, back) := by
  obtain ⟨n, rfl⟩ := Nat.exists_eq_add_one_of_ne_zero (Nat.ne_of_gt pos)
  rfl

/-- A text is split behind each of its characters. -/
theorem splitAtByte_append (front back : List Char) :
    splitAtByte (front ++ back) (byteLength front) = .ok (front, back) := by
  induction front with
  | nil => rw [List.nil_append, byteLength_nil, splitAtByte]
  | cons c front ih =>
    have pos := c.utf8Size_pos
    rw [List.cons_append, byteLength_cons, splitAtByte_cons (by omega), if_neg (by omega),
      Nat.add_sub_cancel_left, ih]
    rfl

/-- **A text is split at a byte** if characters end there, or none has begun. -/
theorem splitAtByte_eq_ok_iff :
    splitAtByte text n = .ok (front, back) ↔ text = front ++ back ∧ byteLength front = n := by
  constructor
  · intro split
    induction text, n using splitAtByte.induct generalizing front with
    | case1 text =>
      rw [splitAtByte] at split
      obtain ⟨rfl, rfl⟩ := Prod.mk.inj (Except.ok.inj split)
      exact ⟨rfl, rfl⟩
    | case2 n => cases split
    | case3 c text n inside =>
      rw [splitAtByte, if_pos inside] at split
      cases split
    | case4 c text n behind ih =>
      rw [splitAtByte, if_neg behind] at split
      cases rest : splitAtByte text (n + 1 - c.utf8Size) with
      | error fault =>
        rw [rest] at split
        cases split
      | ok parts =>
        rw [rest] at split
        obtain ⟨rfl, rfl⟩ := Prod.mk.inj (Except.ok.inj split)
        obtain ⟨rfl, length⟩ := ih rest
        refine ⟨rfl, ?_⟩
        rw [byteLength_cons, length]
        omega
  · rintro ⟨rfl, rfl⟩
    exact splitAtByte_append front back

/-- A text of ASCII may be split at every byte, of which there are as many as
characters. -/
theorem splitAtByte_of_ascii (ascii : ∀ c ∈ text, c.toNat < 0x80) (le : n ≤ text.length) :
    splitAtByte text n = .ok (text.take n, text.drop n) := by
  refine splitAtByte_eq_ok_iff.2 ⟨(List.take_append_drop n text).symm, ?_⟩
  rw [byteLength_of_ascii fun c hc => ascii c (List.mem_of_mem_take hc), List.length_take]
  exact Nat.min_eq_left le

/-- The second byte of a letter with an accent is not its first. -/
example : splitAtByte ['a', 'é'] 2 = .error .insideCharacter := rfl

end RecordPlan.Text
