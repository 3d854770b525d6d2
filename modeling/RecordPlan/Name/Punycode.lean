import RecordPlan.Unicode.Mapping

/-!
# Labels as ASCII

A label with characters beyond ASCII is stored as ASCII text: its ASCII
characters first, then a hyphen, then digits that say which other
characters are to be **inserted** where. The insertions are made in the
order of the characters' numbers, and from left to right for equal
characters, so that each of them is told by one number: how far the pair
of character and place has moved since the insertion before.

`encode` undoes the insertions from the last to the first and writes the
numbers; `decode?` reads the numbers and makes the insertions. A number
is written with digits whose weights depend on a **bias**, which follows
the size of the numbers seen so far.
-/

namespace RecordPlan.Name.Punycode

open Unicode (isAscii)

/-- How many digits there are. -/
def base : Nat := 36

/-- Numbers are kept below this bound while reading. -/
def limit : Nat := 0x100000000

/-- The digit threshold at a position, which grows by `base` from digit to
digit: a digit below it is the last of its number. -/
def threshold (position bias : Nat) : Nat :=
  if position ≤ bias then 1 else if bias + 26 ≤ position then 26 else position - bias

/-- A threshold is between 1 and 26. -/
theorem threshold_bounds (position bias : Nat) :
    1 ≤ threshold position bias ∧ threshold position bias ≤ 26 := by
  unfold threshold
  split
  · omega
  · split <;> omega

/-- The bias that fits a number reduced to one digit's range, `steps`
being what the reduction so far has added. -/
def adaptFrom (steps delta : Nat) : Nat :=
  if 455 < delta then adaptFrom (steps + base) (delta / 35)
  else steps + base * delta / (delta + 38)
termination_by delta

/-- The bias after a number, given the length of the text that the
insertion makes and whether it was the first. -/
def adapt (delta length : Nat) (isFirst : Bool) : Nat :=
  let scaled := if isFirst then delta / 700 else delta / 2
  adaptFrom 0 (scaled + scaled / length)

/-- The digit of a value. -/
def digitOf (value : Nat) : Char :=
  if value < 26 then Char.ofNat ('a'.toNat + value) else Char.ofNat ('0'.toNat + (value - 26))

/-- The value of a digit, in either letter case. -/
def digitValue? (c : Char) : Option Nat :=
  if 'a' ≤ c ∧ c ≤ 'z' then some (c.toNat - 'a'.toNat)
  else if 'A' ≤ c ∧ c ≤ 'Z' then some (c.toNat - 'A'.toNat)
  else if '0' ≤ c ∧ c ≤ '9' then some (c.toNat - '0'.toNat + 26)
  else none

/-! ## What has been inserted so far -/

/-- Where the building of a label stands after some insertions. -/
structure Stage where
  /-- The text so far. -/
  text : List Char
  /-- The number of the character inserted last. -/
  code : Nat
  /-- The place after the last insertion. -/
  place : Nat
  /-- The bias for the next number. -/
  bias : Nat

namespace Stage

/-- Before any insertion: the ASCII characters of the label alone. -/
def initial (basic : List Char) : Stage := ⟨basic, 0x80, 0, 72⟩

/-- Moves on by a number and inserts the character found there; none if
there is no such character. -/
def insert? (s : Stage) (delta : Nat) : Option Stage :=
  let length := s.text.length + 1
  let code := s.code + (s.place + delta) / length
  let place := (s.place + delta) % length
  if h : code.isValidChar then
    some
      ⟨s.text.insertIdx place (Char.ofNatAux code h), code, place + 1,
        adapt delta length (s.place == 0)⟩
  else none

end Stage

/-! ## Writing -/

/-- The digits of a number from a position on. -/
def numberDigits (position bias number : Nat) : List Char :=
  let t := threshold position bias
  if number < t then [digitOf number]
  else
    digitOf (t + (number - t) % (base - t)) ::
      numberDigits (position + base) bias ((number - t) / (base - t))
termination_by number
decreasing_by
  have bounds := threshold_bounds position bias
  have below := Nat.div_le_self (number - threshold position bias)
    (base - threshold position bias)
  simp only [t] at *
  omega

/-- The place of the character inserted last: the greatest one, and the
last of those that are equal; none if all are ASCII. -/
def lastInserted? : List Char → Option (Char × Nat)
  | [] => none
  | c :: rest =>
    match lastInserted? rest with
    | some (d, i) => if d < c then some (c, 0) else some (d, i + 1)
    | none => if isAscii c then none else some (c, 0)

/-- The insertions that build a text from its ASCII characters, in order. -/
def insertions : Nat → List Char → List (Char × Nat)
  | 0, _ => []
  | n + 1, text =>
    match lastInserted? text with
    | none => []
    | some (c, i) => insertions n (text.eraseIdx i) ++ [(c, i)]

/-- The digits of some insertions, made from a stage on. -/
def insertionDigits (s : Stage) : List (Char × Nat) → List Char
  | [] => []
  | (c, i) :: rest =>
    let length := s.text.length + 1
    let delta := (c.toNat - s.code) * length + i - s.place
    numberDigits base s.bias delta ++
      insertionDigits
        ⟨s.text.insertIdx i c, c.toNat, i + 1, adapt delta length (s.place == 0)⟩ rest

/-- **The ASCII form of a label.** -/
def encode (label : List Char) : List Char :=
  let basic := label.filter isAscii
  (if basic = [] then [] else basic ++ ['-']) ++
    insertionDigits (Stage.initial basic) (insertions label.length label)

/-! ## Reading -/

/-- A stage with a number that has been read in part. -/
structure Reading where
  /-- The insertions made so far. -/
  stage : Stage
  /-- What the digits of the unfinished number add up to. -/
  number : Nat
  /-- The weight of the next digit. -/
  weight : Nat
  /-- The position of the next digit. -/
  position : Nat

namespace Reading

/-- Before the first digit of a number. -/
def ofStage (s : Stage) : Reading := ⟨s, 0, 1, base⟩

/-- Reads one digit; none if it is no digit, if a number grows beyond the
limit, or if a finished number leads to no character. -/
def digit? (r : Reading) (c : Char) : Option Reading := do
  let d ← digitValue? c
  let number := r.number + d * r.weight
  let t := threshold r.position r.stage.bias
  if limit ≤ r.stage.place + number then none
  else if d < t then return ofStage (← r.stage.insert? number)
  else if limit ≤ r.weight * (base - t) then none
  else return ⟨r.stage, number, r.weight * (base - t), r.position + base⟩

/-- Whether no number has been begun. -/
def isComplete (r : Reading) : Bool := r.position == base

end Reading

/-- The text before the last hyphen and the text after it. -/
def splitLastHyphen? : List Char → Option (List Char × List Char)
  | [] => none
  | c :: rest =>
    match splitLastHyphen? rest with
    | some (before, after) => some (c :: before, after)
    | none => if c = '-' then some ([], rest) else none

/-- **The label that an ASCII form stands for**, in small letters where it
is ASCII; none if the form stands for no label. -/
def decode? (form : List Char) : Option (List Char) := do
  let (basic, digits) ← match splitLastHyphen? form with
    | some ([], _) => none
    | some (basic, digits) => some (basic, digits)
    | none => some ([], form)
  let r ← digits.foldlM Reading.digit? (.ofStage (.initial (basic.map Char.toLower)))
  if r.isComplete then some r.stage.text else none

end RecordPlan.Name.Punycode
