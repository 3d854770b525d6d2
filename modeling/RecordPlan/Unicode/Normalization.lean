import RecordPlan.Unicode.CanonicalData
import RecordPlan.Unicode.Mapping

/-!
# Canonical normalization

Texts that are canonically equivalent – a letter with an accent as one
character, or as the letter followed by the accent – have one composed
form, `normalize`. It is reached in three steps: every character is
decomposed (`decompose`), the marks after each base character are put
into the order of their combining classes (`order`), and what composes
again is composed (`compose`). ASCII text is its own composed form and
skips all three.
-/

namespace RecordPlan.Unicode.Canonical

/-- The first precomposed Hangul syllable, the number of final consonants
(with "none" among them) and the number of vowels times that. -/
def syllableBase : Nat := 0xAC00

/-- The Hangul consonants that begin a syllable start here. -/
def leadBase : Nat := 0x1100

/-- The Hangul vowels start here. -/
def vowelBase : Nat := 0x1161

/-- One before the Hangul consonants that end a syllable. -/
def tailBase : Nat := 0x11A7

/-- The parts of a Hangul syllable: lead, vowel and, if there is one,
tail. -/
def syllableParts? (c : Char) : Option (List Char) :=
  let s := c.toNat - syllableBase
  if c.toNat < syllableBase ∨ 19 * 588 ≤ s then none
  else
    let parts := [Char.ofNat (leadBase + s / 588), Char.ofNat (vowelBase + s % 588 / 28)]
    if s % 28 = 0 then some parts
    else some (parts ++ [Char.ofNat (tailBase + s % 28)])

/-- The full canonical decomposition of a character. -/
def decompose (c : Char) : List Char :=
  if isAscii c then [c]
  else match syllableParts? c with
    | some parts => parts
    | none => (decompositionTable.image? c).getD [c]

/-- The combining class of a character; zero for one that starts anew. -/
def combiningClass (c : Char) : Nat :=
  if isAscii c then 0 else (classTable.constant? c).getD 0

/-- Puts a character in front of an ordered text: behind the marks of a
lower class that it has to follow. -/
def orderInto (c : Char) : List Char → List Char
  | [] => [c]
  | d :: rest =>
    if combiningClass d ≠ 0 ∧ combiningClass d < combiningClass c then
      d :: orderInto c rest
    else c :: d :: rest

/-- Every run of marks in the order of the combining classes, marks of
one class as they were. -/
def order (text : List Char) : List Char := text.foldr orderInto []

/-- The partner of a character in a list of pairs. -/
def partner? (c : Nat) : List Nat → Option Nat
  | d :: result :: rest => if d = c then some result else partner? c rest
  | _ => none

/-- What a Hangul lead and vowel, or an open syllable and a tail, compose
to. -/
def joinSyllable? (a b : Char) : Option Char :=
  let lead := a.toNat - leadBase
  let vowel := b.toNat - vowelBase
  let syllable := a.toNat - syllableBase
  let tail := b.toNat - tailBase
  if leadBase ≤ a.toNat ∧ lead < 19 ∧ vowelBase ≤ b.toNat ∧ vowel < 21 then
    some (Char.ofNat (syllableBase + lead * 588 + vowel * 28))
  else if syllableBase ≤ a.toNat ∧ syllable < 19 * 588 ∧ syllable % 28 = 0 ∧
      tailBase < b.toNat ∧ tail < 28 then
    some (Char.ofNat (a.toNat + tail))
  else none

/-- What two characters compose to, if they do. -/
def join? (a b : Char) : Option Char :=
  match joinSyllable? a b with
  | some c => some c
  | none => do
    let pairs ← compositionTable.run? a
    return Char.ofNat (← partner? b.toNat pairs.value)

/-- Composes a text from a base character on; `kept` holds the marks, last
first, that stay behind it. A character composes with the base unless a
kept mark of the same or a higher class stands between them. -/
def composeFrom (base : Char) (kept : List Char) : List Char → List Char
  | [] => base :: kept.reverse
  | c :: rest =>
    let blocked := match kept with
      | [] => false
      | mark :: _ => decide (combiningClass c ≤ combiningClass mark)
    match if blocked then none else join? base c with
    | some joined => composeFrom joined kept rest
    | none =>
      if combiningClass c = 0 then base :: kept.reverse ++ composeFrom c [] rest
      else composeFrom base (c :: kept) rest

/-- Composes a text; marks before the first base character stay. -/
def compose : List Char → List Char
  | [] => []
  | c :: rest =>
    if combiningClass c = 0 then composeFrom c [] rest else c :: compose rest

/-- **The composed canonical form of a text.** -/
def normalize (text : List Char) : List Char :=
  if text.all isAscii then text
  else compose (order (text.flatMap decompose))

/-- ASCII text is in composed form. -/
theorem normalize_of_ascii {text : List Char} (h : text.all isAscii = true) :
    normalize text = text := by
  simp [normalize, h]

end RecordPlan.Unicode.Canonical
