import RecordPlan.Unicode.BidiData
import RecordPlan.Unicode.Mapping

/-!
# Names in two directions

A name that has characters written from right to left is shown in an
order that differs from the order it is stored in. Such a name is
accepted only if each of its labels keeps together when shown: the label
begins with a letter of one direction, ends with a letter or number of
that direction, and holds nothing of the other one
(`labelKeepsDirection`). Names without such characters are free
(`nameKeepsDirection`).
-/

namespace RecordPlan.Unicode.Bidi

/-- The classes of writing direction. -/
inductive Direction where
  /-- Letters from left to right. -/
  | left
  /-- Letters from right to left. -/
  | right
  /-- Letters of the Arabic script and its kin. -/
  | arabicLetter
  /-- Digits of the Arabic script. -/
  | arabicNumber
  /-- Other digits. -/
  | europeanNumber
  /-- Plus and minus. -/
  | europeanSeparator
  /-- Separators inside numbers. -/
  | commonSeparator
  /-- Signs beside numbers. -/
  | europeanTerminator
  /-- Symbols and punctuation. -/
  | neutral
  /-- Characters without effect. -/
  | boundary
  /-- Marks that take the direction of what they sit on. -/
  | mark
  /-- Blanks, separators and explicit controls. -/
  | spacing
  deriving DecidableEq

/-- The direction of a character. -/
def direction (c : Char) : Direction :=
  if c.isAlpha then .left
  else if rightTable.contains c then .right
  else if arabicLetterTable.contains c then .arabicLetter
  else if arabicNumberTable.contains c then .arabicNumber
  else if europeanNumberTable.contains c then .europeanNumber
  else if europeanSeparatorTable.contains c then .europeanSeparator
  else if commonSeparatorTable.contains c then .commonSeparator
  else if europeanTerminatorTable.contains c then .europeanTerminator
  else if neutralTable.contains c then .neutral
  else if boundaryTable.contains c then .boundary
  else if markTable.contains c then .mark
  else if spacingTable.contains c then .spacing
  else .left

/-- Whether a character makes a name one of two directions. -/
def isRightward (c : Char) : Bool :=
  !isAscii c && direction c ∈ [.right, .arabicLetter, .arabicNumber]

/-- Directions that may stand inside a label of either direction. -/
def shared : List Direction :=
  [.europeanNumber, .europeanSeparator, .commonSeparator, .europeanTerminator,
    .neutral, .boundary, .mark]

/-- The rule for a label from left to right, `rest` being its directions
after the first one and without marks at the end. -/
def keepsLeft (rest : List Direction) : Bool :=
  match rest.getLast? with
  | none => true
  | some last => last ∈ [Direction.left, .europeanNumber] &&
      rest.dropLast.all (fun d => d ∈ Direction.left :: shared)

/-- The rule for a label from right to left, which may hold numbers of
one kind only. -/
def keepsRight (rest : List Direction) : Bool :=
  match rest.getLast? with
  | none => true
  | some last =>
      last ∈ [Direction.right, .arabicLetter, .europeanNumber, .arabicNumber] &&
      rest.dropLast.all
        (fun d => d ∈ Direction.right :: .arabicLetter :: .arabicNumber :: shared) &&
      !(rest.contains .europeanNumber && rest.contains .arabicNumber)

/-- Whether a label of a name of two directions keeps together. -/
def labelKeepsDirection (label : List Char) : Bool :=
  match label.map direction with
  | [] => true
  | first :: rest =>
    let rest := (rest.reverse.dropWhile (· = .mark)).reverse
    match first with
    | .left => keepsLeft rest
    | .right | .arabicLetter => keepsRight rest
    | _ => false

/-- **Whether a name keeps together when shown**: it has one direction
only, or every label of it keeps together. -/
def nameKeepsDirection (labels : List (List Char)) : Bool :=
  labels.all (fun label => label.all (!isRightward ·)) ||
    labels.all labelKeepsDirection

end RecordPlan.Unicode.Bidi
