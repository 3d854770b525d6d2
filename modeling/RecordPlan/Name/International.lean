import RecordPlan.Name.Label

/-!
# Names in Unicode and in ASCII

Names are typed in any script and in any letter case, stored in ASCII,
and shown in Unicode. `toAscii?` takes the first step and is strict;
`toUnicode?` takes the second and is lenient. Both map the characters of
the name, split it at the dots and judge every label, and in the end all
of them together: a name of two directions has to keep together when it
is shown.

The ASCII form of a name is one that the domain name system can carry:
labels of 1 to 63 characters and 253 characters in all, dots included.
-/

namespace RecordPlan.Name

open Unicode (Mapping)
open Unicode.Bidi (nameKeepsDirection)

/-- The greatest length of a label. -/
def maxLabelLength : Nat := 63

/-- The greatest length of a name. -/
def maxLength : Nat := 253

/-- The labels of a name. -/
def labels (name : List Char) : List (List Char) := name.splitOn '.'

/-- The name that consists of some labels. -/
def ofLabels (labels : List (List Char)) : List Char := List.intercalate ['.'] labels

/-- **The labels of a name in their Unicode form**; none if one of them,
or all of them together, are not accepted. -/
def unicodeLabels? (rule : Rule) (name : List Char) : Option (List (List Char)) := do
  let mapped ← Mapping.mapText? name
  let labels ← (labels mapped).mapM (unicodeLabel? rule)
  if nameKeepsDirection labels then some labels else none

/-- Whether labels and name are neither empty nor too long. -/
def fitsLimits (labels : List (List Char)) : Bool :=
  labels.all (fun label => label ≠ [] ∧ label.length ≤ maxLabelLength) &&
    (ofLabels labels).length ≤ maxLength

/-- **The ASCII form of a name**; none if the name is not accepted under
the strict rule, or does not fit the limits. -/
def toAscii? (name : List Char) : Option (List Char) := do
  let labels ← unicodeLabels? .strict name
  let ascii := labels.map asciiLabel
  if fitsLimits ascii then some (ofLabels ascii) else none

/-- **The Unicode form of a name**; none if the name is not accepted under
the lenient rule. -/
def toUnicode? (name : List Char) : Option (List Char) :=
  (unicodeLabels? .lenient name).map ofLabels

end RecordPlan.Name
