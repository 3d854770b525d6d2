import RecordPlan.Unicode.MappingData

/-!
# Preparing the characters of a name

Before a name is looked at, every character of it is replaced by the
characters that stand for it. `Mapping.of` says what becomes of one
character and `Mapping.mapText?` of a text. ASCII is decided by rule and
never by table: capital letters map to small ones, all else is valid.
-/

namespace RecordPlan.Unicode

/-- What becomes of a character when a name is prepared. -/
inductive Mapping where
  /-- The character stands for itself. -/
  | valid
  /-- The character is dropped. -/
  | ignored
  /-- The character is replaced. -/
  | mapped (image : List Char)
  /-- The character may not occur. -/
  | disallowed
  deriving DecidableEq

/-- Whether a character belongs to ASCII. -/
def isAscii (c : Char) : Bool := c.toNat < 0x80

namespace Mapping

/-- What becomes of a character. -/
def of (c : Char) : Mapping :=
  if isAscii c then
    if c.isUpper then .mapped [c.toLower] else .valid
  else if validTable.contains c then .valid
  else if ignoredTable.contains c then .ignored
  else match mappedTable.image? c with
    | some image => .mapped image
    | none => .disallowed

/-- The characters that stand for a character; none for one that may not
occur. -/
def image? (c : Char) : Option (List Char) :=
  match of c with
  | .valid => some [c]
  | .ignored => some []
  | .mapped image => some image
  | .disallowed => none

/-- Whether a character stands for itself. -/
def isValid (c : Char) : Bool := of c = .valid

/-- **The mapped text**: every character replaced by what stands for it;
none if some character may not occur. -/
def mapText? (text : List Char) : Option (List Char) :=
  (text.mapM image?).map List.flatten

end Mapping

end RecordPlan.Unicode
