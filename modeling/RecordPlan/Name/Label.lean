import RecordPlan.Name.Punycode
import RecordPlan.Unicode.Bidi
import RecordPlan.Unicode.Joining
import RecordPlan.Unicode.Normalization

/-!
# Labels

A name is a sequence of **labels**. A label has a Unicode form and an
ASCII form; they are the same for a label of ASCII characters, and
otherwise the ASCII form is `xn--` followed by the encoded label.

Labels are judged by one of two rules. The **strict** one is that for
names under which hosts are found: ASCII letters, digits and hyphens
only, and no hyphen at either end or at both the third and the fourth
place. The **lenient** one is for showing a name that is already stored
and asks for no particular ASCII characters. Both ask that every
character stands for itself, that the label is in composed form, does not
begin with a mark, and has joiners only where they apply.
-/

namespace RecordPlan.Name

open Unicode (isAscii Mapping)
open Unicode.Canonical (normalize)
open Unicode.Joining (isMark joinersApply)

/-- How labels are judged. -/
inductive Rule where
  /-- For names under which hosts are found. -/
  | strict
  /-- For names that are only shown. -/
  | lenient
  deriving DecidableEq

/-- Whether a character beyond ASCII, or a letter in small form, a digit
or a hyphen. -/
def isHostCharacter (c : Char) : Bool :=
  !isAscii c || c.isLower || c.isDigit || c == '-'

/-- Whether no hyphen stands at either end of a label or at both its third
and its fourth place. -/
def hyphensWellPlaced (label : List Char) : Bool :=
  label.head? != some '-' && label.getLast? != some '-' &&
    !(label[2]? == some '-' && label[3]? == some '-')

/-- The greatest length of a label with characters beyond ASCII. -/
def maxUnicodeLength : Nat := 1000

/-- The greatest length of an encoded label. -/
def maxEncodedLength : Nat := 2000

namespace Rule

/-- What the strict rule asks beyond the lenient one. -/
def admits (rule : Rule) (label : List Char) : Bool :=
  match rule with
  | .strict => label.all isHostCharacter && hyphensWellPlaced label
  | .lenient => true

/-- **Whether the Unicode form of a label is accepted.** -/
def accepts (rule : Rule) (label : List Char) : Bool :=
  rule.admits label &&
  label.all Mapping.isValid &&
  normalize label == label &&
  !label.head?.any isMark &&
  joinersApply label &&
  (label.all isAscii || label.length ≤ maxUnicodeLength)

end Rule

/-- What marks the ASCII form of a label with other characters. -/
def encodedMark : List Char := ['x', 'n', '-', '-']

/-- The label that a text after `encodedMark` encodes. -/
def decodeLabel? (code : List Char) : Option (List Char) :=
  if code ≠ [] ∧ code.all isAscii ∧ code.getLast? ≠ some '-' ∧
      code.length ≤ maxEncodedLength then
    Punycode.decode? code
  else none

/-- **The Unicode form of a label** whose characters have been mapped;
none if it is not accepted. -/
def unicodeLabel? (rule : Rule) (mapped : List Char) : Option (List Char) :=
  let label := normalize mapped
  let decoded :=
    if encodedMark.isPrefixOf label then decodeLabel? (label.drop encodedMark.length)
    else some label
  decoded.filter rule.accepts

/-- **The ASCII form of a label.** -/
def asciiLabel (label : List Char) : List Char :=
  if label.all isAscii then label else encodedMark ++ Punycode.encode label

end RecordPlan.Name
