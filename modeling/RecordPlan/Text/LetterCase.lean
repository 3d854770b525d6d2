import RecordPlan.Unicode.CaseData
import RecordPlan.Unicode.Mapping

/-!
# Small letters

Keywords and levels of logging are compared without regard to the case of
ASCII letters (`sameButCase`). Diagnostics show a name in small letters of
any script (`lower`), where a capital sigma becomes a final sigma if it
ends a word: if a letter stands before it and none after it, characters
that are ignored between letters aside.
-/

namespace RecordPlan.Text

open Unicode (isAscii)
open Unicode.LetterCase

/-- Whether two texts differ in the case of ASCII letters at most. -/
def sameButCase (a b : List Char) : Bool := a.map Char.toLower == b.map Char.toLower

/-- The small form of a character by itself. -/
def lowerChar (c : Char) : List Char :=
  if isAscii c then [c.toLower] else (lowerTable.image? c).getD [c]

/-- Whether the first character that is not ignored has a case. -/
def reachesCased (text : List Char) : Bool :=
  match text.dropWhile ignorableTable.contains with
  | [] => false
  | c :: _ => casedTable.contains c

/-- A text in small letters; `afterCased` tells whether the last character
before it that is not ignored has a case. -/
def lowerFrom (afterCased : Bool) : List Char → List Char
  | [] => []
  | c :: rest =>
    let small :=
      if c = 'Σ' then if afterCased && !reachesCased rest then ['ς'] else ['σ']
      else lowerChar c
    small ++
      lowerFrom (if ignorableTable.contains c then afterCased else casedTable.contains c) rest

/-- **A text in small letters.** -/
def lower (text : List Char) : List Char := lowerFrom false text

end RecordPlan.Text
