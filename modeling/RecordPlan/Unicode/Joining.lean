import RecordPlan.Unicode.JoiningData
import RecordPlan.Unicode.Normalization

/-!
# Invisible joiners

Two characters without any ink tell how their neighbours join: the
**joiner** and the **non-joiner**. In a name each is accepted only where
it changes what is seen: after a virama, which suppresses the vowel of
the consonant before it; and the non-joiner also between two letters of a
cursive script that would otherwise join. `joinersApply` states the rule
for a whole label.
-/

namespace RecordPlan.Unicode.Joining

/-- The zero-width non-joiner. -/
def nonJoiner : Char := '\u200c'

/-- The zero-width joiner. -/
def joiner : Char := '\u200d'

/-- Whether a character is a combining mark. -/
def isMark (c : Char) : Bool := !isAscii c && markTable.contains c

/-- Whether a character suppresses the vowel of the consonant before
it. -/
def isVirama (c : Char) : Bool := Canonical.combiningClass c == 9

/-- Whether the first character that joining does not look through joins
toward this side. -/
def reaches (side : CodeTable) (text : List Char) : Bool :=
  match text.dropWhile (fun c => !side.contains c && !dualTable.contains c &&
      transparentTable.contains c) with
  | [] => false
  | c :: _ => side.contains c || dualTable.contains c

/-- Whether a joiner may stand between `before`, given last character
first, and `after`. -/
def joinerApplies (c : Char) (before after : List Char) : Bool :=
  match before with
  | [] => false
  | last :: _ => isVirama last ||
      (c == nonJoiner && reaches leftTable before && reaches rightTable after)

/-- Whether every joiner of a text may stand where it does, `before` being
what precedes the text, last character first. -/
def joinersApplyFrom (before : List Char) : List Char → Bool
  | [] => true
  | c :: rest =>
    (!(c == nonJoiner || c == joiner) || joinerApplies c before rest) &&
      joinersApplyFrom (c :: before) rest

/-- **Whether every joiner of a label may stand where it does.** -/
def joinersApply (label : List Char) : Bool := joinersApplyFrom [] label

end RecordPlan.Unicode.Joining
