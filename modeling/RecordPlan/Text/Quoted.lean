import RecordPlan.Text.Hex
import RecordPlan.Unicode.Mapping
import RecordPlan.Unicode.PrintingData

/-!
# Quoted text

Diagnostics show what an operator wrote between quotes, in a form that
can be read on any terminal: quotes, backslashes and the usual blanks are
escaped by name, and every character that would not show as itself – a
control, an invisible format character, a mark that would sit on the one
before it – by its number.
-/

namespace RecordPlan.Text

open Unicode (isAscii)
open Unicode.Printing

/-- Whether a character shows as itself. -/
def isShown (c : Char) : Bool :=
  if isAscii c then 0x20 ≤ c.toNat && c.toNat < 0x7F
  else !extendingTable.contains c && !unprintableTable.contains c

/-- A character between quotes. -/
def escape (c : Char) : List Char :=
  match c with
  | '"' => ['\\', '"']
  | '\\' => ['\\', '\\']
  | '\n' => ['\\', 'n']
  | '\r' => ['\\', 'r']
  | '\t' => ['\\', 't']
  | '\x00' => ['\\', '0']
  | c =>
    if isShown c then [c] else '\\' :: 'u' :: '\x7b' :: hexDigits c.toNat ++ ['\x7d']

/-- **A text between quotes.** -/
def quote (text : String) : String :=
  String.ofList ('"' :: text.toList.flatMap escape ++ ['"'])

end RecordPlan.Text
