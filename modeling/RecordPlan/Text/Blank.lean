/-!
# Blanks

Two notions of a blank. Between words and around numbers every character
of Unicode's white space separates (`isBlank`); whether a setting counts
as left out is decided on its bytes, by the five blanks of ASCII alone
(`isAsciiBlank`).
-/

namespace RecordPlan.Text

/-- Whether a character is white space. -/
def isBlank (c : Char) : Bool :=
  let n := c.toNat
  (0x09 ≤ n && n ≤ 0x0D) || n == 0x20 || n == 0x85 || n == 0xA0 || n == 0x1680 ||
    (0x2000 ≤ n && n ≤ 0x200A) || n == 0x2028 || n == 0x2029 || n == 0x202F ||
    n == 0x205F || n == 0x3000

/-- A text without the blanks at its ends. -/
def trim (text : List Char) : List Char :=
  ((text.dropWhile isBlank).reverse.dropWhile isBlank).reverse

/-- Whether a byte is a blank of ASCII: space, tab, line feed, form feed
or carriage return. -/
def isAsciiBlank (b : UInt8) : Bool :=
  b == 0x20 || b == 0x09 || b == 0x0A || b == 0x0C || b == 0x0D

end RecordPlan.Text
