/-!
# Decimal numbers

Numbers are written without leading zeros and read with any number of
them. A number that goes into a byte is read as it is, however many digits
it has, and then compared with what a byte can hold.
-/

namespace RecordPlan.Text

/-- The decimal digits of a number. -/
def decimalDigits (n : Nat) : List Char := Nat.toDigits 10 n

/-- The number that a text of one or more decimal digits denotes. -/
def readDecimal? (text : List Char) : Option Nat :=
  if text ≠ [] ∧ text.all Char.isDigit then some (Nat.ofDigitChars 10 text 0) else none

/-- The number that a text of decimal digits denotes, if a byte can hold
it. -/
def readByte? (text : List Char) : Option UInt8 :=
  (readDecimal? text).bind fun n => if n < 256 then some (UInt8.ofNat n) else none

/-- A text without the plus sign in front of it, if there is one. -/
def withoutPlus : List Char → List Char
  | '+' :: text => text
  | text => text

/-- What is written is read back. -/
theorem readDecimal?_decimalDigits (n : Nat) : readDecimal? (decimalDigits n) = some n := by
  have digits : (Nat.toDigits 10 n).all Char.isDigit = true :=
    List.all_eq_true.2 fun _ h => Nat.isDigit_of_mem_toDigits (by decide) (by decide) h
  simp [readDecimal?, decimalDigits, Nat.toDigits_ne_nil, digits,
    Nat.ofDigitChars_ten_toDigits]

end RecordPlan.Text
