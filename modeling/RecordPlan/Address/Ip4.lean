import RecordPlan.Text.Decimal

/-!
# IPv4 addresses as text

An IPv4 address is written as four decimal numbers with dots between
them, each from 0 to 255 and without leading zeros. There is one such
text for each address.
-/

namespace RecordPlan

/-- An IPv4 address. -/
structure Ip4 where
  /-- The 32 bits, the first number of the text highest. -/
  bits : BitVec 32
  deriving DecidableEq

namespace Ip4

/-- The four numbers of an address. -/
def octets (a : Ip4) : List (BitVec 8) :=
  [a.bits.extractLsb' 24 8, a.bits.extractLsb' 16 8, a.bits.extractLsb' 8 8,
    a.bits.extractLsb' 0 8]

/-- The text of an address. -/
def text (a : Ip4) : List Char :=
  List.intercalate ['.'] (a.octets.map fun o => Text.decimalDigits o.toNat)

/-- The number that one part of a text denotes. -/
def octet? (part : List Char) : Option (BitVec 8) :=
  if part.length ≤ 3 ∧ (part.head? = some '0' → part = ['0']) then
    (Text.readDecimal? part).bind fun n =>
      if n < 256 then some (BitVec.ofNat 8 n) else none
  else none

/-- **The address that a text denotes.** -/
def ofText? (text : List Char) : Option Ip4 :=
  match (text.splitOn '.').mapM octet? with
  | some [a, b, c, d] => some ⟨a ++ b ++ c ++ d⟩
  | _ => none

end Ip4

end RecordPlan
