import RecordPlan.Text.Hex

/-!
# MAC addresses

A MAC address is 48 bits, written with twelve hexadecimal digits: in
pairs with colons or with hyphens between them, or in fours with dots.
`Mac.ofText?` accepts all three forms, `Mac.text` writes the first in
lower case.

A host with a MAC address has a default **interface identifier**, the
lower half of its IPv6 addresses: the two halves of the MAC address around
`fffe`, with the bit turned over that says the MAC address was assigned by
its maker.
-/

namespace RecordPlan

/-- A MAC address. -/
structure Mac where
  /-- The 48 bits, the first digit of the text highest. -/
  bits : BitVec 48
  deriving DecidableEq

namespace Mac

/-- The digits of a text that consists of `count` groups of `size`
hexadecimal digits with separators between them. -/
def digits? (separator : Char) (count size : Nat) (text : List Char) :
    Option (List Char) :=
  let groups := text.splitOn separator
  if groups.length = count ∧ groups.all (fun g => g.length == size && g.all Text.isHexDigit)
  then some groups.flatten
  else none

/-- **The MAC address that a text denotes.** -/
def ofText? (text : List Char) : Option Mac :=
  (digits? ':' 6 2 text <|> digits? '-' 6 2 text <|> digits? '.' 3 4 text).map
    fun digits => ⟨BitVec.ofNat 48 (Text.hexNumber digits)⟩

/-- The six bytes of a MAC address. -/
def bytes (m : Mac) : List (BitVec 8) :=
  [m.bits.extractLsb' 40 8, m.bits.extractLsb' 32 8, m.bits.extractLsb' 24 8,
    m.bits.extractLsb' 16 8, m.bits.extractLsb' 8 8, m.bits.extractLsb' 0 8]

/-- The two digits of a byte. -/
def pair (b : BitVec 8) : List Char :=
  [Nat.digitChar (b.toNat / 16), Nat.digitChar (b.toNat % 16)]

/-- **The text of a MAC address.** -/
def text (m : Mac) : List Char := List.intercalate [':'] (m.bytes.map pair)

/-- The interface identifier of a host. -/
def interfaceId (m : Mac) : BitVec 64 :=
  (m.bits.extractLsb' 24 24 ^^^ 0x020000#24) ++ 0xFFFE#16 ++ m.bits.extractLsb' 0 24

end Mac

end RecordPlan
