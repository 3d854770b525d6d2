import RecordPlan.Address.Ip4
import RecordPlan.Text.Hex

/-!
# IPv6 addresses as text

An IPv6 address is eight groups of 16 bits. It is written as the groups
in hexadecimal with colons between them, where `::` may stand, once, for
one or more groups of zero, and an IPv4 address for the last two groups.

`Ip6.ofText?` accepts every such text. `Ip6.text` writes one of them: the
first of the longest runs of two or more groups of zero becomes `::`, and
only an address that stands for an IPv4 address – five groups of zero and
one of ones before it – ends in the form of that address.
-/

namespace RecordPlan

/-- An IPv6 address. -/
structure Ip6 where
  /-- The 128 bits, the first group of the text highest. -/
  bits : BitVec 128
  deriving DecidableEq

namespace Ip6

/-- The eight groups of an address. -/
def groups (a : Ip6) : List (BitVec 16) :=
  [a.bits.extractLsb' 112 16, a.bits.extractLsb' 96 16, a.bits.extractLsb' 80 16,
    a.bits.extractLsb' 64 16, a.bits.extractLsb' 48 16, a.bits.extractLsb' 32 16,
    a.bits.extractLsb' 16 16, a.bits.extractLsb' 0 16]

/-- The address of eight groups. -/
def ofGroups? : List (BitVec 16) → Option Ip6
  | [a, b, c, d, e, f, g, h] => some ⟨a ++ b ++ c ++ d ++ e ++ f ++ g ++ h⟩
  | _ => none

/-! ## Reading -/

/-- The group that one to four hexadecimal digits denote. -/
def group? (part : List Char) : Option (BitVec 16) :=
  if part ≠ [] ∧ part.length ≤ 4 ∧ part.all Text.isHexDigit then
    some (BitVec.ofNat 16 (Text.hexNumber part))
  else none

/-- The groups that the parts of a text denote, where the last part may be
an IPv4 address. -/
def groupsOfParts? : List (List Char) → Option (List (BitVec 16))
  | [] => some []
  | [last] =>
    match Ip4.ofText? last with
    | some a => some [a.bits.extractLsb' 16 16, a.bits.extractLsb' 0 16]
    | none => (group? last).map fun g => [g]
  | part :: rest => do return (← group? part) :: (← groupsOfParts? rest)

/-- The parts between the colons of a text; none at all if it is empty. -/
def parts (text : List Char) : List (List Char) :=
  if text = [] then [] else text.splitOn ':'

/-- The text before the first `::` and the text after it. -/
def splitGap? : List Char → Option (List Char × List Char)
  | [] => none
  | c :: rest =>
    match c, rest with
    | ':', ':' :: after => some ([], after)
    | _, _ => (splitGap? rest).map fun (before, after) => (c :: before, after)

/-- **The address that a text denotes.** -/
def ofText? (text : List Char) : Option Ip6 :=
  match splitGap? text with
  | none => (groupsOfParts? (text.splitOn ':')).bind ofGroups?
  | some (before, after) => do
    let head ← (parts before).mapM group?
    let tail ← groupsOfParts? (parts after)
    if head.length + tail.length < 8 then
      ofGroups? (head ++ List.replicate (8 - head.length - tail.length) 0 ++ tail)
    else none

/-! ## Writing -/

/-- The text of some groups. -/
def textOfGroups (gs : List (BitVec 16)) : List Char :=
  List.intercalate [':'] (gs.map fun g => Text.hexDigits g.toNat)

/-- Where the first of the longest runs of zero begins, and its length. -/
def longestZeros : List (BitVec 16) → Nat × Nat
  | [] => (0, 0)
  | g :: rest =>
    let here := ((g :: rest).takeWhile (· == 0)).length
    let (place, length) := longestZeros rest
    if here < length then (place + 1, length) else (0, here)

/-- The IPv4 address that an address stands for, if it stands for one. -/
def mappedIp4? (a : Ip6) : Option Ip4 :=
  if a.bits.extractLsb' 32 96 = 0xFFFF then some ⟨a.bits.extractLsb' 0 32⟩ else none

/-- **The text of an address.** -/
def text (a : Ip6) : List Char :=
  match a.mappedIp4? with
  | some v4 => ':' :: ':' :: 'f' :: 'f' :: 'f' :: 'f' :: ':' :: v4.text
  | none =>
    let (place, length) := longestZeros a.groups
    if 2 ≤ length then
      textOfGroups (a.groups.take place) ++ ':' :: ':' ::
        textOfGroups (a.groups.drop (place + length))
    else textOfGroups a.groups

end Ip6

end RecordPlan
