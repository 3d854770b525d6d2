import RecordPlan.Json.Lexical

/-!
# Reading JSON: numbers

A **numeral** is a number as it is written. One that is a natural number
is read exactly; any other matters only for its size, since a number too
large for double precision is a flaw of the text, however well-formed.

The size is judged as a reader of doubles would: from the digits as far as
they fit 64 bits, and a power of ten, both rounded to 53 bits before they
are multiplied.
-/

namespace RecordPlan.Json

/-- A number as it is written. -/
structure Numeral where
  /-- Whether there is a minus sign. -/
  negative : Bool
  /-- The digits before the point. -/
  whole : List Char
  /-- The digits after the point; none without a point. -/
  fraction : List Char
  /-- The exponent with its sign. -/
  exponent : Option Int

/-! ## The shape of numerals -/

/-- Reads one or more digits; `atEnd` is said of a text that ends before
them. -/
def digits (atEnd : Flaw) : (cs : List Char) → Except Flaw (List Char × Shorter cs)
  | [] => .error atEnd
  | c :: rest =>
    if c.isDigit then
      .ok (c :: rest.takeWhile Char.isDigit, (NoLonger.dropWhile Char.isDigit rest).cons c)
    else .error .malformed

/-- Reads the digits before the point: a zero is followed by no other
digit. -/
def wholeDigits (atEnd : Flaw) (cs : List Char) : Except Flaw (List Char × Shorter cs) := do
  let (ds, rest) ← digits atEnd cs
  match ds with
  | '0' :: _ :: _ => throw .malformed
  | _ => return (ds, rest)

/-- Reads a point and digits, if there is a point. -/
def fractionDigits (atEnd : Flaw) : (cs : List Char) → Except Flaw (List Char × NoLonger cs)
  | '.' :: rest => do
    let (ds, rest) ← digits atEnd rest
    return (ds, (rest.cons _).toNoLonger)
  | cs => .ok ([], .all cs)

/-- Reads a sign and digits. -/
def signedDigits (atEnd : Flaw) : (cs : List Char) → Except Flaw (Int × Shorter cs)
  | '+' :: rest => do
    let (ds, rest) ← digits atEnd rest
    return (Int.ofNat (Nat.ofDigitChars 10 ds 0), rest.cons _)
  | '-' :: rest => do
    let (ds, rest) ← digits atEnd rest
    return (-Int.ofNat (Nat.ofDigitChars 10 ds 0), rest.cons _)
  | cs => do
    let (ds, rest) ← digits atEnd cs
    return (Int.ofNat (Nat.ofDigitChars 10 ds 0), rest)

/-- Reads an exponent, if there is one. -/
def exponentDigits (atEnd : Flaw) : (cs : List Char) → Except Flaw (Option Int × NoLonger cs)
  | c :: rest =>
    if c = 'e' ∨ c = 'E' then do
      let (n, rest) ← signedDigits atEnd rest
      return (some n, (rest.cons _).toNoLonger)
    else .ok (none, .all (c :: rest))
  | [] => .ok (none, .all [])

/-- Reads a numeral without its sign. -/
def unsignedNumeral (atEnd : Flaw) (negative : Bool) (cs : List Char) :
    Except Flaw (Numeral × Shorter cs) := do
  let (whole, rest₁) ← wholeDigits atEnd cs
  let (fraction, rest₂) ← fractionDigits atEnd rest₁.1
  let (exponent, rest₃) ← exponentDigits atEnd rest₂.1
  return (⟨negative, whole, fraction, exponent⟩, (rest₁.transLe rest₂).transLe rest₃)

/-- **Reads a numeral**; `atEnd` is said of a text that ends inside. -/
def numeral (atEnd : Flaw) : (cs : List Char) → Except Flaw (Numeral × Shorter cs)
  | '-' :: rest => do
    let (n, rest) ← unsignedNumeral atEnd true rest
    return (n, rest.cons _)
  | cs => unsignedNumeral atEnd false cs

/-! ## The size of numerals -/

/-- The greatest number of 64 bits. -/
def maxWord : Nat := 0xFFFFFFFFFFFFFFFF

/-- Takes up digits before the point: a digit that does not fit, and all
after it, only raise the exponent. -/
def takeWhole : Nat × Int → List Char → Nat × Int
  | acc, [] => acc
  | (n, e), c :: rest =>
    let next := 10 * n + (c.toNat - '0'.toNat)
    if maxWord < next then (n, e + 1 + rest.length) else takeWhole (next, e) rest

/-- Takes up digits after the point, as far as they fit. -/
def takeFraction : Nat × Int → List Char → Nat × Int
  | acc, [] => acc
  | (n, e), c :: rest =>
    let next := 10 * n + (c.toNat - '0'.toNat)
    if maxWord < next then (n, e) else takeFraction (next, e - 1) rest

/-- A number rounded to 53 bits, a half to the even neighbour. -/
def roundTo53 (n : Nat) : Nat :=
  let unit := Nat.pow 2 (n.log2 + 1 - 53)
  let low := n % unit
  let down := n / unit
  if 2 * low < unit ∨ (2 * low = unit ∧ down % 2 = 0) then down * unit else (down + 1) * unit

/-- What is too large for double precision, by rounding up at least. -/
def doubleBound : Nat := Nat.pow 2 1024 - Nat.pow 2 970

/-- Whether a number times a power of ten is too large for double
precision. -/
def isTooLarge (n : Nat) (e : Int) : Bool :=
  match e with
  | .negSucc _ => false
  | .ofNat e =>
    if 308 < e then n ≠ 0 else doubleBound ≤ roundTo53 n * roundTo53 (Nat.pow 10 e)

namespace Numeral

/-- Whether a numeral is too large for double precision. -/
def isTooLarge (n : Numeral) : Bool :=
  let (digits, e) := takeFraction (takeWhole (0, 0) n.whole) n.fraction
  Json.isTooLarge digits (e + n.exponent.getD 0)

/-- The natural number that a numeral is written as. -/
def nat? (n : Numeral) : Option Nat :=
  if n.negative = false ∧ n.fraction = [] ∧ n.exponent = none then
    some (Nat.ofDigitChars 10 n.whole 0)
  else none

end Numeral

end RecordPlan.Json
