import RecordPlan.Text.Hex
import RecordPlan.Text.Rest

/-!
# Reading JSON: strings and words

JSON is read from front to back, and the first flaw decides what is said
about the text: that it is **malformed**, that it **ends too early**, or
that it is well-formed so far but **unsuitable** for what is to be read.

A string that is read for its text may use escapes for single characters
and, in pairs, for those beyond the first 65536. A string that is only
skipped is not asked that much: an escape of half a pair passes.
-/

namespace RecordPlan.Json

/-- What is first wrong with a JSON text. -/
inductive Flaw where
  /-- The text cannot be continued to JSON. -/
  | malformed
  /-- The text is well-formed so far, but not what is wanted. -/
  | unsuitable
  /-- The text ends too early. -/
  | endsEarly
  deriving DecidableEq

/-- Whether a character may stand anywhere between tokens. -/
def isBlank (c : Char) : Bool := c == ' ' || c == '\n' || c == '\t' || c == '\r'

/-- The first character that is not blank, and what follows it. -/
def next? (cs : List Char) : Option (Char × Shorter cs) :=
  match NoLonger.dropWhile isBlank cs with
  | ⟨[], _⟩ => none
  | ⟨c :: rest, h⟩ => some (c, ⟨rest, h⟩)

/-- Reads four hexadecimal digits. Too few bytes for them are an early
end. -/
def fourDigits : (cs : List Char) → Except Flaw (Nat × Shorter cs)
  | a :: b :: c :: d :: rest =>
    if [a, b, c, d].all Text.isHexDigit then
      .ok (Text.hexNumber [a, b, c, d], (((Shorter.tail d rest).cons c).cons b).cons a)
    else .error .malformed
  | cs => .error (if (String.ofList cs).utf8ByteSize < 4 then .endsEarly else .malformed)

/-- The character that a single letter after a backslash stands for. -/
def simpleEscape? : Char → Option Char
  | '"' => some '"'
  | '\\' => some '\\'
  | '/' => some '/'
  | 'b' => some '\x08'
  | 'f' => some '\x0c'
  | 'n' => some '\n'
  | 'r' => some '\r'
  | 't' => some '\t'
  | _ => none

/-- Reads `\u` and four digits. -/
def secondHalf : (cs : List Char) → Except Flaw (Nat × Shorter cs)
  | [] => .error .endsEarly
  | '\\' :: [] => .error .endsEarly
  | '\\' :: 'u' :: rest => do
    let (n, rest) ← fourDigits rest
    return (n, (rest.cons _).cons _)
  | _ => .error .malformed

/-- Reads the digits of an escape, and those of the second half if they
are the first half of a pair. -/
def escapedCode (cs : List Char) : Except Flaw (Char × Shorter cs) := do
  let (n, rest₁) ← fourDigits cs
  if n < 0xD800 ∨ 0xDFFF < n then return (Char.ofNat n, rest₁)
  else if 0xDC00 ≤ n then throw .malformed
  else
    let (m, rest₂) ← secondHalf rest₁.1
    if m < 0xDC00 ∨ 0xDFFF < m then throw .malformed
    else
      return (Char.ofNat (0x10000 + (n - 0xD800) * 0x400 + (m - 0xDC00)), rest₁.trans rest₂)

/-- Reads what follows a backslash. -/
def escaped : (cs : List Char) → Except Flaw (Char × Shorter cs)
  | [] => .error .endsEarly
  | 'u' :: rest => do
    let (c, rest) ← escapedCode rest
    return (c, rest.cons _)
  | c :: rest =>
    match simpleEscape? c with
    | some d => .ok (d, .tail c rest)
    | none => .error .malformed

/-- **Reads a string**, its opening quote aside. -/
def string : (cs : List Char) → Except Flaw (List Char × Shorter cs)
  | [] => .error .endsEarly
  | '"' :: rest => .ok ([], .tail _ rest)
  | '\\' :: rest => do
    let (c, rest₁) ← escaped rest
    let (text, rest₂) ← string rest₁.1
    return (c :: text, (rest₁.trans rest₂).cons _)
  | c :: rest =>
    if c.toNat < 0x20 then .error .malformed
    else do
      let (text, rest) ← string rest
      return (c :: text, rest.cons _)
termination_by cs => cs.length
decreasing_by all_goals grind

/-- Skips what follows a backslash. -/
def skipEscaped : (cs : List Char) → Except Flaw (Shorter cs)
  | [] => .error .endsEarly
  | 'u' :: rest => do
    let (_, rest) ← fourDigits rest
    return rest.cons _
  | c :: rest =>
    match simpleEscape? c with
    | some _ => .ok (.tail c rest)
    | none => .error .malformed

/-- Skips a string, its opening quote aside. -/
def skipString : (cs : List Char) → Except Flaw (Shorter cs)
  | [] => .error .endsEarly
  | '"' :: rest => .ok (.tail _ rest)
  | '\\' :: rest => do
    let rest₁ ← skipEscaped rest
    let rest₂ ← skipString rest₁.1
    return (rest₁.trans rest₂).cons _
  | c :: rest =>
    if c.toNat < 0x20 then .error .malformed
    else do
      let rest ← skipString rest
      return rest.cons _
termination_by cs => cs.length
decreasing_by all_goals grind

/-- Reads the rest of a word. -/
def word : List Char → (cs : List Char) → Except Flaw (NoLonger cs)
  | [], cs => .ok (.all cs)
  | _ :: _, [] => .error .endsEarly
  | expected :: more, c :: rest =>
    if c = expected then do
      let rest ← word more rest
      return (rest.cons _).toNoLonger
    else .error .malformed

end RecordPlan.Json
