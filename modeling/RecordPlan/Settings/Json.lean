import RecordPlan.Json.Skip
import RecordPlan.Json.Value
import RecordPlan.Settings.Basic

/-!
# Settings as JSON

Settings are written as an object with a member for each of them, and
read from such an object or from an array of their values in the same
order. Members may come in any order and may be missing, and so may the
values at the end of an array; what is missing keeps its default. Members
that are not known are skipped, but a known one must not come twice.

The text is read strictly from front to back, so that of several flaws the
first one is named.
-/

namespace RecordPlan.Settings

open Json (Flaw next?)

/-! ## Writing -/

/-- The settings as a JSON value. -/
def toJson (s : Settings) : Json.Value :=
  .object [
    ("domains", .text s.domains.shown),
    ("ip4_domains", .text s.ip4Domains.shown),
    ("ip6_domains", .text s.ip6Domains.shown),
    ("ip6_prefix_len", .nat s.prefixLen.toNat),
    ("proxied", .text s.proxied.shown)]

/-! ## Reading members -/

/-- A member of the object. -/
inductive Field where
  /-- The domains for both families. -/
  | domains
  /-- The domains for IPv4. -/
  | ip4Domains
  /-- The domains for IPv6. -/
  | ip6Domains
  /-- The prefix length. -/
  | prefixLen
  /-- The expression. -/
  | proxied
  deriving DecidableEq

namespace Field

/-- All members, in the order of an array. -/
def all : List Field := [domains, ip4Domains, ip6Domains, prefixLen, proxied]

/-- The key of a member. -/
def key : Field → String
  | domains => "domains"
  | ip4Domains => "ip4_domains"
  | ip6Domains => "ip6_domains"
  | prefixLen => "ip6_prefix_len"
  | proxied => "proxied"

/-- The member with a key. -/
def ofKey? (key : List Char) : Option Field := all.find? (·.key.toList = key)

/-- The settings with the value of a member replaced by a text. -/
def setText (f : Field) (text : List Char) (s : Settings) : Settings :=
  let value : RawValue := ⟨Text.Utf8.encode text⟩
  match f with
  | domains => { s with domains := value }
  | ip4Domains => { s with ip4Domains := value }
  | ip6Domains => { s with ip6Domains := value }
  | prefixLen => s
  | proxied => { s with proxied := value }

end Field

/-- The flaw of a value that is not of the wanted kind and begins with a
character: it is unsuitable if it is well-formed, or as soon as it turns
out to be an array or an object. -/
def flawOfOther (c : Char) (rest : List Char) : Flaw :=
  let outcome : Except Flaw Unit :=
    match c with
    | '[' | '\x7b' => .ok ()
    | '"' => do let _ ← Json.string rest
    | 'n' => do let _ ← Json.word ['u', 'l', 'l'] rest
    | 't' => do let _ ← Json.word ['r', 'u', 'e'] rest
    | 'f' => do let _ ← Json.word ['a', 'l', 's', 'e'] rest
    | c => do
      let (n, _) ← Json.numeral .endsEarly (c :: rest)
      if n.isTooLarge then throw .malformed
  match outcome with
  | .ok () => .unsuitable
  | .error flaw => flaw

/-- Reads a string. -/
def stringValue (cs : List Char) : Except Flaw (List Char × Shorter cs) :=
  match next? cs with
  | none => .error .endsEarly
  | some ('"', rest) => do
    let (text, rest₁) ← Json.string rest.1
    return (text, rest.trans rest₁)
  | some (c, rest) => .error (flawOfOther c rest.1)

/-- Reads a number of one byte. -/
def byteValue (cs : List Char) : Except Flaw (UInt8 × Shorter cs) :=
  match next? cs with
  | none => .error .endsEarly
  | some (c, rest) =>
    if c = '-' ∨ c.isDigit then do
      let (n, rest₁) ← Json.numeral .endsEarly (c :: rest.1)
      match n.nat? with
      | some value =>
        if value < 256 then return (UInt8.ofNat value, rest.transCons rest₁)
        else throw (if n.isTooLarge then .malformed else .unsuitable)
      | none => throw (if n.isTooLarge then .malformed else .unsuitable)
    else .error (flawOfOther c rest.1)

/-- Reads the value of a member into the settings. -/
def fieldValue (f : Field) (s : Settings) (cs : List Char) :
    Except Flaw (Settings × Shorter cs) :=
  match f with
  | .prefixLen => do
    let (n, rest) ← byteValue cs
    return ({ s with prefixLen := n }, rest)
  | f => do
    let (text, rest) ← stringValue cs
    return (f.setText text s, rest)

/-! ## Reading objects and arrays -/

/-- Where the next key of an object is: it stands behind its opening
quote, or the object has ended. -/
inductive NextKey (cs : List Char) where
  /-- The characters after the opening quote of a key. -/
  | key (rest : Shorter cs)
  /-- The characters after the object. -/
  | none (rest : Shorter cs)

/-- Finds the next key of an object; the first one has no comma before
it. -/
def nextKey (isFirst : Bool) (cs : List Char) : Except Flaw (NextKey cs) :=
  match next? cs with
  | none => .error .endsEarly
  | some ('\x7d', rest) => .ok (.none rest)
  | some ('"', rest) => if isFirst then .ok (.key rest) else .error .malformed
  | some (',', rest) =>
    if isFirst then .error .malformed
    else match next? rest.1 with
      | none => .error .endsEarly
      | some ('"', rest₁) => .ok (.key (rest.trans rest₁))
      | _ => .error .malformed
  | _ => .error .malformed

/-- Reads the members of an object after some that have been read. -/
def members (isFirst : Bool) (seen : List Field) (s : Settings) (cs : List Char) :
    Except Flaw (Settings × List Char) := do
  match ← nextKey isFirst cs with
  | .none rest => return (s, rest.1)
  | .key rest =>
    let (key, rest₁) ← Json.string rest.1
    match Field.ofKey? key with
    | some f =>
      if f ∈ seen then throw .unsuitable
      let rest₂ ← Json.colon rest₁.1
      let (s, rest₃) ← fieldValue f s rest₂.1
      members false (f :: seen) s rest₃.1
    | none =>
      let rest₂ ← Json.colon rest₁.1
      let rest₃ ← Json.skipValue [] rest₂.1
      members false seen s rest₃.1
termination_by cs.length
decreasing_by all_goals grind

/-- Reads the end of an array. -/
def arrayEnd (cs : List Char) : Except Flaw (List Char) :=
  match next? cs with
  | none => .error .endsEarly
  | some (']', rest) => .ok rest.1
  | _ => .error .malformed

/-- Insists that an item follows a comma of an array. -/
def itemAfterComma (cs : List Char) : Except Flaw (List Char) :=
  match next? cs with
  | none => .error .endsEarly
  | some (']', _) => .error .malformed
  | _ => .ok cs

/-- Reads the items of an array as the values of some members. -/
def items (isFirst : Bool) (s : Settings) : List Field → List Char →
    Except Flaw (Settings × List Char)
  | [], cs => .ok (s, cs)
  | f :: fields, cs =>
    match next? cs with
    | none => .error .endsEarly
    | some (']', _) => .ok (s, cs)
    | some (c, rest) => do
      let item ←
        if isFirst then .ok cs
        else if c = ',' then itemAfterComma rest.1
        else .error .malformed
      let (s, rest) ← fieldValue f s item
      items false s fields rest.1

/-- Reads an object or an array of settings. -/
def value (cs : List Char) : Except Flaw (Settings × List Char) :=
  match next? cs with
  | none => .error .endsEarly
  | some ('[', rest) => do
    let (s, rest) ← items true default Field.all rest.1
    return (s, ← arrayEnd rest)
  | some ('\x7b', rest) => members true [] default rest.1
  | some (c, rest) => .error (flawOfOther c rest.1)

/-- **Reads settings from a JSON text**, or names its first flaw. -/
def ofJson (text : List Char) : Except Flaw Settings := do
  let (s, rest) ← value text
  match next? rest with
  | none => return s
  | some _ => throw .malformed

end RecordPlan.Settings
