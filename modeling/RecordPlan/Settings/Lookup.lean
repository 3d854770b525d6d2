import RecordPlan.Settings.Basic
import RecordPlan.Text.Decimal

/-!
# Settings from key and value

Settings are looked up one by one, each under its own key. A setting that
is missing keeps its default, and so do a prefix length and an expression
that are blank. The prefix length is a decimal number, possibly with a
plus sign, and may be surrounded by white space; it is the only setting
whose value is read at once, and the only reason for a failure.
-/

namespace RecordPlan

/-- The values that can be looked up. -/
abbrev Lookup := String → Option (List UInt8)

/-- The prefix length that a text denotes, without a limit other than that
of a byte. -/
def prefixLenOfText? (text : List Char) : Option UInt8 := Text.readByte? (Text.withoutPlus text)

/-- The prefix length that a value denotes. -/
def RawValue.prefixLen (v : RawValue) : Except SettingsError UInt8 :=
  let number := match Text.Utf8.decode v.bytes with
    | .ok text => prefixLenOfText? (Text.trim text)
    | .error _ => none
  match number with
  | some n => .ok n
  | none =>
    let shown := String.ofList (Text.trim (Text.Utf8.decodeLossy v.bytes))
    .error (.config (.notNumber shown))

namespace Settings

/-- A value that is not left out. -/
def present? (lookup : Lookup) (key : String) : Option RawValue :=
  ((lookup key).map RawValue.mk).filter (!·.isBlank)

/-- **The settings that can be looked up.** -/
def ofLookup (lookup : Lookup) : Except SettingsError Settings := do
  let raw (key : String) : RawValue := ((lookup key).map RawValue.mk).getD .empty
  let prefixLen ← match present? lookup prefixLenKey with
    | some v => v.prefixLen
    | none => .ok default.prefixLen
  return {
    domains := raw domainsKey
    ip4Domains := raw ip4DomainsKey
    ip6Domains := raw ip6DomainsKey
    prefixLen
    proxied := (present? lookup proxiedKey).getD default.proxied }

/-- The settings depend on what is found under their own keys alone. -/
theorem ofLookup_congr {lookup lookup' : Lookup}
    (same : ∀ key ∈ [domainsKey, ip4DomainsKey, ip6DomainsKey, prefixLenKey, proxiedKey],
      lookup key = lookup' key) : ofLookup lookup = ofLookup lookup' := by
  simp only [List.forall_mem_cons] at same
  obtain ⟨domains, ip4, ip6, prefixLen, proxied, -⟩ := same
  simp only [ofLookup, present?, domains, ip4, ip6, prefixLen, proxied]

end Settings

end RecordPlan
