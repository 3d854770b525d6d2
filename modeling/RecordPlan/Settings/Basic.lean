import RecordPlan.Plan
import RecordPlan.Setting.Reading

/-!
# Settings

The settings are what an operator provides: three lists of domains, an
expression, and a prefix length. All but the last are kept as the bytes
they came as until they are resolved.

`Settings.resolve` turns settings into a plan. It checks the prefix
length, reads the lists, merges them and reads the expression, in this
order, and stops at the first of these that fails.
-/

namespace RecordPlan

/-- The value of a setting as it was provided. -/
structure RawValue where
  /-- The bytes of the value. -/
  bytes : List UInt8
  deriving DecidableEq

namespace RawValue

/-- The value that has no bytes. -/
def empty : RawValue := ⟨[]⟩

/-- The value that a text is encoded as. -/
def ofString (text : String) : RawValue := ⟨Text.Utf8.encode text.toList⟩

/-- Whether a value counts as left out: it holds no more than blanks. -/
def isBlank (v : RawValue) : Bool := v.bytes.all Text.isAsciiBlank

/-- A value as it is shown. -/
def shown (v : RawValue) : String := String.ofList (Text.Utf8.decodeLossy v.bytes)

end RawValue

/-- **The settings.** -/
structure Settings where
  /-- The domains for both families. -/
  domains : RawValue
  /-- The domains for IPv4. -/
  ip4Domains : RawValue
  /-- The domains for IPv6, with host IDs. -/
  ip6Domains : RawValue
  /-- The prefix length that host IDs are read against. -/
  prefixLen : UInt8
  /-- The expression that selects proxied domains. -/
  proxied : RawValue
  deriving DecidableEq

/-- The setting for domains of both families. -/
def domainsKey : String := "DDNS_DOMAINS"

/-- The setting for domains of IPv4. -/
def ip4DomainsKey : String := "DDNS_IP4_DOMAINS"

/-- The setting for domains of IPv6. -/
def ip6DomainsKey : String := "DDNS_IP6_DOMAINS"

/-- The setting for the expression. -/
def proxiedKey : String := "DDNS_PROXIED"

namespace Settings

/-- No domains, networks of 64 bits, and nothing proxied. -/
def default : Settings :=
  { domains := .empty
    ip4Domains := .empty
    ip6Domains := .empty
    prefixLen := 64
    proxied := .ofString "false" }

instance : Inhabited Settings := ⟨default⟩

/-- Checks what can be checked without reading a value. -/
def validate (s : Settings) : Except SettingsError Unit :=
  if 128 < s.prefixLen then .error (.config (.tooLong s.prefixLen)) else .ok ()

/-- Writes the error of a result into the journal. -/
def checked {α : Type} (result : Except SettingsError α) : Checked α :=
  match result with
  | .error e => failWith e
  | .ok a => return a

/-- **The plan that settings come to.** -/
def resolve (s : Settings) : Checked Plan := do
  checked s.validate
  let shared ← readDomains domainsKey s.domains.bytes
  let ip4 ← readDomains ip4DomainsKey s.ip4Domains.bytes
  let ip6 ← readEntries ip6DomainsKey s.ip6Domains.bytes s.prefixLen
  let managed ← consolidate { shared, ip4, ip6 }
  let proxied ← readExpression proxiedKey s.proxied.bytes
  return { managed, proxied, prefixLen := s.prefixLen }

end Settings

end RecordPlan
