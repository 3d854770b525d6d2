import RecordPlan.Proofs.Json.Lexical
import RecordPlan.Proofs.Settings.PrefixLengthText
import RecordPlan.Proofs.Text.Utf8
import RecordPlan.Settings.Json

/-!
# Settings are loaded as they were written

Settings are written in two ways: as a JSON object, and as values under keys
that can be looked up.

An object is read member by member. A member is read back whatever stands
behind it (`Settings.members_member`), so members that are written one after
another are read back one after another (`Settings.members_compactMembers`),
and in the end there is nothing left of the default settings. JSON is text,
though, and a value may be any bytes: what is read back is every value as it
is **shown** (`Settings.ofJson_toJson`), and this is the value itself if and
only if it is UTF-8 (`Settings.shown_eq_iff`).

Nothing is lost on the way through a lookup, which hands on bytes
(`Settings.IsProvidedBy.ofLookup_eq`). Only a blank expression counts as left
out. The main statement is `Settings.encoded_settings_are_loaded`.
-/

namespace RecordPlan.Settings

open Json (EndsNumeral Leaves compact compactMembers quoted)

variable {s t : Settings} {f : Field} {rest : List Char}

/-! ## Values of members -/

theorem stringValue_quoted (text : String) (rest : List Char) :
    Leaves (stringValue (quoted text ++ rest)) text.toList rest := by
  rw [Json.quoted_append, stringValue]
  exact (Json.string_flatMap_escape text.toList rest).bind fun r hr => Json.leaves_ok _ hr

/-- A byte is read back from its digits. -/
theorem byteValue_toDigits (n : UInt8) (ends : EndsNumeral rest) :
    Leaves (byteValue (Nat.toDigits 10 n.toNat ++ rest)) n rest := by
  have read := Json.numeral_toDigits .endsEarly n.toNat ends
  have value : Json.Numeral.nat? ⟨false, Nat.toDigits 10 n.toNat, [], none⟩ = some n.toNat := by
    rw [Json.Numeral.nat?, if_pos ⟨rfl, rfl, rfl⟩, Nat.ofDigitChars_ten_toDigits]
  obtain ⟨c, ds, eq⟩ := List.exists_cons_of_ne_nil (Nat.toDigits_ne_nil (b := 10) (n := n.toNat))
  have first : c ∈ Nat.toDigits 10 n.toNat := eq ▸ List.mem_cons_self
  have digit : c.isDigit = true := Text.isDigit_of_mem_decimalDigits first
  rw [eq, List.cons_append] at read ⊢
  rw [eq] at value
  rw [byteValue, Json.next?_cons (Json.not_isBlank_of_isDigit digit)]
  dsimp only
  rw [if_pos (.inr digit)]
  refine read.bind fun r hr => ?_
  dsimp only
  rw [value]
  dsimp only
  rw [if_pos n.toNat_lt, UInt8.ofNat_toNat]
  exact Json.leaves_ok _ hr

/-- The value of a member, as it is written. -/
def Field.value (s : Settings) : Field → Json.Value
  | domains => .text s.domains.shown
  | ip4Domains => .text s.ip4Domains.shown
  | ip6Domains => .text s.ip6Domains.shown
  | prefixLen => .nat s.prefixLen.toNat
  | proxied => .text s.proxied.shown

theorem toJson_eq (s : Settings) :
    s.toJson = .object (Field.all.map fun f => (f.key, f.value s)) := rfl

/-- Settings with a member replaced by what is written for it in others. -/
def Field.copy (s t : Settings) : Field → Settings
  | domains => { t with domains := .ofString s.domains.shown }
  | ip4Domains => { t with ip4Domains := .ofString s.ip4Domains.shown }
  | ip6Domains => { t with ip6Domains := .ofString s.ip6Domains.shown }
  | prefixLen => { t with prefixLen := s.prefixLen }
  | proxied => { t with proxied := .ofString s.proxied.shown }

/-- **The value of a member is read back.** -/
theorem fieldValue_compact (s t : Settings) (f : Field) (ends : EndsNumeral rest) :
    Leaves (fieldValue f t (compact (f.value s) ++ rest)) (f.copy s t) rest := by
  cases f with
  | prefixLen =>
    exact (byteValue_toDigits s.prefixLen ends).bind fun r hr => Json.leaves_ok _ hr
  | domains | ip4Domains | ip6Domains | proxied =>
    exact (stringValue_quoted _ rest).bind fun r hr => Json.leaves_ok _ hr

/-! ## Members, one after another -/

theorem ofKey?_key (f : Field) : Field.ofKey? f.key.toList = some f := by
  cases f <;> decide

/-- What stands in front of the key of a member. -/
def separator (isFirst : Bool) : List Char := if isFirst then [] else [',']

theorem nextKey_separator (isFirst : Bool) (rest : List Char) :
    ∃ r : Shorter (separator isFirst ++ '"' :: rest),
      nextKey isFirst (separator isFirst ++ '"' :: rest) = .ok (.key r) ∧ r.1 = rest := by
  cases isFirst with
  | true => exact ⟨_, rfl, rfl⟩
  | false => exact ⟨_, rfl, rfl⟩

theorem colon_cons {cs : List Char} (h : cs = ':' :: rest) :
    ∃ r : Shorter cs, Json.colon cs = .ok r ∧ r.1 = rest := by
  subst h
  exact ⟨_, rfl, rfl⟩

/-- **A member is read back**, and reading goes on behind it. -/
theorem members_member (isFirst : Bool) {seen : List Field} (fresh : f ∉ seen) (s t : Settings)
    (ends : EndsNumeral rest) :
    members isFirst seen t
      (separator isFirst ++ (quoted f.key ++ ':' :: (compact (f.value s) ++ rest))) =
      members false (f :: seen) (f.copy s t) rest := by
  rw [Json.quoted_append]
  obtain ⟨r, next, hr⟩ := nextKey_separator isFirst
    (f.key.toList.flatMap Json.escape ++ '"' :: ':' :: (compact (f.value s) ++ rest))
  rw [members, next]
  show (Json.string r.1 >>= _) = _
  have key := Json.string_flatMap_escape f.key.toList (':' :: (compact (f.value s) ++ rest))
  rw [← hr] at key
  refine key.bind_eq fun r₁ hr₁ => ?_
  obtain ⟨r₂, colon, hr₂⟩ := colon_cons hr₁
  dsimp only
  rw [ofKey?_key]
  dsimp only
  rw [if_neg fresh, colon]
  show (fieldValue f t r₂.1 >>= _) = _
  have value := fieldValue_compact s t f ends
  rw [← hr₂] at value
  refine value.bind_eq fun r₃ hr₃ => ?_
  dsimp only
  rw [hr₃]

theorem endsNumeral_compactMembers (ms : List (String × Json.Value)) (rest : List Char) :
    EndsNumeral (compactMembers ms ++ rest) := by
  intro c hc
  cases ms with
  | nil =>
    rw [compactMembers] at hc
    obtain rfl := Option.some.inj hc
    decide
  | cons m ms =>
    rw [compactMembers] at hc
    obtain rfl := Option.some.inj hc
    decide

/-- **Members are read back one after another**, each into what has come of those
before it, up to the end of the object. -/
theorem members_compactMembers (s : Settings) {fs seen : List Field} (nodup : fs.Nodup)
    (fresh : ∀ f ∈ fs, f ∉ seen) (t : Settings) (rest : List Char) :
    members false seen t (compactMembers (fs.map fun f => (f.key, f.value s)) ++ rest) =
      .ok (fs.foldl (fun t f => f.copy s t) t, rest) := by
  induction fs generalizing seen t with
  | nil =>
    rw [members]
    rfl
  | cons f fs ih =>
    obtain ⟨notLater, nodup⟩ := List.nodup_cons.1 nodup
    have freshLater : ∀ g ∈ fs, g ∉ f :: seen := by
      intro g hg mem
      rcases List.mem_cons.1 mem with rfl | mem
      · exact notLater hg
      · exact fresh g (List.mem_cons_of_mem _ hg) mem
    rw [List.foldl_cons, ← ih nodup freshLater]
    have ends := endsNumeral_compactMembers (fs.map fun f => (f.key, f.value s)) rest
    rw [← members_member false (fresh f List.mem_cons_self) s t ends]
    simp [compactMembers, separator]

/-- **An object of members is read back** into the default settings. -/
theorem value_compact_object (s : Settings) (f : Field) {fs : List Field} (nodup : (f :: fs).Nodup) :
    value (compact (.object ((f :: fs).map fun f => (f.key, f.value s)))) =
      .ok ((f :: fs).foldl (fun t f => f.copy s t) default, []) := by
  obtain ⟨notLater, nodup⟩ := List.nodup_cons.1 nodup
  have fresh : ∀ g ∈ fs, g ∉ [f] := by
    intro g hg mem
    exact notLater (List.mem_singleton.1 mem ▸ hg)
  have ends := endsNumeral_compactMembers (fs.map fun f => (f.key, f.value s)) []
  have text : compact (.object ((f :: fs).map fun f => (f.key, f.value s))) =
      '\x7b' :: (separator true ++ (quoted f.key ++ ':' :: (compact (f.value s) ++
        (compactMembers (fs.map fun f => (f.key, f.value s)) ++ [])))) := by
    simp [compact, separator]
  rw [text, value, Json.next?_cons rfl]
  exact (members_member true List.not_mem_nil s default ends).trans
    (members_compactMembers s nodup fresh _ [])

/-! ## Settings as they are shown -/

/-- The settings with every value as it is shown. -/
def shown (s : Settings) : Settings where
  domains := .ofString s.domains.shown
  ip4Domains := .ofString s.ip4Domains.shown
  ip6Domains := .ofString s.ip6Domains.shown
  prefixLen := s.prefixLen
  proxied := .ofString s.proxied.shown

/-- **What settings are written as in JSON is read back**, every value in the form
in which it is shown. -/
theorem ofJson_toJson (s : Settings) : ofJson s.toJson.toText.toList = .ok s.shown := by
  have nodup : Field.all.Nodup := by decide
  have read := value_compact_object s .domains nodup
  rw [Json.Value.toText, String.toList_ofList, toJson_eq, ofJson, Field.all, read]
  rfl

/-- The values that are kept as bytes. -/
def rawValues (s : Settings) : List RawValue := [s.domains, s.ip4Domains, s.ip6Domains, s.proxied]

theorem ofString_shown_eq_iff {v : RawValue} :
    RawValue.ofString v.shown = v ↔ ∃ text, v.bytes = Text.Utf8.encode text := by
  rw [← Text.Utf8.encode_decodeLossy_eq_iff, RawValue.ofString, RawValue.shown,
    String.toList_ofList]
  exact ⟨fun h => congrArg RawValue.bytes h, fun h => congrArg RawValue.mk h⟩

/-- **Settings are as they are shown** if every value is UTF-8. -/
theorem shown_eq_iff (s : Settings) :
    s.shown = s ↔ ∀ v ∈ s.rawValues, ∃ text, v.bytes = Text.Utf8.encode text := by
  simp only [← ofString_shown_eq_iff]
  constructor
  · intro h
    have domains := congrArg Settings.domains h
    have ip4 := congrArg Settings.ip4Domains h
    have ip6 := congrArg Settings.ip6Domains h
    have proxied := congrArg Settings.proxied h
    simp only [rawValues, List.forall_mem_cons]
    exact ⟨domains, ip4, ip6, proxied, fun _ hv => nomatch hv⟩
  · intro h
    simp only [rawValues, List.forall_mem_cons] at h
    obtain ⟨domains, ip4, ip6, proxied, -⟩ := h
    rw [shown, domains, ip4, ip6, proxied]

/-! ## Looking up -/

/-- A prefix length is read back from its digits. -/
theorem prefixLen_decimalDigits (n : UInt8) :
    RawValue.prefixLen ⟨Text.Utf8.encode (Text.decimalDigits n.toNat)⟩ = .ok n :=
  RawValue.prefixLen_eq_ok_iff.2 ⟨_, rfl, Text.isNumeral_decimalDigits n.toNat⟩

/-- A number does not count as left out. -/
theorem not_isBlank_decimalDigits (n : Nat) :
    RawValue.isBlank ⟨Text.Utf8.encode (Text.decimalDigits n)⟩ = false :=
  (RawValue.prefixLen_of_isNumeral rfl (Text.isNumeral_decimalDigits n)).1

/-- **Whether settings are provided** by what can be looked up: every value under
its key, and the prefix length in decimal digits. -/
structure IsProvidedBy (s : Settings) (lookup : Lookup) : Prop where
  /-- The domains for both families. -/
  domains : lookup domainsKey = some s.domains.bytes
  /-- The domains for IPv4. -/
  ip4Domains : lookup ip4DomainsKey = some s.ip4Domains.bytes
  /-- The domains for IPv6. -/
  ip6Domains : lookup ip6DomainsKey = some s.ip6Domains.bytes
  /-- The prefix length. -/
  prefixLen : lookup prefixLenKey = some (Text.Utf8.encode (Text.decimalDigits s.prefixLen.toNat))
  /-- The expression. -/
  proxied : lookup proxiedKey = some s.proxied.bytes

/-- **Settings that are provided are looked up**, but for a blank expression, which
counts as left out. -/
theorem IsProvidedBy.ofLookup_eq {lookup : Lookup} (h : s.IsProvidedBy lookup) :
    ofLookup lookup =
      .ok { s with proxied := if s.proxied.isBlank then default.proxied else s.proxied } := by
  have prefixLen : present? lookup prefixLenKey =
      some ⟨Text.Utf8.encode (Text.decimalDigits s.prefixLen.toNat)⟩ := by
    rw [present?, h.prefixLen, Option.map_some]
    exact Option.filter_some_pos (by simp [not_isBlank_decimalDigits])
  have proxied : (present? lookup proxiedKey).getD default.proxied =
      if s.proxied.isBlank then default.proxied else s.proxied := by
    rw [present?, h.proxied, Option.map_some, Option.filter_some]
    cases s.proxied.isBlank <;> rfl
  rw [ofLookup, prefixLen]
  dsimp only
  rw [prefixLen_decimalDigits]
  simp only [h.domains, h.ip4Domains, h.ip6Domains, proxied]
  rfl

/-- **Settings are loaded as they were written.** From JSON every value is read as
it is shown, and the settings are the same if and only if every value is UTF-8. From
what can be looked up they are read as they are, whatever the bytes, unless the
expression is blank. -/
theorem encoded_settings_are_loaded (s : Settings) :
    ofJson s.toJson.toText.toList = .ok s.shown ∧
    (s.shown = s ↔ ∀ v ∈ s.rawValues, ∃ text, v.bytes = Text.Utf8.encode text) ∧
    ∀ lookup, s.IsProvidedBy lookup → s.proxied.isBlank = false → ofLookup lookup = .ok s := by
  refine ⟨s.ofJson_toJson, s.shown_eq_iff, fun lookup provided present => ?_⟩
  rw [provided.ofLookup_eq, present]
  rfl

/-- Settings with a byte that begins no character, with characters that are escaped
in JSON, and with a prefix length that no address has. -/
def oddSettings : Settings where
  domains := ⟨[0x61, 0xFF]⟩
  ip4Domains := .ofString "\"\\\n\x01"
  ip6Domains := .empty
  prefixLen := 200
  proxied := .ofString "ü"

/-- Where these settings can be looked up. -/
def oddLookup : Lookup := fun key =>
  [(proxiedKey, [0xC3, 0xBC]), (prefixLenKey, [0x32, 0x30, 0x30]), (ip6DomainsKey, []),
    (ip4DomainsKey, [0x22, 0x5C, 0x0A, 0x01]), (domainsKey, [0x61, 0xFF])].lookup key

/-- They are looked up as they are, and differ from what is loaded from JSON. -/
theorem oddSettings_are_loaded :
    oddSettings.IsProvidedBy oddLookup ∧ oddSettings.proxied.isBlank = false ∧
      ofLookup oddLookup = .ok oddSettings ∧
      ofJson oddSettings.toJson.toText.toList = .ok oddSettings.shown ∧
      oddSettings.shown ≠ oddSettings := by
  obtain ⟨json, -, lookedUp⟩ := encoded_settings_are_loaded oddSettings
  have provided : oddSettings.IsProvidedBy oddLookup := ⟨rfl, rfl, rfl, rfl, rfl⟩
  exact ⟨provided, by decide, lookedUp oddLookup provided (by decide), json, by decide⟩

end RecordPlan.Settings
