import RecordPlan.Proofs.HostId.Text
import RecordPlan.Proofs.Setting.Printing

/-!
# Printed lists of entries are read back

`Entry.print` writes an entry as the name of its domain and its host ID in
brackets, and `Entry.printList` puts entries together with a separator between
them, which is a comma that blanks may follow.

An entry is **readable** for a prefix length if its domain has been parsed and
its host ID fits that length. Readable entries are read back from the text of
their list, with the same host IDs, in the same order and as often as they were
written (`printed_entries_are_read`).
-/

namespace RecordPlan

namespace Entry

/-- **The text of an entry.** -/
def print (e : Entry) : String :=
  match e.hostId with
  | none => e.domain.dnsName
  | some id => e.domain.dnsName ++ "[" ++ id.text ++ "]"

/-- **The text of a list of entries.** -/
def printList (separator : String) (es : List Entry) : String :=
  separator.intercalate (es.map print)

/-- **An entry that can be read** for a prefix length. -/
structure IsReadable (n : UInt8) (e : Entry) : Prop where
  /-- The domain has been parsed. -/
  parsed : e.domain.IsParsed
  /-- The host ID goes with networks of that length, and there are such
  networks. -/
  fits : ∀ id, e.hostId = some id → id.Fits n ∧ n ≤ 128

/-- A comma that blanks may follow. -/
def IsSeparator (separator : String) : Prop :=
  ∃ blanks, separator.toList = ',' :: blanks ∧ ∀ c ∈ blanks, Text.isBlank c = true

/-- The tokens of an entry. -/
def tokens (e : Entry) : List Token :=
  match e.hostId with
  | none => [.word e.domain.dnsName]
  | some id => [.word e.domain.dnsName, .leftBracket, .word id.text, .rightBracket]

/-- The tokens of a list of entries. -/
def listTokens (es : List Entry) : List Token := List.intercalate [.comma] (es.map tokens)

variable {n : UInt8} {e : Entry} {es : List Entry} {separator : String}

/-! ## One entry -/

/-- The text of an entry is that of its tokens. -/
theorem toList_print (e : Entry) : e.print.toList = e.tokens.flatMap (·.text.toList) := by
  unfold print tokens
  cases e.hostId <;> simp [Token.text]

/-- No comma is missing in an entry, nor before what a comma separates from
it. -/
theorem missingCommas_tokens_append (e : Entry) (rest : List Token) :
    Token.missingCommas true (e.tokens ++ .comma :: rest) = Token.missingCommas true rest := by
  unfold tokens
  cases e.hostId <;> rfl

theorem missingCommas_tokens (e : Entry) : Token.missingCommas true e.tokens = [] := by
  unfold tokens
  cases e.hostId <;> rfl

/-- The text of an entry has its tokens. -/
theorem IsReadable.ofText_print (h : e.IsReadable n) :
    Token.ofText e.print.toList = .ok e.tokens := by
  rw [toList_print]
  refine Token.ofText_flatMap_text (fun t ht => ?_) e.missingCommas_tokens
  unfold tokens at ht
  cases hostId : e.hostId with
  | none =>
    rw [hostId] at ht
    obtain rfl := List.mem_singleton.1 ht
    exact h.parsed.isProper_dnsName
  | some id =>
    rw [hostId] at ht
    simp only [List.mem_cons, List.not_mem_nil, or_false] at ht
    rcases ht with rfl | rfl | rfl | rfl
    · exact h.parsed.isProper_dnsName
    · trivial
    · exact id.isProper_text
    · trivial

/-- The tokens of an entry list it. -/
theorem IsReadable.listing (h : e.IsReadable n) : Listing (some n) e.tokens [e] := by
  obtain ⟨d, hostId⟩ := e
  have name := h.parsed.parse_dnsName
  cases hostId with
  | none => exact .domain name .nil
  | some id =>
    obtain ⟨fits, le⟩ := h.fits id rfl
    exact .withHostId rfl name (HostId.parse_text fits le) .nil

/-! ## Lists of entries -/

theorem listTokens_cons_cons (e f : Entry) (es : List Entry) :
    listTokens (e :: f :: es) = e.tokens ++ .comma :: listTokens (f :: es) := by
  rw [listTokens, List.map_cons, List.map_cons, List.intercalate_cons_cons, List.append_assoc]
  rfl

theorem listTokens_singleton (e : Entry) : listTokens [e] = e.tokens := List.intercalate_singleton

theorem missingCommas_listTokens (es : List Entry) :
    Token.missingCommas true (listTokens es) = [] := by
  induction es with
  | nil => rfl
  | cons e es ih =>
    cases es with
    | nil => rw [listTokens_singleton, missingCommas_tokens]
    | cons f es => rw [listTokens_cons_cons, missingCommas_tokens_append, ih]

/-- **The tokens of a list of entries list them.** -/
theorem listing_listTokens (readable : ∀ e ∈ es, e.IsReadable n) :
    Listing (some n) (listTokens es) es := by
  induction es with
  | nil => exact .nil
  | cons e es ih =>
    have first := (readable e List.mem_cons_self).listing
    have list := ih fun f hf => readable f (List.mem_cons_of_mem _ hf)
    cases es with
    | nil =>
      rw [listTokens_singleton]
      exact first
    | cons f es =>
      rw [listTokens_cons_cons]
      exact first.append list.comma

/-- **The text of a list of entries** has its tokens. -/
theorem ofText_printList (sep : IsSeparator separator) (readable : ∀ e ∈ es, e.IsReadable n) :
    Token.ofText (printList separator es).toList = .ok (listTokens es) := by
  obtain ⟨blanks, eq, blank⟩ := sep
  unfold printList
  induction es with
  | nil =>
    rw [List.map_nil, String.intercalate_nil]
    rfl
  | cons e es ih =>
    have first := (readable e List.mem_cons_self).ofText_print
    have list := ih fun f hf => readable f (List.mem_cons_of_mem _ hf)
    cases es with
    | nil =>
      rw [List.map_cons, List.map_nil, String.intercalate_singleton, listTokens_singleton]
      exact first
    | cons f es =>
      rw [List.map_cons, List.map_cons, String.intercalate_cons_cons, String.toList_append,
        String.toList_append, eq, listTokens_cons_cons, List.append_assoc]
      -- the text of the first entry ends at the comma, the next begins behind the blanks
      exact Token.ofText_append_comma_eq_ok_iff.2
        ⟨_, _, first, (Token.ofText_append_of_isBlank blank).trans list, rfl⟩

/-- **A list of entries is read back**, whatever blanks follow its commas. -/
theorem readEntries_printList (sep : IsSeparator separator)
    (readable : ∀ e ∈ es, e.IsReadable n) (key : String) (j : Journal) :
    (readEntries key (Text.Utf8.encode (printList separator es).toList) n).run.run j =
      (.ok es, j) := by
  have tokens : Token.ofBytes (Text.Utf8.encode (printList separator es).toList) =
      .ok (listTokens es) := Token.ofBytes_eq_ok_iff.2 ⟨_, rfl, ofText_printList sep readable⟩
  exact readEntries_of_listing tokens (missingCommas_listTokens es) (listing_listTokens readable) j

end Entry

/-- **Every list of entries has a text**, and what is read from it is the list
itself: entries whose domains have been parsed and whose host IDs fit the prefix
length are read without a message, in order and as often as they are there. -/
theorem printed_entries_are_read {n : UInt8} {es : List Entry}
    (readable : ∀ e ∈ es, e.IsReadable n) (key : String) (j : Journal) :
    (readEntries key (Text.Utf8.encode (Entry.printList ", " es).toList) n).run.run j =
      (.ok es, j) := by
  have blank : ∀ c ∈ [' '], Text.isBlank c = true := List.forall_mem_singleton.2 rfl
  exact Entry.readEntries_printList ⟨[' '], rfl, blank⟩ readable key j

/-- A list with a host part that stands for an IPv4 address, a host part with a
gap, a MAC address, a wildcard and a repetition is read back. -/
theorem repeated_entries_are_read :
    let es : List Entry := [⟨.fqdn "b.org", some (.suffix ⟨0xFFFFC0000201⟩ 64)⟩,
      ⟨.wildcard "a.org", none⟩, ⟨.fqdn "c", some (.mac ⟨0x0A0B0C0D0E0F⟩)⟩,
      ⟨.fqdn "b.org", some (.suffix ⟨0x20010DB8000000000000000000000001⟩ 64)⟩,
      ⟨.wildcard "a.org", none⟩]
    (∀ e ∈ es, e.IsReadable 64) ∧
      (readEntries "DDNS_IP6_DOMAINS" (Text.Utf8.encode
        ("b.org[::ffff:192.0.2.1], *.a.org, c[0a:0b:0c:0d:0e:0f], " ++
          "b.org[2001:db8::1], *.a.org").toList) 64).run.run .empty = (.ok es, .empty) := by
  intro es
  have readable : ∀ e ∈ es, e.IsReadable 64 := by
    have wildcard : Entry.IsReadable 64 ⟨.wildcard "a.org", none⟩ :=
      ⟨⟨"*.a.org", rfl⟩, fun _ none => nomatch none⟩
    have suffix (a : Ip6) : Entry.IsReadable 64 ⟨.fqdn "b.org", some (.suffix a 64)⟩ :=
      ⟨⟨"B.org", rfl⟩, by rintro _ ⟨⟩; exact ⟨rfl, by decide⟩⟩
    have mac (m : Mac) : Entry.IsReadable 64 ⟨.fqdn "c", some (.mac m)⟩ :=
      ⟨⟨"c", rfl⟩, by rintro _ ⟨⟩; exact ⟨UInt8.le_refl 64, by decide⟩⟩
    simp only [es, List.forall_mem_cons]
    exact ⟨suffix _, wildcard, mac _, suffix _, wildcard, fun _ h => nomatch h⟩
  exact ⟨readable, printed_entries_are_read readable "DDNS_IP6_DOMAINS" .empty⟩

end RecordPlan
