import RecordPlan.Proofs.HostId.Basic
import RecordPlan.Proofs.Setting.ListPart
import RecordPlan.Proofs.Setting.TokenText

/-!
# Lists without host IDs

One reader reads all lists of domains, and whether host IDs are allowed in a
list is no more than a parameter of it. It looks at that parameter in one place,
in front of an opening bracket. So where no token is an opening bracket the two
kinds of lists are the same to it, with all that it notes and whatever it fails
with (`entries_of_no_bracket`), and this is so if there is no `[` in the text
that the tokens are read from.

Where there are brackets, the two differ. A host ID that has been read is there:
the only text that is read as none is the empty one, and no word of a text is
empty (`Listing.forbidHostIds`). The main statement is `list_readers_agree`.
-/

namespace RecordPlan

variable {α β : Type} {prefixLen : Option UInt8} {n : UInt8} {separated : Bool} {w : String}
  {text : List Char} {value : List UInt8} {ts : List Token} {ds : List Domain} {es : List Entry}

/-! ## Lists in which all host IDs are absent -/

/-- A list in which no domain has a host ID is one where none are allowed. -/
theorem Listing.forbidHostIds (list : Listing prefixLen ts es) (proper : ∀ t ∈ ts, t.IsProper)
    (absent : ∀ e ∈ es, e.hostId = none) : Listing none ts es := by
  induction list with
  | nil => exact .nil
  | comma _ ih => exact .comma (ih (List.forall_mem_cons.1 proper).2 absent)
  | domain hd _ ih =>
    exact .domain hd (ih (List.forall_mem_cons.1 proper).2 (List.forall_mem_cons.1 absent).2)
  | withHostId _ _ hv _ _ =>
    -- a word in brackets would have to be empty
    obtain rfl := (List.forall_mem_cons.1 absent).1
    exact absurd (HostId.toList_eq_nil_of_parse hv) (proper (.word _) (by simp)).1

theorem isProper_of_ofBytes (tokens : Token.ofBytes value = .ok ts) : ∀ t ∈ ts, t.IsProper := by
  obtain ⟨text, -, read⟩ := Token.ofBytes_eq_ok_iff.1 tokens
  exact (Token.ofText_eq_ok_iff_spells.1 read).isProper

/-- **A plain list is read** if and only if it is read, with all host IDs absent,
where they are allowed. -/
theorem readDomains_result_eq_ok_iff {key key' : String} :
    (readDomains key value).outcome.result = .ok ds ↔
      (readEntries key' value n).outcome.result = .ok (ds.map (⟨·, none⟩)) := by
  constructor
  · exact fun read => (readEntries_of_readDomains read).2 rfl
  · intro read
    obtain ⟨ts, tokens, list⟩ := readEntries_result_eq_ok.1 read
    have plain := list.forbidHostIds (isProper_of_ofBytes tokens) fun e he => by
      obtain ⟨d, -, rfl⟩ := List.mem_map.1 he
      rfl
    exact readDomains_result_eq_ok.2 ⟨ts, _, tokens, plain, map_domain_map ds fun _ => none⟩

/-! ## Tokens without brackets -/

/-- A host ID is not looked for where there is no bracket. -/
theorem optionalHostId_of_no_bracket (h : .leftBracket ∉ ts) :
    optionalHostId prefixLen ts = .pure (none, .all ts) := by
  unfold optionalHostId
  split
  · exact absurd List.mem_cons_self h
  · rfl

theorem Scan.pure_bind (a : α) (f : α → Scan β) : Scan.pure a >>= f = f a := rfl

/-- **Without brackets it does not matter whether host IDs are allowed**, neither
for what is read nor for what is noted or wrong. -/
theorem entries_of_no_bracket (h : .leftBracket ∉ ts) :
    entries prefixLen separated ts = entries none separated ts := by
  induction ts generalizing separated with
  | nil => rw [entries, entries]
  | cons t ts ih =>
    have later : .leftBracket ∉ ts := fun mem => h (List.mem_cons_of_mem _ mem)
    cases t with
    | word w =>
      have rest : entries prefixLen false (NoLonger.all ts).1 = entries none false ts := ih later
      rw [entries, entries, optionalHostId_of_no_bracket later, optionalHostId_of_no_bracket later]
      simp only [Scan.pure_bind]
      rw [rest]
      rfl
    | comma => rw [entries, entries, ih later]
    | rightParen => rw [entries, entries]
    | leftBracket => exact absurd List.mem_cons_self h
    | _ => rw [entries, entries] <;> simp

/-- The two readers of whole lists differ in what they make of a domain. -/
theorem scanEntries_of_no_bracket (h : .leftBracket ∉ ts) :
    (scanEntries n ts).gaps = (scanDomains ts).gaps ∧
      (scanEntries n ts).result = (scanDomains ts).result.map (·.map (⟨·, none⟩)) := by
  have same : entries (some n) true ts = entries none true ts := entries_of_no_bracket h
  have noted : (scanEntries n ts).gaps = (entries (some n) true ts).gaps :=
    gaps_bind_finish fun _ _ => rfl
  have noted' : (scanDomains ts).gaps = (entries none true ts).gaps :=
    gaps_bind_finish fun _ _ => rfl
  refine ⟨by rw [noted, noted', same], ?_⟩
  cases read : (scanDomains ts).result with
  | ok ds =>
    obtain ⟨es, list, rfl⟩ := scanDomains_result_eq_ok.1 read
    refine (scanEntries_result_eq_ok.2 list.allowHostIds).trans (congrArg Except.ok ?_)
    exact list.eq_map_domain
  | error e =>
    have fails := (bind_finish_result_eq_error fun _ _ => rfl).1 read
    rw [← same] at fails
    exact (bind_finish_result_eq_error fun _ _ => rfl).2 fails

/-! ## Values without brackets -/

/-- There is no bracket among the tokens of a value without the byte of one. -/
theorem leftBracket_not_mem (tokens : Token.ofBytes value = .ok ts) (h : 0x5B ∉ value) :
    .leftBracket ∉ ts := by
  obtain ⟨text, rfl, read⟩ := Token.ofBytes_eq_ok_iff.1 tokens
  intro bracket
  have written : '[' ∈ ts.flatMap (·.text.toList) :=
    List.mem_flatMap.2 ⟨.leftBracket, bracket, List.mem_singleton_self _⟩
  rw [(Token.ofText_eq_ok_iff_spells.1 read).flatMap_text] at written
  exact h (List.mem_flatMap.2 ⟨'[', (List.mem_filter.1 written).1, by decide⟩)

/-- **Settings are read alike by readers that are alike** on the tokens of their
value: with the same messages, and with results that go together. -/
theorem readSetting_run_map (key : String) {read : List Token → Scan α}
    {read' : List Token → Scan β} {f : α → β}
    (alike : ∀ ts, Token.ofBytes value = .ok ts →
      (read' ts).gaps = (read ts).gaps ∧ (read' ts).result = (read ts).result.map f)
    (j : Journal) :
    (readSetting key value read').run.run j =
      Prod.map (Except.map f) id ((readSetting key value read).run.run j) := by
  cases tokens : Token.ofBytes value with
  | error cause =>
    obtain ⟨appends, outcome⟩ := readSetting_of_lexError key read tokens
    obtain ⟨appends', outcome'⟩ := readSetting_of_lexError key read' tokens
    rw [appends j, appends' j, outcome, outcome']
    rfl
  | ok ts =>
    obtain ⟨appends, outcome⟩ := readSetting_of_tokens key read tokens
    obtain ⟨appends', outcome'⟩ := readSetting_of_tokens key read' tokens
    obtain ⟨gaps, result⟩ := alike ts tokens
    rw [appends j, appends' j, outcome, outcome', gaps, result]
    cases (read ts).result <;> rfl

/-- **The two readers of lists agree.** A value is read as a list of domains if
and only if it is read as a list of domains with host IDs, whatever the prefix
length, and all host IDs are absent; the domains are the same, in the same
order. And a value without an opening bracket is read alike by the two, or
rejected for the same reason, and the same messages are written. -/
theorem list_readers_agree (key : String) (value : List UInt8) (n : UInt8) (j : Journal) :
    (∀ ds, ((readDomains key value).run.run j).1 = .ok ds ↔
      ((readEntries key value n).run.run j).1 = .ok (ds.map (⟨·, none⟩))) ∧
    (0x5B ∉ value → (readEntries key value n).run.run j =
      Prod.map (Except.map (List.map (⟨·, none⟩))) id ((readDomains key value).run.run j)) := by
  constructor
  · intro ds
    rw [readDomains, (isDisciplined_readSetting ..).appends.run_result, ← readDomains,
      readEntries, (isDisciplined_readSetting ..).appends.run_result, ← readEntries]
    exact readDomains_result_eq_ok_iff
  · intro noBracket
    exact readSetting_run_map key
      (fun ts tokens => scanEntries_of_no_bracket (leftBracket_not_mem tokens noBracket)) j

/-- The prefix length is none at all, and a comma is missing. -/
theorem unbracketed_list_is_read_alike :
    let value := Text.Utf8.encode "a.org *.b.org".toList
    let missing : Journal := ⟨gapWarnings "DDNS_DOMAINS" value ["*.b.org"]⟩
    0x5B ∉ value ∧
      (readDomains "DDNS_DOMAINS" value).run.run .empty =
        (.ok [.fqdn "a.org", .wildcard "b.org"], missing) ∧
      (readEntries "DDNS_DOMAINS" value 200).run.run .empty =
        (.ok [⟨.fqdn "a.org", none⟩, ⟨.wildcard "b.org", none⟩], missing) := by
  intro value missing
  have tokens : Token.ofBytes value = .ok [.word "a.org", .word "*.b.org"] := by decide
  have list : Listing none [.word "a.org", .word "*.b.org"]
      [⟨.fqdn "a.org", none⟩, ⟨.wildcard "b.org", none⟩] :=
    .domain (by decide) (.domain (by decide) .nil)
  have read : (readDomains "DDNS_DOMAINS" value).run.run .empty =
      (.ok [.fqdn "a.org", .wildcard "b.org"], missing) := by
    rw [readDomains, readSetting_run_of_ok tokens (scanDomains_result_eq_ok.2 ⟨_, list, rfl⟩),
      gaps_scanDomains_of_listing list]
    rfl
  have noBracket : 0x5B ∉ value := by decide
  refine ⟨noBracket, read, ?_⟩
  rw [(list_readers_agree "DDNS_DOMAINS" value 200 .empty).2 noBracket, read]
  rfl

end RecordPlan
