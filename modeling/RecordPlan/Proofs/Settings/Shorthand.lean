import RecordPlan.Proofs.Setting.Expression
import RecordPlan.Proofs.Setting.Token
import RecordPlan.Proofs.Settings.Resolve

/-!
# The setting for both families is a shorthand

Domains for both families may as well be written twice, behind those for
IPv4 and behind those for IPv6: settings are **spelled out** in this way by
putting bytes behind bytes, with a comma between them, whatever the bytes
are. The comma keeps them apart at every level of reading. It is no part of
the bytes of another character (`Text.Utf8.encode_eq_append_cons_iff`), it
ends a word and makes no operator double
(`Token.continueText_append_comma`), and it stands inside of no entry
(`listing_append_comma_iff`). So the two values are read together exactly
if each of them is read by itself.

What is written behind the domains for IPv6 is read where host IDs are
allowed, and it is also written behind those for IPv4, where they are not.
The main statement is `shared_domains_are_a_shorthand`.
-/

namespace RecordPlan

variable {ts : List Token} {ds : List Domain} {es : List Entry} {n : UInt8}

/-! ## Values with a comma between them -/

/-- A value, a comma, and another value. -/
def RawValue.followedBy (v w : RawValue) : RawValue := ⟨v.bytes ++ 0x2C :: w.bytes⟩

/-- Two values with a comma between them have tokens if each of them has. -/
theorem Token.ofBytes_followedBy {v w : RawValue} :
    Token.ofBytes (v.followedBy w).bytes = .ok ts ↔
      ∃ us vs, Token.ofBytes v.bytes = .ok us ∧ Token.ofBytes w.bytes = .ok vs ∧
        ts = us ++ .comma :: vs := by
  have split {text : List Char} : Text.Utf8.encode text = (v.followedBy w).bytes ↔
      ∃ s t, text = s ++ ',' :: t ∧ Text.Utf8.encode s = v.bytes ∧ Text.Utf8.encode t = w.bytes :=
    Text.Utf8.encode_eq_append_cons_iff (c := ',') (by decide)
  simp only [Token.ofBytes_eq_ok_iff]
  constructor
  · rintro ⟨text, eq, tokens⟩
    obtain ⟨s, t, rfl, first, second⟩ := split.1 eq.symm
    obtain ⟨us, vs, hus, hvs, rfl⟩ := Token.ofText_append_comma_eq_ok_iff.1 tokens
    exact ⟨us, vs, ⟨s, first.symm, hus⟩, ⟨t, second.symm, hvs⟩, rfl⟩
  · rintro ⟨us, vs, ⟨s, first, hus⟩, ⟨t, second, hvs⟩, rfl⟩
    refine ⟨s ++ ',' :: t, (split.2 ⟨s, t, rfl, first.symm, second.symm⟩).symm, ?_⟩
    exact Token.ofText_append_comma_eq_ok_iff.2 ⟨us, vs, hus, hvs, rfl⟩

/-- Two lists of domains are read together if each of them is read. -/
theorem readDomains_followedBy {key : String} (key' key'' : String) {v w : RawValue} :
    (readDomains key (v.followedBy w).bytes).outcome.result = .ok ds ↔
      ∃ ds₁ ds₂, (readDomains key' v.bytes).outcome.result = .ok ds₁ ∧
        (readDomains key'' w.bytes).outcome.result = .ok ds₂ ∧ ds = ds₁ ++ ds₂ := by
  simp only [readDomains_result_eq_ok, Token.ofBytes_followedBy]
  constructor
  · rintro ⟨_, _, ⟨us, vs, hus, hvs, rfl⟩, list, rfl⟩
    obtain ⟨es₁, es₂, list₁, list₂, rfl⟩ := listing_append_comma_iff.1 list
    exact ⟨_, _, ⟨us, es₁, hus, list₁, rfl⟩, ⟨vs, es₂, hvs, list₂, rfl⟩, List.map_append⟩
  · rintro ⟨_, _, ⟨us, es₁, hus, list₁, rfl⟩, ⟨vs, es₂, hvs, list₂, rfl⟩, rfl⟩
    exact ⟨_, _, ⟨us, vs, hus, hvs, rfl⟩,
      listing_append_comma_iff.2 ⟨es₁, es₂, list₁, list₂, rfl⟩, List.map_append⟩

/-- Two lists of domains with host IDs are read together if each of them is
read. -/
theorem readEntries_followedBy {key : String} (key' key'' : String) {v w : RawValue} :
    (readEntries key (v.followedBy w).bytes n).outcome.result = .ok es ↔
      ∃ es₁ es₂, (readEntries key' v.bytes n).outcome.result = .ok es₁ ∧
        (readEntries key'' w.bytes n).outcome.result = .ok es₂ ∧ es = es₁ ++ es₂ := by
  simp only [readEntries_result_eq_ok, Token.ofBytes_followedBy]
  constructor
  · rintro ⟨_, ⟨us, vs, hus, hvs, rfl⟩, list⟩
    obtain ⟨es₁, es₂, list₁, list₂, rfl⟩ := listing_append_comma_iff.1 list
    exact ⟨es₁, es₂, ⟨us, hus, list₁⟩, ⟨vs, hvs, list₂⟩, rfl⟩
  · rintro ⟨es₁, es₂, ⟨us, hus, list₁⟩, ⟨vs, hvs, list₂⟩, rfl⟩
    exact ⟨_, ⟨us, vs, hus, hvs, rfl⟩, listing_append_comma_iff.2 ⟨es₁, es₂, list₁, list₂, rfl⟩⟩

/-- In a value without bytes there are no domains. -/
theorem readDomains_empty {key : String} :
    (readDomains key RawValue.empty.bytes).outcome.result = .ok ds ↔ ds = [] := by
  have read : (readDomains key RawValue.empty.bytes).outcome.result = .ok [] :=
    readDomains_result_eq_ok.2 ⟨[], [], rfl, .nil, rfl⟩
  rw [read, Except.ok.injEq, eq_comm]

/-! ## Lists spelled out -/

/-- Entries without host IDs add none to those that are collected. -/
theorem HostIds.collect_append_none (ids : HostIds) (es : List Entry) (ds : List Domain) :
    ids.collect (es ++ ds.map (⟨·, none⟩)) = ids.collect es := by
  have none (ids : HostIds) : ids.collect (ds.map (⟨·, none⟩)) = .ok ids := by
    induction ds with
    | nil => rfl
    | cons d ds ih => exact ih
  induction ids, es using HostIds.collect.induct with
  | case1 ids => exact none ids
  | case2 ids d rest ih => exact ih
  | case3 ids d id rest absent ih => simp [collect, absent, ih]
  | case4 ids d rest first found ih => simp [collect, found, ih]
  | case5 ids d id rest first found ne => simp [collect, found, ne]

/-- Lists with the domains for both families put behind those for each. -/
def DomainLists.spelledOut (lists : DomainLists) : DomainLists where
  shared := []
  ip4 := lists.ip4 ++ lists.shared
  ip6 := lists.ip6 ++ lists.shared.map (⟨·, none⟩)

/-- **Lists are merged as they are spelled out.** -/
theorem consolidate_spelledOut (lists : DomainLists) :
    consolidate lists.spelledOut = consolidate lists := by
  unfold consolidate DomainLists.spelledOut
  rw [HostIds.collect_append_none]
  simp [Function.comp_def]

/-! ## Settings spelled out -/

/-- **Settings spelled out**: the domains for both families are written
behind those for each. -/
def Settings.spelledOut (s : Settings) : Settings :=
  { s with
    domains := .empty
    ip4Domains := s.ip4Domains.followedBy s.domains
    ip6Domains := s.ip6Domains.followedBy s.domains }

/-- **The lists that spelled out settings name** are spelled out. -/
theorem Settings.lists?_spelledOut (s : Settings) :
    s.spelledOut.lists? = s.lists?.map DomainLists.spelledOut := by
  refine Option.ext fun lists' => ?_
  rw [lists?_eq_some_iff, Option.map_eq_some_iff]
  simp only [lists?_eq_some_iff]
  show (readDomains _ RawValue.empty.bytes).outcome.result = _ ∧
    (readDomains _ (s.ip4Domains.followedBy s.domains).bytes).outcome.result = _ ∧
    (readEntries _ (s.ip6Domains.followedBy s.domains).bytes s.prefixLen).outcome.result = _ ↔ _
  rw [readDomains_empty, readDomains_followedBy ip4DomainsKey domainsKey,
    readEntries_followedBy ip6DomainsKey domainsKey]
  constructor
  · rintro ⟨none, ⟨ip4, shared, hip4, hshared, eq4⟩, ip6, shared', hip6, hshared', eq6⟩
    -- the domains behind those for IPv6 are also read where host IDs are not allowed
    obtain rfl := (readEntries_of_readDomains hshared).1 hshared'
    refine ⟨⟨shared, ip4, ip6⟩, ⟨hshared, hip4, hip6⟩, ?_⟩
    rw [DomainLists.spelledOut, ← none, ← eq4, ← eq6]
  · rintro ⟨lists, ⟨hshared, hip4, hip6⟩, rfl⟩
    exact ⟨rfl, ⟨_, _, hip4, hshared, rfl⟩,
      ⟨_, _, hip6, (readEntries_of_readDomains hshared).2 rfl, rfl⟩⟩

/-- **Domains for both families are a shorthand.** Settings come to a plan
exactly if they do when they are spelled out, and the plan is the same,
whatever their values are. -/
theorem shared_domains_are_a_shorthand (s : Settings) (plan : Plan) (j j' : Journal) :
    (s.resolve.run.run j).1 = .ok plan ↔ (s.spelledOut.resolve.run.run j').1 = .ok plan := by
  rw [(Settings.resolve_spec s).1.appends.run_result,
    (Settings.resolve_spec s.spelledOut).1.appends.run_result,
    Settings.resolve_result_eq_ok_iff_lists?, Settings.resolve_result_eq_ok_iff_lists?]
  refine and_congr_right fun _ => and_congr_left fun _ => ?_
  simp only [Settings.lists?_spelledOut, Option.map_eq_some_iff]
  constructor
  · rintro ⟨lists, named, merged⟩
    exact ⟨lists.spelledOut, ⟨lists, named, rfl⟩, by rwa [consolidate_spelledOut]⟩
  · rintro ⟨_, ⟨lists, named, rfl⟩, merged⟩
    exact ⟨lists, named, by rwa [consolidate_spelledOut] at merged⟩

end RecordPlan
