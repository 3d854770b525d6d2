import RecordPlan.Proofs.HostId.Kinds
import RecordPlan.Proofs.Setting.ListPart
import RecordPlan.Proofs.Settings.WrittenBack

/-!
# Settings with another prefix length

A host part keeps the prefix length that it was read against, and two host
parts with different lengths are different host IDs. So the prefix length has
a part in which texts are host IDs, and in which host IDs are the same.

Both run on alike if the prefix length is another one. A text is a host ID for
it if there is room for the host ID behind it, and is the same host ID then,
**tagged** with the other length (`HostId.parse_retag`). Lists, what is
collected from them and what they are merged into are tagged anew entry by
entry; all host IDs of a list have one tag, so none of them becomes another's
equal or ceases to be.

The main statement is `prefix_length_changes_tags_only`.
-/

namespace RecordPlan

open Token (missingCommas)

variable {n q : UInt8} {d : Domain} {j j' : Journal}

/-! ## Host IDs -/

namespace HostId

/-- **A host ID tagged with another prefix length**; a MAC address has no
tag. -/
def retag (q : UInt8) : HostId → HostId
  | suffix a _ => suffix a q
  | mac m => mac m

variable {id : HostId} {made : Option HostId}

@[simp]
theorem retag_eq_mac {m : Mac} : id.retag q = mac m ↔ id = mac m := by
  cases id <;> simp [retag]

/-- **A tagged host ID fits** if there is room for it. -/
theorem fits_retag : (id.retag q).Fits q ↔ q ≤ maxMacPrefixLen ∨ ∀ m, id ≠ mac m := by
  cases id <;> simp [retag, Fits]

/-- What is made of a text of some kind is made of it for another prefix
length. -/
theorem outcome_retag {k : HostText} (outcome : k.outcome n = .ok made) (le : q ≤ 128)
    (fits : ∀ id, made = some id → (id.retag q).Fits q) :
    k.outcome q = .ok (made.map (retag q)) := by
  cases k with
  | ip4 a | zoned a => cases outcome
  | ip6 a =>
    rw [HostText.outcome] at outcome
    split at outcome
    · cases outcome
    · obtain rfl := Except.ok.inj outcome
      exact if_neg (UInt8.not_lt.2 le)
  | mac m =>
    rw [HostText.outcome] at outcome
    split at outcome
    · cases outcome
    · obtain rfl := Except.ok.inj outcome
      exact if_neg (UInt8.not_lt.2 (fits (mac m) rfl))

/-- **A text is a host ID for another prefix length** if there is room for the
host ID. -/
theorem parse_retag {raw : String} (parsed : parse raw n = .ok made) (le : q ≤ 128)
    (fits : ∀ id, made = some id → (id.retag q).Fits q) :
    parse raw q = .ok (made.map (retag q)) := by
  by_cases empty : raw = ""
  · subst empty
    obtain rfl := Except.ok.inj parsed
    rfl
  · rw [parse_eq_outcome empty] at parsed ⊢
    cases found : HostText.ofText? raw.toList with
    | none =>
      rw [found] at parsed
      cases parsed
    | some k =>
      rw [found] at parsed
      exact outcome_retag parsed le fits

end HostId

/-! ## Lists -/

/-- An entry with its host ID tagged with another prefix length. -/
def Entry.retag (q : UInt8) (e : Entry) : Entry := ⟨e.domain, e.hostId.map (HostId.retag q)⟩

variable {key : String} {value : List UInt8} {ts : List Token} {es : List Entry}

/-- The domains stay as they are. -/
@[simp]
theorem Entry.map_domain_retag (es : List Entry) :
    (es.map (Entry.retag q)).map (·.domain) = es.map (·.domain) := by
  rw [List.map_map]
  rfl

/-- **A list is a list for another prefix length** if there is room for its
host IDs. -/
theorem Listing.retag (list : Listing (some n) ts es) (le : q ≤ 128)
    (fits : ∀ d id, ⟨d, some id⟩ ∈ es → (id.retag q).Fits q) :
    Listing (some q) ts (es.map (Entry.retag q)) := by
  induction list with
  | nil => exact .nil
  | comma _ ih => exact .comma (ih fits)
  | domain hd _ ih =>
    exact .domain hd (ih fun d id mem => fits d id (List.mem_cons_of_mem _ mem))
  | @withHostId _ w v d made ts es hn hd parsed _ ih =>
    obtain rfl := Option.some.inj hn
    have here (id : HostId) (eq : made = some id) : (id.retag q).Fits q :=
      fits d id (eq ▸ List.mem_cons_self)
    exact .withHostId rfl hd (HostId.parse_retag parsed le here)
      (ih fun d id mem => fits d id (List.mem_cons_of_mem _ mem))

/-- **A list of domains with host IDs is read on a journal** if the value has
tokens and these are a list. The warnings depend on the tokens alone. -/
theorem run_readEntries_eq_ok :
    (readEntries key value n).run.run j = (.ok es, j') ↔
      ∃ ts, Token.ofBytes value = .ok ts ∧ Listing (some n) ts es ∧
        j' = ⟨j.messages ++ gapWarnings key value (missingCommas true ts)⟩ := by
  have run {ts : List Token} (tokens : Token.ofBytes value = .ok ts)
      (list : Listing (some n) ts es) : (readEntries key value n).run.run j =
        (.ok es, ⟨j.messages ++ gapWarnings key value (missingCommas true ts)⟩) := by
    rw [readEntries, readSetting_run_of_ok tokens (scanEntries_result_eq_ok.2 list),
      gaps_scanEntries_of_listing list]
  constructor
  · intro h
    obtain ⟨ts, tokens, list⟩ :=
      readEntries_result_eq_ok.1 ((isDisciplined_readSetting ..).appends.result_eq_of_run h)
    rw [run tokens list] at h
    exact ⟨ts, tokens, list, (congrArg Prod.snd h).symm⟩
  · rintro ⟨ts, tokens, list, rfl⟩
    exact run tokens list

/-- **What is read with another prefix length** is the same list, tagged anew,
and the warnings are the same. -/
theorem run_readEntries_retag (read : (readEntries key value n).run.run j = (.ok es, j'))
    (le : q ≤ 128) (fits : ∀ d id, ⟨d, some id⟩ ∈ es → (id.retag q).Fits q) :
    (readEntries key value q).run.run j = (.ok (es.map (Entry.retag q)), j') := by
  obtain ⟨ts, tokens, list, eq⟩ := run_readEntries_eq_ok.1 read
  exact run_readEntries_eq_ok.2 ⟨ts, tokens, list.retag le fits, eq⟩

/-! ## Merging -/

namespace HostIds

variable {ids ids' : HostIds}

/-- Host IDs tagged with another prefix length. -/
def retag (q : UInt8) (ids : HostIds) : HostIds := ids.map fun (d, id) => (d, id.retag q)

theorem find?_retag (ids : HostIds) (d : Domain) :
    (ids.retag q).find? d = (ids.find? d).map (HostId.retag q) := by
  rw [find?, find?, retag, List.find?_map, Option.map_map, Option.map_map]
  rfl

theorem insert_retag (ids : HostIds) (d : Domain) (id : HostId) :
    (ids.retag q).insert d (id.retag q) = (ids.insert d id).retag q := by
  induction ids with
  | nil => rfl
  | cons entry rest ih =>
    simp only [retag, List.map_cons, insert] at ih ⊢
    split
    · exact congrArg (_ :: ·) ih
    · rfl

/-- **Host IDs that are collected** are collected from the entries that are
tagged anew. -/
theorem collect_retag (collected : collect ids es = .ok ids') :
    collect (ids.retag q) (es.map (Entry.retag q)) = .ok (ids'.retag q) := by
  induction ids, es using collect.induct with
  | case1 ids =>
    obtain rfl := Except.ok.inj collected
    rfl
  | case2 ids d rest ih => exact ih collected
  | case3 ids d id rest absent ih =>
    rw [collect, absent] at collected
    have absent' : (ids.retag q).find? d = none := by rw [find?_retag, absent, Option.map_none]
    rw [List.map_cons, Entry.retag, Option.map_some, collect, absent']
    dsimp only
    rw [insert_retag]
    exact ih collected
  | case4 ids d rest first found ih =>
    rw [collect, found] at collected
    have found' : (ids.retag q).find? d = some (first.retag q) := by
      rw [find?_retag, found, Option.map_some]
    rw [List.map_cons, Entry.retag, Option.map_some, collect, found']
    -- host IDs that are equal are equal when they are tagged anew
    simpa using ih (by simpa using collected)
  | case5 ids d id rest first found ne =>
    rw [collect, found] at collected
    simp [ne] at collected

/-- Whether there is a MAC address does not depend on the tags. -/
theorem mac_mem_retag {m : Mac} : (d, .mac m) ∈ ids.retag q ↔ (d, .mac m) ∈ ids := by
  simp [retag]

end HostIds

/-- What is managed, with host IDs tagged with another prefix length. -/
def Managed.retag (q : UInt8) (m : Managed) : Managed := { m with hostIds := m.hostIds.retag q }

/-- **Merging lists that are tagged anew** comes to the same, tagged anew. -/
theorem run_consolidate_retag {shared ip4 : List Domain} {managed : Managed}
    (merged : (consolidate ⟨shared, ip4, es⟩).run.run j = (.ok managed, j')) :
    (consolidate ⟨shared, ip4, es.map (Entry.retag q)⟩).run.run j =
      (.ok (managed.retag q), j') := by
  unfold consolidate at merged ⊢
  dsimp only at merged ⊢
  rw [Entry.map_domain_retag]
  cases collected : HostIds.collect [] es with
  | error e =>
    rw [collected] at merged
    cases merged
  | ok ids =>
    rw [collected] at merged
    obtain ⟨eq, rfl⟩ := Prod.mk.inj merged
    obtain rfl := Except.ok.inj eq
    have tagged : HostIds.collect [] (es.map (Entry.retag q)) = .ok (ids.retag q) :=
      HostIds.collect_retag collected
    rw [tagged]
    rfl

/-! ## Plans -/

/-- **A plan for another prefix length**: the same domains and the same
predicate, and the same host IDs for the same domains, tagged with that
length. -/
def Plan.retag (q : UInt8) (p : Plan) : Plan :=
  { p with managed := p.managed.retag q, prefixLen := q }

namespace Settings

variable {s : Settings} {plan : Plan}

/-- **The host IDs that are read** are all in the plan. -/
theorem mem_hostIds_of_run {shared ip4 : List Domain} {ip6 : List Entry} {managed : Managed}
    {j₁ j₂ j₃ j₄ : Journal} (le : s.prefixLen ≤ 128)
    (hshared : (readDomains domainsKey s.domains.bytes).run.run j = (.ok shared, j₁))
    (hip4 : (readDomains ip4DomainsKey s.ip4Domains.bytes).run.run j₁ = (.ok ip4, j₂))
    (hip6 : (readEntries ip6DomainsKey s.ip6Domains.bytes s.prefixLen).run.run j₂ = (.ok ip6, j₃))
    (merged : (consolidate ⟨shared, ip4, ip6⟩).run.run j₃ = (.ok managed, j₄)) (id : HostId) :
    (d, id) ∈ managed.hostIds ↔ ⟨d, some id⟩ ∈ ip6 := by
  have named : s.lists? = some ⟨shared, ip4, ip6⟩ := lists?_eq_some_iff.2
    ⟨(isDisciplined_readSetting ..).appends.result_eq_of_run hshared,
      (isDisciplined_readSetting ..).appends.result_eq_of_run hip4,
      (isDisciplined_readSetting ..).appends.result_eq_of_run hip6⟩
  have result := (isDisciplined_consolidate _).appends.result_eq_of_run merged
  have readable := isReadable_of_lists? le named
  exact (isMerge_of_consolidate readable.unmarked result).hostIds.mem_iff d id

/-- **Settings resolve with another prefix length** if there is room for the
host IDs of the plan, to the plan for that length. -/
theorem run_resolve_retag (resolved : s.resolve.run.run j = (.ok plan, j')) (le : q ≤ 128)
    (room : q ≤ 64 ∨ ∀ d m, (d, .mac m) ∉ plan.managed.hostIds) :
    ({ s with prefixLen := q } : Settings).resolve.run.run j = (.ok (plan.retag q), j') := by
  obtain ⟨valid, shared, j₁, ip4, j₂, ip6, j₃, managed, j₄, proxied, hshared, hip4, hip6, merged,
    hproxied, rfl⟩ := run_resolve_eq_ok.1 resolved
  have fits (d : Domain) (id : HostId) (entry : ⟨d, some id⟩ ∈ ip6) : (id.retag q).Fits q := by
    refine HostId.fits_retag.2 (room.imp_right fun absent m eq => absent d m ?_)
    exact eq ▸ (mem_hostIds_of_run valid hshared hip4 hip6 merged id).2 entry
  exact run_resolve_eq_ok.2 ⟨le, shared, j₁, ip4, j₂, _, j₃, _, j₄, proxied, hshared, hip4,
    run_readEntries_retag hip6 le fits, run_consolidate_retag merged, hproxied, rfl⟩

/-- In the plan that settings resolve to there is room for the host IDs. -/
theorem room_of_run (resolved : s.resolve.run.run j = (.ok plan, j')) :
    s.prefixLen ≤ 128 ∧ (s.prefixLen ≤ 64 ∨ ∀ d m, (d, .mac m) ∉ plan.managed.hostIds) := by
  have result := (resolve_spec s).1.appends.result_eq_of_run resolved
  obtain ⟨le, hostIds⟩ := plan_of_resolve result
  obtain ⟨_, _, _, length⟩ := resolve_result_eq_ok_iff_lists?.1 result
  rw [length] at le hostIds
  refine ⟨le, or_iff_not_imp_left.2 fun long d m there => long ?_⟩
  exact (hostIds d _ there).2

end Settings

/-- **The prefix length changes tags only.** If settings resolve, then they
resolve with every other prefix length of up to 128 bits, provided that it has
no more than 64 bits or no host ID in the plan is a MAC address. The messages
are the same, and so is the plan – its domains for each family, its predicate
and its host IDs with their domains – except that its host parts are tagged with
the other length. In particular they resolve with every smaller one. With any
other prefix length they do not resolve. -/
theorem prefix_length_changes_tags_only {s : Settings} {j j' : Journal} {plan : Plan}
    (resolved : s.resolve.run.run j = (.ok plan, j')) :
    (∀ q : UInt8, q ≤ 128 → (q ≤ 64 ∨ ∀ d m, (d, .mac m) ∉ plan.managed.hostIds) →
      ({ s with prefixLen := q } : Settings).resolve.run.run j = (.ok (plan.retag q), j')) ∧
    (∀ q : UInt8, q ≤ s.prefixLen →
      ({ s with prefixLen := q } : Settings).resolve.run.run j = (.ok (plan.retag q), j')) ∧
    ∀ q : UInt8,
      (∃ other k k', ({ s with prefixLen := q } : Settings).resolve.run.run k = (.ok other, k')) ↔
        q ≤ 128 ∧ (q ≤ 64 ∨ ∀ d m, (d, .mac m) ∉ plan.managed.hostIds) := by
  obtain ⟨le, room⟩ := Settings.room_of_run resolved
  refine ⟨fun q => Settings.run_resolve_retag resolved, fun q smaller => ?_, fun q => ⟨?_, ?_⟩⟩
  · exact Settings.run_resolve_retag resolved (UInt8.le_trans smaller le)
      (room.imp_left (UInt8.le_trans smaller))
  · rintro ⟨other, k, k', resolved'⟩
    obtain ⟨le', room'⟩ := Settings.room_of_run resolved'
    refine ⟨le', room'.imp_right fun absent => ?_⟩
    -- the way back: with the first prefix length there is a MAC address only if there is one here
    have back := Settings.run_resolve_retag resolved' le (.inr absent)
    have results := (Settings.resolve_spec s).1.appends
    obtain rfl : plan = other.retag s.prefixLen := Except.ok.inj
      ((results.result_eq_of_run resolved).symm.trans (results.result_eq_of_run back))
    exact fun d m there => absent d m (HostIds.mac_mem_retag.1 there)
  · rintro ⟨le', room'⟩
    exact ⟨_, j, j', Settings.run_resolve_retag resolved le' room'⟩

/-- The settings with both kinds of host IDs resolve with 64 bits as they do with
48, and not with 65. -/
theorem hostIdSettings_resolve_otherwise :
    ∃ j', hostIdSettings.resolve.run.run .empty = (.ok hostIdPlan, j') ∧
      ({ hostIdSettings with prefixLen := 64 } : Settings).resolve.run.run .empty =
        (.ok { hostIdPlan with
          managed := { hostIdPlan.managed with
            hostIds := [(.fqdn "a.org", .suffix ⟨1⟩ 64),
              (.fqdn "b.org", .mac ⟨0xAABBCCDDEEFF⟩)] }
          prefixLen := 64 }, j') ∧
      ¬ ∃ other k k', ({ hostIdSettings with prefixLen := 65 } : Settings).resolve.run.run k =
        (.ok other, k') := by
  have run := (Settings.resolve_spec hostIdSettings).1.appends .empty
  rw [hostIdSettings_resolve] at run
  obtain ⟨others, -, only⟩ := prefix_length_changes_tags_only run
  refine ⟨_, run, others 64 (by decide) (.inl (by decide)), fun resolves => ?_⟩
  obtain ⟨-, short | absent⟩ := (only 65).1 resolves
  · exact absurd short (by decide)
  · exact absent (.fqdn "b.org") ⟨0xAABBCCDDEEFF⟩ (by decide)

end RecordPlan
