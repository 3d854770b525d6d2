import RecordPlan.Proofs.Setting.Reading
import RecordPlan.Proofs.Text.Utf8
import RecordPlan.Settings.Basic

/-!
# Resolving settings, stage by stage

Settings are resolved in six **stages**: the prefix length is checked, the
three lists are read, the lists are merged, and the expression is read.
`Settings.stage` tells for each of them what it comes to by itself. The
outcome of resolving settings is made of these alone
(`Settings.void_outcome_resolve`): stages are gone through in order, up to
the first that fails, and its error is the error of the whole.

The main statement, `reading_and_resolving_are_disciplined`, puts this
together with what reading a single setting writes.
-/

namespace RecordPlan

variable {α β : Type}

/-! ## Outcomes in order -/

namespace Outcome

/-- An outcome of which only success or failure and the messages are
kept. -/
def void (o : Outcome α) : Outcome Unit :=
  ⟨o.result.map fun _ => (), o.messages⟩

@[simp]
theorem error?_void (o : Outcome α) : o.void.error? = o.error? := by
  cases h : o.result <;> simp [void, error?, h, Except.map]

@[simp]
theorem messages_void (o : Outcome α) : o.void.messages = o.messages := rfl

/-- If it does not matter with which result one operation is followed by
the next, the result may be left out. -/
theorem void_bind {o : Outcome α} {next : α → Outcome β} {first second : Outcome Unit}
    (hfirst : o.void = first)
    (hsecond : ∀ a, o.result = .ok a → (next a).void = second) :
    (o.bind next).void = first.bind fun _ => second := by
  subst hfirst
  cases h : o.result with
  | error e =>
    rw [bind_of_error h, bind_of_error (e := e) (by rw [void, h]; rfl)]
    rfl
  | ok a =>
    rw [bind_of_ok h, bind_of_ok (a := ()) (by rw [void, h]; rfl), ← hsecond a h]
    rfl

/-- What stages come to in order. -/
def inOrder : List (Outcome Unit) → Outcome Unit
  | [] => ⟨.ok (), []⟩
  | o :: rest => o.bind fun _ => inOrder rest

/-- **Stages in order fail with the error of the first that fails.** -/
theorem error?_inOrder (os : List (Outcome Unit)) : (inOrder os).error? = os.findSome? error? := by
  induction os with
  | nil => rfl
  | cons o rest ih =>
    rw [inOrder, List.findSome?_cons]
    cases h : o.result with
    | error e => rw [bind_of_error h]; simp [error?, h]
    | ok _ =>
      rw [bind_of_ok h, show o.error? = none by rw [error?, h]]
      exact ih

/-- **Stages in order write what they write one by one**, up to the first
that fails and including it. -/
theorem messages_inOrder (os : List (Outcome Unit)) :
    (inOrder os).messages =
      (os.take (os.findIdx (·.error?.isSome) + 1)).flatMap messages := by
  induction os with
  | nil => rfl
  | cons o rest ih =>
    rw [inOrder, List.findIdx_cons]
    cases h : o.result with
    | error e => rw [bind_of_error h]; simp [error?, h]
    | ok _ =>
      rw [bind_of_ok h, show o.error? = none by rw [error?, h]]
      simp [ih]

end Outcome

/-! ## The stages -/

/-- The stages of resolving settings. -/
inductive Stage where
  /-- The prefix length is checked. -/
  | prefixLength
  /-- The domains for both families are read. -/
  | sharedDomains
  /-- The domains for IPv4 are read. -/
  | ip4Domains
  /-- The domains for IPv6 are read. -/
  | ip6Domains
  /-- The lists are merged. -/
  | consolidation
  /-- The expression is read. -/
  | expression
  deriving DecidableEq

/-- All stages, in order. -/
def Stage.all : List Stage :=
  [prefixLength, sharedDomains, ip4Domains, ip6Domains, consolidation, expression]

namespace Settings

variable {s : Settings}

/-- The lists of domains that settings name; none if one of them is not
read. -/
def lists? (s : Settings) : Option DomainLists :=
  match (readDomains domainsKey s.domains.bytes).outcome.result,
      (readDomains ip4DomainsKey s.ip4Domains.bytes).outcome.result,
      (readEntries ip6DomainsKey s.ip6Domains.bytes s.prefixLen).outcome.result with
  | .ok shared, .ok ip4, .ok ip6 => some { shared, ip4, ip6 }
  | _, _, _ => none

/-- **What a stage comes to by itself.** Lists that are not there cannot be
merged, and the stages that should have read them have failed. -/
def stage (s : Settings) : Stage → Outcome Unit
  | .prefixLength => (checked s.validate).outcome.void
  | .sharedDomains => (readDomains domainsKey s.domains.bytes).outcome.void
  | .ip4Domains => (readDomains ip4DomainsKey s.ip4Domains.bytes).outcome.void
  | .ip6Domains => (readEntries ip6DomainsKey s.ip6Domains.bytes s.prefixLen).outcome.void
  | .consolidation =>
    match s.lists? with
    | some lists => (consolidate lists).outcome.void
    | none => ⟨.ok (), []⟩
  | .expression => (readExpression proxiedKey s.proxied.bytes).outcome.void

end Settings

theorem isDisciplined_checked (result : Except SettingsError α) :
    (Settings.checked result).IsDisciplined := by
  cases result with
  | error e => exact Checked.isDisciplined_failWith e
  | ok a => exact Checked.isDisciplined_pure a

theorem isDisciplined_consolidate (lists : DomainLists) :
    (consolidate lists).IsDisciplined := by
  unfold consolidate
  cases HostIds.collect [] lists.ip6 with
  | error e => exact Checked.isDisciplined_failWith e
  | ok ids => exact Checked.isDisciplined_pure _

namespace Settings

variable {s : Settings}

/-- **Resolving is disciplined**, and what it comes to is what its parts
come to. -/
theorem resolve_spec (s : Settings) :
    s.resolve.IsDisciplined ∧ s.resolve.outcome =
      (checked s.validate).outcome.bind fun _ =>
      (readDomains domainsKey s.domains.bytes).outcome.bind fun shared =>
      (readDomains ip4DomainsKey s.ip4Domains.bytes).outcome.bind fun ip4 =>
      (readEntries ip6DomainsKey s.ip6Domains.bytes s.prefixLen).outcome.bind fun ip6 =>
      (consolidate { shared, ip4, ip6 }).outcome.bind fun managed =>
      (readExpression proxiedKey s.proxied.bytes).outcome.bind fun proxied =>
      ⟨.ok { managed, proxied, prefixLen := s.prefixLen }, []⟩ := by
  refine (isDisciplined_checked _).bind fun _ => ?_
  refine (isDisciplined_readSetting ..).bind fun shared => ?_
  refine (isDisciplined_readSetting ..).bind fun ip4 => ?_
  refine (isDisciplined_readSetting ..).bind fun ip6 => ?_
  refine (isDisciplined_consolidate _).bind fun managed => ?_
  refine (isDisciplined_readSetting ..).bind fun proxied => ?_
  exact ⟨Checked.isDisciplined_pure _, Checked.outcome_pure _⟩

/-- **What resolving comes to is made of its stages.** -/
theorem void_outcome_resolve (s : Settings) :
    s.resolve.outcome.void = Outcome.inOrder (Stage.all.map s.stage) := by
  rw [(resolve_spec s).2]
  refine Outcome.void_bind rfl fun _ _ => ?_
  refine Outcome.void_bind rfl fun shared hshared => ?_
  refine Outcome.void_bind rfl fun ip4 hip4 => ?_
  refine Outcome.void_bind rfl fun ip6 hip6 => ?_
  -- all three lists have been read, so the next stage has lists to merge
  have lists : s.lists? = some { shared, ip4, ip6 } := by
    rw [lists?, hshared, hip4, hip6]
  refine Outcome.void_bind (by rw [stage, lists]) fun managed _ => ?_
  exact Outcome.void_bind rfl fun _ _ => rfl

theorem validate_eq_ok_iff : s.validate = .ok () ↔ s.prefixLen ≤ 128 := by
  rw [validate]
  split
  · next long => exact iff_of_false nofun (UInt8.not_le.2 long)
  · next short => exact iff_of_true rfl (UInt8.not_lt.1 short)

theorem checked_validate_result_eq_ok :
    (checked s.validate).outcome.result = .ok () ↔ s.prefixLen ≤ 128 := by
  unfold validate
  split
  · next h => simpa [checked, Outcome.failure] using h
  · next h => simpa [checked] using h

/-- Settings resolve if every stage has a result. -/
theorem resolve_result_eq_ok {plan : Plan} :
    s.resolve.outcome.result = .ok plan ↔
      s.prefixLen ≤ 128 ∧ ∃ shared ip4 ip6 managed proxied,
        (readDomains domainsKey s.domains.bytes).outcome.result = .ok shared ∧
        (readDomains ip4DomainsKey s.ip4Domains.bytes).outcome.result = .ok ip4 ∧
        (readEntries ip6DomainsKey s.ip6Domains.bytes s.prefixLen).outcome.result = .ok ip6 ∧
        (consolidate { shared, ip4, ip6 }).outcome.result = .ok managed ∧
        (readExpression proxiedKey s.proxied.bytes).outcome.result = .ok proxied ∧
        plan = { managed, proxied, prefixLen := s.prefixLen } := by
  rw [(resolve_spec s).2]
  simp only [Outcome.bind_result_eq_ok]
  constructor
  · rintro ⟨⟨⟩, hvalid, shared, hshared, ip4, hip4, ip6, hip6, managed, hmanaged, proxied,
      hproxied, eq⟩
    exact ⟨checked_validate_result_eq_ok.1 hvalid, shared, ip4, ip6, managed, proxied, hshared,
      hip4, hip6, hmanaged, hproxied, (Except.ok.inj eq).symm⟩
  · rintro ⟨hvalid, shared, ip4, ip6, managed, proxied, hshared, hip4, hip6, hmanaged, hproxied,
      rfl⟩
    exact ⟨(), checked_validate_result_eq_ok.2 hvalid, shared, hshared, ip4, hip4, ip6, hip6,
      managed, hmanaged, proxied, hproxied, rfl⟩

/-- Settings name the lists that their values are read as. -/
theorem lists?_eq_some_iff {lists : DomainLists} :
    s.lists? = some lists ↔
      (readDomains domainsKey s.domains.bytes).outcome.result = .ok lists.shared ∧
      (readDomains ip4DomainsKey s.ip4Domains.bytes).outcome.result = .ok lists.ip4 ∧
      (readEntries ip6DomainsKey s.ip6Domains.bytes s.prefixLen).outcome.result = .ok lists.ip6 := by
  obtain ⟨shared, ip4, ip6⟩ := lists
  unfold lists?
  split
  · next hshared hip4 hip6 => simp [hshared, hip4, hip6]
  · next h =>
    refine ⟨nofun, ?_⟩
    rintro ⟨hshared, hip4, hip6⟩
    exact absurd hip6 (h shared ip4 ip6 hshared hip4)

/-- **Settings resolve** if the lists that they name are merged, and their
expression is read. -/
theorem resolve_result_eq_ok_iff_lists? {plan : Plan} :
    s.resolve.outcome.result = .ok plan ↔
      s.prefixLen ≤ 128 ∧
      (∃ lists, s.lists? = some lists ∧ (consolidate lists).outcome.result = .ok plan.managed) ∧
      (readExpression proxiedKey s.proxied.bytes).outcome.result = .ok plan.proxied ∧
      plan.prefixLen = s.prefixLen := by
  simp only [resolve_result_eq_ok, lists?_eq_some_iff]
  refine and_congr_right fun _ => ⟨?_, ?_⟩
  · rintro ⟨shared, ip4, ip6, managed, proxied, hshared, hip4, hip6, merged, hproxied, rfl⟩
    exact ⟨⟨⟨shared, ip4, ip6⟩, ⟨hshared, hip4, hip6⟩, merged⟩, hproxied, rfl⟩
  · rintro ⟨⟨lists, ⟨hshared, hip4, hip6⟩, merged⟩, hproxied, eq⟩
    exact ⟨_, _, _, _, _, hshared, hip4, hip6, merged, hproxied, by rw [← eq]⟩

/-- On a valid prefix length nothing is written. -/
theorem run_checked_validate_eq_ok {j j' : Journal} :
    (checked s.validate).run.run j = (.ok (), j') ↔ s.prefixLen ≤ 128 ∧ j' = j := by
  unfold validate
  split
  · next h => exact iff_of_false nofun fun valid => UInt8.not_lt.2 valid.1 h
  · next h =>
    refine Iff.trans ?_ (and_iff_right (UInt8.not_lt.1 h)).symm
    exact ⟨fun run => (congrArg Prod.snd run).symm, fun eq => eq ▸ rfl⟩

/-- **Settings resolve on a journal** if one stage after another has a result on
the journal that the stage before it leaves. -/
theorem run_resolve_eq_ok {plan : Plan} {j j' : Journal} :
    s.resolve.run.run j = (.ok plan, j') ↔
      s.prefixLen ≤ 128 ∧ ∃ shared j₁ ip4 j₂ ip6 j₃ managed j₄ proxied,
        (readDomains domainsKey s.domains.bytes).run.run j = (.ok shared, j₁) ∧
        (readDomains ip4DomainsKey s.ip4Domains.bytes).run.run j₁ = (.ok ip4, j₂) ∧
        (readEntries ip6DomainsKey s.ip6Domains.bytes s.prefixLen).run.run j₂ = (.ok ip6, j₃) ∧
        (consolidate { shared, ip4, ip6 }).run.run j₃ = (.ok managed, j₄) ∧
        (readExpression proxiedKey s.proxied.bytes).run.run j₄ = (.ok proxied, j') ∧
        plan = { managed, proxied, prefixLen := s.prefixLen } := by
  unfold resolve
  simp only [Checked.run_bind_eq_ok]
  constructor
  · rintro ⟨_, _, valid, shared, j₁, hshared, ip4, j₂, hip4, ip6, j₃, hip6, managed, j₄, merged,
      proxied, _, hproxied, made⟩
    obtain ⟨le, rfl⟩ := run_checked_validate_eq_ok.1 valid
    obtain ⟨eq, rfl⟩ := Prod.mk.inj made
    obtain rfl := Except.ok.inj eq
    exact ⟨le, shared, j₁, ip4, j₂, ip6, j₃, managed, j₄, proxied, hshared, hip4, hip6, merged,
      hproxied, rfl⟩
  · rintro ⟨le, shared, j₁, ip4, j₂, ip6, j₃, managed, j₄, proxied, hshared, hip4, hip6, merged,
      hproxied, rfl⟩
    exact ⟨(), j, run_checked_validate_eq_ok.2 ⟨le, rfl⟩, shared, j₁, hshared, ip4, j₂, hip4, ip6,
      j₃, hip6, managed, j₄, merged, proxied, j', hproxied, rfl⟩

/-- Settings resolve without a message if every stage has a result and writes
none. -/
theorem run_resolve_of_silent {shared ip4 : List Domain} {ip6 : List Entry} {managed : Managed}
    {proxied : Predicate} {j : Journal} (le : s.prefixLen ≤ 128)
    (hshared : (readDomains domainsKey s.domains.bytes).run.run j = (.ok shared, j))
    (hip4 : (readDomains ip4DomainsKey s.ip4Domains.bytes).run.run j = (.ok ip4, j))
    (hip6 : (readEntries ip6DomainsKey s.ip6Domains.bytes s.prefixLen).run.run j = (.ok ip6, j))
    (merged : (consolidate { shared, ip4, ip6 }).run.run j = (.ok managed, j))
    (hproxied : (readExpression proxiedKey s.proxied.bytes).run.run j = (.ok proxied, j)) :
    s.resolve.run.run j = (.ok { managed, proxied, prefixLen := s.prefixLen }, j) :=
  run_resolve_eq_ok.2 ⟨le, shared, j, ip4, j, ip6, j, managed, j, proxied, hshared, hip4, hip6,
    merged, hproxied, rfl⟩

end Settings

/-! ## The discipline of reading and resolving -/

/-- All readers fail alike on a value, for a reason that keeps it from having
tokens, and write nothing but that. -/
def IsRefused (key : String) (value : List UInt8) (prefixLen : UInt8) (cause : LexError) :
    Prop :=
  (readDomains key value).outcome = .failure (.setting key value (.illFormed cause)) ∧
  (readEntries key value prefixLen).outcome = .failure (.setting key value (.illFormed cause)) ∧
  (readExpression key value).outcome = .failure (.setting key value (.illFormed cause))

theorem isRefused_of_lexError (key : String) {value : List UInt8} (prefixLen : UInt8)
    {cause : LexError} (h : Token.ofBytes value = .error cause) :
    IsRefused key value prefixLen cause :=
  ⟨(readSetting_of_lexError key _ h).2, (readSetting_of_lexError key _ h).2,
    (readSetting_of_lexError key _ h).2⟩

/-- Bytes that are not UTF-8 are refused for that. -/
theorem isRefused_of_not_utf8 (key : String) {value : List UInt8} (prefixLen : UInt8)
    (h : ∀ text, value ≠ Text.Utf8.encode text) :
    ∃ defect, IsRefused key value prefixLen (.notUtf8 defect) := by
  cases hd : Text.Utf8.decode value with
  | error defect =>
    refine ⟨defect, isRefused_of_lexError key prefixLen ?_⟩
    rw [Token.ofBytes, hd]
  | ok text => exact absurd (Text.Utf8.decode_eq_ok_iff.1 hd) (h text)

/-- A text with an operator that is not double is refused for that. -/
theorem isRefused_of_ofText (key : String) {text : List Char} (prefixLen : UInt8)
    {cause : LexError} (h : Token.ofText text = .error cause) :
    IsRefused key (Text.Utf8.encode text) prefixLen cause := by
  refine isRefused_of_lexError key prefixLen ?_
  rw [Token.ofBytes, Text.Utf8.decode_eq_ok_iff.2 rfl]
  exact h

/-- **Reading and resolving are disciplined.** Every reader appends
warnings to the journal and, if it fails, the text of its error behind
them; a value that is not UTF-8, or has an operator that is not double, is
refused for that before anything else is looked at. Resolving settings
fails with the error of the first stage that fails, and writes what the
stages write up to that one. -/
theorem reading_and_resolving_are_disciplined :
    (∀ (key : String) (value : List UInt8) (prefixLen : UInt8),
      (readDomains key value).IsDisciplined ∧
      (readEntries key value prefixLen).IsDisciplined ∧
      (readExpression key value).IsDisciplined ∧
      ((∀ text, value ≠ Text.Utf8.encode text) →
        ∃ defect, IsRefused key value prefixLen (.notUtf8 defect)) ∧
      ∀ text cause, value = Text.Utf8.encode text → Token.ofText text = .error cause →
        IsRefused key value prefixLen cause) ∧
    ∀ s : Settings,
      s.resolve.IsDisciplined ∧
      s.resolve.outcome.error? = Stage.all.findSome? (fun stage => (s.stage stage).error?) ∧
      s.resolve.outcome.messages =
        (Stage.all.take (Stage.all.findIdx (fun stage => (s.stage stage).error?.isSome) + 1)).flatMap
          fun stage => (s.stage stage).messages := by
  refine ⟨fun key value prefixLen => ⟨isDisciplined_readSetting .., isDisciplined_readSetting ..,
    isDisciplined_readSetting .., isRefused_of_not_utf8 key prefixLen, ?_⟩,
    fun s => ⟨(Settings.resolve_spec s).1, ?_, ?_⟩⟩
  · rintro text cause rfl h
    exact isRefused_of_ofText key prefixLen h
  · rw [← Outcome.error?_void, s.void_outcome_resolve, Outcome.error?_inOrder,
      List.findSome?_map]
    rfl
  · rw [← Outcome.messages_void, s.void_outcome_resolve, Outcome.messages_inOrder,
      List.findIdx_map, ← List.map_take, List.flatMap_map]
    rfl

/-- A byte that begins no character, and a bar that stands alone behind a
domain that is none, are both what the value is refused for. -/
theorem lexical_errors_come_first :
    ((∀ text, [0xFF] ≠ Text.Utf8.encode text) ∧
      ∃ defect, IsRefused "DDNS_PROXIED" [0xFF] 64 (.notUtf8 defect)) ∧
    Token.ofText "is(-.a b)|".toList = .error .singleOr ∧
      IsRefused "DDNS_PROXIED" (Text.Utf8.encode "is(-.a b)|".toList) 64 .singleOr := by
  have notUtf8 : ∀ text, [0xFF] ≠ Text.Utf8.encode text := by
    intro text h
    have decoded := Text.Utf8.decode_eq_ok_iff.2 h
    cases decoded
  have notDouble : Token.ofText "is(-.a b)|".toList = .error .singleOr := by
    rfl
  exact ⟨⟨notUtf8, (reading_and_resolving_are_disciplined.1 _ _ 64).2.2.2.1 notUtf8⟩, notDouble,
    (reading_and_resolving_are_disciplined.1 _ _ 64).2.2.2.2 _ _ rfl notDouble⟩

end RecordPlan
