import RecordPlan.Proofs.Journal
import RecordPlan.Proofs.Setting.Entry
import RecordPlan.Setting.Reading

/-!
# What reading a setting writes

All three kinds of values are read in the same way, `readSetting`, which
differs only in the reader of tokens. Its outcome is told once and for
all: a value that cannot be split into tokens is refused for that, with no
word about anything else (`readSetting_of_lexError`); otherwise there is
one warning for each missing comma that the reader has met, in order, and
behind them the error that has ended reading, if one has
(`readSetting_of_tokens`).
-/

namespace RecordPlan

variable {α : Type} (key : String) {value : List UInt8} (read : List Token → Scan α)

/-- The warnings about missing commas. -/
def gapWarnings (key : String) (value : List UInt8) (gaps : List String) : List Message :=
  gaps.map fun word => ⟨.warning, gapMessage key value word⟩

theorem severity_of_mem_gapWarnings {key : String} {gaps : List String} {m : Message}
    (h : m ∈ gapWarnings key value gaps) : m.severity = .warning := by
  obtain ⟨word, -, rfl⟩ := List.mem_map.1 h
  rfl

/-- Warnings about missing commas are written one by one. -/
theorem reportGaps_spec (value : List UInt8) (gaps : List String) :
    (gaps.forM fun word => report .warning (gapMessage key value word) : Checked Unit).Appends ∧
      (gaps.forM fun word => report .warning (gapMessage key value word) : Checked Unit).outcome
        = ⟨.ok (), gapWarnings key value gaps⟩ := by
  induction gaps with
  | nil => exact ⟨Checked.appends_pure (), Checked.outcome_pure ()⟩
  | cons word rest ih =>
    have spec := Checked.bind_spec
      (Checked.appends_report .warning (gapMessage key value word)) fun _ => ih.1
    rw [Checked.outcome_report, Outcome.bind_of_ok rfl, ih.2] at spec
    exact spec

/-- What a reader comes to as the result of reading a setting. -/
def settingResult (key : String) (value : List UInt8) :
    Except ValueError α → Except SettingsError α
  | .error cause => .error (.setting key value cause)
  | .ok a => .ok a

/-- **A value without tokens** is refused for what keeps it from having
tokens, and nothing else is said about it. -/
theorem readSetting_of_lexError {cause : LexError} (h : Token.ofBytes value = .error cause) :
    (readSetting key value read).Appends ∧
      (readSetting key value read).outcome
        = .failure (.setting key value (.illFormed cause)) := by
  unfold readSetting
  rw [h]
  exact ⟨Checked.appends_failWith _, Checked.outcome_failWith _⟩

/-- **A value with tokens** is judged by its tokens, after one warning for
each missing comma. -/
theorem readSetting_of_tokens {ts : List Token} (h : Token.ofBytes value = .ok ts) :
    (readSetting key value read).Appends ∧
      (readSetting key value read).outcome
        = ⟨settingResult key value (read ts).result,
            gapWarnings key value (read ts).gaps ++ match (read ts).result with
              | .ok _ => []
              | .error cause => [⟨.error, (SettingsError.setting key value cause).message⟩]⟩ := by
  unfold readSetting
  rw [h]
  dsimp only
  have gaps := reportGaps_spec key value (read ts).gaps
  cases hr : (read ts).result with
  | error cause =>
    have spec := Checked.bind_spec gaps.1
      fun _ => Checked.appends_failWith (α := α) (.setting key value cause)
    rw [gaps.2, Outcome.bind_of_ok rfl, Checked.outcome_failWith] at spec
    exact spec
  | ok a =>
    have spec := Checked.bind_spec gaps.1 fun _ => Checked.appends_pure a
    rw [gaps.2, Outcome.bind_of_ok rfl, Checked.outcome_pure] at spec
    exact spec

/-- **Reading a setting is disciplined**, whatever the reader. -/
theorem isDisciplined_readSetting (value : List UInt8) : (readSetting key value read).IsDisciplined := by
  cases h : Token.ofBytes value with
  | error cause =>
    obtain ⟨appends, eq⟩ := readSetting_of_lexError key read h
    refine ⟨appends, ?_⟩
    rw [eq]
    exact ⟨[], by simp [Outcome.failure]⟩
  | ok ts =>
    obtain ⟨appends, eq⟩ := readSetting_of_tokens key read h
    refine ⟨appends, gapWarnings key value (read ts).gaps,
      fun _ => severity_of_mem_gapWarnings, ?_⟩
    rw [eq]
    cases (read ts).result <;> rfl

/-- A setting is read if its value has tokens and these are read. -/
theorem readSetting_result_eq_ok {key : String} {read : List Token → Scan α} {a : α} :
    (readSetting key value read).outcome.result = .ok a ↔
      ∃ ts, Token.ofBytes value = .ok ts ∧ (read ts).result = .ok a := by
  cases h : Token.ofBytes value with
  | error cause => simp [(readSetting_of_lexError key read h).2, Outcome.failure]
  | ok ts =>
    rw [(readSetting_of_tokens key read h).2]
    cases hr : (read ts).result <;> simp [settingResult, hr]

/-- **A list of domains is read** if the value has tokens, and these are a
list without host IDs. -/
theorem readDomains_result_eq_ok {key : String} {ds : List Domain} :
    (readDomains key value).outcome.result = .ok ds ↔
      ∃ ts es, Token.ofBytes value = .ok ts ∧ Listing none ts es ∧ es.map (·.domain) = ds := by
  rw [readDomains, readSetting_result_eq_ok]
  simp only [scanDomains_result_eq_ok, exists_and_left]

/-- **A list of domains with host IDs is read** if the value has tokens, and
these are a list. -/
theorem readEntries_result_eq_ok {key : String} {n : UInt8} {es : List Entry} :
    (readEntries key value n).outcome.result = .ok es ↔
      ∃ ts, Token.ofBytes value = .ok ts ∧ Listing (some n) ts es := by
  rw [readEntries, readSetting_result_eq_ok]
  simp only [scanEntries_result_eq_ok]

/-- A list without host IDs is read alike where they are allowed. -/
theorem readEntries_of_readDomains {key key' : String} {n : UInt8} {ds : List Domain}
    {es : List Entry} (h : (readDomains key value).outcome.result = .ok ds) :
    (readEntries key' value n).outcome.result = .ok es ↔ es = ds.map (⟨·, none⟩) := by
  obtain ⟨ts, listed, tokens, list, rfl⟩ := readDomains_result_eq_ok.1 h
  rw [← list.eq_map_domain, readEntries_result_eq_ok]
  constructor
  · rintro ⟨ts', tokens', list'⟩
    obtain rfl := Except.ok.inj (tokens.symm.trans tokens')
    exact list'.unique list.allowHostIds
  · rintro rfl
    exact ⟨ts, tokens, list.allowHostIds⟩

/-- A setting that is read, with what its reader notes. -/
theorem readSetting_run_of_ok {key : String} {read : List Token → Scan α} {ts : List Token} {a : α}
    (tokens : Token.ofBytes value = .ok ts) (result : (read ts).result = .ok a)
    (j : Journal) :
    (readSetting key value read).run.run j =
      (.ok a, ⟨j.messages ++ gapWarnings key value (read ts).gaps⟩) := by
  obtain ⟨appends, outcome⟩ := readSetting_of_tokens key read tokens
  rw [appends j, outcome, result]
  exact congrArg (fun written => (Except.ok a, Journal.mk (j.messages ++ written)))
    (List.append_nil _)

/-- Where nothing is noted, a setting is read without a message. -/
theorem readSetting_of_silent {key : String} {read : List Token → Scan α} {ts : List Token} {a : α}
    (tokens : Token.ofBytes value = .ok ts) (result : (read ts).result = .ok a)
    (gaps : (read ts).gaps = []) (j : Journal) :
    (readSetting key value read).run.run j = (.ok a, j) := by
  rw [readSetting_run_of_ok tokens result, gaps]
  exact congrArg (fun written => (Except.ok a, Journal.mk written)) (List.append_nil _)

end RecordPlan
