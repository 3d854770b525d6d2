import RecordPlan.Proofs.CommandLine.Level
import RecordPlan.Proofs.CommandLine.Printed
import RecordPlan.Proofs.Plan.Records

/-!
# What a run checks

A run makes four **checks**, one after another: the address, the level of logging,
whether the settings are loaded, and whether they come to a plan. `Check.Passes`
says for each what is asked for, and `Check.Reports` with which line it is reported
that it is not given; neither mentions how a run is made.

The first check that fails ends the run. What is shown of it is its line, behind
lines of which none says that the program has failed
(`exists_run_eq_of_reports`). If no check fails the records are printed
(`exists_run_eq_of_resolved`), as `PrintedAs` says, and all that can still go wrong is
that printing does not work. The main statement, `run_is_decided_by_checks`, puts this
together for every environment.
-/

namespace RecordPlan.CommandLine

variable {env : Lookup} {detected : Option Ip6} {line : Line}

/-! ## The checks -/

/-- **The address that an environment gives**: none if the variable is not set, not
UTF-8 or blank. -/
inductive GivesAddress (env : Lookup) : Option Ip6 → Prop where
  /-- The variable has no text. -/
  | unset (absent : ∀ text, env addressKey ≠ some (Text.Utf8.encode text)) :
      GivesAddress env none
  /-- The text is blank. -/
  | blank {text : List Char} (value : env addressKey = some (Text.Utf8.encode text))
      (empty : Text.trim text = []) : GivesAddress env none
  /-- The text is that of an address, up to blanks around it. -/
  | address {text : List Char} {a : Ip6} (value : env addressKey = some (Text.Utf8.encode text))
      (read : Ip6.ofText? (Text.trim text) = some a) : GivesAddress env (some a)

/-- The checks that a run makes. -/
inductive Check where
  /-- Whether there is an address in the variable for one. -/
  | address
  /-- Whether there is a level in the variable for one. -/
  | level
  /-- Whether the settings are loaded. -/
  | loading
  /-- Whether the settings come to a plan. -/
  | resolving
  deriving DecidableEq

variable {check : Check}

namespace Check

/-- The checks that are made before a check. -/
def earlier : Check → List Check
  | address => []
  | level => [address]
  | loading => [address, level]
  | resolving => [address, level, loading]

/-- **What a check asks for.** -/
def Passes (env : Lookup) : Check → Prop
  | address => ∃ detected, GivesAddress env detected
  | level => ∃ limit, SetsLevel env limit
  | loading => ∃ s, Settings.ofLookup env = .ok s
  | resolving => ∃ s plan, Settings.ofLookup env = .ok s ∧ s.resolve.outcome.result = .ok plan

/-- **What is shown for a check that fails.** -/
inductive Reports (env : Lookup) : Check → Line → Prop where
  /-- The text for an address is not blank, and not that of an address. -/
  | address {text : List Char} (value : env addressKey = some (Text.Utf8.encode text))
      (filled : Text.trim text ≠ []) (unread : Ip6.ofText? (Text.trim text) = none) :
      Reports env .address (.notice ("Configuration error: " ++ addressKey ++ " (" ++
        Text.quote (String.ofList text) ++
        ") is not an IPv6 address: invalid IPv6 address syntax"))
  /-- The text for a level names none. -/
  | level {text : List Char} (value : env levelKey = some (Text.Utf8.encode text))
      (unknown : ∀ limit : Level, Text.lower text ≠ limit.name.toList) :
      Reports env .level (.notice ("Configuration validation error: " ++ levelKey ++ " '" ++
        String.ofList text ++ "' is not valid. Valid levels: trace, debug, info, warn, error"))
  /-- The settings are not loaded. -/
  | loading {e : SettingsError} (failure : Settings.ofLookup env = .error e) :
      Reports env .loading (.log .error programSource e.message)
  /-- The settings do not come to a plan. -/
  | resolving {s : Settings} {e : SettingsError} (loaded : Settings.ofLookup env = .ok s)
      (failure : s.resolve.outcome.result = .error e) :
      Reports env .resolving (.log .error journalSource e.message)

/-- What is shown says that the program has failed. -/
theorem Reports.isFailure (h : check.Reports env line) : line.isFailure = true := by
  cases h <;> rfl

/-- **All checks pass, or there is a first that fails.** -/
theorem passes_or_exists_first (env : Lookup) :
    (∀ check : Check, check.Passes env) ∨
      ∃ check : Check, (∀ c ∈ check.earlier, c.Passes env) ∧ ¬ check.Passes env := by
  by_cases haddress : address.Passes env
  case neg => exact .inr ⟨address, by simp [earlier], haddress⟩
  by_cases hlevel : level.Passes env
  case neg => exact .inr ⟨level, by simp [earlier, haddress], hlevel⟩
  by_cases hloading : loading.Passes env
  case neg => exact .inr ⟨loading, by simp [earlier, haddress, hlevel], hloading⟩
  by_cases hresolving : resolving.Passes env
  case neg => exact .inr ⟨resolving, by simp [earlier, haddress, hlevel, hloading], hresolving⟩
  refine .inl fun check => ?_
  cases check with
  | address => exact haddress
  | level => exact hlevel
  | loading => exact hloading
  | resolving => exact hresolving

/-- **A check that fails reports**, if those before it have passed. -/
theorem exists_reports_of_not_passes (before : ∀ c ∈ check.earlier, c.Passes env)
    (fails : ¬ check.Passes env) : ∃ line, check.Reports env line := by
  cases check with
  | address =>
    cases h : textOf? env addressKey with
    | none => exact absurd ⟨_, .unset (textOf?_eq_none_iff.1 h)⟩ fails
    | some text =>
      have value := textOf?_eq_some_iff.1 h
      have filled : Text.trim text ≠ [] := fun empty => fails ⟨_, .blank value empty⟩
      cases read : Ip6.ofText? (Text.trim text) with
      | none => exact ⟨_, .address value filled read⟩
      | some a => exact absurd ⟨_, .address value read⟩ fails
  | level =>
    cases h : textOf? env levelKey with
    | none => exact absurd ⟨_, .unset (textOf?_eq_none_iff.1 h)⟩ fails
    | some text =>
      have value := textOf?_eq_some_iff.1 h
      exact ⟨_, .level value fun limit names => fails ⟨limit, .named value names⟩⟩
  | loading =>
    cases h : Settings.ofLookup env with
    | error e => exact ⟨_, .loading h⟩
    | ok s => exact absurd ⟨s, h⟩ fails
  | resolving =>
    obtain ⟨s, loaded⟩ : loading.Passes env := before _ (by simp [earlier])
    cases h : s.resolve.outcome.result with
    | error e => exact ⟨_, .resolving loaded h⟩
    | ok plan => exact absurd ⟨s, plan, loaded, h⟩ fails

end Check

theorem detectedAddress_of_givesAddress (h : GivesAddress env detected) :
    detectedAddress env = .ok detected := by
  cases h with
  | unset absent => rw [detectedAddress, textOf?_eq_none_iff.2 absent]
  | blank value empty =>
    rw [detectedAddress, textOf?_eq_some_iff.2 value]
    exact if_pos empty
  | @address text a value read =>
    -- a text that is read is not blank, as no address has an empty text
    have filled : Text.trim text ≠ [] := by
      intro empty
      rw [empty] at read
      cases read
    rw [detectedAddress, textOf?_eq_some_iff.2 value]
    dsimp only
    rw [if_neg filled, read]

/-! ## What comes of settings -/

/-- Warnings do not say that the program has failed. -/
theorem isFailure_of_mem_linesOfJournal {messages : List Message}
    (warnings : ∀ m ∈ messages, m.severity = .warning) :
    ∀ l ∈ linesOfJournal ⟨messages⟩, l.isFailure = false := by
  intro l hl
  obtain ⟨m, hm, rfl⟩ := List.mem_map.1 hl
  rw [warnings m hm]
  rfl

/-- What is told of a plan does not say that the program has failed. -/
theorem isFailure_of_mem_planLines {plan : Plan} {count : Nat} :
    ∀ l ∈ resolvedLine plan :: planLines plan count, l.isFailure = false := by
  intro l hl
  rw [List.mem_cons, planLines, List.mem_append, List.mem_singleton, List.mem_ite_nil_right,
    List.mem_singleton] at hl
  rcases hl with rfl | ⟨-, rfl⟩ | rfl <;> rfl

/-- **Settings that do not come to a plan** end the run with the text of their
error. -/
theorem exists_runSettings_of_error {s : Settings} {e : SettingsError}
    (failure : s.resolve.outcome.result = .error e) :
    ∃ lines : List Line, (∀ l ∈ lines, l.isFailure = false) ∧
      ∀ detected printFailure, runSettings (.ok s) detected printFailure =
        ⟨.configError, "", lines ++ [.log .error journalSource e.message]⟩ := by
  obtain ⟨warnings, all, eq⟩ := (Settings.resolve_spec s).1.orderly
  rw [failure] at eq
  refine ⟨linesOfJournal ⟨warnings⟩, isFailure_of_mem_linesOfJournal all, fun detected why => ?_⟩
  rw [runSettings]
  dsimp only
  rw [Checked.run_empty, failure, eq]
  dsimp only
  rw [linesOfJournal, List.map_append]
  rfl

/-- **The records of a plan are printed** if printing works, and what is shown
besides is the same if it does not. -/
theorem exists_runSettings_of_ok {s : Settings} {plan : Plan}
    (resolved : s.resolve.outcome.result = .ok plan) (detected : Option Ip6) :
    ∃ lines : List Line, (∀ l ∈ lines, l.isFailure = false) ∧
      runSettings (.ok s) detected none =
        ⟨.success, printed (plan.records detected), lines⟩ ∧
      ∀ why, runSettings (.ok s) detected (some why) =
        ⟨.runtimeError, "",
          lines ++ [.log .error programSource ("Failed to print plan: " ++ why)]⟩ := by
  have warnings := (Outcome.isOrderly_of_ok resolved).1 (Settings.resolve_spec s).1.orderly
  refine ⟨linesOfJournal ⟨s.resolve.outcome.messages⟩ ++
    resolvedLine plan :: planLines plan (plan.records detected).length, ?_, ?_, fun why => ?_⟩
  · intro l hl
    rcases List.mem_append.1 hl with hl | hl
    · exact isFailure_of_mem_linesOfJournal warnings l hl
    · exact isFailure_of_mem_planLines l hl
  · rw [runSettings]
    dsimp only
    rw [Checked.run_empty, resolved]
  · rw [runSettings]
    dsimp only
    rw [Checked.run_empty, resolved]

/-! ## Runs -/

/-- A run in which the program's own variables are in order. -/
theorem run_of_own_variables {limit : Level} (gives : GivesAddress env detected)
    (sets : SetsLevel env limit) (printFailure : Option String) :
    run env printFailure =
      (runSettings (Settings.ofLookup env) detected printFailure).limitedTo limit := by
  rw [run_eq_limitedTo sets, wholeRun, detectedAddress_of_givesAddress gives]

/-- **The first check that fails ends the run**, and its line is shown last and is
the only one that says that the program has failed. -/
theorem exists_run_eq_of_reports (before : ∀ c ∈ check.earlier, c.Passes env)
    (reports : check.Reports env line) :
    ∃ lines : List Line, (∀ l ∈ lines, l.isFailure = false) ∧
      ∀ printFailure, run env printFailure = ⟨.configError, "", lines ++ [line]⟩ := by
  cases reports with
  | address value filled unread =>
    refine ⟨[], nofun, fun printFailure => ?_⟩
    rw [run, detectedAddress, textOf?_eq_some_iff.2 value]
    dsimp only
    rw [if_neg filled, unread]
    rfl
  | @level text value unknown =>
    obtain ⟨detected, gives⟩ : Check.address.Passes env := before _ (by simp [Check.earlier])
    refine ⟨[], nofun, fun printFailure => ?_⟩
    have refused : ¬ Level.isName text = true := fun h => by
      obtain ⟨limit, names⟩ := Level.isName_iff.1 h
      exact unknown limit names
    rw [run, detectedAddress_of_givesAddress gives, levelText, textOf?_eq_some_iff.2 value,
      Option.getD_some, checkLevel, if_neg refused]
    rfl
  | loading failure =>
    obtain ⟨detected, gives⟩ : Check.address.Passes env := before _ (by simp [Check.earlier])
    obtain ⟨limit, sets⟩ : Check.level.Passes env := before _ (by simp [Check.earlier])
    refine ⟨[], nofun, fun printFailure => ?_⟩
    rw [run_of_own_variables gives sets, failure]
    exact Outcome.limitedTo_append_failure rfl limit _ _ []
  | @resolving s e loaded failure =>
    obtain ⟨detected, gives⟩ : Check.address.Passes env := before _ (by simp [Check.earlier])
    obtain ⟨limit, sets⟩ : Check.level.Passes env := before _ (by simp [Check.earlier])
    obtain ⟨lines, all, eq⟩ := exists_runSettings_of_error failure
    refine ⟨lines.filter (·.passes limit), fun l hl => all l (List.mem_filter.1 hl).1,
      fun printFailure => ?_⟩
    rw [run_of_own_variables gives sets, loaded, eq]
    exact Outcome.limitedTo_append_failure rfl limit ..

/-- **If every check passes the records are printed**, unless printing does not
work. -/
theorem exists_run_eq_of_resolved {limit : Level} {s : Settings} {plan : Plan}
    (gives : GivesAddress env detected) (sets : SetsLevel env limit)
    (loaded : Settings.ofLookup env = .ok s) (resolved : s.resolve.outcome.result = .ok plan) :
    ∃ lines : List Line, (∀ l ∈ lines, l.isFailure = false) ∧
      run env none = ⟨.success, printed (plan.records detected), lines⟩ ∧
      ∀ why, run env (some why) = ⟨.runtimeError, "",
        lines ++ [.log .error programSource ("Failed to print plan: " ++ why)]⟩ := by
  obtain ⟨lines, all, shown, failed⟩ := exists_runSettings_of_ok resolved detected
  refine ⟨lines.filter (·.passes limit), fun l hl => all l (List.mem_filter.1 hl).1, ?_,
    fun why => ?_⟩
  · rw [run_of_own_variables gives sets, loaded, shown]
    rfl
  · rw [run_of_own_variables gives sets, loaded, failed]
    exact Outcome.limitedTo_append_failure rfl limit ..

/-- **A failed run**: it exits with a code, prints nothing, and shows one line that
says that the program has failed, which is the last of all. -/
structure Outcome.FailsWith (o : Outcome) (code : Nat) (line : Line) : Prop where
  /-- The code. -/
  code : o.exit.code = code
  /-- Nothing is printed. -/
  stdout : o.stdout = ""
  /-- The line says that the program has failed. -/
  isFailure : line.isFailure = true
  /-- The line is the last one, and no other says so. -/
  stderr : ∃ lines, o.stderr = lines ++ [line] ∧ ∀ l ∈ lines, l.isFailure = false

/-- **A run is decided by its checks.** It exits with 0 if and only if all of them
pass; it has then printed the records of the plan and no others, and shown nothing that
says that the program has failed. Otherwise it exits with 1 and shows the report of the first
check that fails, whether or not printing works. If printing does not work, a run
that would have exited with 0 exits with 2. -/
theorem run_is_decided_by_checks (env : Lookup) :
    ((run env none).exit.code = 0 ↔ ∀ check : Check, check.Passes env) ∧
    ((run env none).exit.code = 0 → ∃ detected s plan,
      GivesAddress env detected ∧ Settings.ofLookup env = .ok s ∧
      s.resolve.outcome.result = .ok plan ∧
      PrintedAs (plan.records detected) (run env none).stdout ∧
      (∀ records, PrintedAs records (run env none).stdout → records = plan.records detected) ∧
      (∀ l ∈ (run env none).stderr, l.isFailure = false) ∧
      ∀ why, (run env (some why)).FailsWith 2
        (.log .error programSource ("Failed to print plan: " ++ why))) ∧
    ((run env none).exit.code ≠ 0 → ∃ (check : Check) (line : Line),
      (∀ c ∈ check.earlier, c.Passes env) ∧ ¬ check.Passes env ∧ check.Reports env line ∧
      (run env none).FailsWith 1 line ∧
      ∀ why, run env (some why) = run env none) := by
  rcases Check.passes_or_exists_first env with passes | ⟨check, before, fails⟩
  · obtain ⟨detected, gives⟩ := passes .address
    obtain ⟨limit, sets⟩ := passes .level
    obtain ⟨s, plan, loaded, resolved⟩ := passes .resolving
    obtain ⟨lines, all, shown, failed⟩ := exists_run_eq_of_resolved gives sets loaded resolved
    have code : (run env none).exit.code = 0 := by rw [shown]; rfl
    refine ⟨iff_of_true code passes, fun _ => ?_, fun ne => absurd code ne⟩
    have printed : PrintedAs (plan.records detected) (run env none).stdout := by
      rw [shown]
      exact printedAs_iff.2 rfl
    refine ⟨detected, s, plan, gives, loaded, resolved, printed,
      fun records others => others.unique printed, by rwa [shown], fun why => ?_⟩
    rw [failed why]
    exact ⟨rfl, rfl, rfl, lines, rfl, all⟩
  · obtain ⟨line, reports⟩ := Check.exists_reports_of_not_passes before fails
    obtain ⟨lines, all, failed⟩ := exists_run_eq_of_reports before reports
    have code : (run env none).exit.code ≠ 0 := by rw [failed]; exact Nat.one_ne_zero
    refine ⟨iff_of_false code fun passes => fails (passes check), fun eq => absurd eq code,
      fun _ => ?_⟩
    refine ⟨check, line, before, fails, reports, ?_, fun why => by rw [failed, failed]⟩
    rw [failed]
    exact ⟨rfl, rfl, reports.isFailure, lines, rfl, all⟩

/-- An environment with a domain for both families, its wildcard with a host part, an
address with blanks around it, and a level in capital letters. -/
def sharedLookup : Lookup := fun key =>
  ([(addressKey, " 2001:db8::1\t"), (levelKey, "WARN"), (domainsKey, "a.org"),
    (ip6DomainsKey, "*.a.org[::5]"), (proxiedKey, "is(a.org)")].lookup key).map
      fun value => Text.Utf8.encode value.toList

theorem ofLookup_sharedLookup : Settings.ofLookup sharedLookup = .ok sharedSettings := by
  decide +kernel

/-- What is printed there: the domain for either family, and the wildcard in between. -/
def sharedPrintout : String :=
"[
  \x7b
    \"domain\": \"a.org\",
    \"family\": \"v4\",
    \"proxied\": true
  \x7d,
  \x7b
    \"domain\": \"*.a.org\",
    \"family\": \"v6\",
    \"proxied\": false,
    \"address\": \"2001:db8::5\"
  \x7d,
  \x7b
    \"domain\": \"a.org\",
    \"family\": \"v6\",
    \"proxied\": true,
    \"address\": \"2001:db8::1\"
  \x7d
]
"

-- the characters are compared as lists: to take a text apart again is what is slow
set_option maxRecDepth 2000 in
theorem printed_sharedPlan :
    printed (sharedPlan.records (some ⟨0x20010DB8000000000000000000000001⟩)) = sharedPrintout := by
  have lineEnd : "\n" = String.ofList ['\n'] := rfl
  rw [printed, Json.Value.toPrettyText, lineEnd, ← String.ofList_append]
  exact String.ofList_inj.2 (by decide +kernel)

/-- The records of that environment are printed, which can still not work; and a list
that is not read ends the run. -/
theorem shared_domain_is_printed :
    (∀ check : Check, check.Passes sharedLookup) ∧
    (run sharedLookup none).stdout = sharedPrintout ∧
    (run sharedLookup (some "Broken pipe (os error 32)")).FailsWith 2
      (.log .error programSource "Failed to print plan: Broken pipe (os error 32)") ∧
    ∃ (check : Check) (line : Line), ¬ check.Passes (unfinishedLookup none) ∧
      (run (unfinishedLookup none) none).FailsWith 1 line := by
  obtain ⟨iff, printing, -⟩ := run_is_decided_by_checks sharedLookup
  have passes : ∀ check : Check, check.Passes sharedLookup := by
    intro check
    cases check with
    | address => exact ⟨_, .address rfl rfl⟩
    | level => exact ⟨.warn, .named rfl (by decide)⟩
    | loading => exact ⟨_, ofLookup_sharedLookup⟩
    | resolving => exact ⟨_, _, ofLookup_sharedLookup, sharedSettings_resolve⟩
  obtain ⟨detected, s, plan, gives, loaded, resolved, printed, -, -, unprinted⟩ :=
    printing (iff.2 passes)
  obtain rfl := Except.ok.inj (ofLookup_sharedLookup.symm.trans loaded)
  obtain rfl := Except.ok.inj (sharedSettings_resolve.symm.trans resolved)
  have found : detectedAddress sharedLookup = .ok (some ⟨0x20010DB8000000000000000000000001⟩) := by
    decide +kernel
  obtain rfl := Except.ok.inj (found.symm.trans (detectedAddress_of_givesAddress gives))
  obtain ⟨-, -, failing⟩ := run_is_decided_by_checks (unfinishedLookup none)
  obtain ⟨check, line, -, fails, -, failed, -⟩ := failing (by decide +kernel)
  exact ⟨passes, (printedAs_iff.1 printed).trans printed_sharedPlan, unprinted _, check, line,
    fails, failed⟩

end RecordPlan.CommandLine
