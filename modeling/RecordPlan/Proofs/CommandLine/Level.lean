import RecordPlan.CommandLine
import RecordPlan.Proofs.Text.Utf8

/-!
# The level of logging

The text that sets the level is looked at twice: once to insist that it names a
level, and once for the level that it names. `SetsLevel` says what both ought to
find, and both do (`setsLevel_iff`).

What a run comes to does not depend on the level. The run as such is `wholeRun`,
in which every line is shown; the level is a limit that is put on its lines when
all is over (`run_eq_limitedTo`). Limits are put on one after another without
regard to their order, and no limit takes a line away that says that the program
has failed, which is all that is needed for the main statement,
`level_changes_only_what_is_shown`.
-/

namespace RecordPlan.CommandLine

variable {env env' : Lookup} {limit limit' : Level} {line : Line} {text : List Char}

/-! ## Names of levels -/

namespace Level

theorem ofText_eq_of_lower_eq {level : Level} (h : Text.lower text = level.name.toList) :
    ofText text = level := by
  rw [ofText, h, String.ofList_toList]
  cases level <;> rfl

/-- The text of a level that is accepted is the name of the level that is read
from it. -/
theorem lower_eq_of_isName (h : isName text = true) :
    Text.lower text = (ofText text).name.toList := by
  have name : String.ofList (Text.lower text) = (ofText text).name := by
    unfold isName at h
    unfold ofText
    split at h
    case h_6 => cases h
    all_goals next eq => rw [eq]; rfl
  rw [← name, String.toList_ofList]

/-- **A text is accepted if it names a level.** -/
theorem isName_iff : isName text = true ↔ ∃ level : Level, Text.lower text = level.name.toList := by
  refine ⟨fun h => ⟨_, lower_eq_of_isName h⟩, ?_⟩
  rintro ⟨level, h⟩
  rw [isName, h, String.ofList_toList]
  cases level <;> rfl

end Level

/-- **The level that an environment sets**: the one that the variable names, in
any letter case; `info` if the variable is not set or not UTF-8. -/
inductive SetsLevel (env : Lookup) : Level → Prop where
  /-- The variable names a level. -/
  | named {text : List Char} {level : Level} (value : env levelKey = some (Text.Utf8.encode text))
      (names : Text.lower text = level.name.toList) : SetsLevel env level
  /-- The variable has no text. -/
  | unset (absent : ∀ text, env levelKey ≠ some (Text.Utf8.encode text)) : SetsLevel env .info

/-- The text of a variable is the one that its value is the encoding of. -/
theorem textOf?_eq_some_iff {key : String} :
    textOf? env key = some text ↔ env key = some (Text.Utf8.encode text) := by
  have read (value : List UInt8) : (Text.Utf8.decode value).toOption = some text ↔
      value = Text.Utf8.encode text := by
    rw [← Text.Utf8.decode_eq_ok_iff]
    cases Text.Utf8.decode value <;> simp [Except.toOption]
  simp only [textOf?, Option.bind_eq_some_iff, read, exists_eq_right]

/-- A variable without a text is not the encoding of one. -/
theorem textOf?_eq_none_iff {key : String} :
    textOf? env key = none ↔ ∀ text, env key ≠ some (Text.Utf8.encode text) := by
  simp only [Option.eq_none_iff_forall_ne_some, ne_eq, textOf?_eq_some_iff]

theorem checkLevel_eq_ok_iff :
    checkLevel text = .ok () ↔ ∃ level : Level, Text.lower text = level.name.toList := by
  rw [← Level.isName_iff, checkLevel]
  split
  · next h => exact ⟨fun _ => h, fun _ => rfl⟩
  · next h => exact ⟨nofun, fun named => absurd named h⟩

/-- **The text that is accepted is the text that is read**: an environment sets a
level if its text is accepted and that level is read from it. -/
theorem setsLevel_iff {level : Level} :
    SetsLevel env level ↔
      checkLevel (levelText env) = .ok () ∧ Level.ofText (levelText env) = level := by
  constructor
  · intro h
    have named : Text.lower (levelText env) = level.name.toList := by
      cases h with
      | named value names => rwa [levelText, textOf?_eq_some_iff.2 value]
      | unset absent =>
        rw [levelText, textOf?_eq_none_iff.2 absent]
        rfl
    exact ⟨checkLevel_eq_ok_iff.2 ⟨level, named⟩, Level.ofText_eq_of_lower_eq named⟩
  · rintro ⟨accepted, rfl⟩
    obtain ⟨level, names⟩ := checkLevel_eq_ok_iff.1 accepted
    rw [Level.ofText_eq_of_lower_eq names]
    cases h : textOf? env levelKey with
    | some text =>
      rw [levelText, h] at names
      exact .named (textOf?_eq_some_iff.1 h) names
    | none =>
      rw [levelText, h] at names
      -- without a text the name that is read is that of the default
      obtain rfl : level = .info := by
        rw [← Level.ofText_eq_of_lower_eq names]
        exact Level.ofText_eq_of_lower_eq rfl
      exact .unset (textOf?_eq_none_iff.1 h)

/-! ## Limits -/

namespace Line

/-- No limit takes away a line that says that the program has failed. -/
theorem passes_of_isFailure (h : line.isFailure = true) (limit : Level) :
    line.passes limit = true := by
  cases line with
  | notice text => rfl
  | log level source text =>
    obtain rfl : level = .error := of_decide_eq_true h
    cases limit <;> rfl

/-- A line that passes a limit passes every lower one. -/
theorem passes_of_le (le : limit.rank ≤ limit'.rank) (h : line.passes limit' = true) :
    line.passes limit = true := by
  cases line with
  | notice text => rfl
  | log level source text => exact decide_eq_true (Nat.le_trans le (of_decide_eq_true h))

end Line

namespace Outcome

/-- An outcome of which only those lines are shown that pass a limit. -/
def limitedTo (o : Outcome) (limit : Level) : Outcome :=
  { o with stderr := o.stderr.filter (·.passes limit) }

/-- The lines that pass the higher of two limits are found among those that pass
the lower. -/
theorem stderr_limitedTo_of_le (le : limit.rank ≤ limit'.rank) (o : Outcome) :
    (o.limitedTo limit').stderr = (o.limitedTo limit).stderr.filter (·.passes limit') := by
  rw [limitedTo, limitedTo, List.filter_filter]
  refine List.filter_congr fun line _ => ?_
  cases h : line.passes limit' with
  | false => rfl
  | true => rw [Line.passes_of_le le h]; rfl

/-- **What says that the program has failed is shown under every limit.** -/
theorem failures_limitedTo (o : Outcome) (limit : Level) :
    (o.limitedTo limit).stderr.filter (·.isFailure) = o.stderr.filter (·.isFailure) := by
  rw [limitedTo, List.filter_filter]
  refine List.filter_congr fun line _ => ?_
  cases h : line.isFailure with
  | false => rfl
  | true => rw [Line.passes_of_isFailure h]; rfl

/-- A line that says that the program has failed stays the last one. -/
theorem limitedTo_append_failure (h : line.isFailure = true) (limit : Level) (exit : Exit)
    (stdout : String) (lines : List Line) :
    limitedTo ⟨exit, stdout, lines ++ [line]⟩ limit =
      ⟨exit, stdout, lines.filter (·.passes limit) ++ [line]⟩ := by
  rw [limitedTo, List.filter_append, List.filter_cons_of_pos (Line.passes_of_isFailure h limit),
    List.filter_nil]

end Outcome

/-! ## Runs under a limit -/

/-- What a run comes to in an environment whose level is accepted, with every
line shown. -/
def wholeRun (env : Lookup) (printFailure : Option String) : Outcome :=
  match detectedAddress env with
  | .error text => ⟨.configError, "", [.notice text]⟩
  | .ok detected => runSettings (Settings.ofLookup env) detected printFailure

/-- **A run is the whole run under the limit that the environment sets.** -/
theorem run_eq_limitedTo (sets : SetsLevel env limit) (printFailure : Option String) :
    run env printFailure = (wholeRun env printFailure).limitedTo limit := by
  obtain ⟨accepted, rfl⟩ := setsLevel_iff.1 sets
  unfold run wholeRun
  cases detectedAddress env with
  | error text => rfl
  | ok detected =>
    dsimp only
    rw [accepted]
    rfl

/-- The whole run does not depend on the level. -/
theorem wholeRun_congr (same : ∀ key, key ≠ levelKey → env key = env' key)
    (printFailure : Option String) : wholeRun env printFailure = wholeRun env' printFailure := by
  have address : detectedAddress env = detectedAddress env' := by
    simp only [detectedAddress, textOf?, same addressKey (by decide)]
  have settings : Settings.ofLookup env = Settings.ofLookup env' := by
    have others : ∀ key ∈ [domainsKey, ip4DomainsKey, ip6DomainsKey, prefixLenKey, proxiedKey],
        key ≠ levelKey := by decide
    exact Settings.ofLookup_congr fun key hkey => same key (others key hkey)
  rw [wholeRun, wholeRun, address, settings]

/-- **The level changes only what is shown.** In two environments that agree but
for the level, and both of whose levels are accepted, the program exits alike and
prints the same. The lines that it shows under the stricter of the two levels are
those that it shows under the other one and that pass; and the lines that say that
it has failed are the same under both. -/
theorem level_changes_only_what_is_shown (same : ∀ key, key ≠ levelKey → env key = env' key)
    (accepted : checkLevel (levelText env) = .ok ())
    (accepted' : checkLevel (levelText env') = .ok ()) (printFailure : Option String) :
    (run env printFailure).exit = (run env' printFailure).exit ∧
    (run env printFailure).stdout = (run env' printFailure).stdout ∧
    (∃ limit limit', SetsLevel env limit ∧ SetsLevel env' limit' ∧
      (limit.rank ≤ limit'.rank →
        (run env' printFailure).stderr =
          (run env printFailure).stderr.filter (·.passes limit')) ∧
      (limit'.rank ≤ limit.rank →
        (run env printFailure).stderr =
          (run env' printFailure).stderr.filter (·.passes limit))) ∧
    (run env printFailure).stderr.filter (·.isFailure) =
      (run env' printFailure).stderr.filter (·.isFailure) := by
  have sets : SetsLevel env _ := setsLevel_iff.2 ⟨accepted, rfl⟩
  have sets' : SetsLevel env' _ := setsLevel_iff.2 ⟨accepted', rfl⟩
  rw [run_eq_limitedTo sets, run_eq_limitedTo sets', ← wholeRun_congr same printFailure]
  refine ⟨rfl, rfl, ⟨_, _, sets, sets', ?_, ?_⟩, ?_⟩
  · exact fun le => Outcome.stderr_limitedTo_of_le le _
  · exact fun le => Outcome.stderr_limitedTo_of_le le _
  · rw [Outcome.failures_limitedTo, Outcome.failures_limitedTo]

/-- An environment in which a list lacks a comma and ends with a bracket too many,
and in which a level may be set. -/
def unfinishedLookup (level : Option String) : Lookup := fun key =>
  if key = levelKey then level.map fun name => Text.Utf8.encode name.toList
  else if key = domainsKey then some (Text.Utf8.encode "a b]".toList)
  else none

/-- What is shown of this list if no level is set, and if it is set to errors. -/
theorem unfinishedLookup_is_shown :
    checkLevel (levelText (unfinishedLookup none)) = .ok () ∧
    checkLevel (levelText (unfinishedLookup (some "Error"))) = .ok () ∧
    (run (unfinishedLookup none) none).stderr =
      [.log .warn journalSource "DDNS_DOMAINS (\"a b]\") is missing a comma \",\" before \"b\"",
        .log .error journalSource "DDNS_DOMAINS (\"a b]\") has unexpected token \"]\""] ∧
    (run (unfinishedLookup (some "Error")) none).stderr =
      [.log .error journalSource "DDNS_DOMAINS (\"a b]\") has unexpected token \"]\""] := by
  have same : ∀ key, key ≠ levelKey →
      unfinishedLookup none key = unfinishedLookup (some "Error") key := by
    intro key h
    rw [unfinishedLookup, unfinishedLookup, if_neg h, if_neg h]
  have shown : (run (unfinishedLookup none) none).stderr =
      [.log .warn journalSource "DDNS_DOMAINS (\"a b]\") is missing a comma \",\" before \"b\"",
        .log .error journalSource "DDNS_DOMAINS (\"a b]\") has unexpected token \"]\""] := by
    decide +kernel
  obtain ⟨-, -, ⟨limit, limit', sets, sets', stricter, -⟩, -⟩ :=
    level_changes_only_what_is_shown same rfl rfl none
  obtain ⟨accepted, rfl⟩ := setsLevel_iff.1 sets
  obtain ⟨accepted', rfl⟩ := setsLevel_iff.1 sets'
  refine ⟨accepted, accepted', shown, ?_⟩
  rw [stricter (by decide), shown]
  rfl

end RecordPlan.CommandLine
