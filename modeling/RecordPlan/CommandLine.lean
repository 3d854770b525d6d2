import RecordPlan.Json.Value
import RecordPlan.Settings.Lookup

/-!
# The command line

The program takes its settings from the environment, turns them into a
plan and prints the records that the plan asks for. Two variables are its
own: an IPv6 address that stands for a detected one, and the level of
logging. They are checked before anything else, in this order; whatever is
found out later is logged.

`run` says for every environment what is printed, what is logged and how
the program exits. The level of logging decides which lines are shown and
nothing else.
-/

namespace RecordPlan.CommandLine

/-! ## Logging -/

/-- A level of logging, from the most to the least talkative. -/
inductive Level where
  /-- For following every step. -/
  | trace
  /-- For finding faults. -/
  | debug
  /-- For information. -/
  | info
  /-- Something looks careless. -/
  | warn
  /-- Something is wrong. -/
  | error
  deriving DecidableEq

namespace Level

/-- The level by number. -/
def rank : Level → Nat
  | trace => 0
  | debug => 1
  | info => 2
  | warn => 3
  | error => 4

/-- The level in a line of the log. -/
def mark : Level → String
  | trace => "TRACE"
  | debug => "DEBUG"
  | info => "INFO"
  | warn => "WARN"
  | error => "ERROR"

/-- The name of a level. -/
def name : Level → String
  | trace => "trace"
  | debug => "debug"
  | info => "info"
  | warn => "warn"
  | error => "error"

/-- Whether a text is the name of a level, in any letter case. -/
def isName (text : List Char) : Bool :=
  match String.ofList (Text.lower text) with
  | "trace" | "debug" | "info" | "warn" | "error" => true
  | _ => false

/-- The level that a text sets, in any letter case; `info` if it is the name
of no other level. -/
def ofText (text : List Char) : Level :=
  match String.ofList (Text.lower text) with
  | "trace" => trace
  | "debug" => debug
  | "warn" => warn
  | "error" => error
  | _ => info

/-- The level at which a message of the journal is logged. -/
def ofSeverity : Severity → Level
  | .info => info
  | .warning => warn
  | .error => error

end Level

/-- A line that is shown to the operator. -/
inductive Line where
  /-- A line from before logging begins. -/
  | notice (text : String)
  /-- A line of the log, with the part of the program it comes from. -/
  | log (level : Level) (source text : String)
  deriving DecidableEq

namespace Line

/-- Whether a line is shown when logging is limited to a level. -/
def passes (limit : Level) : Line → Bool
  | notice _ => true
  | log level _ _ => limit.rank ≤ level.rank

/-- Whether a line says that the program has failed. -/
def isFailure : Line → Bool
  | notice _ => true
  | log level _ _ => level = .error

/-- The text of a line. -/
def text : Line → String
  | notice text => text
  | log level source text => level.mark ++ " " ++ source ++ ": " ++ text

end Line

/-- Where the lines about running the program come from. -/
def programSource : String := "ddns_plan"

/-- Where the messages of the journal come from. -/
def journalSource : String := "ddns_domains"

/-- Where the line about resolved settings comes from. -/
def settingsSource : String := "ddns_domains::config"

/-- The lines of a journal. -/
def linesOfJournal (j : Journal) : List Line :=
  j.messages.map fun m => .log (.ofSeverity m.severity) journalSource m.text

/-! ## The program's own variables -/

/-- The variable for a detected address. -/
def addressKey : String := "DDNS_IP6_ADDRESS"

/-- The variable for the level of logging. -/
def levelKey : String := "DDNS_LOG_LEVEL"

/-- The text of a variable; none if it is not set or not UTF-8. -/
def textOf? (env : Lookup) (key : String) : Option (List Char) :=
  (env key).bind fun value => (Text.Utf8.decode value).toOption

/-- The detected address, if there is one; an error is given by its
text. -/
def detectedAddress (env : Lookup) : Except String (Option Ip6) :=
  match textOf? env addressKey with
  | none => .ok none
  | some raw =>
    if Text.trim raw = [] then .ok none
    else match Ip6.ofText? (Text.trim raw) with
      | some a => .ok (some a)
      | none =>
        .error ("Configuration error: " ++ addressKey ++ " (" ++
          Text.quote (String.ofList raw) ++
          ") is not an IPv6 address: invalid IPv6 address syntax")

/-- The text that sets the level of logging. -/
def levelText (env : Lookup) : List Char := (textOf? env levelKey).getD Level.info.name.toList

/-- Insists on the name of a level; an error is given by its text. -/
def checkLevel (text : List Char) : Except String Unit :=
  if Level.isName text then .ok ()
  else
    .error ("Configuration validation error: " ++ levelKey ++ " '" ++ String.ofList text ++
      "' is not valid. Valid levels: trace, debug, info, warn, error")

/-! ## Running -/

/-- How the program exits. -/
inductive Exit where
  /-- The records have been printed. -/
  | success
  /-- A setting is wrong. -/
  | configError
  /-- The records could not be printed. -/
  | runtimeError
  deriving DecidableEq

/-- The number of an exit. -/
def Exit.code : Exit → Nat
  | success => 0
  | configError => 1
  | runtimeError => 2

/-- What a run of the program comes to. -/
structure Outcome where
  /-- How it exits. -/
  exit : Exit
  /-- What is printed. -/
  stdout : String
  /-- What is shown besides. -/
  stderr : List Line
  deriving DecidableEq

/-- A record as a JSON value. -/
def recordJson (r : Record) : Json.Value :=
  .object ([
    ("domain", .text r.domain),
    ("family", .text r.family.jsonName),
    ("proxied", .bool r.proxied)] ++
    match r.address with
    | none => []
    | some a => [("address", .text (String.ofList a.text))])

/-- The records as they are printed. -/
def printed (records : List Record) : String :=
  (Json.Value.array (records.map recordJson)).toPrettyText ++ "\n"

/-- The line about resolved settings. -/
def resolvedLine (p : Plan) : Line :=
  .log .debug settingsSource
    ("Resolved domain settings ipv4=" ++ toString (p.domainsOf .v4).length ++
      " ipv6=" ++ toString (p.domainsOf .v6).length ++
      " host_ids=" ++ toString p.managed.hostIds.length)

/-- The lines about a plan and the number of its records. -/
def planLines (p : Plan) (count : Nat) : List Line :=
  (if p.isEmpty then [.log .info programSource "No domains configured"] else []) ++
    [.log .info programSource ("Plan resolved: " ++ toString count ++ " record(s)")]

/-- What comes of settings, with every line of the log. If printing does
not work, `printFailure` says why. -/
def runSettings (settings : Except SettingsError Settings) (detected : Option Ip6)
    (printFailure : Option String) : Outcome :=
  match settings with
  | .error e => ⟨.configError, "", [.log .error programSource e.message]⟩
  | .ok s =>
    match s.resolve.run.run Journal.empty with
    | (.error _, j) => ⟨.configError, "", linesOfJournal j⟩
    | (.ok p, j) =>
      let records := p.records detected
      let lines := linesOfJournal j ++ resolvedLine p :: planLines p records.length
      match printFailure with
      | none => ⟨.success, printed records, lines⟩
      | some why =>
        ⟨.runtimeError, "",
          lines ++ [.log .error programSource ("Failed to print plan: " ++ why)]⟩

/-- **What a run of the program comes to** in an environment. If printing
does not work, `printFailure` says why. -/
def run (env : Lookup) (printFailure : Option String) : Outcome :=
  match detectedAddress env with
  | .error text => ⟨.configError, "", [.notice text]⟩
  | .ok detected =>
    match checkLevel (levelText env) with
    | .error text => ⟨.configError, "", [.notice text]⟩
    | .ok () =>
      let level := Level.ofText (levelText env)
      let outcome := runSettings (Settings.ofLookup env) detected printFailure
      { outcome with stderr := outcome.stderr.filter (·.passes level) }

end RecordPlan.CommandLine
