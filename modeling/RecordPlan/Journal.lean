import RecordPlan.Setting.Error

/-!
# The journal

Whatever is found out about settings is written into a **journal**:
messages of three severities, oldest first. Operations on settings write
into a journal that is handed on from one to the next, `Reporting`; those
that can fail, `Checked`, write the text of their error before they do.
A message, once written, stays until the whole journal is cleared.
-/

namespace RecordPlan

/-- How serious a message is. -/
inductive Severity where
  /-- For information. -/
  | info
  /-- Something looks careless. -/
  | warning
  /-- A setting is wrong. -/
  | error
  deriving DecidableEq

/-- The name of a severity. -/
def Severity.text : Severity → String
  | info => "info"
  | warning => "warning"
  | error => "error"

/-- A message. -/
structure Message where
  /-- How serious it is. -/
  severity : Severity
  /-- What it says. -/
  text : String
  deriving DecidableEq

/-- **A journal**: messages, oldest first. -/
structure Journal where
  /-- The messages. -/
  messages : List Message
  deriving DecidableEq

namespace Journal

/-- The journal without messages. -/
def empty : Journal := ⟨[]⟩

/-- Writes a message. -/
def report (j : Journal) (severity : Severity) (text : String) : Journal :=
  ⟨j.messages ++ [⟨severity, text⟩]⟩

/-- The texts of the messages of one severity. -/
def textsOf (j : Journal) (severity : Severity) : List String :=
  (j.messages.filter (·.severity = severity)).map (·.text)

/-- Whether there are no messages. -/
def isEmpty (j : Journal) : Bool := j.messages.isEmpty

end Journal

/-- An operation that writes into a journal. -/
abbrev Reporting := StateM Journal

/-- An operation that writes into a journal and can fail. -/
abbrev Checked := ExceptT SettingsError Reporting

/-- Writes a message into the journal. -/
def report (severity : Severity) (text : String) : Reporting Unit :=
  modify (·.report severity text)

/-- Forgets all messages. -/
def clearJournal : Reporting Unit := set Journal.empty

/-- Writes an error into the journal and fails with it. -/
def failWith {α : Type} (e : SettingsError) : Checked α := do
  report .error e.message
  throw e

end RecordPlan
