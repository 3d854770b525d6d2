import RecordPlan.Settings.Basic

/-!
# Sessions

A session is a run of operations that share one journal. `Operation` names
all operations that touch a journal and `Answer` what they come to; what
an operation comes to does not depend on what the journal holds, and all
it does to the journal is to write at the end of it – save for the one
operation that clears it.
-/

namespace RecordPlan

/-- An operation on a journal. -/
inductive Operation where
  /-- Reads a list of domains. -/
  | readDomains (key : String) (value : List UInt8)
  /-- Reads a list of domains with host IDs. -/
  | readEntries (key : String) (value : List UInt8) (prefixLen : UInt8)
  /-- Reads an expression. -/
  | readExpression (key : String) (value : List UInt8)
  /-- Merges lists of domains. -/
  | consolidate (lists : DomainLists)
  /-- Turns settings into a plan. -/
  | resolve (settings : Settings)
  /-- Writes a message. -/
  | report (severity : Severity) (text : String)
  /-- Forgets all messages. -/
  | clear

/-- What an operation comes to. -/
inductive Answer where
  /-- A list of domains, or an error. -/
  | domains (result : Except SettingsError (List Domain))
  /-- A list of domains with host IDs, or an error. -/
  | entries (result : Except SettingsError (List Entry))
  /-- A predicate, or an error. -/
  | predicate (result : Except SettingsError Predicate)
  /-- What is managed, or an error. -/
  | managed (result : Except SettingsError Managed)
  /-- A plan, or an error. -/
  | plan (result : Except SettingsError Plan)
  /-- Nothing to answer. -/
  | done

/-- Does an operation. -/
def Operation.run : Operation → Reporting Answer
  | readDomains key value => .domains <$> (RecordPlan.readDomains key value).run
  | readEntries key value n => .entries <$> (RecordPlan.readEntries key value n).run
  | readExpression key value => .predicate <$> (RecordPlan.readExpression key value).run
  | consolidate lists => .managed <$> (RecordPlan.consolidate lists).run
  | resolve settings => .plan <$> settings.resolve.run
  | report severity text => do
    RecordPlan.report severity text
    return .done
  | clear => do
    clearJournal
    return .done

/-- **Does operations one after another.** -/
def runSession (operations : List Operation) : Reporting (List Answer) :=
  operations.mapM Operation.run

end RecordPlan
