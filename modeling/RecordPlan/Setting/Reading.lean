import RecordPlan.Journal
import RecordPlan.Setting.Expression

/-!
# Reading settings

The three kinds of values – a list of domains, a list of domains with
host IDs, an expression – are read from bytes, for a setting that is known
by its **key**. Missing commas are written into the journal as warnings,
one for each, and if the value is wrong, the error follows as the last
message.
-/

namespace RecordPlan

/-- The warning that a comma is missing before a word of a value. -/
def gapMessage (key : String) (value : List UInt8) (word : String) : String :=
  shownSetting key value ++ " is missing a comma \",\" before " ++ Text.quote word

/-- Reads the value of a setting. -/
def readSetting {α : Type} (key : String) (value : List UInt8) (read : List Token → Scan α) :
    Checked α :=
  match Token.ofBytes value with
  | .error cause => failWith (.setting key value (.illFormed cause))
  | .ok tokens => do
    (read tokens).gaps.forM fun word => report .warning (gapMessage key value word)
    match (read tokens).result with
    | .error cause => failWith (.setting key value cause)
    | .ok a => return a

/-- **Reads a list of domains.** -/
def readDomains (key : String) (value : List UInt8) : Checked (List Domain) :=
  readSetting key value scanDomains

/-- **Reads a list of domains with host IDs** for a prefix length. -/
def readEntries (key : String) (value : List UInt8) (prefixLen : UInt8) :
    Checked (List Entry) :=
  readSetting key value (scanEntries prefixLen)

/-- **Reads an expression.** -/
def readExpression (key : String) (value : List UInt8) : Checked Predicate :=
  readSetting key value scanExpression

end RecordPlan
