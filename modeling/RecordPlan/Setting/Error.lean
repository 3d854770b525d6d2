import RecordPlan.HostId.Basic
import RecordPlan.Domain.Basic
import RecordPlan.Setting.Token
import RecordPlan.Text.LetterCase
import RecordPlan.Text.Quoted

/-!
# What can be wrong with settings

A `ValueError` is the one thing that is wrong with the value of a
setting. A `SettingsError` is what the operator is told: a value error
together with the setting and its whole value, or a problem that lies in
several settings, or one in a setting that is a number.
-/

namespace RecordPlan

open Text (quote)

/-- **What is wrong with a value.** -/
inductive ValueError where
  /-- The value cannot be split into tokens. -/
  | illFormed (cause : LexError)
  /-- A word in the place of a domain is none. -/
  | illFormedDomain (word : String) (cause : DomainError)
  /-- A word in the place of a domain is the wildcard of no name. -/
  | notFullyQualified (word : String)
  /-- A word in the place of a host ID is none. -/
  | illFormedHostId (word : String) (cause : HostIdError)
  /-- A token stands where it cannot. -/
  | unexpectedToken (token : Token)
  /-- A token stands where only a certain other one can. -/
  | unexpectedTokenExpecting (token expected : Token)
  /-- The value ends before a certain token. -/
  | missingAtEnd (expected : Token)
  /-- There is no boolean expression where one has to be. -/
  | notBooleanExpression
  deriving DecidableEq

namespace ValueError

/-- The text of the error in a diagnostic, after the value. -/
def message : ValueError → String
  | illFormed cause => "is ill-formed: " ++ cause.message
  | illFormedDomain word cause =>
    "contains an ill-formed domain " ++ quote (String.ofList (Text.lower word.toList)) ++ ": " ++
      cause.message
  | notFullyQualified word =>
    "contains a domain " ++ quote word ++ " that is probably not fully qualified; " ++
      "a fully qualified domain name (FQDN) would look like " ++
      "\"*.example.org\" or \"sub.example.org\""
  | illFormedHostId word cause =>
    "contains an ill-formed host ID " ++ quote word ++ ": " ++ cause.message
  | unexpectedToken token => "has unexpected token " ++ quote token.text
  | unexpectedTokenExpecting token expected =>
    "has unexpected token " ++ quote token.text ++ " when " ++ quote expected.text ++
      " is expected"
  | missingAtEnd expected => "is missing " ++ quote expected.text ++ " at the end"
  | notBooleanExpression => "is not a boolean expression"

end ValueError

/-- What is wrong with a prefix length. -/
inductive PrefixLenError where
  /-- No address has so many bits. -/
  | tooLong (prefixLen : UInt8)
  /-- The text, given without blanks at its ends, is no number. -/
  | notNumber (text : String)
  deriving DecidableEq

/-- The setting that holds the prefix length. -/
def prefixLenKey : String := "DDNS_IP6_PREFIX_LEN"

namespace PrefixLenError

/-- The text of the error in a diagnostic. -/
def message : PrefixLenError → String
  | tooLong n => prefixLenKey ++ " must be between 0 and 128. Got: " ++ toString n.toNat
  | notNumber text => prefixLenKey ++ " (" ++ quote text ++ ") is not a number between 0 and 128"

end PrefixLenError

/-- A setting and its value, as a diagnostic begins. -/
def shownSetting (key : String) (value : List UInt8) : String :=
  key ++ " (" ++ quote (String.ofList (Text.Utf8.decodeLossy value)) ++ ")"

/-- **What is wrong with the settings.** -/
inductive SettingsError where
  /-- The value of a setting is wrong. -/
  | setting (key : String) (value : List UInt8) (cause : ValueError)
  /-- A domain has been given two host IDs. -/
  | conflictingHostId (domain : Domain) (first second : HostId)
  /-- The prefix length is wrong. -/
  | config (cause : PrefixLenError)
  deriving DecidableEq

namespace SettingsError

/-- The text of the error. -/
def message : SettingsError → String
  | setting key value cause => shownSetting key value ++ " " ++ cause.message
  | conflictingHostId domain first second =>
    "Domain " ++ quote domain.describe ++ " is associated with inconsistent host IDs " ++
      first.text ++ " and " ++ second.text
  | config cause => "Configuration error: " ++ cause.message

end SettingsError

end RecordPlan
