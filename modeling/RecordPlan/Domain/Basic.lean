import RecordPlan.Name.International

/-!
# Domains

A domain is one that is managed by name, or a **wildcard** for everything
directly below a name. What an operator writes is normalized by
`Domain.parse`; the name of a domain that has been parsed is in its ASCII
form. `Domain.dnsName` writes a domain as the domain name system knows
it, with the label `*` in front of a wildcard, and `Domain.describe` as a
person would.

A domain may also be built from a name directly, without any check. All
functions below are defined for such domains as well.
-/

namespace RecordPlan

/-- **A domain**: a fully qualified name, or all names directly below
one. -/
inductive Domain where
  /-- A fully qualified name. -/
  | fqdn (name : String)
  /-- The wildcard of a name. -/
  | wildcard (suffix : String)
  deriving DecidableEq

/-- Why a text is no domain. -/
inductive DomainError where
  /-- There is no name. -/
  | empty
  /-- A lone `*`, which is the wildcard of no name. -/
  | notFullyQualified
  /-- The name is not accepted. -/
  | invalidName
  deriving DecidableEq

namespace DomainError

/-- The text of the error in a diagnostic. -/
def message : DomainError → String
  | empty => "empty domain"
  | notFullyQualified => "a lone \"*\" is not a fully qualified domain"
  | invalidName => "not a valid domain name under UTS-46/IDNA rules"

end DomainError

namespace Domain

/-- The ASCII form of a name, or why there is none. -/
def normalizeName (name : List Char) : Except DomainError String :=
  if name = [] then .error .empty
  else match Name.toAscii? name with
    | some ascii => .ok (String.ofList ascii)
    | none => .error .invalidName

/-- **The domain that a text names.** A leading `*.` makes a wildcard. -/
def parse (raw : String) : Except DomainError Domain :=
  match raw.toList with
  | ['*'] => .error .notFullyQualified
  | '*' :: '.' :: suffix => (normalizeName suffix).map .wildcard
  | name => (normalizeName name).map .fqdn

/-- The name without the mark of a wildcard. -/
def name : Domain → String
  | fqdn name => name
  | wildcard suffix => suffix

/-- What a wildcard has in front of its suffix. -/
def wildcardMark : String := "*."

/-- Writes a domain of the kind of `d` with another name. -/
def withName (d : Domain) (name : String) : String :=
  match d with
  | fqdn _ => name
  | wildcard _ => wildcardMark ++ name

/-- **The name in the domain name system.** -/
def dnsName (d : Domain) : String := d.withName d.name

/-- **The name as it is shown**: in Unicode, or as it is stored if it has
no Unicode form. -/
def describe (d : Domain) : String :=
  d.withName (match Name.toUnicode? d.name.toList with
    | some text => String.ofList text
    | none => d.name)

/-! ## Above and below -/

/-- What follows each dot of a text, from the first dot to the last. -/
def afterDots : List Char → List (List Char)
  | [] => []
  | c :: rest => if c = '.' then rest :: afterDots rest else afterDots rest

/-- **The zones that may hold a domain**, from the longest to the
shortest: its name, and what follows each dot of it. -/
def zones (d : Domain) : List String :=
  (d.name.toList :: afterDots d.name.toList).map String.ofList

/-- **Whether a domain is another one or lies below it**: its name ends
with the other name, and what is left is nothing or ends with a dot. -/
def isUnder (d ancestor : Domain) : Bool :=
  let name := d.dnsName.toList
  let suffix := ancestor.dnsName.toList
  suffix.isSuffixOf name &&
    match (name.take (name.length - suffix.length)).getLast? with
    | none => true
    | some c => c == '.'

end Domain

end RecordPlan
