import RecordPlan.Setting.Scan

/-!
# Lists of domains

A list of domains is words separated by commas. Commas may be repeated
and may stand at either end; one that is missing between two words is
noted, and both words count. In lists for IPv6 a domain may be followed
by a host ID in brackets, which is read against a prefix length.

`entries` reads a list up to a closing parenthesis or the end, since
lists also stand between the parentheses of an expression.
-/

namespace RecordPlan

/-- A domain of a list, with its host ID if it has one. -/
structure Entry where
  /-- The domain. -/
  domain : Domain
  /-- Its host ID. -/
  hostId : Option HostId
  deriving DecidableEq

/-- The domain that a word names. -/
def domainOfWord (word : String) : Except ValueError Domain :=
  match Domain.parse word with
  | .ok d => .ok d
  | .error .notFullyQualified => .error (.notFullyQualified word)
  | .error cause => .error (.illFormedDomain word cause)

/-- The host ID that a word denotes. -/
def hostIdOfWord (prefixLen : UInt8) (word : String) : Except ValueError (Option HostId) :=
  match HostId.parse word prefixLen with
  | .ok id => .ok id
  | .error cause => .error (.illFormedHostId word cause)

/-- Reads a host ID and the bracket after it. -/
def hostIdInBrackets (prefixLen : UInt8) : (ts : List Token) → Scan (Option HostId × Shorter ts)
  | [] => .error (.missingAtEnd .rightBracket)
  | .word w :: rest => do
    let id ← Scan.ofExcept (hostIdOfWord prefixLen w)
    let rest ← expect .rightBracket rest
    return (id, rest.cons _)
  | t :: _ => .error (.unexpectedToken t)

/-- Reads a host ID in brackets if host IDs are allowed, by a prefix
length, and if there is one. -/
def optionalHostId (prefixLen : Option UInt8) (ts : List Token) :
    Scan (Option HostId × NoLonger ts) :=
  match prefixLen, ts with
  | some n, .leftBracket :: rest => do
    let (id, rest) ← hostIdInBrackets n rest
    return (id, (rest.cons _).toNoLonger)
  | _, ts => .pure (none, .all ts)

/-- **Reads a list of domains** up to a closing parenthesis or the end.
`separated` tells whether the next word needs no comma before it; host IDs
are allowed if there is a prefix length to read them against. -/
def entries (prefixLen : Option UInt8) (separated : Bool) :
    (ts : List Token) → Scan (List Entry × NoLonger ts)
  | [] => .pure ([], .all [])
  | .rightParen :: rest => .pure ([], .all (.rightParen :: rest))
  | .comma :: rest => do
    let (es, rest) ← entries prefixLen true rest
    return (es, (rest.cons _).toNoLonger)
  | .word w :: rest => do
    if !separated then Scan.gap w
    let domain ← Scan.ofExcept (domainOfWord w)
    let (hostId, rest₁) ← optionalHostId prefixLen rest
    let (es, rest₂) ← entries prefixLen false rest₁.1
    return (⟨domain, hostId⟩ :: es, ((rest₁.trans rest₂).cons _).toNoLonger)
  | t :: _ => .error (.unexpectedToken t)
termination_by ts => ts.length
decreasing_by all_goals grind

/-- Reads a whole value as a list of domains with optional host IDs. -/
def scanEntries (prefixLen : UInt8) (ts : List Token) : Scan (List Entry) := do
  let (es, rest) ← entries (some prefixLen) true ts
  finish rest.1
  return es

/-- Reads a whole value as a list of domains. -/
def scanDomains (ts : List Token) : Scan (List Domain) := do
  let (es, rest) ← entries none true ts
  finish rest.1
  return es.map (·.domain)

end RecordPlan
