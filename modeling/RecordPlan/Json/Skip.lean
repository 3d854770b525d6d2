import RecordPlan.Json.Number

/-!
# Skipping JSON

A member that is not known is skipped: whatever its value is, it only has
to be well-formed. Values may be nested to any depth, so the open brackets
are kept in a list, the innermost first. `skipValue` skips a value,
`skipRest` what follows a value up to the end of the outermost bracket.
-/

namespace RecordPlan.Json

/-- An open bracket. -/
inductive Bracket where
  /-- Of an array. -/
  | square
  /-- Of an object. -/
  | brace
  deriving DecidableEq

/-- Reads a colon after blanks. -/
def colon (cs : List Char) : Except Flaw (Shorter cs) :=
  match next? cs with
  | none => .error .endsEarly
  | some (':', rest) => .ok rest
  | _ => .error .malformed

/-- Skips a key and the colon after it. -/
def skipKey (cs : List Char) : Except Flaw (Shorter cs) :=
  match next? cs with
  | none => .error .endsEarly
  | some ('"', rest) => do
    let rest₁ ← skipString rest.1
    let rest₂ ← colon rest₁.1
    return (rest.trans rest₁).trans rest₂
  | _ => .error .malformed

/-- Skips a value that is no array and no object and begins with a
character. -/
def skipScalar (c : Char) (rest : List Char) : Except Flaw (Shorter (c :: rest)) :=
  match c with
  | '"' => do
    let rest ← skipString rest
    return rest.cons _
  | 'n' => do
    let rest ← word ['u', 'l', 'l'] rest
    return rest.cons _
  | 't' => do
    let rest ← word ['r', 'u', 'e'] rest
    return rest.cons _
  | 'f' => do
    let rest ← word ['a', 'l', 's', 'e'] rest
    return rest.cons _
  | c => do
    let (_, rest) ← numeral .malformed (c :: rest)
    return rest

mutual

/-- **Skips a value** inside some brackets, and what follows it up to the
end of the outermost of them. -/
def skipValue (brackets : List Bracket) (cs : List Char) : Except Flaw (Shorter cs) :=
  match next? cs with
  | none => .error .endsEarly
  | some ('[', rest) =>
    match next? rest.1 with
    | some (']', rest₁) => do
      let rest₂ ← skipRest brackets rest₁.1
      return (rest.trans rest₁).transLe rest₂
    | _ => do
      let rest₁ ← skipValue (.square :: brackets) rest.1
      return rest.trans rest₁
  | some ('\x7b', rest) =>
    match next? rest.1 with
    | some ('\x7d', rest₁) => do
      let rest₂ ← skipRest brackets rest₁.1
      return (rest.trans rest₁).transLe rest₂
    | _ => do
      let rest₁ ← skipKey rest.1
      let rest₂ ← skipValue (.brace :: brackets) rest₁.1
      return (rest.trans rest₁).trans rest₂
  | some (c, rest) => do
    let rest₁ ← skipScalar c rest.1
    let rest₂ ← skipRest brackets rest₁.1
    return (rest.transCons rest₁).transLe rest₂
termination_by 2 * cs.length + 1
decreasing_by all_goals grind

/-- Skips what follows a value inside some brackets. -/
def skipRest (brackets : List Bracket) (cs : List Char) : Except Flaw (NoLonger cs) :=
  match brackets with
  | [] => .ok (.all cs)
  | bracket :: outer =>
    match next? cs, bracket with
    | none, _ => .error .endsEarly
    | some (',', rest), .square => do
      let rest₁ ← skipValue (.square :: outer) rest.1
      return (rest.trans rest₁).toNoLonger
    | some (',', rest), .brace => do
      let rest₁ ← skipKey rest.1
      let rest₂ ← skipValue (.brace :: outer) rest₁.1
      return ((rest.trans rest₁).trans rest₂).toNoLonger
    | some (']', rest), .square => do
      let rest₁ ← skipRest outer rest.1
      return (rest.transLe rest₁).toNoLonger
    | some ('\x7d', rest), .brace => do
      let rest₁ ← skipRest outer rest.1
      return (rest.transLe rest₁).toNoLonger
    | _, _ => .error .malformed
termination_by 2 * cs.length
decreasing_by all_goals grind

end

end RecordPlan.Json
