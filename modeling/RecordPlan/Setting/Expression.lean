import RecordPlan.Predicate
import RecordPlan.Setting.Entry
import RecordPlan.Text.LetterCase

/-!
# Expressions

A predicate is written as an expression: literals for true and false,
`is(…)` and `sub(…)` with a list of domains, `!` for "not", `&&` for
"and", `||` for "or", and parentheses. "Not" binds closest and "or" least;
chains of one operator associate to the left. Pairs of `!` cancel out and
leave no trace in the predicate. Keywords and literals may be written in
any letter case.

There is one reader for each level of binding, and they call one another
from the loosest to the closest and, through parentheses, back. With each
call the tokens get fewer, or the level gets closer while the tokens stay.
-/

namespace RecordPlan

open Text (sameButCase)

/-- The words for true. -/
def trueWords : List String := ["true", "t", "1", "yes"]

/-- The words for false. -/
def falseWords : List String := ["false", "f", "0", "no"]

/-- The truth value that a word denotes. -/
def literal? (word : String) : Option Bool :=
  if trueWords.any fun w => sameButCase word.toList w.toList then some true
  else if falseWords.any fun w => sameButCase word.toList w.toList then some false
  else none

/-- Whether a word is a keyword. -/
def isKeyword (keyword word : String) : Bool := sameButCase word.toList keyword.toList

/-- Reads a list of domains in parentheses. -/
def arguments (ts : List Token) : Scan (List Domain × Shorter ts) := do
  let rest₁ ← expect .leftParen ts
  let (es, rest₂) ← entries none true rest₁.1
  let rest₃ ← expect .rightParen rest₂.1
  return (es.map (·.domain), (rest₁.transLe rest₂).trans rest₃)

/-- "Not" as often as an odd or even number of marks says. -/
def Predicate.negatedIf (negated : Bool) (p : Predicate) : Predicate :=
  if negated then .not p else p

mutual

/-- Reads terms joined by "or". -/
def disjunction (ts : List Token) : Scan (Predicate × Shorter ts) := do
  let (p, rest₁) ← conjunction ts
  let (q, rest₂) ← moreDisjuncts p rest₁.1
  return (q, rest₁.transLe rest₂)
termination_by 8 * ts.length + 4
decreasing_by all_goals grind

/-- Reads what is joined by "or" to a predicate that has been read. -/
def moreDisjuncts (left : Predicate) (ts : List Token) : Scan (Predicate × NoLonger ts) :=
  match ts with
  | .or :: rest => do
    let (right, rest₁) ← conjunction rest
    let (p, rest₂) ← moreDisjuncts (.or left right) rest₁.1
    return (p, ((rest₁.transLe rest₂).cons _).toNoLonger)
  | ts => .pure (left, .all ts)
termination_by 8 * ts.length + 4
decreasing_by all_goals grind

/-- Reads terms joined by "and". -/
def conjunction (ts : List Token) : Scan (Predicate × Shorter ts) := do
  let (p, rest₁) ← negation false ts
  let (q, rest₂) ← moreConjuncts p rest₁.1
  return (q, rest₁.transLe rest₂)
termination_by 8 * ts.length + 3
decreasing_by all_goals grind

/-- Reads what is joined by "and" to a predicate that has been read. -/
def moreConjuncts (left : Predicate) (ts : List Token) : Scan (Predicate × NoLonger ts) :=
  match ts with
  | .and :: rest => do
    let (right, rest₁) ← negation false rest
    let (p, rest₂) ← moreConjuncts (.and left right) rest₁.1
    return (p, ((rest₁.transLe rest₂).cons _).toNoLonger)
  | ts => .pure (left, .all ts)
termination_by 8 * ts.length + 3
decreasing_by all_goals grind

/-- Reads any number of `!` and what they apply to; `negated` tells
whether an odd number of them has been read before. -/
def negation (negated : Bool) (ts : List Token) : Scan (Predicate × Shorter ts) :=
  match ts with
  | .not :: rest => do
    let (p, rest) ← negation (!negated) rest
    return (p, rest.cons _)
  | ts => do
    let (p, rest) ← atom ts
    return (p.negatedIf negated, rest)
termination_by 8 * ts.length + 2

/-- Reads a literal, a list of domains with its keyword, or an expression
in parentheses. -/
def atom (ts : List Token) : Scan (Predicate × Shorter ts) :=
  match ts with
  | .leftParen :: rest => do
    let (p, rest₁) ← disjunction rest
    let rest₂ ← expect .rightParen rest₁.1
    return (p, (rest₁.trans rest₂).cons _)
  | .word w :: rest =>
    if isKeyword "is" w then do
      let (ds, rest) ← arguments rest
      return (.is ds, rest.cons _)
    else if isKeyword "sub" w then do
      let (ds, rest) ← arguments rest
      return (.sub ds, rest.cons _)
    else match literal? w with
      | some b => .pure (.const b, .tail _ rest)
      | none => .error .notBooleanExpression
  | _ => .error .notBooleanExpression
termination_by 8 * ts.length + 1

end

/-- **Reads a whole value as an expression.** -/
def scanExpression (ts : List Token) : Scan Predicate := do
  let (p, rest) ← disjunction ts
  finish rest.1
  return p

end RecordPlan
