import RecordPlan.Setting.Error
import RecordPlan.Text.Rest

/-!
# Reading the tokens of a value

Reading stops at the first thing that is wrong with a value. A missing
comma is not wrong, only careless; reading notes it and goes on. So what
reading comes to is a `Scan`: the words before which a comma was missing,
in order, and a result or the error that ended it.

Readers take tokens from the front and return the rest, as something
`Shorter` or at least `NoLonger`.
-/

namespace RecordPlan

/-- **What reading comes to.** -/
structure Scan (α : Type) where
  /-- The words before which a comma was missing. -/
  gaps : List String
  /-- What has been read, or what is wrong. -/
  result : Except ValueError α

namespace Scan

variable {α β : Type}

/-- Reads nothing. -/
protected def pure (a : α) : Scan α := ⟨[], .ok a⟩

/-- Reads one thing after another. -/
protected def bind (x : Scan α) (f : α → Scan β) : Scan β :=
  match x.result with
  | .error e => ⟨x.gaps, .error e⟩
  | .ok a => ⟨x.gaps ++ (f a).gaps, (f a).result⟩

instance : Monad Scan where
  pure := Scan.pure
  bind := Scan.bind

/-- Notes that a comma is missing before a word. -/
def gap (word : String) : Scan Unit := ⟨[word], .ok ()⟩

/-- Ends reading. -/
def error (e : ValueError) : Scan α := ⟨[], .error e⟩

/-- A result without notes. -/
def ofExcept (result : Except ValueError α) : Scan α := ⟨[], result⟩

end Scan

/-- Reads a certain token. -/
def expect (expected : Token) : (ts : List Token) → Scan (Shorter ts)
  | [] => .error (.missingAtEnd expected)
  | t :: rest =>
    if t = expected then .pure (.tail t rest)
    else .error (.unexpectedTokenExpecting t expected)

/-- Insists that no token is left. -/
def finish : List Token → Scan Unit
  | [] => .pure ()
  | t :: _ => .error (.unexpectedToken t)

end RecordPlan
