import RecordPlan.Text.Hex

/-!
# Character tables

A property of characters is given by a **code table**: lines that name a
run of code points and, where the property has values, the value of the
run. The lines are ascending and disjoint, so the line of a character is
found by halving.

Tables are written as text, in words separated by blanks and line ends,
all numbers being hexadecimal:

* `378` – one code point;
* `378-379` – a run;
* `100-12E/2` – every second code point of a run;
* `B2:32` – with a value, and `132:69.6A` with a sequence of values.

`CodeTable.contains` reads a table as a set, `CodeTable.constant?` as a
map that is constant on each run, and `CodeTable.image?` as a map that
moves along with the run: the code points `41-5A:61` stand for the
twenty-six capital letters and their small forms.
-/

namespace RecordPlan.Unicode

open Text (hexNumber)

/-- One line of a table: the code points `first`, `first + step`, … up to
`last`, and the value written for them. -/
structure CodeRun where
  /-- The first code point. -/
  first : Nat
  /-- The last code point. -/
  last : Nat
  /-- The distance between neighbours. -/
  step : Nat
  /-- The value at `first`; empty in a table that is a set. -/
  value : List Nat

namespace CodeRun

/-- Reads one word of a table. -/
def ofWord (word : List Char) : CodeRun :=
  let (run, value) := match word.splitOn ':' with
    | run :: value :: _ => (run, (value.splitOn '.').map hexNumber)
    | rest => (rest.flatten, [])
  let (ends, step) := match run.splitOn '/' with
    | ends :: step :: _ => (ends, hexNumber step)
    | rest => (rest.flatten, 1)
  match ends.splitOn '-' with
  | first :: last :: _ => ⟨hexNumber first, hexNumber last, step, value⟩
  | rest => ⟨hexNumber rest.flatten, hexNumber rest.flatten, step, value⟩

/-- Whether a code point is one of the run. -/
def contains (r : CodeRun) (c : Nat) : Bool :=
  r.first ≤ c && c ≤ r.last && (c - r.first) % r.step == 0

end CodeRun

/-- **A code table**: ascending, disjoint runs of code points. -/
structure CodeTable where
  /-- The lines of the table. -/
  runs : Array CodeRun

namespace CodeTable

/-- Reads the text of a table. -/
def ofText (text : String) : CodeTable :=
  let words := text.toList.splitOnP (fun c => c = ' ' || c = '\n')
  ⟨((words.filter (· ≠ [])).map CodeRun.ofWord).toArray⟩

/-- How many of the runs `lo, …, hi - 1` and those before begin at or
before `c`, provided that the runs below `lo` do and those from `hi` on
do not. -/
def rank (t : CodeTable) (c lo hi : Nat) : Nat :=
  if lo < hi then
    let mid := lo + (hi - lo) / 2
    match t.runs[mid]? with
    | some r => if r.first ≤ c then rank t c (mid + 1) hi else rank t c lo mid
    | none => lo
  else lo
termination_by hi - lo

/-- The run that holds a character. -/
def run? (t : CodeTable) (c : Char) : Option CodeRun :=
  match rank t c.toNat 0 t.runs.size with
  | 0 => none
  | i + 1 => t.runs[i]?.filter (·.contains c.toNat)

/-- Membership of a character in a table that is a set. -/
def contains (t : CodeTable) (c : Char) : Bool := (t.run? c).isSome

/-- The value of the character's run. -/
def constant? (t : CodeTable) (c : Char) : Option Nat :=
  (t.run? c).bind (·.value.head?)

/-- The characters that stand for a character, where each run moves along
with its value. -/
def image? (t : CodeTable) (c : Char) : Option (List Char) :=
  (t.run? c).map fun r => r.value.map fun v => Char.ofNat (v + (c.toNat - r.first))

end CodeTable

end RecordPlan.Unicode
