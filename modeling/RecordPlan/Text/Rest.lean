/-!
# What is left to read

A reader takes something from the front of a list and returns the rest.
That the rest is shorter, or at least no longer, is part of what it
returns, and is why readers that call one another come to an end. The
functions below put such rests together when one reader follows another.
-/

namespace RecordPlan

/-- What is left of a list after something was read. -/
abbrev Shorter {α : Type} (l : List α) : Type := { rest : List α // rest.length < l.length }

/-- What is left of a list after something or nothing was read. -/
abbrev NoLonger {α : Type} (l : List α) : Type := { rest : List α // rest.length ≤ l.length }

namespace Shorter

variable {α : Type} {l : List α}

/-- Something was read. -/
@[grind .]
theorem length_lt (r : Shorter l) : r.1.length < l.length := r.2

/-- What is left after the first member. -/
def tail (a : α) (l : List α) : Shorter (a :: l) := ⟨l, Nat.lt_succ_self _⟩

/-- What is left if there was one more member in front. -/
def cons (a : α) (r : Shorter l) : Shorter (a :: l) := ⟨r.1, Nat.lt_succ_of_lt r.2⟩

/-- What is left after something, and then something again. -/
def trans (r : Shorter l) (s : Shorter r.1) : Shorter l := ⟨s.1, Nat.lt_trans s.2 r.2⟩

/-- What is left after something, and then something or nothing. -/
def transLe (r : Shorter l) (s : NoLonger r.1) : Shorter l := ⟨s.1, Nat.lt_of_le_of_lt s.2 r.2⟩

/-- What is left after something, if a member of it was read again. -/
def transCons {a : α} (r : Shorter l) (s : Shorter (a :: r.1)) : Shorter l :=
  ⟨s.1, Nat.lt_of_le_of_lt (Nat.le_of_lt_succ s.2) r.2⟩

/-- What is left after something is left after something or nothing. -/
def toNoLonger (r : Shorter l) : NoLonger l := ⟨r.1, Nat.le_of_lt r.2⟩

end Shorter

namespace NoLonger

variable {α : Type} {l : List α}

/-- Something or nothing was read. -/
@[grind .]
theorem length_le (r : NoLonger l) : r.1.length ≤ l.length := r.2

/-- What is left after nothing. -/
def all (l : List α) : NoLonger l := ⟨l, Nat.le_refl _⟩

/-- What is left if there was one more member in front. -/
def cons (a : α) (r : NoLonger l) : Shorter (a :: l) := ⟨r.1, Nat.lt_succ_of_le r.2⟩

/-- What is left after something or nothing, twice. -/
def trans (r : NoLonger l) (s : NoLonger r.1) : NoLonger l := ⟨s.1, Nat.le_trans s.2 r.2⟩

/-- What is left after leading members of some kind. -/
def dropWhile (p : α → Bool) (l : List α) : NoLonger l :=
  ⟨l.dropWhile p, (List.dropWhile_sublist p).length_le⟩

end NoLonger

end RecordPlan
