import RecordPlan.Proofs.Setting.Expression
import RecordPlan.Proofs.Setting.ListPart

/-!
# Readers make progress

A reader returns the tokens that it leaves, together with the reason why they are
fewer. Its type settles that it comes to an end, and how much it leaves if it has a
value; of where it is when it fails nothing is said.

The same can be read from **place** to place. All tokens stay where they are, and a
cursor counts those that have been gone past. A `Walk` looks at the token at its
place, moves on and goes round in loops, and nothing in its type keeps it from going
past the last token, or from calling other walks without end. All that bounds it is a
number: how deep calls may be nested, where a turn of a loop counts as a call in the
turn before. A walk that gets deeper is cut off, and comes to nothing. There is a walk
for each reader of tokens, which takes the same decisions in the same order.

So progress is something to prove of walks. A walk **keeps up** with a reader
(`KeepsUp`) if, wherever it has the tokens of the reader in front of it, it stops,
with the result and the notes of the reader, and has gone past some of these tokens;
if there is a value, past all but those that the reader leaves. It has to do so in the
same way at every depth that is large enough. One walk after another keeps up with one
reader after another (`KeepsUp.bind`), and for expressions everything follows in one
induction on the calls of their readers (`readers_keep_up`), with depths that are
linear in the number of tokens. The main statement is `readers_make_progress`.
-/

namespace RecordPlan

/-! ## Walks -/

/-- Where reading has come to. -/
structure Cursor where
  /-- How many tokens have been gone past. -/
  place : Nat
  /-- The words before which a comma was missing. -/
  gaps : List String

/-- **A walk** over tokens. It moves a cursor, whether it has a result or fails in the
end, or it is cut off and comes to nothing. -/
abbrev Walk (α : Type) := ExceptT ValueError (StateT Cursor Option) α

namespace Walk

/-- What a walk from a cursor comes to, and where it stops. -/
def runFrom {α : Type} (walk : Walk α) (start : Cursor) :
    Option (Except ValueError α × Cursor) :=
  (ExceptT.run walk).run start

/-- A walk that is cut off. -/
def cutOff {α : Type} : Walk α := fun _ => none

/-- Moves past a token, whether or not there is one. -/
def advance : Walk Unit := modify fun c => { c with place := c.place + 1 }

/-- Notes that a comma is missing before a word. -/
def gap (word : String) : Walk Unit := modify fun c => { c with gaps := c.gaps ++ [word] }

section Readers

variable (all : List Token)

/-- The token at the place, if there is one. -/
def peek : Walk (Option Token) := do return all[(← get).place]?

/-- The token at the place, and past it if there is one. -/
def take : Walk (Option Token) := do
  let t ← peek all
  if t.isSome then advance
  return t

/-- Takes a certain token. -/
def expect (expected : Token) : Walk Unit := do
  match ← take all with
  | some t => if t = expected then return () else throw (.unexpectedTokenExpecting t expected)
  | none => throw (.missingAtEnd expected)

/-- Reads a host ID and the bracket after it. -/
def hostIdInBrackets (prefixLen : UInt8) : Walk (Option HostId) := do
  match ← take all with
  | some (.word w) =>
    let id ← MonadExcept.ofExcept (hostIdOfWord prefixLen w)
    expect all .rightBracket
    return id
  | some t => throw (.unexpectedToken t)
  | none => throw (.missingAtEnd .rightBracket)

/-- Reads a host ID in brackets if host IDs are allowed and there is one. -/
def optionalHostId (prefixLen : Option UInt8) : Walk (Option HostId) := do
  match prefixLen with
  | some n =>
    if (← peek all) = some .leftBracket then
      advance
      hostIdInBrackets all n
    else return none
  | none => return none

/-- **Reads a list of domains**, in a loop, up to a closing parenthesis or the end. -/
def entries (prefixLen : Option UInt8) (separated : Bool) : Nat → Walk (List Entry)
  | 0 => cutOff
  | depth + 1 => do
    match ← peek all with
    | none | some .rightParen => return []
    | some .comma =>
      advance
      entries prefixLen true depth
    | some (.word w) =>
      advance
      if !separated then gap w
      let domain ← MonadExcept.ofExcept (domainOfWord w)
      let hostId ← optionalHostId all prefixLen
      let es ← entries prefixLen false depth
      return ⟨domain, hostId⟩ :: es
    | some t => throw (.unexpectedToken t)

/-- Reads a list of domains in parentheses. -/
def arguments (depth : Nat) : Walk (List Domain) := do
  expect all .leftParen
  let es ← entries all none true depth
  expect all .rightParen
  return es.map (·.domain)

mutual

/-- Reads terms joined by "or". -/
def disjunction : Nat → Walk Predicate
  | 0 => cutOff
  | depth + 1 => do
    let p ← conjunction depth
    moreDisjuncts p depth

/-- Reads, in a loop, what is joined by "or" to a predicate that has been read. -/
def moreDisjuncts (left : Predicate) : Nat → Walk Predicate
  | 0 => cutOff
  | depth + 1 => do
    if (← peek all) = some .or then
      advance
      let right ← conjunction depth
      moreDisjuncts (.or left right) depth
    else return left

/-- Reads terms joined by "and". -/
def conjunction : Nat → Walk Predicate
  | 0 => cutOff
  | depth + 1 => do
    let p ← negation false depth
    moreConjuncts p depth

/-- Reads, in a loop, what is joined by "and" to a predicate that has been read. -/
def moreConjuncts (left : Predicate) : Nat → Walk Predicate
  | 0 => cutOff
  | depth + 1 => do
    if (← peek all) = some .and then
      advance
      let right ← negation false depth
      moreConjuncts (.and left right) depth
    else return left

/-- Reads any number of `!`, in a loop, and then what they apply to; `negated` tells
whether an odd number of them has been read before. -/
def negation (negated : Bool) : Nat → Walk Predicate
  | 0 => cutOff
  | depth + 1 => do
    if (← peek all) = some .not then
      advance
      negation (!negated) depth
    else
      let p ← atom depth
      return p.negatedIf negated

/-- Reads a literal, a list of domains with its keyword, or an expression in
parentheses. -/
def atom : Nat → Walk Predicate
  | 0 => cutOff
  | depth + 1 => do
    match ← take all with
    | some .leftParen =>
      let p ← disjunction depth
      expect all .rightParen
      return p
    | some (.word w) =>
      if isKeyword "is" w then return .is (← arguments all depth)
      else if isKeyword "sub" w then return .sub (← arguments all depth)
      else match literal? w with
        | some b => return .const b
        | none => throw .notBooleanExpression
    | _ => throw .notBooleanExpression

end

end Readers
variable {α β : Type} {walk : Walk α} {next : α → Walk β} {start mid : Cursor}

/-- A walk that has a result is gone on from where it stops. -/
theorem runFrom_bind_of_ok {a : α} (h : walk.runFrom start = some (.ok a, mid)) :
    (walk >>= next).runFrom start = (next a).runFrom mid := by
  show (walk.runFrom start).bind _ = _
  rw [h]
  rfl

/-- A walk that fails is not gone on from. -/
theorem runFrom_bind_of_error {e : ValueError} (h : walk.runFrom start = some (.error e, mid)) :
    (walk >>= next).runFrom start = some (.error e, mid) := by
  show (walk.runFrom start).bind _ = _
  rw [h]
  rfl

end Walk

/-! ## Keeping up with a reader -/

variable {α β γ : Type} {P Q : List Token → Prop} {all ts : List Token} {t : Token}
  {depth : Nat} {separated : Bool} {prefixLen : Option UInt8} {n : UInt8}

/-- **A walk keeps up with a reader** of some tokens from a depth on: wherever these are
what is in front of it, it stops, with the result and the notes of the reader, and some of
them read. If there is a value, the others are what the reader leaves. -/
def KeepsUp (all ts : List Token) (depth : Nat) (walk : Nat → Walk α)
    (x : Scan (α × Subtype P)) : Prop :=
  ∀ front gaps, all = front ++ ts → ∃ read rest, ts = read ++ rest ∧
    (∀ d, depth ≤ d → (walk d).runFrom ⟨front.length, gaps⟩ =
      some (x.result.map Prod.fst, ⟨(front ++ read).length, gaps ++ x.gaps⟩)) ∧
    ∀ a us, x.Leaves a us → us = rest

namespace KeepsUp

theorem mono {depth' : Nat} {walk : Nat → Walk α} {x : Scan (α × Subtype P)}
    (keepsUp : KeepsUp all ts depth walk x) (le : depth ≤ depth') :
    KeepsUp all ts depth' walk x := by
  intro front gaps eq
  obtain ⟨read, rest, split, run, leaves⟩ := keepsUp front gaps eq
  exact ⟨read, rest, split, fun d enough => run d (Nat.le_trans le enough), leaves⟩

/-- A call takes one more of the depth. -/
theorem call {walk body : Nat → Walk α} {x : Scan (α × Subtype P)}
    (unfolds : ∀ d, walk (d + 1) = body d) (keepsUp : KeepsUp all ts depth body x) :
    KeepsUp all ts (depth + 1) walk x := by
  intro front gaps eq
  obtain ⟨read, rest, split, run, leaves⟩ := keepsUp front gaps eq
  refine ⟨read, rest, split, fun d enough => ?_, leaves⟩
  obtain ⟨d, rfl⟩ := Nat.exists_eq_add_of_le' (Nat.le_trans (Nat.le_add_left 1 depth) enough)
  rw [unfolds]
  exact run d (Nat.le_of_succ_le_succ enough)

/-- To have a value at once is to read nothing. -/
theorem pure {a : α} {r : Subtype P} (left : r.1 = ts) :
    KeepsUp all ts depth (fun _ => pure a) (pure (a, r)) := by
  intro front gaps _
  have noted : gaps ++ (Pure.pure (a, r) : Scan (α × Subtype P)).gaps = gaps :=
    List.append_nil gaps
  refine ⟨[], ts, rfl, fun d _ => ?_, fun b us leaves => ?_⟩
  · rw [List.append_nil, noted]
    rfl
  · obtain ⟨-, rfl⟩ := Scan.leaves_return.1 leaves
    exact left

/-- To fail is to read nothing. -/
theorem error (e : ValueError) :
    KeepsUp all ts depth (fun _ => (throw e : Walk α)) (Scan.error e : Scan (α × Subtype P)) := by
  intro front gaps _
  have noted : gaps ++ (Scan.error e : Scan (α × Subtype P)).gaps = gaps := List.append_nil gaps
  refine ⟨[], ts, rfl, fun d _ => ?_, fun a us leaves => absurd leaves Scan.not_leaves_error⟩
  rw [List.append_nil, noted]
  rfl

section Bind

variable {walk : Nat → Walk α} {next : Nat → α → Walk β}

/-- **One walk after another** keeps up with one reader after another: the second walk
starts where the first one has stopped, and there it has in front of it what the first
reader leaves. -/
theorem bind {x : Scan (α × Subtype P)} {f : α × Subtype P → Scan (β × Subtype Q)}
    (first : KeepsUp all ts depth walk x)
    (later : ∀ a r, KeepsUp all r.1 depth (fun d => next d a) (f (a, r))) :
    KeepsUp all ts depth (fun d => walk d >>= next d) (x >>= f) := by
  intro front gaps eq
  obtain ⟨read, rest, rfl, run, leaves⟩ := first front gaps eq
  cases result : x.result with
  | error e =>
    rw [result] at run
    rw [Scan.bind_of_error result]
    refine ⟨read, rest, rfl, fun d enough => ?_, fun b us left => ?_⟩
    · exact Walk.runFrom_bind_of_error (run d enough)
    · exact absurd left (Scan.not_leaves_of_error rfl)
  | ok v =>
    obtain ⟨a, r⟩ := v
    rw [result] at run
    obtain rfl : r.1 = rest := leaves a r.1 ⟨r, result, rfl⟩
    obtain ⟨read', rest', eq', run', leaves'⟩ :=
      later a r (front ++ read) (gaps ++ x.gaps) (by rw [eq, List.append_assoc])
    rw [Scan.bind_of_ok result]
    refine ⟨read ++ read', rest', by rw [eq', List.append_assoc], fun d enough => ?_, leaves'⟩
    rw [Walk.runFrom_bind_of_ok (run d enough), run' d enough, List.append_assoc,
      List.append_assoc]

/-- It makes no difference to a walk in what way a reader says that it has read
something. -/
theorem forward {x : Scan (α × Subtype P)} {f : α × Subtype P → Scan (α × Subtype Q)}
    (first : KeepsUp all ts depth walk x)
    (returns : ∀ a r, ∃ s : Subtype Q, s.1 = r.1 ∧ f (a, r) = Pure.pure (a, s)) :
    KeepsUp all ts depth walk (x >>= f) := by
  have same : walk = fun d => walk d >>= Pure.pure := funext fun d => (bind_pure (walk d)).symm
  rw [same]
  refine first.bind fun a r => ?_
  obtain ⟨s, left, eq⟩ := returns a r
  rw [eq]
  exact .pure left

/-- A step that goes past some tokens and cannot fail has no counterpart in a reader,
for which these tokens are the pattern of what it reads. -/
theorem step {move : Walk α} (read : List Token) {a : α} {x : Scan (β × Subtype P)}
    (moves : ∀ front gaps, all = front ++ (read ++ ts) →
      move.runFrom ⟨front.length, gaps⟩ = some (.ok a, ⟨(front ++ read).length, gaps⟩))
    (later : KeepsUp all ts depth (fun d => next d a) x) :
    KeepsUp all (read ++ ts) depth (fun d => move >>= next d) x := by
  intro front gaps eq
  obtain ⟨read', rest, rfl, run, leaves⟩ :=
    later (front ++ read) gaps (by rw [eq, List.append_assoc])
  refine ⟨read ++ read', rest, by rw [List.append_assoc], fun d enough => ?_, leaves⟩
  rw [Walk.runFrom_bind_of_ok (moves front gaps eq), run d enough, List.append_assoc]

end Bind

variable {x : Scan (β × Subtype P)}

/-! ### Steps -/

/-- The token at the place is the first one in front of the walk. -/
theorem peek {next : Nat → Option Token → Walk β}
    (later : KeepsUp all ts depth (fun d => next d ts.head?) x) :
    KeepsUp all ts depth (fun d => Walk.peek all >>= next d) x := by
  refine step [] (fun front gaps eq => ?_) later
  have here : all[front.length]? = ts.head? := by
    rw [eq, List.nil_append, List.getElem?_append_right (Nat.le_refl _), Nat.sub_self,
      List.head?_eq_getElem?]
  rw [List.append_nil, ← here]
  rfl

theorem advance {next : Nat → Unit → Walk β}
    (later : KeepsUp all ts depth (fun d => next d ()) x) :
    KeepsUp all (t :: ts) depth (fun d => Walk.advance >>= next d) x := by
  refine step [t] (fun front gaps _ => ?_) later
  rw [List.length_append]
  rfl

theorem take_cons {next : Nat → Option Token → Walk β}
    (later : KeepsUp all ts depth (fun d => next d (some t)) x) :
    KeepsUp all (t :: ts) depth (fun d => Walk.take all >>= next d) x := by
  simp only [Walk.take, bind_assoc]
  refine peek ?_
  simp only [List.head?_cons, Option.isSome_some, if_true, bind_assoc, pure_bind]
  exact advance later

theorem take_nil {next : Nat → Option Token → Walk β}
    (later : KeepsUp all [] depth (fun d => next d none) x) :
    KeepsUp all [] depth (fun d => Walk.take all >>= next d) x := by
  simp only [Walk.take, bind_assoc]
  refine peek ?_
  simpa using later

/-- A walk that looks for a token goes past it if it is there. -/
theorem found {yes no : Nat → Walk β} (later : KeepsUp all ts depth yes x) :
    KeepsUp all (t :: ts) depth (fun d => Walk.peek all >>= fun u =>
      if u = some t then Walk.advance >>= fun _ => yes d else no d) x := by
  refine peek ?_
  simp only [List.head?_cons, if_true]
  exact advance later

/-- A walk that looks for a token stays where it is if there is another one, or none. -/
theorem notFound {yes no : Nat → Walk β} (other : ∀ us, ts ≠ t :: us)
    (later : KeepsUp all ts depth no x) :
    KeepsUp all ts depth (fun d => Walk.peek all >>= fun u =>
      if u = some t then Walk.advance >>= fun _ => yes d else no d) x := by
  refine peek ?_
  have absent : ts.head? ≠ some t := by
    intro there
    obtain ⟨us, rfl⟩ := List.head?_eq_some_iff.1 there
    exact other us rfl
  simpa only [if_neg absent] using later

/-! ### Steps that readers take as well -/

theorem gap {w : String} {next : Nat → Unit → Walk β} {f : Unit → Scan (β × Subtype P)}
    (later : KeepsUp all ts depth (fun d => next d ()) (f ())) :
    KeepsUp all ts depth (fun d => Walk.gap w >>= next d) (Scan.gap w >>= f) := by
  intro front gaps eq
  obtain ⟨read, rest, split, run, leaves⟩ := later front (gaps ++ [w]) eq
  have noted : (Walk.gap w).runFrom ⟨front.length, gaps⟩ =
      some (.ok (), ⟨front.length, gaps ++ [w]⟩) := rfl
  refine ⟨read, rest, split, fun d enough => ?_, leaves⟩
  rw [Walk.runFrom_bind_of_ok noted, run d enough, List.append_assoc]
  rfl

theorem ofExcept {result : Except ValueError γ} {next : Nat → γ → Walk β}
    {f : γ → Scan (β × Subtype P)}
    (later : ∀ c, KeepsUp all ts depth (fun d => next d c) (f c)) :
    KeepsUp all ts depth (fun d => MonadExcept.ofExcept result >>= next d)
      (Scan.ofExcept result >>= f) := by
  cases result with
  | error e => exact error e
  | ok c =>
    have same : (fun d => MonadExcept.ofExcept (Except.ok c) >>= next d) = fun d => next d c :=
      funext fun d => pure_bind c (next d)
    rw [same]
    exact later c

/-- A certain token is gone past even if it is another one, and then both fail. -/
theorem expect {next : Nat → Unit → Walk β} {f : Shorter ts → Scan (β × Subtype P)}
    (later : ∀ r : Shorter ts, KeepsUp all r.1 depth (fun d => next d ()) (f r)) :
    KeepsUp all ts depth (fun d => Walk.expect all t >>= next d) (expect t ts >>= f) := by
  simp only [Walk.expect, bind_assoc]
  cases ts with
  | nil => exact take_nil (error _)
  | cons u us =>
    refine take_cons ?_
    rw [RecordPlan.expect]
    by_cases same : u = t
    · simp only [if_pos same, pure_bind]
      exact later (.tail u us)
    · simp only [if_neg same]
      exact error _

end KeepsUp

/-! ## Walks keep up with readers -/

theorem keepsUp_hostIdInBrackets :
    KeepsUp all ts depth (fun _ => Walk.hostIdInBrackets all n) (hostIdInBrackets n ts) := by
  cases ts with
  | nil => exact .take_nil (.error _)
  | cons t ts =>
    refine .take_cons ?_
    cases t with
    | word w => exact .ofExcept fun id => .expect fun r => .pure rfl
    | _ => exact .error _

theorem keepsUp_optionalHostId :
    KeepsUp all ts depth (fun _ => Walk.optionalHostId all prefixLen)
      (optionalHostId prefixLen ts) := by
  unfold optionalHostId
  split
  · next n us =>
    exact .found (keepsUp_hostIdInBrackets.forward fun _ _ => ⟨_, rfl, rfl⟩)
  · next ts noBracket =>
    cases prefixLen with
    | none => exact .pure rfl
    | some n => exact .notFound (fun us eq => noBracket n us rfl eq) (.pure rfl)

/-- **The loop over a list** keeps up with the reader of lists, by induction on the calls
of the latter: each turn goes past a comma, or a domain with what belongs to it. -/
theorem keepsUp_entries :
    KeepsUp all ts (ts.length + 1) (Walk.entries all prefixLen separated)
      (entries prefixLen separated ts) := by
  induction separated, ts using entries.induct prefixLen with
  | case1 separated =>
    rw [entries]
    refine .call (fun d => by rw [Walk.entries]) ?_
    exact .peek (.pure rfl)
  | case2 separated us =>
    rw [entries]
    refine .call (fun d => by rw [Walk.entries]) ?_
    exact .peek (.pure rfl)
  | case3 separated us more =>
    rw [entries]
    refine .call (fun d => by rw [Walk.entries]) ?_
    exact .peek (.advance (more.forward fun _ _ => ⟨_, rfl, rfl⟩))
  | case4 separated w us missing more =>
    rw [entries]
    refine .call (fun d => by rw [Walk.entries]) (.peek (.advance ?_))
    simp only [if_pos missing]
    refine .gap (.ofExcept fun d => keepsUp_optionalHostId.bind fun id r => ?_)
    exact ((more r).mono (by grind)).bind fun es s => .pure rfl
  | case5 separated w us present more =>
    rw [entries]
    refine .call (fun d => by rw [Walk.entries]) (.peek (.advance ?_))
    simp only [if_neg present]
    refine .ofExcept fun d => keepsUp_optionalHostId.bind fun id r => ?_
    exact ((more r).mono (by grind)).bind fun es s => .pure rfl
  | case6 separated t us noParen noComma noWord =>
    rw [entries]
    · refine .call (fun d => by rw [Walk.entries]) (.peek ?_)
      cases t with
      | word w => exact absurd rfl (noWord w)
      | comma => exact absurd rfl noComma
      | rightParen => exact absurd rfl noParen
      | _ => exact .error _
    all_goals assumption

theorem keepsUp_arguments :
    KeepsUp all ts (ts.length + 1) (Walk.arguments all) (arguments ts) :=
  .expect fun r => (keepsUp_entries.mono (by grind)).bind fun _ _ => .expect fun _ => .pure rfl

/-- **The walks over expressions keep up with their readers.** The induction is on the
calls of the readers to one another. A loop goes on after a term, which the walk over
the term has gone past, and an expression in parentheses is read behind the opening
one; with each token calls may be nested by four more. -/
theorem readers_keep_up (all : List Token) :
    (∀ ts, KeepsUp all ts (4 * ts.length + 4) (Walk.disjunction all) (disjunction ts)) ∧
    (∀ left ts, KeepsUp all ts (4 * ts.length + 4) (Walk.moreDisjuncts all left)
      (moreDisjuncts left ts)) ∧
    (∀ ts, KeepsUp all ts (4 * ts.length + 3) (Walk.conjunction all) (conjunction ts)) ∧
    (∀ left ts, KeepsUp all ts (4 * ts.length + 3) (Walk.moreConjuncts all left)
      (moreConjuncts left ts)) ∧
    (∀ negated ts, KeepsUp all ts (4 * ts.length + 2) (Walk.negation all negated)
      (negation negated ts)) ∧
    ∀ ts, KeepsUp all ts (4 * ts.length + 1) (Walk.atom all) (atom ts) := by
  refine disjunction.mutual_induct _ _ _ _ _ _ ?disjunction ?or ?noOr ?conjunction ?and ?noAnd
    ?not ?noNot ?parentheses ?is ?sub ?literal ?noLiteral ?noAtom
  case disjunction =>
    intro ts first more
    rw [disjunction]
    refine .call (fun d => by rw [Walk.disjunction]) ?_
    exact first.bind fun p r => ((more p r).mono (by grind)).forward fun _ _ => ⟨_, rfl, rfl⟩
  case or =>
    intro left ts next more
    rw [moreDisjuncts]
    refine .call (fun d => by rw [Walk.moreDisjuncts]) (.found ?_)
    refine (next.mono (by grind)).bind fun p r => ?_
    exact ((more p r).mono (by grind)).forward fun _ _ => ⟨_, rfl, rfl⟩
  case noOr =>
    intro left ts none
    rw [moreDisjuncts]
    · refine .call (fun d => by rw [Walk.moreDisjuncts]) (.notFound none (.pure rfl))
    · exact none
  case conjunction =>
    intro ts first more
    rw [conjunction]
    refine .call (fun d => by rw [Walk.conjunction]) ?_
    exact first.bind fun p r => ((more p r).mono (by grind)).forward fun _ _ => ⟨_, rfl, rfl⟩
  case and =>
    intro left ts next more
    rw [moreConjuncts]
    refine .call (fun d => by rw [Walk.moreConjuncts]) (.found ?_)
    refine (next.mono (by grind)).bind fun p r => ?_
    exact ((more p r).mono (by grind)).forward fun _ _ => ⟨_, rfl, rfl⟩
  case noAnd =>
    intro left ts none
    rw [moreConjuncts]
    · refine .call (fun d => by rw [Walk.moreConjuncts]) (.notFound none (.pure rfl))
    · exact none
  case not =>
    intro negated ts more
    rw [negation]
    refine .call (fun d => by rw [Walk.negation]) (.found ?_)
    exact (more.mono (by grind)).forward fun _ _ => ⟨_, rfl, rfl⟩
  case noNot =>
    intro negated ts none reads
    rw [negation]
    · refine .call (fun d => by rw [Walk.negation]) (.notFound none ?_)
      exact reads.bind fun p r => .pure rfl
    · exact none
  case parentheses =>
    intro ts reads
    rw [atom]
    refine .call (fun d => by rw [Walk.atom]) (.take_cons ?_)
    exact (reads.mono (by grind)).bind fun p r => .expect fun r' => .pure rfl
  case is =>
    intro w ts keyword
    rw [atom, if_pos keyword]
    refine .call (fun d => by rw [Walk.atom]) (.take_cons ?_)
    simp only [if_pos keyword]
    exact (keepsUp_arguments.mono (by grind)).bind fun ds r => .pure rfl
  case sub =>
    intro w ts notIs keyword
    rw [atom, if_neg notIs, if_pos keyword]
    refine .call (fun d => by rw [Walk.atom]) (.take_cons ?_)
    simp only [if_neg notIs, if_pos keyword]
    exact (keepsUp_arguments.mono (by grind)).bind fun ds r => .pure rfl
  case literal =>
    intro w ts notIs notSub b literal
    rw [atom, if_neg notIs, if_neg notSub, literal]
    refine .call (fun d => by rw [Walk.atom]) (.take_cons ?_)
    simp only [if_neg notIs, if_neg notSub, literal]
    exact .pure rfl
  case noLiteral =>
    intro w ts notIs notSub none
    rw [atom, if_neg notIs, if_neg notSub, none]
    refine .call (fun d => by rw [Walk.atom]) (.take_cons ?_)
    simp only [if_neg notIs, if_neg notSub, none]
    exact .error _
  case noAtom =>
    intro ts noParen noWord
    rw [atom]
    · refine .call (fun d => by rw [Walk.atom]) ?_
      cases ts with
      | nil => exact .take_nil (.error _)
      | cons t ts =>
        refine .take_cons ?_
        cases t with
        | word w => exact absurd rfl (noWord w ts)
        | leftParen => exact absurd rfl (noParen ts)
        | _ => exact .error _
    · exact noParen
    · exact noWord

/-! ## Where walks stop -/

variable {walk : Nat → Walk α} {start stop : Cursor} {a : α} {us : List Token} {es : List Entry}

/-- **Where a walk stops**, from a depth on, that keeps up with a reader of what is left at
its start. -/
structure StopsAt (all : List Token) (depth : Nat) (walk : Nat → Walk α)
    (x : Scan (α × Subtype P)) (start stop : Cursor) : Prop where
  /-- It stops there, with the result of the reader. -/
  run : ∀ d, depth ≤ d → (walk d).runFrom start = some (x.result.map Prod.fst, stop)
  /-- It has not gone back. -/
  start_le : start.place ≤ stop.place
  /-- It has not gone past the last token. -/
  le_length : stop.place ≤ all.length
  /-- It has noted what the reader notes. -/
  gaps : stop.gaps = start.gaps ++ x.gaps
  /-- What the reader leaves is left. -/
  left : ∀ a us, x.Leaves a us → us = all.drop stop.place

/-- A walk that keeps up stops somewhere. -/
theorem KeepsUp.exists_stopsAt {x : Scan (α × Subtype P)}
    (keepsUp : KeepsUp all (all.drop start.place) depth walk x)
    (within : start.place ≤ all.length) : ∃ stop, StopsAt all depth walk x start stop := by
  obtain ⟨front, ts, rfl, length⟩ : ∃ front ts, all = front ++ ts ∧ front.length = start.place :=
    ⟨_, _, (List.take_append_drop _ _).symm, List.length_take_of_le within⟩
  rw [← length, List.drop_left] at keepsUp
  obtain ⟨read, rest, rfl, run, leaves⟩ := keepsUp front start.gaps rfl
  rw [length] at run
  refine ⟨_, run, ?_, ?_, rfl, fun a us left => ?_⟩
  · rw [List.length_append, length]
    exact Nat.le_add_right _ _
  · rw [← List.append_assoc]
    exact (List.prefix_append _ _).length_le
  · rw [← List.append_assoc, List.drop_left]
    exact leaves a us left

/-- It has a value if the reader has one. -/
theorem StopsAt.run_of_leaves {x : Scan (α × Subtype P)} {d : Nat}
    (stops : StopsAt all depth walk x start stop) (leaves : x.Leaves a us) (enough : depth ≤ d) :
    (walk d).runFrom start = some (.ok a, stop) := by
  obtain ⟨r, result, -⟩ := leaves
  rw [stops.run d enough, result]
  rfl

/-- A reader that leaves less is kept up with by going further. -/
theorem StopsAt.start_lt {x : Scan (α × Shorter (all.drop start.place))}
    (stops : StopsAt all depth walk x start stop) (leaves : x.Leaves a us) :
    start.place < stop.place := by
  obtain ⟨r, -, rfl⟩ := id leaves
  have shorter := r.2
  rw [stops.left a r.1 leaves, List.length_drop, List.length_drop] at shorter
  omega

theorem endsList_drop_iff {place : Nat} :
    endsList (all.drop place) = true ↔ all[place]? = none ∨ all[place]? = some .rightParen := by
  rw [← List.head?_drop]
  cases all.drop place with
  | nil => simp [endsList]
  | cons t ts => cases t <;> simp [endsList]

/-- What is between two places is in front of what is left at the second. -/
theorem extract_append_drop (all : List Token) {place place' : Nat} (le : place ≤ place') :
    all.extract place place' ++ all.drop place' = all.drop place := by
  have rest : (all.drop place).drop (place' - place) = all.drop place' := by
    rw [List.drop_drop, Nat.add_sub_cancel' le]
  rw [← rest]
  exact List.take_append_drop _ _

/-- **A list that has been walked over** ends where it has to, and is written in parts. -/
theorem StopsAt.isListOf {walk : Nat → Walk (List Entry)}
    (stops : StopsAt all depth walk (entries prefixLen separated (all.drop start.place)) start stop)
    (leaves : (entries prefixLen separated (all.drop start.place)).Leaves es us) :
    (all[stop.place]? = none ∨ all[stop.place]? = some .rightParen) ∧
      ∃ parts, IsListOf prefixLen parts (all.extract start.place stop.place) es := by
  obtain rfl := stops.left es us leaves
  obtain ⟨ends, read, split, list⟩ := entries_leaves_iff.1 leaves
  have between : read = all.extract start.place stop.place := by
    rw [← extract_append_drop all stops.start_le] at split
    exact (List.append_cancel_right split).symm
  rw [between] at list
  exact ⟨endsList_drop_iff.1 ends, listing_iff_isListOf.1 list⟩

/-- **A walk gets ahead**, from a depth on: it stops, within the tokens and where the reader
does, and further on than it has started if there is a value. -/
def GetsAhead (all : List Token) (depth : Nat) (walk : Nat → Walk α) (x : Scan (α × Subtype P))
    (start : Cursor) : Prop :=
  ∃ stop, StopsAt all depth walk x start stop ∧
    ∀ a us, x.Leaves a us → start.place < stop.place

theorem KeepsUp.getsAhead {x : Scan (α × Shorter (all.drop start.place))}
    (keepsUp : KeepsUp all (all.drop start.place) depth walk x)
    (within : start.place ≤ all.length) : GetsAhead all depth walk x start := by
  obtain ⟨stop, stops⟩ := keepsUp.exists_stopsAt within
  exact ⟨stop, stops, fun a us leaves => stops.start_lt leaves⟩

/-- **Readers make progress**, and never go past the last token. Whatever the tokens are,
and wherever among them a walk starts, it stops, with the result and the notes of the
reader of what is left there, if calls may be nested four times for each token that is
left and four times more. The place where it stops, with a value or an error, is no
earlier than the place where it has started, and no later than the end.

If there is a value the place is later, except that a list may be empty. A list is read
up to a closing parenthesis or the end, and what has been gone past then is written in
parts: commas, and domains with or without a host ID between two brackets. -/
theorem readers_make_progress (all : List Token) (start : Cursor)
    (within : start.place ≤ all.length) :
    let ts := all.drop start.place
    GetsAhead all (4 * ts.length + 4) (Walk.disjunction all) (disjunction ts) start ∧
    GetsAhead all (4 * ts.length + 3) (Walk.conjunction all) (conjunction ts) start ∧
    (∀ negated,
      GetsAhead all (4 * ts.length + 2) (Walk.negation all negated) (negation negated ts) start) ∧
    GetsAhead all (4 * ts.length + 1) (Walk.atom all) (atom ts) start ∧
    GetsAhead all (ts.length + 1) (Walk.arguments all) (arguments ts) start ∧
    (∀ n, GetsAhead all 0 (fun _ => Walk.hostIdInBrackets all n) (hostIdInBrackets n ts) start) ∧
    ∀ prefixLen, ∃ stop,
      StopsAt all (ts.length + 1) (Walk.entries all prefixLen true) (entries prefixLen true ts)
        start stop ∧
      ∀ es us, (entries prefixLen true ts).Leaves es us →
        (all[stop.place]? = none ∨ all[stop.place]? = some .rightParen) ∧
        ∃ parts, IsListOf prefixLen parts (all.extract start.place stop.place) es := by
  intro ts
  obtain ⟨disjunction, -, conjunction, -, negation, atom⟩ := readers_keep_up all
  refine ⟨(disjunction ts).getsAhead within, (conjunction ts).getsAhead within,
    fun negated => (negation negated ts).getsAhead within, (atom ts).getsAhead within,
    keepsUp_arguments.getsAhead within, fun n => keepsUp_hostIdInBrackets.getsAhead within,
    fun prefixLen => ?_⟩
  obtain ⟨stop, stops⟩ := keepsUp_entries.exists_stopsAt within
  exact ⟨stop, stops, fun es us leaves => stops.isListOf leaves⟩

/-- A chain that breaks off at a domain. Its first term is read, and the domain and its
host ID would be read as a list. -/
theorem broken_chain_is_walked_over :
    let all : List Token := [.leftParen, .not, .word "T", .or, .word "a.org", .leftBracket,
      .word "::1", .rightBracket, .rightParen]
    let es : List Entry := [⟨.fqdn "a.org", some (.suffix ⟨1⟩ 64)⟩]
    (1 ≤ all.length ∧ ∃ stop : Cursor, stop.place = 3 ∧
      (Walk.negation all false 34).runFrom ⟨1, []⟩ = some (.ok (.not (.const true)), stop)) ∧
    4 ≤ all.length ∧ ∃ stop : Cursor, stop.place = 8 ∧
      (Walk.entries all (some 64) true 6).runFrom ⟨4, []⟩ = some (.ok es, stop) ∧
      ∃ parts, IsListOf (some 64) parts (all.extract 4 stop.place) es := by
  intro all es
  -- places are told apart by what is left there
  have place_eq {k k' : Nat} (le : k ≤ all.length) (le' : k' ≤ all.length)
      (same : all.drop k = all.drop k') : k' = k := by
    have lengths := congrArg List.length same
    rw [List.length_drop, List.length_drop] at lengths
    omega
  have term : Derives .negation [.not, .word "T"] (.not (.const true)) :=
    (Derives.true (by decide)).marked
  have list : Listing (some 64) [.word "a.org", .leftBracket, .word "::1", .rightBracket] es :=
    .withHostId rfl (by decide) (by decide) .nil
  refine ⟨⟨by decide, ?_⟩, by decide, ?_⟩
  · obtain ⟨-, -, negation, -⟩ := readers_make_progress all ⟨1, []⟩ (by decide)
    obtain ⟨stop, stops, -⟩ := negation false
    have leaves : (RecordPlan.negation false (all.drop 1)).Leaves (.not (.const true))
      (all.drop 3) := term.isRead (all.drop 3)
    have left : all.drop 3 = all.drop stop.place := stops.left _ _ leaves
    exact ⟨stop, place_eq (by decide) stops.le_length left,
      stops.run_of_leaves leaves (by decide)⟩
  · obtain ⟨-, -, -, -, -, -, lists⟩ := readers_make_progress all ⟨4, []⟩ (by decide)
    obtain ⟨stop, stops, parted⟩ := lists (some 64)
    have leaves : (entries (some 64) true (all.drop 4)).Leaves es (all.drop 8) :=
      list.entries_leaves rfl
    have left : all.drop 8 = all.drop stop.place := stops.left _ _ leaves
    exact ⟨stop, place_eq (by decide) stops.le_length left,
      stops.run_of_leaves leaves (by decide), (parted _ _ leaves).2⟩

/-- What is no part of an expression is gone past, and no more. -/
example : (Walk.disjunction [.not, .leftParen, .rightParen, .or] 20).runFrom ⟨0, []⟩ =
    some (.error .notBooleanExpression, ⟨3, []⟩) := rfl

end RecordPlan
