import RecordPlan.Proofs.Setting.Entry
import RecordPlan.Proofs.Setting.Reading
import RecordPlan.Proofs.Text.Utf8

/-!
# What expressions are

`Derives` is the grammar of expressions: it says, without any reader,
which tokens are an expression and which predicate they denote. There is
one **level** for each strength of binding. Chains of one operator grow to
the right, so they associate to the left, and a predicate is negated if
the number of `!` in front of it is odd.

Readers go through the tokens from left to right, and what a chain has
read so far is handed on. So the two directions need different things. A
reader that goes on with a chain extends **every** chain that denotes what
has been read (`readers_sound`), and for a derivation it is shown that a
reader, whatever follows, gets to the point where the chain has been read
(`Derives.isRead`). Together they say that the reader of expressions
reads what the grammar derives, and nothing else
(`scanExpression_result_eq_ok`). The main statement is
`expressions_are_derived`.
-/

namespace RecordPlan

/-- How close the operator of an expression binds, from the loosest. -/
inductive Level where
  /-- Terms joined by "or". -/
  | disjunction
  /-- Terms joined by "and". -/
  | conjunction
  /-- A term behind any number of `!`. -/
  | negation
  /-- A term without operators outside of parentheses. -/
  | atom
  deriving DecidableEq

/-- A word with its ASCII letters in lower case. -/
def lowered (w : String) : String := String.ofList (w.toList.map Char.toLower)

/-- **The grammar of expressions**: the tokens of each level, and the
predicates that they denote. -/
inductive Derives : Level → List Token → Predicate → Prop where
  /-- A term that is not joined to another by "or". -/
  | ofConjunction {ts : List Token} {p : Predicate} :
      Derives .conjunction ts p → Derives .disjunction ts p
  /-- A term joined by "or" to those before it. -/
  | or {ts us : List Token} {p q : Predicate} :
      Derives .disjunction ts p → Derives .conjunction us q →
      Derives .disjunction (ts ++ .or :: us) (.or p q)
  /-- A term that is not joined to another by "and". -/
  | ofNegation {ts : List Token} {p : Predicate} :
      Derives .negation ts p → Derives .conjunction ts p
  /-- A term joined by "and" to those before it. -/
  | and {ts us : List Token} {p q : Predicate} :
      Derives .conjunction ts p → Derives .negation us q →
      Derives .conjunction (ts ++ .and :: us) (.and p q)
  /-- A term behind an even number of `!` stays as it is. -/
  | even {n : Nat} {ts : List Token} {p : Predicate} :
      n % 2 = 0 → Derives .atom ts p → Derives .negation (List.replicate n .not ++ ts) p
  /-- A term behind an odd number of `!` is negated. -/
  | odd {n : Nat} {ts : List Token} {p : Predicate} :
      n % 2 = 1 → Derives .atom ts p → Derives .negation (List.replicate n .not ++ ts) (.not p)
  /-- A word for true. -/
  | true {w : String} :
      lowered w ∈ ["true", "t", "1", "yes"] → Derives .atom [.word w] (.const true)
  /-- A word for false. -/
  | false {w : String} :
      lowered w ∈ ["false", "f", "0", "no"] → Derives .atom [.word w] (.const false)
  /-- The domains of a list. -/
  | is {w : String} {ts : List Token} {es : List Entry} :
      lowered w = "is" → Listing none ts es →
      Derives .atom (.word w :: .leftParen :: (ts ++ [.rightParen])) (.is (es.map (·.domain)))
  /-- What lies under the domains of a list. -/
  | sub {w : String} {ts : List Token} {es : List Entry} :
      lowered w = "sub" → Listing none ts es →
      Derives .atom (.word w :: .leftParen :: (ts ++ [.rightParen])) (.sub (es.map (·.domain)))
  /-- Parentheses leave no trace. -/
  | parentheses {ts : List Token} {p : Predicate} :
      Derives .disjunction ts p → Derives .atom (.leftParen :: (ts ++ [.rightParen])) p

/-- **The keywords in front of lists of domains**, and what each makes of its list. -/
inductive IsSelector (w : String) : (List Domain → Predicate) → Prop where
  /-- The domains themselves. -/
  | is (spelled : lowered w = "is") : IsSelector w .is
  /-- What lies under them. -/
  | sub (spelled : lowered w = "sub") : IsSelector w .sub

variable {ts us rest : List Token} {p q : Predicate} {w : String} {negated : Bool}
  {select : List Domain → Predicate}

namespace Derives

/-- A list of domains in parentheses is a term behind a keyword. -/
theorem selection {es : List Entry} (selector : IsSelector w select) (list : Listing none ts es) :
    Derives .atom (.word w :: .leftParen :: (ts ++ [.rightParen])) (select (es.map (·.domain))) := by
  cases selector with
  | is spelled => exact .is spelled list
  | sub spelled => exact .sub spelled list

/-- A term without operators is a term of every level. -/
theorem negation (h : Derives .atom ts p) : Derives .negation ts p :=
  .even (n := 0) rfl h

theorem conjunction (h : Derives .atom ts p) : Derives .conjunction ts p :=
  .ofNegation h.negation

theorem disjunction (h : Derives .atom ts p) : Derives .disjunction ts p :=
  .ofConjunction h.conjunction

/-- A term behind one `!` is negated. -/
theorem marked (h : Derives .atom ts p) : Derives .negation (.not :: ts) (.not p) :=
  .odd (n := 1) rfl h

end Derives

/-! ## Values and words -/

/-- Bytes have tokens if they are UTF-8 and the text has tokens. -/
theorem Token.ofBytes_eq_ok_iff {value : List UInt8} :
    Token.ofBytes value = .ok ts ↔
      ∃ text, value = Text.Utf8.encode text ∧ Token.ofText text = .ok ts := by
  simp only [← Text.Utf8.decode_eq_ok_iff]
  unfold ofBytes
  cases Text.Utf8.decode value with
  | error defect => simp
  | ok text => simp

/-- Comparing without regard to case, with a word in lower case. -/
theorem sameButCase_iff {word : String} (h : word.toList.map Char.toLower = word.toList) :
    Text.sameButCase w.toList word.toList = true ↔ lowered w = word := by
  rw [Text.sameButCase, h, beq_iff_eq, lowered]
  exact ⟨fun eq => by rw [eq, String.ofList_toList], fun eq => by rw [← eq, String.toList_ofList]⟩

theorem isKeyword_iff {keyword : String}
    (h : keyword.toList.map Char.toLower = keyword.toList) :
    isKeyword keyword w = true ↔ lowered w = keyword :=
  sameButCase_iff h

theorem any_sameButCase_iff {words : List String}
    (h : ∀ word ∈ words, word.toList.map Char.toLower = word.toList) :
    (words.any fun word => Text.sameButCase w.toList word.toList) = true ↔ lowered w ∈ words := by
  rw [List.any_eq_true]
  constructor
  · rintro ⟨word, mem, same⟩
    rwa [(sameButCase_iff (h word mem)).1 same]
  · exact fun mem => ⟨_, mem, (sameButCase_iff (h _ mem)).2 rfl⟩

theorem literal?_eq_some_true : literal? w = some true ↔ lowered w ∈ trueWords := by
  rw [← any_sameButCase_iff (by decide), literal?]
  split <;> simp_all

/-- No word is both for true and for false. -/
theorem literal?_eq_some_false : literal? w = some false ↔ lowered w ∈ falseWords := by
  have apart : ∀ word ∈ falseWords, word ∉ trueWords := by decide
  rw [literal?]
  split
  · next isTrue =>
    rw [any_sameButCase_iff (by decide)] at isTrue
    simpa using fun isFalse => apart _ isFalse isTrue
  · rw [← any_sameButCase_iff (by decide)]
    split <;> simp_all

/-- No literal is a keyword. -/
theorem not_isKeyword_of_literal? {b : Bool} (h : literal? w = some b) :
    ¬ isKeyword "is" w = true ∧ ¬ isKeyword "sub" w = true := by
  have keywords : ∀ word ∈ trueWords ++ falseWords, word ≠ "is" ∧ word ≠ "sub" := by decide
  rw [isKeyword_iff rfl, isKeyword_iff rfl]
  refine keywords _ ?_
  cases b with
  | true => exact List.mem_append_left _ (literal?_eq_some_true.1 h)
  | false => exact List.mem_append_right _ (literal?_eq_some_false.1 h)

/-! ## The readers, step by step -/

theorem arguments_leaves_iff {ds : List Domain} :
    (arguments ts).Leaves ds rest ↔ ∃ us es, ts = .leftParen :: (us ++ .rightParen :: rest) ∧
      Listing none us es ∧ es.map (·.domain) = ds := by
  rw [arguments, Scan.leaves_bind]
  constructor
  · rintro ⟨r, hr, h⟩
    obtain ⟨⟨es, mid⟩, hes, h⟩ := Scan.leaves_bind.1 h
    obtain ⟨last, hlast, h⟩ := Scan.leaves_bind.1 h
    obtain ⟨rfl, rfl⟩ := Scan.leaves_return.1 h
    obtain ⟨-, us, eq, list⟩ := entries_leaves_iff.1 ⟨mid, hes, rfl⟩
    refine ⟨us, es, (expect_result_eq_ok.1 hr).trans ?_, list, rfl⟩
    rw [eq, expect_result_eq_ok.1 hlast]
    rfl
  · rintro ⟨us, es, rfl, list, rfl⟩
    refine ⟨.tail _ _, expect_result_eq_ok.2 rfl, ?_⟩
    have reads : (entries none true (us ++ .rightParen :: rest)).Leaves es (.rightParen :: rest) :=
      list.entries_leaves rfl
    obtain ⟨mid, hmid, eq⟩ := reads
    refine Scan.leaves_bind.2 ⟨(es, mid), hmid, ?_⟩
    obtain ⟨mid, _⟩ := mid
    obtain rfl : mid = .rightParen :: rest := eq
    exact Scan.leaves_bind.2 ⟨.tail _ rest, expect_result_eq_ok.2 rfl,
      Scan.leaves_return.2 ⟨rfl, rfl⟩⟩

theorem disjunction_leaves_iff :
    (disjunction ts).Leaves q rest ↔
      ∃ p mid, (conjunction ts).Leaves p mid ∧ (moreDisjuncts p mid).Leaves q rest := by
  rw [disjunction]
  refine Scan.leaves_bind_iff fun p r => ?_
  exact Scan.leaves_bind_forward_iff fun _ _ => Scan.leaves_return

theorem moreDisjuncts_or_leaves_iff :
    (moreDisjuncts p (.or :: ts)).Leaves q rest ↔
      ∃ r mid, (conjunction ts).Leaves r mid ∧ (moreDisjuncts (.or p r) mid).Leaves q rest := by
  rw [moreDisjuncts]
  refine Scan.leaves_bind_iff fun r s => ?_
  exact Scan.leaves_bind_forward_iff fun _ _ => Scan.leaves_return

theorem moreDisjuncts_leaves_iff (h : ∀ us, ts ≠ .or :: us) :
    (moreDisjuncts p ts).Leaves q rest ↔ p = q ∧ ts = rest := by
  rw [moreDisjuncts]
  · exact Scan.leaves_pure
  · exact fun us eq => h us eq

theorem conjunction_leaves_iff :
    (conjunction ts).Leaves q rest ↔
      ∃ p mid, (negation false ts).Leaves p mid ∧ (moreConjuncts p mid).Leaves q rest := by
  rw [conjunction]
  refine Scan.leaves_bind_iff fun p r => ?_
  exact Scan.leaves_bind_forward_iff fun _ _ => Scan.leaves_return

theorem moreConjuncts_and_leaves_iff :
    (moreConjuncts p (.and :: ts)).Leaves q rest ↔
      ∃ r mid, (negation false ts).Leaves r mid ∧ (moreConjuncts (.and p r) mid).Leaves q rest := by
  rw [moreConjuncts]
  refine Scan.leaves_bind_iff fun r s => ?_
  exact Scan.leaves_bind_forward_iff fun _ _ => Scan.leaves_return

theorem moreConjuncts_leaves_iff (h : ∀ us, ts ≠ .and :: us) :
    (moreConjuncts p ts).Leaves q rest ↔ p = q ∧ ts = rest := by
  rw [moreConjuncts]
  · exact Scan.leaves_pure
  · exact fun us eq => h us eq

theorem negation_not_leaves_iff :
    (negation negated (.not :: ts)).Leaves q rest ↔ (negation (!negated) ts).Leaves q rest := by
  rw [negation]
  exact Scan.leaves_bind_forward_iff fun _ _ => Scan.leaves_return

theorem negation_leaves_iff (h : ∀ us, ts ≠ .not :: us) :
    (negation negated ts).Leaves q rest ↔
      ∃ p, (atom ts).Leaves p rest ∧ p.negatedIf negated = q := by
  rw [negation]
  · exact Scan.leaves_bind_return_iff fun _ _ => Scan.leaves_return
  · exact fun us eq => h us eq

theorem atom_leftParen_leaves_iff :
    (atom (.leftParen :: ts)).Leaves p rest ↔
      (disjunction ts).Leaves p (.rightParen :: rest) := by
  rw [atom, Scan.leaves_bind]
  constructor
  · rintro ⟨⟨q, r⟩, hr, h⟩
    obtain ⟨last, hlast, h⟩ := Scan.leaves_bind.1 h
    obtain ⟨rfl, rfl⟩ := Scan.leaves_return.1 h
    exact ⟨r, hr, expect_result_eq_ok.1 hlast⟩
  · rintro ⟨⟨r, shorter⟩, hr, eq⟩
    obtain rfl : r = .rightParen :: rest := eq
    refine ⟨_, hr, Scan.leaves_bind.2 ⟨.tail _ rest, expect_result_eq_ok.2 rfl, ?_⟩⟩
    exact Scan.leaves_return.2 ⟨rfl, rfl⟩

/-- **Behind a keyword a list is read**, and the predicate is what the keyword makes of
it. -/
theorem atom_of_isSelector (selector : IsSelector w select) (ts : List Token) :
    atom (.word w :: ts) = do
      let (ds, rest) ← arguments ts
      return (select ds, rest.cons _) := by
  cases selector with
  | is spelled => rw [atom, if_pos ((isKeyword_iff rfl).2 spelled)]
  | sub spelled =>
    have notIs : ¬ isKeyword "is" w = true := by
      rw [isKeyword_iff rfl, spelled]
      decide
    rw [atom, if_neg notIs, if_pos ((isKeyword_iff rfl).2 spelled)]

theorem atom_selection_leaves_iff (selector : IsSelector w select) :
    (atom (.word w :: ts)).Leaves p rest ↔
      ∃ ds, (arguments ts).Leaves ds rest ∧ select ds = p := by
  rw [atom_of_isSelector selector]
  exact Scan.leaves_bind_return_iff fun _ _ => Scan.leaves_return

theorem atom_literal_leaves {b : Bool} (h : literal? w = some b) :
    (atom (.word w :: ts)).Leaves (.const b) ts := by
  obtain ⟨notIs, notSub⟩ := not_isKeyword_of_literal? h
  rw [atom, if_neg notIs, if_neg notSub, h]
  exact Scan.leaves_pure.2 ⟨rfl, rfl⟩

/-! ## What is read is derived -/

/-- A reader reads from tokens nothing but what is described. -/
def ReadsOnly {P : List Token → Prop} (x : Scan (Predicate × Subtype P)) (ts : List Token)
    (describes : List Token → Predicate → Prop) : Prop :=
  ∀ p rest, x.Leaves p rest → ∃ read, ts = read ++ rest ∧ describes read p

/-- Tokens that go on with a chain of operators on a level. -/
def Extends (level : Level) (left : Predicate) (ts : List Token) (p : Predicate) : Prop :=
  ∀ us, Derives level us left → Derives level (us ++ ts) p

/-- Tokens that go on with marks for "not", an odd or even number of
them. -/
def ExtendsMarks (odd : Bool) (ts : List Token) (p : Predicate) : Prop :=
  ∀ n, decide (n % 2 = 1) = odd → Derives .negation (List.replicate n .not ++ ts) p

/-- A mark turns odd into even, and even into odd. -/
theorem decide_succ_odd (n : Nat) : decide ((n + 1) % 2 = 1) = !decide (n % 2 = 1) := by
  rcases Nat.mod_two_eq_zero_or_one n with even | odd
  · simp [even, Nat.add_mod]
  · simp [odd, Nat.add_mod]

/-- A mark is one more of those before it. -/
theorem ExtendsMarks.cons_not (h : ExtendsMarks (!negated) ts p) :
    ExtendsMarks negated (.not :: ts) p := by
  intro n hn
  rw [show List.replicate n Token.not ++ .not :: ts = List.replicate (n + 1) .not ++ ts by
    rw [List.replicate_succ', List.append_assoc]; rfl]
  refine h (n + 1) ?_
  rw [decide_succ_odd, hn]

/-- Behind the marks there is what they apply to. -/
theorem ExtendsMarks.of_atom (h : Derives .atom ts p) :
    ExtendsMarks negated ts (p.negatedIf negated) := by
  intro n hn
  cases negated with
  | true => exact .odd (by simpa using hn) h
  | false => exact .even (by simpa using hn) h

/-- A list behind a keyword is read as it is derived. -/
theorem readsOnly_selection (selector : IsSelector w select) :
    ReadsOnly (atom (.word w :: ts)) (.word w :: ts) (Derives .atom) := by
  intro p rest h
  obtain ⟨ds, hds, rfl⟩ := (atom_selection_leaves_iff selector).1 h
  obtain ⟨us, es, rfl, list, rfl⟩ := arguments_leaves_iff.1 hds
  exact ⟨_, by simp, .selection selector list⟩

/-- **What the readers read is derived.** The induction is on the calls of
the readers to one another. -/
theorem readers_sound :
    (∀ ts, ReadsOnly (disjunction ts) ts (Derives .disjunction)) ∧
    (∀ left ts, ReadsOnly (moreDisjuncts left ts) ts (Extends .disjunction left)) ∧
    (∀ ts, ReadsOnly (conjunction ts) ts (Derives .conjunction)) ∧
    (∀ left ts, ReadsOnly (moreConjuncts left ts) ts (Extends .conjunction left)) ∧
    (∀ negated ts, ReadsOnly (negation negated ts) ts (ExtendsMarks negated)) ∧
    ∀ ts, ReadsOnly (atom ts) ts (Derives .atom) := by
  refine disjunction.mutual_induct _ _ _ _ _ _ ?disjunction ?or ?noOr ?conjunction ?and ?noAnd
    ?not ?noNot ?parentheses ?is ?sub ?literal ?noLiteral ?noAtom
  case disjunction =>
    intro ts first more q rest h
    obtain ⟨p, _, ⟨r, hr, rfl⟩, h⟩ := disjunction_leaves_iff.1 h
    obtain ⟨read, eq, derived⟩ := first p r.1 ⟨r, hr, rfl⟩
    obtain ⟨read', eq', goesOn⟩ := more p r q rest h
    exact ⟨read ++ read', by rw [eq, eq', List.append_assoc], goesOn _ (.ofConjunction derived)⟩
  case or =>
    intro left ts next more q rest h
    obtain ⟨p, _, ⟨r, hr, rfl⟩, h⟩ := moreDisjuncts_or_leaves_iff.1 h
    obtain ⟨read, eq, derived⟩ := next p r.1 ⟨r, hr, rfl⟩
    obtain ⟨read', eq', goesOn⟩ := more p r q rest h
    refine ⟨.or :: (read ++ read'), by rw [eq, eq', List.cons_append, List.append_assoc], ?_⟩
    -- the chain so far is joined first, and the chain that is left extends that
    intro us derivedLeft
    have joined := goesOn _ (derivedLeft.or derived)
    rwa [List.append_assoc] at joined
  case noOr =>
    intro left ts none q rest h
    obtain ⟨rfl, rfl⟩ := (moreDisjuncts_leaves_iff fun us eq => none us eq).1 h
    refine ⟨[], rfl, fun us derived => ?_⟩
    rwa [List.append_nil]
  case conjunction =>
    intro ts first more q rest h
    obtain ⟨p, _, ⟨r, hr, rfl⟩, h⟩ := conjunction_leaves_iff.1 h
    -- no mark has been read before the first one of the term
    obtain ⟨read, eq, marked⟩ := first p r.1 ⟨r, hr, rfl⟩
    obtain ⟨read', eq', goesOn⟩ := more p r q rest h
    exact ⟨read ++ read', by rw [eq, eq', List.append_assoc],
      goesOn _ (.ofNegation (marked 0 rfl))⟩
  case and =>
    intro left ts next more q rest h
    obtain ⟨p, _, ⟨r, hr, rfl⟩, h⟩ := moreConjuncts_and_leaves_iff.1 h
    obtain ⟨read, eq, marked⟩ := next p r.1 ⟨r, hr, rfl⟩
    obtain ⟨read', eq', goesOn⟩ := more p r q rest h
    refine ⟨.and :: (read ++ read'), by rw [eq, eq', List.cons_append, List.append_assoc], ?_⟩
    intro us derivedLeft
    have joined := goesOn _ (derivedLeft.and (marked 0 rfl))
    rwa [List.append_assoc] at joined
  case noAnd =>
    intro left ts none q rest h
    obtain ⟨rfl, rfl⟩ := (moreConjuncts_leaves_iff fun us eq => none us eq).1 h
    refine ⟨[], rfl, fun us derived => ?_⟩
    rwa [List.append_nil]
  case not =>
    intro negated ts more p rest h
    obtain ⟨read, rfl, marked⟩ := more p rest (negation_not_leaves_iff.1 h)
    exact ⟨.not :: read, rfl, marked.cons_not⟩
  case noNot =>
    intro negated ts none reads p rest h
    obtain ⟨q, hq, rfl⟩ := (negation_leaves_iff fun us eq => none us eq).1 h
    obtain ⟨read, eq, derived⟩ := reads q rest hq
    exact ⟨read, eq, .of_atom derived⟩
  case parentheses =>
    intro ts reads p rest h
    obtain ⟨read, rfl, derived⟩ := reads p _ (atom_leftParen_leaves_iff.1 h)
    exact ⟨.leftParen :: (read ++ [.rightParen]), by simp, derived.parentheses⟩
  case is =>
    intro w ts keyword
    exact readsOnly_selection (.is ((isKeyword_iff rfl).1 keyword))
  case sub =>
    intro w ts _ keyword
    exact readsOnly_selection (.sub ((isKeyword_iff rfl).1 keyword))
  case literal =>
    intro w ts _ _ b literal p rest h
    obtain ⟨rfl, rfl⟩ := h.unique (atom_literal_leaves literal)
    refine ⟨[.word w], rfl, ?_⟩
    cases b with
    | true => exact .true (literal?_eq_some_true.1 literal)
    | false => exact .false (literal?_eq_some_false.1 literal)
  case noLiteral =>
    intro w ts notIs notSub literal p rest h
    rw [atom, if_neg notIs, if_neg notSub, literal] at h
    exact absurd h Scan.not_leaves_error
  case noAtom =>
    intro ts noParen noWord p rest h
    rw [atom] at h
    · exact absurd h Scan.not_leaves_error
    · exact noParen
    · exact noWord

/-! ## What is derived is read -/

/-- The readers get to the end of some tokens of a level, whatever follows,
and have read a predicate. A chain is read as far as it goes, so what
follows is left to the reader that goes on with it; a chain joined by "or"
must not be followed by "and". -/
def IsRead : Level → List Token → Predicate → Prop
  | .disjunction, ts, p => ∀ next q rest, (∀ us, next ≠ .and :: us) →
      (moreDisjuncts p next).Leaves q rest → (disjunction (ts ++ next)).Leaves q rest
  | .conjunction, ts, p => ∀ next q rest,
      (moreConjuncts p next).Leaves q rest → (conjunction (ts ++ next)).Leaves q rest
  | .negation, ts, p => ∀ rest, (negation false (ts ++ rest)).Leaves p rest
  | .atom, ts, p => ∀ rest, (atom (ts ++ rest)).Leaves p rest

/-- No term begins with a mark for "not". -/
theorem ne_not_of_atom_leaves (h : (atom ts).Leaves p rest) (us : List Token) :
    ts ≠ .not :: us := by
  rintro rfl
  rw [atom] at h
  · exact Scan.not_leaves_error h
  · exact fun _ eq => by cases eq
  · exact fun _ _ eq => by cases eq

/-- Marks are counted up to what they apply to. -/
theorem negation_replicate_leaves (h : (atom ts).Leaves p rest) (n : Nat) :
    (negation negated (List.replicate n .not ++ ts)).Leaves
      (p.negatedIf (negated ^^ decide (n % 2 = 1))) rest := by
  induction n generalizing negated with
  | zero =>
    refine (negation_leaves_iff (ne_not_of_atom_leaves h)).2 ⟨p, h, ?_⟩
    rw [show decide (0 % 2 = 1) = false from rfl, Bool.xor_false]
  | succ n ih =>
    rw [List.replicate_succ, List.cons_append, negation_not_leaves_iff]
    rw [decide_succ_odd, Bool.xor_not, ← Bool.not_xor]
    exact ih

/-- Where no "and" follows, a chain joined by "and" ends. -/
theorem IsRead.conjunction_leaves (h : IsRead .conjunction ts p) (ends : ∀ us, rest ≠ .and :: us) :
    (conjunction (ts ++ rest)).Leaves p rest :=
  h rest p rest ((moreConjuncts_leaves_iff ends).2 ⟨rfl, rfl⟩)

theorem IsRead.ofConjunction (h : IsRead .conjunction ts p) : IsRead .disjunction ts p := by
  intro next q rest ends more
  exact disjunction_leaves_iff.2 ⟨p, next, h.conjunction_leaves ends, more⟩

theorem IsRead.or (left : IsRead .disjunction ts p) (right : IsRead .conjunction us q) :
    IsRead .disjunction (ts ++ .or :: us) (.or p q) := by
  intro next r rest ends more
  rw [List.append_assoc]
  -- what follows the terms on the left is the "or", which ends a chain of "and"
  refine left _ r rest (fun _ eq => by cases eq) ?_
  exact moreDisjuncts_or_leaves_iff.2 ⟨q, next, right.conjunction_leaves ends, more⟩

theorem IsRead.ofNegation (h : IsRead .negation ts p) : IsRead .conjunction ts p := by
  intro next q rest more
  exact conjunction_leaves_iff.2 ⟨p, next, h next, more⟩

theorem IsRead.and (left : IsRead .conjunction ts p) (right : IsRead .negation us q) :
    IsRead .conjunction (ts ++ .and :: us) (.and p q) := by
  intro next r rest more
  rw [List.append_assoc]
  exact left _ r rest (moreConjuncts_and_leaves_iff.2 ⟨q, next, right next, more⟩)

theorem IsRead.marks (h : IsRead .atom ts p) (n : Nat) :
    IsRead .negation (List.replicate n .not ++ ts) (p.negatedIf (decide (n % 2 = 1))) := by
  intro rest
  have read : (negation false _).Leaves _ _ := negation_replicate_leaves (h rest) n
  rw [Bool.false_xor] at read
  rwa [List.append_assoc]

theorem IsRead.even {n : Nat} (hn : n % 2 = 0) (h : IsRead .atom ts p) :
    IsRead .negation (List.replicate n .not ++ ts) p := by
  have read := h.marks n
  rwa [hn] at read

theorem IsRead.odd {n : Nat} (hn : n % 2 = 1) (h : IsRead .atom ts p) :
    IsRead .negation (List.replicate n .not ++ ts) (.not p) := by
  have read := h.marks n
  rwa [hn] at read

theorem IsRead.parentheses (h : IsRead .disjunction ts p) :
    IsRead .atom (.leftParen :: (ts ++ [.rightParen])) p := by
  intro rest
  rw [List.cons_append, List.append_assoc, atom_leftParen_leaves_iff]
  refine h _ p _ (fun _ eq => by cases eq) ?_
  exact (moreDisjuncts_leaves_iff fun _ eq => by cases eq).2 ⟨rfl, rfl⟩

/-- A list in parentheses behind a keyword is read. -/
theorem IsRead.selection {es : List Entry} (selector : IsSelector w select)
    (list : Listing none ts es) :
    IsRead .atom (.word w :: .leftParen :: (ts ++ [.rightParen])) (select (es.map (·.domain))) :=
  fun _ => (atom_selection_leaves_iff selector).2
    ⟨_, arguments_leaves_iff.2 ⟨ts, es, by simp, list, rfl⟩, rfl⟩

/-- **What is derived is read**, by induction on the derivation. -/
theorem Derives.isRead {level : Level} (h : Derives level ts p) : IsRead level ts p := by
  induction h with
  | ofConjunction _ ih => exact ih.ofConjunction
  | or _ _ left right => exact left.or right
  | ofNegation _ ih => exact ih.ofNegation
  | and _ _ left right => exact left.and right
  | even hn _ ih => exact ih.even hn
  | odd hn _ ih => exact ih.odd hn
  | true spelled => exact fun _ => atom_literal_leaves (literal?_eq_some_true.2 spelled)
  | false spelled => exact fun _ => atom_literal_leaves (literal?_eq_some_false.2 spelled)
  | is spelled list => exact .selection (.is spelled) list
  | sub spelled list => exact .selection (.sub spelled) list
  | parentheses _ ih => exact ih.parentheses

/-! ## Whole values -/

/-- The reader of expressions leaves nothing of what the grammar derives,
and of nothing else. -/
theorem disjunction_leaves_nil_iff :
    (disjunction ts).Leaves p [] ↔ Derives .disjunction ts p := by
  constructor
  · intro h
    obtain ⟨read, rfl, derived⟩ := readers_sound.1 ts p [] h
    rwa [List.append_nil]
  · intro derived
    have read := derived.isRead [] p [] (fun _ eq => by cases eq)
      ((moreDisjuncts_leaves_iff fun _ eq => by cases eq).2 ⟨rfl, rfl⟩)
    rwa [List.append_nil] at read

/-- **The reader of expressions** reads what the grammar derives. -/
theorem scanExpression_result_eq_ok :
    (scanExpression ts).result = .ok p ↔ Derives .disjunction ts p := by
  refine (bind_finish_result_eq_ok fun _ _ => rfl).trans ?_
  simp [disjunction_leaves_nil_iff]

/-- **Expressions are read exactly as the grammar derives them.** Reading a
value has a result if and only if the value is UTF-8, its text has tokens,
and all of them together are an expression; the result is the predicate
that the expression denotes, and it denotes no other. -/
theorem expressions_are_derived :
    (∀ (key : String) (value : List UInt8) (j : Journal) (p : Predicate),
      ((readExpression key value).run.run j).1 = .ok p ↔
        ∃ text ts, value = Text.Utf8.encode text ∧ Token.ofText text = .ok ts ∧
          Derives .disjunction ts p) ∧
    ∀ (ts : List Token) (p q : Predicate),
      Derives .disjunction ts p → Derives .disjunction ts q → p = q := by
  constructor
  · intro key value j p
    rw [readExpression, (isDisciplined_readSetting ..).appends.run_result,
      readSetting_result_eq_ok]
    simp only [scanExpression_result_eq_ok, Token.ofBytes_eq_ok_iff]
    constructor
    · rintro ⟨ts, ⟨text, encoded, tokens⟩, derived⟩
      exact ⟨text, ts, encoded, tokens, derived⟩
    · rintro ⟨text, ts, encoded, tokens, derived⟩
      exact ⟨ts, ⟨text, encoded, tokens⟩, derived⟩
  · intro ts p q hp hq
    have eq := (disjunction_leaves_nil_iff.2 hp).unique (disjunction_leaves_nil_iff.2 hq)
    exact eq.1

/-- A pair of marks cancels out, and a chain in parentheses is a term like
any other. -/
theorem chain_behind_marks_is_derived :
    let ts : List Token := [.not, .not, .leftParen, .word "IS", .leftParen, .word "a.org", .comma,
      .word "b.org", .rightParen, .or, .word "no", .or, .word "f", .rightParen, .and, .not,
      .word "T"]
    let p : Predicate := .and
      (.or (.or (.is [.fqdn "a.org", .fqdn "b.org"]) (.const false)) (.const false))
      (.not (.const true))
    ((readExpression "DDNS_PROXIED"
      (Text.Utf8.encode "!!(IS(a.org,b.org)||no||f)&&!T".toList)).run.run .empty).1 = .ok p ∧
    Derives .disjunction ts p ∧ ∀ q, Derives .disjunction ts q → q = p := by
  intro ts p
  have list : Derives .atom _ (.is [.fqdn "a.org", .fqdn "b.org"]) :=
    .is (w := "IS") rfl (.domain (w := "a.org") rfl (.comma (.domain (w := "b.org") rfl .nil)))
  have chain : Derives .disjunction _ _ :=
    (list.disjunction.or (Derives.false (w := "no") (by decide)).conjunction).or
      (Derives.false (w := "f") (by decide)).conjunction
  have derived : Derives .disjunction ts p :=
    .ofConjunction <| .and (.ofNegation (.even (n := 2) rfl chain.parentheses))
      (Derives.true (w := "T") (by decide)).marked
  exact ⟨(expressions_are_derived.1 _ _ _ _).2 ⟨_, ts, rfl, rfl, derived⟩, derived,
    fun q other => expressions_are_derived.2 ts q p other derived⟩

end RecordPlan
