import RecordPlan.Proofs.Setting.Continuation
import RecordPlan.Proofs.Setting.Expression

/-!
# The first problem decides

A value is rejected for the first thing that is wrong with it, in reading
order. What comes after that makes no difference, with one exception: tokens
that are right as far as they go may be at their end too early, and this can be
mended by putting more tokens behind them. `first_problem_decides` tells the two
cases apart by the error. A token that is missing at the end is always missing
too early; an unexpected token, or a word that is no domain, stays wrong; and
"not a boolean expression" is said in both cases, of a word that is none and of
an end where a term has to be.

For expressions, what has been read so far may be inside of any number of
parentheses and behind any number of operators. That it can be completed is
shown along the calls of the readers to one another (`standsBy_readers`): the
innermost reader completes its own tokens, and each of those that have called it
adds what closes its own.
-/

namespace RecordPlan

variable {ts rest : List Token} {p : Predicate} {w : String} {negated : Bool} {e : ValueError}
  {select : List Domain → Predicate}
  {level : Level}

/-! ## How the readers fail -/

theorem arguments_leftParen_leaves_iff {ds : List Domain} :
    (arguments (.leftParen :: ts)).Leaves ds rest ↔
      ∃ es, (entries none true ts).Leaves es (.rightParen :: rest) ∧ es.map (·.domain) = ds := by
  rw [arguments_leaves_iff]
  constructor
  · rintro ⟨us, es, eq, list, rfl⟩
    obtain rfl := (List.cons.inj eq).2
    exact ⟨es, list.entries_leaves rfl, rfl⟩
  · rintro ⟨es, h, rfl⟩
    obtain ⟨-, us, rfl, list⟩ := entries_leaves_iff.1 h
    exact ⟨us, es, rfl, list, rfl⟩

theorem arguments_leftParen_result_eq_error :
    (arguments (.leftParen :: ts)).result = .error e ↔
      (entries none true ts).result = .error e ∨
        ∃ es mid, (entries none true ts).Leaves es mid ∧
          (expect .rightParen mid).result = .error e := by
  rw [arguments, expect, if_pos rfl, Scan.result_pure_bind]
  refine Scan.bind_result_eq_error_iff fun es r => ?_
  exact Scan.bind_result_eq_error_iff_of_ok fun _ => ⟨_, rfl⟩

theorem disjunction_result_eq_error :
    (disjunction ts).result = .error e ↔ (conjunction ts).result = .error e ∨
      ∃ p mid, (conjunction ts).Leaves p mid ∧ (moreDisjuncts p mid).result = .error e := by
  rw [disjunction]
  refine Scan.bind_result_eq_error_iff fun p r => ?_
  exact Scan.bind_result_eq_error_iff_of_ok fun _ => ⟨_, rfl⟩

theorem moreDisjuncts_or_result_eq_error :
    (moreDisjuncts p (.or :: ts)).result = .error e ↔ (conjunction ts).result = .error e ∨
      ∃ r mid, (conjunction ts).Leaves r mid ∧ (moreDisjuncts (.or p r) mid).result = .error e := by
  rw [moreDisjuncts]
  refine Scan.bind_result_eq_error_iff fun r s => ?_
  exact Scan.bind_result_eq_error_iff_of_ok fun _ => ⟨_, rfl⟩

theorem conjunction_result_eq_error :
    (conjunction ts).result = .error e ↔ (negation false ts).result = .error e ∨
      ∃ p mid, (negation false ts).Leaves p mid ∧ (moreConjuncts p mid).result = .error e := by
  rw [conjunction]
  refine Scan.bind_result_eq_error_iff fun p r => ?_
  exact Scan.bind_result_eq_error_iff_of_ok fun _ => ⟨_, rfl⟩

theorem moreConjuncts_and_result_eq_error :
    (moreConjuncts p (.and :: ts)).result = .error e ↔ (negation false ts).result = .error e ∨
      ∃ r mid, (negation false ts).Leaves r mid ∧
        (moreConjuncts (.and p r) mid).result = .error e := by
  rw [moreConjuncts]
  refine Scan.bind_result_eq_error_iff fun r s => ?_
  exact Scan.bind_result_eq_error_iff_of_ok fun _ => ⟨_, rfl⟩

theorem negation_not_result_eq_error :
    (negation negated (.not :: ts)).result = .error e ↔
      (negation (!negated) ts).result = .error e := by
  rw [negation]
  exact Scan.bind_result_eq_error_iff_of_ok fun _ => ⟨_, rfl⟩

theorem negation_result_eq_error (h : ∀ us, ts ≠ .not :: us) :
    (negation negated ts).result = .error e ↔ (atom ts).result = .error e := by
  rw [negation]
  · exact Scan.bind_result_eq_error_iff_of_ok fun _ => ⟨_, rfl⟩
  · exact fun us eq => h us eq

theorem atom_leftParen_result_eq_error :
    (atom (.leftParen :: ts)).result = .error e ↔ (disjunction ts).result = .error e ∨
      ∃ p mid, (disjunction ts).Leaves p mid ∧ (expect .rightParen mid).result = .error e := by
  rw [atom]
  refine Scan.bind_result_eq_error_iff fun p r => ?_
  exact Scan.bind_result_eq_error_iff_of_ok fun _ => ⟨_, rfl⟩

theorem atom_selection_result_eq_error (selector : IsSelector w select) :
    (atom (.word w :: ts)).result = .error e ↔ (arguments ts).result = .error e := by
  rw [atom_of_isSelector selector]
  exact Scan.bind_result_eq_error_iff_of_ok fun _ => ⟨_, rfl⟩

theorem atom_nil_result : (atom []).result = .error .notBooleanExpression := by
  rw [atom]
  · rfl
  · exact fun _ eq => by cases eq
  · exact fun _ _ eq => by cases eq

theorem atom_word_result (notIs : ¬ isKeyword "is" w = true) (notSub : ¬ isKeyword "sub" w = true)
    (literal : literal? w = none) :
    (atom (.word w :: ts)).result = .error .notBooleanExpression := by
  rw [atom, if_neg notIs, if_neg notSub, literal]
  rfl

/-! ## The readers stand by what they come to -/

/-- What an expression may be rejected for that ends too early: a parenthesis
or a term is missing. -/
def EndsEarly (e : ValueError) : Prop := e.isMissingAtEnd ∨ e = .notBooleanExpression

/-- Lists of domains in parentheses. -/
def IsArguments (ts : List Token) (ds : List Domain) : Prop :=
  ∃ us es, ts = .leftParen :: (us ++ [.rightParen]) ∧ Listing none us es ∧ es.map (·.domain) = ds

/-- A term may be completed by any other, such as a word for true. -/
theorem derives_t : Derives .atom [.word "t"] (.const true) := .true (by decide)

theorem isProper_t : (Token.word "t").IsProper := by
  have char : "t".toList = ['t'] := rfl
  rw [Token.IsProper, char]
  exact ⟨List.cons_ne_nil _ _, fun c hc => List.mem_singleton.1 hc ▸ rfl⟩

theorem begins_of_t {kind : List Token → Prop} (h : kind [.word "t"]) : Begins kind [] :=
  ⟨[.word "t"], fun _ ht => List.mem_singleton.1 ht ▸ isProper_t, h⟩

/-- A chain is extended by nothing. -/
theorem extends_nil : Extends level p [] p := by
  intro us derived
  rwa [List.append_nil]

theorem standsBy_arguments : StandsBy arguments IsArguments EndsEarly ts := by
  cases ts with
  | nil =>
    exact .of_begins (e := .missingAtEnd .leftParen) rfl (.inl rfl)
      ⟨[.leftParen, .rightParen], by simp [Token.IsProper], [], [], [], rfl, .nil, rfl⟩
  | cons t ts =>
    by_cases h : t = .leftParen
    · subst h
      have list : StandsBy (entries none true) (Listing none) EndsEarly ts :=
        standsBy_entries fun _ eq => by cases eq
      refine .cons (list.closed .rightParen (k := List.map (·.domain))
        ?_ ?_ ?_ ?_ trivial (.inl rfl))
      · exact fun us ds rest => arguments_leftParen_leaves_iff
      · exact fun us e => arguments_leftParen_result_eq_error
      · exact fun es mid h => (listing_of_entries_leaves h).2
      · exact fun us es list => ⟨us, es, rfl, list, rfl⟩
    · refine .of_error (e := .unexpectedTokenExpecting t .leftParen) Bool.false_ne_true ?_
      intro more
      rw [List.cons_append, arguments, expect, if_neg h]
      rfl

/-- So does the reader of terms, behind a keyword. -/
theorem standsBy_selection (selector : IsSelector w select) :
    StandsBy atom (Derives .atom) EndsEarly (.word w :: ts) := by
  refine .cons (standsBy_arguments.map (k := select) ?_ ?_ ?_)
  · exact fun more p rest => atom_selection_leaves_iff selector
  · exact fun more e => atom_selection_result_eq_error selector
  · rintro us ds ⟨vs, es, rfl, list, rfl⟩
    exact .selection selector list

/-- **The readers of expressions stand by what they come to.** The induction
is on the calls of the readers to one another. -/
theorem standsBy_readers :
    (∀ ts, StandsBy disjunction (Derives .disjunction) EndsEarly ts) ∧
    (∀ left ts, StandsBy (moreDisjuncts left) (Extends .disjunction left) EndsEarly ts) ∧
    (∀ ts, StandsBy conjunction (Derives .conjunction) EndsEarly ts) ∧
    (∀ left ts, StandsBy (moreConjuncts left) (Extends .conjunction left) EndsEarly ts) ∧
    (∀ negated ts, StandsBy (negation negated) (ExtendsMarks negated) EndsEarly ts) ∧
    ∀ ts, StandsBy atom (Derives .atom) EndsEarly ts := by
  obtain ⟨soundDisjunction, -, soundConjunction, -, soundNegation, -⟩ := readers_sound
  have noMoreDisjuncts (p : Predicate) : (moreDisjuncts p []).Leaves p [] :=
    (moreDisjuncts_leaves_iff fun _ eq => by cases eq).2 ⟨rfl, rfl⟩
  have noMoreConjuncts (p : Predicate) : (moreConjuncts p []).Leaves p [] :=
    (moreConjuncts_leaves_iff fun _ eq => by cases eq).2 ⟨rfl, rfl⟩
  refine disjunction.mutual_induct _ _ _ _ _ _ ?disjunction ?or ?noOr ?conjunction ?and ?noAnd
    ?not ?noNot ?parentheses ?is ?sub ?literal ?noLiteral ?noAtom
  case disjunction =>
    intro ts first more
    refine first.append (k := fun _ q => q) more ?_ ?_ ?_ ?_ ?_
    · exact fun us q rest => disjunction_leaves_iff.trans (by simp)
    · exact fun us e => disjunction_result_eq_error
    · exact soundConjunction ts
    · exact fun us p vs q derived goesOn => goesOn us (.ofConjunction derived)
    · exact fun p => ⟨p, noMoreDisjuncts p, extends_nil⟩
  case or =>
    intro left ts next more
    refine .cons (next.append (k := fun _ q => q) more ?_ ?_ ?_ ?_ ?_)
    · exact fun us q rest => moreDisjuncts_or_leaves_iff.trans (by simp)
    · exact fun us e => moreDisjuncts_or_result_eq_error
    · exact soundConjunction ts
    · intro us p vs q derived goesOn before derivedLeft
      have joined := goesOn _ (derivedLeft.or derived)
      rwa [List.append_assoc] at joined
    · exact fun p => ⟨_, noMoreDisjuncts _, extends_nil⟩
  case noOr =>
    intro left ts none
    exact .of_leaves ((moreDisjuncts_leaves_iff none).2 ⟨rfl, rfl⟩) fun ne more =>
      (moreDisjuncts_leaves_iff (append_ne_cons none ne)).2 ⟨rfl, rfl⟩
  case conjunction =>
    intro ts first more
    refine first.append (k := fun _ q => q) more ?_ ?_ ?_ ?_ ?_
    · exact fun us q rest => conjunction_leaves_iff.trans (by simp)
    · exact fun us e => conjunction_result_eq_error
    · exact soundNegation false ts
    · exact fun us p vs q marked goesOn => goesOn us (.ofNegation (marked 0 rfl))
    · exact fun p => ⟨p, noMoreConjuncts p, extends_nil⟩
  case and =>
    intro left ts next more
    refine .cons (next.append (k := fun _ q => q) more ?_ ?_ ?_ ?_ ?_)
    · exact fun us q rest => moreConjuncts_and_leaves_iff.trans (by simp)
    · exact fun us e => moreConjuncts_and_result_eq_error
    · exact soundNegation false ts
    · intro us p vs q marked goesOn before derivedLeft
      have joined := goesOn _ (derivedLeft.and (marked 0 rfl))
      rwa [List.append_assoc] at joined
    · exact fun p => ⟨_, noMoreConjuncts _, extends_nil⟩
  case noAnd =>
    intro left ts none
    exact .of_leaves ((moreConjuncts_leaves_iff none).2 ⟨rfl, rfl⟩) fun ne more =>
      (moreConjuncts_leaves_iff (append_ne_cons none ne)).2 ⟨rfl, rfl⟩
  case not =>
    intro negated ts more
    refine .cons (more.map (k := id) ?_ ?_ ?_)
    · exact fun us p rest => negation_not_leaves_iff.trans (by simp)
    · exact fun us e => negation_not_result_eq_error
    · exact fun us p marked => marked.cons_not
  case noNot =>
    intro negated ts none reads
    cases ts with
    | nil =>
      refine .of_begins ((negation_result_eq_error none).2 atom_nil_result) (.inr rfl) ?_
      exact begins_of_t ⟨_, .of_atom derives_t⟩
    | cons t ts =>
      have none (more us : List Token) : t :: ts ++ more ≠ .not :: us :=
        append_ne_cons none (List.cons_ne_nil _ _) us
      refine reads.map (k := Predicate.negatedIf negated) ?_ ?_ ?_
      · exact fun more p rest => negation_leaves_iff (none more)
      · exact fun more e => negation_result_eq_error (none more)
      · exact fun us p derived => .of_atom derived
  case parentheses =>
    intro ts reads
    refine .cons (reads.closed .rightParen (k := id) ?_ ?_ (soundDisjunction ts) ?_
      trivial (.inl rfl))
    · exact fun us p rest => atom_leftParen_leaves_iff.trans (by simp)
    · exact fun us e => atom_leftParen_result_eq_error
    · exact fun us p derived => derived.parentheses
  case is =>
    intro w ts keyword
    exact standsBy_selection (.is ((isKeyword_iff rfl).1 keyword))
  case sub =>
    intro w ts _ keyword
    exact standsBy_selection (.sub ((isKeyword_iff rfl).1 keyword))
  case literal =>
    intro w ts _ _ b literal
    exact .of_leaves (atom_literal_leaves literal) fun _ _ => atom_literal_leaves literal
  case noLiteral =>
    intro w ts notIs notSub literal
    exact .of_error (e := .notBooleanExpression) Bool.false_ne_true fun _ =>
      atom_word_result notIs notSub literal
  case noAtom =>
    intro ts noParen noWord
    cases ts with
    | nil => exact .of_begins atom_nil_result (.inr rfl) (begins_of_t ⟨_, derives_t⟩)
    | cons t ts =>
      refine .of_error (e := .notBooleanExpression) Bool.false_ne_true fun more => ?_
      rw [atom]
      · rfl
      · exact append_ne_cons noParen (List.cons_ne_nil _ _)
      · exact fun w => append_ne_cons (noWord w) (List.cons_ne_nil _ _)

/-! ## Whole values -/

theorem scanExpression_fails (h : (scanExpression ts).result = .error e) :
    EndsEarly e ∧ CanBeCompleted scanExpression ts ∨
      ¬ e.isMissingAtEnd ∧ StaysRejected scanExpression ts e :=
  (standsBy_readers.1 ts).whole_fails (fun _ => bind_finish_result_eq_error fun _ _ => rfl)
    (fun _ p derived => ⟨p, scanExpression_result_eq_ok.2 derived⟩) h

theorem scanEntries_fails {n : UInt8} (le : n ≤ 128) (h : (scanEntries n ts).result = .error e) :
    e.isMissingAtEnd ∧ CanBeCompleted (scanEntries n) ts ∨
      ¬ e.isMissingAtEnd ∧ StaysRejected (scanEntries n) ts e := by
  have reader : StandsBy (entries (some n) true) (Listing (some n)) (·.isMissingAtEnd) ts :=
    standsBy_entries fun m eq => ⟨Option.some.inj eq ▸ le, rfl⟩
  exact reader.whole_fails (fun _ => bind_finish_result_eq_error fun _ _ => rfl)
    (fun _ es list => ⟨es, scanEntries_result_eq_ok.2 list⟩) h

/-- No list without host IDs ends too early. -/
theorem scanDomains_fails (h : (scanDomains ts).result = .error e) :
    StaysRejected scanDomains ts e := by
  have reader : StandsBy (entries none true) (Listing none) (fun _ => False) ts :=
    standsBy_entries fun _ eq => by cases eq
  have fails := reader.whole_fails (fun _ => bind_finish_result_eq_error fun _ _ => rfl)
    (fun _ es list => ⟨_, scanDomains_result_eq_ok.2 ⟨es, list, rfl⟩⟩) h
  exact (fails.resolve_left fun early => early.1).2

/-- An expression is rejected for its first term. -/
theorem disjunction_result_of_atom (h : (atom ts).result = .error e)
    (none : ∀ us, ts ≠ .not :: us) : (disjunction ts).result = .error e := by
  have first : (negation false ts).result = .error e := (negation_result_eq_error none).2 h
  exact disjunction_result_eq_error.2 (.inl (conjunction_result_eq_error.2 (.inl first)))

theorem scanExpression_result_of_atom (h : (atom ts).result = .error e)
    (none : ∀ us, ts ≠ .not :: us) : (scanExpression ts).result = .error e :=
  (bind_finish_result_eq_error fun _ _ => rfl).2 (.inl (disjunction_result_of_atom h none))

/-- **The first problem decides.** Whatever an expression, a list of domains
with host IDs or a plain list is rejected for, either the tokens can be
completed, or they are rejected for the same reason whatever follows.

* A token that is missing at the end can always be added.
* Of an expression, "not a boolean expression" may be said in either case,
  and everything else is final.
* Of a list everything else is final; and no plain list can be completed. -/
theorem first_problem_decides :
    (∀ ts e, (scanExpression ts).result = .error e →
      (CanBeCompleted scanExpression ts ∨ StaysRejected scanExpression ts e) ∧
      (e.isMissingAtEnd → CanBeCompleted scanExpression ts) ∧
      (¬ e.isMissingAtEnd → e ≠ .notBooleanExpression → StaysRejected scanExpression ts e)) ∧
    (∃ ts, (scanExpression ts).result = .error .notBooleanExpression ∧
      CanBeCompleted scanExpression ts) ∧
    (∃ ts, (scanExpression ts).result = .error .notBooleanExpression ∧
      StaysRejected scanExpression ts .notBooleanExpression) ∧
    (∀ n ≤ 128, ∀ ts e, (scanEntries n ts).result = .error e →
      (CanBeCompleted (scanEntries n) ts ↔ e.isMissingAtEnd) ∧
      (StaysRejected (scanEntries n) ts e ↔ ¬ e.isMissingAtEnd)) ∧
    ∀ ts e, (scanDomains ts).result = .error e → StaysRejected scanDomains ts e := by
  have notTerm (more : List Token) :
      (scanExpression (.word "maybe" :: more)).result = .error .notBooleanExpression :=
    scanExpression_result_of_atom (atom_word_result (by decide) (by decide) (by decide))
      fun _ eq => by cases eq
  refine ⟨?expressions, ⟨[], ?early, ?completed⟩, ⟨_, notTerm [], notTerm⟩, ?entries, ?domains⟩
  case expressions =>
    intro ts e h
    have fails := scanExpression_fails h
    refine ⟨fails.imp And.right And.right, ?_, ?_⟩
    · exact fun missing => (fails.resolve_right fun final => final.1 missing).2
    · intro notMissing notTerm
      exact (fails.resolve_left fun early => early.1.elim notMissing notTerm).2
  case early => exact scanExpression_result_of_atom atom_nil_result fun _ eq => by cases eq
  case completed =>
    exact begins_of_t ⟨_, scanExpression_result_eq_ok.2 derives_t.disjunction⟩
  case entries =>
    intro n le ts e h
    rcases scanEntries_fails le h with ⟨missing, completed⟩ | ⟨final, stays⟩
    · exact ⟨iff_of_true completed missing,
        iff_of_false (fun stays => stays.not_canBeCompleted completed) (not_not_intro missing)⟩
    · exact ⟨iff_of_false stays.not_canBeCompleted final, iff_of_true stays final⟩
  case domains => exact fun ts e => scanDomains_fails

/-- Parentheses, an argument list and a host ID that are left open can be
completed; a bracket behind a domain that takes no host ID stays wrong. -/
theorem what_is_left_open_can_be_completed :
    let terms : List Token := [.leftParen, .word "is", .leftParen, .word "a.org"]
    let list : List Token := [.word "a.org", .leftBracket]
    (scanExpression terms).result = .error (.missingAtEnd .rightParen) ∧
      CanBeCompleted scanExpression terms ∧
    (scanEntries 64 list).result = .error (.missingAtEnd .rightBracket) ∧
      CanBeCompleted (scanEntries 64) list ∧
    (scanDomains list).result = .error (.unexpectedToken .leftBracket) ∧
      StaysRejected scanDomains list (.unexpectedToken .leftBracket) := by
  intro terms list
  obtain ⟨expressions, -, -, hostIds, domains⟩ := first_problem_decides
  have parsed : domainOfWord "a.org" = .ok (.fqdn "a.org") := rfl
  have argument : (entries none true [.word "a.org"]).Leaves [⟨.fqdn "a.org", none⟩] [] :=
    entries_leaves_nil_iff.2 (.domain rfl .nil)
  have openArguments : (arguments [.leftParen, .word "a.org"]).result = _ :=
    arguments_leftParen_result_eq_error.2 (.inr ⟨_, [], argument, rfl⟩)
  have openTerms : (scanExpression terms).result = .error (.missingAtEnd .rightParen) := by
    refine scanExpression_result_of_atom (atom_leftParen_result_eq_error.2 (.inl ?_))
      fun _ eq => by cases (List.cons.inj eq).1
    exact disjunction_result_of_atom ((atom_selection_result_eq_error (.is rfl)).2 openArguments)
      fun _ eq => by cases (List.cons.inj eq).1
  have openList : (scanEntries 64 list).result = .error (.missingAtEnd .rightBracket) := by
    refine (bind_finish_result_eq_error fun _ _ => rfl).2 (.inl ?_)
    refine entries_word_result_eq_error.2 (.inr ⟨_, parsed, .inl ?_⟩)
    exact optionalHostId_leftBracket_result_eq_error.2 rfl
  have wrongList : (scanDomains list).result = .error (.unexpectedToken .leftBracket) := by
    refine (bind_finish_result_eq_error fun _ _ => rfl).2 (.inl ?_)
    refine entries_word_result_eq_error.2 (.inr ⟨_, parsed, .inr ⟨none, [.leftBracket], ?_, ?_⟩⟩)
    · exact optionalHostId_leaves_none (.inl rfl)
    · exact entries_result_of_unexpected (by decide) (by decide) fun _ eq => by cases eq
  exact ⟨openTerms, (expressions _ _ openTerms).2.1 rfl,
    openList, (hostIds 64 (by decide) _ _ openList).1.2 rfl,
    wrongList, domains _ _ wrongList⟩

end RecordPlan
