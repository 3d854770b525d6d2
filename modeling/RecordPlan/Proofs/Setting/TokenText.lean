import Mathlib.Algebra.Ring.Parity
import Mathlib.Data.List.SplitBy
import RecordPlan.Proofs.Setting.Token

/-!
# The texts that tokens are read from

Of a text that has tokens, reading loses the blanks and nothing else. `Spells`
says, without any reader, which tokens a text spells: they stand one behind the
other, with any number of blanks around them, and what delimits a word has to
follow it. The tokens that are read are those that the text spells
(`ofText_eq_ok_iff_spells`). So whatever is to be known about them is an
induction on spellings: their texts are the text without its blanks
(`Spells.flatMap_text`), and their words are what stands between blanks and
punctuation (`Spells.words_eq`).

The only texts without tokens are those in which an operator is not double. A
text falls apart into **runs** of equal characters, and a run of ampersands or
of bars that is read in pairs comes out even or leaves one character alone. So
it is the first run of odd length that decides (`ofText_eq_error_iff`). The main
statement is `tokens_are_what_is_written`.
-/

namespace RecordPlan.Token

variable {c : Char} {n : Nat} {w text rest run reversed : List Char} {t : Token} {ts : List Token}
  {e e' : LexError}

/-! ## What delimits words -/

theorem text_of_single? (h : single? c = some t) : t.isWord = false ∧ t.text.toList = [c] := by
  unfold single? at h
  split at h
  case h_7 => cases h
  all_goals
    cases h
    exact ⟨rfl, rfl⟩

theorem not_isWordChar_of_single? (h : single? c = some t) : isWordChar c = false := by
  refine Bool.eq_false_iff.2 fun wordChar => ?_
  rw [(isWordChar_iff.1 wordChar).2.1] at h
  cases h

theorem not_isWordChar_of_isBlank (h : Text.isBlank c = true) : isWordChar c = false := by
  refine Bool.eq_false_iff.2 fun wordChar => ?_
  rw [(isWordChar_iff.1 wordChar).1] at h
  cases h

/-! ## Spellings -/

/-- **What a text spells**: tokens one behind the other, with blanks around
them. A word has to be followed by what delimits it. -/
inductive Spells : List Char → List Token → Prop where
  /-- Nothing spells nothing. -/
  | nil : Spells [] []
  /-- A blank goes for nothing. -/
  | blank {c : Char} {text : List Char} {ts : List Token} :
      Text.isBlank c = true → Spells text ts → Spells (c :: text) ts
  /-- A token that can be written. -/
  | token {t : Token} {text : List Char} {ts : List Token} :
      t.IsProper → (t.isWord = true → Delimits text) → Spells text ts →
      Spells (t.text.toList ++ text) (t :: ts)

namespace Spells

/-- Punctuation needs nothing that delimits it. -/
theorem mark (h : t.isWord = false) (rest : Spells text ts) :
    Spells (t.text.toList ++ text) (t :: ts) := by
  refine .token ?_ (fun word => ?_) rest
  · cases t with
    | word w => cases h
    | _ => trivial
  · rw [h] at word
    cases word

/-- A word that has been read in part, and is delimited, is a token. -/
theorem consWord (chars : ∀ c ∈ reversed, isWordChar c = true) (ends : Delimits text)
    (rest : Spells text ts) : Spells (reversed.reverse ++ text) (consWord reversed ts) := by
  unfold Token.consWord
  split
  · next none =>
    rw [none]
    exact rest
  · next some =>
    have spelled : (word (String.ofList reversed.reverse)).text.toList = reversed.reverse :=
      String.toList_ofList
    have proper : (word (String.ofList reversed.reverse)).IsProper := by
      refine ⟨?_, fun c hc => ?_⟩
      · rw [String.toList_ofList]
        exact mt List.reverse_eq_nil_iff.1 some
      · rw [String.toList_ofList, List.mem_reverse] at hc
        exact chars c hc
    have token := Spells.token proper (fun _ => ends) rest
    rwa [spelled] at token

theorem isProper (h : Spells text ts) : ∀ t ∈ ts, t.IsProper := by
  induction h with
  | nil => exact fun _ ht => absurd ht List.not_mem_nil
  | blank _ _ ih => exact ih
  | token proper _ _ ih =>
    intro t ht
    rcases List.mem_cons.1 ht with rfl | later
    · exact proper
    · exact ih t later

end Spells

theorem exists_of_map_eq_ok {x : Except LexError (List Token)} {f : List Token → List Token}
    (h : x.map f = .ok ts) : ∃ us, x = .ok us ∧ f us = ts := by
  cases x with
  | error e => cases h
  | ok us => exact ⟨us, rfl, Except.ok.inj h⟩

/-- What is read is spelled, by the characters of the word that has been begun
and the text behind them. -/
theorem spells_of_continueText (h : continueText reversed text = .ok ts)
    (chars : ∀ c ∈ reversed, isWordChar c = true) : Spells (reversed.reverse ++ text) ts := by
  have none : ∀ c ∈ ([] : List Char), isWordChar c = true := fun _ hc => absurd hc List.not_mem_nil
  fun_induction continueText reversed text generalizing ts with
  | case1 reversed =>
    obtain rfl := Except.ok.inj h
    exact .consWord chars delimits_nil .nil
  | case2 reversed rest ih =>
    obtain ⟨us, hus, rfl⟩ := exists_of_map_eq_ok h
    exact .consWord chars (delimits_cons rfl) (.mark (t := and) rfl (ih hus none))
  | case3 reversed rest single => cases h
  | case4 reversed rest ih =>
    obtain ⟨us, hus, rfl⟩ := exists_of_map_eq_ok h
    exact .consWord chars (delimits_cons rfl) (.mark (t := or) rfl (ih hus none))
  | case5 reversed rest single => cases h
  | case6 reversed c rest _ _ _ _ t ht ih =>
    obtain ⟨us, hus, rfl⟩ := exists_of_map_eq_ok h
    obtain ⟨mark, spelled⟩ := text_of_single? ht
    have spells := Spells.mark mark (ih hus none)
    rw [spelled] at spells
    exact .consWord chars (delimits_cons (not_isWordChar_of_single? ht)) spells
  | case7 reversed c rest _ _ _ _ _ blank ih =>
    obtain ⟨us, hus, rfl⟩ := exists_of_map_eq_ok h
    exact .consWord chars (delimits_cons (not_isWordChar_of_isBlank blank))
      (.blank blank (ih hus none))
  | case8 reversed c rest _ notAnd _ notOr none notBlank ih =>
    have wordChar : isWordChar c = true :=
      isWordChar_iff.2 ⟨by simpa using notBlank, none, notAnd, notOr⟩
    have spells := ih h fun d hd => (List.mem_cons.1 hd).elim (fun eq => eq ▸ wordChar) (chars d)
    rwa [List.reverse_cons, List.append_assoc] at spells

/-- **The tokens that are read** are those that the text spells. -/
theorem ofText_eq_ok_iff_spells : ofText text = .ok ts ↔ Spells text ts := by
  constructor
  · intro h
    exact spells_of_continueText h fun _ hc => absurd hc List.not_mem_nil
  · intro h
    induction h with
    | nil => rfl
    | @blank c _ _ blank _ ih =>
      have front : ∀ d ∈ [c], Text.isBlank d = true :=
        fun d hd => List.mem_singleton.1 hd ▸ blank
      exact (ofText_append_of_isBlank front).trans ih
    | token proper ends _ ih =>
      rw [ofText_text_append proper ends, ih]
      rfl

/-! ## What a text keeps -/

/-- **The characters of words**, told by what they are not: they are no blanks,
and no other token is written with them. -/
def isPlain (c : Char) : Bool :=
  !Text.isBlank c && !",()[]!&|".toList.contains c

/-- The words among some tokens. -/
def words (ts : List Token) : List String :=
  ts.filterMap fun
    | .word w => some w
    | _ => none

/-- **The maximal runs of plain characters** of a text: what is left of it when
it is split at every other character. -/
def plainRuns (text : List Char) : List (List Char) :=
  (text.splitOnP (!isPlain ·)).filter (· ≠ [])

/-- Tokens with single spaces between them. -/
def spaced (ts : List Token) : List Char := (" ".intercalate (ts.map Token.text)).toList

/-- The characters that are tokens by themselves. -/
theorem single?_eq_none_iff : single? c = none ↔ c ∉ [',', '(', ')', '[', ']', '!'] := by
  constructor
  · intro none mem
    have marks : ∀ d ∈ [',', '(', ')', '[', ']', '!'], single? d ≠ Option.none := by
      simp [single?]
    exact marks c mem none
  · intro other
    unfold single?
    split
    case h_7 => rfl
    all_goals exact absurd (by decide) other

theorem isPlain_eq : isPlain c = isWordChar c := by
  have marks : ",()[]!&|".toList = [',', '(', ')', '[', ']', '!'] ++ ['&', '|'] := rfl
  rw [Bool.eq_iff_iff, isWordChar_iff, single?_eq_none_iff, isPlain, marks]
  simp [and_assoc]

/-- The characters of tokens that can be written are no blanks. -/
theorem filter_text (proper : t.IsProper) :
    t.text.toList.filter (!Text.isBlank ·) = t.text.toList := by
  cases t with
  | word w =>
    refine List.filter_eq_self.2 fun c hc => ?_
    rw [(isWordChar_iff.1 (proper.2 c hc)).1]
    rfl
  | _ => rfl

/-- **The texts of the tokens** are the text without its blanks. -/
theorem Spells.flatMap_text (h : Spells text ts) :
    ts.flatMap (·.text.toList) = text.filter (!Text.isBlank ·) := by
  induction h with
  | nil => rfl
  | blank blank _ ih => rw [List.filter_cons_of_neg (by simp [blank]), ih]
  | token proper _ _ ih => rw [List.flatMap_cons, List.filter_append, filter_text proper, ih]

/-- What is not plain belongs to no run. -/
theorem plainRuns_cons (h : isWordChar c = false) : plainRuns (c :: text) = plainRuns text := by
  rw [plainRuns, List.splitOnP_cons_eq_if_modifyHead, if_pos (by rw [isPlain_eq, h]; rfl)]
  rfl

/-- Plain characters in front of what delimits them are a run. -/
theorem plainRuns_append (ne : w ≠ []) (chars : ∀ c ∈ w, isWordChar c = true)
    (ends : Delimits text) : plainRuns (w ++ text) = w :: plainRuns text := by
  have split : w.splitOnP (!isPlain ·) = [w] :=
    List.splitOnP_eq_singleton fun c hc => by rw [isPlain_eq, chars c hc]; rfl
  cases text with
  | nil =>
    rw [List.append_nil, plainRuns, split]
    simp [ne, plainRuns]
  | cons d text =>
    have notPlain := ends d text rfl
    rw [plainRuns_cons notPlain, plainRuns, List.splitOnP_append_cons _ _ (by
      rw [isPlain_eq, notPlain]; rfl), split, List.singleton_append,
      List.filter_cons_of_pos (by simpa using ne)]
    rfl

/-- Punctuation belongs to no run. -/
theorem plainRuns_text_append (h : t.isWord = false) (rest : List Char) :
    plainRuns (t.text.toList ++ rest) = plainRuns rest := by
  cases t with
  | word w => cases h
  | and => exact (plainRuns_cons rfl).trans (plainRuns_cons rfl)
  | or => exact (plainRuns_cons rfl).trans (plainRuns_cons rfl)
  | _ => exact plainRuns_cons rfl

/-- **The words of a text** are its maximal runs of plain characters. -/
theorem Spells.words_eq (h : Spells text ts) : words ts = (plainRuns text).map String.ofList := by
  induction h with
  | nil => rfl
  | blank blank _ ih => rw [plainRuns_cons (not_isWordChar_of_isBlank blank), ih]
  | @token t text ts proper ends _ ih =>
    cases t with
    | word w =>
      rw [show (Token.word w).text = w from rfl, plainRuns_append proper.1 proper.2 (ends rfl),
        List.map_cons, String.ofList_toList, ← ih]
      rfl
    | _ =>
      rw [plainRuns_text_append rfl]
      exact ih

/-- **Tokens with spaces between them** are spelled by their text. -/
theorem spells_spaced (proper : ∀ t ∈ ts, t.IsProper) : Spells (spaced ts) ts := by
  induction ts with
  | nil => exact .nil
  | cons t ts ih =>
    have here := proper t List.mem_cons_self
    have later := ih fun u hu => proper u (List.mem_cons_of_mem _ hu)
    cases ts with
    | nil =>
      have spells := Spells.token here (fun _ => delimits_nil) .nil
      rw [List.append_nil] at spells
      rwa [spaced, List.map_singleton, String.intercalate_singleton]
    | cons u ts =>
      have split : spaced (t :: u :: ts) = t.text.toList ++ ' ' :: spaced (u :: ts) := by
        rw [spaced, List.map_cons, List.map_cons, String.intercalate_cons_cons,
          String.toList_append, String.toList_append, List.append_assoc]
        rfl
      rw [split]
      exact .token here (fun _ => delimits_cons rfl) (.blank rfl later)

/-! ## Operators that are not double -/

/-- **The characters of operators**, each with the error for one that stands
alone. -/
inductive IsOperator : Char → LexError → Prop where
  /-- An ampersand. -/
  | and : IsOperator '&' .singleAnd
  /-- A bar. -/
  | or : IsOperator '|' .singleOr

/-- **The maximal runs of equal characters** of a text. -/
def runs (text : List Char) : List (List Char) := text.splitBy (· == ·)

/-- Whether a run can be read in pairs, which matters for operators only. -/
def IsPaired (run : List Char) : Prop := '&' ∈ run ∨ '|' ∈ run → Even run.length

instance : DecidablePred IsPaired := fun _ => inferInstanceAs (Decidable (_ → _))

/-- **The first run that cannot be read in pairs**, together with the error for
its character. -/
def IsFirstUnpaired (runs : List (List Char)) (e : LexError) : Prop :=
  ∃ before run after, runs = before ++ run :: after ∧ (∀ r ∈ before, IsPaired r) ∧
    ¬ IsPaired run ∧ ∃ c ∈ run, IsOperator c e

/-- Every text begins with a word, which may be empty, and with what delimits
it. -/
theorem exists_eq_append_delimits (text : List Char) :
    ∃ w rest, text = w ++ rest ∧ (∀ c ∈ w, isWordChar c = true) ∧ Delimits rest := by
  refine ⟨text.takeWhile isWordChar, text.dropWhile isWordChar,
    List.takeWhile_append_dropWhile.symm, List.all_eq_true.1 List.all_takeWhile, ?_⟩
  intro c rest eq
  have first := List.head?_dropWhile_not isWordChar text
  rwa [eq] at first

theorem map_eq_error_iff {x : Except LexError (List Token)} {f : List Token → List Token} :
    x.map f = .error e ↔ x = .error e := by
  cases x <;> simp [Except.map]

/-- A word that has been begun makes no difference to what is wrong. -/
theorem continueText_eq_error_iff :
    continueText reversed text = .error e ↔ ofText text = .error e := by
  obtain ⟨w, rest, rfl, chars, ends⟩ := exists_eq_append_delimits text
  rw [ofText, continueText_append chars, continueText_append chars, continueText_of_delimits ends,
    continueText_of_delimits ends, map_eq_error_iff, map_eq_error_iff]

/-- Nothing is wrong with a character that is of no operator. -/
theorem ofText_cons_eq_error_iff (other : ∀ e', ¬ IsOperator c e') :
    ofText (c :: rest) = .error e ↔ ofText rest = .error e := by
  cases single : single? c with
  | some t => rw [ofText_cons_of_single? single, map_eq_error_iff]
  | none =>
    by_cases blank : Text.isBlank c = true
    · rw [ofText, continueText_cons_of_isBlank blank, map_eq_error_iff]
    · have wordChar : isWordChar c = true := by
        refine isWordChar_iff.2 ⟨by simpa using blank, single, ?_, ?_⟩
        · rintro rfl
          exact other _ .and
        · rintro rfl
          exact other _ .or
      rw [ofText, continueText_of_isWordChar wordChar, continueText_eq_error_iff]

/-- Nothing is wrong with an operator that is double. -/
theorem IsOperator.ofText_pair_eq_error_iff (op : IsOperator c e') :
    ofText (c :: c :: rest) = .error e ↔ ofText rest = .error e := by
  cases op with
  | and => rw [ofText, continueText, map_eq_error_iff, ← ofText]
  | or => rw [ofText, continueText, map_eq_error_iff, ← ofText]

/-- An operator that stands alone is what is wrong. -/
theorem IsOperator.ofText_single (op : IsOperator c e) (single : ∀ us, rest ≠ c :: us) :
    ofText (c :: rest) = .error e := by
  cases op with
  | and =>
    rw [ofText, continueText]
    exact single
  | or =>
    rw [ofText, continueText]
    exact single

theorem IsOperator.mem_iff (op : IsOperator c e) :
    '&' ∈ List.replicate n c ∨ '|' ∈ List.replicate n c ↔ n ≠ 0 := by
  cases op <;> simp

/-- A run that is read in pairs is passed over. -/
theorem IsOperator.ofText_replicate_eq_error_iff (op : IsOperator c e') (even : Even n) :
    ofText (List.replicate n c ++ rest) = .error e ↔ ofText rest = .error e := by
  obtain ⟨k, rfl⟩ := even
  induction k with
  | zero => rfl
  | succ k ih =>
    rw [show k + 1 + (k + 1) = k + k + 1 + 1 by omega, List.replicate_succ, List.replicate_succ]
    exact op.ofText_pair_eq_error_iff.trans ih

/-- **A run that can be read in pairs**, or is of no operator, is passed over. -/
theorem IsPaired.ofText_replicate_eq_error_iff (paired : IsPaired (List.replicate n c)) :
    ofText (List.replicate n c ++ rest) = .error e ↔ ofText rest = .error e := by
  by_cases op : ∃ e', IsOperator c e'
  · obtain ⟨e', op⟩ := op
    refine op.ofText_replicate_eq_error_iff ?_
    by_cases zero : n = 0
    · exact zero ▸ Even.zero
    · have even := paired (op.mem_iff.2 zero)
      rwa [List.length_replicate] at even
  · clear paired
    induction n with
    | zero => rfl
    | succ n ih =>
      rw [List.replicate_succ]
      exact (ofText_cons_eq_error_iff fun e' h => op ⟨e', h⟩).trans ih

/-- **A run that cannot be read in pairs** leaves an operator alone. -/
theorem ofText_of_not_isPaired (single : ∀ us, rest ≠ c :: us)
    (unpaired : ¬ IsPaired (List.replicate n c)) :
    ∃ e, IsOperator c e ∧ c ∈ List.replicate n c ∧
      ofText (List.replicate n c ++ rest) = .error e := by
  obtain ⟨mem, odd⟩ := Classical.not_imp.1 unpaired
  rw [List.length_replicate, Nat.not_even_iff_odd] at odd
  obtain ⟨k, rfl⟩ := odd
  have op : ∃ e, IsOperator c e := by
    rcases mem with mem | mem
    · exact (List.eq_of_mem_replicate mem) ▸ ⟨_, .and⟩
    · exact (List.eq_of_mem_replicate mem) ▸ ⟨_, .or⟩
  obtain ⟨e, op⟩ := op
  refine ⟨e, op, by simp, ?_⟩
  -- the pairs are passed over, and the last character is alone
  rw [List.replicate_succ', List.append_assoc]
  exact (op.ofText_replicate_eq_error_iff (even_two_mul k)).2 (op.ofText_single single)

/-! ## Runs -/

theorem exists_eq_replicate_of_mem_runs (h : run ∈ runs text) : ∃ n c, run = List.replicate n c := by
  have chain := List.isChain_of_mem_splitBy h
  simp only [beq_iff_eq] at chain
  obtain ⟨c, run, rfl⟩ := List.exists_cons_of_ne_nil (List.ne_nil_of_mem_splitBy h)
  exact ⟨_, c, List.isChain_eq_iff_eq_replicate.1 chain c rfl⟩

theorem flatten_runs (text : List Char) : (runs text).flatten = text := List.flatten_splitBy _ _

/-- Behind a run there is none of its characters. -/
theorem flatten_ne_of_runs {before after : List (List Char)}
    (eq : runs text = before ++ List.replicate n c :: after) (us : List Char) :
    after.flatten ≠ c :: us := by
  have apart := List.isChain_getLast_head_splitBy (· == ·) text
  have nonempty := List.nil_notMem_splitBy (· == ·) text
  rw [← runs, eq] at apart nonempty
  cases after with
  | nil => exact (List.cons_ne_nil _ _).symm
  | cons next after =>
    obtain ⟨_, ne, differs⟩ := (List.isChain_cons_cons.1 (List.isChain_append.1 apart).2.1).1
    obtain ⟨d, next, rfl⟩ := List.exists_cons_of_ne_nil ne
    rw [List.getLast_replicate, List.head_cons, beq_eq_false_iff_ne] at differs
    exact fun same => differs (List.cons.inj same).1.symm

/-- Runs that can be read in pairs are passed over, one after another. -/
theorem ofText_flatten_append_eq_error_iff {before : List (List Char)}
    (runs : ∀ r ∈ before, ∃ n c, r = List.replicate n c) (paired : ∀ r ∈ before, IsPaired r) :
    ofText (before.flatten ++ rest) = .error e ↔ ofText rest = .error e := by
  induction before with
  | nil => rfl
  | cons run before ih =>
    obtain ⟨n, c, rfl⟩ := runs run List.mem_cons_self
    rw [List.flatten_cons, List.append_assoc,
      (paired _ List.mem_cons_self).ofText_replicate_eq_error_iff]
    exact ih (fun r hr => runs r (List.mem_cons_of_mem _ hr))
      fun r hr => paired r (List.mem_cons_of_mem _ hr)

/-- **A text whose first unpaired run is known** is rejected for its character. -/
theorem ofText_of_first_unpaired {before after : List (List Char)}
    (eq : runs text = before ++ run :: after) (paired : ∀ r ∈ before, IsPaired r)
    (unpaired : ¬ IsPaired run) : ∃ e, (∃ c ∈ run, IsOperator c e) ∧ ofText text = .error e := by
  have uniform {r : List Char} (hr : r ∈ before ++ run :: after) :
      ∃ n c, r = List.replicate n c := by
    rw [← eq] at hr
    exact exists_eq_replicate_of_mem_runs hr
  obtain ⟨n, c, rfl⟩ := uniform (r := run) (by simp)
  obtain ⟨e, op, mem, wrong⟩ := ofText_of_not_isPaired (flatten_ne_of_runs eq) unpaired
  refine ⟨e, ⟨c, mem, op⟩, ?_⟩
  rw [← flatten_runs text, eq, List.flatten_append, List.flatten_cons]
  exact (ofText_flatten_append_eq_error_iff (fun r hr => uniform (List.mem_append_left _ hr))
    paired).2 wrong

/-- Runs can all be read in pairs, or there is a first one that cannot. -/
theorem isPaired_or_exists_first (rs : List (List Char)) :
    (∀ r ∈ rs, IsPaired r) ∨ ∃ before run after, rs = before ++ run :: after ∧
      (∀ r ∈ before, IsPaired r) ∧ ¬ IsPaired run := by
  induction rs with
  | nil => exact .inl fun _ hr => absurd hr List.not_mem_nil
  | cons r rs ih =>
    by_cases here : IsPaired r
    · refine ih.imp ?_ ?_
      · exact fun later => List.forall_mem_cons.2 ⟨here, later⟩
      · rintro ⟨before, run, after, rfl, paired, unpaired⟩
        exact ⟨r :: before, run, after, rfl, List.forall_mem_cons.2 ⟨here, paired⟩, unpaired⟩
    · exact .inr ⟨[], r, rs, rfl, fun _ hr => absurd hr List.not_mem_nil, here⟩

/-- **A text has tokens** if all its runs can be read in pairs. -/
theorem exists_ofText_eq_ok_iff :
    (∃ ts, ofText text = .ok ts) ↔ ∀ run ∈ runs text, IsPaired run := by
  constructor
  · rintro ⟨ts, read⟩
    rcases isPaired_or_exists_first (runs text) with paired | ⟨before, run, after, eq, paired, not⟩
    · exact paired
    · obtain ⟨e, -, wrong⟩ := ofText_of_first_unpaired eq paired not
      rw [read] at wrong
      cases wrong
  · intro paired
    have right (e : LexError) : ¬ ofText text = .error e := by
      rw [← flatten_runs text, ← List.append_nil (runs text).flatten,
        ofText_flatten_append_eq_error_iff (fun r => exists_eq_replicate_of_mem_runs) paired]
      exact fun wrong => by cases wrong
    cases read : ofText text with
    | error e => exact absurd read (right e)
    | ok ts => exact ⟨ts, rfl⟩

theorem IsOperator.unique (op : IsOperator c e) (op' : IsOperator c e') : e = e' := by
  cases op <;> cases op' <;> rfl

/-- **A text is rejected** for the first of its runs that cannot be read in
pairs. -/
theorem ofText_eq_error_iff : ofText text = .error e ↔ IsFirstUnpaired (runs text) e := by
  constructor
  · intro wrong
    rcases isPaired_or_exists_first (runs text) with paired | ⟨before, run, after, eq, paired, not⟩
    · obtain ⟨ts, read⟩ := exists_ofText_eq_ok_iff.2 paired
      rw [wrong] at read
      cases read
    · obtain ⟨e', op, wrong'⟩ := ofText_of_first_unpaired eq paired not
      obtain rfl := Except.error.inj (wrong.symm.trans wrong')
      exact ⟨before, run, after, eq, paired, not, op⟩
  · rintro ⟨before, run, after, eq, paired, not, c, mem, op⟩
    obtain ⟨e', ⟨c', mem', op'⟩, wrong⟩ := ofText_of_first_unpaired eq paired not
    -- both characters are the one that the run consists of
    have there : run ∈ runs text := by
      rw [eq]
      exact List.mem_append_right _ List.mem_cons_self
    obtain ⟨n, d, rfl⟩ := exists_eq_replicate_of_mem_runs there
    obtain rfl := (List.eq_of_mem_replicate mem).trans (List.eq_of_mem_replicate mem').symm
    rw [op.unique op', wrong]

/-! ## Tokens and texts -/

/-- **Tokens are what is written.** A text has tokens if and only if all its
runs of ampersands and of bars can be read in pairs, and is rejected for the
character of the first one that cannot. What is read loses the blanks and
nothing else: the texts of the tokens are the text without its blanks, their
words are its maximal runs of characters that are neither blanks nor
punctuation, and written with single spaces between them they are read again.
All tokens whose words are made of such characters are read from what is so
written. -/
theorem tokens_are_what_is_written :
    (∀ text : List Char,
      ((∃ ts, ofText text = .ok ts) ↔ ∀ run ∈ runs text, IsPaired run) ∧
      (∀ e, ofText text = .error e ↔ IsFirstUnpaired (runs text) e) ∧
      ∀ ts, ofText text = .ok ts →
        ts.flatMap (·.text.toList) = text.filter (!Text.isBlank ·) ∧
        words ts = (plainRuns text).map String.ofList ∧
        ofText (spaced ts) = .ok ts) ∧
    ∀ ts : List Token,
      (∀ w ∈ words ts, w.toList ≠ [] ∧ ∀ c ∈ w.toList, isPlain c = true) →
        ofText (spaced ts) = .ok ts := by
  refine ⟨fun text => ⟨exists_ofText_eq_ok_iff, fun e => ofText_eq_error_iff, ?_⟩, ?_⟩
  · intro ts read
    have spells := ofText_eq_ok_iff_spells.1 read
    exact ⟨spells.flatMap_text, spells.words_eq,
      ofText_eq_ok_iff_spells.2 (spells_spaced spells.isProper)⟩
  · intro ts plain
    refine ofText_eq_ok_iff_spells.2 (spells_spaced fun t ht => ?_)
    cases t with
    | word w =>
      obtain ⟨ne, chars⟩ := plain w (List.mem_filterMap.2 ⟨_, ht, rfl⟩)
      exact ⟨ne, fun c hc => isPlain_eq ▸ chars c hc⟩
    | _ => trivial

/-- A word in front of two operators, another one at the end, blanks that are
not ASCII; and three ampersands behind an even run of bars. -/
theorem runs_and_words_are_found :
    let text := "Bücher.org&&&&\u2003||书\u3000[a]x".toList
    let ts : List Token := [.word "Bücher.org", .and, .and, .or, .word "书", .leftBracket, .word "a",
      .rightBracket, .word "x"]
    (ofText text = .ok ts ∧ words ts = ["Bücher.org", "书", "a", "x"] ∧
      spaced ts = "Bücher.org && && || 书 [ a ] x".toList ∧ ofText (spaced ts) = .ok ts) ∧
    ofText "a||||&&&|".toList = .error .singleAnd := by
  intro text ts
  have read : ofText text = .ok ts := by decide
  obtain ⟨texts, converse⟩ := tokens_are_what_is_written
  obtain ⟨-, words, -⟩ := (texts text).2.2 ts read
  have plain : ∀ w ∈ Token.words ts, w.toList ≠ [] ∧ w.toList.all isPlain = true := by decide
  refine ⟨⟨read, words.trans (by decide), by decide, converse ts fun w hw => ?_⟩, ?_⟩
  · exact ⟨(plain w hw).1, List.all_eq_true.1 (plain w hw).2⟩
  refine ((texts _).2.1 _).2
    ⟨[['a'], ['|', '|', '|', '|']], ['&', '&', '&'], [['|']], by decide, by decide, by decide, ?_⟩
  exact ⟨'&', List.mem_cons_self, .and⟩

end RecordPlan.Token
