import RecordPlan.Proofs.Predicate
import RecordPlan.Proofs.Setting.Printing

/-!
# Expressions put together

Texts of expressions may be put together like the predicates that they denote:
in parentheses an expression denotes what it denotes by itself, and operators
apply to expressions in parentheses as one expects. Whatever the texts are, no
character of one runs together with one of the other where they meet
(`Token.ofText_append_of_delimits`).

Two expressions may be joined by "or" without any parentheses, since no
operator binds less. The text then denotes another predicate than the two with
an "or" between them, since all of it is one chain, which associates to the
left; but it is one that selects the same domains (`Derives.joined`).

A list of domains behind a keyword is a shorthand, too: for the keyword with
each domain of the list by itself, joined by "or". The main statement is
`expressions_are_put_together`.
-/

namespace RecordPlan

open Text.Utf8 (encode)

variable {ts us : List Token} {p q : Predicate} {v w : List UInt8} {ws : List String}
  {ds : List Domain} {d : Domain}

/-- Whether a value is read as a predicate, whatever the setting, and whatever
the journal holds. -/
def ReadsAs (value : List UInt8) (p : Predicate) : Prop :=
  ∀ (key : String) (j : Journal), ((readExpression key value).run.run j).1 = .ok p

/-- A value in parentheses. -/
def inParentheses (value : List UInt8) : List UInt8 :=
  encode "(".toList ++ value ++ encode ")".toList

/-- The text of a list of words behind a keyword. -/
def listText (keyword : String) (words : List String) : String :=
  keyword ++ "(" ++ ",".intercalate words ++ ")"

/-- Whether a text is a word that is parsed as a domain. -/
def NamesDomain (word : String) : Prop :=
  (Token.word word).IsProper ∧ ∃ d, Domain.parse word = .ok d

/-! ## Values and their tokens -/

theorem run_readExpression_eq_ok {key : String} {j : Journal} :
    ((readExpression key v).run.run j).1 = .ok p ↔
      ∃ ts, Token.ofBytes v = .ok ts ∧ Derives .disjunction ts p := by
  rw [readExpression, (isDisciplined_readSetting ..).appends.run_result,
    readSetting_result_eq_ok]
  simp only [scanExpression_result_eq_ok]

theorem readsAs_iff :
    ReadsAs v p ↔ ∃ ts, Token.ofBytes v = .ok ts ∧ Derives .disjunction ts p :=
  ⟨fun h => run_readExpression_eq_ok.1 (h "" .empty), fun h _ _ => run_readExpression_eq_ok.2 h⟩

/-- What is read once is read for every setting, and into every journal. -/
theorem readsAs_of_run {key : String} {j : Journal}
    (h : ((readExpression key v).run.run j).1 = .ok p) : ReadsAs v p :=
  readsAs_iff.2 (run_readExpression_eq_ok.1 h)

/-- **Two values with a token between them** that is no word have their tokens,
with that token between them. -/
theorem Token.ofBytes_joined {t : Token} (operator : t.isWord = false)
    (left : Token.ofBytes v = .ok ts) (right : Token.ofBytes w = .ok us) :
    Token.ofBytes (v ++ encode t.text.toList ++ w) = .ok (ts ++ t :: us) := by
  obtain ⟨text, rfl, tokens⟩ := Token.ofBytes_eq_ok_iff.1 left
  obtain ⟨text', rfl, tokens'⟩ := Token.ofBytes_eq_ok_iff.1 right
  have proper : t.IsProper := by
    cases t with
    | word w => cases operator
    | _ => trivial
  refine Token.ofBytes_eq_ok_iff.2 ⟨text ++ (t.text.toList ++ text'), ?_, ?_⟩
  · rw [Text.Utf8.encode_append, Text.Utf8.encode_append, List.append_assoc]
  · rw [Token.ofText_append_of_delimits (Token.delimits_text_append operator _) tokens,
      Token.ofText_text_append proper (fun word => by rw [operator] at word; cases word), tokens']
    rfl

theorem Token.ofBytes_inParentheses (h : Token.ofBytes v = .ok ts) :
    Token.ofBytes (inParentheses v) = .ok (Predicate.inParentheses ts) := by
  have opened : Token.ofBytes (encode "(".toList ++ v) = .ok (.leftParen :: ts) :=
    Token.ofBytes_joined (v := []) (t := .leftParen) rfl rfl h
  have closed := Token.ofBytes_joined (w := []) (t := .rightParen) rfl opened rfl
  rwa [List.append_nil] at closed

/-! ## Operators -/

/-- Parentheses around an expression go for nothing. -/
theorem ReadsAs.inParentheses (h : ReadsAs v p) : ReadsAs (inParentheses v) p := by
  obtain ⟨ts, tokens, derived⟩ := readsAs_iff.1 h
  exact readsAs_iff.2 ⟨_, Token.ofBytes_inParentheses tokens, derived.parentheses.disjunction⟩

theorem ReadsAs.not (h : ReadsAs v p) :
    ReadsAs (encode "!".toList ++ RecordPlan.inParentheses v) (.not p) := by
  obtain ⟨ts, tokens, derived⟩ := readsAs_iff.1 h
  have marked : Token.ofBytes _ = _ :=
    Token.ofBytes_joined (v := []) (t := .not) rfl rfl (Token.ofBytes_inParentheses tokens)
  exact readsAs_iff.2 ⟨_, marked, .ofConjunction (.ofNegation derived.parentheses.marked)⟩

theorem ReadsAs.and (left : ReadsAs v p) (right : ReadsAs w q) :
    ReadsAs (RecordPlan.inParentheses v ++ encode "&&".toList ++ RecordPlan.inParentheses w)
      (.and p q) := by
  obtain ⟨ts, tokens, derived⟩ := readsAs_iff.1 left
  obtain ⟨us, tokens', derived'⟩ := readsAs_iff.1 right
  have joined : Token.ofBytes _ = _ := Token.ofBytes_joined (t := .and) rfl
    (Token.ofBytes_inParentheses tokens) (Token.ofBytes_inParentheses tokens')
  exact readsAs_iff.2
    ⟨_, joined, .ofConjunction (derived.parentheses.conjunction.and derived'.parentheses.negation)⟩

/-- **Two chains joined by "or"** are one chain, which selects what they select.
The induction is on the chain on the right: its terms are put one by one to
the chain on the left. -/
theorem Derives.joined (left : Derives .disjunction ts p) (right : Derives .disjunction us q) :
    ∃ r, Derives .disjunction (ts ++ .or :: us) r ∧
      ∀ d, r.selects d = (p.selects d || q.selects d) := by
  generalize level : Level.disjunction = l at right
  induction right with
  | ofConjunction term _ => exact ⟨_, left.or term, fun _ => rfl⟩
  | @or _ _ q last _ term ih _ =>
    obtain ⟨r, derived, same⟩ := ih level
    refine ⟨.or r last, ?_, fun d => ?_⟩
    · have whole := derived.or term
      rwa [List.append_assoc] at whole
    · show (r.selects d || last.selects d) = (p.selects d || (q.selects d || last.selects d))
      rw [same, Bool.or_assoc]
  | _ => cases level

theorem ReadsAs.exists_or (left : ReadsAs v p) (right : ReadsAs w q) :
    ∃ r, ReadsAs (v ++ encode "||".toList ++ w) r ∧
      ∀ d, r.selects d = (p.selects d || q.selects d) := by
  obtain ⟨ts, tokens, derived⟩ := readsAs_iff.1 left
  obtain ⟨us, tokens', derived'⟩ := readsAs_iff.1 right
  obtain ⟨r, joined, selects⟩ := derived.joined derived'
  exact ⟨r, readsAs_iff.2 ⟨_, Token.ofBytes_joined (t := .or) rfl tokens tokens', joined⟩, selects⟩

/-! ## Lists -/

/-- The text of a list behind a keyword has the tokens that one expects. -/
theorem ofText_listText {keyword : String} (word : (Token.word keyword).IsProper)
    (proper : ∀ w ∈ ws, (Token.word w).IsProper) :
    Token.ofText (listText keyword ws).toList =
      .ok (.word keyword :: Predicate.inParentheses (wordTokens ws)) := by
  have text : (listText keyword ws).toList =
      (Token.word keyword :: Predicate.inParentheses (wordTokens ws)).flatMap (·.text.toList) := by
    simp only [listText, String.toList_append, toList_intercalate_comma, Predicate.inParentheses,
      List.flatMap_cons, List.flatMap_append, List.flatMap_nil, List.append_nil, List.append_assoc]
    rfl
  have commas : Token.missingCommas true
      (Token.word keyword :: Predicate.inParentheses (wordTokens ws)) = [] :=
    missingCommas_wordTokens_append ws []
  rw [text]
  refine Token.ofText_flatMap_text (fun t ht => ?_) commas
  rcases List.mem_cons.1 ht with rfl | list
  · exact word
  · exact Predicate.isProper_of_mem_inParentheses (fun _ => isProper_of_mem_wordTokens proper) list

/-- Words that name domains name a list of domains. -/
theorem exists_map_parse_eq (named : ∀ w ∈ ws, NamesDomain w) :
    ∃ ds : List Domain, ws.map Domain.parse = ds.map .ok := by
  induction ws with
  | nil => exact ⟨[], rfl⟩
  | cons w ws ih =>
    obtain ⟨d, hd⟩ := (named w List.mem_cons_self).2
    obtain ⟨ds, hds⟩ := ih fun v hv => named v (List.mem_cons_of_mem _ hv)
    exact ⟨d :: ds, congrArg₂ List.cons hd hds⟩

/-- The domains of a list are those that its words name. -/
theorem mem_iff_of_map_parse (h : ws.map Domain.parse = ds.map .ok) :
    d ∈ ds ↔ ∃ w ∈ ws, Domain.parse w = .ok d := by
  rw [← List.mem_map, h]
  simp

/-- **A list behind a keyword** is read as the domains that its words name. -/
theorem readsAs_listText (proper : ∀ w ∈ ws, (Token.word w).IsProper)
    (parsed : ws.map Domain.parse = ds.map .ok) :
    ReadsAs (encode (listText "is" ws).toList) (.is ds) ∧
      ReadsAs (encode (listText "sub" ws).toList) (.sub ds) := by
  have list := listing_wordTokens parsed
  have is : Derives .atom _ (.is _) := .is (w := "is") rfl list
  have sub : Derives .atom _ (.sub _) := .sub (w := "sub") rfl list
  rw [map_domain_map] at is sub
  have properIs : (Token.word "is").IsProper := ⟨nofun, List.all_eq_true.1 rfl⟩
  have properSub : (Token.word "sub").IsProper := ⟨nofun, List.all_eq_true.1 rfl⟩
  exact ⟨readsAs_iff.2 ⟨_, Token.ofBytes_eq_ok_iff.2 ⟨_, rfl, ofText_listText properIs proper⟩,
      is.disjunction⟩,
    readsAs_iff.2 ⟨_, Token.ofBytes_eq_ok_iff.2 ⟨_, rfl, ofText_listText properSub proper⟩,
      sub.disjunction⟩⟩

/-- A list of one word is read as the domain that the word names. -/
theorem readsAs_listText_singleton {word : String} (proper : (Token.word word).IsProper)
    (parsed : Domain.parse word = .ok d) :
    ReadsAs (encode (listText "is" [word]).toList) (.is [d]) ∧
      ReadsAs (encode (listText "sub" [word]).toList) (.sub [d]) :=
  readsAs_listText (List.forall_mem_singleton.2 proper) (congrArg (fun x => [x]) parsed)

/-- A value is read as one predicate only, so what some predicate that it is
read as selects is what that one selects. -/
theorem exists_readsAs_iff (h : ReadsAs v p) :
    (∃ r, ReadsAs v r ∧ r.selects d = true) ↔ p.selects d = true := by
  constructor
  · rintro ⟨r, hr, selected⟩
    obtain rfl := Except.ok.inj ((h "" .empty).symm.trans (hr "" .empty))
    exact selected
  · exact fun selected => ⟨p, h, selected⟩

/-- **A list behind "is"** selects what its words name. -/
theorem exists_is_listText (named : ∀ w ∈ ws, NamesDomain w) :
    ∃ q, ReadsAs (encode (listText "is" ws).toList) q ∧ ∀ d,
      (q.selects d = true ↔
        ∃ w ∈ ws, ∃ r, ReadsAs (encode (listText "is" [w]).toList) r ∧ r.selects d = true) ∧
      (q.selects d = true ↔ ∃ w ∈ ws, Domain.parse w = .ok d) := by
  obtain ⟨ds, parsed⟩ := exists_map_parse_eq named
  refine ⟨_, (readsAs_listText (fun w hw => (named w hw).1) parsed).1, fun d => ?_⟩
  rw [selects_is_iff, mem_iff_of_map_parse parsed, and_iff_left Iff.rfl]
  refine exists_congr fun w => and_congr_right fun hw => ?_
  obtain ⟨proper, t, ht⟩ := named w hw
  have single := readsAs_listText_singleton proper ht
  rw [exists_readsAs_iff single.1, selects_is_iff, List.mem_singleton, ht, Except.ok.injEq, eq_comm]

/-- **A list behind "sub"** selects what lies under the domains that its words
name. -/
theorem exists_sub_listText (named : ∀ w ∈ ws, NamesDomain w) :
    ∃ q, ReadsAs (encode (listText "sub" ws).toList) q ∧ ∀ d,
      (q.selects d = true ↔
        ∃ w ∈ ws, ∃ r, ReadsAs (encode (listText "sub" [w]).toList) r ∧ r.selects d = true) ∧
      (q.selects d = true ↔ ∃ w ∈ ws, ∃ t, Domain.parse w = .ok t ∧ d.isUnder t = true) := by
  obtain ⟨ds, parsed⟩ := exists_map_parse_eq named
  refine ⟨_, (readsAs_listText (fun w hw => (named w hw).1) parsed).2, fun d => ?_⟩
  have targets : (∃ t ∈ ds, d.isUnder t = true) ↔
      ∃ w ∈ ws, ∃ t, Domain.parse w = .ok t ∧ d.isUnder t = true := by
    simp only [mem_iff_of_map_parse parsed]
    grind
  rw [selects_sub_iff, targets, and_iff_left Iff.rfl]
  refine exists_congr fun w => and_congr_right fun hw => ?_
  obtain ⟨proper, t, ht⟩ := named w hw
  have single := readsAs_listText_singleton proper ht
  rw [exists_readsAs_iff single.2, selects_sub_iff]
  simp [ht]

/-! ## All of it together -/

/-- **Expressions are put together as texts.** Whatever two values are read as
expressions, so are the first in parentheses, its negation, the two in
parentheses with "and" between them, and the two as they are with "or" between
them, and they select what the operators say. A list behind a keyword selects
what its words select one by one, and so nothing if it is empty. -/
theorem expressions_are_put_together :
    (∀ (key₁ key₂ : String) (j₁ j₂ : Journal) (e₁ e₂ : List UInt8) (p₁ p₂ : Predicate),
      ((readExpression key₁ e₁).run.run j₁).1 = .ok p₁ →
      ((readExpression key₂ e₂).run.run j₂).1 = .ok p₂ →
        ReadsAs (inParentheses e₁) p₁ ∧
        (∃ q, ReadsAs (encode "!".toList ++ inParentheses e₁) q ∧
          ∀ d, q.selects d = true ↔ ¬ p₁.selects d = true) ∧
        (∃ q, ReadsAs (inParentheses e₁ ++ encode "&&".toList ++ inParentheses e₂) q ∧
          ∀ d, q.selects d = true ↔ p₁.selects d = true ∧ p₂.selects d = true) ∧
        ∃ q, ReadsAs (e₁ ++ encode "||".toList ++ e₂) q ∧
          ∀ d, q.selects d = true ↔ p₁.selects d = true ∨ p₂.selects d = true) ∧
    (∀ ws, (∀ w ∈ ws, NamesDomain w) →
      (∃ q, ReadsAs (encode (listText "is" ws).toList) q ∧ ∀ d,
        (q.selects d = true ↔
          ∃ w ∈ ws, ∃ r, ReadsAs (encode (listText "is" [w]).toList) r ∧ r.selects d = true) ∧
        (q.selects d = true ↔ ∃ w ∈ ws, Domain.parse w = .ok d)) ∧
      ∃ q, ReadsAs (encode (listText "sub" ws).toList) q ∧ ∀ d,
        (q.selects d = true ↔
          ∃ w ∈ ws, ∃ r, ReadsAs (encode (listText "sub" [w]).toList) r ∧ r.selects d = true) ∧
        (q.selects d = true ↔ ∃ w ∈ ws, ∃ t, Domain.parse w = .ok t ∧ d.isUnder t = true)) ∧
    ∀ keyword ∈ ["is", "sub"], ∃ q, ReadsAs (encode (listText keyword []).toList) q ∧
      ∀ d, q.selects d = false := by
  refine ⟨?operators, ?lists, ?empty⟩
  case operators =>
    intro key₁ key₂ j₁ j₂ e₁ e₂ p₁ p₂ h₁ h₂
    have read₁ := readsAs_of_run h₁
    have read₂ := readsAs_of_run h₂
    obtain ⟨q, either, selects⟩ := read₁.exists_or read₂
    refine ⟨read₁.inParentheses, ⟨_, read₁.not, fun d => ?_⟩, ⟨_, read₁.and read₂, fun d => ?_⟩,
      q, either, fun d => ?_⟩
    · simp [Predicate.selects]
    · simp [Predicate.selects]
    · rw [selects, Bool.or_eq_true]
  case lists => exact fun ws named => ⟨exists_is_listText named, exists_sub_listText named⟩
  case empty =>
    have none : ReadsAs _ (.is []) ∧ ReadsAs _ (.sub []) :=
      readsAs_listText (List.forall_mem_nil _) rfl
    simp only [List.forall_mem_cons]
    exact ⟨⟨_, none.1, fun _ => rfl⟩, ⟨_, none.2, fun _ => rfl⟩, List.forall_mem_nil _⟩

/-- Two chains joined without parentheses select what one of them does, and a
list selects a wildcard that one of its words names in capital letters. -/
theorem joined_chains_select_either :
    let e₁ := encode "f||is(a.org)".toList
    let e₂ := encode "t&&f||sub(b.org)".toList
    let p₁ : Predicate := .or (.const false) (.is [.fqdn "a.org"])
    let p₂ : Predicate := .or (.and (.const true) (.const false)) (.sub [.fqdn "b.org"])
    ((readExpression "DDNS_PROXIED" e₁).run.run .empty).1 = .ok p₁ ∧
      ((readExpression "DDNS_PROXIED" e₂).run.run .empty).1 = .ok p₂ ∧
      (∀ w ∈ ["a.org", "*.B.org"], NamesDomain w) ∧
      (∃ q, ReadsAs (encode "f||is(a.org)||t&&f||sub(b.org)".toList) q ∧
        q.selects (.fqdn "a.org") = true ∧ q.selects (.wildcard "b.org") = true ∧
        ¬ q.selects (.fqdn "c.org") = true) ∧
      ∃ q, ReadsAs (encode "is(a.org,*.B.org)".toList) q ∧
        q.selects (.wildcard "b.org") = true := by
  intro e₁ e₂ p₁ p₂
  have isList : Derives .atom _ (.is [.fqdn "a.org"]) :=
    .is (w := "is") rfl (.domain (w := "a.org") rfl .nil)
  have subList : Derives .atom _ (.sub [.fqdn "b.org"]) :=
    .sub (w := "sub") rfl (.domain (w := "b.org") rfl .nil)
  have no : Derives .atom [.word "f"] (.const false) := .false (by decide)
  have yes : Derives .atom [.word "t"] (.const true) := .true (by decide)
  have read₁ : ((readExpression "DDNS_PROXIED" e₁).run.run .empty).1 = .ok p₁ :=
    run_readExpression_eq_ok.2 ⟨_, rfl, no.disjunction.or isList.conjunction⟩
  have read₂ : ((readExpression "DDNS_PROXIED" e₂).run.run .empty).1 = .ok p₂ :=
    run_readExpression_eq_ok.2
      ⟨_, rfl, (Derives.ofConjunction (yes.conjunction.and no.negation)).or subList.conjunction⟩
  have named : ∀ w ∈ ["a.org", "*.B.org"], NamesDomain w := by
    rintro w (_ | ⟨_, _ | ⟨_, ⟨⟩⟩⟩)
    · exact ⟨⟨nofun, List.all_eq_true.1 rfl⟩, .fqdn "a.org", rfl⟩
    · exact ⟨⟨nofun, List.all_eq_true.1 rfl⟩, .wildcard "b.org", rfl⟩
  obtain ⟨operators, lists, -⟩ := expressions_are_put_together
  obtain ⟨-, -, -, q, joined, selects⟩ := operators _ _ _ _ e₁ e₂ p₁ p₂ read₁ read₂
  obtain ⟨⟨r, listed, selectsListed⟩, -⟩ := lists _ named
  refine ⟨read₁, read₂, named, ⟨q, joined, ?_⟩, r, listed, ?_⟩
  · simp only [selects]
    decide
  · exact (selectsListed _).2.2 ⟨"*.B.org", by simp, rfl⟩

end RecordPlan
