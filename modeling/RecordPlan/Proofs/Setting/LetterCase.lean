import RecordPlan.Proofs.Domain.LetterCase
import RecordPlan.Proofs.HostId.LetterCase
import RecordPlan.Proofs.Setting.Gap
import RecordPlan.Proofs.Setting.TokenText
import RecordPlan.Proofs.Text.SmallBytes

/-!
# Values in any letter case

Nothing that is read from a value depends on the case of its ASCII letters. The
value can be put into small letters before it is read: every step of reading then
comes to what it comes to without that, put into small letters itself. This is
so for the tokens (`Token.ofBytes_map_smallByte`), for words, which are domains,
host IDs or keywords, and for readers that are put together from others
(`Scan.lowered_bind`), and from these for the readers of lists and expressions
(`entries_lowered`, `readers_lowered`).

Words are found again in what reading notes and in errors, and there they are in
small letters as well. Domains, host IDs and predicates have no letter case. So
two values with the same small letters are compared by way of them; the main
statement is `letter_case_does_not_matter`.
-/

namespace RecordPlan

variable {α β γ δ : Type} {t : Token} {ts : List Token}

/-! ## Tokens -/

namespace Token

variable {reversed : List Char}

/-- A token with the letters of its word in small form. -/
def lowered : Token → Token
  | word w => word (RecordPlan.lowered w)
  | t => t

theorem lowered_of_not_isWord (h : t.isWord = false) : t.lowered = t := by
  cases t with
  | word w => cases h
  | _ => rfl

/-- What is no word is there only if it was there. -/
theorem lowered_eq_iff (h : t.isWord = false) {u : Token} : u.lowered = t ↔ u = t := by
  cases u with
  | word w =>
    refine iff_of_false ?_ ?_ <;> rintro rfl <;> cases h
  | _ => exact Iff.rfl

theorem map_lowered_ne_cons (h : t.isWord = false) (ne : ∀ us, ts ≠ t :: us) (us : List Token) :
    ts.map lowered ≠ t :: us := by
  intro eq
  obtain ⟨u, vs, rfl, first, -⟩ := List.map_eq_cons_iff.1 eq
  exact ne vs (congrArg (· :: vs) ((lowered_eq_iff h).1 first))

theorem single?_toLower (c : Char) : single? c.toLower = single? c :=
  Text.toLower_of_letters (by decide) c

theorem isWordChar_toLower (c : Char) : isWordChar c.toLower = isWordChar c :=
  Text.toLower_of_letters (by decide) c

theorem consWord_map_lowered (reversed : List Char) (ts : List Token) :
    consWord (reversed.map Char.toLower) (ts.map lowered) = (consWord reversed ts).map lowered := by
  by_cases none : reversed = []
  · rw [none]
    rfl
  · rw [consWord, consWord, if_neg none, if_neg (mt List.map_eq_nil_iff.1 none), List.map_cons,
      lowered, RecordPlan.lowered, String.toList_ofList, List.map_reverse]

/-- What is read behind a word, with the word in front of it. -/
theorem map_consWord_lowered (f : List Token → List Token)
    (hf : ∀ ts, f (ts.map lowered) = (f ts).map lowered) (x : Except LexError (List Token)) :
    (x.map (List.map lowered)).map (fun ts => consWord (reversed.map Char.toLower) (f ts)) =
      (x.map fun ts => consWord reversed (f ts)).map (List.map lowered) := by
  cases x with
  | error e => rfl
  | ok ts =>
    refine congrArg Except.ok ?_
    dsimp only
    rw [hf, consWord_map_lowered]

/-- **The tokens of a text in small letters** are its tokens in small letters. -/
theorem continueText_map_toLower (reversed text : List Char) :
    continueText (reversed.map Char.toLower) (text.map Char.toLower) =
      (continueText reversed text).map (List.map lowered) := by
  fun_induction continueText reversed text with
  | case1 reversed => exact congrArg Except.ok (consWord_map_lowered reversed [])
  | case2 reversed rest ih =>
    show continueText _ ('&' :: '&' :: rest.map Char.toLower) = _
    rw [continueText, show continueText [] (rest.map Char.toLower) = _ from ih]
    exact map_consWord_lowered (and :: ·) (fun _ => rfl) _
  | case3 reversed rest single =>
    -- no letter becomes an operator, so what stands alone still does
    show continueText _ ('&' :: rest.map Char.toLower) = _
    rw [continueText]
    · rfl
    · exact Text.map_toLower_ne_cons rfl single
  | case4 reversed rest ih =>
    show continueText _ ('|' :: '|' :: rest.map Char.toLower) = _
    rw [continueText, show continueText [] (rest.map Char.toLower) = _ from ih]
    exact map_consWord_lowered (or :: ·) (fun _ => rfl) _
  | case5 reversed rest single =>
    show continueText _ ('|' :: rest.map Char.toLower) = _
    rw [continueText]
    · rfl
    · exact Text.map_toLower_ne_cons rfl single
  | case6 reversed c rest _ _ _ _ t ht ih =>
    have mark := lowered_of_not_isWord (text_of_single? ht).1
    rw [List.map_cons, continueText_cons_of_single? ((single?_toLower c).trans ht), ofText,
      show continueText [] (rest.map Char.toLower) = _ from ih]
    exact map_consWord_lowered (t :: ·) (fun ts => by rw [List.map_cons, mark]) _
  | case7 reversed c rest _ _ _ _ none blank ih =>
    rw [List.map_cons, continueText_cons_of_isBlank ((Text.isBlank_toLower c).trans blank), ofText,
      show continueText [] (rest.map Char.toLower) = _ from ih]
    exact map_consWord_lowered id (fun _ => rfl) _
  | case8 reversed c rest _ notAnd _ notOr none notBlank ih =>
    have wordChar : isWordChar c = true :=
      isWordChar_iff.2 ⟨by simpa using notBlank, none, notAnd, notOr⟩
    rw [List.map_cons, continueText_of_isWordChar ((isWordChar_toLower c).trans wordChar)]
    exact ih

/-- **The tokens of bytes in small form** are their tokens in small letters. -/
theorem ofBytes_map_smallByte (value : List UInt8) :
    ofBytes (value.map Text.smallByte) = (ofBytes value).map (List.map lowered) := by
  rw [ofBytes, ofBytes, Text.Utf8.decode_map_smallByte]
  cases Text.Utf8.decode value with
  | error defect => rfl
  | ok text => exact continueText_map_toLower [] text

end Token

/-! ## Words -/

theorem sameButCase_lowered (w : String) : Text.sameButCase (lowered w).toList w.toList = true := by
  rw [lowered, String.toList_ofList, Text.sameButCase, List.map_map, beq_iff_eq]
  exact List.map_congr_left fun c _ => Text.toLower_toLower c

theorem sameButCase_lowered_left (w : String) (text : List Char) :
    Text.sameButCase (lowered w).toList text = Text.sameButCase w.toList text := by
  rw [Text.sameButCase, Text.sameButCase, eq_of_beq (sameButCase_lowered w)]

/-- An error with the words that it quotes in small letters. -/
def ValueError.lowered : ValueError → ValueError
  | illFormed cause => .illFormed cause
  | illFormedDomain word cause => .illFormedDomain (RecordPlan.lowered word) cause
  | notFullyQualified word => .notFullyQualified (RecordPlan.lowered word)
  | illFormedHostId word cause => .illFormedHostId (RecordPlan.lowered word) cause
  | unexpectedToken token => .unexpectedToken token.lowered
  | unexpectedTokenExpecting token expected => .unexpectedTokenExpecting token.lowered expected
  | missingAtEnd expected => .missingAtEnd expected
  | notBooleanExpression => .notBooleanExpression

theorem domainOfWord_lowered (w : String) :
    domainOfWord (lowered w) = (domainOfWord w).mapError ValueError.lowered := by
  rw [domainOfWord, domainOfWord, Domain.parse_eq_of_sameButCase (sameButCase_lowered w)]
  cases Domain.parse w with
  | ok d => rfl
  | error cause => cases cause <;> rfl

theorem hostIdOfWord_lowered (n : UInt8) (w : String) :
    hostIdOfWord n (lowered w) = (hostIdOfWord n w).mapError ValueError.lowered := by
  rw [hostIdOfWord, hostIdOfWord, HostId.parse_eq_of_sameButCase (sameButCase_lowered w)]
  cases HostId.parse w n <;> rfl

theorem isKeyword_lowered (keyword w : String) : isKeyword keyword (lowered w) = isKeyword keyword w :=
  sameButCase_lowered_left w keyword.toList

theorem literal?_lowered (w : String) : literal? (lowered w) = literal? w := by
  simp only [literal?, sameButCase_lowered_left]

/-! ## Readers one after another -/

/-- What is left, in small letters. -/
def Shorter.lowered (r : Shorter ts) : Shorter (ts.map Token.lowered) :=
  ⟨r.1.map Token.lowered, by simpa only [List.length_map] using r.2⟩

@[inherit_doc Shorter.lowered]
def NoLonger.lowered (r : NoLonger ts) : NoLonger (ts.map Token.lowered) :=
  ⟨r.1.map Token.lowered, by simpa only [List.length_map] using r.2⟩

namespace Scan

/-- What reading comes to, with all words in small letters; `f` says what
becomes of the result. -/
def lowered (f : α → β) (x : Scan α) : Scan β :=
  ⟨x.gaps.map RecordPlan.lowered, (x.result.map f).mapError ValueError.lowered⟩

/-- **One reader after another** comes to the same in small letters if each of
them does. -/
theorem lowered_bind {x : Scan α} {x' : Scan β} {k : α → β} {f : α → Scan γ} {f' : β → Scan δ}
    {g : γ → δ} (first : x' = x.lowered k) (next : ∀ a, f' (k a) = (f a).lowered g) :
    x' >>= f' = (x >>= f).lowered g := by
  subst first
  show Scan.bind (x.lowered k) f' = (Scan.bind x f).lowered g
  obtain ⟨gaps, result⟩ := x
  cases result with
  | error e => rfl
  | ok a =>
    show Scan.mk (gaps.map _ ++ (f' (k a)).gaps) (f' (k a)).result =
      Scan.mk ((gaps ++ (f a).gaps).map _) _
    rw [next a, List.map_append]
    rfl

theorem lowered_ofExcept {r r' : Except ValueError α} (h : r' = r.mapError ValueError.lowered) :
    ofExcept r' = (ofExcept r).lowered id := by
  subst h
  cases r <;> rfl

end Scan

/-- A mark is read where it was. -/
theorem expect_lowered (h : t.isWord = false) (ts : List Token) :
    expect t (ts.map Token.lowered) = (expect t ts).lowered Shorter.lowered := by
  cases ts with
  | nil => rfl
  | cons u ts =>
    show expect t (u.lowered :: ts.map Token.lowered) = _
    rw [expect, expect]
    by_cases found : u = t
    · rw [if_pos found, if_pos ((Token.lowered_eq_iff h).2 found)]
      rfl
    · rw [if_neg found, if_neg (mt (Token.lowered_eq_iff h).1 found)]
      rfl

theorem finish_lowered (ts : List Token) :
    finish (ts.map Token.lowered) = (finish ts).lowered id := by
  cases ts <;> rfl

/-! ## Lists of domains -/

theorem hostIdInBrackets_lowered (n : UInt8) (ts : List Token) :
    hostIdInBrackets n (ts.map Token.lowered) =
      (hostIdInBrackets n ts).lowered (Prod.map id Shorter.lowered) := by
  cases ts with
  | nil => rfl
  | cons t ts =>
    cases t with
    | word w =>
      refine Scan.lowered_bind (Scan.lowered_ofExcept (hostIdOfWord_lowered n w)) fun id => ?_
      exact Scan.lowered_bind (expect_lowered rfl ts) fun _ => rfl
    | _ => rfl

theorem optionalHostId_lowered (prefixLen : Option UInt8) (ts : List Token) :
    optionalHostId prefixLen (ts.map Token.lowered) =
      (optionalHostId prefixLen ts).lowered (Prod.map id NoLonger.lowered) := by
  cases prefixLen with
  | none => rfl
  | some n =>
    cases ts with
    | nil => rfl
    | cons t ts =>
      cases t with
      | leftBracket => exact Scan.lowered_bind (hostIdInBrackets_lowered n ts) fun _ => rfl
      | _ => rfl

theorem entries_lowered (prefixLen : Option UInt8) (separated : Bool) (ts : List Token) :
    entries prefixLen separated (ts.map Token.lowered) =
      (entries prefixLen separated ts).lowered (Prod.map id NoLonger.lowered) := by
  induction separated, ts using entries.induct prefixLen with
  | case1 separated =>
    show entries prefixLen separated [] = _
    rw [entries]
    rfl
  | case2 separated us =>
    show entries prefixLen separated (.rightParen :: us.map Token.lowered) = _
    rw [entries, entries]
    rfl
  | case3 separated us ih =>
    show entries prefixLen separated (.comma :: us.map Token.lowered) = _
    rw [entries, entries]
    exact Scan.lowered_bind ih fun _ => rfl
  | case4 separated w us notSeparated ih | case5 separated w us notSeparated ih =>
    -- behind the word it makes no difference whether a comma was missing before
    have read : entries prefixLen true ((Token.word w :: us).map Token.lowered) =
        (entries prefixLen true (.word w :: us)).lowered (Prod.map id NoLonger.lowered) := by
      show entries prefixLen true (.word (lowered w) :: us.map Token.lowered) = _
      rw [entries, entries]
      refine Scan.lowered_bind (Scan.lowered_ofExcept (domainOfWord_lowered w)) fun d => ?_
      refine Scan.lowered_bind (optionalHostId_lowered prefixLen us) ?_
      rintro ⟨id, rest⟩
      exact Scan.lowered_bind (ih rest) fun _ => rfl
    cases separated with
    | true => exact read
    | false =>
      show entries prefixLen false (.word (lowered w) :: us.map Token.lowered) = _
      rw [entries_word_false, entries_word_false]
      exact Scan.lowered_bind (k := id) rfl fun _ => read
  | case6 separated t us notParen notComma notWord =>
    cases t with
    | rightParen => exact absurd rfl notParen
    | comma => exact absurd rfl notComma
    | word w => exact absurd rfl (notWord w)
    | _ =>
      show entries prefixLen separated (_ :: us.map Token.lowered) = _
      rw [entries, entries]
      · rfl
      all_goals simp [Token.lowered]

theorem scanEntries_lowered (n : UInt8) (ts : List Token) :
    scanEntries n (ts.map Token.lowered) = (scanEntries n ts).lowered id :=
  Scan.lowered_bind (entries_lowered (some n) true ts) fun _ =>
    Scan.lowered_bind (finish_lowered _) fun _ => rfl

theorem scanDomains_lowered (ts : List Token) :
    scanDomains (ts.map Token.lowered) = (scanDomains ts).lowered id :=
  Scan.lowered_bind (entries_lowered none true ts) fun _ =>
    Scan.lowered_bind (finish_lowered _) fun _ => rfl

/-! ## Expressions -/

theorem arguments_lowered (ts : List Token) :
    arguments (ts.map Token.lowered) = (arguments ts).lowered (Prod.map id Shorter.lowered) := by
  refine Scan.lowered_bind (expect_lowered rfl ts) fun first => ?_
  refine Scan.lowered_bind (entries_lowered none true first.1) ?_
  rintro ⟨es, rest⟩
  exact Scan.lowered_bind (expect_lowered rfl rest.1) fun _ => rfl

/-- **The readers of expressions** come to the same in small letters. The
induction is on their calls to one another. -/
theorem readers_lowered :
    (∀ ts, disjunction (ts.map Token.lowered) =
      (disjunction ts).lowered (Prod.map id Shorter.lowered)) ∧
    (∀ left ts, moreDisjuncts left (ts.map Token.lowered) =
      (moreDisjuncts left ts).lowered (Prod.map id NoLonger.lowered)) ∧
    (∀ ts, conjunction (ts.map Token.lowered) =
      (conjunction ts).lowered (Prod.map id Shorter.lowered)) ∧
    (∀ left ts, moreConjuncts left (ts.map Token.lowered) =
      (moreConjuncts left ts).lowered (Prod.map id NoLonger.lowered)) ∧
    (∀ negated ts, negation negated (ts.map Token.lowered) =
      (negation negated ts).lowered (Prod.map id Shorter.lowered)) ∧
    ∀ ts, atom (ts.map Token.lowered) = (atom ts).lowered (Prod.map id Shorter.lowered) := by
  refine disjunction.mutual_induct _ _ _ _ _ _ ?disjunction ?or ?noOr ?conjunction ?and ?noAnd
    ?not ?noNot ?parentheses ?is ?sub ?literal ?noLiteral ?noAtom
  case disjunction =>
    intro ts first more
    rw [disjunction, disjunction]
    refine Scan.lowered_bind first ?_
    rintro ⟨p, rest⟩
    exact Scan.lowered_bind (more p rest) fun _ => rfl
  case or =>
    intro left ts next more
    show moreDisjuncts left (.or :: ts.map Token.lowered) = _
    rw [moreDisjuncts, moreDisjuncts]
    refine Scan.lowered_bind next ?_
    rintro ⟨p, rest⟩
    exact Scan.lowered_bind (more p rest) fun _ => rfl
  case noOr =>
    intro left ts none
    rw [moreDisjuncts, moreDisjuncts]
    · rfl
    · exact none
    · exact Token.map_lowered_ne_cons rfl none
  case conjunction =>
    intro ts first more
    rw [conjunction, conjunction]
    refine Scan.lowered_bind first ?_
    rintro ⟨p, rest⟩
    exact Scan.lowered_bind (more p rest) fun _ => rfl
  case and =>
    intro left ts next more
    show moreConjuncts left (.and :: ts.map Token.lowered) = _
    rw [moreConjuncts, moreConjuncts]
    refine Scan.lowered_bind next ?_
    rintro ⟨p, rest⟩
    exact Scan.lowered_bind (more p rest) fun _ => rfl
  case noAnd =>
    intro left ts none
    rw [moreConjuncts, moreConjuncts]
    · rfl
    · exact none
    · exact Token.map_lowered_ne_cons rfl none
  case not =>
    intro negated ts more
    show negation negated (.not :: ts.map Token.lowered) = _
    rw [negation, negation]
    exact Scan.lowered_bind more fun _ => rfl
  case noNot =>
    intro negated ts none reads
    rw [negation, negation]
    · exact Scan.lowered_bind reads fun _ => rfl
    · exact none
    · exact Token.map_lowered_ne_cons rfl none
  case parentheses =>
    intro ts reads
    show atom (.leftParen :: ts.map Token.lowered) = _
    rw [atom, atom]
    refine Scan.lowered_bind reads ?_
    rintro ⟨p, rest⟩
    exact Scan.lowered_bind (expect_lowered rfl rest.1) fun _ => rfl
  case is =>
    intro w ts keyword
    show atom (.word (lowered w) :: ts.map Token.lowered) = _
    rw [atom, atom, isKeyword_lowered, if_pos keyword, if_pos keyword]
    exact Scan.lowered_bind (arguments_lowered ts) fun _ => rfl
  case sub =>
    intro w ts notIs keyword
    show atom (.word (lowered w) :: ts.map Token.lowered) = _
    rw [atom, atom, isKeyword_lowered, isKeyword_lowered, if_neg notIs, if_neg notIs,
      if_pos keyword, if_pos keyword]
    exact Scan.lowered_bind (arguments_lowered ts) fun _ => rfl
  case literal =>
    intro w ts notIs notSub b literal
    show atom (.word (lowered w) :: ts.map Token.lowered) = _
    rw [atom, atom, isKeyword_lowered, isKeyword_lowered, if_neg notIs, if_neg notIs,
      if_neg notSub, if_neg notSub, literal?_lowered, literal]
    rfl
  case noLiteral =>
    intro w ts notIs notSub none
    show atom (.word (lowered w) :: ts.map Token.lowered) = _
    rw [atom, atom, isKeyword_lowered, isKeyword_lowered, if_neg notIs, if_neg notIs,
      if_neg notSub, if_neg notSub, literal?_lowered, none]
    rfl
  case noAtom =>
    intro ts noParen noWord
    rw [atom, atom]
    · rfl
    · exact noParen
    · exact noWord
    · exact Token.map_lowered_ne_cons rfl noParen
    · intro v us eq
      obtain ⟨t, vs, rfl, first, -⟩ := List.map_eq_cons_iff.1 eq
      cases t with
      | word w => exact noWord w vs rfl
      | _ => cases first

theorem scanExpression_lowered (ts : List Token) :
    scanExpression (ts.map Token.lowered) = (scanExpression ts).lowered id :=
  Scan.lowered_bind (readers_lowered.1 ts) fun _ => Scan.lowered_bind (finish_lowered _) fun _ => rfl

/-! ## Values -/

variable {key : String} {value value' : List UInt8} {read : List Token → Scan α}

/-- An error with the value, and what it quotes of it, in small letters. -/
def SettingsError.lowered : SettingsError → SettingsError
  | setting key value cause => setting key (value.map Text.smallByte) cause.lowered
  | e => e

/-- **Whether two runs of a reader differ in letter case at most**: in the case of
what is quoted in an error, if there is one. -/
def AlikeButCase (x y : Except SettingsError α × Journal) : Prop :=
  ((∃ a, x.1 = .ok a ∧ y.1 = .ok a) ∨
    ∃ e e', x.1 = .error e ∧ y.1 = .error e' ∧ e.lowered = e'.lowered) ∧
  (x.2.textsOf .warning).length = (y.2.textsOf .warning).length

/-- Messages of one severity are counted with those that are there. -/
theorem length_textsOf_append (j : Journal) (written : List Message) (severity : Severity) :
    ((⟨j.messages ++ written⟩ : Journal).textsOf severity).length =
      (j.textsOf severity).length + (written.filter (·.severity = severity)).length := by
  rw [Journal.textsOf, Journal.textsOf, List.filter_append, List.length_map, List.length_map,
    List.length_append]

/-- Of what is written about a value, as many messages are warnings as commas are
missing. -/
theorem length_filter_gapWarnings (key : String) (value : List UInt8) (gaps : List String)
    {errors : List Message} (h : ∀ m ∈ errors, m.severity = .error) :
    ((gapWarnings key value gaps ++ errors).filter (·.severity = .warning)).length =
      gaps.length := by
  have warnings : (gapWarnings key value gaps).filter (·.severity = .warning) =
      gapWarnings key value gaps :=
    List.filter_eq_self.2 fun m hm => decide_eq_true (severity_of_mem_gapWarnings hm)
  have none : errors.filter (·.severity = .warning) = [] :=
    List.filter_eq_nil_iff.2 fun m hm => by simp [h m hm]
  rw [List.filter_append, warnings, none, List.append_nil, gapWarnings, List.length_map]

/-- No warning is written about a value without tokens. -/
theorem length_warnings_of_lexError {cause : LexError} (h : Token.ofBytes value = .error cause)
    (j : Journal) :
    (((readSetting key value read).run.run j).2.textsOf .warning).length =
      (j.textsOf .warning).length := by
  obtain ⟨appends, outcome⟩ := readSetting_of_lexError key read h
  rw [appends j, outcome, length_textsOf_append]
  exact congrArg (_ + ·) (length_filter_gapWarnings key value [] (by simp))

/-- One warning is written about a value for each missing comma. -/
theorem length_warnings_of_tokens (h : Token.ofBytes value = .ok ts) (j : Journal) :
    (((readSetting key value read).run.run j).2.textsOf .warning).length =
      (j.textsOf .warning).length + (read ts).gaps.length := by
  obtain ⟨appends, outcome⟩ := readSetting_of_tokens key read h
  rw [appends j, outcome, length_textsOf_append, length_filter_gapWarnings]
  intro m hm
  cases result : (read ts).result with
  | ok a => rw [result] at hm; cases hm
  | error cause =>
    rw [result] at hm
    rw [List.mem_singleton.1 hm]

/-- **The value of a setting in small letters** is read as it is itself, with as
many warnings, if the reader of its tokens comes to the same in small letters. -/
theorem readSetting_map_smallByte (key : String) (value : List UInt8)
    (alike : ∀ ts, read (ts.map Token.lowered) = (read ts).lowered id) (j : Journal) :
    ((readSetting key (value.map Text.smallByte) read).run.run j).1 =
        ((readSetting key value read).run.run j).1.mapError SettingsError.lowered ∧
      (((readSetting key (value.map Text.smallByte) read).run.run j).2.textsOf .warning).length =
        (((readSetting key value read).run.run j).2.textsOf .warning).length := by
  have small := Token.ofBytes_map_smallByte value
  rw [(isDisciplined_readSetting ..).appends.run_result,
    (isDisciplined_readSetting ..).appends.run_result]
  cases tokens : Token.ofBytes value with
  | error cause =>
    rw [tokens] at small
    refine ⟨?_, by rw [length_warnings_of_lexError small, length_warnings_of_lexError tokens]⟩
    rw [(readSetting_of_lexError key read small).2, (readSetting_of_lexError key read tokens).2]
    rfl
  | ok ts =>
    rw [tokens] at small
    refine ⟨?_, ?_⟩
    · rw [(readSetting_of_tokens key read small).2, (readSetting_of_tokens key read tokens).2, alike]
      dsimp only [Scan.lowered]
      cases (read ts).result <;> rfl
    · rw [length_warnings_of_tokens small, length_warnings_of_tokens tokens, alike, Scan.lowered,
        List.length_map]

/-- Results that are equal but for their errors. -/
theorem results_of_mapError_eq {ε ε' : Type} {f : ε → ε'} {x y : Except ε α}
    (h : x.mapError f = y.mapError f) :
    (∃ a, x = .ok a ∧ y = .ok a) ∨ ∃ e e', x = .error e ∧ y = .error e' ∧ f e = f e' := by
  cases x with
  | ok a =>
    cases y with
    | ok b => exact .inl ⟨a, rfl, congrArg Except.ok (Except.ok.inj h).symm⟩
    | error e => cases h
  | error e =>
    cases y with
    | ok b => cases h
    | error e' => exact .inr ⟨e, e', rfl, rfl, Except.error.inj h⟩

/-- **Values that differ in letter case at most** are read alike, by a reader
that comes to the same in small letters. -/
theorem alikeButCase_readSetting (same : value.map Text.smallByte = value'.map Text.smallByte)
    (alike : ∀ ts, read (ts.map Token.lowered) = (read ts).lowered id) (j : Journal) :
    AlikeButCase ((readSetting key value read).run.run j)
      ((readSetting key value' read).run.run j) := by
  -- the two are compared by way of the value in small letters, which they share
  obtain ⟨result, count⟩ := readSetting_map_smallByte key value alike j
  obtain ⟨result', count'⟩ := readSetting_map_smallByte key value' alike j
  rw [same] at result count
  exact ⟨results_of_mapError_eq (result.symm.trans result'), count.symm.trans count'⟩

/-- **Letter case does not matter.** Values that differ in nothing but the case of
ASCII letters are read alike, for every setting, prefix length and journal: as
the same domains, host IDs or predicate, or with errors that differ in the case
of what they quote at most; and with equally many warnings. -/
theorem letter_case_does_not_matter {value value' : List UInt8}
    (same : value.map Text.smallByte = value'.map Text.smallByte) (key : String) (n : UInt8)
    (j : Journal) :
    AlikeButCase ((readDomains key value).run.run j) ((readDomains key value').run.run j) ∧
    AlikeButCase ((readEntries key value n).run.run j) ((readEntries key value' n).run.run j) ∧
    AlikeButCase ((readExpression key value).run.run j) ((readExpression key value').run.run j) :=
  ⟨alikeButCase_readSetting same scanDomains_lowered j,
    alikeButCase_readSetting same (scanEntries_lowered n) j,
    alikeButCase_readSetting same scanExpression_lowered j⟩

/-- A list in mixed letter case is the list in small letters. -/
theorem mixed_case_list_is_read :
    let value := Text.Utf8.encode "a.org *.b.org".toList
    let value' := Text.Utf8.encode "A.Org *.b.ORG".toList
    value.map Text.smallByte = value'.map Text.smallByte ∧
      ((readDomains "DDNS_DOMAINS" value').run.run .empty).1 =
        .ok [.fqdn "a.org", .wildcard "b.org"] := by
  intro value value'
  have same : value.map Text.smallByte = value'.map Text.smallByte := by decide
  have tokens : Token.ofBytes value = .ok [.word "a.org", .word "*.b.org"] := by decide
  have list : Listing none [.word "a.org", .word "*.b.org"]
      [⟨.fqdn "a.org", none⟩, ⟨.wildcard "b.org", none⟩] :=
    .domain (by decide) (.domain (by decide) .nil)
  have read : (readDomains "DDNS_DOMAINS" value).run.run .empty = _ :=
    readSetting_run_of_ok tokens (scanDomains_result_eq_ok.2 ⟨_, list, rfl⟩) .empty
  obtain ⟨⟨⟨a, first, second⟩ | ⟨e, -, first, -⟩, -⟩, -⟩ :=
    letter_case_does_not_matter same "DDNS_DOMAINS" 64 .empty
  · rw [read] at first
    exact ⟨same, second.trans first.symm⟩
  · rw [read] at first
    cases first

end RecordPlan
