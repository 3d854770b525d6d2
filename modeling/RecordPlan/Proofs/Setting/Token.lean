import RecordPlan.Proofs.Text.Part
import RecordPlan.Setting.Token

/-!
# Texts of tokens

Tokens may be written one behind the other and are read back
(`Token.ofText_flatMap_text`), if their words are words and no word stands
directly behind another, which would make them one. Reading is a matter of
one token at a time (`Token.ofText_text_append`): a word is read up to what
delimits it, and everything else delimits.
-/

namespace RecordPlan.Token

variable {c : Char} {w rest reversed : List Char} {t : Token} {ts : List Token}

/-- Whether a text begins with nothing that continues a word. -/
def Delimits (text : List Char) : Prop :=
  ∀ c rest, text = c :: rest → isWordChar c = false

/-- Whether a token can be written: a word needs characters, and all of them
have to belong to words. -/
def IsProper : Token → Prop
  | word w => w.toList ≠ [] ∧ ∀ c ∈ w.toList, isWordChar c = true
  | _ => True

theorem delimits_nil : Delimits [] :=
  fun _ _ eq => by cases eq

theorem delimits_cons (h : isWordChar c = false) : Delimits (c :: rest) := by
  rintro d us eq
  cases eq
  exact h

/-- What a character of a word is not. -/
theorem isWordChar_iff :
    isWordChar c = true ↔
      Text.isBlank c = false ∧ single? c = none ∧ c ≠ '&' ∧ c ≠ '|' := by
  unfold isWordChar
  simp [and_assoc]

/-- Letters and digits belong to words. -/
theorem isWordChar_of_isAlphanum (h : c.isAlphanum = true) : isWordChar c = true := by
  have ne (d : Char) (hd : d.isAlphanum = false) : c ≠ d := by
    rintro rfl
    rw [h] at hd
    cases hd
  refine isWordChar_iff.2
    ⟨Text.not_isBlank_of_isAlphanum h, ?_, ne '&' (by decide), ne '|' (by decide)⟩
  -- the characters that are tokens of their own are neither
  unfold single?
  split
  case h_7 => rfl
  all_goals cases h

/-! ## One token -/

theorem continueText_of_isWordChar (h : isWordChar c = true) :
    continueText reversed (c :: rest) = continueText (c :: reversed) rest := by
  obtain ⟨notBlank, notSingle, notAnd, notOr⟩ := isWordChar_iff.1 h
  rw [continueText, notSingle]
  · simp [notBlank]
  · exact notAnd
  · exact notOr
  · exact fun _ eq _ => notAnd eq
  · exact fun _ eq _ => notOr eq

/-- The characters of a word are gone through. -/
theorem continueText_append (h : ∀ c ∈ w, isWordChar c = true) :
    continueText reversed (w ++ rest) = continueText (w.reverse ++ reversed) rest := by
  induction w generalizing reversed with
  | nil => rfl
  | cons c w ih =>
    rw [List.cons_append, continueText_of_isWordChar (h c List.mem_cons_self),
      ih fun d hd => h d (List.mem_cons_of_mem _ hd), List.reverse_cons, List.append_assoc]
    rfl

/-- Reading begins with no word. -/
@[simp]
theorem consWord_nil : consWord [] ts = ts := rfl

/-- What delimits a word ends it, and is read as it is without the word. -/
theorem continueText_of_delimits (ends : Delimits rest) :
    continueText reversed rest = (ofText rest).map (consWord reversed) := by
  unfold ofText
  fun_cases continueText reversed rest
  case case1 => rfl
  case case2 rest =>
    rw [continueText]
    cases continueText [] rest <;> rfl
  case case3 rest single =>
    rw [continueText]
    · rfl
    · exact single
  case case4 rest =>
    rw [continueText]
    cases continueText [] rest <;> rfl
  case case5 rest single =>
    rw [continueText]
    · rfl
    · exact single
  case case6 c rest notAnd notAnd' notOr notOr' t ht =>
    rw [continueText, ht]
    · cases continueText [] rest <;> rfl
    all_goals assumption
  case case7 c rest notAnd notAnd' notOr notOr' none blank =>
    rw [continueText, none]
    · rw [if_pos blank]
      cases continueText [] rest <;> rfl
    all_goals assumption
  case case8 c rest notAnd notAnd' notOr notOr' none notBlank =>
    -- a character that continues a word does not delimit it
    have wordChar : isWordChar c = true :=
      isWordChar_iff.2 ⟨by simpa using notBlank, none, notAnd', notOr'⟩
    rw [ends c rest rfl] at wordChar
    cases wordChar

/-- A character that is a token of its own ends a word, and is read as that
token. -/
theorem continueText_cons_of_single? (h : single? c = some t) :
    continueText reversed (c :: rest) = (ofText rest).map (consWord reversed <| t :: ·) := by
  have other : c ≠ '&' ∧ c ≠ '|' := by
    constructor
    all_goals
      rintro rfl
      cases h
  rw [continueText, h]
  · rfl
  · exact other.1
  · exact other.2
  · exact fun _ eq _ => other.1 eq
  · exact fun _ eq _ => other.2 eq

theorem ofText_cons_of_single? (h : single? c = some t) :
    ofText (c :: rest) = (ofText rest).map (t :: ·) :=
  continueText_cons_of_single? h

/-- A blank ends a word. -/
theorem continueText_cons_of_isBlank (h : Text.isBlank c = true) :
    continueText reversed (c :: rest) = (ofText rest).map (consWord reversed) := by
  have other (d : Char) (hd : Text.isBlank d = false) : c ≠ d := by
    rintro rfl
    rw [h] at hd
    cases hd
  have none : single? c = none := by
    unfold single?
    split
    case h_7 => rfl
    all_goals cases h
  rw [continueText, none]
  · exact if_pos h
  · exact other '&' rfl
  · exact other '|' rfl
  · exact fun _ eq _ => other '&' rfl eq
  · exact fun _ eq _ => other '|' rfl eq

/-- Blanks in front of a text go for nothing. -/
theorem ofText_append_of_isBlank {blanks : List Char} (h : ∀ c ∈ blanks, Text.isBlank c = true) :
    ofText (blanks ++ rest) = ofText rest := by
  induction blanks with
  | nil => rfl
  | cons c blanks ih =>
    have front : ofText (c :: (blanks ++ rest)) = (ofText (blanks ++ rest)).map (consWord []) :=
      continueText_cons_of_isBlank (h c List.mem_cons_self)
    rw [List.cons_append, front, ih fun d hd => h d (List.mem_cons_of_mem _ hd)]
    cases ofText rest <;> rfl

/-- **A token is read as it is written**, in front of what delimits it if it
is a word. -/
theorem ofText_text_append (proper : t.IsProper) (ends : t.isWord = true → Delimits rest) :
    ofText (t.text.toList ++ rest) = (ofText rest).map (t :: ·) := by
  cases t with
  | word w =>
    obtain ⟨ne, chars⟩ := proper
    show continueText [] (w.toList ++ rest) = _
    rw [continueText_append chars, List.append_nil, continueText_of_delimits (ends rfl)]
    have word (ts : List Token) : consWord w.toList.reverse ts = .word w :: ts := by
      rw [consWord, if_neg (mt List.reverse_eq_nil_iff.1 ne), List.reverse_reverse,
        String.ofList_toList]
    rw [funext word]
  | and => exact continueText.eq_2 [] rest
  | or => exact continueText.eq_4 [] rest
  | _ => exact ofText_cons_of_single? rfl

/-! ## Tokens one behind the other -/

/-- **The words before which a comma is missing**: those that stand directly
behind a domain, with or without a host ID. `separated` tells whether the
first token stands behind anything else. -/
def missingCommas (separated : Bool) : List Token → List String
  | [] => []
  | .word w :: ts => if separated then missingCommas false ts else w :: missingCommas false ts
  | .rightBracket :: ts => missingCommas false ts
  | _ :: ts => missingCommas true ts

/-- Fewer commas are missing if the first token is separated. -/
theorem missingCommas_true_subset (separated : Bool) :
    missingCommas true ts ⊆ missingCommas separated ts := by
  cases separated with
  | true => exact List.Subset.refl _
  | false =>
    cases ts with
    | nil => exact List.Subset.refl _
    | cons t ts =>
      cases t with
      | word w => exact List.subset_cons_self _ _
      | _ => exact List.Subset.refl _

/-- Fewer commas are missing in what follows some tokens. -/
theorem missingCommas_append_subset (separated : Bool) (read : List Token) :
    missingCommas true ts ⊆ missingCommas separated (read ++ ts) := by
  induction read generalizing separated with
  | nil => exact missingCommas_true_subset separated
  | cons t read ih =>
    cases t with
    | word w =>
      cases separated with
      | true => exact ih false
      | false => exact List.Subset.trans (ih false) (List.subset_cons_self _ _)
    | rightBracket => exact ih false
    | _ => exact ih true

/-- No more commas are missing in what some tokens begin with. -/
theorem missingCommas_subset_append (separated : Bool) (ts rest : List Token) :
    missingCommas separated ts ⊆ missingCommas separated (ts ++ rest) := by
  induction ts generalizing separated with
  | nil => exact List.nil_subset _
  | cons t ts ih =>
    cases t with
    | word w =>
      cases separated with
      | true => exact ih false
      | false => exact List.cons_subset_cons _ (ih false)
    | rightBracket => exact ih false
    | _ => exact ih true

/-- The text of a token that is no word delimits. -/
theorem delimits_text_append (h : t.isWord = false) (rest : List Char) :
    Delimits (t.text.toList ++ rest) := by
  cases t with
  | word w => cases h
  | _ => exact delimits_cons rfl

/-- Where no comma is missing, what stands behind a word delimits it. -/
theorem delimits_flatMap_text (h : missingCommas false ts = []) :
    Delimits (ts.flatMap (·.text.toList)) := by
  cases ts with
  | nil => exact delimits_nil
  | cons t ts =>
    rw [List.flatMap_cons]
    refine delimits_text_append ?_ _
    cases t with
    | word w => cases h
    | _ => rfl

/-- **Tokens are read as they are written**, one behind the other, where no
comma is missing. -/
theorem ofText_flatMap_text {separated : Bool} (proper : ∀ t ∈ ts, t.IsProper)
    (commas : missingCommas separated ts = []) : ofText (ts.flatMap (·.text.toList)) = .ok ts := by
  induction ts generalizing separated with
  | nil => rfl
  | cons t ts ih =>
    have properRest : ∀ u ∈ ts, u.IsProper := fun u hu => proper u (List.mem_cons_of_mem _ hu)
    have commasRest : ∃ separated, missingCommas separated ts = [] := by
      cases t with
      | word w =>
        cases separated with
        | true => exact ⟨false, commas⟩
        | false => cases commas
      | rightBracket => exact ⟨false, commas⟩
      | _ => exact ⟨true, commas⟩
    have ends (word : t.isWord = true) : Delimits (ts.flatMap (·.text.toList)) := by
      refine delimits_flatMap_text ?_
      cases t with
      | word w =>
        cases separated with
        | true => exact commas
        | false => cases commas
      | _ => cases word
    obtain ⟨_, commasRest⟩ := commasRest
    rw [List.flatMap_cons, ofText_text_append (proper t List.mem_cons_self) ends,
      ih properRest commasRest]
    rfl

/-! ## Texts put together -/

theorem consWord_append (reversed : List Char) (us vs : List Token) :
    consWord reversed (us ++ vs) = consWord reversed us ++ vs := by
  unfold consWord
  split <;> rfl

/-- What is read in front of a text stays in front when tokens are put
before it. -/
theorem map_append_of_map {x y z : Except LexError (List Token)} {f : List Token → List Token}
    (hf : ∀ us vs, f (us ++ vs) = f us ++ vs) (h : x.map f = .ok ts)
    (more : ∀ us, x = .ok us → y = z.map (us ++ ·)) : y.map f = z.map (ts ++ ·) := by
  cases x with
  | error e => cases h
  | ok us =>
    obtain rfl := Except.ok.inj h
    rw [more us rfl]
    cases z with
    | error e => rfl
    | ok vs => exact congrArg Except.ok (hf us vs)

/-- **A text that has tokens keeps them** in front of what delimits a word:
a word at its end ends there, and its operators are double already. -/
theorem continueText_append_of_delimits {text : List Char} (ends : Delimits rest)
    (h : continueText reversed text = .ok ts) :
    continueText reversed (text ++ rest) = (ofText rest).map (ts ++ ·) := by
  fun_induction continueText reversed text generalizing ts with
  | case1 reversed =>
    obtain rfl := Except.ok.inj h
    rw [List.nil_append, continueText_of_delimits ends]
    exact congrArg (fun f => (ofText rest).map f) (funext fun vs => consWord_append reversed [] vs)
  | case2 reversed text ih =>
    show continueText reversed ('&' :: '&' :: (text ++ rest)) = _
    rw [continueText]
    exact map_append_of_map (fun us vs => consWord_append reversed (and :: us) vs) h fun _ => ih
  | case3 reversed text single => cases h
  | case4 reversed text ih =>
    show continueText reversed ('|' :: '|' :: (text ++ rest)) = _
    rw [continueText]
    exact map_append_of_map (fun us vs => consWord_append reversed (or :: us) vs) h fun _ => ih
  | case5 reversed text single => cases h
  | case6 reversed c text _ _ _ _ t ht ih =>
    rw [List.cons_append, continueText_cons_of_single? ht]
    exact map_append_of_map (fun us vs => consWord_append reversed (t :: us) vs) h fun _ => ih
  | case7 reversed c text _ _ _ _ none blank ih =>
    rw [List.cons_append, continueText_cons_of_isBlank blank]
    exact map_append_of_map (consWord_append reversed) h fun _ => ih
  | case8 reversed c text _ notAnd _ notOr none notBlank ih =>
    rw [List.cons_append, continueText_of_isWordChar]
    · exact ih h
    · exact isWordChar_iff.2 ⟨by simpa using notBlank, none, notAnd, notOr⟩

theorem ofText_append_of_delimits {text : List Char} (ends : Delimits rest)
    (h : ofText text = .ok ts) : ofText (text ++ rest) = (ofText rest).map (ts ++ ·) :=
  continueText_append_of_delimits ends h

/-- What is put in front of tokens stays in front when others are put behind
them. -/
theorem map_bind_append {x y : Except LexError (List Token)} {f : List Token → List Token}
    (hf : ∀ us vs, f (us ++ vs) = f us ++ vs) :
    (x.bind fun us => y.map (us ++ comma :: ·)).map f =
      (x.map f).bind fun us => y.map (us ++ comma :: ·) := by
  cases x with
  | error e => rfl
  | ok us =>
    cases y with
    | error e => rfl
    | ok vs => exact congrArg Except.ok (hf us (comma :: vs))

/-- What begins with no operator still does so when a comma follows it. -/
theorem append_comma_ne_cons {c : Char} (hc : c ≠ ',') {text rest : List Char}
    (h : ∀ us, text = c :: us → False) (us : List Char) : text ++ ',' :: rest = c :: us → False := by
  cases text with
  | nil => exact fun eq => hc (List.cons.inj eq).1.symm
  | cons d text => exact fun eq => h text (by rw [(List.cons.inj eq).1])

/-- **A comma between two texts** stands between their tokens, whatever the
texts are: the first thing that is wrong with either is what is wrong with
the whole. -/
theorem continueText_append_comma (reversed text rest : List Char) :
    continueText reversed (text ++ ',' :: rest) =
      (continueText reversed text).bind fun us => (ofText rest).map (us ++ comma :: ·) := by
  fun_induction continueText reversed text with
  | case1 reversed =>
    rw [List.nil_append, continueText_of_delimits (delimits_cons rfl),
      ofText_cons_of_single? rfl]
    cases ofText rest with
    | error e => rfl
    | ok vs => exact congrArg Except.ok (consWord_append reversed [] (comma :: vs))
  | case2 reversed text ih =>
    show continueText reversed ('&' :: '&' :: (text ++ ',' :: rest)) = _
    rw [continueText, ih]
    exact map_bind_append fun us vs => consWord_append reversed (and :: us) vs
  | case3 reversed text single =>
    show continueText reversed ('&' :: (text ++ ',' :: rest)) = _
    rw [continueText]
    · rfl
    · exact append_comma_ne_cons (by decide) single
  | case4 reversed text ih =>
    show continueText reversed ('|' :: '|' :: (text ++ ',' :: rest)) = _
    rw [continueText, ih]
    exact map_bind_append fun us vs => consWord_append reversed (or :: us) vs
  | case5 reversed text single =>
    show continueText reversed ('|' :: (text ++ ',' :: rest)) = _
    rw [continueText]
    · rfl
    · exact append_comma_ne_cons (by decide) single
  | case6 reversed c text _ _ _ _ t ht ih =>
    rw [List.cons_append, continueText_cons_of_single? ht, ofText, ih]
    exact map_bind_append fun us vs => consWord_append reversed (t :: us) vs
  | case7 reversed c text _ _ _ _ none blank ih =>
    rw [List.cons_append, continueText_cons_of_isBlank blank, ofText, ih]
    exact map_bind_append (consWord_append reversed)
  | case8 reversed c text _ notAnd _ notOr none notBlank ih =>
    rw [List.cons_append, continueText_of_isWordChar, ih]
    exact isWordChar_iff.2 ⟨by simpa using notBlank, none, notAnd, notOr⟩

/-- **A text with a comma** has tokens if what stands before and behind the
comma has, and its tokens are theirs with the comma between them. -/
theorem ofText_append_comma_eq_ok_iff {text rest : List Char} :
    ofText (text ++ ',' :: rest) = .ok ts ↔
      ∃ us vs, ofText text = .ok us ∧ ofText rest = .ok vs ∧ ts = us ++ comma :: vs := by
  unfold ofText
  rw [continueText_append_comma, ofText]
  cases continueText [] text <;> cases continueText [] rest <;>
    simp [Except.bind, Except.map, eq_comm]

end RecordPlan.Token
