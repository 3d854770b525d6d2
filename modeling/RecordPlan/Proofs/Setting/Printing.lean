import RecordPlan.Proofs.Domain.Basic
import RecordPlan.Proofs.Setting.Gap
import RecordPlan.Proofs.Setting.WordList

/-!
# Printed predicates are read back

`Predicate.print` writes a predicate as an expression in which nothing
depends on how close an operator binds: whatever an operator applies to
stands in parentheses. So the tokens of the text (`Predicate.tokens`) follow
the shape of the predicate, and each part of it is a term of its own
(`Predicate.derives_tokens`). In particular a predicate that is negated
twice, or one that associates to the right, is not taken for another one:
the reader makes pairs of `!` cancel out and chains associate to the left
only where there are no parentheses between them.

A predicate is read back if its domains have been parsed, and no comma is
missing (`printed_predicates_are_read`). Its domains may be spelled like
keywords, since they stand in a list, where there are none.
-/

namespace RecordPlan

/-- The characters of the names of domains belong to words. -/
theorem isWordChar_of_isStored {c : Char} (h : Name.IsStored c ∨ c = '.' ∨ c = '*') :
    Token.isWordChar c = true := by
  rcases h with stored | rfl | rfl
  · rcases stored with lower | digit | hyphen
    · exact Token.isWordChar_of_isAlphanum (Text.isAlphanum_iff.2 (.inr (.inl lower)))
    · exact Token.isWordChar_of_isAlphanum (Text.isAlphanum_iff.2 (.inr (.inr digit)))
    · obtain rfl : c = '-' := Char.toNat_inj.1 hyphen
      rfl
  · rfl
  · rfl

/-- The name of a domain that has been parsed is a word. -/
theorem Domain.IsParsed.isProper_dnsName {d : Domain} (parsed : d.IsParsed) :
    (Token.word d.dnsName).IsProper :=
  ⟨parsed.dnsName_ne_nil, fun _ hc => isWordChar_of_isStored (parsed.isStored_of_mem_dnsName hc)⟩

namespace Predicate

/-- The domains that a predicate names. -/
def domains : Predicate → List Domain
  | .const _ => []
  | .is targets => targets
  | .sub targets => targets
  | .not p => p.domains
  | .and left right => left.domains ++ right.domains
  | .or left right => left.domains ++ right.domains

/-- The text of a list of domains. -/
def printList (ds : List Domain) : String := ",".intercalate (ds.map Domain.dnsName)

/-- **The text of a predicate.** -/
def print : Predicate → String
  | .const value => if value then "true" else "false"
  | .is targets => "is(" ++ printList targets ++ ")"
  | .sub targets => "sub(" ++ printList targets ++ ")"
  | .not p => "!(" ++ p.print ++ ")"
  | .and left right => "(" ++ left.print ++ ")&&(" ++ right.print ++ ")"
  | .or left right => "(" ++ left.print ++ ")||(" ++ right.print ++ ")"

/-- Tokens in parentheses. -/
def inParentheses (ts : List Token) : List Token := .leftParen :: (ts ++ [.rightParen])

/-- The tokens of a list of domains. -/
def listTokens (ds : List Domain) : List Token :=
  (ds.map fun d => Token.word d.dnsName).intersperse .comma

/-- The tokens of the text of a predicate. -/
def tokens : Predicate → List Token
  | .const value => [.word (if value then "true" else "false")]
  | .is targets => .word "is" :: inParentheses (listTokens targets)
  | .sub targets => .word "sub" :: inParentheses (listTokens targets)
  | .not p => .not :: inParentheses p.tokens
  | .and left right => inParentheses left.tokens ++ .and :: inParentheses right.tokens
  | .or left right => inParentheses left.tokens ++ .or :: inParentheses right.tokens

variable {p : Predicate} {ds : List Domain}

/-! ## The text and its tokens -/

theorem listTokens_eq (ds : List Domain) : listTokens ds = wordTokens (ds.map Domain.dnsName) := by
  rw [listTokens, wordTokens, List.map_map]
  rfl

theorem toList_printList (ds : List Domain) :
    (printList ds).toList = (listTokens ds).flatMap (·.text.toList) := by
  rw [listTokens_eq]
  exact toList_intercalate_comma _

/-- **The text of a predicate** is that of its tokens, one behind the
other. -/
theorem toList_print (p : Predicate) : p.print.toList = p.tokens.flatMap (·.text.toList) := by
  induction p with
  | const value => cases value <;> rfl
  | is targets => simp [print, tokens, inParentheses, Token.text, toList_printList]
  | sub targets => simp [print, tokens, inParentheses, Token.text, toList_printList]
  | not p ih => simp [print, tokens, inParentheses, Token.text, ih]
  | and left right ihLeft ihRight =>
    simp [print, tokens, inParentheses, Token.text, ihLeft, ihRight]
  | or left right ihLeft ihRight =>
    simp [print, tokens, inParentheses, Token.text, ihLeft, ihRight]

/-! ## Reading the tokens -/

theorem missingCommas_listTokens (ds : List Domain) (rest : List Token) :
    Token.missingCommas true (listTokens ds ++ .rightParen :: rest) = Token.missingCommas true rest := by
  rw [listTokens_eq]
  exact missingCommas_wordTokens_append _ rest

/-- No comma is missing in the text of a predicate, nor behind it where
something else than a domain may follow. -/
theorem missingCommas_tokens (p : Predicate) (rest : List Token) :
    Token.missingCommas true (p.tokens ++ .rightParen :: rest) = Token.missingCommas true rest := by
  induction p generalizing rest with
  | const value => rfl
  | is targets =>
    simp only [tokens, inParentheses, List.cons_append, List.append_assoc]
    exact missingCommas_listTokens targets (.rightParen :: rest)
  | sub targets =>
    simp only [tokens, inParentheses, List.cons_append, List.append_assoc]
    exact missingCommas_listTokens targets (.rightParen :: rest)
  | not p ih =>
    simp only [tokens, inParentheses, List.cons_append, List.append_assoc]
    exact ih (.rightParen :: rest)
  | and left right ihLeft ihRight =>
    simp only [tokens, inParentheses, List.cons_append, List.append_assoc]
    exact (ihLeft _).trans (ihRight (.rightParen :: rest))
  | or left right ihLeft ihRight =>
    simp only [tokens, inParentheses, List.cons_append, List.append_assoc]
    exact (ihLeft _).trans (ihRight (.rightParen :: rest))

/-- A printed list of domains that have been parsed lists these domains. -/
theorem listing_listTokens (parsed : ∀ d ∈ ds, d.IsParsed) :
    Listing none (listTokens ds) (ds.map (⟨·, none⟩)) := by
  rw [listTokens_eq]
  refine listing_wordTokens ?_
  rw [List.map_map]
  exact List.map_congr_left fun d hd => (parsed d hd).parse_dnsName

theorem derives_list (parsed : ∀ d ∈ ds, d.IsParsed) :
    Derives .atom (.word "is" :: inParentheses (listTokens ds)) (.is ds) ∧
      Derives .atom (.word "sub" :: inParentheses (listTokens ds)) (.sub ds) := by
  have list := listing_listTokens parsed
  have is : Derives .atom _ (.is _) := .is (w := "is") rfl list
  have sub : Derives .atom _ (.sub _) := .sub (w := "sub") rfl list
  rw [map_domain_map] at is sub
  exact ⟨is, sub⟩

/-- **The tokens of a predicate denote it**, by induction on the
predicate. -/
theorem derives_tokens (parsed : ∀ d ∈ p.domains, d.IsParsed) :
    Derives .disjunction p.tokens p := by
  induction p with
  | const value =>
    cases value with
    | true => exact (Derives.true (by decide)).disjunction
    | false => exact (Derives.false (by decide)).disjunction
  | is targets => exact (derives_list parsed).1.disjunction
  | sub targets => exact (derives_list parsed).2.disjunction
  | not p ih => exact .ofConjunction (.ofNegation (ih parsed).parentheses.marked)
  | and left right ihLeft ihRight =>
    have derivesLeft := ihLeft fun d hd => parsed d (List.mem_append_left _ hd)
    have derivesRight := ihRight fun d hd => parsed d (List.mem_append_right _ hd)
    exact .ofConjunction (derivesLeft.parentheses.conjunction.and derivesRight.parentheses.negation)
  | or left right ihLeft ihRight =>
    have derivesLeft := ihLeft fun d hd => parsed d (List.mem_append_left _ hd)
    have derivesRight := ihRight fun d hd => parsed d (List.mem_append_right _ hd)
    exact derivesLeft.parentheses.disjunction.or derivesRight.parentheses.conjunction

/-! ## Words -/

theorem isProper_of_mem_inParentheses {ts : List Token} (proper : ∀ t ∈ ts, t.IsProper)
    {t : Token} (ht : t ∈ inParentheses ts) : t.IsProper := by
  rw [inParentheses, List.mem_cons, List.mem_append, List.mem_singleton] at ht
  rcases ht with rfl | inside | rfl
  · trivial
  · exact proper t inside
  · trivial

theorem isProper_of_mem_listTokens (parsed : ∀ d ∈ ds, d.IsParsed) {t : Token}
    (ht : t ∈ listTokens ds) : t.IsProper := by
  rw [listTokens_eq] at ht
  refine isProper_of_mem_wordTokens (fun w mem => ?_) ht
  obtain ⟨d, hd, rfl⟩ := List.mem_map.1 mem
  exact (parsed d hd).isProper_dnsName

/-- The words of a predicate are words. -/
theorem isProper_of_mem_tokens (parsed : ∀ d ∈ p.domains, d.IsParsed) {t : Token}
    (ht : t ∈ p.tokens) : t.IsProper := by
  induction p generalizing t with
  | const value =>
    obtain rfl := List.mem_singleton.1 ht
    cases value
    all_goals exact ⟨nofun, List.all_eq_true.1 rfl⟩
  | is targets =>
    rcases List.mem_cons.1 ht with rfl | list
    · exact ⟨nofun, List.all_eq_true.1 rfl⟩
    · exact isProper_of_mem_inParentheses (fun _ => isProper_of_mem_listTokens parsed) list
  | sub targets =>
    rcases List.mem_cons.1 ht with rfl | list
    · exact ⟨nofun, List.all_eq_true.1 rfl⟩
    · exact isProper_of_mem_inParentheses (fun _ => isProper_of_mem_listTokens parsed) list
  | not p ih =>
    rcases List.mem_cons.1 ht with rfl | inside
    · trivial
    · exact isProper_of_mem_inParentheses (fun _ => ih parsed) inside
  | and left right ihLeft ihRight | or left right ihLeft ihRight =>
    have properLeft (u : Token) (hu : u ∈ left.tokens) : u.IsProper :=
      ihLeft (fun d hd => parsed d (List.mem_append_left _ hd)) hu
    have properRight (u : Token) (hu : u ∈ right.tokens) : u.IsProper :=
      ihRight (fun d hd => parsed d (List.mem_append_right _ hd)) hu
    rcases List.mem_append.1 ht with inLeft | ht
    · exact isProper_of_mem_inParentheses properLeft inLeft
    rcases List.mem_cons.1 ht with rfl | inRight
    · trivial
    · exact isProper_of_mem_inParentheses properRight inRight

/-! ## Reading the text -/

/-- A closing parenthesis behind tokens makes no comma less missing. -/
theorem missingCommas_eq_nil_of_rightParen {ts : List Token}
    (h : Token.missingCommas true (ts ++ [.rightParen]) = []) : Token.missingCommas true ts = [] :=
  List.subset_nil.1 (h ▸ Token.missingCommas_subset_append true ts [.rightParen])

theorem missingCommas_tokens_eq_nil (p : Predicate) : Token.missingCommas true p.tokens = [] :=
  missingCommas_eq_nil_of_rightParen (missingCommas_tokens p [])

theorem missingCommas_listTokens_eq_nil (ds : List Domain) :
    Token.missingCommas true (listTokens ds) = [] :=
  missingCommas_eq_nil_of_rightParen (missingCommas_listTokens ds [])

/-- The text of a list of domains has its tokens. -/
theorem ofText_printList (parsed : ∀ d ∈ ds, d.IsParsed) :
    Token.ofText (printList ds).toList = .ok (listTokens ds) := by
  rw [toList_printList]
  exact Token.ofText_flatMap_text (fun _ => isProper_of_mem_listTokens parsed)
    (missingCommas_listTokens_eq_nil ds)

/-- The text of a predicate has its tokens. -/
theorem ofText_print (parsed : ∀ d ∈ p.domains, d.IsParsed) :
    Token.ofText p.print.toList = .ok p.tokens := by
  rw [toList_print]
  exact Token.ofText_flatMap_text (fun _ => isProper_of_mem_tokens parsed)
    (missingCommas_tokens_eq_nil p)

end Predicate

/-- **Every predicate has a text**, and what is read from it is the predicate
itself: whatever its shape, if its domains have been parsed, its text is read
without a message. -/
theorem printed_predicates_are_read (p : Predicate) (parsed : ∀ d ∈ p.domains, d.IsParsed)
    (key : String) (j : Journal) :
    (readExpression key (Text.Utf8.encode p.print.toList)).run.run j = (.ok p, j) := by
  have tokens : Token.ofBytes (Text.Utf8.encode p.print.toList) = .ok p.tokens :=
    Token.ofBytes_eq_ok_iff.2 ⟨_, rfl, Predicate.ofText_print parsed⟩
  have result : (scanExpression p.tokens).result = .ok p :=
    scanExpression_result_eq_ok.2 (Predicate.derives_tokens parsed)
  have gaps : (scanExpression p.tokens).gaps = [] := by
    have noted : (scanExpression p.tokens).gaps ⊆ Token.missingCommas true p.tokens :=
      gaps_scanExpression_subset
    rw [Predicate.missingCommas_tokens_eq_nil] at noted
    exact List.subset_nil.1 noted
  exact readSetting_of_silent tokens result gaps j

/-- A predicate that is negated twice, associates to the right, and names
domains that are spelled like a keyword and a literal is read back. -/
theorem nested_predicate_is_read :
    let p : Predicate := .or (.const false)
      (.or (.not (.not (.is [.fqdn "sub", .wildcard "true"]))) (.and (.sub []) (.const true)))
    (∀ d ∈ p.domains, d.IsParsed) ∧
      (readExpression "DDNS_PROXIED" (Text.Utf8.encode
        "(false)||((!(!(is(sub,*.true))))||((sub())&&(true)))".toList)).run.run .empty =
          (.ok p, .empty) := by
  intro p
  have parsed : ∀ d ∈ p.domains, d.IsParsed := by
    rintro d (_ | ⟨_, _ | ⟨_, ⟨⟩⟩⟩)
    · exact ⟨"sub", rfl⟩
    · exact ⟨"*.True", rfl⟩
  exact ⟨parsed, printed_predicates_are_read p parsed "DDNS_PROXIED" .empty⟩

end RecordPlan
