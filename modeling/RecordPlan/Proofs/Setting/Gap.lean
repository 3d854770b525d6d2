import RecordPlan.Proofs.Setting.Expression
import RecordPlan.Proofs.Setting.Token

/-!
# Where commas are missing

Readers note the words before which a comma is missing. They note no words
but those that stand directly behind a domain (`gaps_entries_subset`,
`gaps_scanExpression_subset`), whether they come to the end of the tokens or
not. So nothing is noted where `Token.missingCommas` names no words.
-/

namespace RecordPlan

open Token (missingCommas missingCommas_true_subset missingCommas_append_subset)

variable {α β : Type} {words : List String} {ts rest : List Token}

/-! ## Notes of readers one after another -/

namespace Scan

theorem gaps_pure_subset (a : α) : (Scan.pure a).gaps ⊆ words := List.nil_subset _

theorem gaps_return_subset (a : α) : (pure a : Scan α).gaps ⊆ words := List.nil_subset _

theorem gaps_error_subset (e : ValueError) : (Scan.error e : Scan α).gaps ⊆ words :=
  List.nil_subset _

theorem gaps_ofExcept_subset (r : Except ValueError α) : (ofExcept r).gaps ⊆ words :=
  List.nil_subset _

/-- One reader after another notes what the two note. -/
theorem gaps_bind_subset {x : Scan α} {f : α → Scan β} (first : x.gaps ⊆ words)
    (next : ∀ a, x.result = .ok a → (f a).gaps ⊆ words) : (x >>= f).gaps ⊆ words := by
  show (Scan.bind x f).gaps ⊆ words
  unfold Scan.bind
  cases h : x.result with
  | error e => exact first
  | ok a => exact List.append_subset.2 ⟨first, next a h⟩

/-- The second reader takes what the first one leaves. -/
theorem gaps_bind_leaves_subset {P : List Token → Prop} {x : Scan (α × Subtype P)}
    {f : α × Subtype P → Scan β} (first : x.gaps ⊆ words)
    (next : ∀ a r, x.Leaves a r.1 → (f (a, r)).gaps ⊆ words) : (x >>= f).gaps ⊆ words := by
  refine gaps_bind_subset first ?_
  rintro ⟨a, r⟩ h
  exact next a r ⟨r, h, rfl⟩

end Scan

theorem gaps_expect_subset (t : Token) (ts : List Token) : (expect t ts).gaps ⊆ words := by
  cases ts with
  | nil => exact Scan.gaps_error_subset _
  | cons u ts =>
    rw [expect]
    split
    · exact Scan.gaps_pure_subset _
    · exact Scan.gaps_error_subset _

theorem gaps_finish_subset (ts : List Token) : (finish ts).gaps ⊆ words := by
  cases ts with
  | nil => exact Scan.gaps_pure_subset _
  | cons t ts => exact Scan.gaps_error_subset _

/-! ## Lists of domains -/

variable {prefixLen : Option UInt8} {n : UInt8}

theorem gaps_hostIdInBrackets_subset : (hostIdInBrackets n ts).gaps ⊆ words := by
  cases ts with
  | nil => exact Scan.gaps_error_subset _
  | cons t ts =>
    cases t with
    | word w =>
      refine Scan.gaps_bind_subset (Scan.gaps_ofExcept_subset _) fun id _ => ?_
      exact Scan.gaps_bind_subset (gaps_expect_subset _ _) fun _ _ => Scan.gaps_return_subset _
    | _ => exact Scan.gaps_error_subset _

theorem gaps_optionalHostId_subset : (optionalHostId prefixLen ts).gaps ⊆ words := by
  unfold optionalHostId
  split
  · exact Scan.gaps_bind_subset gaps_hostIdInBrackets_subset fun _ _ => Scan.gaps_return_subset _
  · exact Scan.gaps_pure_subset _

/-- Behind a domain a comma is missing, whether it has a host ID or not. -/
theorem missingCommas_of_optionalHostId {id : Option HostId}
    (h : (optionalHostId prefixLen ts).Leaves id rest) :
    missingCommas false rest ⊆ missingCommas false ts := by
  rcases optionalHostId_leaves_iff.1 h with ⟨n, v, -, rfl, -⟩ | ⟨-, -, rfl⟩
  · exact List.Subset.refl _
  · exact List.Subset.refl _

/-- A word that is not separated is noted, and then read as one that is. -/
theorem entries_word_false (w : String) : entries prefixLen false (.word w :: ts) =
    Scan.gap w >>= fun _ => entries prefixLen true (.word w :: ts) := by
  rw [entries, entries]
  rfl

/-- **The reader of lists** notes only words before which a comma is
missing. -/
theorem gaps_entries_subset {separated : Bool} :
    (entries prefixLen separated ts).gaps ⊆ missingCommas separated ts := by
  induction separated, ts using entries.induct prefixLen with
  | case1 separated =>
    rw [entries]
    exact Scan.gaps_pure_subset _
  | case2 separated us =>
    rw [entries]
    exact Scan.gaps_pure_subset _
  | case3 separated us ih =>
    rw [entries]
    exact Scan.gaps_bind_subset ih fun _ _ => Scan.gaps_return_subset _
  | case4 separated w us notSeparated ih | case5 separated w us notSeparated ih =>
    -- behind the word it makes no difference whether a comma was missing before
    have read : (entries prefixLen true (.word w :: us)).gaps ⊆ missingCommas false us := by
      rw [entries]
      refine Scan.gaps_bind_subset (Scan.gaps_ofExcept_subset _) fun d _ => ?_
      refine Scan.gaps_bind_leaves_subset gaps_optionalHostId_subset fun id mid leaves => ?_
      refine Scan.gaps_bind_subset ?_ fun _ _ => Scan.gaps_return_subset _
      exact List.Subset.trans (ih mid) (missingCommas_of_optionalHostId leaves)
    cases separated with
    | true => exact read
    | false =>
      rw [entries_word_false]
      refine Scan.gaps_bind_subset ?_ fun _ _ => List.Subset.trans read (List.subset_cons_self _ _)
      exact List.cons_subset.2 ⟨List.mem_cons_self, List.nil_subset _⟩
  | case6 separated t us h₁ h₂ h₃ =>
    rw [entries]
    · exact Scan.gaps_error_subset _
    all_goals assumption

theorem gaps_scanEntries_subset : (scanEntries n ts).gaps ⊆ missingCommas true ts := by
  refine Scan.gaps_bind_subset gaps_entries_subset fun _ _ => ?_
  exact Scan.gaps_bind_subset (gaps_finish_subset _) fun _ _ => Scan.gaps_return_subset _

theorem gaps_scanDomains_subset : (scanDomains ts).gaps ⊆ missingCommas true ts := by
  refine Scan.gaps_bind_subset gaps_entries_subset fun _ _ => ?_
  exact Scan.gaps_bind_subset (gaps_finish_subset _) fun _ _ => Scan.gaps_return_subset _

/-! ## Expressions -/

theorem gaps_arguments_subset : (arguments ts).gaps ⊆ missingCommas true ts := by
  unfold arguments
  refine Scan.gaps_bind_subset (gaps_expect_subset _ _) fun r hr => ?_
  have same : missingCommas true ts = missingCommas true (.leftParen :: r.1) :=
    congrArg (missingCommas true) (expect_result_eq_ok.1 hr)
  rw [same]
  show _ ⊆ missingCommas true r.1
  refine Scan.gaps_bind_leaves_subset gaps_entries_subset fun _ _ _ => ?_
  exact Scan.gaps_bind_subset (gaps_expect_subset _ _) fun _ _ => Scan.gaps_return_subset _

/-- A reader that goes on with what another has left meets no more missing
commas than there are in all. -/
theorem gaps_bind_readsOnly_subset {P : List Token → Prop} {x : Scan (Predicate × Subtype P)}
    {describes : List Token → Predicate → Prop} {f : Predicate × Subtype P → Scan β}
    (only : ReadsOnly x ts describes) (first : x.gaps ⊆ missingCommas true ts)
    (next : ∀ p r, (f (p, r)).gaps ⊆ missingCommas true r.1) :
    (x >>= f).gaps ⊆ missingCommas true ts := by
  refine Scan.gaps_bind_leaves_subset first fun p r leaves => ?_
  obtain ⟨read, eq, -⟩ := only p r.1 leaves
  rw [eq]
  exact List.Subset.trans (next p r) (missingCommas_append_subset true read)

/-- **The readers of expressions** note only words before which a comma is
missing. -/
theorem gaps_subset :
    (∀ ts, (disjunction ts).gaps ⊆ missingCommas true ts) ∧
    (∀ left ts, (moreDisjuncts left ts).gaps ⊆ missingCommas true ts) ∧
    (∀ ts, (conjunction ts).gaps ⊆ missingCommas true ts) ∧
    (∀ left ts, (moreConjuncts left ts).gaps ⊆ missingCommas true ts) ∧
    (∀ negated ts, (negation negated ts).gaps ⊆ missingCommas true ts) ∧
    ∀ ts, (atom ts).gaps ⊆ missingCommas true ts := by
  obtain ⟨-, -, onlyConjunction, -, onlyNegation, -⟩ := readers_sound
  refine disjunction.mutual_induct _ _ _ _ _ _ ?disjunction ?or ?noOr ?conjunction ?and ?noAnd
    ?not ?noNot ?parentheses ?is ?sub ?literal ?noLiteral ?noAtom
  case disjunction =>
    intro ts first more
    rw [disjunction]
    refine gaps_bind_readsOnly_subset (onlyConjunction ts) first fun p r => ?_
    exact Scan.gaps_bind_subset (more p r) fun _ _ => Scan.gaps_return_subset _
  case or =>
    intro left ts next more
    rw [moreDisjuncts]
    show _ ⊆ missingCommas true ts
    refine gaps_bind_readsOnly_subset (onlyConjunction ts) next fun p r => ?_
    exact Scan.gaps_bind_subset (more p r) fun _ _ => Scan.gaps_return_subset _
  case noOr =>
    intro left ts none
    rw [moreDisjuncts]
    · exact Scan.gaps_pure_subset _
    · exact none
  case conjunction =>
    intro ts first more
    rw [conjunction]
    refine gaps_bind_readsOnly_subset (onlyNegation false ts) first fun p r => ?_
    exact Scan.gaps_bind_subset (more p r) fun _ _ => Scan.gaps_return_subset _
  case and =>
    intro left ts next more
    rw [moreConjuncts]
    show _ ⊆ missingCommas true ts
    refine gaps_bind_readsOnly_subset (onlyNegation false ts) next fun p r => ?_
    exact Scan.gaps_bind_subset (more p r) fun _ _ => Scan.gaps_return_subset _
  case noAnd =>
    intro left ts none
    rw [moreConjuncts]
    · exact Scan.gaps_pure_subset _
    · exact none
  case not =>
    intro negated ts more
    rw [negation]
    exact Scan.gaps_bind_subset more fun _ _ => Scan.gaps_return_subset _
  case noNot =>
    intro negated ts none reads
    rw [negation]
    · exact Scan.gaps_bind_subset reads fun _ _ => Scan.gaps_return_subset _
    · exact none
  case parentheses =>
    intro ts reads
    rw [atom]
    refine Scan.gaps_bind_leaves_subset reads fun _ _ _ => ?_
    exact Scan.gaps_bind_subset (gaps_expect_subset _ _) fun _ _ => Scan.gaps_return_subset _
  case is =>
    intro w ts keyword
    rw [atom, if_pos keyword]
    refine Scan.gaps_bind_subset ?_ fun _ _ => Scan.gaps_return_subset _
    exact List.Subset.trans gaps_arguments_subset (missingCommas_true_subset false)
  case sub =>
    intro w ts notIs keyword
    rw [atom, if_neg notIs, if_pos keyword]
    refine Scan.gaps_bind_subset ?_ fun _ _ => Scan.gaps_return_subset _
    exact List.Subset.trans gaps_arguments_subset (missingCommas_true_subset false)
  case literal =>
    intro w ts notIs notSub b literal
    rw [atom, if_neg notIs, if_neg notSub, literal]
    exact Scan.gaps_pure_subset _
  case noLiteral =>
    intro w ts notIs notSub none
    rw [atom, if_neg notIs, if_neg notSub, none]
    exact Scan.gaps_error_subset _
  case noAtom =>
    intro ts noParen noWord
    rw [atom]
    · exact Scan.gaps_error_subset _
    · exact noParen
    · exact noWord

theorem gaps_scanExpression_subset : (scanExpression ts).gaps ⊆ missingCommas true ts := by
  refine Scan.gaps_bind_leaves_subset (gaps_subset.1 ts) fun _ _ _ => ?_
  exact Scan.gaps_bind_subset (gaps_finish_subset _) fun _ _ => Scan.gaps_return_subset _

/-! ## Reading without a message -/

variable {key : String} {value : List UInt8}

/-- A value in which no comma is missing is read without a message. -/
theorem readSetting_of_missingCommas {read : List Token → Scan α} {a : α}
    (noted : (read ts).gaps ⊆ missingCommas true ts) (tokens : Token.ofBytes value = .ok ts)
    (commas : missingCommas true ts = []) (result : (read ts).result = .ok a) (j : Journal) :
    (readSetting key value read).run.run j = (.ok a, j) := by
  rw [commas] at noted
  exact readSetting_of_silent tokens result (List.subset_nil.1 noted) j

theorem readDomains_of_listing {es : List Entry} (tokens : Token.ofBytes value = .ok ts)
    (commas : missingCommas true ts = []) (list : Listing none ts es) (j : Journal) :
    (readDomains key value).run.run j = (.ok (es.map (·.domain)), j) :=
  readSetting_of_missingCommas gaps_scanDomains_subset tokens commas
    (scanDomains_result_eq_ok.2 ⟨es, list, rfl⟩) j

theorem readEntries_of_listing {es : List Entry} (tokens : Token.ofBytes value = .ok ts)
    (commas : missingCommas true ts = []) (list : Listing (some n) ts es) (j : Journal) :
    (readEntries key value n).run.run j = (.ok es, j) :=
  readSetting_of_missingCommas gaps_scanEntries_subset tokens commas
    (scanEntries_result_eq_ok.2 list) j

theorem readExpression_of_derives {p : Predicate} (tokens : Token.ofBytes value = .ok ts)
    (commas : missingCommas true ts = []) (derived : Derives .disjunction ts p) (j : Journal) :
    (readExpression key value).run.run j = (.ok p, j) :=
  readSetting_of_missingCommas gaps_scanExpression_subset tokens commas
    (scanExpression_result_eq_ok.2 derived) j

end RecordPlan
