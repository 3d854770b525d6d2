import RecordPlan.Proofs.Setting.Scan
import RecordPlan.Setting.Entry

/-!
# What lists of domains are

`Listing` says, without any reader, which tokens are a list of domains and
which entries they list: commas go for nothing, and every other part is a
domain, with a host ID in brackets behind it if there is a prefix length to
read one against. `entries_leaves_iff` is the theorem that the reader of
lists reads these lists and no others, and that it reads on as long as it
can: what it leaves is nothing, or begins with a closing parenthesis.
-/

namespace RecordPlan

/-- **The lists of domains**, as tokens, and the entries that they list;
host IDs are allowed if there is a prefix length to read them against. -/
inductive Listing (prefixLen : Option UInt8) : List Token → List Entry → Prop where
  /-- A list of nothing. -/
  | nil : Listing prefixLen [] []
  /-- A comma goes for nothing. -/
  | comma {ts : List Token} {es : List Entry} : Listing prefixLen ts es →
      Listing prefixLen (.comma :: ts) es
  /-- A domain without a host ID. -/
  | domain {w : String} {d : Domain} {ts : List Token} {es : List Entry} :
      Domain.parse w = .ok d → Listing prefixLen ts es →
      Listing prefixLen (.word w :: ts) (⟨d, none⟩ :: es)
  /-- A domain with a host ID. -/
  | withHostId {n : UInt8} {w v : String} {d : Domain} {id : Option HostId}
      {ts : List Token} {es : List Entry} :
      prefixLen = some n → Domain.parse w = .ok d → HostId.parse v n = .ok id →
      Listing prefixLen ts es →
      Listing prefixLen (.word w :: .leftBracket :: .word v :: .rightBracket :: ts)
        (⟨d, id⟩ :: es)

/-- Whether a list of domains can end before these tokens: there are none,
or the first is a closing parenthesis. -/
def endsList : List Token → Bool
  | [] => true
  | .rightParen :: _ => true
  | _ => false

variable {prefixLen : Option UInt8} {n : UInt8} {w v : String} {d : Domain}
  {id : Option HostId} {separated : Bool} {ts rest : List Token} {es : List Entry}

/-! ## The parts of an entry -/

theorem domainOfWord_eq_ok : domainOfWord w = .ok d ↔ Domain.parse w = .ok d := by
  unfold domainOfWord
  cases Domain.parse w with
  | ok e => simp
  | error cause => cases cause <;> simp

theorem hostIdOfWord_eq_ok : hostIdOfWord n v = .ok id ↔ HostId.parse v n = .ok id := by
  unfold hostIdOfWord
  cases HostId.parse v n with
  | ok i => simp
  | error cause => simp

/-- A host ID is read together with the bracket after it. -/
theorem hostIdInBrackets_leaves_iff :
    (hostIdInBrackets n ts).Leaves id rest ↔
      ∃ v, ts = .word v :: .rightBracket :: rest ∧ HostId.parse v n = .ok id := by
  cases ts with
  | nil => simp [hostIdInBrackets]
  | cons t ts =>
    cases t with
    | word v =>
      rw [hostIdInBrackets, Scan.leaves_bind]
      constructor
      · rintro ⟨i, hi, h⟩
        obtain ⟨r, hr, h⟩ := Scan.leaves_bind.1 h
        obtain ⟨rfl, rfl⟩ := Scan.leaves_return.1 h
        exact ⟨v, congrArg (.word v :: ·) (expect_result_eq_ok.1 hr),
          hostIdOfWord_eq_ok.1 hi⟩
      · rintro ⟨v', eq, hv⟩
        obtain ⟨rfl, rfl⟩ : v = v' ∧ ts = .rightBracket :: rest := by simpa using eq
        refine ⟨id, hostIdOfWord_eq_ok.2 hv, Scan.leaves_bind.2 ?_⟩
        exact ⟨.tail _ rest, expect_result_eq_ok.2 rfl, Scan.leaves_return.2 ⟨rfl, rfl⟩⟩
    | _ => simp [hostIdInBrackets]

/-- A host ID is read if it is allowed and there is a bracket, and nothing
is read otherwise. -/
theorem optionalHostId_leaves_iff :
    (optionalHostId prefixLen ts).Leaves id rest ↔
      (∃ n v, prefixLen = some n ∧ ts = .leftBracket :: .word v :: .rightBracket :: rest ∧
        HostId.parse v n = .ok id) ∨
      ((prefixLen = none ∨ ∀ us, ts ≠ .leftBracket :: us) ∧ id = none ∧ ts = rest) := by
  unfold optionalHostId
  split
  · next n us =>
    refine Iff.trans (Scan.leaves_bind_return_iff fun _ _ => Scan.leaves_return) ?_
    simp [hostIdInBrackets_leaves_iff]
  · next ts hts =>
    rw [Scan.leaves_pure]
    constructor
    · rintro ⟨rfl, rfl⟩
      refine .inr ⟨?_, rfl, rfl⟩
      cases prefixLen with
      | none => exact .inl rfl
      | some n => exact .inr fun us eq => hts n us rfl eq
    · rintro (⟨n, v, rfl, eq, -⟩ | ⟨-, rfl, rfl⟩)
      · exact absurd eq (hts n _ rfl)
      · exact ⟨rfl, rfl⟩

/-! ## The reader, step by step -/

theorem entries_comma_leaves_iff :
    (entries prefixLen separated (.comma :: ts)).Leaves es rest ↔
      (entries prefixLen true ts).Leaves es rest := by
  rw [entries]
  refine Iff.trans (Scan.leaves_bind_return_iff fun _ _ => Scan.leaves_return) ?_
  simp

/-- A missing comma before a word is noted, and makes no difference to what
is read. -/
theorem entries_word_separated_iff :
    (entries prefixLen separated (.word w :: ts)).Leaves es rest ↔
      (entries prefixLen true (.word w :: ts)).Leaves es rest := by
  cases separated with
  | true => rfl
  | false =>
    rw [entries, entries]
    refine Scan.leaves_bind.trans ⟨?_, fun h => ⟨(), rfl, h⟩⟩
    rintro ⟨_, -, h⟩
    exact h

theorem entries_word_leaves_iff :
    (entries prefixLen separated (.word w :: ts)).Leaves es rest ↔
      ∃ d, Domain.parse w = .ok d ∧ ∃ id mid, (optionalHostId prefixLen ts).Leaves id mid ∧
        ∃ es', (entries prefixLen false mid).Leaves es' rest ∧ ⟨d, id⟩ :: es' = es := by
  rw [entries_word_separated_iff, entries]
  refine Scan.leaves_bind.trans (exists_congr fun d => ?_)
  refine and_congr domainOfWord_eq_ok (Scan.leaves_bind_iff fun id r => ?_)
  exact Scan.leaves_bind_return_iff fun _ _ => Scan.leaves_return

/-! ## The reader as a whole -/

/-- Before the end of a list nothing is read. -/
theorem entries_leaves_of_endsList (h : endsList ts = true) :
    (entries prefixLen separated ts).Leaves [] ts := by
  match ts, h with
  | [], _ => rw [entries]; exact Scan.leaves_pure.2 ⟨rfl, rfl⟩
  | .rightParen :: us, _ => rw [entries]; exact Scan.leaves_pure.2 ⟨rfl, rfl⟩

theorem optionalHostId_leaves_some (hn : prefixLen = some n) (hv : HostId.parse v n = .ok id) :
    (optionalHostId prefixLen (.leftBracket :: .word v :: .rightBracket :: ts)).Leaves id ts :=
  optionalHostId_leaves_iff.2 (.inl ⟨n, v, hn, rfl, hv⟩)

theorem optionalHostId_leaves_none (h : prefixLen = none ∨ ∀ us, ts ≠ .leftBracket :: us) :
    (optionalHostId prefixLen ts).Leaves none ts :=
  optionalHostId_leaves_iff.2 (.inr ⟨h, rfl, rfl⟩)

/-- **What is read is a list**, and it is read up to where a list ends. -/
theorem listing_of_entries_leaves (h : (entries prefixLen separated ts).Leaves es rest) :
    endsList rest = true ∧ ∃ read, ts = read ++ rest ∧ Listing prefixLen read es := by
  induction separated, ts using entries.induct prefixLen generalizing es with
  | case1 separated =>
    rw [entries] at h
    obtain ⟨rfl, rfl⟩ := Scan.leaves_pure.1 h
    exact ⟨rfl, [], rfl, .nil⟩
  | case2 separated us =>
    rw [entries] at h
    obtain ⟨rfl, rfl⟩ := Scan.leaves_pure.1 h
    exact ⟨rfl, [], rfl, .nil⟩
  | case3 separated us ih =>
    obtain ⟨ends, read, rfl, list⟩ := ih (entries_comma_leaves_iff.1 h)
    exact ⟨ends, .comma :: read, rfl, list.comma⟩
  | case4 separated w us _ ih | case5 separated w us _ ih =>
    obtain ⟨d, hd, id, _, ⟨mid, hid, rfl⟩, es', hes, rfl⟩ := entries_word_leaves_iff.1 h
    obtain ⟨ends, read, eq, list⟩ := ih mid hes
    refine ⟨ends, ?_⟩
    rcases optionalHostId_leaves_iff.1 ⟨mid, hid, rfl⟩ with
      ⟨n, v, hn, eq', hv⟩ | ⟨-, rfl, eq'⟩
    · rw [eq', eq]
      exact ⟨.word w :: .leftBracket :: .word v :: .rightBracket :: read, rfl,
        .withHostId hn hd hv list⟩
    · rw [eq', eq]
      exact ⟨.word w :: read, rfl, .domain hd list⟩
  | case6 separated t us h₁ h₂ h₃ =>
    rw [entries] at h
    · exact absurd h Scan.not_leaves_error
    all_goals assumption

/-- No list begins with a bracket. -/
theorem Listing.append_ne_leftBracket (list : Listing prefixLen ts es)
    (ends : endsList rest = true) (us : List Token) : ts ++ rest ≠ .leftBracket :: us := by
  cases list with
  | nil =>
    rintro rfl
    cases ends
  | comma _ => exact fun eq => by cases eq
  | domain _ _ => exact fun eq => by cases eq
  | withHostId _ _ _ _ => exact fun eq => by cases eq

/-- **A list is read**, up to where it ends. -/
theorem Listing.entries_leaves (list : Listing prefixLen ts es) (ends : endsList rest = true) :
    (entries prefixLen separated (ts ++ rest)).Leaves es rest := by
  induction list generalizing separated with
  | nil => exact entries_leaves_of_endsList ends
  | comma _ ih => exact entries_comma_leaves_iff.2 ih
  | domain hd list ih =>
    -- no bracket follows, neither in the list nor behind it
    exact entries_word_leaves_iff.2 ⟨_, hd, _, _,
      optionalHostId_leaves_none (.inr (list.append_ne_leftBracket ends)), _, ih, rfl⟩
  | withHostId hn hd hv _ ih =>
    exact entries_word_leaves_iff.2 ⟨_, hd, _, _, optionalHostId_leaves_some hn hv, _, ih, rfl⟩

/-- **The reader of lists** reads lists, all of them, and each as far as it
goes. -/
theorem entries_leaves_iff :
    (entries prefixLen separated ts).Leaves es rest ↔
      endsList rest = true ∧ ∃ read, ts = read ++ rest ∧ Listing prefixLen read es := by
  refine ⟨listing_of_entries_leaves, ?_⟩
  rintro ⟨ends, read, rfl, list⟩
  exact list.entries_leaves ends

/-- The reader leaves nothing of a list, and of nothing else. -/
theorem entries_leaves_nil_iff :
    (entries prefixLen separated ts).Leaves es [] ↔ Listing prefixLen ts es := by
  refine entries_leaves_iff.trans ⟨?_, fun list => ⟨rfl, ts, (List.append_nil ts).symm, list⟩⟩
  rintro ⟨-, read, rfl, list⟩
  rwa [List.append_nil]

/-- Domains that are given host IDs stay the same domains. -/
theorem map_domain_map (ds : List Domain) (hostId : Domain → Option HostId) :
    (ds.map fun d => (⟨d, hostId d⟩ : Entry)).map (·.domain) = ds := by
  rw [List.map_map]
  exact List.map_id ds

/-! ## Lists put together -/

/-- Tokens are a list of one kind of entries only. -/
theorem Listing.unique {es' : List Entry} (list : Listing prefixLen ts es)
    (list' : Listing prefixLen ts es') : es = es' := by
  have leaves : (entries prefixLen true ts).Leaves es [] := entries_leaves_nil_iff.2 list
  exact (leaves.unique (entries_leaves_nil_iff.2 list')).1

/-- Lists may stand one behind the other. -/
theorem Listing.append {us : List Token} {es' : List Entry} (list : Listing prefixLen ts es)
    (list' : Listing prefixLen us es') : Listing prefixLen (ts ++ us) (es ++ es') := by
  induction list with
  | nil => exact list'
  | comma _ ih => exact .comma ih
  | domain hd _ ih => exact .domain hd ih
  | withHostId hn hd hv _ ih => exact .withHostId hn hd hv ih

/-- **A comma in a list** has a list before it and another behind it: it
stands between entries, never inside of one. -/
theorem listing_append_comma_iff {us : List Token} :
    Listing prefixLen (ts ++ .comma :: us) es ↔
      ∃ es₁ es₂, Listing prefixLen ts es₁ ∧ Listing prefixLen us es₂ ∧ es = es₁ ++ es₂ := by
  constructor
  · generalize all : ts ++ .comma :: us = whole
    intro list
    induction list generalizing ts with
    | nil => simp at all
    | comma list ih =>
      cases ts with
      | nil =>
        obtain rfl := (List.cons.inj all).2
        exact ⟨[], _, .nil, list, rfl⟩
      | cons t ts =>
        obtain ⟨rfl, tail⟩ := List.cons.inj all
        obtain ⟨es₁, es₂, list₁, list₂, rfl⟩ := ih tail
        exact ⟨es₁, es₂, list₁.comma, list₂, rfl⟩
    | domain hd list ih =>
      match ts, all with
      | .word w :: ts, all =>
        obtain ⟨eq, tail⟩ := List.cons.inj all
        obtain rfl := Token.word.inj eq
        obtain ⟨es₁, es₂, list₁, list₂, rfl⟩ := ih tail
        exact ⟨_ :: es₁, es₂, .domain hd list₁, list₂, rfl⟩
    | withHostId hn hd hv list ih =>
      match ts, all with
      | .word w :: .leftBracket :: .word v :: .rightBracket :: ts, all =>
        simp only [List.cons_append, List.cons.injEq, Token.word.injEq, true_and] at all
        obtain ⟨rfl, rfl, tail⟩ := all
        obtain ⟨es₁, es₂, list₁, list₂, rfl⟩ := ih tail
        exact ⟨_ :: es₁, es₂, .withHostId hn hd hv list₁, list₂, rfl⟩
  · rintro ⟨es₁, es₂, list₁, list₂, rfl⟩
    exact list₁.append list₂.comma

/-- A list without host IDs is one where they are allowed. -/
theorem Listing.allowHostIds (list : Listing none ts es) : Listing (some n) ts es := by
  induction list with
  | nil => exact .nil
  | comma _ ih => exact .comma ih
  | domain hd _ ih => exact .domain hd ih
  | withHostId hn _ _ _ _ => cases hn

/-- Where host IDs are not allowed there are none. -/
theorem Listing.eq_map_domain (list : Listing none ts es) :
    es = (es.map (·.domain)).map (⟨·, none⟩) := by
  induction list with
  | nil => rfl
  | comma _ ih => exact ih
  | domain hd _ ih => exact congrArg (_ :: ·) ih
  | withHostId hn _ _ _ _ => cases hn

/-! ## Whole values -/

theorem scanEntries_result_eq_ok :
    (scanEntries n ts).result = .ok es ↔ Listing (some n) ts es := by
  refine (bind_finish_result_eq_ok fun _ _ => rfl).trans ?_
  simp [entries_leaves_nil_iff]

theorem scanDomains_result_eq_ok {ds : List Domain} :
    (scanDomains ts).result = .ok ds ↔ ∃ es, Listing none ts es ∧ es.map (·.domain) = ds := by
  refine (bind_finish_result_eq_ok fun _ _ => rfl).trans ?_
  simp only [entries_leaves_nil_iff]

end RecordPlan
