import RecordPlan.Proofs.HostId.Text
import RecordPlan.Proofs.Setting.Entry
import RecordPlan.Proofs.Setting.Token

/-!
# What more tokens change

Readers go through tokens from the front and stop at the first thing that is
wrong. So a reader **stands by** what it comes to when more tokens are put
behind those it was given (`StandsBy`). What it has read it reads again, if it
has left something, for it did not look any further. And if it has failed, then
either it fails in the same way whatever follows, or the tokens were at their
end too early: then there are tokens with which they are what the reader reads.

A reader that is put together from others stands by what it comes to if they
do (`StandsBy.append`, `StandsBy.closed`). For lists of domains this is shown
here (`standsBy_entries`): they end too early only inside of the brackets around
a host ID.
-/

namespace RecordPlan

/-- **Whether tokens begin others of some kind**, which they are as soon as
certain tokens, all of which can be written, are put behind them. -/
def Begins (kind : List Token → Prop) (ts : List Token) : Prop :=
  ∃ more : List Token, (∀ t ∈ more, t.IsProper) ∧ kind (ts ++ more)

/-- Whether an error is about a token that is missing at the end. -/
def ValueError.isMissingAtEnd : ValueError → Bool
  | missingAtEnd _ => true
  | _ => false

/-- Whether tokens that are no value are one with certain tokens behind
them. -/
def CanBeCompleted {α : Type} (read : List Token → Scan α) (ts : List Token) : Prop :=
  Begins (fun us => ∃ a, (read us).result = .ok a) ts

/-- Whether tokens are rejected for the same reason whatever follows. -/
def StaysRejected {α : Type} (read : List Token → Scan α) (ts : List Token) (e : ValueError) :
    Prop :=
  ∀ more, (read (ts ++ more)).result = .error e

variable {α β γ : Type} {P Q R : List Token → List Token → Prop} {ts rest : List Token}

/-- **A reader stands by what it comes to** on some tokens when more tokens
follow. `describes` tells what the tokens are that it reads, and `unfinished`
which errors it may withdraw. -/
structure StandsBy (read : (ts : List Token) → Scan (α × Subtype (P ts)))
    (describes : List Token → α → Prop) (unfinished : ValueError → Prop) (ts : List Token) :
    Prop where
  /-- What is read in front of other tokens is read again. -/
  leaves {a : α} {rest : List Token} (h : (read ts).Leaves a rest) (ne : rest ≠ [])
    (more : List Token) : (read (ts ++ more)).Leaves a (rest ++ more)
  /-- A failure is final, or due to an early end. -/
  fails {e : ValueError} (h : (read ts).result = .error e) :
    unfinished e ∧ Begins (fun us => ∃ a, describes us a) ts ∨
      ¬ e.isMissingAtEnd ∧ ∀ more, (read (ts ++ more)).result = .error e

theorem StaysRejected.not_canBeCompleted {read : List Token → Scan α} {e : ValueError}
    (h : StaysRejected read ts e) : ¬ CanBeCompleted read ts := by
  rintro ⟨more, -, a, ha⟩
  rw [h more] at ha
  cases ha

theorem Begins.imp {kind kind' : List Token → Prop} (h : Begins kind ts)
    (imp : ∀ us, kind us → kind' us) : Begins kind' ts := by
  obtain ⟨more, proper, h⟩ := h
  exact ⟨more, proper, imp _ h⟩

theorem Begins.of_kind {kind : List Token → Prop} (h : kind ts) : Begins kind ts :=
  ⟨[], fun _ ht => absurd ht List.not_mem_nil, (List.append_nil ts).symm ▸ h⟩

/-- What can be completed can be completed and closed. -/
theorem Begins.append_singleton {kind kind' : List Token → Prop} {closing : Token}
    (h : Begins kind ts) (proper : closing.IsProper)
    (close : ∀ us, kind us → kind' (us ++ [closing])) : Begins kind' ts := by
  obtain ⟨more, properMore, h⟩ := h
  refine ⟨more ++ [closing], fun t ht => ?_, ?_⟩
  · rcases List.mem_append.1 ht with ht | ht
    · exact properMore t ht
    · exact List.mem_singleton.1 ht ▸ proper
  · rw [← List.append_assoc]
    exact close _ h

/-- What does not begin with a certain token does not do so when more tokens
follow. -/
theorem append_ne_cons {t : Token} {more : List Token} (h : ∀ us, ts ≠ t :: us) (ne : ts ≠ []) :
    ∀ us, ts ++ more ≠ t :: us := by
  obtain ⟨u, ts, rfl⟩ := List.exists_cons_of_ne_nil ne
  exact fun us eq => h ts (congrArg (· :: ts) (List.cons.inj eq).1)

namespace StandsBy

variable {read : (ts : List Token) → Scan (α × Subtype (P ts))}
  {next : α → (ts : List Token) → Scan (β × Subtype (Q ts))}
  {whole : (ts : List Token) → Scan (γ × Subtype (R ts))}
  {describes : List Token → α → Prop} {describesNext : α → List Token → β → Prop}
  {describesWhole : List Token → γ → Prop} {unfinished : ValueError → Prop}

/-- A reader that fails whatever follows. -/
theorem of_error {e : ValueError} (ne : ¬ e.isMissingAtEnd)
    (h : ∀ more, (read (ts ++ more)).result = .error e) :
    StandsBy read describes unfinished ts := by
  have fails := h []
  rw [List.append_nil] at fails
  constructor
  · exact fun leaves => absurd leaves (Scan.not_leaves_of_error fails)
  · intro e' he'
    obtain rfl := Except.error.inj (fails.symm.trans he')
    exact .inr ⟨ne, h⟩

/-- A reader that reads something, and again whatever follows. -/
theorem of_leaves {a : α} (h : (read ts).Leaves a rest)
    (again : rest ≠ [] → ∀ more, (read (ts ++ more)).Leaves a (rest ++ more)) :
    StandsBy read describes unfinished ts := by
  constructor
  · intro a' rest' h' ne more
    obtain ⟨rfl, rfl⟩ := h.unique h'
    exact again ne more
  · exact fun fails => absurd h (Scan.not_leaves_of_error fails)

/-- A reader that fails because tokens are at their end too early. -/
theorem of_begins {e : ValueError} (h : (read ts).result = .error e) (early : unfinished e)
    (begun : Begins (fun us => ∃ a, describes us a) ts) :
    StandsBy read describes unfinished ts := by
  constructor
  · exact fun leaves => absurd leaves (Scan.not_leaves_of_error h)
  · intro e' he'
    obtain rfl := Except.error.inj (h.symm.trans he')
    exact .inl ⟨early, begun⟩

/-- A reader that is known by what it does behind a certain token. -/
theorem cons {t : Token}
    (h : StandsBy (fun us => read (t :: us)) (fun us a => describes (t :: us) a) unfinished ts) :
    StandsBy read describes unfinished (t :: ts) :=
  ⟨h.leaves, h.fails⟩

/-- A reader that hands on what another one has read. -/
theorem map {k : α → γ} (first : StandsBy read describes unfinished ts)
    (leaves : ∀ more c rest, (whole (ts ++ more)).Leaves c rest ↔
      ∃ a, (read (ts ++ more)).Leaves a rest ∧ k a = c)
    (fails : ∀ more e, (whole (ts ++ more)).result = .error e ↔
      (read (ts ++ more)).result = .error e)
    (describe : ∀ us a, describes us a → describesWhole us (k a)) :
    StandsBy whole describesWhole unfinished ts := by
  have leaves₀ := leaves []
  have fails₀ := fails []
  rw [List.append_nil] at leaves₀ fails₀
  constructor
  · intro c rest h ne more
    obtain ⟨a, ha, rfl⟩ := (leaves₀ c rest).1 h
    exact (leaves more _ _).2 ⟨a, first.leaves ha ne more, rfl⟩
  · intro e h
    refine (first.fails ((fails₀ e).1 h)).imp ?_ ?_
    · rintro ⟨early, begun⟩
      exact ⟨early, begun.imp fun us ⟨a, ha⟩ => ⟨k a, describe us a ha⟩⟩
    · rintro ⟨final, h⟩
      exact ⟨final, fun more => (fails more e).2 (h more)⟩

/-- **One reader after another** stands by what it comes to if both do. The
second one has to be content with the end, so that the first one's tokens may
be all. -/
theorem append {k : α → β → γ} (first : StandsBy read describes unfinished ts)
    (second : ∀ a (r : Subtype (P ts)), StandsBy (next a) (describesNext a) unfinished r.1)
    (leaves : ∀ us c rest, (whole us).Leaves c rest ↔
      ∃ a mid, (read us).Leaves a mid ∧ ∃ b, (next a mid).Leaves b rest ∧ k a b = c)
    (fails : ∀ us e, (whole us).result = .error e ↔
      (read us).result = .error e ∨
        ∃ a mid, (read us).Leaves a mid ∧ (next a mid).result = .error e)
    (sound : ∀ a mid, (read ts).Leaves a mid → ∃ us, ts = us ++ mid ∧ describes us a)
    (join : ∀ us a vs b, describes us a → describesNext a vs b → describesWhole (us ++ vs) (k a b))
    (ends : ∀ a, ∃ b, (next a []).Leaves b [] ∧ describesNext a [] b) :
    StandsBy whole describesWhole unfinished ts := by
  have second {a : α} {mid : List Token} (ha : (read ts).Leaves a mid) :
      StandsBy (next a) (describesNext a) unfinished mid := by
    obtain ⟨r, -, rfl⟩ := ha
    exact second a r
  constructor
  · intro c rest h ne more
    obtain ⟨a, mid, ha, b, hb, rfl⟩ := (leaves _ _ _).1 h
    have ne' : mid ≠ [] := by
      rintro rfl
      obtain ⟨b', hb', -⟩ := ends a
      exact ne (hb.unique hb').2
    exact (leaves _ _ _).2
      ⟨a, _, first.leaves ha ne' more, b, (second ha).leaves hb ne more, rfl⟩
  · intro e h
    rcases (fails _ _).1 h with h | ⟨a, mid, ha, h⟩
    · -- what the first reader would read is complete as it is
      refine (first.fails h).imp ?_ ?_
      · rintro ⟨early, begun⟩
        refine ⟨early, begun.imp fun us ⟨a, hus⟩ => ?_⟩
        obtain ⟨b, -, hb⟩ := ends a
        have joined := join us a [] b hus hb
        rw [List.append_nil] at joined
        exact ⟨_, joined⟩
      · rintro ⟨final, h⟩
        exact ⟨final, fun more => (fails _ _).2 (.inl (h more))⟩
    · have ne : mid ≠ [] := by
        rintro rfl
        obtain ⟨b, leaves, -⟩ := ends a
        exact Scan.not_leaves_of_error h leaves
      refine ((second ha).fails h).imp ?_ ?_
      · rintro ⟨early, more, proper, b, hb⟩
        obtain ⟨us, rfl, hus⟩ := sound a mid ha
        refine ⟨early, more, proper, k a b, ?_⟩
        rw [List.append_assoc]
        exact join us a _ b hus hb
      · rintro ⟨final, h⟩
        exact ⟨final, fun more => (fails _ _).2 (.inr ⟨a, _, first.leaves ha ne more, h more⟩)⟩

/-- **A reader and a token that closes what it reads.** -/
theorem closed (closing : Token) {k : α → γ} (first : StandsBy read describes unfinished ts)
    (leaves : ∀ us c rest, (whole us).Leaves c rest ↔
      ∃ a, (read us).Leaves a (closing :: rest) ∧ k a = c)
    (fails : ∀ us e, (whole us).result = .error e ↔
      (read us).result = .error e ∨
        ∃ a mid, (read us).Leaves a mid ∧ (expect closing mid).result = .error e)
    (sound : ∀ a mid, (read ts).Leaves a mid → ∃ us, ts = us ++ mid ∧ describes us a)
    (close : ∀ us a, describes us a → describesWhole (us ++ [closing]) (k a))
    (proper : closing.IsProper) (early : unfinished (.missingAtEnd closing)) :
    StandsBy whole describesWhole unfinished ts := by
  constructor
  · intro c rest h ne more
    obtain ⟨a, ha, rfl⟩ := (leaves _ _ _).1 h
    exact (leaves _ _ _).2 ⟨a, first.leaves ha (List.cons_ne_nil _ _) more, rfl⟩
  · intro e h
    have closes (begun : Begins (fun us => ∃ a, describes us a) ts) :
        Begins (fun us => ∃ c, describesWhole us c) ts :=
      begun.append_singleton proper fun us ⟨a, hus⟩ => ⟨k a, close us a hus⟩
    rcases (fails _ _).1 h with h | ⟨a, mid, ha, h⟩
    · refine (first.fails h).imp ?_ ?_
      · exact fun ⟨early, begun⟩ => ⟨early, closes begun⟩
      · exact fun ⟨final, h⟩ => ⟨final, fun more => (fails _ _).2 (.inl (h more))⟩
    · rcases expect_result_eq_error.1 h with ⟨rfl, rfl⟩ | ⟨u, us, rfl, ne, rfl⟩
      · obtain ⟨us, eq, hus⟩ := sound a [] ha
        rw [List.append_nil] at eq
        exact .inl ⟨early, closes (.of_kind ⟨a, eq ▸ hus⟩)⟩
      · refine .inr ⟨Bool.false_ne_true, fun more => ?_⟩
        exact (fails _ _).2 (.inr ⟨a, u :: us ++ more,
          first.leaves ha (List.cons_ne_nil _ _) more,
          expect_result_eq_error.2 (.inr ⟨u, _, rfl, ne, rfl⟩)⟩)

/-- A failure of a whole value is final, or due to an early end. -/
theorem whole_fails {whole : List Token → Scan γ} {e : ValueError}
    (reader : StandsBy read describes unfinished ts)
    (fails : ∀ us, (whole us).result = .error e ↔ (read us).result = .error e ∨
      ∃ a t rest, (read us).Leaves a (t :: rest) ∧ .unexpectedToken t = e)
    (complete : ∀ us a, describes us a → ∃ c, (whole us).result = .ok c)
    (h : (whole ts).result = .error e) :
    unfinished e ∧ CanBeCompleted whole ts ∨ ¬ e.isMissingAtEnd ∧ StaysRejected whole ts e := by
  rcases (fails ts).1 h with h | ⟨a, t, rest, leaves, rfl⟩
  · refine (reader.fails h).imp ?_ ?_
    · exact fun ⟨early, begun⟩ => ⟨early, begun.imp fun us ⟨a, hus⟩ => complete us a hus⟩
    · exact fun ⟨final, h⟩ => ⟨final, fun more => (fails _).2 (.inl (h more))⟩
  · refine .inr ⟨Bool.false_ne_true, fun more => (fails _).2 (.inr ?_)⟩
    exact ⟨a, t, rest ++ more, reader.leaves leaves (List.cons_ne_nil _ _) more, rfl⟩

end StandsBy

/-! ## Host IDs in brackets -/

section Lists

variable {prefixLen : Option UInt8} {n : UInt8} {w v : String} {d : Domain} {separated : Bool}
  {unfinished : ValueError → Prop} {e : ValueError}

/-- The tokens behind a domain: none, or a host ID in brackets if there is a
prefix length to read it against. -/
inductive HostIdPart (prefixLen : Option UInt8) : List Token → Option HostId → Prop where
  /-- No host ID. -/
  | none : HostIdPart prefixLen [] none
  /-- A host ID in brackets. -/
  | brackets {n : UInt8} {v : String} {id : Option HostId} :
      prefixLen = some n → HostId.parse v n = .ok id →
      HostIdPart prefixLen [.leftBracket, .word v, .rightBracket] id

theorem HostIdPart.listing {us : List Token} {id : Option HostId} {es : List Entry}
    (part : HostIdPart prefixLen us id) (hd : Domain.parse w = .ok d)
    (list : Listing prefixLen ts es) :
    Listing prefixLen (.word w :: (us ++ ts)) (⟨d, id⟩ :: es) := by
  cases part with
  | none => exact .domain hd list
  | brackets hn hv => exact .withHostId hn hd hv list

theorem exists_hostIdPart {id : Option HostId} (h : (optionalHostId prefixLen ts).Leaves id rest) :
    ∃ us, ts = us ++ rest ∧ HostIdPart prefixLen us id := by
  rcases optionalHostId_leaves_iff.1 h with ⟨n, v, hn, rfl, hv⟩ | ⟨-, rfl, rfl⟩
  · exact ⟨_, rfl, .brackets hn hv⟩
  · exact ⟨[], rfl, .none⟩

theorem hostIdInBrackets_word_result_eq_error :
    (hostIdInBrackets n (.word v :: ts)).result = .error e ↔
      hostIdOfWord n v = .error e ∨
        ∃ id, hostIdOfWord n v = .ok id ∧ (expect .rightBracket ts).result = .error e := by
  rw [hostIdInBrackets, Scan.bind_result_eq_error]
  refine or_congr_right (exists_congr fun id => and_congr_right fun _ => ?_)
  exact Scan.bind_result_eq_error_iff_of_ok fun _ => ⟨_, rfl⟩

theorem optionalHostId_leftBracket_leaves_iff {id : Option HostId} :
    (optionalHostId (some n) (.leftBracket :: ts)).Leaves id rest ↔
      (hostIdInBrackets n ts).Leaves id rest :=
  Scan.leaves_bind_forward_iff fun _ _ => Scan.leaves_return

theorem optionalHostId_leftBracket_result_eq_error :
    (optionalHostId (some n) (.leftBracket :: ts)).result = .error e ↔
      (hostIdInBrackets n ts).result = .error e :=
  Scan.bind_result_eq_error_iff_of_ok fun _ => ⟨_, rfl⟩

theorem entries_comma_result_eq_error :
    (entries prefixLen separated (.comma :: ts)).result = .error e ↔
      (entries prefixLen true ts).result = .error e := by
  rw [entries]
  exact Scan.bind_result_eq_error_iff_of_ok fun _ => ⟨_, rfl⟩

theorem entries_word_separated_result :
    (entries prefixLen separated (.word w :: ts)).result =
      (entries prefixLen true (.word w :: ts)).result := by
  cases separated with
  | true => rfl
  | false =>
    rw [entries, entries]
    rfl

theorem entries_word_result_eq_error :
    (entries prefixLen separated (.word w :: ts)).result = .error e ↔
      domainOfWord w = .error e ∨ ∃ d, domainOfWord w = .ok d ∧
        ((optionalHostId prefixLen ts).result = .error e ∨
          ∃ id mid, (optionalHostId prefixLen ts).Leaves id mid ∧
            (entries prefixLen false mid).result = .error e) := by
  rw [entries_word_separated_result, entries]
  refine Scan.bind_result_eq_error.trans (or_congr_right (exists_congr fun d => ?_))
  refine and_congr_right fun _ => Scan.bind_result_eq_error_iff fun id r => ?_
  exact Scan.bind_result_eq_error_iff_of_ok fun _ => ⟨_, rfl⟩

theorem entries_result_of_unexpected {t : Token} (h₁ : t ≠ .rightParen) (h₂ : t ≠ .comma)
    (h₃ : ∀ w, t ≠ .word w) :
    (entries prefixLen separated (t :: ts)).result = .error (.unexpectedToken t) := by
  rw [entries]
  · rfl
  · exact h₁
  · exact h₂
  · exact h₃

theorem not_isMissingAtEnd_of_domainOfWord (h : domainOfWord w = .error e) :
    ¬ e.isMissingAtEnd := by
  unfold domainOfWord at h
  split at h <;> cases h <;> exact Bool.false_ne_true

theorem not_isMissingAtEnd_of_hostIdOfWord (h : hostIdOfWord n v = .error e) :
    ¬ e.isMissingAtEnd := by
  unfold hostIdOfWord at h
  split at h
  · cases h
  · cases h
    exact Bool.false_ne_true

/-! ## Lists -/

/-- Behind a host ID there has to be a closing bracket. -/
theorem standsBy_hostIdInBrackets_word {id : Option HostId} (hv : HostId.parse v n = .ok id)
    (early : unfinished (.missingAtEnd .rightBracket)) :
    StandsBy (hostIdInBrackets n)
      (fun us id => ∃ v, us = [.word v, .rightBracket] ∧ HostId.parse v n = .ok id)
      unfinished (.word v :: ts) := by
  have fails (us : List Token) (e : ValueError) (h : (expect .rightBracket us).result = .error e) :
      (hostIdInBrackets n (.word v :: us)).result = .error e :=
    hostIdInBrackets_word_result_eq_error.2 (.inr ⟨id, hostIdOfWord_eq_ok.2 hv, h⟩)
  have reads (rest : List Token) :
      (hostIdInBrackets n (.word v :: .rightBracket :: rest)).Leaves id rest :=
    hostIdInBrackets_leaves_iff.2 ⟨v, rfl, hv⟩
  cases ts with
  | nil =>
    exact .of_begins (fails [] _ rfl) early
      ⟨[.rightBracket], by simp [Token.IsProper], id, v, rfl, hv⟩
  | cons u us =>
    by_cases h : u = .rightBracket
    · subst h
      exact .of_leaves (reads us) fun _ more => reads (us ++ more)
    · refine .of_error (e := .unexpectedTokenExpecting u .rightBracket)
        Bool.false_ne_true fun more => fails _ _ ?_
      exact expect_result_eq_error.2 (.inr ⟨u, us ++ more, rfl, h, rfl⟩)

/-- Behind an opening bracket there is always a host ID that goes with the
prefix length. -/
theorem standsBy_hostIdInBrackets (le : n ≤ 128)
    (early : unfinished (.missingAtEnd .rightBracket)) :
    StandsBy (hostIdInBrackets n)
      (fun us id => ∃ v, us = [.word v, .rightBracket] ∧ HostId.parse v n = .ok id)
      unfinished ts := by
  cases ts with
  | nil =>
    let zeros : HostId := .suffix ⟨0⟩ n
    refine .of_begins rfl early ⟨[.word zeros.text, .rightBracket], ?_, some zeros, zeros.text,
      rfl, HostId.parse_text rfl le⟩
    simpa using ⟨zeros.isProper_text, trivial⟩
  | cons t ts =>
    cases t with
    | word v =>
      cases hv : hostIdOfWord n v with
      | error e =>
        exact .of_error (not_isMissingAtEnd_of_hostIdOfWord hv) fun _ =>
          hostIdInBrackets_word_result_eq_error.2 (.inl hv)
      | ok id => exact standsBy_hostIdInBrackets_word (hostIdOfWord_eq_ok.1 hv) early
    | _ => exact .of_error (e := .unexpectedToken _) Bool.false_ne_true fun _ => rfl

theorem standsBy_optionalHostId
    (hostIds : ∀ n, prefixLen = some n → n ≤ 128 ∧ unfinished (.missingAtEnd .rightBracket)) :
    StandsBy (optionalHostId prefixLen) (HostIdPart prefixLen) unfinished ts := by
  cases prefixLen, ts using optionalHostId.fun_cases with
  | case1 n us =>
    obtain ⟨le, early⟩ := hostIds n rfl
    refine .cons (.map (k := id) (standsBy_hostIdInBrackets le early) ?_ ?_ ?_)
    · intro more id rest
      exact optionalHostId_leftBracket_leaves_iff.trans (by simp)
    · exact fun more e => optionalHostId_leftBracket_result_eq_error
    · rintro _ id ⟨v, rfl, hv⟩
      exact .brackets rfl hv
  | case2 prefixLen ts noBracket =>
    have none : prefixLen = none ∨ ∀ us, ts ≠ .leftBracket :: us := by
      cases prefixLen with
      | none => exact .inl rfl
      | some n => exact .inr fun us eq => noBracket n us rfl eq
    exact .of_leaves (optionalHostId_leaves_none none) fun ne more =>
      optionalHostId_leaves_none (none.imp_right fun none => append_ne_cons none ne)

/-- **The reader of lists stands by what it comes to.** Lists end too early
inside of the brackets around a host ID, and nowhere else. -/
theorem standsBy_entries
    (hostIds : ∀ n, prefixLen = some n → n ≤ 128 ∧ unfinished (.missingAtEnd .rightBracket)) :
    StandsBy (entries prefixLen separated) (Listing prefixLen) unfinished ts := by
  induction separated, ts using entries.induct prefixLen with
  | case1 separated =>
    exact .of_leaves (entries_leaves_of_endsList rfl) fun ne => absurd rfl ne
  | case2 separated us =>
    exact .of_leaves (entries_leaves_of_endsList rfl) fun _ _ => entries_leaves_of_endsList rfl
  | case3 separated us ih =>
    refine .cons (.map (k := id) ih ?_ ?_ ?_)
    · intro more es rest
      exact entries_comma_leaves_iff.trans (by simp)
    · exact fun more e => entries_comma_result_eq_error
    · exact fun _ _ list => list.comma
  | case4 separated w us _ ih | case5 separated w us _ ih =>
    refine .cons ?_
    cases hd : domainOfWord w with
    | error e =>
      exact .of_error (not_isMissingAtEnd_of_domainOfWord hd) fun more =>
        entries_word_result_eq_error.2 (.inl hd)
    | ok d =>
      have parsed := domainOfWord_eq_ok.1 hd
      refine .append (k := fun id es => ⟨d, id⟩ :: es) (standsBy_optionalHostId hostIds)
        (fun _ => ih) ?_ ?_ ?_ ?_ ?_
      · exact fun vs es rest => entries_word_leaves_iff.trans (by simp [parsed])
      · exact fun vs e => entries_word_result_eq_error.trans (by simp [hd])
      · exact fun id mid => exists_hostIdPart
      · exact fun vs id vs' es part list => part.listing parsed list
      · exact fun _ => ⟨[], entries_leaves_of_endsList rfl, .nil⟩
  | case6 separated t us h₁ h₂ h₃ =>
    exact .of_error (e := .unexpectedToken t) Bool.false_ne_true fun _ =>
      entries_result_of_unexpected h₁ h₂ h₃

end Lists

end RecordPlan
