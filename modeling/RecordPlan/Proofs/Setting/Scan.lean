import RecordPlan.Setting.Scan

/-!
# Readers of tokens, one after another

What a reader that is put together from others comes to is what its parts
come to: it reads something exactly if its first part does and the next
part, given that, reads the rest (`Scan.bind_result_eq_ok`).

Readers return what is left together with the reason why it is shorter.
For what they read the reason does not matter, and `Scan.Leaves` leaves it
out: a reader **leaves** `rest` behind a value if these two are what it
comes to.
-/

namespace RecordPlan

variable {α β : Type}

namespace Scan

@[simp]
theorem result_return (a : α) : (pure a : Scan α).result = .ok a := rfl

@[simp]
theorem result_pure (a : α) : (Scan.pure a).result = .ok a := rfl

@[simp]
theorem result_error (e : ValueError) : (Scan.error e : Scan α).result = .error e := rfl

@[simp]
theorem result_gap (word : String) : (gap word).result = .ok () := rfl

@[simp]
theorem result_ofExcept (r : Except ValueError α) : (ofExcept r).result = r := rfl

@[simp]
theorem result_pure_bind (a : α) (f : α → Scan β) : (Scan.pure a >>= f).result = (f a).result :=
  rfl

/-- After what the first reader has read, the second one notes what it notes behind
that, and decides. -/
theorem bind_of_ok {x : Scan α} {f : α → Scan β} {a : α} (h : x.result = .ok a) :
    x >>= f = ⟨x.gaps ++ (f a).gaps, (f a).result⟩ := by
  show Scan.bind x f = _
  rw [Scan.bind, h]

/-- After a reader that fails nothing is read. -/
theorem bind_of_error {x : Scan α} {f : α → Scan β} {e : ValueError} (h : x.result = .error e) :
    x >>= f = ⟨x.gaps, .error e⟩ := by
  show Scan.bind x f = _
  rw [Scan.bind, h]

/-- **One reader after another** reads something if the first does, and
the second does with what the first has read. -/
theorem bind_result_eq_ok {x : Scan α} {f : α → Scan β} {b : β} :
    (x >>= f).result = .ok b ↔ ∃ a, x.result = .ok a ∧ (f a).result = .ok b := by
  show (Scan.bind x f).result = .ok b ↔ _
  unfold Scan.bind
  cases x.result with
  | error e => simp
  | ok a => simp

/-- One reader after another fails if the first does, or the second does with
what the first has read. -/
theorem bind_result_eq_error {x : Scan α} {f : α → Scan β} {e : ValueError} :
    (x >>= f).result = .error e ↔
      x.result = .error e ∨ ∃ a, x.result = .ok a ∧ (f a).result = .error e := by
  show (Scan.bind x f).result = .error e ↔ _
  unfold Scan.bind
  cases x.result with
  | error e => simp
  | ok a => simp

/-- What a reader reads, and what it leaves. -/
def Leaves {p : List Token → Prop} (x : Scan (α × Subtype p)) (a : α)
    (rest : List Token) : Prop :=
  ∃ r : Subtype p, x.result = .ok (a, r) ∧ r.1 = rest

section Leaves

variable {p q : List Token → Prop} {rest rest' : List Token}

/-- A reader leaves no two things. -/
theorem Leaves.unique {x : Scan (α × Subtype p)} {a a' : α} (h : x.Leaves a rest)
    (h' : x.Leaves a' rest') : a = a' ∧ rest = rest' := by
  obtain ⟨r, hr, rfl⟩ := h
  obtain ⟨r', hr', rfl⟩ := h'
  rw [hr, Except.ok.injEq, Prod.mk.injEq] at hr'
  exact ⟨hr'.1, congrArg Subtype.val hr'.2⟩

@[simp]
theorem leaves_return {a b : α} {r : Subtype p} :
    (pure (a, r) : Scan (α × Subtype p)).Leaves b rest ↔ a = b ∧ r.1 = rest := by
  constructor
  · rintro ⟨s, hs, rfl⟩
    rw [result_return, Except.ok.injEq, Prod.mk.injEq] at hs
    exact ⟨hs.1, congrArg Subtype.val hs.2⟩
  · rintro ⟨rfl, rfl⟩
    exact ⟨r, rfl, rfl⟩

@[simp]
theorem leaves_pure {a b : α} {r : Subtype p} :
    (Scan.pure (a, r)).Leaves b rest ↔ a = b ∧ r.1 = rest :=
  leaves_return

@[simp]
theorem not_leaves_error {e : ValueError} {a : α} :
    ¬ (Scan.error e : Scan (α × Subtype p)).Leaves a rest := by
  rintro ⟨r, hr, -⟩
  cases hr

/-- A reader that fails leaves nothing. -/
theorem not_leaves_of_error {x : Scan (α × Subtype p)} {a : α} {e : ValueError}
    (h : x.result = .error e) : ¬ x.Leaves a rest := by
  rintro ⟨r, hr, -⟩
  rw [h] at hr
  cases hr

theorem leaves_bind {x : Scan α} {f : α → Scan (β × Subtype p)} {b : β} :
    (x >>= f).Leaves b rest ↔ ∃ a, x.result = .ok a ∧ (f a).Leaves b rest := by
  constructor
  · rintro ⟨r, hr, rfl⟩
    obtain ⟨a, ha, hb⟩ := bind_result_eq_ok.1 hr
    exact ⟨a, ha, r, hb, rfl⟩
  · rintro ⟨a, ha, r, hr, rfl⟩
    exact ⟨r, bind_result_eq_ok.2 ⟨a, ha, hr⟩, rfl⟩

/-- What a reader leaves when it goes on with what another has left. -/
theorem leaves_bind_iff {x : Scan (α × Subtype p)} {f : α × Subtype p → Scan (β × Subtype q)}
    {b : β} {g : α → List Token → Prop} (hf : ∀ a r, (f (a, r)).Leaves b rest ↔ g a r.1) :
    (x >>= f).Leaves b rest ↔ ∃ a mid, x.Leaves a mid ∧ g a mid := by
  rw [leaves_bind]
  constructor
  · rintro ⟨⟨a, r⟩, hr, h⟩
    exact ⟨a, r.1, ⟨r, hr, rfl⟩, (hf a r).1 h⟩
  · rintro ⟨a, _, ⟨r, hr, rfl⟩, h⟩
    exact ⟨(a, r), hr, (hf a r).2 h⟩

/-- To go on with what was left by returning it leaves the same. -/
theorem leaves_bind_return_iff {x : Scan (α × Subtype p)}
    {f : α × Subtype p → Scan (β × Subtype q)} {b : β} {k : α → β}
    (hf : ∀ a r, (f (a, r)).Leaves b rest ↔ k a = b ∧ r.1 = rest) :
    (x >>= f).Leaves b rest ↔ ∃ a, x.Leaves a rest ∧ k a = b := by
  rw [leaves_bind_iff (g := fun a mid => k a = b ∧ mid = rest) hf]
  constructor
  · rintro ⟨a, _, h, eq, rfl⟩
    exact ⟨a, h, eq⟩
  · rintro ⟨a, h, eq⟩
    exact ⟨a, rest, h, eq, rfl⟩

/-- To hand on what was read leaves the same. -/
theorem leaves_bind_forward_iff {x : Scan (α × Subtype p)}
    {f : α × Subtype p → Scan (α × Subtype q)} {b : α}
    (hf : ∀ a r, (f (a, r)).Leaves b rest ↔ a = b ∧ r.1 = rest) :
    (x >>= f).Leaves b rest ↔ x.Leaves b rest := by
  rw [leaves_bind_return_iff (k := id) hf]
  simp

/-- A reader that goes on with what another has left fails if one of them
does. -/
theorem bind_result_eq_error_iff {x : Scan (α × Subtype p)} {f : α × Subtype p → Scan β}
    {e : ValueError} {g : α → List Token → Prop}
    (hf : ∀ a r, (f (a, r)).result = .error e ↔ g a r.1) :
    (x >>= f).result = .error e ↔ x.result = .error e ∨ ∃ a mid, x.Leaves a mid ∧ g a mid := by
  rw [bind_result_eq_error]
  refine or_congr_right ⟨?_, ?_⟩
  · rintro ⟨⟨a, r⟩, hr, h⟩
    exact ⟨a, r.1, ⟨r, hr, rfl⟩, (hf a r).1 h⟩
  · rintro ⟨a, _, ⟨r, hr, rfl⟩, h⟩
    exact ⟨(a, r), hr, (hf a r).2 h⟩

/-- To go on without failing makes no difference to whether a reader fails. -/
theorem bind_result_eq_error_iff_of_ok {x : Scan α} {f : α → Scan β} {e : ValueError}
    (hf : ∀ a, ∃ b, (f a).result = .ok b) :
    (x >>= f).result = .error e ↔ x.result = .error e := by
  rw [bind_result_eq_error]
  refine ⟨?_, .inl⟩
  rintro (h | ⟨a, -, h⟩)
  · exact h
  · obtain ⟨b, hb⟩ := hf a
    rw [hb] at h
    cases h

end Leaves

end Scan

/-- A certain token is read if it is the first one. -/
theorem expect_result_eq_ok {t : Token} {ts : List Token} {r : Shorter ts} :
    (expect t ts).result = .ok r ↔ ts = t :: r.1 := by
  cases ts with
  | nil => simp [expect]
  | cons u rest =>
    rw [expect]
    by_cases h : u = t
    · rw [if_pos h, Scan.result_pure, Except.ok.injEq, h, List.cons.injEq]
      exact ⟨fun eq => ⟨rfl, by rw [← eq, Shorter.tail]⟩, fun ⟨_, eq⟩ => Subtype.ext eq⟩
    · simp [h]

/-- To read a certain token fails at the end, and before any other token. -/
theorem expect_result_eq_error {t : Token} {ts : List Token} {e : ValueError} :
    (expect t ts).result = .error e ↔
      (ts = [] ∧ .missingAtEnd t = e) ∨
        ∃ u rest, ts = u :: rest ∧ u ≠ t ∧ .unexpectedTokenExpecting u t = e := by
  cases ts with
  | nil => simp [expect]
  | cons u rest =>
    rw [expect]
    by_cases h : u = t <;> simp [h]

/-- Insisting on the end fails before a token. -/
theorem finish_result_eq_error {ts : List Token} {e : ValueError} :
    (finish ts).result = .error e ↔ ∃ t rest, ts = t :: rest ∧ .unexpectedToken t = e := by
  cases ts with
  | nil => simp [finish]
  | cons t rest => simp [finish]

/-- Nothing is left if and only if there is nothing. -/
theorem finish_result_eq_ok {ts : List Token} : (finish ts).result = .ok () ↔ ts = [] := by
  cases ts with
  | nil => simp [finish]
  | cons t rest => simp [finish]

/-- A reader that insists on the end reads what it reads when it leaves
nothing. -/
theorem bind_finish_result_eq_ok {p : List Token → Prop} {x : Scan (α × Subtype p)}
    {f : α × Subtype p → Scan β} {k : α → β} {b : β}
    (hf : ∀ a r, f (a, r) = finish r.1 >>= fun _ => pure (k a)) :
    (x >>= f).result = .ok b ↔ ∃ a, x.Leaves a [] ∧ k a = b := by
  rw [Scan.bind_result_eq_ok]
  constructor
  · rintro ⟨⟨a, r⟩, hx, h⟩
    rw [hf] at h
    obtain ⟨_, hend, h⟩ := Scan.bind_result_eq_ok.1 h
    exact ⟨a, ⟨r, hx, finish_result_eq_ok.1 hend⟩, Except.ok.inj h⟩
  · rintro ⟨a, ⟨r, hx, hend⟩, rfl⟩
    refine ⟨(a, r), hx, ?_⟩
    rw [hf]
    exact Scan.bind_result_eq_ok.2 ⟨(), finish_result_eq_ok.2 hend, rfl⟩

/-- A reader that insists on the end fails if it does so before, or leaves
something. -/
theorem bind_finish_result_eq_error {p : List Token → Prop} {x : Scan (α × Subtype p)}
    {f : α × Subtype p → Scan β} {k : α → β} {e : ValueError}
    (hf : ∀ a r, f (a, r) = finish r.1 >>= fun _ => pure (k a)) :
    (x >>= f).result = .error e ↔
      x.result = .error e ∨ ∃ a t rest, x.Leaves a (t :: rest) ∧ .unexpectedToken t = e := by
  have finishes (a : α) (r : Subtype p) :
      (f (a, r)).result = .error e ↔ (finish r.1).result = .error e := by
    rw [hf]
    exact Scan.bind_result_eq_error_iff_of_ok fun _ => ⟨_, rfl⟩
  rw [Scan.bind_result_eq_error_iff (g := fun _ us => (finish us).result = .error e) finishes]
  simp only [finish_result_eq_error]
  refine or_congr_right ⟨?_, ?_⟩
  · rintro ⟨a, _, h, t, rest, rfl, eq⟩
    exact ⟨a, t, rest, h, eq⟩
  · rintro ⟨a, t, rest, h, eq⟩
    exact ⟨a, _, h, t, rest, rfl, eq⟩

end RecordPlan
