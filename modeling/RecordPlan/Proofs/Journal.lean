import RecordPlan.Journal

/-!
# What operations write

An operation that can fail hands a journal on, so what it does is a
function of the journal it is given. None of the operations on settings
makes use of that freedom: each **appends**, which is to say that it comes
to the same result and writes the same messages whatever the journal holds
already, and changes nothing that is there. What such an operation does is
told by its **outcome**, the result and the messages, which is what it
comes to on the empty journal.

Operations on settings are **disciplined** beyond that. While they succeed
they write nothing but warnings, and when they fail they write the text of
the error they fail with as the last message and as the only error. Doing
one disciplined operation after another is disciplined
(`Checked.IsDisciplined.bind`), so that the discipline of a long operation
is that of its parts.
-/

namespace RecordPlan

variable {α β : Type}

/-! ## Outcomes -/

/-- **The outcome of an operation**: what it comes to and what it
writes. -/
structure Outcome (α : Type) where
  /-- The result, or the error. -/
  result : Except SettingsError α
  /-- The messages, oldest first. -/
  messages : List Message

namespace Outcome

/-- Failing with an error, about which nothing is written but its text. -/
def failure (e : SettingsError) : Outcome α :=
  ⟨.error e, [⟨.error, e.message⟩]⟩

/-- One operation after another: the second is not begun if the first
fails. -/
protected def bind (o : Outcome α) (next : α → Outcome β) : Outcome β :=
  match o.result with
  | .error e => ⟨.error e, o.messages⟩
  | .ok a => ⟨(next a).result, o.messages ++ (next a).messages⟩

/-- The error of an outcome, if it is a failure. -/
def error? (o : Outcome α) : Option SettingsError :=
  match o.result with
  | .error e => some e
  | .ok _ => none

theorem bind_of_error {o : Outcome α} {e : SettingsError} (h : o.result = .error e)
    (next : α → Outcome β) : o.bind next = ⟨.error e, o.messages⟩ := by
  rw [Outcome.bind, h]

theorem bind_of_ok {o : Outcome α} {a : α} (h : o.result = .ok a) (next : α → Outcome β) :
    o.bind next = ⟨(next a).result, o.messages ++ (next a).messages⟩ := by
  rw [Outcome.bind, h]

/-- Two operations come to a result if the first comes to one with which
the second does. -/
theorem bind_result_eq_ok {o : Outcome α} {next : α → Outcome β} {b : β} :
    (o.bind next).result = .ok b ↔ ∃ a, o.result = .ok a ∧ (next a).result = .ok b := by
  cases h : o.result with
  | error e => simp [bind_of_error h]
  | ok a => simp [bind_of_ok h]

/-- **Good order among the messages of an outcome**: warnings alone while
all is well; warnings, and then the text of the error, if there is one. -/
def IsOrderly (o : Outcome α) : Prop :=
  ∃ warnings : List Message, (∀ m ∈ warnings, m.severity = .warning) ∧
    o.messages = warnings ++ match o.result with
      | .ok _ => []
      | .error e => [⟨.error, e.message⟩]

theorem isOrderly_of_ok {o : Outcome α} {a : α} (h : o.result = .ok a) :
    o.IsOrderly ↔ ∀ m ∈ o.messages, m.severity = .warning := by
  simp only [IsOrderly, h, List.append_nil]
  exact ⟨fun ⟨_, all, eq⟩ => eq ▸ all, fun all => ⟨_, all, rfl⟩⟩

/-- One after another keeps good order. -/
theorem IsOrderly.bind {o : Outcome α} {next : α → Outcome β} (first : o.IsOrderly)
    (second : ∀ a, (next a).IsOrderly) : (o.bind next).IsOrderly := by
  cases h : o.result with
  | error e =>
    rw [bind_of_error h]
    simpa only [IsOrderly, h] using first
  | ok a =>
    obtain ⟨later, allLater, eq⟩ := second a
    refine ⟨o.messages ++ later, ?_, ?_⟩
    · intro m hm
      rcases List.mem_append.1 hm with hm | hm
      · exact (isOrderly_of_ok h).1 first m hm
      · exact allLater m hm
    · rw [bind_of_ok h, List.append_assoc]
      exact congrArg (o.messages ++ ·) eq

end Outcome

/-! ## Operations -/

namespace Checked

/-- What an operation comes to and writes, begun on the empty journal. -/
def outcome (x : Checked α) : Outcome α :=
  ⟨(x.run.run .empty).1, (x.run.run .empty).2.messages⟩

/-- On the empty journal an operation has its outcome. -/
theorem run_empty (x : Checked α) :
    x.run.run .empty = (x.outcome.result, ⟨x.outcome.messages⟩) := rfl

/-- **An operation appends**: on every journal it comes to the same
result, and writes the same messages behind those that are there. -/
def Appends (x : Checked α) : Prop :=
  ∀ j : Journal, x.run.run j = (x.outcome.result, ⟨j.messages ++ x.outcome.messages⟩)

/-- To append it is enough to come to some one outcome on every journal. -/
theorem outcome_eq_of_forall {x : Checked α} {o : Outcome α}
    (h : ∀ j : Journal, x.run.run j = (o.result, ⟨j.messages ++ o.messages⟩)) :
    x.Appends ∧ x.outcome = o := by
  have eq : x.outcome = o := by
    simp only [outcome, h, Journal.empty, List.nil_append]
  exact ⟨fun j => by rw [eq, h j], eq⟩

theorem appends_pure (a : α) : (pure a : Checked α).Appends :=
  (outcome_eq_of_forall (o := ⟨.ok a, []⟩) fun j => by rw [List.append_nil]; rfl).1

@[simp]
theorem outcome_pure (a : α) : (pure a : Checked α).outcome = ⟨.ok a, []⟩ :=
  (outcome_eq_of_forall (o := ⟨.ok a, []⟩) fun j => by rw [List.append_nil]; rfl).2

theorem appends_failWith (e : SettingsError) : (failWith e : Checked α).Appends :=
  (outcome_eq_of_forall (o := .failure e) fun _ => rfl).1

@[simp]
theorem outcome_failWith (e : SettingsError) :
    (failWith e : Checked α).outcome = .failure e :=
  (outcome_eq_of_forall (o := .failure e) fun _ => rfl).2

theorem appends_report (severity : Severity) (text : String) :
    (liftM (report severity text) : Checked Unit).Appends :=
  (outcome_eq_of_forall (o := ⟨.ok (), [⟨severity, text⟩]⟩) fun _ => rfl).1

@[simp]
theorem outcome_report (severity : Severity) (text : String) :
    (liftM (report severity text) : Checked Unit).outcome = ⟨.ok (), [⟨severity, text⟩]⟩ :=
  (outcome_eq_of_forall (o := ⟨.ok (), [⟨severity, text⟩]⟩) fun _ => rfl).2

/-- One after another on a journal, when the first is known to append. -/
theorem run_bind {x : Checked α} (hx : x.Appends) (f : α → Checked β) (j : Journal) :
    (x >>= f).run.run j = match x.outcome.result with
      | .error e => (.error e, ⟨j.messages ++ x.outcome.messages⟩)
      | .ok a => (f a).run.run ⟨j.messages ++ x.outcome.messages⟩ := by
  rw [ExceptT.run_bind, StateT.run_bind, hx j]
  cases x.outcome.result <;> rfl

/-- One after another on a journal, when it is known what the first comes to
there. -/
theorem run_bind_of_ok {x : Checked α} {a : α} {j j' : Journal} (hx : x.run.run j = (.ok a, j'))
    (f : α → Checked β) : (x >>= f).run.run j = (f a).run.run j' := by
  rw [ExceptT.run_bind, StateT.run_bind, hx]
  rfl

/-- One after another comes to a result on a journal if the first comes to one
there, with which the second does on the journal that the first leaves. -/
theorem run_bind_eq_ok {x : Checked α} {f : α → Checked β} {b : β} {j j' : Journal} :
    (x >>= f).run.run j = (.ok b, j') ↔
      ∃ a k, x.run.run j = (.ok a, k) ∧ (f a).run.run k = (.ok b, j') := by
  constructor
  · intro h
    rcases hx : x.run.run j with ⟨e | a, k⟩
    · rw [ExceptT.run_bind, StateT.run_bind, hx] at h
      cases h
    · exact ⟨a, k, rfl, (run_bind_of_ok hx f).symm.trans h⟩
  · rintro ⟨a, k, hx, h⟩
    exact (run_bind_of_ok hx f).trans h

/-- One after another appends if each does, and comes to what they come to
one after another. -/
theorem bind_spec {x : Checked α} {f : α → Checked β} (hx : x.Appends)
    (hf : ∀ a, (f a).Appends) :
    (x >>= f).Appends ∧ (x >>= f).outcome = x.outcome.bind fun a => (f a).outcome := by
  refine outcome_eq_of_forall fun j => ?_
  rw [run_bind hx]
  cases h : x.outcome.result with
  | error e => rw [Outcome.bind_of_error h]
  | ok a =>
    show (f a).run.run _ = _
    rw [Outcome.bind_of_ok h, hf a, List.append_assoc]

/-- **An operation is disciplined**: it appends, and keeps good order
among the messages it writes. -/
structure IsDisciplined (x : Checked α) : Prop where
  /-- Nothing that is in the journal matters or is changed. -/
  appends : x.Appends
  /-- Warnings come first, and an error only if the operation fails. -/
  orderly : x.outcome.IsOrderly

theorem isDisciplined_pure (a : α) : (pure a : Checked α).IsDisciplined :=
  ⟨appends_pure a, [], by simp⟩

theorem isDisciplined_failWith (e : SettingsError) :
    (failWith e : Checked α).IsDisciplined :=
  ⟨appends_failWith e, [], by simp [Outcome.failure]⟩

/-- **One after another is disciplined** if each is, and what they come to
is what they come to one after another. -/
theorem IsDisciplined.bind {x : Checked α} {f : α → Checked β} {next : α → Outcome β}
    (hx : x.IsDisciplined) (hf : ∀ a, (f a).IsDisciplined ∧ (f a).outcome = next a) :
    (x >>= f).IsDisciplined ∧ (x >>= f).outcome = x.outcome.bind next := by
  obtain rfl : (fun a => (f a).outcome) = next := funext fun a => (hf a).2
  have spec := bind_spec hx.appends fun a => (hf a).1.appends
  refine ⟨⟨spec.1, ?_⟩, spec.2⟩
  rw [spec.2]
  exact hx.orderly.bind fun a => (hf a).1.orderly

/-- The result of an operation that appends is that of its outcome. -/
theorem Appends.run_result {x : Checked α} (h : x.Appends) (j : Journal) :
    (x.run.run j).1 = x.outcome.result := by
  rw [h j]

/-- What an operation that appends comes to on some journal is the result of its
outcome. -/
theorem Appends.result_eq_of_run {x : Checked α} (h : x.Appends) {result : Except SettingsError α}
    {j j' : Journal} (run : x.run.run j = (result, j')) : x.outcome.result = result := by
  rw [← h.run_result j, run]

end Checked

end RecordPlan
