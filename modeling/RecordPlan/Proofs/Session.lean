import Mathlib.Data.List.DropRight
import RecordPlan.Proofs.Settings.Resolve
import RecordPlan.Session

/-!
# Operations that share a journal

An operation of a session is begun on a journal that other operations have
written into. What it answers, and what it writes, is what it would answer and
write **alone**, on the empty journal (`Operation.run_eq`): it puts its messages
behind those that are there, unless it is the one that forgets them all.

So a session is told by its operations one by one. After each of them the
journal holds what those **since the last clearing** write alone, in order.
The main statement is `operations_are_independent`.
-/

namespace RecordPlan

namespace Operation

/-- What an operation answers on the empty journal. -/
def answerAlone (op : Operation) : Answer := (op.run.run .empty).1

/-- What an operation writes into the empty journal. -/
def messagesAlone (op : Operation) : List Message := (op.run.run .empty).2.messages

/-- Whether an operation forgets all messages. -/
def clears : Operation → Bool
  | clear => true
  | _ => false

end Operation

/-- **The operations since the last one that clears the journal.** -/
def sinceClear (ops : List Operation) : List Operation := ops.rtakeWhile (!·.clears)

/-- The journal after operations that were begun on a journal. -/
def journalAfter (j : Journal) (ops : List Operation) : Journal :=
  ops.foldl (fun j op => (op.run.run j).2) j

/-- **What a session shows**, operation by operation: the answer, and the
journal as it is after the operation. -/
def observed (j : Journal) : List Operation → List (Answer × Journal)
  | [] => []
  | op :: ops => op.run.run j :: observed (op.run.run j).2 ops

/-! ## One operation -/

/-- An operation that answers with what another one comes to, where the other
one appends. -/
theorem run_map_of_appends {α : Type} {x : Checked α} (h : x.Appends)
    (answer : Except SettingsError α → Answer) (j : Journal) :
    (answer <$> x.run).run j = (answer x.outcome.result, ⟨j.messages ++ x.outcome.messages⟩) := by
  rw [StateT.run_map, h j]
  rfl

/-- **What an operation does to a journal**: it answers as it does alone, and
writes what it writes alone behind the messages that are there, unless it
forgets them. -/
theorem Operation.run_eq (op : Operation) (j : Journal) :
    op.run.run j =
      (op.answerAlone, if op.clears then .empty else ⟨j.messages ++ op.messagesAlone⟩) := by
  cases op with
  | readDomains key value =>
    exact run_map_of_appends (isDisciplined_readSetting ..).appends .domains j
  | readEntries key value n =>
    exact run_map_of_appends (isDisciplined_readSetting ..).appends .entries j
  | readExpression key value =>
    exact run_map_of_appends (isDisciplined_readSetting ..).appends .predicate j
  | consolidate lists =>
    exact run_map_of_appends (isDisciplined_consolidate lists).appends .managed j
  | resolve settings =>
    exact run_map_of_appends (Settings.resolve_spec settings).1.appends .plan j
  | report severity text => rfl
  | clear => rfl

/-! ## One operation after another -/

/-- What is observed of a session is the session: its answers, and the journal
that it ends with. -/
theorem runSession_run (j : Journal) (ops : List Operation) :
    (runSession ops).run j = ((observed j ops).map (·.1), journalAfter j ops) := by
  unfold runSession
  induction ops generalizing j with
  | nil => rfl
  | cons op ops ih =>
    rw [List.mapM_cons, StateT.run_bind]
    show (ops.mapM Operation.run >>= fun answers => pure ((op.run.run j).1 :: answers)).run
      (op.run.run j).2 = _
    rw [StateT.run_bind, ih]
    rfl

/-- Operations behind others begin on the journal that those leave. -/
theorem observed_append (j : Journal) (before after : List Operation) :
    observed j (before ++ after) = observed j before ++ observed (journalAfter j before) after := by
  induction before generalizing j with
  | nil => rfl
  | cons op before ih => exact congrArg (_ :: ·) (ih _)

theorem length_observed (j : Journal) (ops : List Operation) :
    (observed j ops).length = ops.length := by
  induction ops generalizing j with
  | nil => rfl
  | cons op ops ih => exact congrArg (· + 1) (ih _)

/-- The answers of a session are those of its operations alone. -/
theorem map_fst_observed (j : Journal) (ops : List Operation) :
    (observed j ops).map (·.1) = ops.map (·.answerAlone) := by
  induction ops generalizing j with
  | nil => rfl
  | cons op ops ih =>
    rw [observed, List.map_cons, List.map_cons, ih, op.run_eq]

theorem journalAfter_concat (j : Journal) (ops : List Operation) (op : Operation) :
    journalAfter j (ops ++ [op]) = (op.run.run (journalAfter j ops)).2 :=
  List.foldl_concat ..

/-- **The journal of a session** holds what the operations since the last
clearing write alone. The induction is on the last operation, which adds to
what is held or clears it. -/
theorem journalAfter_empty (ops : List Operation) :
    journalAfter .empty ops = ⟨(sinceClear ops).flatMap (·.messagesAlone)⟩ := by
  unfold sinceClear
  induction ops using List.reverseRecOn with
  | nil => rfl
  | append_singleton ops op ih =>
    rw [journalAfter_concat, ih, op.run_eq, List.rtakeWhile_concat]
    cases op.clears with
    | true => rfl
    | false => simp

/-- **Operations that share a journal do not influence one another.** In a
session that begins on the empty journal, every operation answers as it does
alone, and the journal after it holds what the operations since the last
clearing, it included, write alone, one behind the other. The texts of one
severity are those of these messages, and the journal is empty if and only if
there are none. -/
theorem operations_are_independent (before : List Operation) (op : Operation)
    (after : List Operation) :
    let ops := before ++ op :: after
    let written := (sinceClear (before ++ [op])).flatMap (·.messagesAlone)
    (runSession ops).run .empty =
      (ops.map (·.answerAlone), ⟨(sinceClear ops).flatMap (·.messagesAlone)⟩) ∧
    ∃ held : Journal, (observed .empty ops)[before.length]? = some (op.answerAlone, held) ∧
      held.messages = written ∧
      (∀ severity, held.textsOf severity =
        (written.filter (·.severity = severity)).map (·.text)) ∧
      (held.isEmpty = true ↔ written = []) := by
  intro ops written
  refine ⟨?_, ⟨written⟩, ?_, rfl, fun _ => rfl, List.isEmpty_iff⟩
  · rw [runSession_run, map_fst_observed, journalAfter_empty]
  · have journal : (op.run.run (journalAfter .empty before)).2 = ⟨written⟩ := by
      rw [← journalAfter_concat, journalAfter_empty]
    have answer : (op.run.run (journalAfter .empty before)).1 = op.answerAlone := by
      rw [op.run_eq]
    rw [observed_append, List.getElem?_append_right (length_observed _ _).le, length_observed,
      Nat.sub_self, ← journal, ← answer]
    rfl

end RecordPlan
