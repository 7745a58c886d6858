import GdoBlaq.Lts.Stamp
import Mathlib.Data.Int.Notation

/-!
# The retry budget of a door command

`retry_budget.h`: the watchdog calls `retry_budget_step` once per iteration with the id of the
last door request.  A new id re-arms the budget; while the request stays pending past the timeout
the budget answers once with `send` and then with `revert`.

## Main results

* `retryBudgetStep_spec` : at most one `send` for each id.
* `retryBudgetStep_live` : when a budget that still watches a request goes on watching it.

Ids are counted without wrapping and read through 32 bits, which is what the code compares.
-/

namespace GdoBlaq

/-- `retry_action_t` -/
inductive RetryAction where
  | wait
  | send
  | revert
  deriving DecidableEq, Repr

/-- `retry_budget_t` -/
structure RetryBudget where
  commandId : ℕ := 0
  startedMs : ℤ := 0
  attempts : ℕ := 0
  done : Bool := false
  deriving DecidableEq, Repr

/-- The first half of `retry_budget_step`: a new id starts a new budget, and a request that is
not pending uses its budget up. -/
def RetryBudget.observe (b : RetryBudget) (id : ℕ) (pending : Bool) (now : ℤ) : RetryBudget :=
  let b := if Stamp.read 32 b.commandId ≠ Stamp.read 32 id then ⟨id, now, 0, false⟩ else b
  if pending then b else { b with done := true }

/-- `retry_budget_step` -/
def retryBudgetStep (b : RetryBudget) (id : ℕ) (pending retryAllowed : Bool) (now : ℤ)
    (timeout : ℕ) : RetryBudget × RetryAction :=
  if Stamp.read 32 id = 0 then (b, .wait)
  else
    let b := b.observe id pending now
    if b.done ∨ now - b.startedMs ≤ timeout then (b, .wait)
    else
      let b := { b with startedMs := now }
      if retryAllowed then
        if b.attempts = 0 then ({ b with attempts := b.attempts + 1 }, .send)
        else ({ b with attempts := b.attempts + 1, done := true }, .revert)
      else ({ b with done := true }, .revert)

/-- **What one step of the budget does.**  It takes up a new id, or goes on with the same; it says
`send` only at the first attempt of an id, which is thereby spent. -/
theorem retryBudgetStep_spec {b b' : RetryBudget} {id timeout : ℕ} {pending retryAllowed : Bool}
    {now : ℤ} {action : RetryAction}
    (h : retryBudgetStep b id pending retryAllowed now timeout = (b', action)) :
    (Stamp.read 32 b.commandId ≠ Stamp.read 32 id ∧ b'.commandId = id ∨
        b'.commandId = b.commandId ∧ b.attempts ≤ b'.attempts ∧ (action = .send → b.attempts = 0)) ∧
      (action = .send → b'.attempts ≠ 0) := by
  unfold retryBudgetStep at h
  by_cases hnone : Stamp.read 32 id = 0
  · rw [if_pos hnone] at h
    obtain ⟨rfl, rfl⟩ := Prod.mk.inj h
    simp
  rw [if_neg hnone] at h
  have hobserve : Stamp.read 32 b.commandId ≠ Stamp.read 32 id ∧
        (b.observe id pending now).commandId = id ∨
      (b.observe id pending now).commandId = b.commandId ∧
        (b.observe id pending now).attempts = b.attempts := by
    unfold RetryBudget.observe
    by_cases hnew : Stamp.read 32 b.commandId ≠ Stamp.read 32 id
    · exact .inl ⟨hnew, by cases pending <;> simp [hnew]⟩
    · exact .inr (by cases pending <;> simp [hnew])
  simp only at h
  split_ifs at h <;> obtain ⟨rfl, rfl⟩ := Prod.mk.inj h <;>
    rcases hobserve with ⟨hne, hid⟩ | ⟨hid, hatt⟩ <;> simp_all

/-- The budget still watches the request `id`: it is one, and it is not one that was given up. -/
def RetryBudget.Live (b : RetryBudget) (id : ℕ) : Prop :=
  Stamp.read 32 id ≠ 0 ∧ (Stamp.read 32 b.commandId = Stamp.read 32 id → b.done = false)

/-- The next step that finds the request `id` pending will give it up. -/
def RetryBudget.Exhausted (b : RetryBudget) (id : ℕ) (retryAllowed : Bool) (now : ℤ)
    (timeout : ℕ) : Prop :=
  Stamp.read 32 b.commandId = Stamp.read 32 id ∧ (timeout : ℤ) < now - b.startedMs ∧
    (retryAllowed = true → b.attempts ≠ 0)

instance (b : RetryBudget) (id : ℕ) : Decidable (b.Live id) :=
  inferInstanceAs (Decidable (_ ∧ _))

instance (b : RetryBudget) (id : ℕ) (retryAllowed : Bool) (now : ℤ) (timeout : ℕ) :
    Decidable (b.Exhausted id retryAllowed now timeout) :=
  inferInstanceAs (Decidable (_ ∧ _))

/-- **How a request is let go.**  A step goes on watching it exactly if it finds it pending and does
not give it up, which it does when the budget is exhausted.  It acts as soon as the timeout is
over. -/
theorem retryBudgetStep_live {b b' : RetryBudget} {id timeout : ℕ} {pending retryAllowed : Bool}
    {now : ℤ} {action : RetryAction} (hlive : b.Live id)
    (h : retryBudgetStep b id pending retryAllowed now timeout = (b', action)) :
    (b'.Live id ↔ pending = true ∧ ¬ b.Exhausted id retryAllowed now timeout) ∧
      (action = .revert ↔ pending = true ∧ b.Exhausted id retryAllowed now timeout) ∧
      (pending = true → Stamp.read 32 b.commandId = Stamp.read 32 id →
        (timeout : ℤ) < now - b.startedMs → action ≠ .wait) := by
  obtain ⟨hid, hdone⟩ := hlive
  unfold retryBudgetStep at h
  rw [if_neg hid] at h
  by_cases hsame : Stamp.read 32 b.commandId = Stamp.read 32 id
  · have hgoes : b.done = false := hdone hsame
    cases pending with
    | false =>
      simp only [RetryBudget.observe, hsame, ne_eq, not_true_eq_false, ite_false, true_or, ite_true,
        Bool.false_eq_true] at h
      obtain ⟨rfl, rfl⟩ := Prod.mk.inj h
      simp [RetryBudget.Live, hid, hsame]
    | true =>
      simp only [RetryBudget.observe, hsame, hgoes, ne_eq, not_true_eq_false, ite_false, ite_true,
        Bool.false_eq_true, false_or] at h
      split_ifs at h with hwait hallowed hfirst <;> obtain ⟨rfl, rfl⟩ := Prod.mk.inj h
      · simp [RetryBudget.Live, RetryBudget.Exhausted, hid, hgoes, hsame, hwait]
      · simp [RetryBudget.Live, RetryBudget.Exhausted, hid, hallowed, hfirst]
      · simp [RetryBudget.Live, RetryBudget.Exhausted, hid, hsame, hfirst, not_le.1 hwait]
      · simp [RetryBudget.Live, RetryBudget.Exhausted, hid, hsame, hallowed, not_le.1 hwait]
  -- a new id is not given up at once
  · have hwait : now - now ≤ (timeout : ℤ) := by omega
    cases pending with
    | false =>
      simp only [RetryBudget.observe, hsame, ne_eq, not_false_eq_true, ite_true, true_or,
        Bool.false_eq_true, ite_false] at h
      obtain ⟨rfl, rfl⟩ := Prod.mk.inj h
      simp [RetryBudget.Live]
    | true =>
      simp only [RetryBudget.observe, hsame, ne_eq, not_false_eq_true, ite_true, hwait,
        or_true] at h
      obtain ⟨rfl, rfl⟩ := Prod.mk.inj h
      simp [RetryBudget.Live, RetryBudget.Exhausted, hid, hsame]

end GdoBlaq
