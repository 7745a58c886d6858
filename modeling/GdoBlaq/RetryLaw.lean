import GdoBlaq.RetryBudget
import Mathlib.Tactic.Common
import Mathlib.Tactic.IntervalCases

/-!
# The law of the retry budget

A sequence of `retry_budget_step` calls from the zero budget, cut into the stretches in which all
calls carry one id.  Within a stretch the answers are: wait while the first deadline runs; at most
one `send` behind it, and a second deadline from there; at most one `revert`; nothing more.

## Main results

* `budgetAfter_phase` : in which of three phases a stretch is, and what the budget then holds.
* `retryBudget_law` : what each call of a stretch answers.
-/

namespace GdoBlaq

/-- The arguments of a `retry_budget_step` call, other than the timeout. -/
structure RetryCall where
  id : ℕ
  pending : Bool
  retryAllowed : Bool
  now : ℤ
  deriving DecidableEq, Repr

/-- The `uint32_t` that the call passes. -/
def RetryCall.shown (c : RetryCall) : ℕ := Stamp.read 32 c.id

/-! ### What one call does -/

section Step

variable {b : RetryBudget} {c : RetryCall} (timeout : ℕ)

/-- `retry_budget_step(&b, …)` -/
def RetryBudget.call (b : RetryBudget) (c : RetryCall) (timeout : ℕ) : RetryBudget × RetryAction :=
  retryBudgetStep b c.id c.pending c.retryAllowed c.now timeout

theorem call_idle (h : c.shown = 0) : b.call c timeout = (b, .wait) := if_pos h

theorem call_fresh (h : c.shown ≠ 0) (hnew : Stamp.read 32 b.commandId ≠ c.shown) :
    b.call c timeout = (⟨c.id, c.now, 0, !c.pending⟩, .wait) := by
  simp only [RetryCall.shown] at h hnew
  unfold RetryBudget.call retryBudgetStep RetryBudget.observe
  cases hpending : c.pending <;> simp [h, hnew]

theorem call_unpending (h : c.shown ≠ 0) (hsame : Stamp.read 32 b.commandId = c.shown)
    (hpending : c.pending = false) : b.call c timeout = ({ b with done := true }, .wait) := by
  simp only [RetryCall.shown] at h hsame
  unfold RetryBudget.call retryBudgetStep RetryBudget.observe
  simp [h, hsame, hpending]

theorem call_done (h : c.shown ≠ 0) (hsame : Stamp.read 32 b.commandId = c.shown)
    (hdone : b.done = true) : b.call c timeout = (b, .wait) := by
  simp only [RetryCall.shown] at h hsame
  obtain ⟨commandId, startedMs, attempts, done⟩ := b
  simp only at hsame hdone
  subst hdone
  unfold RetryBudget.call retryBudgetStep RetryBudget.observe
  simp [h, hsame]

theorem call_early (h : c.shown ≠ 0) (hsame : Stamp.read 32 b.commandId = c.shown)
    (hpending : c.pending = true) (hearly : c.now - b.startedMs ≤ timeout) :
    b.call c timeout = (b, .wait) := by
  simp only [RetryCall.shown] at h hsame
  unfold RetryBudget.call retryBudgetStep RetryBudget.observe
  simp [h, hsame, hpending, hearly]

theorem call_late (h : c.shown ≠ 0) (hsame : Stamp.read 32 b.commandId = c.shown)
    (hpending : c.pending = true) (hgoes : b.done = false)
    (hlate : (timeout : ℤ) < c.now - b.startedMs) :
    (c.retryAllowed = true → b.attempts = 0 →
        b.call c timeout = ({ b with startedMs := c.now, attempts := 1 }, .send)) ∧
      (c.retryAllowed = false ∨ b.attempts ≠ 0 →
        (b.call c timeout).1.commandId = b.commandId ∧ (b.call c timeout).1.done = true ∧
          (b.call c timeout).2 = .revert) := by
  simp only [RetryCall.shown] at h hsame
  have hover : ¬ c.now ≤ timeout + b.startedMs := by omega
  unfold RetryBudget.call retryBudgetStep RetryBudget.observe
  constructor
  · intro hallowed hfirst
    simp [h, hsame, hpending, hgoes, hover, hallowed, hfirst]
  · rintro (hallowed | hspent)
    · simp [h, hsame, hpending, hgoes, hover, hallowed]
    · cases hallowed : c.retryAllowed <;> simp [h, hsame, hpending, hgoes, hover, hspent]

end Step

/-! ### Sequences of calls -/

section Sequence

variable (calls : ℕ → RetryCall) (timeout : ℕ)

/-- The budget after the first `n` calls. -/
def budgetAfter : ℕ → RetryBudget
  | 0 => {}
  | n + 1 => ((budgetAfter n).call (calls n) timeout).1

/-- What the call number `n` returns. -/
def answer (n : ℕ) : RetryAction := ((budgetAfter calls timeout n).call (calls n) timeout).2

/-- The calls from `p` on to `q` all carry the id `i`, or none, and no call before `p` belongs to
them: between an earlier call of the same id and `p` there is one of another. -/
structure Stretch (p q i : ℕ) : Prop where
  id_ne : i ≠ 0
  first : (calls p).shown = i
  same : ∀ j, p ≤ j → j < q → (calls j).shown = i ∨ (calls j).shown = 0
  fresh : ∀ j < p, (calls j).shown = i →
    ∃ k, j < k ∧ k < p ∧ (calls k).shown ≠ 0 ∧ (calls k).shown ≠ i

/-- The answers to a stretch of calls from `p` on to `q`. -/
structure RetryLaw (p q : ℕ) : Prop where
  one_send : ∀ j k, p ≤ j → j < k → k < q →
    answer calls timeout j = .send → answer calls timeout k ≠ .send
  one_revert : ∀ j k, p ≤ j → j < k → k < q →
    answer calls timeout j = .revert → answer calls timeout k ≠ .revert
  no_send_after_revert : ∀ j k, p ≤ j → j < k → k < q →
    answer calls timeout j = .revert → answer calls timeout k ≠ .send
  wait_once_unpending : ∀ j k, p ≤ j → j ≤ k → k < q → (calls j).shown ≠ 0 →
    (calls j).pending = false → answer calls timeout k = .wait
  send_allowed : ∀ j, p ≤ j → j < q → answer calls timeout j = .send →
    (calls j).retryAllowed = true
  send_late : ∀ j, p ≤ j → j < q → answer calls timeout j = .send →
    (timeout : ℤ) < (calls j).now - (calls p).now
  revert_late : ∀ j, p ≤ j → j < q → answer calls timeout j = .revert →
    (∀ k, p ≤ k → k < j → answer calls timeout k ≠ .send) →
    (timeout : ℤ) < (calls j).now - (calls p).now
  revert_after_send : ∀ j k, p ≤ j → j < k → k < q → answer calls timeout j = .send →
    answer calls timeout k = .revert → (timeout : ℤ) < (calls k).now - (calls j).now
  first_deadline : ∀ j, p ≤ j → j < q → (calls j).shown ≠ 0 →
    (∀ k, p ≤ k → k ≤ j → (calls k).shown ≠ 0 → (calls k).pending = true) →
    (∀ k, p ≤ k → k < j → (calls k).shown ≠ 0 → (calls k).now - (calls p).now ≤ timeout) →
    (timeout : ℤ) < (calls j).now - (calls p).now →
    answer calls timeout j = if (calls j).retryAllowed then .send else .revert
  second_deadline : ∀ j k, p ≤ j → j < k → k < q → answer calls timeout j = .send →
    (calls k).shown ≠ 0 →
    (∀ m, j < m → m ≤ k → (calls m).shown ≠ 0 → (calls m).pending = true) →
    (∀ m, j < m → m < k → (calls m).shown ≠ 0 → (calls m).now - (calls j).now ≤ timeout) →
    (timeout : ℤ) < (calls k).now - (calls j).now → answer calls timeout k = .revert

/-- From `m` on to `n` the budget waits: no id, or a pending request and the deadline of the call
`start` still ahead. -/
def WaitsOn (start m n : ℕ) : Prop :=
  ∀ j, m ≤ j → j < n → answer calls timeout j = .wait ∧
    ((calls j).shown ≠ 0 → (calls j).pending = true ∧
      (calls j).now - (calls start).now ≤ timeout)

/-- The call `s` is the `send` of the stretch that began at `p`, and the second deadline runs
until `n`. -/
structure SentAt (p s n : ℕ) : Prop where
  before : WaitsOn calls timeout p p s
  le : p ≤ s
  lt : s < n
  acts : answer calls timeout s = .send
  shown : (calls s).shown ≠ 0
  pending : (calls s).pending = true
  allowed : (calls s).retryAllowed = true
  late : (timeout : ℤ) < (calls s).now - (calls p).now
  after : WaitsOn calls timeout s (s + 1) n

/-- The call `k` ends the budget of the stretch: the request is no longer pending, or the deadline
of the call `start` is over and it is given up. -/
def EndsAt (start k : ℕ) : Prop :=
  (calls k).shown ≠ 0 ∧
    ((calls k).pending = false ∧ answer calls timeout k = .wait ∨
      (calls k).pending = true ∧ answer calls timeout k = .revert ∧
        (timeout : ℤ) < (calls k).now - (calls start).now)

/-- Where a stretch that began at `p` is before the call `n`, and what the budget holds. -/
inductive StretchPhase (p n : ℕ) : Prop
  /-- The first deadline runs. -/
  | watching (waits : WaitsOn calls timeout p p n)
      (started : (budgetAfter calls timeout n).startedMs = (calls p).now)
      (attempts : (budgetAfter calls timeout n).attempts = 0)
      (goes : (budgetAfter calls timeout n).done = false)
  /-- The second deadline runs. -/
  | sent (s : ℕ) (sends : SentAt calls timeout p s n)
      (started : (budgetAfter calls timeout n).startedMs = (calls s).now)
      (attempts : (budgetAfter calls timeout n).attempts = 1)
      (goes : (budgetAfter calls timeout n).done = false)
  /-- It is over, before or after a `send`. -/
  | ended (k : ℕ) (ends : (WaitsOn calls timeout p p k ∧ EndsAt calls timeout p k ∧
        (answer calls timeout k = .revert → (calls k).retryAllowed = false)) ∨
        ∃ s, SentAt calls timeout p s k ∧ EndsAt calls timeout s k)
      (le : p ≤ k) (lt : k < n) (rest : ∀ j, k < j → j < n → answer calls timeout j = .wait)
      (done : (budgetAfter calls timeout n).done = true)

variable {calls timeout} {p q n i : ℕ}

/-! ### The id in the budget -/

theorem call_commandId {b : RetryBudget} {c : RetryCall} (h : c.shown ≠ 0) :
    Stamp.read 32 (b.call c timeout).1.commandId = c.shown := by
  by_cases hsame : Stamp.read 32 b.commandId = c.shown
  · cases hpending : c.pending with
    | false => rw [call_unpending timeout h hsame hpending, ← hsame]
    | true =>
      cases hdone : b.done with
      | true => rw [call_done timeout h hsame hdone, ← hsame]
      | false =>
        by_cases hlate : c.now - b.startedMs ≤ timeout
        · rw [call_early timeout h hsame hpending hlate, ← hsame]
        · have hcall := call_late timeout h hsame hpending hdone (not_le.1 hlate)
          by_cases hsend : c.retryAllowed = true ∧ b.attempts = 0
          · rw [hcall.1 hsend.1 hsend.2, ← hsame]
          · rw [(hcall.2 (by simpa [imp_iff_not_or] using hsend)).1, hsame]
  · rw [call_fresh timeout h hsame, RetryCall.shown]

variable (calls timeout) in
theorem budgetAfter_commandId (n : ℕ) :
    Stamp.read 32 (budgetAfter calls timeout n).commandId = 0 ∨
      ∃ k < n, (calls k).shown = Stamp.read 32 (budgetAfter calls timeout n).commandId ∧
        ∀ j, k < j → j < n → (calls j).shown = 0 := by
  induction n with
  | zero => exact .inl rfl
  | succ n ih =>
    by_cases hidle : (calls n).shown = 0
    · rw [budgetAfter, call_idle timeout hidle]
      refine ih.imp_right ?_
      rintro ⟨k, hk, hshown, hrest⟩
      refine ⟨k, Nat.lt_succ_of_lt hk, hshown, fun j hj hn => ?_⟩
      rcases Nat.lt_succ_iff_lt_or_eq.1 hn with hlt | rfl
      · exact hrest j hj hlt
      · exact hidle
    · exact .inr ⟨n, Nat.lt_succ_self n, (call_commandId hidle).symm, fun j hj hn => by omega⟩

theorem Stretch.commandId_ne (h : Stretch calls p q i) :
    Stamp.read 32 (budgetAfter calls timeout p).commandId ≠ i := by
  intro heq
  rcases budgetAfter_commandId calls timeout p with hzero |
    ⟨k, hk, hshown, hrest⟩
  · exact h.id_ne (heq ▸ hzero)
  · obtain ⟨j, hkj, hjp, hne, -⟩ := h.fresh k hk (hshown.trans heq)
    exact hne (hrest j hkj hjp)

theorem Stretch.commandId_eq (h : Stretch calls p q i) (hlt : p < n) (hle : n ≤ q) :
    Stamp.read 32 (budgetAfter calls timeout n).commandId = i := by
  induction n, hlt using Nat.le_induction with
  | base =>
    have hid : (calls p).shown ≠ 0 := fun hzero => h.id_ne (h.first ▸ hzero)
    exact (call_commandId hid).trans h.first
  | succ n hn ih =>
    rcases h.same n (by omega) (by omega) with hsame | hidle
    · exact (call_commandId (fun hzero => h.id_ne (hsame ▸ hzero))).trans hsame
    · rw [budgetAfter, call_idle timeout hidle]
      exact ih (by omega)

/-! ### The phases -/

theorem WaitsOn.nil (start m : ℕ) : WaitsOn calls timeout start m m :=
  fun _ hlo hhi => absurd hlo (not_le.2 hhi)

theorem WaitsOn.snoc {start m : ℕ} (h : WaitsOn calls timeout start m n)
    (hwait : answer calls timeout n = .wait)
    (hactive : (calls n).shown ≠ 0 →
      (calls n).pending = true ∧ (calls n).now - (calls start).now ≤ timeout) :
    WaitsOn calls timeout start m (n + 1) := by
  intro j hlo hhi
  rcases Nat.lt_succ_iff_lt_or_eq.1 hhi with hlt | rfl
  · exact h j hlo hlt
  · exact ⟨hwait, hactive⟩

theorem Stretch.phase_first (h : Stretch calls p q i) : StretchPhase calls timeout p (p + 1) := by
  have hid : (calls p).shown ≠ 0 := fun hzero => h.id_ne (h.first ▸ hzero)
  have hcall := call_fresh (b := budgetAfter calls timeout p) timeout hid
    (h.first.symm ▸ h.commandId_ne)
  have hwait : answer calls timeout p = .wait := by rw [answer, hcall]
  cases hpending : (calls p).pending with
  | true =>
    refine .watching ((WaitsOn.nil p p).snoc hwait fun _ => ⟨hpending, by omega⟩) ?_ ?_ ?_
    all_goals rw [budgetAfter, hcall]
    rw [hpending]
    rfl
  | false =>
    refine .ended p (.inl ⟨WaitsOn.nil p p, ⟨hid, .inl ⟨hpending, hwait⟩⟩, ?_⟩) le_rfl
      (Nat.lt_succ_self p) (fun j hlo hhi => by omega) ?_
    · rw [hwait]
      exact fun hrevert => by cases hrevert
    · rw [budgetAfter, hcall, hpending]
      rfl

theorem StretchPhase.idle (h : StretchPhase calls timeout p n) (hlt : p < n)
    (hidle : (calls n).shown = 0) :
    StretchPhase calls timeout p (n + 1) := by
  have hcall := call_idle (b := budgetAfter calls timeout n) timeout hidle
  have hwait : answer calls timeout n = .wait := by rw [answer, hcall]
  have hsame : budgetAfter calls timeout (n + 1) = budgetAfter calls timeout n := by
    rw [budgetAfter, hcall]
  cases h with
  | watching waits started attempts goes =>
    exact .watching (waits.snoc hwait fun hid => absurd hidle hid) (hsame ▸ started)
      (hsame ▸ attempts) (hsame ▸ goes)
  | sent s sends started attempts goes =>
    refine .sent s { sends with lt := Nat.lt_succ_of_lt sends.lt, after := ?_ } (hsame ▸ started)
      (hsame ▸ attempts) (hsame ▸ goes)
    exact sends.after.snoc hwait fun hid => absurd hidle hid
  | ended k ends le lt rest done =>
    refine .ended k ends le (Nat.lt_succ_of_lt lt) (fun j hlo hhi => ?_) (hsame ▸ done)
    rcases Nat.lt_succ_iff_lt_or_eq.1 hhi with hj | rfl
    · exact rest j hlo hj
    · exact hwait

/-- A call with the id while the first deadline runs: the request is gone, the deadline goes on, or
it is over. -/
theorem StretchPhase.active_watching (hlt : p < n) (hid : (calls n).shown ≠ 0)
    (hsame : Stamp.read 32 (budgetAfter calls timeout n).commandId = (calls n).shown)
    (waits : WaitsOn calls timeout p p n)
    (started : (budgetAfter calls timeout n).startedMs = (calls p).now)
    (attempts : (budgetAfter calls timeout n).attempts = 0)
    (goes : (budgetAfter calls timeout n).done = false) : StretchPhase calls timeout p (n + 1) := by
  cases hpending : (calls n).pending with
  | false =>
    have hcall := call_unpending timeout hid hsame hpending
    have hwait : answer calls timeout n = .wait := by rw [answer, hcall]
    refine .ended n (.inl ⟨waits, ⟨hid, .inl ⟨hpending, hwait⟩⟩, fun hrevert => ?_⟩) hlt.le
      (Nat.lt_succ_self n) (fun j hlo hhi => by omega) ?_
    · rw [hwait] at hrevert
      cases hrevert
    · rw [budgetAfter, hcall]
  | true =>
    by_cases hearly : (calls n).now - (budgetAfter calls timeout n).startedMs ≤ timeout
    · have hcall := call_early timeout hid hsame hpending hearly
      have hwait : answer calls timeout n = .wait := by rw [answer, hcall]
      refine .watching (waits.snoc hwait fun _ => ⟨hpending, started ▸ hearly⟩) ?_ ?_ ?_
      all_goals rw [budgetAfter, hcall]
      · exact started
      · exact attempts
      · exact goes
    · -- the deadline is over: one `send` if the opener may be sent the command again, else the end
      have hlate := not_le.1 hearly
      have hcall := call_late timeout hid hsame hpending goes hlate
      rw [started] at hlate
      cases hallowed : (calls n).retryAllowed with
      | true =>
        have hsend := hcall.1 hallowed attempts
        refine .sent n ⟨waits, hlt.le, Nat.lt_succ_self n, by rw [answer, hsend], hid, hpending,
          hallowed, hlate, WaitsOn.nil n (n + 1)⟩ ?_ ?_ ?_
        all_goals rw [budgetAfter, hsend]
        exact goes
      | false =>
        obtain ⟨-, hdone, hrevert⟩ := hcall.2 (.inl hallowed)
        exact .ended n (.inl ⟨waits, ⟨hid, .inr ⟨hpending, hrevert, hlate⟩⟩, fun _ => hallowed⟩)
          hlt.le (Nat.lt_succ_self n) (fun j hlo hhi => by omega) hdone

/-- A call with the id while the second deadline runs: there is no other `send` behind it. -/
theorem StretchPhase.active_sent {s : ℕ} (hlt : p < n) (hid : (calls n).shown ≠ 0)
    (hsame : Stamp.read 32 (budgetAfter calls timeout n).commandId = (calls n).shown)
    (sends : SentAt calls timeout p s n)
    (started : (budgetAfter calls timeout n).startedMs = (calls s).now)
    (attempts : (budgetAfter calls timeout n).attempts = 1)
    (goes : (budgetAfter calls timeout n).done = false) : StretchPhase calls timeout p (n + 1) := by
  cases hpending : (calls n).pending with
  | false =>
    have hcall := call_unpending timeout hid hsame hpending
    have hwait : answer calls timeout n = .wait := by rw [answer, hcall]
    refine .ended n (.inr ⟨s, sends, ⟨hid, .inl ⟨hpending, hwait⟩⟩⟩) hlt.le
      (Nat.lt_succ_self n) (fun j hlo hhi => by omega) ?_
    rw [budgetAfter, hcall]
  | true =>
    by_cases hearly : (calls n).now - (budgetAfter calls timeout n).startedMs ≤ timeout
    · have hcall := call_early timeout hid hsame hpending hearly
      have hwait : answer calls timeout n = .wait := by rw [answer, hcall]
      refine .sent s { sends with lt := Nat.lt_succ_of_lt sends.lt, after := ?_ } ?_ ?_ ?_
      · exact sends.after.snoc hwait fun _ => ⟨hpending, started ▸ hearly⟩
      all_goals rw [budgetAfter, hcall]
      · exact started
      · exact attempts
      · exact goes
    · have hlate := not_le.1 hearly
      obtain ⟨-, hdone, hrevert⟩ := (call_late timeout hid hsame hpending goes
        hlate).2 (.inr (by rw [attempts]; decide))
      rw [started] at hlate
      exact .ended n (.inr ⟨s, sends, ⟨hid, .inr ⟨hpending, hrevert, hlate⟩⟩⟩) hlt.le
        (Nat.lt_succ_self n) (fun j hlo hhi => by omega) hdone

/-- **One call of the stretch.**  Each phase goes on, or goes over into the next. -/
theorem StretchPhase.active (h : StretchPhase calls timeout p n) (hlt : p < n)
    (hid : (calls n).shown ≠ 0)
    (hsame : Stamp.read 32 (budgetAfter calls timeout n).commandId = (calls n).shown) :
    StretchPhase calls timeout p (n + 1) := by
  cases h with
  | watching waits started attempts goes =>
    exact .active_watching hlt hid hsame waits started attempts goes
  | sent s sends started attempts goes =>
    exact .active_sent hlt hid hsame sends started attempts goes
  | ended k ends le lt rest done =>
    have hcall := call_done timeout hid hsame done
    refine .ended k ends le (Nat.lt_succ_of_lt lt) (fun j hlo hhi => ?_) ?_
    · rcases Nat.lt_succ_iff_lt_or_eq.1 hhi with hj | rfl
      · exact rest j hlo hj
      · rw [answer, hcall]
    · rw [budgetAfter, hcall, done]

/-- **Every stretch is in one of the phases.** -/
theorem budgetAfter_phase (h : Stretch calls p q i) (hlt : p < n) (hle : n ≤ q) :
    StretchPhase calls timeout p n := by
  induction n, hlt using Nat.le_induction with
  | base => exact h.phase_first
  | succ n hn ih =>
    have hphase := ih (by omega)
    rcases h.same n (by omega) (by omega) with hsame | hidle
    · exact hphase.active hn (fun hzero => h.id_ne (hsame ▸ hzero))
        ((h.commandId_eq hn (by omega)).trans hsame.symm)
    · exact hphase.idle hn hidle

/-! ### The law -/

/-- All that the phase behind a stretch says of it: how far the first deadline was waited for, and
what came then. -/
theorem StretchPhase.cases_at (h : StretchPhase calls timeout p q) :
    WaitsOn calls timeout p p q ∨ (∃ s, SentAt calls timeout p s q) ∨
      ∃ k, k < q ∧ p ≤ k ∧ (∀ j, k < j → j < q → answer calls timeout j = .wait) ∧
        ((WaitsOn calls timeout p p k ∧ EndsAt calls timeout p k ∧
            (answer calls timeout k = .revert → (calls k).retryAllowed = false)) ∨
          ∃ s, SentAt calls timeout p s k ∧ EndsAt calls timeout s k) := by
  cases h with
  | watching waits => exact .inl waits
  | sent s sends => exact .inr (.inl ⟨s, sends⟩)
  | ended k ends le lt rest => exact .inr (.inr ⟨k, lt, le, rest, ends⟩)

theorem WaitsOn.outside {start m j : ℕ} (h : WaitsOn calls timeout start m n)
    (hacts : answer calls timeout j ≠ .wait) : j < m ∨ n ≤ j := by
  by_contra hmem
  rw [not_or, not_lt, not_le] at hmem
  exact hacts (h j hmem.1 hmem.2).1

theorem EndsAt.not_send {start k : ℕ} (h : EndsAt calls timeout start k) :
    answer calls timeout k ≠ .send := by
  intro hsend
  obtain ⟨-, ⟨-, hwait⟩ | ⟨-, hrevert, -⟩⟩ := h
  · rw [hsend] at hwait
    cases hwait
  · rw [hsend] at hrevert
    cases hrevert

theorem EndsAt.wait_of_unpending {start k : ℕ} (h : EndsAt calls timeout start k)
    (hpending : (calls k).pending = false) : answer calls timeout k = .wait := by
  obtain ⟨-, ⟨-, hwait⟩ | ⟨hstill, -, -⟩⟩ := h
  · exact hwait
  · rw [hpending] at hstill
    cases hstill

theorem EndsAt.revert_of_pending {start k : ℕ} (h : EndsAt calls timeout start k)
    (hpending : (calls k).pending = true) : answer calls timeout k = .revert := by
  obtain ⟨-, ⟨hgone, -⟩ | ⟨-, hrevert, -⟩⟩ := h
  · rw [hpending] at hgone
    cases hgone
  · exact hrevert

theorem EndsAt.late {start k : ℕ} (h : EndsAt calls timeout start k)
    (hacts : answer calls timeout k ≠ .wait) :
    (timeout : ℤ) < (calls k).now - (calls start).now := by
  obtain ⟨-, ⟨-, hwait⟩ | ⟨-, -, hlate⟩⟩ := h
  · exact absurd hwait hacts
  · exact hlate

theorem SentAt.eq_of_acts {s j : ℕ} (h : SentAt calls timeout p s n) (hlo : p ≤ j) (hhi : j < n)
    (hacts : answer calls timeout j ≠ .wait) : j = s := by
  have hbefore := h.before.outside hacts
  have hafter := h.after.outside hacts
  omega

/-- A `send` is followed by waits up to the end of the stretch, or up to the call that ends the
budget. -/
theorem StretchPhase.send (h : StretchPhase calls timeout p q) {j : ℕ} (hlo : p ≤ j) (hhi : j < q)
    (hsend : answer calls timeout j = .send) :
    SentAt calls timeout p j q ∨ ∃ k, k < q ∧ SentAt calls timeout p j k ∧
      EndsAt calls timeout j k ∧ ∀ m, k < m → m < q → answer calls timeout m = .wait := by
  have hacts : answer calls timeout j ≠ .wait := by
    rw [hsend]
    decide
  have hnotend : ∀ {start k : ℕ}, EndsAt calls timeout start k → j ≠ k := by
    rintro start k hends rfl
    exact hends.not_send hsend
  rcases h.cases_at with hwaits | ⟨s, hsent⟩ | ⟨k, hk, hpk, hrest, ⟨hwaits, hends, -⟩ |
    ⟨s, hsent, hends⟩⟩
  · have := hwaits.outside hacts
    omega
  · obtain rfl := hsent.eq_of_acts hlo hhi hacts
    exact .inl hsent
  · have hout := hwaits.outside hacts
    have hle : j ≤ k := not_lt.1 fun hkj => hacts (hrest j hkj hhi)
    have hne := hnotend hends
    omega
  · have hle : j ≤ k := not_lt.1 fun hkj => hacts (hrest j hkj hhi)
    obtain rfl := hsent.eq_of_acts hlo (lt_of_le_of_ne hle (hnotend hends)) hacts
    exact .inr ⟨k, hk, hsent, hends, hrest⟩

/-- A `revert` is followed by nothing but waits.  Before it the first deadline was waited for, on
an opener that may not be sent the command again, or the deadline of the `send`. -/
theorem StretchPhase.revert (h : StretchPhase calls timeout p q) {j : ℕ} (hlo : p ≤ j) (hhi : j < q)
    (hrevert : answer calls timeout j = .revert) :
    (∀ m, j < m → m < q → answer calls timeout m = .wait) ∧
      ((WaitsOn calls timeout p p j ∧ (timeout : ℤ) < (calls j).now - (calls p).now ∧
          (calls j).retryAllowed = false) ∨
        ∃ s, SentAt calls timeout p s j ∧ (timeout : ℤ) < (calls j).now - (calls s).now) := by
  have hacts : answer calls timeout j ≠ .wait := by
    rw [hrevert]
    decide
  have hnotsend : ∀ {s n : ℕ}, SentAt calls timeout p s n → j < n → False := by
    intro s n hsent hlt
    have hsend := hsent.acts
    rw [← hsent.eq_of_acts hlo hlt hacts, hrevert] at hsend
    cases hsend
  rcases h.cases_at with hwaits | ⟨s, hsent⟩ | ⟨k, hk, hpk, hrest, hends⟩
  · have := hwaits.outside hacts
    omega
  · exact (hnotsend hsent hhi).elim
  · have hle : j ≤ k := not_lt.1 fun hkj => hacts (hrest j hkj hhi)
    rcases hends with ⟨hwaits, hends, hallowed⟩ | ⟨s, hsent, hends⟩
    · have hout := hwaits.outside hacts
      obtain rfl : j = k := by omega
      exact ⟨hrest, .inl ⟨hwaits, hends.late hacts, hallowed hrevert⟩⟩
    · obtain rfl : j = k := by
        by_contra hne
        exact hnotsend hsent (lt_of_le_of_ne hle hne)
      exact ⟨hrest, .inr ⟨s, hsent, hends.late hacts⟩⟩

/-- A call whose request is not pending waits, and so do all after it. -/
theorem StretchPhase.unpending (h : StretchPhase calls timeout p q) {j : ℕ} (hlo : p ≤ j)
    (hhi : j < q) (hid : (calls j).shown ≠ 0) (hpending : (calls j).pending = false) :
    ∀ m, j ≤ m → m < q → answer calls timeout m = .wait := by
  have hwaits : ∀ {start m n : ℕ}, WaitsOn calls timeout start m n → j < m ∨ n ≤ j := by
    intro start m n hwaits
    by_contra hmem
    rw [not_or, not_lt, not_le] at hmem
    have hstill := ((hwaits j hmem.1 hmem.2).2 hid).1
    rw [hpending] at hstill
    cases hstill
  have hsent : ∀ {s n : ℕ}, SentAt calls timeout p s n → n ≤ j := by
    intro s n hsent
    have hbefore := hwaits hsent.before
    have hafter := hwaits hsent.after
    have hne : j ≠ s := by
      rintro rfl
      have hstill := hsent.pending
      rw [hpending] at hstill
      cases hstill
    omega
  rcases h.cases_at with hquiet | ⟨s, hs⟩ | ⟨k, hk, hpk, hrest, hends⟩
  · have := hwaits hquiet
    omega
  · have := hsent hs
    omega
  · have hle : k ≤ j := by
      rcases hends with ⟨hquiet, -, -⟩ | ⟨s, hs, -⟩
      · have := hwaits hquiet
        omega
      · exact hsent hs
    intro m hm hmq
    by_cases hkm : k < m
    · exact hrest m hkm hmq
    · obtain rfl : m = k := by omega
      obtain rfl : j = m := by omega
      rcases hends with ⟨-, hend, -⟩ | ⟨s, -, hend⟩
      · exact hend.wait_of_unpending hpending
      · exact hend.wait_of_unpending hpending

/-- Why a call whose request is pending waits: the first deadline runs, or the second, or an earlier
call ended the budget. -/
theorem StretchPhase.wait (h : StretchPhase calls timeout p q) {j : ℕ} (hhi : j < q)
    (hpending : (calls j).pending = true) (hwait : answer calls timeout j = .wait) :
    (∃ n, j < n ∧ WaitsOn calls timeout p p n) ∨
      (∃ s n, s < j ∧ j < n ∧ SentAt calls timeout p s n) ∨
        ∃ k start, p ≤ k ∧ k < j ∧ EndsAt calls timeout start k := by
  have hsent : ∀ {s n : ℕ}, SentAt calls timeout p s n → j < n →
      (∃ n, j < n ∧ WaitsOn calls timeout p p n) ∨
        ∃ s n, s < j ∧ j < n ∧ SentAt calls timeout p s n := by
    intro s n hsent hlt
    rcases lt_trichotomy j s with hjs | rfl | hsj
    · exact .inl ⟨s, hjs, hsent.before⟩
    · have hsend := hsent.acts
      rw [hwait] at hsend
      cases hsend
    · exact .inr ⟨s, n, hsj, hlt, hsent⟩
  rcases h.cases_at with hwaits | ⟨s, hs⟩ | ⟨k, hk, hpk, hrest, hends⟩
  · exact .inl ⟨q, hhi, hwaits⟩
  · exact (hsent hs hhi).imp_right .inl
  · have hnot : ∀ {start : ℕ}, EndsAt calls timeout start k → j ≠ k := by
      rintro start hend rfl
      have hrevert := hend.revert_of_pending hpending
      rw [hwait] at hrevert
      cases hrevert
    rcases lt_trichotomy j k with hjk | rfl | hkj
    · rcases hends with ⟨hwaits, -, -⟩ | ⟨s, hs, -⟩
      · exact .inl ⟨k, hjk, hwaits⟩
      · exact (hsent hs hjk).imp_right .inl
    · rcases hends with ⟨-, hend, -⟩ | ⟨s, -, hend⟩
      · exact absurd rfl (hnot hend)
      · exact absurd rfl (hnot hend)
    · rcases hends with ⟨-, hend, -⟩ | ⟨s, -, hend⟩
      · exact .inr (.inr ⟨k, p, hpk, hkj, hend⟩)
      · exact .inr (.inr ⟨k, s, hpk, hkj, hend⟩)

theorem StretchPhase.first_deadline (h : StretchPhase calls timeout p q) {j : ℕ} (hlo : p ≤ j)
    (hhi : j < q) (hid : (calls j).shown ≠ 0)
    (hpending : ∀ k, p ≤ k → k ≤ j → (calls k).shown ≠ 0 → (calls k).pending = true)
    (hearly : ∀ k, p ≤ k → k < j → (calls k).shown ≠ 0 → (calls k).now - (calls p).now ≤ timeout)
    (hlate : (timeout : ℤ) < (calls j).now - (calls p).now) :
    answer calls timeout j = if (calls j).retryAllowed then .send else .revert := by
  -- no `send` has been made before this call
  have hnosend : ∀ {s n : ℕ}, SentAt calls timeout p s n → ¬ s < j := by
    intro s n hsent hlt
    exact absurd (hearly s hsent.le hlt hsent.shown) (not_le.2 hsent.late)
  cases hanswer : answer calls timeout j with
  | send =>
    have hallowed : (calls j).retryAllowed = true := by
      rcases h.send hlo hhi hanswer with hsent | ⟨k, -, hsent, -⟩ <;> exact hsent.allowed
    rw [hallowed, if_pos rfl]
  | revert =>
    rcases (h.revert hlo hhi hanswer).2 with ⟨-, -, hallowed⟩ | ⟨s, hsent, -⟩
    · rw [hallowed, if_neg Bool.false_ne_true]
    · exact absurd hsent.lt (hnosend hsent)
  | wait =>
    rcases h.wait hhi (hpending j hlo le_rfl hid) hanswer with ⟨n, hn, hwaits⟩ |
      ⟨s, n, hsj, -, hsent⟩ | ⟨k, start, hpk, hkj, hends⟩
    · exact absurd ((hwaits j hlo hn).2 hid).2 (not_le.2 hlate)
    · exact absurd hsj (hnosend hsent)
    · -- the request was still pending at the end of the budget, so that was a `revert`
      have hrevert := hends.revert_of_pending (hpending k hpk hkj.le hends.1)
      rcases (h.revert hpk (hkj.trans hhi) hrevert).2 with ⟨-, hover, -⟩ | ⟨s, hsent, -⟩
      · exact absurd (hearly k hpk hkj hends.1) (not_le.2 hover)
      · exact absurd (hsent.lt.trans hkj) (hnosend hsent)

/-- The first call behind the second deadline gives the request up. -/
theorem StretchPhase.second_deadline (h : StretchPhase calls timeout p q) {j k : ℕ} (hlo : p ≤ j)
    (hjk : j < k) (hhi : k < q) (hsend : answer calls timeout j = .send) (hid : (calls k).shown ≠ 0)
    (hpending : ∀ m, j < m → m ≤ k → (calls m).shown ≠ 0 → (calls m).pending = true)
    (hearly : ∀ m, j < m → m < k → (calls m).shown ≠ 0 → (calls m).now - (calls j).now ≤ timeout)
    (hlate : (timeout : ℤ) < (calls k).now - (calls j).now) :
    answer calls timeout k = .revert := by
  have hacts : answer calls timeout j ≠ .wait := by
    rw [hsend]
    decide
  have hfirst : ∀ {s n : ℕ}, SentAt calls timeout p s n → j < n → j = s :=
    fun hsent hlt => hsent.eq_of_acts hlo hlt hacts
  cases hanswer : answer calls timeout k with
  | revert => rfl
  | send =>
    rcases h.send (hlo.trans hjk.le) hhi hanswer with hsent | ⟨n, -, hsent, -⟩
    · exact absurd (hfirst hsent (hjk.trans hhi)) hjk.ne
    · exact absurd (hfirst hsent (hjk.trans hsent.lt)) hjk.ne
  | wait =>
    rcases h.wait hhi (hpending k hjk le_rfl hid) hanswer with
      ⟨n, hn, hwaits⟩ | ⟨s, n, -, hn, hsent⟩ | ⟨m, start, hpm, hmk, hactive, hend⟩
    · have := hwaits.outside hacts
      omega
    · obtain rfl := hfirst hsent (hjk.trans hn)
      exact absurd ((hsent.after k hjk hn).2 hid).2 (not_le.2 hlate)
    · rcases hend with ⟨hgone, hwait⟩ | ⟨-, hrevert, -⟩
      · rcases lt_or_ge j m with hjm | hmj
        · rw [hpending m hjm hmk.le hactive] at hgone
          cases hgone
        · exact absurd (h.unpending hpm (hmk.trans hhi) hactive hgone j hmj (hjk.trans hhi)) hacts
      · have hover := h.revert hpm (hmk.trans hhi) hrevert
        rcases lt_trichotomy j m with hjm | rfl | hmj
        · rcases hover.2 with ⟨hwaits, -, -⟩ | ⟨s, hsent, hlater⟩
          · have := hwaits.outside hacts
            omega
          · obtain rfl := hfirst hsent hjm
            exact absurd (hearly m hjm hmk hactive) (not_le.2 hlater)
        · rw [hsend] at hrevert
          cases hrevert
        · exact absurd (hover.1 j hmj (hjk.trans hhi)) hacts

/-- **The law of the retry budget.**  In a stretch of calls with one id there is at most one
`send` and at most one `revert`, no `send` behind a `revert`, and nothing but waits once the
request is not pending; each comes only when it may, behind its deadline, and as long as the
request is pending the first call behind the deadline does bring it.  Calls without an id wait and
leave the budget as it is. -/
theorem retryBudget_law (h : Stretch calls p q i) :
    RetryLaw calls timeout p q ∧
      ∀ n, (calls n).shown = 0 → answer calls timeout n = .wait ∧
        budgetAfter calls timeout (n + 1) = budgetAfter calls timeout n := by
  have hphase : ∀ {j : ℕ}, p ≤ j → j < q → StretchPhase calls timeout p q :=
    fun hlo hhi => budgetAfter_phase h (lt_of_le_of_lt hlo hhi) le_rfl
  have hsent : ∀ {j : ℕ}, p ≤ j → j < q → answer calls timeout j = .send →
      ∃ n, j < n ∧ SentAt calls timeout p j n := by
    intro j hlo hhi hsend
    rcases (hphase hlo hhi).send hlo hhi hsend with hs | ⟨n, -, hs, -⟩ <;> exact ⟨_, hs.lt, hs⟩
  refine ⟨⟨?_, ?_, ?_, ?_, ?_, ?_, ?_, ?_, ?_, ?_⟩, ?_⟩
  · intro j k hlo hjk hhi hsend hagain
    obtain ⟨n, hn, hs⟩ := hsent (hlo.trans hjk.le) hhi hagain
    have heq := hs.eq_of_acts hlo (hjk.trans hn) (by rw [hsend]; decide)
    exact hjk.ne heq
  · intro j k hlo hjk hhi hrevert hagain
    have hwait := ((hphase hlo (hjk.trans hhi)).revert hlo (hjk.trans hhi) hrevert).1 k hjk hhi
    rw [hwait] at hagain
    cases hagain
  · intro j k hlo hjk hhi hrevert hsend
    have hwait := ((hphase hlo (hjk.trans hhi)).revert hlo (hjk.trans hhi) hrevert).1 k hjk hhi
    rw [hwait] at hsend
    cases hsend
  · intro j k hlo hjk hhi hid hpending
    have hj := lt_of_le_of_lt hjk hhi
    exact (hphase hlo hj).unpending hlo hj hid hpending k hjk hhi
  · intro j hlo hhi hsend
    obtain ⟨n, -, hs⟩ := hsent hlo hhi hsend
    exact hs.allowed
  · intro j hlo hhi hsend
    obtain ⟨n, -, hs⟩ := hsent hlo hhi hsend
    exact hs.late
  · intro j hlo hhi hrevert hnosend
    rcases ((hphase hlo hhi).revert hlo hhi hrevert).2 with ⟨-, hlate, -⟩ | ⟨s, hs, -⟩
    · exact hlate
    · exact absurd hs.acts (hnosend s hs.le hs.lt)
  · intro j k hlo hjk hhi hsend hrevert
    rcases ((hphase hlo (hjk.trans hhi)).revert (hlo.trans hjk.le) hhi hrevert).2 with
      ⟨hwaits, -, -⟩ | ⟨s, hs, hlate⟩
    · have hwait := (hwaits j hlo hjk).1
      rw [hsend] at hwait
      cases hwait
    · obtain rfl := hs.eq_of_acts hlo hjk (by rw [hsend]; decide)
      exact hlate
  · intro j hlo hhi
    exact (hphase hlo hhi).first_deadline hlo hhi
  · intro j k hlo hjk hhi
    exact (hphase hlo (hjk.trans hhi)).second_deadline hlo hjk hhi
  · intro n hidle
    rw [answer, budgetAfter, call_idle timeout hidle]
    exact ⟨rfl, rfl⟩

/-- A request that stays pending, called every nine seconds, once without its id. -/
def stuckCalls (n : ℕ) : RetryCall :=
  ⟨if n = 0 then 7 else if n = 2 then 0 else 1, true, true, 9000 * n⟩

theorem retryBudget_law_stuck : RetryLaw stuckCalls 8000 1 6 ∧
    ∀ n, (stuckCalls n).shown = 0 → answer stuckCalls 8000 n = .wait ∧
      budgetAfter stuckCalls 8000 (n + 1) = budgetAfter stuckCalls 8000 n := by
  refine retryBudget_law (i := 1) ⟨by decide, by decide, ?_, ?_⟩
  · intro j hlo hhi
    interval_cases j <;> decide
  · intro j hj
    interval_cases j
    exact fun hsame => absurd hsame (by decide)

end Sequence

end GdoBlaq
