import GdoBlaq.Control.Progress
import GdoBlaq.Control.UserClose

/-!
# Who holds the user's slot

`s_user_close_pending` refuses a Close while another one stands, and holds the scheduled close back
as long as it is up.  It is raised for a task, and only the task that carries the recorded
generation takes it down again, however many superseded tasks sleep beside it and in whatever order
they wake.

## Main results

* `Effect.slot` : a step frees the slot, gives it to a Close that it accepts, or keeps it.
* `UserHeld.trace` : while the flag is up, its task sleeps.
* `HoldsSlot.passesOn` : the task of the flag gets to the end of its warning and takes it down.
* `user_slot_owned` : whose the slot is in every state of a run, and that it is given back.
-/

namespace GdoBlaq

open Firmware

/-- The `user_close_task` number `tid` is asleep, with this generation for its argument. -/
def Carries (w : World) (tid generation : ℕ) : Prop :=
  ∃ v, w.tasks tid = some v ∧ v.kind = .user ∧
    Stamp.read 32 v.generation = Stamp.read 32 generation

/-- The step is a turn of the `user_close_task` number `tid`: a beep of its warning, or what it does
after it. -/
def Call.isTurnOf (tid : ℕ) (c : Call) : Bool :=
  c = .warningCycle tid || c.completes = some (.user, tid)

/-- The slot is free after the step, or the step accepts a Close, which has the slot from then
on. -/
def GivesUp (e : Step) : Prop :=
  e.dst.fw.userClosePending = false ∨
    ∃ status start, e.label.1.call = .controlClose status start ∧ UserCloseSleeps e.dst

/-- Whatever happens after `w`, the slot has been given up, or the task `tid` can have its next turn
and has not had more than a warning has beeps. -/
def PassesOn (tid : ℕ) (w : World) : Prop :=
  ∀ es w', control.toLTS.Trace w es w' → (∃ e ∈ es, GivesUp e) ∨
    (∃ a, a.call.isTurnOf tid = true ∧ (control.step w' a).isSome = true) ∧
      es.countP (·.label.1.call.isTurnOf tid) ≤ preCloseWarningDurationMs / preCloseWarningCycleMs

/-- The user close `v`, asleep as number `tid`, has the slot. -/
structure HoldsSlot (tid : ℕ) (v : Warning) (w : World) : Prop where
  asleep : w.tasks tid = some v
  user : v.kind = .user
  up : w.fw.userClosePending = true
  read : Stamp.read 32 w.fw.userClosePendingGeneration = Stamp.read 32 v.generation

/-- While the flag is up there is a user close that has the slot. -/
def UserHeld (w : World) : Prop := w.fw.userClosePending = true → ∃ tid v, HoldsSlot tid v w

/-- The slot is what it was, and whoever has it sleeps on. -/
structure UserSlotKept (w w' : World) : Prop where
  pending : w'.fw.userClosePending = w.fw.userClosePending
  generation : w'.fw.userClosePendingGeneration = w.fw.userClosePendingGeneration
  asleep : ∀ tid v, w.tasks tid = some v → v.kind = .user →
    Stamp.read 32 w.fw.userClosePendingGeneration = Stamp.read 32 v.generation →
    w'.tasks tid = some v

/-- The beeps that the warning of the task has to go. -/
def World.beepsLeft (w : World) (tid : ℕ) : ℕ :=
  (preCloseWarningDurationMs - w.elapsed tid + (preCloseWarningCycleMs - 1)) /
    preCloseWarningCycleMs

theorem World.beepsLeft_le (w : World) (tid : ℕ) :
    w.beepsLeft tid ≤ preCloseWarningDurationMs / preCloseWarningCycleMs := by
  unfold beepsLeft preCloseWarningDurationMs preCloseWarningCycleMs
  omega

/-! ### What a step does to the slot -/

section Steps

variable {w w' : World} {c : Call} {r : Reply} {e : Step} {tid : ℕ} {v : Warning}

theorem UserSlotKept.of_noNew (hold : NoNew .user w'.tasks w.tasks)
    (hpend : w'.fw.userClosePending = w.fw.userClosePending)
    (hslot : w'.fw.userClosePendingGeneration = w.fw.userClosePendingGeneration) :
    UserSlotKept w w' where
  pending := hpend
  generation := hslot
  asleep tid v hv hk _ := hold tid v hv hk

theorem UserSlotKept.of_finish (htask : w.tasks tid = some v)
    (htasks : w'.tasks = Function.update w.tasks tid none)
    (hpend : w'.fw.userClosePending = w.fw.userClosePendingAfter v.generation)
    (hslot : w'.fw.userClosePendingGeneration = w.fw.userClosePendingGeneration) :
    w'.fw.userClosePending = false ∨ UserSlotKept w w' := by
  rw [userClosePendingAfter] at hpend
  by_cases hread : Stamp.read 32 w.fw.userClosePendingGeneration = Stamp.read 32 v.generation
  · exact .inl (by simpa [hread] using hpend)
  · refine .inr ⟨by simpa [hread] using hpend, hslot, ?_⟩
    intro i u hu _ hread'
    rw [htasks, update_none_eq_some]
    refine ⟨?_, hu⟩
    rintro rfl
    exact hread (Option.some.inj (hu.symm.trans htask) ▸ hread')

/-- **What a step does to the slot**: it frees it, gives it to a Close that it accepts, or keeps
it. -/
theorem Effect.slot (h : Effect w c w' r) (hfree : w.tasks w.nextTask = none) :
    w'.fw.userClosePending = false ∨
      (∃ status start, c = .controlClose status start ∧ UserCloseSleeps w') ∨
      UserSlotKept w w' := by
  cases h with
  | news _ hnews =>
    exact .inr (.inr (.of_noNew (.refl _ _) hnews.frame.userPending hnews.frame.userGeneration))
  | idle | set | setFailed | opened | autoNotStarted | restarted | schedNotReserved
  | schedNotStarted => exact .inr (.inr (.of_noNew (.refl _ _) rfl rfl))
  | autoArmed | schedArmed => exact .inr (.inr (.of_noNew (.spawned hfree) rfl rfl))
  | autoCancelled htask | autoSent htask | autoRefused _ htask | schedCancelled htask
  | schedSent htask =>
    obtain ⟨hv, hkind, -, -⟩ := warningOver_eq_some htask
    exact .inr (.inr (.of_noNew (.finished hv (by simp [hkind])) rfl rfl))
  | closeNotCreated => exact .inl rfl
  | closeArmed =>
    exact .inr (.inl ⟨_, _, rfl, rfl, rfl, w.nextTask, _, Function.update_self .., rfl, rfl⟩)
  | userSent htask | userDropped htask =>
    refine Or.imp_right .inr ?_
    exact UserSlotKept.of_finish (warningOver_eq_some htask).1 rfl rfl rfl
  | rebooted => exact .inl (by simp [World.boot])

/-- A turn of a task that sleeps on is a beep, and leaves it one less to go; no other step
matters. -/
theorem Effect.beepsLeft (h : Effect w c w' r) (hfresh : ∀ i, w.nextTask ≤ i → w.tasks i = none)
    (hv : w.tasks tid = some v) (hv' : w'.tasks tid = some v) :
    w'.beepsLeft tid + (if c.isTurnOf tid then 1 else 0) ≤ w.beepsLeft tid := by
  obtain ⟨helapsed, hmore⟩ := h.elapsed hfresh hv hv'
  have hnot : c.completes ≠ some (.user, tid) := by
    intro hcomp
    simp [h.completes_finish hcomp] at hv'
  unfold World.beepsLeft
  rw [helapsed]
  by_cases hbeep : c = .warningCycle tid
  · have hlt := hmore hbeep
    simp only [Call.isTurnOf, hbeep, decide_true, Bool.true_or, if_true]
    unfold preCloseWarningDurationMs preCloseWarningCycleMs at *
    omega
  · simp [Call.isTurnOf, hbeep, hnot]

theorem effect_of_step (hst : control.toLTS.step e.src e.label e.dst) :
    Effect (e.src.tick e.label.1.t) e.label.1.call e.dst e.label.2 :=
  World.perform_effect (World.perform_of_step hst)

theorem slot_of_step (hbook : Bookkeeping e.src)
    (hst : control.toLTS.step e.src e.label e.dst) : GivesUp e ∨ UserSlotKept e.src e.dst := by
  rcases (effect_of_step hst).slot (hbook.fresh _ le_rfl) with hdown | hclose | hkept
  · exact .inl (.inl hdown)
  · exact .inl (.inr hclose)
  · exact .inr ⟨hkept.pending, hkept.generation, hkept.asleep⟩

theorem HoldsSlot.kept (hi : HoldsSlot tid v w) (h : UserSlotKept w w') : HoldsSlot tid v w' where
  asleep := h.asleep tid v hi.asleep hi.user hi.read
  user := hi.user
  up := h.pending.trans hi.up
  read := h.generation ▸ hi.read

/-- **A turn of the task**, whatever the step: the slot is given up, or kept with fewer beeps to
go. -/
theorem HoldsSlot.moves (hi : HoldsSlot tid v e.src) (hbook : Bookkeeping e.src)
    (hst : control.toLTS.step e.src e.label e.dst) :
    GivesUp e ∨ HoldsSlot tid v e.dst ∧
      e.dst.beepsLeft tid + (if e.label.1.call.isTurnOf tid then 1 else 0) ≤
        e.src.beepsLeft tid := by
  rcases slot_of_step hbook hst with hgives | hkept
  · exact .inl hgives
  · have hholds : HoldsSlot tid v e.dst := hi.kept hkept
    exact .inr ⟨hholds, (effect_of_step hst).beepsLeft hbook.fresh hi.asleep hholds.asleep⟩

theorem UserHeld.step (hi : UserHeld e.src) (hbook : Bookkeeping e.src)
    (hst : control.toLTS.step e.src e.label e.dst) : UserHeld e.dst := by
  intro hup
  rcases slot_of_step hbook hst with (hdown | ⟨_, _, -, hclose⟩) | hkept
  · simp [hdown] at hup
  · obtain ⟨hup, hslot, tid, v, hv, hk, hgen⟩ := hclose
    exact ⟨tid, v, hv, hk, hup, by rw [hslot, hgen]⟩
  · obtain ⟨tid, v, hholds⟩ := hi (hkept.pending.symm.trans hup)
    exact ⟨tid, v, hholds.kept hkept⟩

theorem UserHeld.boot (n : Nvs) (reads : NvsReads) (setenvOk : Bool) (t : ℤ) :
    UserHeld (World.boot n reads setenvOk t) := by
  intro hup
  simp [World.boot] at hup

theorem turn_enabled (hv : w.tasks tid = some v) (hkind : v.kind = .user) :
    ∃ a, a.call.isTurnOf tid = true ∧ (control.step w a).isSome = true := by
  by_cases hmore : w.elapsed tid < preCloseWarningDurationMs
  · refine ⟨⟨w.clock, .warningCycle tid⟩, by simp [Call.isTurnOf], ?_⟩
    simp [control, World.step, World.perform, World.tick, hv, hmore]
  · -- the loop has run out, which takes time
    have hover : (w.tick (max w.clock (v.startMs + 1))).warningOver tid .user = some v := by
      simp [World.warningOver, World.tick, hv, hkind, not_lt.1 hmore]
    refine ⟨⟨max w.clock (v.startMs + 1), .userCloseTask tid none .ok none⟩,
      by simp [Call.isTurnOf, Call.completes], ?_⟩
    simp [control, World.step, World.perform, hover]

/-- **The slot is not kept for good.** -/
theorem HoldsSlot.passesOn (hi : HoldsSlot tid v w) (hbook : Bookkeeping w) : PassesOn tid w := by
  intro es w' hrun
  rcases hrun.progress (I := fun w => Bookkeeping w ∧ HoldsSlot tid v w) (Q := GivesUp)
    (f := fun w => w.beepsLeft tid) (p := (·.label.1.call.isTurnOf tid)) ⟨hbook, hi⟩
    (fun e _ hst ⟨hbook, hholds⟩ => (hholds.moves hbook hst).imp_right
      fun ⟨hkept, hle⟩ => ⟨⟨hbook.step hst, hkept⟩, hle⟩) with
    ⟨before, e, after, rfl, hgives, -⟩ | ⟨⟨-, hholds⟩, hcount⟩
  · exact .inl ⟨e, by simp, hgives⟩
  · exact .inr ⟨turn_enabled hholds.asleep hholds.user,
      (Nat.le_add_left _ _).trans (hcount.trans (w.beepsLeft_le tid))⟩

end Steps

/-! ### Whose it is in a run -/

section Runs

variable {w w' : World} {es : List Step}

/-- **The flag belongs to a task** in every state of a run. -/
theorem UserHeld.trace (hrun : control.toLTS.Trace w es w') (hbook : Bookkeeping w)
    (hi : UserHeld w) : UserHeld w' :=
  hbook.invariant hrun hi fun _ _ hst hbook hsrc => hsrc.step hbook hst

theorem UserSlot.carries_inj (hi : UserSlot w) (hbook : Bookkeeping w) (hturn : w.NoUserTurn)
    {generation i j : ℕ} (hslot : w.fw.userClosePendingGeneration ≤ generation)
    (hle : generation ≤ w.fw.closeGeneration) (h : Carries w i generation)
    (h' : Carries w j generation) : i = j := by
  have heq : ∀ {k u}, w.tasks k = some u → u.kind = .user →
      Stamp.read 32 u.generation = Stamp.read 32 generation → u.generation = generation := by
    intro k u hu hk hread
    have hlt := hturn u (hbook.mem_sleeping.2 ⟨k, hu⟩) hk
    exact Stamp.eq_of_reads_eq ((hi.le_slot k u hu hk).trans hslot) (hle.trans_lt hlt) hread
  obtain ⟨u, hu, hk, hread⟩ := h
  obtain ⟨u', hu', hk', hread'⟩ := h'
  exact hi.unique i j u u' hu hu' hk hk' ((heq hu hk hread).trans (heq hu' hk' hread').symm)

theorem UserHeld.existsUnique_carries (hheld : UserHeld w) (hslot : UserSlot w)
    (hbook : Bookkeeping w) (hturn : w.NoUserTurn) (hup : w.fw.userClosePending = true) :
    ∃! tid, Carries w tid w.fw.userClosePendingGeneration := by
  obtain ⟨tid, v, hholds⟩ := hheld hup
  have hcarries : Carries w tid w.fw.userClosePendingGeneration :=
    ⟨v, hholds.asleep, hholds.user, hholds.read.symm⟩
  exact ⟨tid, hcarries, fun i hi =>
    hslot.carries_inj hbook hturn le_rfl hslot.slot_le hi hcarries⟩

/-- **The user's slot belongs to a sleeping task.**  In every state of a run in which no user close
sleeps through a full turn of the generation, the flag is up only if exactly one user close sleeps
with the generation of the slot, no two sleep with the current generation, and the flag is down if
none sleeps at all.  The task of the flag can always have its turn, and gives the slot up, to nobody
or to a Close that is accepted, before it has had more turns than one warning takes. -/
theorem user_slot_owned {n : Nvs} {reads : NvsReads} {setenvOk : Bool} {t₀ : ℤ}
    (hrun : control.toLTS.Trace (World.boot n reads setenvOk t₀) es w)
    (hturn : ∀ e ∈ es, e.src.NoUserTurn) (hlast : w.NoUserTurn) :
    (w.fw.userClosePending = true → ∃! tid, Carries w tid w.fw.userClosePendingGeneration) ∧
      (∀ i j, Carries w i w.fw.closeGeneration → Carries w j w.fw.closeGeneration → i = j) ∧
      ((∀ tid v, w.tasks tid = some v → v.kind ≠ .user) → w.fw.userClosePending = false) ∧
      (∀ tid, w.fw.userClosePending = true → Carries w tid w.fw.userClosePendingGeneration →
        PassesOn tid w) := by
  have hboot : Sound (World.boot n reads setenvOk t₀) := Sound.boot n reads setenvOk t₀ 0
  have hbook : Bookkeeping w := Bookkeeping.trace hrun hboot.book
  have hslot : UserSlot w := UserSlot.trace hrun hboot.user hboot.book hturn
  have hheld : UserHeld w := UserHeld.trace hrun hboot.book (.boot n reads setenvOk t₀)
  refine ⟨hheld.existsUnique_carries hslot hbook hlast, ?_, ?_, ?_⟩
  · exact fun i j => hslot.carries_inj hbook hlast hslot.slot_le le_rfl
  · intro hnone
    by_contra hup
    obtain ⟨tid, v, hholds⟩ := hheld (by simpa using hup)
    exact hnone tid v hholds.asleep hholds.user
  · rintro tid hup ⟨v, hv, hk, hread⟩
    exact HoldsSlot.passesOn ⟨hv, hk, hup, hread.symm⟩ hbook

end Runs

/-- A Close of an open door, an Open within its warning, and a Close again. -/
def overtakenRun : List Action :=
  [⟨1000, .controlClose (some (.idle .opened 0 0)) {}⟩, ⟨1500, .controlOpen .ok⟩,
    ⟨2000, .controlClose (some (.idle .opened 0 0)) {}⟩]

/-- The firmware with the second warning running beside the first. -/
def overtaken : World := control.last (World.boot {} {} true 0) overtakenRun

/-- Two user closes sleep, and the slot is the second one's. -/
theorem user_slot_owned_overtaken :
    (overtaken.fw.userClosePending = true ∧ overtaken.sleeping.map (·.generation) = [1, 3]) ∧
      (overtaken.fw.userClosePending = true →
        ∃! tid, Carries overtaken tid overtaken.fw.userClosePendingGeneration) ∧
      (∀ i j, Carries overtaken i overtaken.fw.closeGeneration →
        Carries overtaken j overtaken.fw.closeGeneration → i = j) ∧
      ((∀ tid v, overtaken.tasks tid = some v → v.kind ≠ .user) →
        overtaken.fw.userClosePending = false) ∧
      (∀ tid, overtaken.fw.userClosePending = true →
        Carries overtaken tid overtaken.fw.userClosePendingGeneration →
        PassesOn tid overtaken) :=
  ⟨by decide +kernel, user_slot_owned (control.trace_edges _ overtakenRun) (by decide +kernel)
    (by decide +kernel)⟩

end GdoBlaq
