import GdoBlaq.Control.Invariant

/-!
# Where the tasks are

The other half of what a step can do: how the watchdog moves through its stages, what becomes of
its retry budget, when it repeats a command, and how warnings come to their end.

## Main results

* `World.step_watchdog` : every step moves the watchdog as `WatchdogMove` says; only the end of
  the retry stage repeats a command.
* `World.step_retry` : what it checked by then, and which command that is.
* `Effect.elapsed` : the warning of a task gets on by its own beeps only.
-/

namespace GdoBlaq

open Firmware

/-- The call is a stage of the watchdog. -/
def Call.isWatchdog : Call → Bool
  | .watchdogTransition _ _ | .watchdogRetry _ | .watchdogWarningCycle | .watchdogResend _ _ _
  | .watchdogAutoClose _ _ | .watchdogSched _ _ _ _ _ | .watchdogReoffer => true
  | _ => false

/-- How a step moves the watchdog: its place, its budget, and the commands it repeats. -/
inductive WatchdogMove (w : World) : Call → Phase → RetryBudget → List Out → Prop
  | other {c : Call} {out : List Out} (hc : c.isWatchdog = false) (hboot : c.isReboot = false)
      (hout : ∀ o ∈ out, ¬ o.IsRetry) : WatchdogMove w c w.phase w.budget out
  | woke {status recovery : Option GdoStatus} {out : List Out} (hphase : w.phase = .delay)
      (hout : ∀ o ∈ out, ¬ o.IsRetry) :
      WatchdogMove w (.watchdogTransition status recovery) (.retry w.clock) w.budget out
  | unread {now : ℤ} (hphase : w.phase = .retry now) :
      WatchdogMove w (.watchdogRetry none) (.autoClose now) w.budget []
  | waited {now : ℤ} {status : GdoStatus} {b : RetryBudget} (hphase : w.phase = .retry now)
      (hdec : retryDecision w.fw w.budget now status = (b, .wait)) :
      WatchdogMove w (.watchdogRetry (some status)) (.autoClose now) b []
  | sending {now : ℤ} {status : GdoStatus} {b : RetryBudget} (hphase : w.phase = .retry now)
      (hdec : retryDecision w.fw w.budget now status = (b, .send)) :
      WatchdogMove w (.watchdogRetry (some status)) (.resend now status w.fw.closeGeneration 0) b []
  | reverted {now : ℤ} {status : GdoStatus} {b : RetryBudget} {out : List Out}
      (hphase : w.phase = .retry now)
      (hdec : retryDecision w.fw w.budget now status = (b, .revert))
      (hout : ∀ o ∈ out, ¬ o.IsRetry) :
      WatchdogMove w (.watchdogRetry (some status)) (.autoClose now) b out
  | beeped {now : ℤ} {status : GdoStatus} {generation elapsed : ℕ}
      (hphase : w.phase = .resend now status generation elapsed)
      (htarget : status.doorTarget = 10000) (hmore : elapsed < preCloseWarningDurationMs) :
      WatchdogMove w .watchdogWarningCycle
        (.resend now status generation (elapsed + preCloseWarningCycleMs)) w.budget []
  /-- The end of the `RETRY_SEND` branch. -/
  | resent {now : ℤ} {status : GdoStatus} {generation elapsed : ℕ}
      {recheck request : Option GdoStatus} {err : EspErr}
      (hphase : w.phase = .resend now status generation elapsed)
      (hover : status.doorTarget = 10000 → preCloseWarningDurationMs ≤ elapsed) :
      WatchdogMove w (.watchdogResend recheck request err) (.autoClose now) w.budget
        (watchdogResend w.fw generation status recheck request err)
  | autoDone {now : ℤ} {p : Phase} {current : Option GdoStatus} {start : TaskStart}
      (hphase : w.phase = .autoClose now) (hp : p = .delay ∨ p = .sched) :
      WatchdogMove w (.watchdogAutoClose current start) p w.budget []
  | schedDone {clock : Option Tm} {current : Option GdoStatus} {reserve rollback : NvsWrite}
      {start : TaskStart} (hphase : w.phase = .sched) :
      WatchdogMove w (.watchdogSched clock current reserve start rollback) .reoffer w.budget []
  | offered {out : List Out} (hphase : w.phase = .reoffer) (hout : ∀ o ∈ out, ¬ o.IsRetry) :
      WatchdogMove w .watchdogReoffer .delay w.budget out
  | rebooted (reads : NvsReads) (setenvOk : Bool) :
      WatchdogMove w (.reboot reads setenvOk) .delay {} []

section

variable {w w' : World} {r : Reply} {c : Call} {a : Action} {tid : ℕ} {v : Warning}

theorem WatchdogMove.ofWatchdogRetry (status : Option GdoStatus)
    (h : w.perform (.watchdogRetry status) = some (w', r)) :
    WatchdogMove w (.watchdogRetry status) w'.phase w'.budget r.out := by
  simp only [World.perform] at h
  split at h
  · rename_i now hphase
    cases status with
    | none =>
      obtain ⟨rfl, rfl⟩ := Prod.mk.inj (Option.some.inj h)
      exact .unread hphase
    | some status =>
      rcases hdec : retryDecision w.fw w.budget now status with ⟨b, action⟩
      simp only [hdec] at h
      cases action with
      | wait =>
        obtain ⟨rfl, rfl⟩ := Prod.mk.inj (Option.some.inj h)
        exact .waited hphase hdec
      | send =>
        obtain ⟨rfl, rfl⟩ := Prod.mk.inj (Option.some.inj h)
        exact .sending hphase hdec
      | revert =>
        obtain ⟨rfl, rfl⟩ := Prod.mk.inj (Option.some.inj h)
        exact .reverted hphase hdec (by simp [retryRevert, Out.IsRetry])
  · cases h

/-- The calls of the other tasks issue requests, but repeat no command. -/
theorem World.perform_other (h : w.perform c = some (w', r)) (hc : c.isWatchdog = false)
    (hboot : c.isReboot = false) :
    w'.phase = w.phase ∧ w'.budget = w.budget ∧ ∀ o ∈ r.out, ¬ o.IsRetry := by
  cases c with
  | controlOpen err =>
    obtain ⟨rfl, rfl⟩ := Prod.mk.inj (Option.some.inj h)
    exact ⟨rfl, rfl, by simp [Out.IsRetry]⟩
  | controlClose status start =>
    simp only [World.perform] at h
    split at h
    · obtain ⟨rfl, rfl⟩ := Prod.mk.inj (Option.some.inj h)
      exact ⟨rfl, rfl, by simp⟩
    · obtain ⟨rfl, rfl⟩ := Prod.mk.inj (Option.some.inj h)
      exact ⟨rfl, rfl, by simp⟩
  | event status event rolling =>
    obtain ⟨rfl, rfl⟩ := Prod.mk.inj (Option.some.inj h)
    exact ⟨rfl, rfl, (gdoEventHandler_silent status event rolling).not_isRetry⟩
  | setPreCloseBuzzer | setAutoCloseTimeoutMs | setAutoCloseEnabled | setCloseSchedule =>
    obtain ⟨rfl, rfl⟩ := Prod.mk.inj (Option.some.inj h)
    exact ⟨rfl, rfl, by simp⟩
  | warningCycle tid =>
    simp only [World.perform] at h
    split_ifs at h
    obtain ⟨rfl, rfl⟩ := Prod.mk.inj (Option.some.inj h)
    exact ⟨rfl, rfl, by simp⟩
  | userCloseTask tid status err again =>
    simp only [World.perform] at h
    split at h
    · rename_i v _
      obtain ⟨rfl, rfl⟩ := Prod.mk.inj (Option.some.inj h)
      refine ⟨rfl, rfl, ?_⟩
      rcases userCloseTask_cases (s := w.fw) v.generation status err again with
        ⟨out, hout, -, -, he⟩ | ⟨out, hout, he⟩
      · simpa [he, Out.IsRetry] using hout.not_isRetry
      · simpa [he] using hout.not_isRetry
    · cases h
  | autoCloseComplete tid status err =>
    simp only [World.perform] at h
    split at h
    · obtain ⟨rfl, rfl⟩ := Prod.mk.inj (Option.some.inj h)
      refine ⟨rfl, rfl, ?_⟩
      rcases autoCloseWarningCompleteCb_cases (s := w.fw) w.clock status err with
        ⟨-, he⟩ | ⟨-, he, rfl⟩ | ⟨-, -, he⟩ <;> simp [he, Out.IsRetry]
    · cases h
  | schedCloseComplete tid status err =>
    simp only [World.perform] at h
    split at h
    · obtain ⟨rfl, rfl⟩ := Prod.mk.inj (Option.some.inj h)
      refine ⟨rfl, rfl, ?_⟩
      rcases schedCloseWarningCompleteCb_cases (s := w.fw) status err with
        ⟨-, he⟩ | ⟨out, hout, -, he⟩
      · simp [he]
      · simpa [he, Out.IsRetry] using hout.not_isRetry
    · cases h
  | reboot => simp [Call.isReboot] at hboot
  | _ => simp [Call.isWatchdog] at hc

/-- **How a call moves the watchdog.** -/
theorem World.perform_watchdog (h : w.perform c = some (w', r)) :
    WatchdogMove w c w'.phase w'.budget r.out := by
  cases c with
  | watchdogTransition status recovery =>
    simp only [World.perform] at h
    split_ifs at h with hphase
    obtain ⟨rfl, rfl⟩ := Prod.mk.inj (Option.some.inj h)
    exact .woke hphase (watchdogTransition_silent status recovery).not_isRetry
  | watchdogRetry status => exact .ofWatchdogRetry status h
  | watchdogWarningCycle =>
    simp only [World.perform] at h
    split at h
    · rename_i now status generation elapsed hphase
      split_ifs at h with hmore
      obtain ⟨rfl, rfl⟩ := Prod.mk.inj (Option.some.inj h)
      exact .beeped hphase hmore.1 hmore.2
    · cases h
  | watchdogResend recheck request err =>
    simp only [World.perform] at h
    split at h
    · rename_i now status generation elapsed hphase
      split_ifs at h with hmore
      obtain ⟨rfl, rfl⟩ := Prod.mk.inj (Option.some.inj h)
      exact .resent hphase fun htarget => by
        by_contra hlt
        exact hmore ⟨htarget, by omega⟩
    · cases h
  | watchdogAutoClose current start =>
    simp only [World.perform] at h
    split at h
    · rename_i now hphase
      obtain ⟨rfl, rfl⟩ := Prod.mk.inj (Option.some.inj h)
      split_ifs <;> first | exact .autoDone hphase (.inl rfl) | exact .autoDone hphase (.inr rfl)
    · cases h
  | watchdogSched clock current reserve start rollback =>
    by_cases hphase : w.phase = .sched
    swap
    · simp [World.perform, hphase] at h
    simp only [World.perform, if_pos hphase] at h
    obtain ⟨rfl, rfl⟩ := Prod.mk.inj (Option.some.inj h)
    split_ifs
    · exact .schedDone hphase
    · exact .schedDone hphase
  | watchdogReoffer =>
    simp only [World.perform] at h
    split_ifs at h with hphase
    obtain ⟨rfl, rfl⟩ := Prod.mk.inj (Option.some.inj h)
    exact .offered hphase resendLastStatesToHomekit_silent.not_isRetry
  | reboot reads setenvOk =>
    obtain ⟨rfl, rfl⟩ := Prod.mk.inj (Option.some.inj h)
    exact .rebooted reads setenvOk
  | _ =>
    obtain ⟨hp, hb, hout⟩ := World.perform_other h rfl rfl
    rw [hp, hb]
    exact .other rfl rfl hout

/-- **How a step moves the watchdog.** -/
theorem World.step_watchdog (h : w.step a = some (w', r)) :
    WatchdogMove (w.tick a.t) a.call w'.phase w'.budget r.out := by
  replace h := World.perform_of_step h
  exact World.perform_watchdog h

theorem Effect.commandId_of_isWatchdog (h : Effect w c w' r) (hc : c.isWatchdog = true) :
    w'.fw.doorCommandId = w.fw.doorCommandId := by
  cases h with
  | news _ hnews => exact hnews.frame.commandId
  | opened | userSent | autoSent | autoRefused | schedSent | rebooted =>
    simp [Call.isWatchdog] at hc
  | _ => rfl

/-- **Only the end of the retry stage repeats a command**: after its recheck, under the standing id,
and the one that the driver's target stands for in the status that it reads last of all. -/
theorem World.step_retry {o : Out} (h : w.step a = some (w', r)) (ho : o ∈ r.out)
    (hretry : o.IsRetry) :
    ∃ now status generation elapsed recheck request err cmd,
      a.call = .watchdogResend recheck (some request) err ∧
      w.phase = .resend now status generation elapsed ∧
      (status.doorTarget = 10000 → preCloseWarningDurationMs ≤ elapsed) ∧
      retryStands w.fw generation status recheck = true ∧
      Stamp.read 32 w.fw.doorCommandId ≠ 0 ∧ request.synced = true ∧ request.toggleOnly = false ∧
      commandOfTarget request.doorTarget = some cmd ∧
      r.out = [.retry cmd w.fw.doorCommandId err] := by
  have hmove := World.step_watchdog h
  obtain ⟨t, c⟩ := a
  generalize w'.phase = p, w'.budget = b, hout : r.out = out at hmove
  rw [hout] at ho
  cases hmove with
  | other _ _ hnone | woke _ hnone | offered _ hnone | reverted _ _ hnone =>
    exact absurd hretry (hnone o ho)
  | @resent now status generation elapsed recheck request err hphase hover =>
    rcases watchdogResend_cases (s := w.fw) generation status recheck request err with
      he | ⟨st, cmd, rfl, hstands, hid, hsync, htog, hcmd, he⟩
    · simp [World.tick, he] at ho
    · exact ⟨now, status, generation, elapsed, recheck, st, err, cmd, rfl, hphase, hover, hstands,
        hid, hsync, htog, hcmd, he⟩
  | _ => simp at ho

/-! ### Warnings -/

/-- A task asleep before and after a step has beeped once more if the step was its own, and was
not yet done then; no other step moves its `elapsed`. -/
theorem Effect.elapsed (h : Effect w c w' r) (hfresh : ∀ i, w.nextTask ≤ i → w.tasks i = none)
    (hv : w.tasks tid = some v) (hv' : w'.tasks tid = some v) :
    w'.elapsed tid =
        w.elapsed tid + (if c = .warningCycle tid then preCloseWarningCycleMs else 0) ∧
      (c = .warningCycle tid → w.elapsed tid < preCloseWarningDurationMs) := by
  have hne : tid ≠ w.nextTask := by
    rintro rfl
    simp [hfresh _ le_rfl] at hv
  cases h with
  | idle _ _ _ hbeep =>
    refine ⟨?_, hbeep tid⟩
    cases c with
    | warningCycle i =>
      by_cases hi : tid = i
      · subst hi; simp [World.elapsedAfter]
      · simp [World.elapsedAfter, hi, Ne.symm hi]
    | _ => simp [World.elapsedAfter]
  | news hcall => cases c <;> simp_all [Call.isNews]
  | set hcall | setFailed hcall => cases c <;> simp_all [Call.isSetter]
  | closeArmed | autoArmed | schedArmed => simp [hne]
  | rebooted => simp [World.boot] at hv'
  | _ => simp

end

end GdoBlaq
