import GdoBlaq.Control.OpenTimer

/-!
# The countdown that the dashboard shows

`gdo_get_auto_close_remaining_ms` is computed from three variables that the event handler, the
watchdog, the warning callbacks and the setters all write.  The time at which they let an auto-close
warning start never moves closer, unless the timeout itself is shortened.

## Main results

* `Effect.armsFrom_le` : a step does not move that time closer.
* `countdown_never_early` : no auto-close warning starts before the time that was shown has run out.
-/

namespace GdoBlaq

open Firmware

/-- The time before which the auto-close stage starts no warning, going by what is stored now: the
countdown that runs has to run out, and one that does not run has to start first. -/
def Firmware.armsFrom (s : Firmware) (now : ℤ) : ℤ :=
  (if s.doorOpenSinceMs ≠ 0 ∧ s.autoCloseTriggered = false then s.doorOpenSinceMs else now) +
    s.autoCloseTimeoutMs

section

variable {s s' : Firmware} {w w' : World} {c : Call} {r : Reply} {es pre : List Step} {e : Step}
  {tid : ℕ} {t now now' : ℤ}

theorem armsFrom_mono (h : now ≤ now') : s.armsFrom now ≤ s.armsFrom now' := by
  unfold Firmware.armsFrom
  split_ifs <;> omega

theorem armsFrom_le_now (hsince : s.doorOpenSinceMs ≠ 0 → s.doorOpenSinceMs ≤ now) :
    s.armsFrom now ≤ now + s.autoCloseTimeoutMs := by
  unfold Firmware.armsFrom
  split_ifs with hruns
  · have := hsince hruns.1
    omega
  · exact le_rfl

theorem armsFrom_congr (hsince : s'.doorOpenSinceMs = s.doorOpenSinceMs)
    (htrig : s'.autoCloseTriggered = s.autoCloseTriggered)
    (hms : s.autoCloseTimeoutMs ≤ s'.autoCloseTimeoutMs) : s.armsFrom now ≤ s'.armsFrom now := by
  unfold Firmware.armsFrom
  rw [hsince, htrig]
  split_ifs <;> omega

theorem armsFrom_restart (hsince : s.doorOpenSinceMs ≠ 0 → s.doorOpenSinceMs ≤ now)
    (hnew : s'.doorOpenSinceMs = now ∨ s'.doorOpenSinceMs = 0 ∨ s'.autoCloseTriggered = true)
    (hms : s'.autoCloseTimeoutMs = s.autoCloseTimeoutMs) : s.armsFrom now ≤ s'.armsFrom now := by
  refine (armsFrom_le_now hsince).trans (le_of_eq ?_)
  unfold Firmware.armsFrom
  rw [hms]
  split_ifs with hruns
  · rcases hnew with h | h | h
    · rw [h]
    · exact absurd h hruns.1
    · simp [h] at hruns
  · rfl

theorem OpenTimer.since_le (hi : OpenTimer w) (h : w.fw.doorOpenSinceMs ≠ 0) :
    w.fw.doorOpenSinceMs ≤ w.clock :=
  (hi.started (hi.since.1 h)).2

theorem armsFrom_le_news (hi : OpenTimer w) {fw : Firmware} (h : News w.fw w.clock fw) :
    w.fw.armsFrom w.clock ≤ fw.armsFrom w.clock := by
  cases h with
  | view | obstruction | button => exact armsFrom_congr rfl rfl le_rfl
  | door _ _ _ d since cont trig hd ht =>
    cases ht with
    | arrived => exact armsFrom_restart hi.since_le (.inl rfl) rfl
    | left => exact armsFrom_restart hi.since_le (.inr (.inl rfl)) rfl
    | away => exact armsFrom_congr rfl rfl le_rfl

/-- **One step**: the countdown runs on, stops, or starts over. -/
theorem Effect.armsFrom_le (hi : OpenTimer w) (hboot : c.isReboot = false) (h : Effect w c w' r)
    (hms : w.fw.autoCloseTimeoutMs ≤ w'.fw.autoCloseTimeoutMs) :
    w.fw.armsFrom w.clock ≤ w'.fw.armsFrom w.clock := by
  cases h with
  | news _ hnews => exact armsFrom_le_news hi hnews
  | autoNotStarted | autoRefused | restarted => exact armsFrom_restart hi.since_le (.inl rfl) rfl
  | autoArmed => exact armsFrom_restart hi.since_le (.inr (.inr rfl)) rfl
  | autoCancelled =>
    by_cases hopen : w.fw.lastDoor = .opened
    · exact armsFrom_restart hi.since_le (.inl (by simp [hopen])) rfl
    · have hnone : w.fw.doorOpenSinceMs = 0 := not_not.1 (mt hi.since.1 hopen)
      exact armsFrom_restart hi.since_le (.inr (.inl (by simp [hopen, hnone]))) rfl
  | rebooted => simp [Call.isReboot] at hboot
  | _ => exact armsFrom_congr rfl rfl hms

theorem armsFrom_of_arms (hst : control.toLTS.step e.src e.label e.dst) (harm : Arms e .auto tid) :
    e.src.fw.armsFrom e.label.1.t ≤ e.label.1.t := by
  obtain ⟨v, hv, hk⟩ := harm.asleep
  have heff := World.perform_effect (World.perform_of_step hst)
  have hcall := harm.call
  have hold : (e.src.tick e.label.1.t).tasks tid = none := harm.fresh
  generalize e.label.1.call = c, e.label.2 = r, e.dst = w' at heff hcall hv
  cases heff with
  | autoArmed hdue =>
    obtain ⟨-, -, htrig, -, hne, hle⟩ := autoCloseStillDue_iff.1 hdue
    have hne' : e.src.fw.doorOpenSinceMs ≠ 0 := hne
    have htrig' : e.src.fw.autoCloseTriggered = false := htrig
    have hle' : (e.src.fw.autoCloseTimeoutMs : ℤ) ≤
        e.label.1.t - e.src.fw.doorOpenSinceMs := hle
    unfold Firmware.armsFrom
    rw [if_pos ⟨hne', htrig'⟩]
    omega
  | closeArmed | schedArmed | userSent | userDropped | autoCancelled | autoSent | autoRefused
  | schedCancelled | schedSent | rebooted => exact hcall.elim
  | _ => simp [hold] at hv

/-- The countdown runs and auto-close is on. -/
def Firmware.Counting (s : Firmware) : Prop :=
  s.autoCloseEnabled = true ∧ s.doorOpenSinceMs ≠ 0 ∧ s.autoCloseTriggered = false

theorem shown_of_counting (h : s.Counting) (now : ℤ) :
    gdoGetAutoCloseRemainingMs s now =
      max 0 (s.autoCloseTimeoutMs - (now - s.doorOpenSinceMs)) := by
  obtain ⟨hon, hne, htrig⟩ := h
  simp only [gdoGetAutoCloseRemainingMs, hon, hne, htrig, Bool.not_true, Bool.false_eq_true,
    or_self, ite_false]
  split_ifs <;> omega

theorem shown_of_not_counting (h : ¬ s.Counting) (now : ℤ) :
    gdoGetAutoCloseRemainingMs s now = -1 := by
  unfold gdoGetAutoCloseRemainingMs
  rw [if_pos]
  simp only [Firmware.Counting, not_and_or, Bool.not_eq_true, not_not, Bool.not_eq_false] at h
  simpa using h

theorem shown_le_armsFrom (hshown : 0 ≤ gdoGetAutoCloseRemainingMs s now) :
    now + gdoGetAutoCloseRemainingMs s now ≤ max now (s.armsFrom now) := by
  by_cases hcount : s.Counting
  · rw [shown_of_counting hcount]
    unfold Firmware.armsFrom
    rw [if_pos hcount.2]
    omega
  · rw [shown_of_not_counting hcount] at hshown
    omega

theorem armsFrom_of_idle (hshown : gdoGetAutoCloseRemainingMs s now = -1)
    (hon : s.autoCloseEnabled = true) : s.armsFrom now = now + s.autoCloseTimeoutMs := by
  have hidle : ¬ (s.doorOpenSinceMs ≠ 0 ∧ s.autoCloseTriggered = false) := by
    intro hruns
    rw [shown_of_counting ⟨hon, hruns⟩] at hshown
    omega
  rw [Firmware.armsFrom, if_neg hidle]

theorem Effect.clock_eq (h : Effect w c w' r) : w'.clock = w.clock := by
  cases h <;> rfl

/-- **A run moves the time no closer**, if it shortens no timeout. -/
theorem armsFrom_le_of_trace (hrun : control.toLTS.Trace w es w')
    (hopen : ∀ e ∈ es, OpenTimer e.src) (hboot : ∀ e ∈ es, e.label.1.call.isReboot = false)
    (hms : ∀ e ∈ es, e.src.fw.autoCloseTimeoutMs ≤ e.dst.fw.autoCloseTimeoutMs)
    (ht : w.clock ≤ t) (hlater : ∀ e ∈ es, t ≤ e.label.1.t) :
    w.fw.armsFrom t ≤ w'.fw.armsFrom (max t w'.clock) := by
  refine hrun.invariant (I := fun w' => w.fw.armsFrom t ≤ w'.fw.armsFrom (max t w'.clock))
    (by rw [max_eq_left ht]) fun e he hst hi => ?_
  obtain ⟨hclock, heff⟩ := World.step_effect hst (hboot e he)
  have hi' : OpenTimer (e.src.tick e.label.1.t) := by
    obtain ⟨hsince, hcont, hstarted, htrig, hstands⟩ := hopen e he
    exact ⟨hsince, hcont, fun h => ⟨(hstarted h).1, (hstarted h).2.trans hclock⟩, htrig, hstands⟩
  have hdst : e.dst.clock = e.label.1.t := heff.clock_eq
  rw [hdst, max_eq_right (hlater e he)]
  calc w.fw.armsFrom t
      ≤ e.src.fw.armsFrom (max t e.src.clock) := hi
    _ ≤ e.src.fw.armsFrom e.label.1.t := armsFrom_mono (max_le (hlater e he) hclock)
    _ ≤ e.dst.fw.armsFrom e.label.1.t := heff.armsFrom_le hi' (hboot e he) (hms e he)

/-- **The countdown that is shown is not cut short.**  A run reaches a state that is looked at, at a
time `t` no later than what follows.  As long as the device is not restarted and the timeout not
shortened, no auto-close warning starts before the remaining time that `/status` shows then has run
out; and if it shows none though auto-close is on, no warning starts before a full timeout has.
Times are positive, and no auto-close warning sleeps through a full turn of the generation. -/
theorem countdown_never_early {n : Nvs} {reads : NvsReads} {setenvOk : Bool} {t₀ : ℤ}
    (hpre : control.toLTS.Trace (World.boot n reads setenvOk t₀) pre w)
    (hrun : control.toLTS.Trace w es w')
    (hnow : ∀ e ∈ pre ++ es, 0 < e.label.1.t) (hturn : ∀ e ∈ pre ++ es, e.src.NoAutoTurn)
    (hboot : ∀ e ∈ es, e.label.1.call.isReboot = false)
    (hms : ∀ e ∈ es, e.src.fw.autoCloseTimeoutMs ≤ e.dst.fw.autoCloseTimeoutMs)
    (ht : w.clock ≤ t) (hlater : ∀ e ∈ es, t ≤ e.label.1.t) :
    ∀ e ∈ es, ∀ tid, Arms e .auto tid →
      (0 ≤ gdoGetAutoCloseRemainingMs w.fw t →
        t + gdoGetAutoCloseRemainingMs w.fw t ≤ e.label.1.t) ∧
      (gdoGetAutoCloseRemainingMs w.fw t = -1 → w.fw.autoCloseEnabled = true →
        t + w.fw.autoCloseTimeoutMs ≤ e.label.1.t) := by
  have hopen : ∀ e ∈ es, OpenTimer e.src := by
    intro e he
    obtain ⟨mid, post, rfl⟩ := List.append_of_mem he
    have hmid := (LTS.Trace.at_edge_iff.1 hrun).1
    refine OpenTimer.trace (hpre.append hmid) (Sound.boot n reads setenvOk t₀ 0).book
      (AutoOrder.boot n reads setenvOk t₀ 0) (OpenTimer.boot n reads setenvOk t₀ 0) ?_ ?_
    · exact fun x hx => hnow x (by simp at hx ⊢; tauto)
    · exact fun x hx => hturn x (by simp at hx ⊢; tauto)
  intro e he tid harm
  have hle : w.fw.armsFrom t ≤ e.label.1.t := by
    obtain ⟨mid, post, rfl⟩ := List.append_of_mem he
    obtain ⟨hmid, hst, -⟩ := LTS.Trace.at_edge_iff.1 hrun
    obtain ⟨hclock, -⟩ := World.step_effect hst (hboot e he)
    have hfrom := armsFrom_le_of_trace hmid (fun x hx => hopen x (by simp [hx]))
      (fun x hx => hboot x (by simp [hx])) (fun x hx => hms x (by simp [hx])) ht
      fun x hx => hlater x (by simp [hx])
    calc w.fw.armsFrom t
        ≤ e.src.fw.armsFrom (max t e.src.clock) := hfrom
      _ ≤ e.src.fw.armsFrom e.label.1.t := armsFrom_mono (max_le (hlater e he) hclock)
      _ ≤ e.label.1.t := armsFrom_of_arms hst harm
  refine ⟨fun hshown => ?_, fun hidle hon => ?_⟩
  · exact (shown_le_armsFrom hshown).trans (max_le (hlater e he) hle)
  · rw [← armsFrom_of_idle hidle hon]
    exact hle

/-- The door has been open for ten seconds, and the dashboard is looked at. -/
def tenSecondsOpen : List Action := autoCloseRun.take 2

theorem countdown_never_early_left_open :
    gdoGetAutoCloseRemainingMs
        (control.last (World.boot autoCloseNvs {} true 0) tenSecondsOpen).fw 11000 = 50000 ∧
      ∀ e ∈ control.edges (control.last (World.boot autoCloseNvs {} true 0) tenSecondsOpen)
          (watchdogTick 62000 (.idle .opened 0 0)), ∀ tid, Arms e .auto tid →
        (61000 : ℤ) ≤ e.label.1.t := by
  have hshown : gdoGetAutoCloseRemainingMs
      (control.last (World.boot autoCloseNvs {} true 0) tenSecondsOpen).fw 11000 = 50000 := by
    decide +kernel
  refine ⟨hshown, fun e he tid harm => ?_⟩
  have hmain := (countdown_never_early (t := 11000)
    (control.trace_edges (World.boot autoCloseNvs {} true 0) tenSecondsOpen)
    (control.trace_edges _ (watchdogTick 62000 (.idle .opened 0 0))) (by decide +kernel)
    (by decide +kernel) (by decide +kernel) (by decide +kernel) (by decide +kernel)
    (by decide +kernel) e he tid harm).1 (by rw [hshown]; decide)
  rw [hshown] at hmain
  exact hmain

end

end GdoBlaq
