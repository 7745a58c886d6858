import GdoBlaq.Control.OpenSince
import GdoBlaq.Control.Progress

/-!
# When an auto-close fires

An auto-close is armed when its countdown has run out and fires after its warning.  Until then the
generation must stand still, so the door has been open all the time.  The countdown itself is not
looked at again, and the watchdog's retry stage restarts it without moving the generation.

## Main results

* `autoClose_started` : the arming of an auto-close that is made, and what happened since.
* `auto_close_after_timeout` : an auto-close moves a door that has been open for a full timeout
  before its warning and all through it.
* `auto_close_honours_countdown_iff` : it fires on a countdown that has run out, unless the retry
  stage restarted the countdown during the warning.
-/

namespace GdoBlaq

open Firmware

section

variable {w w' : World} {es : List Step} {e : Step} {a : Action} {c : Call} {r : Reply} {tid : ℕ}
  {v : Warning}

/-- Arming an auto-close: a countdown that has run out, whose flag is raised. -/
structure AutoStarted (w w' : World) : Prop where
  since : w.fw.doorOpenSinceMs ≠ 0
  timeout : (w.fw.autoCloseTimeoutMs : ℤ) ≤ w.clock - w.fw.doorOpenSinceMs
  triggered : w'.fw.autoCloseTriggered = true
  kept : w'.fw.doorOpenSinceMs = w.fw.doorOpenSinceMs

theorem Effect.auto_started (h : Effect w c w' r) (hcall : WarningKind.ArmedBy .auto c)
    (hold : w.tasks tid = none) (hnew : w'.tasks tid = some v) : AutoStarted w w' := by
  cases h with
  | autoArmed hdue =>
    obtain ⟨-, -, -, -, hne, hle⟩ := autoCloseStillDue_iff.1 hdue
    exact ⟨hne, hle, rfl, rfl⟩
  | closeArmed | schedArmed | userSent | userDropped | autoCancelled | autoSent | autoRefused
  | schedCancelled | schedSent => exact hcall.elim
  | rebooted => exact hcall.elim
  | _ => simp [hold] at hnew

theorem Effect.auto_enabled (h : Effect w c w' r) (hkind : c.completes = some (.auto, tid))
    (hsent : ∃ o ∈ r.out, o.Transmits .doorClose) : w.fw.autoCloseEnabled = true := by
  obtain ⟨o, ho, -⟩ := hsent
  cases h with
  | autoSent _ hvalid | autoRefused _ _ hvalid =>
    simp only [autoCloseValid, decide_eq_true_eq] at hvalid
    exact hvalid.2.2.1
  | autoCancelled => simp at ho
  | idle hcall => simp [hcall] at hkind
  | news hcall => simp [Call.completes_of_isNews hcall] at hkind
  | set hcall | setFailed hcall => simp [Call.completes_of_isSetter hcall] at hkind
  | _ => simp [Call.completes] at hkind

/-- **The arming of an auto-close that is made**, since when its warning has slept and nothing moved
the generation. -/
theorem autoClose_started {n : Nvs} {reads : NvsReads} {setenvOk : Bool} {t₀ : ℤ}
    (hrun : control.toLTS.Trace (World.boot n reads setenvOk t₀) es w)
    (hcalm : ∀ e ∈ es, CalmAt e.src e.label.1) (hstep : control.step w a = some (w', r))
    (hcalm' : CalmAt w a) (hkind : a.call.completes = some (.auto, tid))
    (hsent : ∃ o ∈ r.out, o.Transmits .doorClose) :
    ∃ before arm mid v, es = before ++ arm :: mid ∧ Arms arm .auto tid ∧ v.kind = .auto ∧
      AutoStarted (arm.src.tick arm.label.1.t) arm.dst ∧
      (∀ x ∈ mid, x.src.tasks tid = some v ∧ x.dst.tasks tid = some v) ∧
      ∀ x ∈ mid, x.dst.fw.closeGeneration = x.src.fw.closeGeneration := by
  have hboot := Call.not_isReboot_of_completes hkind
  have hsound : Sound w := (Sound.boot n reads setenvOk t₀ 0).trace hrun hcalm
  obtain ⟨hclock, heff⟩ := World.step_effect hstep hboot
  have hsound' : Sound (w.tick a.t) := hsound.tick hclock
  obtain ⟨v, hover, -, hread, -⟩ := heff.completes_sends hkind hsent
  obtain ⟨hv, hk, -, -⟩ := warningOver_eq_some hover
  rw [hsound'.compared_eq hv] at hread
  have hwrap := (hcalm' hboot).noWrap v (hsound'.book.mem_sleeping.2 ⟨tid, hv⟩)
  obtain ⟨before, arm, mid, rfl, hold, hnew, hasleep⟩ :=
    warning_armed hrun (by simp [World.boot]) hv
  obtain ⟨hbefore, hst, hmid⟩ := LTS.Trace.at_edge_iff.1 hrun
  have hsrc : Sound arm.src :=
    (Sound.boot n reads setenvOk t₀ 0).trace hbefore fun e he => hcalm e (by simp [he])
  obtain ⟨harm, -, hgen, -, -⟩ := arms_of_step hst hsrc.book hold hnew
  rw [hk] at harm
  obtain ⟨-, harmeff⟩ := World.step_effect hst (not_isReboot_of_asleep hst hnew)
  exact ⟨before, arm, mid, v, rfl, harm, hk, harmeff.auto_started harm.call harm.fresh hnew,
    hasleep,
    generation_const_of_asleep hmid hasleep hgen hread hwrap⟩

/-- **An auto-close fires only after a full, uninterrupted open period.**  In every run with a
timeout of at least a minute and warnings shorter than that, an auto-close that is made is enabled,
under the timeout it was armed with, and the door has been open for this timeout before it was armed
and ever since. -/
theorem auto_close_after_timeout {n : Nvs} {reads : NvsReads} {setenvOk : Bool} {t₀ : ℤ}
    (hrun : control.toLTS.Trace (World.boot n reads setenvOk t₀) es w)
    (hcalm : ∀ e ∈ es, CalmAt e.src e.label.1) (hstep : control.step w a = some (w', r))
    (hcalm' : CalmAt w a) (hkind : a.call.completes = some (.auto, tid))
    (hsent : ∃ o ∈ r.out, o.Transmits .doorClose) :
    ∃ before arm mid since, es = before ++ arm :: mid ∧ Arms arm .auto tid ∧
      w.fw.autoCloseEnabled = true ∧
      w.fw.autoCloseTimeoutMs = arm.src.fw.autoCloseTimeoutMs ∧
      since + (arm.src.fw.autoCloseTimeoutMs : ℤ) ≤ arm.label.1.t ∧ OpenSince es since := by
  obtain ⟨-, heff⟩ := World.step_effect hstep (Call.not_isReboot_of_completes hkind)
  obtain ⟨before, arm, mid, v, rfl, harm, -, hstarted, hasleep, hgen⟩ :=
    autoClose_started hrun hcalm hstep hcalm' hkind hsent
  obtain ⟨hbefore, hst, hmid⟩ := LTS.Trace.at_edge_iff.1 hrun
  have hsettled : ∀ x ∈ mid, Settled x := fun x hx =>
    settled_of_asleep (hmid.step_of_mem hx) (hasleep x hx).2 (hgen x hx)
  obtain ⟨harmsettled, -⟩ := harm.settled hst (by simp)
  have hcount : Countdown arm.src := Countdown.trace hbefore (Sound.boot n reads setenvOk t₀ 0)
    (Countdown.boot n reads setenvOk t₀ 0) fun e he => hcalm e (by simp [he])
  have hopen := hcount.running hstarted.since
  refine ⟨before, arm, mid, arm.src.fw.doorContinuouslyOpenSinceMs, rfl, harm,
    heff.auto_enabled hkind hsent, ?_, ?_, ?_⟩
  · exact (settled_trace hmid hsettled).2.1.trans harmsettled.timeout
  · have hle := (hcount.started hopen).1
    have htimeout := hstarted.timeout
    simp only [World.tick] at htimeout
    omega
  · exact (opened_since hbefore hopen).through_warning hopen harmsettled hmid hsettled

/-- The auto-close of `autoCloseRun`. -/
def autoCloseDone : Action := ⟨67001, .autoCloseComplete 0 (some (.idle .opened 0 0)) .ok⟩

theorem auto_close_after_timeout_left_open :
    ∃ before arm mid since,
      control.edges (World.boot autoCloseNvs {} true 0) autoCloseRun = before ++ arm :: mid ∧
        Arms arm .auto 0 ∧
        (control.last (World.boot autoCloseNvs {} true 0) autoCloseRun).fw.autoCloseEnabled = true ∧
        (control.last (World.boot autoCloseNvs {} true 0) autoCloseRun).fw.autoCloseTimeoutMs =
          arm.src.fw.autoCloseTimeoutMs ∧
        since + (arm.src.fw.autoCloseTimeoutMs : ℤ) ≤ arm.label.1.t ∧
        OpenSince (control.edges (World.boot autoCloseNvs {} true 0) autoCloseRun) since := by
  have hsome : (control.step (control.last (World.boot autoCloseNvs {} true 0) autoCloseRun)
      autoCloseDone).isSome = true := by
    decide +kernel
  exact auto_close_after_timeout (control.trace_edges _ _) (by decide +kernel)
    (Option.some_get hsome).symm (by decide +kernel) rfl (by decide +kernel)

/-! ### A full turn of the generation -/

/-- The auto-close of `autoCloseRun` is armed, and then the timeout set to two minutes. -/
def editedTimeoutRun : List Action := autoCloseRun ++ [⟨67000, .setAutoCloseTimeoutMs 120000 {}⟩]

/-- The firmware after `editedTimeoutRun` and almost a full turn of the generation. -/
def turnedWorld : World :=
  (control.last (World.boot autoCloseNvs {} true 0) editedTimeoutRun).bumped (2 ^ 32 - 1)

/-- A run to `turnedWorld`, in which every auto-close is armed under a timeout of one minute. -/
theorem turned_trace :
    ∃ es, control.toLTS.Trace (World.boot autoCloseNvs {} true 0) es turnedWorld ∧
      (∀ e ∈ es, (e.src.tick e.label.1.t).Young ∧ 60000 ≤ e.src.fw.autoCloseTimeoutMs) ∧
      ∀ arm ∈ es, Arms arm .auto 0 → arm.src.fw.autoCloseTimeoutMs = 60000 := by
  have hbefore : ∀ e ∈ control.edges (World.boot autoCloseNvs {} true 0) editedTimeoutRun,
      (e.src.tick e.label.1.t).Young ∧ e.src.fw.autoCloseTimeoutMs = 60000 := by
    decide +kernel
  have hrun := control.trace_edges (World.boot autoCloseNvs {} true 0) editedTimeoutRun
  unfold turnedWorld
  generalize hm : control.last (World.boot autoCloseNvs {} true 0) editedTimeoutRun = m at hrun ⊢
  have hlink : identifyProtocol m.fw.link
      { GdoStatus.idle .opened 0 0 with button := .pressed } .button = m.fw.link := by
    subst hm
    decide +kernel
  have hm' : (m.tick m.clock).Young ∧ 60000 ≤ m.fw.autoCloseTimeoutMs := by
    subst hm
    decide +kernel
  obtain ⟨es, hpressed, hes⟩ := pressed_trace hlink (2 ^ 32 - 1)
  refine ⟨_, hrun.append hpressed, ?_, ?_⟩
  · intro e he
    rcases List.mem_append.1 he with he | he
    · exact ⟨(hbefore e he).1, (hbefore e he).2.ge⟩
    · obtain ⟨hlabel, k, hsrc⟩ := hes e he
      rw [hlabel, hsrc]
      exact hm'
  · intro e he harm
    rcases List.mem_append.1 he with he | he
    · exact (hbefore e he).2
    · have hcall := harm.call
      rw [(hes e he).1] at hcall
      exact hcall.elim

/-- **A full turn hides an edit.**  The timeout is changed during the warning, and 2^32 - 1 button
presses later the generation reads as it did when the auto-close was armed. -/
theorem full_turn_hides_timeout :
    ∃ es w w' r, control.toLTS.Trace (World.boot autoCloseNvs {} true 0) es w ∧
      (∀ e ∈ es, (e.src.tick e.label.1.t).Young ∧ 60000 ≤ e.src.fw.autoCloseTimeoutMs) ∧
      control.step w autoCloseDone = some (w', r) ∧ (w.tick autoCloseDone.t).Young ∧
      (∃ o ∈ r.out, o.Transmits .doorClose) ∧ w.fw.autoCloseTimeoutMs = 120000 ∧
      ∃ arm ∈ es, Arms arm .auto 0 ∧ arm.src.fw.autoCloseTimeoutMs = 60000 := by
  have hsome : (control.step turnedWorld autoCloseDone).isSome = true := by decide +kernel
  have hv : turnedWorld.tasks 0 = some ⟨.auto, 62000, 2, 0⟩ := by decide +kernel
  obtain ⟨es, hrun, hcalm, harms⟩ := turned_trace
  refine ⟨es, turnedWorld, _, _, hrun, hcalm, (Option.some_get hsome).symm, by decide +kernel,
    by decide +kernel, by decide +kernel, ?_⟩
  obtain ⟨before, arm, mid, rfl, hold, hnew, -⟩ := warning_armed hrun (by simp [World.boot]) hv
  obtain ⟨hbefore, hst, -⟩ := LTS.Trace.at_edge_iff.1 hrun
  have hbook := (Sound.boot autoCloseNvs {} true 0 0).book.trace hbefore
  obtain ⟨harm, -⟩ := arms_of_step hst hbook hold hnew
  exact ⟨arm, by simp, harm, harms arm (by simp) harm⟩

end

/-! ### The countdown during the warning -/

section

variable {w w' : World} {es : List Step} {e : Step} {a : Action} {c : Call} {r : Reply} {tid : ℕ}
  {v : Warning}

/-- The countdown that an auto-close goes by has run out, and the dashboard shows none. -/
def CountdownDone (s : Firmware) (now : ℤ) : Prop :=
  s.autoCloseTriggered = true ∧ (s.autoCloseTimeoutMs : ℤ) ≤ now - s.doorOpenSinceMs ∧
    gdoGetAutoCloseRemainingMs s now = -1

/-- The retry stage gives up on a command for an open door while the auto-close flag is up: it
restarts the countdown. -/
def restartsCountdown (w : World) : Call → Bool
  | .watchdogRetry (some status) =>
    match w.phase with
    | .retry now => (retryDecision w.fw w.budget now status).2 = .revert ∧ status.door = .opened ∧
        w.fw.autoCloseTriggered = true
    | _ => false
  | _ => false

theorem Effect.countdown_kept (h : Effect w c w' r) (hs : Sound w) (hcalm : w.Calm)
    (hgen : w'.fw.closeGeneration = w.fw.closeGeneration) (hk : v.kind = .auto)
    (hv : w.tasks tid = some v) (hv' : w'.tasks tid = some v) :
    w'.fw.autoCloseTriggered = w.fw.autoCloseTriggered ∧
        w'.fw.doorOpenSinceMs = w.fw.doorOpenSinceMs ∨
      restartsCountdown w c = true ∧ w'.fw.autoCloseTriggered = false := by
  have hnone : ∀ current, ¬ autoCloseStillDue w.fw w.clock current = true := fun current hdue =>
    hs.auto.none_of_due hs.book hcalm hdue tid v hv hk
  cases h with
  | news _ hnews =>
    cases hnews with
    | view => exact .inl ⟨rfl, rfl⟩
    | door | obstruction | button => simp at hgen
  | autoNotStarted hdue | autoArmed hdue => exact absurd hdue (hnone _)
  | autoCancelled htask | autoRefused _ htask =>
    obtain ⟨hu, hku, -, -⟩ := warningOver_eq_some htask
    obtain ⟨hne, -⟩ := update_none_eq_some.1 hv'
    exact absurd (hs.auto.unique _ _ _ _ hv hu hk hku) hne
  | restarted hphase hrevert hdoor htrig =>
    exact .inr ⟨by simp [restartsCountdown, hphase, hrevert, hdoor, htrig], rfl⟩
  | rebooted => simp [World.boot] at hv'
  | _ => exact .inl ⟨rfl, rfl⟩

theorem restarts_step (hst : control.toLTS.step e.src e.label e.dst)
    (h : restartsCountdown e.src e.label.1.call = true) : e.dst.fw.autoCloseTriggered = false := by
  unfold restartsCountdown at h
  split at h
  · rename_i status hcall
    split at h
    · rename_i now hphase
      obtain ⟨hrevert, hdoor, htrig⟩ := of_decide_eq_true h
      have hstep : e.src.step e.label.1 = some (e.dst, e.label.2) := hst
      rcases hdec : retryDecision e.src.fw e.src.budget now status with ⟨b, action⟩
      obtain rfl : action = .revert := by rw [hdec] at hrevert; exact hrevert
      replace hstep := World.perform_of_step hstep
      simp only [hcall, World.perform, World.tick, hphase, hdec, retryRevert, hdoor, htrig] at hstep
      have := congrArg (fun x => x.fw.autoCloseTriggered) (Prod.mk.inj (Option.some.inj hstep)).1
      simpa using this.symm
    · cases h
  · cases h

/-- The step leaves the countdown alone, or restarts it in the retry stage. -/
def CountdownKept (e : Step) : Prop :=
  e.dst.fw.autoCloseTriggered = e.src.fw.autoCloseTriggered ∧
      e.dst.fw.doorOpenSinceMs = e.src.fw.doorOpenSinceMs ∨
    restartsCountdown e.src e.label.1.call = true ∧ e.dst.fw.autoCloseTriggered = false

theorem countdownKept_of_asleep (hst : control.toLTS.step e.src e.label e.dst) (hs : Sound e.src)
    (hcalm : CalmAt e.src e.label.1) (hk : v.kind = .auto) (hv : e.src.tasks tid = some v)
    (hv' : e.dst.tasks tid = some v)
    (hgen : e.dst.fw.closeGeneration = e.src.fw.closeGeneration) : CountdownKept e := by
  have hboot := not_isReboot_of_asleep hst hv'
  obtain ⟨hclock, heff⟩ := World.step_effect hst hboot
  exact heff.countdown_kept (hs.tick hclock) (hcalm hboot) hgen hk hv hv'

theorem countdown_lowered {m : World} (hrun : control.toLTS.Trace m es w)
    (hkept : ∀ x ∈ es, CountdownKept x) (he : e ∈ es)
    (hrestart : restartsCountdown e.src e.label.1.call = true) :
    w.fw.autoCloseTriggered = false := by
  obtain ⟨pre, post, rfl⟩ := List.append_of_mem he
  obtain ⟨-, hst, hpost⟩ := LTS.Trace.at_edge_iff.1 hrun
  refine hpost.invariant (I := fun w => w.fw.autoCloseTriggered = false)
    (restarts_step hst hrestart)
    fun x hx _ hlow => ?_
  rcases hkept x (by simp [hx]) with ⟨hflag, -⟩ | ⟨-, hflag⟩
  · exact hflag.trans hlow
  · exact hflag

theorem countdown_stands {m : World} (hrun : control.toLTS.Trace m es w)
    (hkept : ∀ x ∈ es, CountdownKept x)
    (hnone : ∀ x ∈ es, restartsCountdown x.src x.label.1.call = false) :
    w.fw.autoCloseTriggered = m.fw.autoCloseTriggered ∧
      w.fw.doorOpenSinceMs = m.fw.doorOpenSinceMs := by
  refine hrun.invariant (I := fun w => w.fw.autoCloseTriggered = m.fw.autoCloseTriggered ∧
    w.fw.doorOpenSinceMs = m.fw.doorOpenSinceMs) ⟨rfl, rfl⟩ fun x hx _ ⟨htrig, hsince⟩ => ?_
  rcases hkept x hx with ⟨hflag, hsame⟩ | ⟨hrestart, -⟩
  · exact ⟨hflag.trans htrig, hsame.trans hsince⟩
  · simp [hnone x hx] at hrestart

/-- **A restarted countdown is honoured, exactly.**  In every run with a timeout of at least a
minute and warnings shorter than that, an auto-close that is made finds its flag still up and its
countdown run out, if and only if the retry stage did not restart the countdown during its
warning. -/
theorem auto_close_honours_countdown_iff {n : Nvs} {reads : NvsReads} {setenvOk : Bool} {t₀ : ℤ}
    (hrun : control.toLTS.Trace (World.boot n reads setenvOk t₀) es w)
    (hcalm : ∀ e ∈ es, CalmAt e.src e.label.1) (hstep : control.step w a = some (w', r))
    (hcalm' : CalmAt w a) (hkind : a.call.completes = some (.auto, tid))
    (hsent : ∃ o ∈ r.out, o.Transmits .doorClose) :
    ∃ before arm mid, es = before ++ arm :: mid ∧ Arms arm .auto tid ∧
      (CountdownDone w.fw a.t ↔ ∀ x ∈ mid, restartsCountdown x.src x.label.1.call = false) := by
  obtain ⟨before, arm, mid, v, rfl, harm, hk, hstarted, hasleep, hgen⟩ :=
    autoClose_started hrun hcalm hstep hcalm' hkind hsent
  obtain ⟨hbefore, hst, hmid⟩ := LTS.Trace.at_edge_iff.1 hrun
  have hsound : ∀ x ∈ mid, Sound x.src := fun x hx =>
    (hrun.invariant_mem (I := Sound) (Sound.boot n reads setenvOk t₀ 0)
      (fun e he hest h => h.step (hcalm e he) hest) (e := x) (by simp [hx])).1
  have hkept : ∀ x ∈ mid, CountdownKept x := fun x hx =>
    countdownKept_of_asleep (hmid.step_of_mem hx) (hsound x hx) (hcalm x (by simp [hx])) hk
      (hasleep x hx).1 (hasleep x hx).2 (hgen x hx)
  refine ⟨before, arm, mid, rfl, harm, ?_⟩
  constructor
  · intro hdone x hx
    by_contra hrestart
    have hlow := countdown_lowered hmid hkept hx (by simpa using hrestart)
    exact absurd hdone.1 (by simp [hlow])
  · intro hnone
    obtain ⟨harmsettled, harmclock⟩ := harm.settled hst (by simp)
    obtain ⟨-, htimeout, hle⟩ := settled_trace hmid fun x hx =>
      settled_of_asleep (hmid.step_of_mem hx) (hasleep x hx).2 (hgen x hx)
    obtain ⟨htrig, hsince⟩ := countdown_stands hmid hkept hnone
    have hclock := (World.step_effect hstep (Call.not_isReboot_of_completes hkind)).1
    have hout := hstarted.timeout
    have hkeep := hstarted.kept
    simp only [World.tick] at hout hkeep
    have hflag : w.fw.autoCloseTriggered = true := htrig.trans hstarted.triggered
    refine ⟨hflag, ?_, by simp [gdoGetAutoCloseRemainingMs, hflag]⟩
    rw [htimeout, harmsettled.timeout, hsince, hkeep]
    omega

/-- The auto-close of the door left open finds its countdown run out. -/
theorem auto_close_honours_countdown_iff_left_open :
    ∃ before arm mid,
      control.edges (World.boot autoCloseNvs {} true 0) autoCloseRun = before ++ arm :: mid ∧
        Arms arm .auto 0 ∧
        (CountdownDone (control.last (World.boot autoCloseNvs {} true 0) autoCloseRun).fw 67001 ↔
          ∀ x ∈ mid, restartsCountdown x.src x.label.1.call = false) := by
  have hsome : (control.step (control.last (World.boot autoCloseNvs {} true 0) autoCloseRun)
      autoCloseDone).isSome = true := by
    decide +kernel
  exact auto_close_honours_countdown_iff (control.trace_edges _ _) (by decide +kernel)
    (Option.some_get hsome).symm (by decide +kernel) rfl (by decide +kernel)

/-- A user close that the opener ignores: its one repetition is made while the countdown of the
auto-close runs out, and the watchdog gives it up during the warning of the auto-close. -/
def ignoredCloseRun : List Action :=
  let idle := GdoStatus.idle .opened 0 0
  let st := GdoStatus.idle .opened 0 10000
  [⟨1000, .event idle .doorPosition .ok⟩, ⟨1000, .event idle .obstruction .ok⟩,
    ⟨46000, .controlClose (some idle) {}⟩] ++ List.replicate 10 ⟨51000, .warningCycle 0⟩ ++
    [⟨51001, .userCloseTask 0 (some idle) .ok (some st)⟩] ++ watchdogTick 52000 st ++
    watchdogTick 57000 st ++
    [⟨62000, .watchdogTransition (some st) (some st)⟩, ⟨62000, .watchdogRetry (some st)⟩] ++
    List.replicate 10 ⟨67000, .watchdogWarningCycle⟩ ++
    [⟨67000, .watchdogResend (some st) (some st) .ok⟩, ⟨67000, .watchdogAutoClose (some st) {}⟩,
      ⟨67000, .watchdogSched none (some st) {} {} {}⟩, ⟨67000, .watchdogReoffer⟩] ++
    List.replicate 10 ⟨72000, .warningCycle 1⟩ ++
    [⟨72000, .watchdogTransition (some st) (some st)⟩, ⟨72000, .watchdogRetry (some st)⟩]

/-- **An auto-close that a restarted countdown does not hold back.**  The retry stage has just given
up the user's close and restarted the countdown, which the dashboard shows, and the auto-close goes
out a millisecond later. -/
theorem restarted_countdown_ignored :
    ∃ es w w' r, control.toLTS.Trace (World.boot autoCloseNvs {} true 0) es w ∧
      (∀ e ∈ es, CalmAt e.src e.label.1) ∧
      control.step w ⟨72001, .autoCloseComplete 1 (some (.idle .opened 0 10000)) .ok⟩ =
        some (w', r) ∧
      (∃ o ∈ r.out, o.Transmits .doorClose) ∧ ¬ CountdownDone w.fw 72001 ∧
      gdoGetAutoCloseRemainingMs w.fw 72001 = 59999 := by
  have hsome : (control.step (control.last (World.boot autoCloseNvs {} true 0) ignoredCloseRun)
      ⟨72001, .autoCloseComplete 1 (some (.idle .opened 0 10000)) .ok⟩).isSome = true := by
    decide +kernel
  have hlow : (control.last (World.boot autoCloseNvs {} true 0)
      ignoredCloseRun).fw.autoCloseTriggered = false := by
    decide +kernel
  exact ⟨_, _, _, _, control.trace_edges _ ignoredCloseRun, by decide +kernel,
    (Option.some_get hsome).symm, by decide +kernel, fun hdone => absurd hdone.1 (by simp [hlow]),
    by decide +kernel⟩

end

end GdoBlaq
