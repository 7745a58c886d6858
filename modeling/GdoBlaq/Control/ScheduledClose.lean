import GdoBlaq.Control.OncePerWindow
import GdoBlaq.Control.OpenSince

/-!
# The door that a scheduled close moves

A scheduled close is for a door that was left open.  The firing rule only sees the minute of the
wall clock and how long the door has been open, and the command goes out seconds after the rule was
asked.

## Main results

* `openFor_covers_window` : the arithmetic of the firing rule, over any wall clock that runs with
  the monotonic one.
* `scheduled_close_opened_before` : a scheduled close moves a door that was open before the
  scheduled minute began, and has been open since.
-/

namespace GdoBlaq

open Firmware

/-! ### Wall clocks -/

/-- Milliseconds of a day. -/
def dayMs : ℤ := 86400000

/-- The minute of the day that a wall clock shows. -/
def minuteOfDay (wall : ℤ) : ℤ := wall / 60000 % 1440

/-- On the wall clock, `start` is the last instant before `now` at which the minute `minute` began,
and up to `last` the wall clock and the monotonic clock advance together. -/
structure WindowStart (wall : ℤ → ℤ) (minute : ℕ) (start now last : ℤ) : Prop where
  le : start ≤ now
  recent : now < start + dayMs
  began : wall start % dayMs = (minute : ℤ) * 60000
  together : ∀ t, start ≤ t → t ≤ last → wall t - wall start = t - start

/-- **The firing rule allows for the seconds it cannot see.**  A door that has been open for one
minute more than the minutes of the window that have passed was open before the window began. -/
theorem openFor_covers_window {wall : ℤ → ℤ} {nowMin minute : ℕ} {start now last openFor : ℤ}
    (hstart : WindowStart wall minute start now last) (hlast : now ≤ last)
    (hread : minuteOfDay (wall now) = nowMin) (hmin : minute < 1440)
    (hopen : ((((nowMin + 1440 - minute) % 1440 : ℕ) : ℤ) + 1) * 60000 ≤ openFor) :
    now - openFor < start := by
  obtain ⟨hle, hrecent, hbegan, htogether⟩ := hstart
  -- the minutes since the window began, as the wall clock shows them
  have hnow := htogether now hle hlast
  unfold minuteOfDay at hread
  unfold dayMs at hrecent hbegan
  omega

/-- A tick half a second after 23:00. -/
example : WindowStart (fun t => t + 82700000) 1380 100000 100500 105001 :=
  ⟨by decide, by decide, by decide, fun t _ _ => by simp; omega⟩

/-! ### Runs -/

section

variable {w w' : World} {es : List Step} {e : Step} {a : Action} {r : Reply} {tid : ℕ} {d : ℤ}

/-- A minute of the day within the window that the scheduled minute opens, over midnight. -/
def InWindow (nowMin minute : ℕ) : Prop :=
  nowMin < 1440 ∧ minute < 1440 ∧ (nowMin + 1440 - minute) % 1440 < closeScheduleWindowMin

theorem due_reads (hdue : dueAt e = some d) :
    ∃ clock current reserve start rollback nowMin today,
      e.label.1.call = .watchdogSched clock current reserve start rollback ∧
      clockSyncLocalNow clock = some (nowMin, today) ∧
      InWindow nowMin e.src.fw.closeSchedule.minute ∧ e.src.fw.lastDoor = .opened ∧
      ((((nowMin + 1440 - e.src.fw.closeSchedule.minute) % 1440 : ℕ) : ℤ) + 1) * 60000 ≤
        e.label.1.t - e.src.fw.doorContinuouslyOpenSinceMs ∧
      d = closeScheduleWindowDay nowMin today e.src.fw.closeSchedule.minute := by
  unfold dueAt World.due at hdue
  split at hdue
  · rename_i clock current reserve start rollback hcall
    obtain ⟨nowMin, today, -, hclock, -, -, -, -, -, -, -, hopen, -, hfire, hday⟩ :=
      schedCloseDue_eq_some hdue
    obtain ⟨-, hnow, hmin, hwin, hfor, -⟩ := closeScheduleShouldFire_iff.1 hfire
    exact ⟨clock, current, reserve, start, rollback, nowMin, today, hcall, hclock,
      ⟨hnow, hmin, hwin⟩, hopen, hfor, hday⟩
  · cases hdue

/-- **A scheduled close never closes a door that was opened after the scheduled time.**  In every
run, a scheduled close that is made was armed inside the window of the schedule that is still in
force; and over any wall clock that showed the minute the arming tick read, the door has been open
since before the scheduled minute began. -/
theorem scheduled_close_opened_before {n : Nvs} {reads : NvsReads} {setenvOk : Bool} {t₀ : ℤ}
    (hrun : control.toLTS.Trace (World.boot n reads setenvOk t₀) es w)
    (hstep : control.step w a = some (w', r)) (hkind : a.call.completes = some (.sched, tid))
    (hsent : ∃ o ∈ r.out, o.Transmits .doorClose) (hwrap : generationKept w a.call = true) :
    ∃ before arm mid clock current reserve start rollback nowMin today,
      es = before ++ arm :: mid ∧ Arms arm .sched tid ∧
      arm.label.1.call = .watchdogSched clock current reserve start rollback ∧
      clockSyncLocalNow clock = some (nowMin, today) ∧
      InWindow nowMin arm.src.fw.closeSchedule.minute ∧
      w.fw.closeSchedule = arm.src.fw.closeSchedule ∧
      ∀ wall begin, minuteOfDay (wall arm.label.1.t) = nowMin →
        WindowStart wall arm.src.fw.closeSchedule.minute begin arm.label.1.t a.t →
        ∃ t < begin, OpenSince es t := by
  have hst : control.toLTS.step w (a, r) w' := hstep
  obtain ⟨before, arm, mid, d, rfl, harm, hclose⟩ :=
    schedClose_armed (e := ⟨w, (a, r), w'⟩) hrun hst hkind hsent
  obtain ⟨hbefore, harmst, hmid⟩ := LTS.Trace.at_edge_iff.1 hrun
  have hbook := (Sound.boot n reads setenvOk t₀ 0).book.trace hbefore
  have hsettled := hclose.settled hbook ((Sound.boot n reads setenvOk t₀ 0).sched.trace hrun)
    harmst hmid hst hwrap
  obtain ⟨harmsettled, harmclock⟩ := harm.settled harmst (by simp)
  obtain ⟨-, -, hdue, -⟩ := id hclose
  obtain ⟨clock, current, reserve, start, rollback, nowMin, today, hcall, hclock, hwin, hopen, hfor,
    -⟩ := due_reads hdue
  obtain ⟨hschedule, -, hle⟩ := settled_trace hmid fun x hx => (hsettled x hx).1
  have htime : arm.label.1.t ≤ a.t := by
    have hclock := (World.step_effect hstep (Call.not_isReboot_of_completes hkind)).1
    omega
  refine ⟨before, arm, mid, clock, current, reserve, start, rollback, nowMin, today, rfl, harm,
    hcall, hclock, hwin, hschedule.trans harmsettled.schedule, fun wall begin hread hstart => ?_⟩
  refine ⟨arm.src.fw.doorContinuouslyOpenSinceMs, ?_, ?_⟩
  · have := openFor_covers_window hstart htime hread hwin.2.1 hfor
    omega
  · exact (opened_since hbefore hopen).through_warning hopen harmsettled hmid
      fun x hx => (hsettled x hx).1

theorem scheduled_close_opened_before_night :
    ∃ before arm mid clock current reserve start rollback nowMin today,
      nightStart ++ nightArm :: control.edges nightArm.dst (warningRun 0 105000) =
        before ++ arm :: mid ∧ Arms arm .sched 0 ∧
      arm.label.1.call = .watchdogSched clock current reserve start rollback ∧
      clockSyncLocalNow clock = some (nowMin, today) ∧
      InWindow nowMin arm.src.fw.closeSchedule.minute ∧
      nightClose.src.fw.closeSchedule = arm.src.fw.closeSchedule ∧
      ∀ wall begin, minuteOfDay (wall arm.label.1.t) = nowMin →
        WindowStart wall arm.src.fw.closeSchedule.minute begin arm.label.1.t
            nightClose.label.1.t →
        ∃ t < begin, OpenSince
          (nightStart ++ nightArm :: control.edges nightArm.dst (warningRun 0 105000)) t := by
  have hrun := night_trace (.nil _)
  rw [← List.cons_append, ← List.append_assoc] at hrun
  obtain ⟨hbefore, hst, -⟩ := LTS.Trace.at_edge_iff.1 hrun
  exact scheduled_close_opened_before hbefore hst (by decide +kernel) (by decide +kernel)
    (by decide +kernel)

end

/-! ### Windows -/

section

variable {w w' m : World} {es : List Step} {e : Step} {c : Call} {r : Reply} {d : ℤ}

/-- The storage takes both writes of the day. -/
def Call.daySaved : Call → Bool
  | .watchdogSched _ _ reserve _ rollback => reserve.err = .ok ∧ rollback.err = .ok
  | _ => true

/-- The task of a warning that the call would start can be created. -/
def Call.canWarn : Call → Bool
  | .watchdogSched _ _ _ start _ => preCloseWarningRunAsync start = .ok
  | _ => true

/-- A step in the window of the day `d`: no edit of the time, no reboot, no failed write of the day,
and no other day is due. -/
structure InWindowOf (d : ℤ) (e : Step) : Prop where
  edit : ¬ TimeEdited e
  running : e.label.1.call.isReboot = false
  saved : e.label.1.call.daySaved = true
  day : ∀ day, dueAt e = some day → day = d

/-- Where the storage works and the time is not edited, the day is only ever moved by a tick that
finds a scheduled close due and starts its warning. -/
theorem Effect.day_moved (h : Effect w c w' r) (hc : c.isReboot = false)
    (hsaved : c.daySaved = true) :
    w'.fw.closeScheduleLastDay = w.fw.closeScheduleLastDay ∨
      (timeEdit w c = true ∧ r.err = .ok) ∨
      (w.due c = some w'.fw.closeScheduleLastDay ∧ c.canWarn = true) := by
  cases h with
  | news _ hnews => exact .inl hnews.frame.lastDay
  | set _ _ hedit => exact hedit.day_kept.1.imp_right fun h => .inl ⟨h, rfl⟩
  | schedNotStarted _ _ hlast =>
    simp only [Call.daySaved, decide_eq_true_eq] at hsaved
    rcases hlast with ⟨h, -⟩ | ⟨-, hrollback, -⟩
    · exact .inl h
    · exact absurd hsaved.2 hrollback
  | schedArmed hday _ hstart => exact .inr (.inr ⟨hday, decide_eq_true hstart⟩)
  | rebooted => simp [Call.isReboot] at hc
  | _ => exact .inl rfl

/-- All that a scheduled close asks for, apart from its day being unused: the wall clock is in the
window of the day `d`, the door has been open since before, nothing is in its way, and no other
close is pending. -/
structure SchedReady (s : Firmware) (now : ℤ) (clock : Option Tm) (current : Option GdoStatus)
    (d : ℤ) : Prop where
  enabled : s.closeSchedule.enabled = true
  window : ∃ nowMin today, clockSyncLocalNow clock = some (nowMin, today) ∧
    InWindow nowMin s.closeSchedule.minute ∧
    closeScheduleWindowDay nowMin today s.closeSchedule.minute = d ∧
    ((((nowMin + 1440 - s.closeSchedule.minute) % 1440 : ℕ) : ℤ) + 1) * 60000 ≤
      now - s.doorContinuouslyOpenSinceMs
  door : s.lastDoor = .opened ∧ s.doorContinuouslyOpenSinceMs ≠ 0
  clear : openAndClear current = true ∧ s.lastObstruction = .clear
  idle : s.schedClosePending = false ∧ s.autoCloseTriggered = false ∧ s.userClosePending = false

/-- A tick of the watchdog that finds all this arms the scheduled close of the day `d`, if the
storage takes the day and the task can be created. -/
def ArmsAgain (w : World) (d : ℤ) : Prop :=
  ∀ t clock current reserve start rollback, w.phase = .sched → w.clock ≤ t →
    SchedReady w.fw t clock current d → reserve.err = .ok → preCloseWarningRunAsync start = .ok →
    ∃ w' r, control.step w ⟨t, .watchdogSched clock current reserve start rollback⟩ = some (w', r) ∧
      w'.fw.closeScheduleLastDay = d ∧ ∃ v, w'.tasks w.nextTask = some v ∧ v.kind = .sched

theorem SchedReady.due {s : Firmware} {now : ℤ} {clock : Option Tm} {current : Option GdoStatus}
    (h : SchedReady s now clock current d) (hday : s.closeScheduleLastDay ≠ d) :
    schedCloseDue s now clock current = some d := by
  obtain ⟨hen, ⟨nowMin, today, hclock, ⟨hnow, hmin, hwin⟩, rfl, hfor⟩, ⟨hdoor, hsince⟩,
    ⟨hcur, hobst⟩, hsched, hauto, huser⟩ := h
  cases current with
  | none => simp [openAndClear] at hcur
  | some st =>
    simp only [openAndClear, decide_eq_true_eq] at hcur
    obtain ⟨hsync, hopen, hclear⟩ := hcur
    have hfire : closeScheduleShouldFire true (openForMs s now st) nowMin today
        s.closeSchedule.minute s.closeScheduleLastDay = true :=
      closeScheduleShouldFire_iff.2
        ⟨rfl, hnow, hmin, hwin, by simpa [openForMs, hopen, hdoor, hsince] using hfor, hday⟩
    simp [schedCloseDue, hclock, hen, hsched, hauto, huser, hsync, hfire, hclear, hobst]

theorem armsAgain_of_unused (h : w.fw.closeScheduleLastDay ≠ d) : ArmsAgain w d := by
  intro t clock current reserve start rollback hphase ht hready hreserve hstart
  have hdue : schedCloseDue w.fw t clock current = some d := hready.due h
  have hstep : ∃ x : World × Reply, control.step w
        ⟨t, .watchdogSched clock current reserve start rollback⟩ = some x ∧
      x.1.fw.closeScheduleLastDay = d ∧ ∃ v, x.1.tasks w.nextTask = some v ∧ v.kind = .sched := by
    simp only [control, World.step, ht, true_or, ite_true, World.perform, World.tick, hphase,
      schedCloseCheck_armed hdue hreserve hstart]
    exact ⟨_, rfl, rfl, _, Function.update_self .., rfl⟩
  obtain ⟨⟨w', r⟩, hstep, hday, harmed⟩ := hstep
  exact ⟨w', r, hstep, hday, harmed⟩

theorem day_used {e : Step} (hst : control.toLTS.step e.src e.label e.dst) (hdue : dueAt e = some d)
    (hsaved : e.label.1.call.daySaved = true) (hwarn : e.label.1.call.canWarn = true) :
    e.dst.fw.closeScheduleLastDay = d := by
  obtain ⟨clock, current, reserve, start, rollback, -, -, hcall, -⟩ := due_reads hdue
  simp only [hcall, Call.daySaved, Call.canWarn, decide_eq_true_eq] at hsaved hwarn
  simp only [dueAt, hcall, World.due] at hdue
  have hstep : e.src.step e.label.1 = some (e.dst, e.label.2) := hst
  replace hstep := World.perform_of_step hstep
  simp only [hcall, World.perform, schedCloseCheck_armed hdue hsaved.1 hwarn] at hstep
  split_ifs at hstep
  have := congrArg (fun x => x.fw.closeScheduleLastDay) (Prod.mk.inj (Option.some.inj hstep)).1
  exact this.symm

/-- In a window the day is unused exactly as long as no tick found the scheduled close due and could
start its warning. -/
theorem day_unused_iff (hrun : control.toLTS.Trace m es w) (hwindow : ∀ e ∈ es, InWindowOf d e)
    (hstart : m.fw.closeScheduleLastDay ≠ d) :
    w.fw.closeScheduleLastDay ≠ d ↔
      ∀ e ∈ es, dueAt e = some d → e.label.1.call.canWarn = false := by
  constructor
  · intro hunused arm harm hdue
    by_contra hwarn
    obtain ⟨pre, post, rfl⟩ := List.append_of_mem harm
    obtain ⟨-, hst, hpost⟩ := LTS.Trace.at_edge_iff.1 hrun
    have hused := day_used hst hdue (hwindow arm harm).saved (by simpa using hwarn)
    obtain ⟨pre', b, post', rfl, -, hback⟩ := day_given_back hpost hused hunused
      fun e he => (hwindow e (by simp [he])).day
    have hb := hwindow b (by simp)
    rcases hback with hedit | ⟨hreboot, -⟩
    · exact hb.edit hedit
    · simp [hb.running] at hreboot
  · intro hnone hused
    obtain ⟨pre, e, post, rfl, hsrc, hdst, -⟩ :=
      hrun.exists_first (P := fun w => w.fw.closeScheduleLastDay = d) hstart hused
    obtain ⟨hpre, hst, -⟩ := LTS.Trace.at_edge_iff.1 hrun
    obtain ⟨hedit, hrunning, hsaved, -⟩ := hwindow e (by simp)
    obtain ⟨-, heff⟩ := World.step_effect hst hrunning
    rcases heff.day_moved hrunning hsaved with h | h | ⟨hdue, hwarn⟩
    · exact hsrc (h.symm.trans hdst)
    · exact hedit h
    · have := hnone e (by simp) (hdst ▸ hdue)
      simp [this] at hwarn

/-- **An obstruction uses up the night's close, exactly** when it comes too late to hold off the
warning.  In a window of the day `d` that was unused when it began, with no edit, reboot or storage
failure, the day is still unused, and a later tick arms the close again, if and only if no tick of
the window found the close due and could start its warning. -/
theorem obstruction_keeps_day_iff (hrun : control.toLTS.Trace m es w)
    (hwindow : ∀ e ∈ es, InWindowOf d e) (hstart : m.fw.closeScheduleLastDay ≠ d) :
    (w.fw.closeScheduleLastDay ≠ d ∧ ArmsAgain w d) ↔
      ∀ e ∈ es, dueAt e = some d → e.label.1.call.canWarn = false := by
  rw [← day_unused_iff hrun hwindow hstart]
  exact ⟨fun h => h.1, fun h => ⟨h, armsAgain_of_unused h⟩⟩

/-- A window in which the obstruction is there before the warning: the tick holds off. -/
def heldOffWindow : List Action :=
  let st := { GdoStatus.idle .opened 0 0 with obstruction := .obstructed }
  openReports 1000 ++ ⟨2000, .event st .obstruction .ok⟩ :: watchdogTickUntilSched 100000 st ++
    [⟨100000, .watchdogSched (some (evening 23 0)) (some st) {} {} {}⟩]

/-- A window in which the obstruction comes and goes during the warning. -/
def obstructedWindow : List Action :=
  let st := { GdoStatus.idle .opened 0 0 with obstruction := .obstructed }
  openReports 1000 ++ watchdogTickUntilSched 100000 (.idle .opened 0 0) ++
    ⟨100000, .watchdogSched (some (evening 23 0)) (some (.idle .opened 0 0)) {} {} {}⟩ ::
    warningRun 0 103000 ++
    [⟨103000, .event st .obstruction .ok⟩, ⟨104000, .event (.idle .opened 0 0) .obstruction .ok⟩,
      ⟨105001, .schedCloseComplete 0 (some (.idle .opened 0 0)) .ok⟩]

instance (e : Step) : Decidable (InWindowOf d e) :=
  decidable_of_iff (¬ (timeEdit e.src e.label.1.call = true ∧ e.label.2.err = .ok) ∧
      e.label.1.call.isReboot = false ∧ e.label.1.call.daySaved = true ∧ ∀ day ∈ dueAt e, day = d)
    ⟨fun ⟨h₁, h₂, h₃, h₄⟩ => ⟨h₁, h₂, h₃, h₄⟩, fun ⟨h₁, h₂, h₃, h₄⟩ => ⟨h₁, h₂, h₃, h₄⟩⟩

theorem obstruction_keeps_day_iff_held :
    let w₀ := World.boot { schedBlob := some (.of (nightly 1380) 0) } {} true 0
    ((control.last w₀ heldOffWindow).fw.closeScheduleLastDay ≠ 20454 ∧
        ArmsAgain (control.last w₀ heldOffWindow) 20454) ↔
      ∀ e ∈ control.edges w₀ heldOffWindow, dueAt e = some 20454 →
        e.label.1.call.canWarn = false :=
  obstruction_keeps_day_iff (control.trace_edges _ _) (by decide +kernel) (by decide +kernel)

/-- **A night's close that an obstruction used up.**  It was reported during the warning and gone
again when the warning ended; no close was sent, and the day counts as used. -/
theorem obstruction_uses_day :
    ∃ m es w, control.toLTS.Trace m es w ∧ m.fw.closeScheduleLastDay ≠ 20454 ∧
      (∀ e ∈ es, InWindowOf 20454 e) ∧ (∀ e ∈ es, ∀ o ∈ e.label.2.out, ¬ o.Transmits .doorClose) ∧
      w.fw.lastDoor = .opened ∧ w.fw.lastObstruction = .clear ∧
      ¬ (w.fw.closeScheduleLastDay ≠ 20454 ∧ ArmsAgain w 20454) := by
  have hused : (control.last (World.boot { schedBlob := some (.of (nightly 1380) 0) } {} true 0)
      obstructedWindow).fw.closeScheduleLastDay = 20454 := by decide +kernel
  exact ⟨_, _, _, control.trace_edges _ obstructedWindow, by decide +kernel, by decide +kernel,
    by decide +kernel, by decide +kernel, by decide +kernel, fun h => h.1 hused⟩

end

end GdoBlaq
