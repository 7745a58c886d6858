import GdoBlaq.Control.World

/-!
# What a step can do

The machine has nineteen kinds of steps, but few things happen to the variables that decide about
closing.  `Effect` lists them, with every guard the code checked on the way, and
`World.perform_effect` proves the list complete.  Invariants are proved by cases on it.

## Main results

* `World.perform_effect`, `World.step_cases` : every step of the machine is one of the effects.
-/

namespace GdoBlaq

open Firmware

/-- The call is one of those that cancel every pending close: an open, a button press, a setting
that was changed. -/
def Call.Cancels : Call → EspErr → Prop
  | .controlOpen _, _ => True
  | .event status .button _, _ => status.button = .pressed
  | .setPreCloseBuzzer _ _, err => err = .ok
  | .setAutoCloseTimeoutMs _ _, err => err = .ok
  | .setAutoCloseEnabled _ _, err => err = .ok
  | .setCloseSchedule _ _ _ _, err => err = .ok
  | _, _ => False

/-- The close a warning task is about to make when it completes, and the number of the task. -/
def Call.completes : Call → Option (WarningKind × ℕ)
  | .userCloseTask tid _ _ _ => some (.user, tid)
  | .autoCloseComplete tid _ _ => some (.auto, tid)
  | .schedCloseComplete tid _ _ => some (.sched, tid)
  | _ => none

/-- The call takes in the driver's news. -/
def Call.isNews : Call → Bool
  | .event _ _ _ | .watchdogTransition _ _ => true
  | _ => false

/-- The call is one of the setters. -/
def Call.isSetter : Call → Bool
  | .setPreCloseBuzzer _ _ | .setAutoCloseTimeoutMs _ _ | .setAutoCloseEnabled _ _
  | .setCloseSchedule _ _ _ _ => true
  | _ => false

/-- The progress of the warnings after a call that starts none: one beep, or nothing. -/
def World.elapsedAfter (w : World) : Call → ℕ → ℕ
  | .warningCycle tid => Function.update w.elapsed tid (w.elapsed tid + preCloseWarningCycleMs)
  | _ => w.elapsed

/-- What a setter that succeeded may have done to the schedule: nothing, or the edit of
`gdo_set_close_schedule`, stored and in force. -/
inductive ScheduleEdit (w : World) : Call → CloseSchedule → ℤ → Option PersistedSchedule → Prop
  | kept (c : Call) :
      ScheduleEdit w c w.fw.closeSchedule w.fw.closeScheduleLastDay w.nvs.schedBlob
  | edited (sch : CloseSchedule) (write : NvsWrite) (applied restored : Bool)
      (hform : sch.wellFormed = true) :
      ScheduleEdit w (.setCloseSchedule (some sch) write applied restored) sch
        (dayAfterEdit w.fw sch) (some (.of sch (dayAfterEdit w.fw sch)))

/-- What a setter that failed may have left in the storage. -/
inductive FailedEdit (w : World) : Call → Option PersistedSchedule → Prop
  | kept (c : Call) : FailedEdit w c w.nvs.schedBlob
  | stored (sch : CloseSchedule) (write : NvsWrite) (applied restored : Bool)
      (hform : sch.wellFormed = true) :
      FailedEdit w (.setCloseSchedule (some sch) write applied restored)
        (some (.of sch (dayAfterEdit w.fw sch)))

/-- All that a step can do. -/
inductive Effect (w : World) : Call → World → Reply → Prop
  /-- Nothing but the watchdog's own place and budget and the warnings' progress. -/
  | idle {c : Call} {p : Phase} {b : RetryBudget} {r : Reply} (hcall : c.completes = none)
      (hcancel : ¬ c.Cancels r.err) (hout : ∀ o ∈ r.out, ¬ o.IsRequest)
      (hbeep : ∀ tid, c = .warningCycle tid → w.elapsed tid < preCloseWarningDurationMs) :
      Effect w c { w with phase := p, budget := b, elapsed := w.elapsedAfter c } r
  /-- The driver's news. -/
  | news {c : Call} {fw : Firmware} {p : Phase} {r : Reply} (hcall : c.isNews = true)
      (hnews : News w.fw w.clock fw)
      (hcancel : c.Cancels r.err → fw.closeGeneration = w.fw.closeGeneration + 1)
      (hout : Silent r.out) : Effect w c { w with fw := fw, phase := p } r
  /-- A setter that succeeded. -/
  | set {c : Call} {tz : CStr} {buzzer enabled : Bool} {ms : ℕ} {sch : CloseSchedule} {day : ℤ}
      {nvs : Nvs} (hcall : c.isSetter = true)
      (hms : ms = w.fw.autoCloseTimeoutMs ∨ 60000 ≤ ms)
      (hedit : ScheduleEdit w c sch day nvs.schedBlob) :
      Effect w c
        { w with
          nvs := nvs
          fw := { w.fw with
            closeGeneration := w.fw.closeGeneration + 1, timezone := tz, buzzerEnabled := buzzer
            autoCloseEnabled := enabled, autoCloseTimeoutMs := ms, closeSchedule := sch
            closeScheduleLastDay := day } }
        { err := .ok }
  /-- A setter that failed. -/
  | setFailed {c : Call} {tz : CStr} {nvs : Nvs} {err : EspErr} (hcall : c.isSetter = true)
      (herr : err ≠ .ok) (hcancel : ¬ c.Cancels err) (hedit : FailedEdit w c nvs.schedBlob) :
      Effect w c { w with nvs := nvs, fw := { w.fw with timezone := tz } } { err := err }
  | opened (err : EspErr) :
      Effect w (.controlOpen err)
        { w with fw := { w.fw with
            closeGeneration := w.fw.closeGeneration + 1
            doorCommandId := w.fw.doorCommandId + 1 } }
        ⟨err, [.request .control .doorOpen (w.fw.doorCommandId + 1) err]⟩
  /-- A user close was accepted and its warning runs. -/
  | closeArmed {status : Option GdoStatus} {start : TaskStart}
      (hstands : w.fw.userCloseStands = false) (hclosed : alreadyClosed w.fw status = false) :
      Effect w (.controlClose status start)
        { w with
          fw := { w.fw with
            closeGeneration := w.fw.closeGeneration + 1, userClosePending := true
            userClosePendingGeneration := w.fw.closeGeneration + 1 }
          tasks := Function.update w.tasks w.nextTask
            (some ⟨.user, w.clock, w.fw.closeGeneration + 1, w.fw.doorCommandId⟩)
          elapsed := Function.update w.elapsed w.nextTask 0
          nextTask := w.nextTask + 1 }
        { err := .ok }
  | closeNotCreated {status : Option GdoStatus} {start : TaskStart} :
      Effect w (.controlClose status start)
        { w with fw := { w.fw with
            closeGeneration := w.fw.closeGeneration + 1, userClosePending := false
            userClosePendingGeneration := w.fw.closeGeneration + 1 } }
        { err := .noMem }
  | userSent {tid : ℕ} {v : Warning} {status again : Option GdoStatus} {err : EspErr}
      {out : List Out} (htask : w.warningOver tid .user = some v)
      (hgen : Stamp.read 32 v.generation = Stamp.read 32 w.fw.closeGeneration)
      (hclear : clearToClose status = true) (hout : Silent out) :
      Effect w (.userCloseTask tid status err again)
        { w with
          fw := { w.fw with
            userClosePending := w.fw.userClosePendingAfter v.generation
            doorCommandId := w.fw.doorCommandId + 1 }
          tasks := Function.update w.tasks tid none }
        { out := .request .userClose .doorClose (w.fw.doorCommandId + 1) err :: out }
  | userDropped {tid : ℕ} {v : Warning} {status again : Option GdoStatus} {err : EspErr}
      {out : List Out} (htask : w.warningOver tid .user = some v)
      (hout : Silent out) :
      Effect w (.userCloseTask tid status err again)
        { w with
          fw := { w.fw with userClosePending := w.fw.userClosePendingAfter v.generation }
          tasks := Function.update w.tasks tid none }
        { out := out }
  | autoNotStarted {current : Option GdoStatus} {start : TaskStart} {p : Phase}
      (hdue : autoCloseStillDue w.fw w.clock current = true) :
      Effect w (.watchdogAutoClose current start)
        { w with
          phase := p
          fw := { w.fw with
            autoCloseGeneration := w.fw.closeGeneration, autoCloseCommandId := w.fw.doorCommandId
            autoCloseTriggered := false, doorOpenSinceMs := w.clock } } {}
  | autoArmed {current : Option GdoStatus} {start : TaskStart} {p : Phase}
      (hdue : autoCloseStillDue w.fw w.clock current = true) :
      Effect w (.watchdogAutoClose current start)
        { w with
          phase := p
          fw := { w.fw with
            autoCloseGeneration := w.fw.closeGeneration, autoCloseCommandId := w.fw.doorCommandId
            autoCloseTriggered := true }
          tasks := Function.update w.tasks w.nextTask
            (some ⟨.auto, w.clock, w.fw.closeGeneration, w.fw.doorCommandId⟩)
          elapsed := Function.update w.elapsed w.nextTask 0
          nextTask := w.nextTask + 1 } {}
  | autoCancelled {tid : ℕ} {v : Warning} {status : Option GdoStatus} {err : EspErr}
      (htask : w.warningOver tid .auto = some v) (hvalid : autoCloseValid w.fw status = false) :
      Effect w (.autoCloseComplete tid status err)
        { w with
          fw := { w.fw with
            autoCloseTriggered := false
            doorOpenSinceMs :=
              if w.fw.lastDoor = .opened then w.clock else w.fw.doorOpenSinceMs }
          tasks := Function.update w.tasks tid none } {}
  | autoSent {tid : ℕ} {v : Warning} {status : Option GdoStatus}
      (htask : w.warningOver tid .auto = some v) (hvalid : autoCloseValid w.fw status = true) :
      Effect w (.autoCloseComplete tid status .ok)
        { w with
          fw := { w.fw with doorCommandId := w.fw.doorCommandId + 1 }
          tasks := Function.update w.tasks tid none }
        { out := [.request .autoClose .doorClose (w.fw.doorCommandId + 1) .ok,
            .notify (.targetDoor .closed)] }
  /-- The driver refused the command of an auto-close. -/
  | autoRefused {tid : ℕ} {v : Warning} {status : Option GdoStatus} {err : EspErr}
      (herr : err ≠ .ok) (htask : w.warningOver tid .auto = some v)
      (hvalid : autoCloseValid w.fw status = true) :
      Effect w (.autoCloseComplete tid status err)
        { w with
          fw := { w.fw with
            doorCommandId := w.fw.doorCommandId + 1, autoCloseTriggered := false
            doorOpenSinceMs := w.clock }
          tasks := Function.update w.tasks tid none }
        { out := [.request .autoClose .doorClose (w.fw.doorCommandId + 1) err] }
  /-- `RETRY_REVERT` restarts the countdown of an auto-close that did not take effect. -/
  | restarted {status : GdoStatus} {b : RetryBudget} {p : Phase} {r : Reply} {now : ℤ}
      (hphase : w.phase = .retry now)
      (hrevert : retryDecision w.fw w.budget now status = (b, .revert))
      (hdoor : status.door = .opened) (htrig : w.fw.autoCloseTriggered = true)
      (hout : ∀ o ∈ r.out, ¬ o.IsRequest) :
      Effect w (.watchdogRetry (some status))
        { w with
          fw := { w.fw with autoCloseTriggered := false, doorOpenSinceMs := w.clock }
          budget := b
          phase := p } r
  | schedNotReserved {clock : Option Tm} {current : Option GdoStatus} {reserve rollback : NvsWrite}
      {start : TaskStart} {p : Phase} {day : ℤ}
      (hdue : schedCloseDue w.fw w.clock clock current = some day) (herr : reserve.err ≠ .ok) :
      Effect w (.watchdogSched clock current reserve start rollback)
        { w with
          phase := p
          nvs := { w.nvs with schedBlob := some (.of w.fw.closeSchedule day) } } {}
  | schedNotStarted {clock : Option Tm} {current : Option GdoStatus} {reserve rollback : NvsWrite}
      {start : TaskStart} {p : Phase} {day last stored : ℤ}
      (hdue : schedCloseDue w.fw w.clock clock current = some day) (hreserve : reserve.err = .ok)
      (hlast : last = w.fw.closeScheduleLastDay ∧ stored = last ∨
        last = day ∧ rollback.err ≠ .ok ∧ (stored = day ∨ stored = w.fw.closeScheduleLastDay)) :
      Effect w (.watchdogSched clock current reserve start rollback)
        { w with
          phase := p
          nvs := { w.nvs with schedBlob := some (.of w.fw.closeSchedule stored) }
          fw := { w.fw with
            closeScheduleLastDay := last, schedCloseGeneration := w.fw.closeGeneration
            schedCloseCommandId := w.fw.doorCommandId, schedClosePending := false } } {}
  | schedArmed {clock : Option Tm} {current : Option GdoStatus} {reserve rollback : NvsWrite}
      {start : TaskStart} {p : Phase} {day : ℤ}
      (hdue : schedCloseDue w.fw w.clock clock current = some day) (hreserve : reserve.err = .ok)
      (hstart : preCloseWarningRunAsync start = .ok) :
      Effect w (.watchdogSched clock current reserve start rollback)
        { w with
          phase := p
          nvs := { w.nvs with schedBlob := some (.of w.fw.closeSchedule day) }
          fw := { w.fw with
            closeScheduleLastDay := day, schedCloseGeneration := w.fw.closeGeneration
            schedCloseCommandId := w.fw.doorCommandId, schedClosePending := true }
          tasks := Function.update w.tasks w.nextTask
            (some ⟨.sched, w.clock, w.fw.closeGeneration, w.fw.doorCommandId⟩)
          elapsed := Function.update w.elapsed w.nextTask 0
          nextTask := w.nextTask + 1 } {}
  | schedCancelled {tid : ℕ} {v : Warning} {status : Option GdoStatus} {err : EspErr}
      (htask : w.warningOver tid .sched = some v) (hvalid : schedCloseValid w.fw status = false) :
      Effect w (.schedCloseComplete tid status err)
        { w with
          fw := { w.fw with schedClosePending := false }
          tasks := Function.update w.tasks tid none } {}
  | schedSent {tid : ℕ} {v : Warning} {status : Option GdoStatus} {err : EspErr} {out : List Out}
      (htask : w.warningOver tid .sched = some v) (hvalid : schedCloseValid w.fw status = true)
      (hout : Silent out) :
      Effect w (.schedCloseComplete tid status err)
        { w with
          fw := { w.fw with schedClosePending := false, doorCommandId := w.fw.doorCommandId + 1 }
          tasks := Function.update w.tasks tid none }
        { out := .request .schedClose .doorClose (w.fw.doorCommandId + 1) err :: out }
  | rebooted (reads : NvsReads) (setenvOk : Bool) :
      Effect w (.reboot reads setenvOk)
        { World.boot w.nvs reads setenvOk w.clock with nextTask := w.nextTask } {}

section

variable {w w' : World} {r : Reply} {c : Call}

theorem Call.completes_of_isSetter (h : c.isSetter = true) : c.completes = none := by
  cases c <;> simp_all [Call.isSetter, Call.completes]

theorem Call.completes_of_isNews (h : c.isNews = true) : c.completes = none := by
  cases c <;> simp_all [Call.isNews, Call.completes]

theorem warningOver_eq_some {tid : ℕ} {kind : WarningKind} {v : Warning}
    (h : w.warningOver tid kind = some v) :
    w.tasks tid = some v ∧ v.kind = kind ∧ preCloseWarningDurationMs ≤ w.elapsed tid ∧
      v.startMs < w.clock := by
  unfold World.warningOver at h
  split at h
  · rename_i u hu
    split_ifs at h with hover
    obtain rfl := Option.some.inj h
    exact ⟨hu, hover⟩
  · cases h

theorem Effect.ofSaveSetting {write : NvsWrite} {stored : Nvs} {publish : Firmware → Firmware}
    {buzzer enabled : Bool} {ms : ℕ} (hblob : stored.schedBlob = w.nvs.schedBlob)
    (hpublish : publish w.fw.bump = { w.fw with
      closeGeneration := w.fw.closeGeneration + 1, buzzerEnabled := buzzer
      autoCloseEnabled := enabled, autoCloseTimeoutMs := ms })
    (hms : ms = w.fw.autoCloseTimeoutMs ∨ 60000 ≤ ms) (hcall : c.isSetter = true)
    (hcancel : ∀ err, c.Cancels err → err = .ok) :
    Effect w c (w.settings (saveSetting w.fw w.nvs write stored publish)).1
      (w.settings (saveSetting w.fw w.nvs write stored publish)).2 := by
  rcases saveSetting_cases (s := w.fw) (n := w.nvs) (w := write) stored publish with
    ⟨n', hn', herr, he⟩ | ⟨-, he⟩
  · rw [he]
    have hkept : n'.schedBlob = w.nvs.schedBlob := by
      rcases hn' with rfl | rfl
      · rfl
      · exact hblob
    exact .setFailed hcall herr (fun h => herr (hcancel _ h)) (hkept ▸ .kept c)
  · rw [he]
    have hedit : ScheduleEdit w c w.fw.closeSchedule w.fw.closeScheduleLastDay stored.schedBlob :=
      hblob ▸ .kept c
    exact hpublish ▸ .set hcall hms hedit

theorem Effect.ofSetCloseSchedule (schedule : Option CloseSchedule) (write : NvsWrite)
    (applied restored : Bool) :
    let res := w.settings (gdoSetCloseSchedule w.fw w.nvs schedule write applied restored)
    Effect w (.setCloseSchedule schedule write applied restored) res.1 res.2 := by
  rcases gdoSetCloseSchedule_cases (s := w.fw) (n := w.nvs) (w := write) schedule applied restored
    with ⟨tz, n', err, herr, hn', he⟩ | ⟨sch, rfl, hform, he⟩
  · simp only [he]
    refine .setFailed rfl herr herr ?_
    rcases hn' with rfl | ⟨sch, rfl, hform, rfl⟩
    · exact .kept _
    · exact .stored sch write applied restored hform
  · simp only [he]
    exact .set rfl (.inl rfl) (.edited sch write applied restored hform)

theorem Effect.ofControlClose (status : Option GdoStatus) (start : TaskStart)
    (h : w.perform (.controlClose status start) = some (w', r)) :
    Effect w (.controlClose status start) w' r := by
  simp only [World.perform] at h
  rcases gdoControlClose_cases (s := w.fw) status start with ⟨err, he, -⟩ | he | ⟨hst, hcl, he⟩
  · rw [he] at h
    obtain ⟨rfl, rfl⟩ := Prod.mk.inj (Option.some.inj h)
    exact .idle rfl id (by simp) (by simp)
  · rw [he] at h
    obtain ⟨rfl, rfl⟩ := Prod.mk.inj (Option.some.inj h)
    exact .closeNotCreated
  · rw [he] at h
    obtain ⟨rfl, rfl⟩ := Prod.mk.inj (Option.some.inj h)
    exact .closeArmed hst hcl

theorem Effect.ofUserCloseTask (tid : ℕ) (status again : Option GdoStatus) (err : EspErr)
    (h : w.perform (.userCloseTask tid status err again) = some (w', r)) :
    Effect w (.userCloseTask tid status err again) w' r := by
  simp only [World.perform] at h
  cases htask : w.warningOver tid .user with
  | none => simp [htask] at h
  | some v =>
    simp only [htask] at h
    rcases userCloseTask_cases (s := w.fw) v.generation status err again with
      ⟨out, hout, hgen, hclear, he⟩ | ⟨out, hout, he⟩
    · rw [he] at h
      obtain ⟨rfl, rfl⟩ := Prod.mk.inj (Option.some.inj h)
      exact .userSent htask hgen hclear hout
    · rw [he] at h
      obtain ⟨rfl, rfl⟩ := Prod.mk.inj (Option.some.inj h)
      exact .userDropped htask hout

theorem Effect.ofAutoCloseComplete (tid : ℕ) (status : Option GdoStatus) (err : EspErr)
    (h : w.perform (.autoCloseComplete tid status err) = some (w', r)) :
    Effect w (.autoCloseComplete tid status err) w' r := by
  simp only [World.perform] at h
  cases htask : w.warningOver tid .auto with
  | none => simp [htask] at h
  | some v =>
    simp only [htask] at h
    rcases autoCloseWarningCompleteCb_cases (s := w.fw) w.clock status err with
      ⟨hvalid, he⟩ | ⟨hvalid, he, rfl⟩ | ⟨hvalid, herr, he⟩
    · rw [he] at h
      obtain ⟨rfl, rfl⟩ := Prod.mk.inj (Option.some.inj h)
      exact .autoCancelled htask hvalid
    · rw [he] at h
      obtain ⟨rfl, rfl⟩ := Prod.mk.inj (Option.some.inj h)
      exact .autoSent htask hvalid
    · rw [he] at h
      obtain ⟨rfl, rfl⟩ := Prod.mk.inj (Option.some.inj h)
      exact .autoRefused herr htask hvalid

theorem Effect.ofSchedCloseComplete (tid : ℕ) (status : Option GdoStatus) (err : EspErr)
    (h : w.perform (.schedCloseComplete tid status err) = some (w', r)) :
    Effect w (.schedCloseComplete tid status err) w' r := by
  simp only [World.perform] at h
  cases htask : w.warningOver tid .sched with
  | none => simp [htask] at h
  | some v =>
    simp only [htask] at h
    rcases schedCloseWarningCompleteCb_cases (s := w.fw) status err with
      ⟨hvalid, he⟩ | ⟨out, hout, hvalid, he⟩
    · rw [he] at h
      obtain ⟨rfl, rfl⟩ := Prod.mk.inj (Option.some.inj h)
      exact .schedCancelled htask hvalid
    · rw [he] at h
      obtain ⟨rfl, rfl⟩ := Prod.mk.inj (Option.some.inj h)
      exact .schedSent htask hvalid hout

theorem Effect.ofWatchdogRetry (status : Option GdoStatus)
    (h : w.perform (.watchdogRetry status) = some (w', r)) :
    Effect w (.watchdogRetry status) w' r := by
  simp only [World.perform] at h
  split at h
  · rename_i now hphase
    cases status with
    | none =>
      obtain ⟨rfl, rfl⟩ := Prod.mk.inj (Option.some.inj h)
      exact .idle rfl id (by simp) (by simp)
    | some status =>
      rcases hdec : retryDecision w.fw w.budget now status with ⟨b, action⟩
      simp only [hdec] at h
      cases action with
      | wait =>
        obtain ⟨rfl, rfl⟩ := Prod.mk.inj (Option.some.inj h)
        exact .idle rfl id (by simp) (by simp)
      | send =>
        obtain ⟨rfl, rfl⟩ := Prod.mk.inj (Option.some.inj h)
        exact .idle rfl id (by simp) (by simp)
      | revert =>
        obtain ⟨rfl, rfl⟩ := Prod.mk.inj (Option.some.inj h)
        by_cases hrestart : status.door = .opened ∧ w.fw.autoCloseTriggered = true
        · simp only [retryRevert, hrestart, and_self, ite_true]
          exact .restarted hphase hdec hrestart.1 hrestart.2 (by simp [Out.IsRequest])
        · simp only [retryRevert, hrestart, ite_false]
          exact .idle rfl id (by simp [Out.IsRequest]) (by simp)
  · cases h

theorem Effect.ofWatchdogResend (recheck request : Option GdoStatus) (err : EspErr)
    (h : w.perform (.watchdogResend recheck request err) = some (w', r)) :
    Effect w (.watchdogResend recheck request err) w' r := by
  simp only [World.perform] at h
  split at h
  · rename_i now status generation elapsed hphase
    split_ifs at h
    obtain ⟨rfl, rfl⟩ := Prod.mk.inj (Option.some.inj h)
    refine .idle rfl id ?_ (by simp)
    rcases watchdogResend_cases (s := w.fw) generation status recheck request err with
      he | ⟨st, cmd, -, -, -, -, -, -, he⟩
    · simp [he]
    · simp [he, Out.IsRequest]
  · cases h

theorem Effect.ofWatchdogAutoClose (current : Option GdoStatus) (start : TaskStart)
    (h : w.perform (.watchdogAutoClose current start) = some (w', r)) :
    Effect w (.watchdogAutoClose current start) w' r := by
  simp only [World.perform] at h
  split at h
  · rename_i now hphase
    rcases watchdogAutoClose_cases (s := w.fw) now w.clock current start with
      ⟨stage, hstage, he⟩ | ⟨hdue, he⟩ | ⟨hdue, he⟩
    · rw [he] at h
      simp only [hstage, ite_false] at h
      obtain ⟨rfl, rfl⟩ := Prod.mk.inj (Option.some.inj h)
      exact .idle rfl id (by simp) (by simp)
    · rw [he] at h
      obtain ⟨rfl, rfl⟩ := Prod.mk.inj (Option.some.inj h)
      exact .autoNotStarted hdue
    · rw [he] at h
      obtain ⟨rfl, rfl⟩ := Prod.mk.inj (Option.some.inj h)
      exact .autoArmed hdue
  · cases h

theorem Effect.ofWatchdogSched (clock : Option Tm) (current : Option GdoStatus)
    (reserve : NvsWrite) (start : TaskStart) (rollback : NvsWrite)
    (h : w.perform (.watchdogSched clock current reserve start rollback) = some (w', r)) :
    Effect w (.watchdogSched clock current reserve start rollback) w' r := by
  by_cases hphase : w.phase = .sched
  swap
  · simp [World.perform, hphase] at h
  simp only [World.perform, if_pos hphase] at h
  rcases schedCloseCheck_cases (s := w.fw) (n := w.nvs) w.clock clock current reserve start
    rollback with he | ⟨day, hdue, herr, he⟩ | ⟨day, last, stored, hdue, hres, hlast, he⟩ |
      ⟨day, hdue, hres, hstart, he⟩
  · rw [he] at h
    obtain ⟨rfl, rfl⟩ := Prod.mk.inj (Option.some.inj h)
    exact .idle rfl id (by simp) (by simp)
  · rw [he] at h
    obtain ⟨rfl, rfl⟩ := Prod.mk.inj (Option.some.inj h)
    exact .schedNotReserved hdue herr
  · rw [he] at h
    obtain ⟨rfl, rfl⟩ := Prod.mk.inj (Option.some.inj h)
    exact .schedNotStarted hdue hres hlast
  · rw [he] at h
    obtain ⟨rfl, rfl⟩ := Prod.mk.inj (Option.some.inj h)
    exact .schedArmed hdue hres hstart

/-- **What a call can do.** -/
theorem World.perform_effect (h : w.perform c = some (w', r)) : Effect w c w' r := by
  cases c with
  | controlOpen err =>
    obtain ⟨rfl, rfl⟩ := Prod.mk.inj (Option.some.inj h)
    exact .opened err
  | controlClose status start => exact .ofControlClose status start h
  | event status event rolling =>
    obtain ⟨rfl, rfl⟩ := Prod.mk.inj (Option.some.inj h)
    refine .news rfl (gdoEventHandler_news status event rolling) ?_
      (gdoEventHandler_silent status event rolling)
    intro hcancel
    cases event with
    | button => exact gdoEventHandler_button w.clock rolling hcancel
    | _ => exact hcancel.elim
  | setPreCloseBuzzer enabled write =>
    obtain ⟨rfl, rfl⟩ := Prod.mk.inj (Option.some.inj h)
    exact .ofSaveSetting rfl rfl (.inl rfl) rfl fun _ => id
  | setAutoCloseTimeoutMs timeoutMs write =>
    obtain ⟨rfl, rfl⟩ := Prod.mk.inj (Option.some.inj h)
    unfold gdoSetAutoCloseTimeoutMs
    split_ifs with hrange
    · exact .setFailed rfl (by simp) (by simp [Call.Cancels]) (.kept _)
    · exact .ofSaveSetting rfl rfl (.inr (by omega)) rfl fun _ => id
  | setAutoCloseEnabled enabled write =>
    obtain ⟨rfl, rfl⟩ := Prod.mk.inj (Option.some.inj h)
    exact .ofSaveSetting rfl rfl (.inl rfl) rfl fun _ => id
  | setCloseSchedule schedule write applied restored =>
    obtain ⟨rfl, rfl⟩ := Prod.mk.inj (Option.some.inj h)
    exact .ofSetCloseSchedule schedule write applied restored
  | warningCycle tid =>
    simp only [World.perform] at h
    split_ifs at h with hmore
    obtain ⟨rfl, rfl⟩ := Prod.mk.inj (Option.some.inj h)
    refine .idle rfl id (by simp) ?_
    intro i hi
    obtain rfl := Call.warningCycle.inj hi
    exact hmore.2
  | userCloseTask tid status err again => exact .ofUserCloseTask tid status again err h
  | autoCloseComplete tid status err => exact .ofAutoCloseComplete tid status err h
  | schedCloseComplete tid status err => exact .ofSchedCloseComplete tid status err h
  | watchdogTransition status recovery =>
    simp only [World.perform] at h
    split_ifs at h
    obtain ⟨rfl, rfl⟩ := Prod.mk.inj (Option.some.inj h)
    exact .news rfl (watchdogTransition_news status recovery) (fun h => h.elim)
      (watchdogTransition_silent status recovery)
  | watchdogRetry status => exact .ofWatchdogRetry status h
  | watchdogWarningCycle =>
    simp only [World.perform] at h
    split at h
    · split_ifs at h
      obtain ⟨rfl, rfl⟩ := Prod.mk.inj (Option.some.inj h)
      exact .idle rfl id (by simp) (by simp)
    · cases h
  | watchdogResend recheck request err => exact .ofWatchdogResend recheck request err h
  | watchdogAutoClose current start => exact .ofWatchdogAutoClose current start h
  | watchdogSched clock current reserve start rollback =>
    exact .ofWatchdogSched clock current reserve start rollback h
  | watchdogReoffer =>
    simp only [World.perform] at h
    split_ifs at h
    obtain ⟨rfl, rfl⟩ := Prod.mk.inj (Option.some.inj h)
    exact .idle rfl id resendLastStatesToHomekit_silent.not_isRequest (by simp)
  | reboot reads setenvOk =>
    obtain ⟨rfl, rfl⟩ := Prod.mk.inj (Option.some.inj h)
    exact .rebooted reads setenvOk

/-- **What a step can do**: a reboot starts everything again; any other step happens now or later
and is one of the effects. -/
theorem World.step_cases {a : Action} (h : w.step a = some (w', r)) :
    (a.call.isReboot = false ∧ w.clock ≤ a.t ∧ Effect (w.tick a.t) a.call w' r) ∨
      ∃ reads setenvOk, a.call = .reboot reads setenvOk ∧ r = {} ∧
        w' = { World.boot w.nvs reads setenvOk a.t with nextTask := w.nextTask } := by
  cases hc : a.call.isReboot with
  | false =>
    unfold World.step at h
    split_ifs at h with hclock
    exact .inl ⟨rfl, hclock.resolve_right (by simp [hc]), perform_effect h⟩
  | true =>
    obtain ⟨t, c⟩ := a
    cases c with
    | reboot reads setenvOk =>
      rw [World.step_reboot] at h
      obtain ⟨rfl, rfl⟩ := Prod.mk.inj (Option.some.inj h)
      exact .inr ⟨reads, setenvOk, rfl, rfl, rfl⟩
    | _ => simp [Call.isReboot] at hc

theorem World.step_effect {a : Action} (h : w.step a = some (w', r))
    (hc : a.call.isReboot = false) : w.clock ≤ a.t ∧ Effect (w.tick a.t) a.call w' r := by
  rcases World.step_cases h with ⟨-, hclock, heff⟩ | ⟨_, _, he, -⟩
  · exact ⟨hclock, heff⟩
  · simp [he, Call.isReboot] at hc

end

end GdoBlaq
