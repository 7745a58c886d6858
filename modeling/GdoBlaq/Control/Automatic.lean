import GdoBlaq.Control.Requests
import GdoBlaq.Control.Settings

/-!
# The two automatic closes

`gdo_get_auto_close_remaining_ms`, the auto-close stage of `gdo_watchdog_task`,
`sched_close_check`, and the callbacks that run when one of their warnings is over.

## Main results

* `autoCloseWarningCompleteCb_cases`, `schedCloseWarningCompleteCb_cases` : a callback sends only
  after a full revalidation.
* `watchdogAutoClose_cases`, `schedCloseCheck_cases` : the ends of the two stages, with what each
  leaves behind.
-/

namespace GdoBlaq

open Firmware

/-! ### Auto-close -/

/-- `gdo_get_auto_close_remaining_ms` -/
def gdoGetAutoCloseRemainingMs (s : Firmware) (now : ℤ) : ℤ :=
  if !s.autoCloseEnabled ∨ s.doorOpenSinceMs = 0 ∨ s.autoCloseTriggered then -1
  else
    let remaining := s.autoCloseTimeoutMs - (now - s.doorOpenSinceMs)
    if 0 < remaining then remaining else 0

/-- The driver reports a door that an automatic close may move. -/
def openAndClear (status : Option GdoStatus) : Bool :=
  match status with
  | some status => status.synced ∧ status.door = .opened ∧ status.obstruction = .clear
  | none => false

/-- The test that the auto-close stage makes before it takes the lock, with the loop's `now`. -/
def autoCloseDue (s : Firmware) (now : ℤ) : Bool :=
  s.autoCloseEnabled ∧ s.doorOpenSinceMs ≠ 0 ∧ !s.autoCloseTriggered ∧ !s.schedClosePending ∧
    (s.autoCloseTimeoutMs : ℤ) < now - s.doorOpenSinceMs ∧ s.lastObstruction = .clear

/-- The test under the lock, with the time read again. -/
def autoCloseStillDue (s : Firmware) (now : ℤ) (current : Option GdoStatus) : Bool :=
  openAndClear current ∧ s.autoCloseEnabled ∧ !s.autoCloseTriggered ∧ !s.schedClosePending ∧
    gdoGetAutoCloseRemainingMs s now = 0

/-- Whether an auto-close stage goes on to the rest of the loop. -/
inductive Stage where
  /-- `continue` -/
  | skip
  /-- The stage ended and no warning runs. -/
  | idle
  /-- A warning was started. -/
  | armed
  deriving DecidableEq, Repr

/-- The auto-close stage of `gdo_watchdog_task`: `now` is the loop's, `fresh` the time that the
test under the lock and a failed start read. -/
def watchdogAutoClose (s : Firmware) (now fresh : ℤ) (current : Option GdoStatus)
    (start : TaskStart) : Firmware × Stage :=
  if !autoCloseDue s now then (s, .idle)
  -- the scheduled close and the re-offer are skipped too
  else if !autoCloseStillDue s fresh current then (s, .skip)
  else
    let s := { s with
      autoCloseGeneration := s.closeGeneration
      autoCloseCommandId := s.doorCommandId
      autoCloseTriggered := true }
    if preCloseWarningRunAsync start ≠ .ok then
      ({ s with autoCloseTriggered := false, doorOpenSinceMs := fresh }, .idle)
    else (s, .armed)

/-- `valid` of `auto_close_warning_complete_cb`. -/
def autoCloseValid (s : Firmware) (status : Option GdoStatus) : Bool :=
  openAndClear status ∧ s.lastObstruction = .clear ∧ s.autoCloseEnabled ∧
    Stamp.read 32 s.autoCloseGeneration = Stamp.read 32 s.closeGeneration ∧
    Stamp.read 32 s.autoCloseCommandId = Stamp.read 32 s.doorCommandId

/-- `auto_close_warning_complete_cb` -/
def autoCloseWarningCompleteCb (s : Firmware) (now : ℤ) (status : Option GdoStatus)
    (err : EspErr) : Firmware × List Out :=
  if !autoCloseValid s status then
    let s := { s with autoCloseTriggered := false }
    -- a full fresh timeout after a cancellation
    (if s.lastDoor = .opened then { s with doorOpenSinceMs := now } else s, [])
  else
    let (s, err, out) := sendDoorRequest s .autoClose .doorClose err
    if err = .ok then (s, out ++ [.notify (.targetDoor .closed)])
    else ({ s with autoCloseTriggered := false, doorOpenSinceMs := now }, out)

/-! ### Scheduled close -/

/-- The fields of `struct tm` that the clock reads. -/
structure Tm where
  /-- Years since 1900. -/
  year : ℤ
  /-- Months since January. -/
  mon : ℤ
  mday : ℤ
  hour : ℕ
  min : ℕ
  deriving DecidableEq, Repr

/-- `clock_sync_local_now`: minute of the day and day number, `none` before the clock is set. -/
def clockSyncLocalNow (clock : Option Tm) : Option (ℕ × ℤ) :=
  clock.map fun tm =>
    (tm.hour * 60 + tm.min, closeScheduleDaysFromCivil (tm.year + 1900) (tm.mon + 1) tm.mday)

/-- `valid` of `sched_close_warning_complete_cb`. -/
def schedCloseValid (s : Firmware) (status : Option GdoStatus) : Bool :=
  openAndClear status ∧ s.lastObstruction = .clear ∧ s.closeSchedule.enabled ∧
    Stamp.read 32 s.schedCloseGeneration = Stamp.read 32 s.closeGeneration ∧
    Stamp.read 32 s.schedCloseCommandId = Stamp.read 32 s.doorCommandId

/-- `sched_close_warning_complete_cb` -/
def schedCloseWarningCompleteCb (s : Firmware) (status : Option GdoStatus) (err : EspErr) :
    Firmware × List Out :=
  let valid := schedCloseValid s status
  let s := { s with schedClosePending := false }
  if !valid then (s, [])
  else
    let (s, err, out) := sendDoorRequest s .schedClose .doorClose err
    (s, if err = .ok then out ++ [.notify (.targetDoor .closed)] else out)

/-- `open_for_ms` of `sched_close_check`. -/
def openForMs (s : Firmware) (now : ℤ) (current : GdoStatus) : ℤ :=
  if current.door = .opened ∧ s.lastDoor = .opened ∧ s.doorContinuouslyOpenSinceMs ≠ 0 then
    now - s.doorContinuouslyOpenSinceMs
  else 0

/-- The window day that a tick of `sched_close_check` would reserve, if every test before the
reservation passes. -/
def schedCloseDue (s : Firmware) (now : ℤ) (clock : Option Tm) (current : Option GdoStatus) :
    Option ℤ :=
  if !s.closeSchedule.enabled then none
  else
    match clockSyncLocalNow clock with
    | none => none
    | some (nowMin, today) =>
      if s.schedClosePending || s.autoCloseTriggered || s.userClosePending then none
      else
        match current with
        | none => none
        | some current =>
          if !current.synced then none
          else if !closeScheduleShouldFire true (openForMs s now current) nowMin today
              s.closeSchedule.minute s.closeScheduleLastDay then none
          -- the day is not recorded, so that a later tick of the window can still fire
          else if current.obstruction ≠ .clear ∨ s.lastObstruction ≠ .clear then none
          else some (closeScheduleWindowDay nowMin today s.closeSchedule.minute)

/-- `sched_close_check`: `reserve` and `rollback` are the answers of the storage to the two
writes of the day.  The last component says whether a warning was started. -/
def schedCloseCheck (s : Firmware) (n : Nvs) (now : ℤ) (clock : Option Tm)
    (current : Option GdoStatus) (reserve : NvsWrite) (start : TaskStart) (rollback : NvsWrite) :
    Firmware × Nvs × Bool :=
  match schedCloseDue s now clock current with
  | none => (s, n, false)
  | some windowDay =>
    let previousDay := s.closeScheduleLastDay
    let (s, n, err) := closeScheduleLastDaySave s n windowDay reserve
    if err ≠ .ok then (s, n, false)
    else
      let s := { s with
        schedCloseGeneration := s.closeGeneration
        schedCloseCommandId := s.doorCommandId
        schedClosePending := true }
      if preCloseWarningRunAsync start ≠ .ok then
        -- retried by a later tick only if the storage takes the old day back
        let (s, n, _) :=
          closeScheduleLastDaySave { s with schedClosePending := false } n previousDay
          rollback
        (s, n, false)
      else (s, n, true)

/-! ### What they do -/

section

variable {s : Firmware} {n : Nvs} {now fresh : ℤ}

/-- The auto-close stage: nothing moved; or the warning could not start and the countdown starts
over; or a warning runs, everything having been checked under the lock. -/
theorem watchdogAutoClose_cases (now fresh : ℤ) (current : Option GdoStatus) (start : TaskStart) :
    (∃ stage, stage ≠ .armed ∧ watchdogAutoClose s now fresh current start = (s, stage)) ∨
    (autoCloseStillDue s fresh current = true ∧
      watchdogAutoClose s now fresh current start =
        ({ s with
            autoCloseGeneration := s.closeGeneration, autoCloseCommandId := s.doorCommandId
            autoCloseTriggered := false, doorOpenSinceMs := fresh }, .idle)) ∨
    (autoCloseStillDue s fresh current = true ∧
      watchdogAutoClose s now fresh current start =
        ({ s with
            autoCloseGeneration := s.closeGeneration, autoCloseCommandId := s.doorCommandId
            autoCloseTriggered := true }, .armed)) := by
  unfold watchdogAutoClose
  by_cases hdue : autoCloseDue s now = true
  · by_cases hstill : autoCloseStillDue s fresh current = true
    · by_cases hstart : preCloseWarningRunAsync start = .ok
      · exact .inr (.inr ⟨hstill, by simp [hdue, hstill, hstart]⟩)
      · exact .inr (.inl ⟨hstill, by simp [hdue, hstill, hstart]⟩)
    · exact .inl ⟨.skip, by simp, by simp [hdue, hstill]⟩
  · exact .inl ⟨.idle, by simp, by simp [hdue]⟩

theorem autoCloseStillDue_iff {current : Option GdoStatus} :
    autoCloseStillDue s fresh current = true ↔
      openAndClear current = true ∧ s.autoCloseEnabled = true ∧ s.autoCloseTriggered = false ∧
        s.schedClosePending = false ∧ s.doorOpenSinceMs ≠ 0 ∧
        (s.autoCloseTimeoutMs : ℤ) ≤ fresh - s.doorOpenSinceMs := by
  simp only [autoCloseStillDue, gdoGetAutoCloseRemainingMs, decide_eq_true_eq, Bool.not_eq_true']
  constructor
  · rintro ⟨hcur, hen, htrig, hpend, hrem⟩
    split_ifs at hrem with hoff hpos
    · omega
    · simp only [hen, htrig, Bool.true_eq_false, Bool.false_eq_true, or_false, false_or] at hoff
      exact ⟨hcur, hen, htrig, hpend, hoff, by omega⟩
  · rintro ⟨hcur, hen, htrig, hpend, hsince, hle⟩
    refine ⟨hcur, hen, htrig, hpend, ?_⟩
    simp [hen, htrig, hsince]
    omega

/-- The callback of an auto-close warning: cancelled, with the countdown started over if the door
is open; sent; or refused by the driver, with the countdown started over. -/
theorem autoCloseWarningCompleteCb_cases (now : ℤ) (status : Option GdoStatus) (err : EspErr) :
    (autoCloseValid s status = false ∧ autoCloseWarningCompleteCb s now status err =
      ({ s with
          autoCloseTriggered := false
          doorOpenSinceMs := if s.lastDoor = .opened then now else s.doorOpenSinceMs }, [])) ∨
    (autoCloseValid s status = true ∧ autoCloseWarningCompleteCb s now status .ok =
      ({ s with doorCommandId := s.doorCommandId + 1 },
        [.request .autoClose .doorClose (s.doorCommandId + 1) .ok, .notify (.targetDoor .closed)]) ∧
      err = .ok) ∨
    (autoCloseValid s status = true ∧ err ≠ .ok ∧ autoCloseWarningCompleteCb s now status err =
      ({ s with
          doorCommandId := s.doorCommandId + 1, autoCloseTriggered := false
          doorOpenSinceMs := now },
        [.request .autoClose .doorClose (s.doorCommandId + 1) err])) := by
  unfold autoCloseWarningCompleteCb
  by_cases hvalid : autoCloseValid s status = true
  · by_cases herr : err = .ok
    · exact .inr (.inl ⟨hvalid, by simp [hvalid, sendDoorRequest], herr⟩)
    · exact .inr (.inr ⟨hvalid, herr, by simp [hvalid, sendDoorRequest, herr]⟩)
  · refine .inl ⟨by simpa using hvalid, ?_⟩
    by_cases hdoor : s.lastDoor = .opened <;> simp [hvalid, hdoor]

/-- The callback of a scheduled close: cancelled or sent. -/
theorem schedCloseWarningCompleteCb_cases (status : Option GdoStatus) (err : EspErr) :
    (schedCloseValid s status = false ∧ schedCloseWarningCompleteCb s status err =
      ({ s with schedClosePending := false }, [])) ∨
    (∃ out, Silent out ∧ schedCloseValid s status = true ∧
      schedCloseWarningCompleteCb s status err =
        ({ s with schedClosePending := false, doorCommandId := s.doorCommandId + 1 },
          .request .schedClose .doorClose (s.doorCommandId + 1) err :: out)) := by
  unfold schedCloseWarningCompleteCb
  by_cases hvalid : schedCloseValid s status = true
  · refine .inr ⟨if err = .ok then [.notify (.targetDoor .closed)] else [], ?_, hvalid, ?_⟩
    · split_ifs
      · exact Silent.nil.notify _
      · exact .nil
    · by_cases herr : err = .ok <;> simp [hvalid, sendDoorRequest, herr]
  · exact .inl ⟨by simpa using hvalid, by simp [hvalid]⟩

/-- What a tick that reserves a day was told. -/
theorem schedCloseDue_eq_some {clock : Option Tm} {current : Option GdoStatus} {day : ℤ}
    (h : schedCloseDue s now clock current = some day) :
    ∃ nowMin today st, clockSyncLocalNow clock = some (nowMin, today) ∧ current = some st ∧
      openAndClear current = true ∧ s.closeSchedule.enabled = true ∧ s.schedClosePending = false ∧
      s.autoCloseTriggered = false ∧ s.userClosePending = false ∧ s.lastObstruction = .clear ∧
      s.lastDoor = .opened ∧ s.doorContinuouslyOpenSinceMs ≠ 0 ∧
      closeScheduleShouldFire true (now - s.doorContinuouslyOpenSinceMs) nowMin today
        s.closeSchedule.minute s.closeScheduleLastDay = true ∧
      day = closeScheduleWindowDay nowMin today s.closeSchedule.minute := by
  cases hclock : clockSyncLocalNow clock with
  | none => simp [schedCloseDue, hclock] at h
  | some local_ =>
    obtain ⟨nowMin, today⟩ := local_
    cases current with
    | none => simp [schedCloseDue, hclock] at h
    | some st =>
      simp only [schedCloseDue, hclock] at h
      split_ifs at h with hen hpend hsync hfire hobst
      simp only [Bool.not_eq_true', Bool.not_eq_false] at hen hsync hfire
      simp only [not_or, not_not] at hobst
      simp only [Bool.or_eq_true, not_or, Bool.not_eq_true] at hpend
      obtain ⟨⟨hsched, hauto⟩, huser⟩ := hpend
      have hopen : st.door = .opened ∧ s.lastDoor = .opened ∧
          s.doorContinuouslyOpenSinceMs ≠ 0 := by
        by_contra hno
        have hpos := (closeScheduleShouldFire_iff.1 hfire).2.2.2.2.1
        simp only [openForMs, hno, ite_false] at hpos
        omega
      refine ⟨nowMin, today, st, rfl, rfl, ?_, hen, hsched, hauto, huser, hobst.2, hopen.2.1,
        hopen.2.2, ?_, (Option.some.inj h).symm⟩
      · simp [openAndClear, hsync, hopen.1, hobst.1]
      · rw [openForMs, if_pos hopen] at hfire
        exact hfire

/-- The ends of `sched_close_check`: nothing to do; the day could not be reserved; the warning
could not start, and the day was given back or not; or a warning runs for a reserved day. -/
theorem schedCloseCheck_cases (now : ℤ) (clock : Option Tm) (current : Option GdoStatus)
    (reserve : NvsWrite) (start : TaskStart) (rollback : NvsWrite) :
    schedCloseCheck s n now clock current reserve start rollback = (s, n, false) ∨
    (∃ day, schedCloseDue s now clock current = some day ∧ reserve.err ≠ .ok ∧
      schedCloseCheck s n now clock current reserve start rollback =
        (s, { n with schedBlob := some (.of s.closeSchedule day) }, false)) ∨
    (∃ day last stored, schedCloseDue s now clock current = some day ∧ reserve.err = .ok ∧
      (last = s.closeScheduleLastDay ∧ stored = last ∨
        last = day ∧ rollback.err ≠ .ok ∧ (stored = day ∨ stored = s.closeScheduleLastDay)) ∧
      schedCloseCheck s n now clock current reserve start rollback =
        ({ s with
            closeScheduleLastDay := last, schedCloseGeneration := s.closeGeneration
            schedCloseCommandId := s.doorCommandId, schedClosePending := false },
          { n with schedBlob := some (.of s.closeSchedule stored) }, false)) ∨
    (∃ day, schedCloseDue s now clock current = some day ∧ reserve.err = .ok ∧
      preCloseWarningRunAsync start = .ok ∧
      schedCloseCheck s n now clock current reserve start rollback =
        ({ s with
            closeScheduleLastDay := day, schedCloseGeneration := s.closeGeneration
            schedCloseCommandId := s.doorCommandId, schedClosePending := true },
          { n with schedBlob := some (.of s.closeSchedule day) }, true)) := by
  unfold schedCloseCheck
  cases hdue : schedCloseDue s now clock current with
  | none => exact .inl rfl
  | some day =>
    simp only
    rcases closeScheduleLastDaySave_cases (s := s) (n := n) (w := reserve) day with
      ⟨n', herr, hn', he⟩ | ⟨herr, he⟩
    · rw [he]
      rcases hn' with rfl | rfl
      · exact .inl (by simp [herr])
      · exact .inr (.inl ⟨day, rfl, herr, by simp [herr]⟩)
    · rw [he]
      by_cases hstart : preCloseWarningRunAsync start = .ok
      · exact .inr (.inr (.inr ⟨day, rfl, herr, hstart, by simp [hstart]⟩))
      · refine .inr (.inr (.inl ?_))
        rcases closeScheduleLastDaySave_cases
          (s := { s with
            closeScheduleLastDay := day, schedCloseGeneration := s.closeGeneration
            schedCloseCommandId := s.doorCommandId, schedClosePending := false })
          (n := { n with schedBlob := some (.of s.closeSchedule day) }) (w := rollback)
          s.closeScheduleLastDay with ⟨n', hback, hn', he'⟩ | ⟨hback, he'⟩
        · rcases hn' with rfl | rfl
          · exact ⟨day, day, day, rfl, herr, .inr ⟨rfl, hback, .inl rfl⟩, by simp [hstart, he']⟩
          · exact ⟨day, day, s.closeScheduleLastDay, rfl, herr, .inr ⟨rfl, hback, .inr rfl⟩,
              by simp [hstart, he']⟩
        · exact ⟨day, s.closeScheduleLastDay, s.closeScheduleLastDay, rfl, herr, .inl ⟨rfl, rfl⟩,
            by simp [hstart, he']⟩

theorem schedCloseCheck_armed {clock : Option Tm} {current : Option GdoStatus} {day : ℤ}
    {reserve rollback : NvsWrite} {start : TaskStart}
    (hdue : schedCloseDue s now clock current = some day) (hreserve : reserve.err = .ok)
    (hstart : preCloseWarningRunAsync start = .ok) :
    schedCloseCheck s n now clock current reserve start rollback =
      ({ s with
          closeScheduleLastDay := day, schedCloseGeneration := s.closeGeneration
          schedCloseCommandId := s.doorCommandId, schedClosePending := true },
        { n with schedBlob := some (.of s.closeSchedule day) }, true) := by
  simp [schedCloseCheck, hdue, closeScheduleLastDaySave, closeScheduleSave, hreserve,
    reserve.stores_of_err hreserve, hstart]

end

end GdoBlaq
