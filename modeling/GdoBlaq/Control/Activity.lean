import GdoBlaq.Control.World
import GdoBlaq.Web.Diagnostics

/-!
# What the firmware notes

The calls of `activity_record`, under the functions that make them.  What a function notes is
read off the same arguments as what it does.  Most lines are written under the lock of the door
control; those of a button press and of a request given up are written before it is taken, and the
line of an upload by the web server.

## Main results

* `Activity` : the lines, with their texts.
* `World.activity` : what a step notes.
* `Call.canNote_of_mem` : which lines a call can note at all.
-/

namespace GdoBlaq

open Firmware

/-! ### The lines -/

/-- How a close goes on that is warned about first. -/
inductive CloseNote where
  | started
  | notStarted
  | cancelled
  | sent
  | failed
  deriving DecidableEq, Repr

/-- Why `sched_close_check` starts no warning. -/
inductive SchedSkip where
  | unsynced
  | pending
  | unavailable
  | fired
  | notOpen
  | obstructed
  | notReserved
  deriving DecidableEq, Repr

/-- How the retry stage ends. -/
inductive RetryNote where
  | resent
  | failed
  | cancelled
  | exhausted
  deriving DecidableEq, Repr

/-- The setting that was saved. -/
inductive SavedSetting where
  | buzzer
  | timeout
  | autoClose
  | schedule
  deriving DecidableEq, Repr

/-- The lines of the history. -/
inductive Activity where
  | booted
  | openSent
  | openFailed
  | closeRejected
  /-- The close could not be made after its warning. -/
  | closeDropped
  | close (kind : WarningKind) (note : CloseNote)
  | skipped (why : SchedSkip)
  | door (d : DoorState)
  | buttonPress
  | obstruction (o : ObstructionState)
  | saved (what : SavedSetting)
  | retry (note : RetryNote)
  | uploadConfirmed
  deriving DecidableEq, Repr

/-- The driver's answer, as a close notes it. -/
def CloseNote.answer (err : EspErr) : CloseNote := if err = .ok then .sent else .failed

/-- The line for a state of the door. -/
def doorMessage : DoorState → String
  | .opened => "Open"
  | .closed => "Closed"
  | .opening => "Opening"
  | .closing => "Closing"
  | _ => "Stopped or unknown"

/-- The line for a state of the obstruction sensor. -/
def obstructionMessage : ObstructionState → String
  | .clear => "Clear"
  | _ => "Detected or unknown"

/-- The line for a close.  HomeKit has other words than the automatic closes. -/
def closeMessage (kind : WarningKind) : CloseNote → String
  | .started => "Close warning started"
  | .notStarted => "Close warning failed to start"
  | .cancelled => "Close warning cancelled"
  | .sent => if kind = .user then "Close sent" else "Close sent after warning"
  | .failed => if kind = .user then "Close failed" else "Close command failed"

/-- The line for a skipped scheduled close. -/
def skipMessage : SchedSkip → String
  | .unsynced => "Skipped: clock unsynced"
  | .pending => "Skipped: close already pending"
  | .unavailable => "Skipped: opener unavailable"
  | .fired => "Skipped: already fired this window"
  | .notOpen => "Skipped: door not open before window"
  | .obstructed => "Skipped: obstruction not clear"
  | .notReserved => "Skipped: failed to persist firing day"

/-- The line for the retry stage. -/
def retryMessage : RetryNote → String
  | .resent => "Door command resent"
  | .failed => "Door retry failed"
  | .cancelled => "Door retry cancelled after state change"
  | .exhausted => "Door request exhausted or unsafe to retry"

/-- The line for a saved setting. -/
def savedMessage : SavedSetting → String
  | .buzzer => "Pre-close buzzer saved"
  | .timeout => "Auto-close timeout saved"
  | .autoClose => "Auto-close enable setting saved"
  | .schedule => "Close schedule saved"

namespace Activity

/-- The first argument of `activity_record`. -/
def source : Activity → String
  | .booted => "system"
  | .openSent | .openFailed | .closeRejected | .closeDropped | .close .user _ => "HomeKit"
  | .close .auto _ => "auto-close"
  | .close .sched _ | .skipped _ => "schedule"
  | .door _ | .buttonPress => "opener"
  | .obstruction _ => "obstruction"
  | .saved _ => "settings"
  | .retry _ => "watchdog"
  | .uploadConfirmed => "firmware"

/-- The second argument of `activity_record`. -/
def message : Activity → String
  | .booted => "Firmware booted; history starts here"
  | .openSent => "Open sent"
  | .openFailed => "Open failed"
  | .closeRejected => "Close rejected: warning pending"
  | .closeDropped => "Close cancelled or failed after warning"
  | .close kind note => closeMessage kind note
  | .skipped why => skipMessage why
  | .door d => doorMessage d
  | .buttonPress => "Button press received"
  | .obstruction o => obstructionMessage o
  | .saved what => savedMessage what
  | .retry note => retryMessage note
  | .uploadConfirmed => "Upload confirmed; restarting"

/-- Both texts. -/
def texts (a : Activity) : CStr × CStr := (lit a.source, lit a.message)

/-- The line is written under the lock of the door control. -/
def locked : Activity → Bool
  | .buttonPress | .retry .exhausted | .uploadConfirmed => false
  | _ => true

/-- The call of `activity_record`, with the times it reads. -/
def note (a : Activity) (uptimeMs wall : ℤ) : ActivityNote :=
  ⟨some (lit a.source), some (lit a.message), uptimeMs, wall⟩

end Activity

/-! ### The functions -/

/-- What `set_last_door_state` notes. -/
def setLastDoorStateActivity (s : Firmware) (newState : DoorState) : List Activity :=
  if newState ≠ s.lastDoor then [.door newState] else []

/-- What `process_door_position` notes. -/
def processDoorPositionActivity (s : Firmware) (status : GdoStatus) : List Activity :=
  if !status.synced then []
  else
    let raw := rawPosition status.doorPosition
    let inferred := inferDoor status raw
    if inferred ≠ s.lastDoor ∧ inferredConfirmedByRaw inferred raw = true then
      setLastDoorStateActivity s inferred
    else []

/-- What `GDO_CB_EVENT_SYNCED` notes. -/
def gdoEventSyncedActivity (s : Firmware) (status : GdoStatus) : List Activity :=
  if !status.synced then [] else processDoorPositionActivity s status

/-- What `GDO_CB_EVENT_OBSTRUCTION` notes. -/
def gdoEventObstructionActivity (s : Firmware) (status : GdoStatus) : List Activity :=
  if status.obstruction ≠ s.lastObstruction then [.obstruction status.obstruction] else []

/-- What `GDO_CB_EVENT_MOTOR` notes. -/
def gdoEventMotorActivity (s : Firmware) (status : GdoStatus) : List Activity :=
  if status.motor ≠ .on then []
  else if s.lastDoor = .closed then setLastDoorStateActivity s .opening
  else if s.lastDoor = .opened then setLastDoorStateActivity s .closing
  else []

/-- What `gdo_event_handler` notes. -/
def gdoEventHandlerActivity (s : Firmware) (status : GdoStatus) : GdoEvent → List Activity
  | .synced => gdoEventSyncedActivity s status
  | .doorPosition => processDoorPositionActivity s status
  | .obstruction => gdoEventObstructionActivity s status
  | .button => if status.button = .pressed then [.buttonPress] else []
  | .motor => gdoEventMotorActivity s status
  | _ => []

/-- What the transition check notes, all by `set_last_door_state`. -/
def watchdogTransitionActivity (s : Firmware) (now : ℤ) (status : Option GdoStatus) :
    List Activity :=
  if !s.tracking.doorInTransition then []
  else
    match status with
    | none => []
    | some status =>
      if transitionElapsed s now ≤ transitionTimeoutMs s now status then []
      else
        match resolvedState status with
        | some resolved => setLastDoorStateActivity s resolved
        | none => setLastDoorStateActivity s .stopped

/-- What `gdo_control_open` notes. -/
def gdoControlOpenActivity (err : EspErr) : List Activity :=
  [if err = .ok then .openSent else .openFailed]

/-- What `gdo_control_close` notes: nothing where the door is closed already or the memory for the
task is not there. -/
def gdoControlCloseActivity (s : Firmware) (status : Option GdoStatus) (start : TaskStart) :
    List Activity :=
  if s.userCloseStands then [.closeRejected]
  else if alreadyClosed s status then []
  else if !start.alloc then []
  else if !start.created then [.close .user .notStarted]
  else [.close .user .started]

/-- What `user_close_task` notes after its warning. -/
def userCloseTaskActivity (s : Firmware) (generation : ℕ) (status : Option GdoStatus)
    (err : EspErr) : List Activity :=
  let s :=
    if Stamp.read 32 s.userClosePendingGeneration = Stamp.read 32 generation then
      { s with userClosePending := false } else s
  if Stamp.read 32 generation = Stamp.read 32 s.closeGeneration then
    if clearToClose status then
      .close .user (.answer err) :: (if err ≠ .ok then [.closeDropped] else [])
    else [.closeDropped]
  else if !s.userClosePending then [.close .user .cancelled]
  else []

/-- What `auto_close_warning_complete_cb` notes. -/
def autoCloseWarningCompleteCbActivity (s : Firmware) (status : Option GdoStatus)
    (err : EspErr) : List Activity :=
  if !autoCloseValid s status then [.close .auto .cancelled] else [.close .auto (.answer err)]

/-- What `sched_close_warning_complete_cb` notes. -/
def schedCloseWarningCompleteCbActivity (s : Firmware) (status : Option GdoStatus)
    (err : EspErr) : List Activity :=
  if !schedCloseValid s status then [.close .sched .cancelled] else [.close .sched (.answer err)]

/-- What the start of a warning for an automatic close notes: the line comes before the answer. -/
def startActivity (kind : WarningKind) (start : TaskStart) : List Activity :=
  .close kind .started ::
    (if preCloseWarningRunAsync start ≠ .ok then [.close kind .notStarted] else [])

/-- What the auto-close stage of `gdo_watchdog_task` notes. -/
def watchdogAutoCloseActivity (s : Firmware) (now fresh : ℤ) (current : Option GdoStatus)
    (start : TaskStart) : List Activity :=
  if !autoCloseDue s now then []
  else if !autoCloseStillDue s fresh current then []
  else startActivity .auto start

/-- What `sched_close_check` notes.  Outside the window it notes nothing. -/
def schedCloseCheckActivity (s : Firmware) (n : Nvs) (now : ℤ) (clock : Option Tm)
    (current : Option GdoStatus) (reserve : NvsWrite) (start : TaskStart) : List Activity :=
  if !s.closeSchedule.enabled then []
  else
    match clockSyncLocalNow clock with
    | none => [.skipped .unsynced]
    | some (nowMin, today) =>
      if s.schedClosePending || s.autoCloseTriggered || s.userClosePending then
        [.skipped .pending]
      else
        match current with
        | none => [.skipped .unavailable]
        | some current =>
          let windowDay := closeScheduleWindowDay nowMin today s.closeSchedule.minute
          if !current.synced then [.skipped .unavailable]
          else if !closeScheduleShouldFire true (openForMs s now current) nowMin today
              s.closeSchedule.minute s.closeScheduleLastDay then
            if ((nowMin : ℤ) + 1440 - s.closeSchedule.minute).tmod 1440 <
                closeScheduleWindowMin then
              if s.closeScheduleLastDay = windowDay then [.skipped .fired] else [.skipped .notOpen]
            else []
          else if current.obstruction ≠ .clear ∨ s.lastObstruction ≠ .clear then
            [.skipped .obstructed]
          else if (closeScheduleLastDaySave s n windowDay reserve).2.2 ≠ .ok then
            [.skipped .notReserved]
          else startActivity .sched start

/-- What the retry stage notes of a decision. -/
def retryActivity : RetryAction → List Activity
  | .revert => [.retry .exhausted]
  | _ => []

/-- What the end of the `RETRY_SEND` branch notes. -/
def watchdogResendActivity (s : Firmware) (generation : ℕ) (status : GdoStatus)
    (recheck request : Option GdoStatus) (err : EspErr) : List Activity :=
  if retryStands s generation status recheck then
    [.retry (if (retryDoorRequest s s.doorCommandId request err).1 = .ok then .resent
      else .failed)]
  else [.retry .cancelled]

/-- What a setter notes that answered `err`. -/
def savedActivity (what : SavedSetting) (err : EspErr) : List Activity :=
  if err = .ok then [.saved what] else []

/-- What a call notes at the time `w.clock`.  A reboot starts a new history. -/
def World.activity (w : World) : Call → List Activity
  | .controlOpen err => gdoControlOpenActivity err
  | .controlClose status start => gdoControlCloseActivity w.fw status start
  | .event status event _ => gdoEventHandlerActivity w.fw status event
  | .setPreCloseBuzzer enabled write =>
    savedActivity .buzzer (gdoSetPreCloseBuzzer w.fw w.nvs enabled write).2.2
  | .setAutoCloseTimeoutMs timeoutMs write =>
    savedActivity .timeout (gdoSetAutoCloseTimeoutMs w.fw w.nvs timeoutMs write).2.2
  | .setAutoCloseEnabled enabled write =>
    savedActivity .autoClose (gdoSetAutoCloseEnabled w.fw w.nvs enabled write).2.2
  | .setCloseSchedule schedule write applied restored =>
    savedActivity .schedule (gdoSetCloseSchedule w.fw w.nvs schedule write applied restored).2.2
  | .userCloseTask tid status err _ =>
    match w.warningOver tid .user with
    | some v => userCloseTaskActivity w.fw v.generation status err
    | none => []
  | .autoCloseComplete _ status err => autoCloseWarningCompleteCbActivity w.fw status err
  | .schedCloseComplete _ status err => schedCloseWarningCompleteCbActivity w.fw status err
  | .watchdogTransition status _ => watchdogTransitionActivity w.fw w.clock status
  | .watchdogRetry (some status) =>
    match w.phase with
    | .retry now => retryActivity (retryDecision w.fw w.budget now status).2
    | _ => []
  | .watchdogResend recheck request err =>
    match w.phase with
    | .resend _ status generation _ =>
      watchdogResendActivity w.fw generation status recheck request err
    | _ => []
  | .watchdogAutoClose current start =>
    match w.phase with
    | .autoClose now => watchdogAutoCloseActivity w.fw now w.clock current start
    | _ => []
  | .watchdogSched clock current reserve start _ =>
    schedCloseCheckActivity w.fw w.nvs w.clock clock current reserve start
  | .reboot _ _ => [.booted]
  | _ => []

/-- What a step notes. -/
def stepActivity (e : Step) : List Activity :=
  (e.src.tick e.label.1.t).activity e.label.1.call

/-! ### Which lines a call can note -/

/-- The lines about the door, the obstruction sensor and the buttons. -/
def Activity.IsNews : Activity → Prop
  | .door _ | .obstruction _ | .buttonPress => True
  | _ => False

/-- The lines that a call can note. -/
def Call.CanNote : Call → Activity → Prop
  | .controlOpen _, a => a = .openSent ∨ a = .openFailed
  | .controlClose _ _, a =>
    a = .closeRejected ∨ a = .close .user .started ∨ a = .close .user .notStarted
  | .event _ _ _, a | .watchdogTransition _ _, a => a.IsNews
  | .setPreCloseBuzzer _ _, a | .setAutoCloseTimeoutMs _ _, a | .setAutoCloseEnabled _ _, a
  | .setCloseSchedule _ _ _ _, a => ∃ what, a = .saved what
  | .userCloseTask _ _ _ _, a => a = .closeDropped ∨ ∃ note, a = .close .user note
  | .autoCloseComplete _ _ _, a => ∃ note, a = .close .auto note
  | .schedCloseComplete _ _ _, a => ∃ note, a = .close .sched note
  | .watchdogRetry _, a | .watchdogResend _ _ _, a => ∃ note, a = .retry note
  | .watchdogAutoClose _ _, a => a = .close .auto .started ∨ a = .close .auto .notStarted
  | .watchdogSched _ _ _ _ _, a =>
    a = .close .sched .started ∨ a = .close .sched .notStarted ∨ ∃ why, a = .skipped why
  | .reboot _ _, a => a = .booted
  | .warningCycle _, _ | .watchdogWarningCycle, _ | .watchdogReoffer, _ => False

section CanNote

variable {s : Firmware} {w : World} {c : Call} {a : Activity} {status : GdoStatus}

theorem isNews_of_setLastDoorState {d : DoorState} (h : a ∈ setLastDoorStateActivity s d) :
    a.IsNews := by
  unfold setLastDoorStateActivity at h
  split_ifs at h
  · obtain rfl := List.mem_singleton.1 h
    trivial
  · cases h

theorem isNews_of_processDoorPosition (h : a ∈ processDoorPositionActivity s status) :
    a.IsNews := by
  simp only [processDoorPositionActivity] at h
  split_ifs at h
  · cases h
  · exact isNews_of_setLastDoorState h
  · cases h

theorem isNews_of_gdoEventHandler {event : GdoEvent}
    (h : a ∈ gdoEventHandlerActivity s status event) : a.IsNews := by
  cases event with
  | synced =>
    simp only [gdoEventHandlerActivity, gdoEventSyncedActivity] at h
    split_ifs at h
    · cases h
    · exact isNews_of_processDoorPosition h
  | doorPosition => exact isNews_of_processDoorPosition h
  | obstruction =>
    simp only [gdoEventHandlerActivity, gdoEventObstructionActivity] at h
    split_ifs at h
    · obtain rfl := List.mem_singleton.1 h
      trivial
    · cases h
  | button =>
    simp only [gdoEventHandlerActivity] at h
    split_ifs at h
    · obtain rfl := List.mem_singleton.1 h
      trivial
    · cases h
  | motor =>
    simp only [gdoEventHandlerActivity, gdoEventMotorActivity] at h
    split_ifs at h
    · cases h
    · exact isNews_of_setLastDoorState h
    · exact isNews_of_setLastDoorState h
    · cases h
  | _ => cases h

theorem isNews_of_watchdogTransition {now : ℤ} {status : Option GdoStatus}
    (h : a ∈ watchdogTransitionActivity s now status) : a.IsNews := by
  simp only [watchdogTransitionActivity] at h
  split_ifs at h
  · cases h
  · split at h
    · cases h
    · split_ifs at h
      · cases h
      · split at h <;> exact isNews_of_setLastDoorState h

theorem mem_startActivity {kind : WarningKind} {start : TaskStart}
    (h : a ∈ startActivity kind start) :
    a = .close kind .started ∨ a = .close kind .notStarted := by
  unfold startActivity at h
  split_ifs at h
  · simpa using h
  · exact .inl (by simpa using h)

/-- The lines of a scheduled close say why it is skipped, or that its warning starts or fails to
start. -/
theorem mem_schedCloseCheck {n : Nvs} {now : ℤ} {clock : Option Tm} {current : Option GdoStatus}
    {reserve : NvsWrite} {start : TaskStart}
    (h : a ∈ schedCloseCheckActivity s n now clock current reserve start) :
    a = .close .sched .started ∨ a = .close .sched .notStarted ∨ ∃ why, a = .skipped why := by
  have hskip : ∀ {why}, a ∈ [Activity.skipped why] →
      a = .close .sched .started ∨ a = .close .sched .notStarted ∨ ∃ why, a = .skipped why :=
    fun ha => .inr (.inr ⟨_, List.mem_singleton.1 ha⟩)
  unfold schedCloseCheckActivity at h
  split at h
  · cases h
  split at h
  · exact hskip h
  split at h
  · exact hskip h
  split at h
  · exact hskip h
  simp only at h
  split_ifs at h
  · exact hskip h
  · exact hskip h
  · exact hskip h
  · cases h
  · exact hskip h
  · exact hskip h
  · exact (mem_startActivity h).imp_right .inl

theorem mem_userCloseTask {generation : ℕ} {status : Option GdoStatus} {err : EspErr}
    (h : a ∈ userCloseTaskActivity s generation status err) :
    a = .closeDropped ∨ ∃ note, a = .close .user note := by
  have hsent : ∀ {l}, a ∈ Activity.close .user (.answer err) :: l →
      (a ∈ l → a = .closeDropped) → a = .closeDropped ∨ ∃ note, a = .close .user note :=
    fun ha hl => (List.mem_cons.1 ha).elim (fun he => .inr ⟨_, he⟩) fun he => .inl (hl he)
  simp only [userCloseTaskActivity] at h
  split_ifs at h
  all_goals first
    | exact hsent h (by simp)
    | exact .inl (List.mem_singleton.1 h)
    | exact .inr ⟨_, List.mem_singleton.1 h⟩
    | cases h

/-- **What a call can note.** -/
theorem Call.canNote_of_mem (h : a ∈ w.activity c) : c.CanNote a := by
  cases c with
  | controlOpen err =>
    simp only [World.activity, gdoControlOpenActivity, List.mem_singleton] at h
    subst h
    by_cases herr : err = .ok
    · exact .inl (if_pos herr)
    · exact .inr (if_neg herr)
  | controlClose status start =>
    simp only [World.activity, gdoControlCloseActivity] at h
    split_ifs at h <;> simp_all [Call.CanNote]
  | event status event rolling => exact isNews_of_gdoEventHandler h
  | watchdogTransition status recovery => exact isNews_of_watchdogTransition h
  | setPreCloseBuzzer | setAutoCloseTimeoutMs | setAutoCloseEnabled | setCloseSchedule =>
    simp only [World.activity, savedActivity] at h
    split_ifs at h
    · exact ⟨_, List.mem_singleton.1 h⟩
    · cases h
  | userCloseTask tid status err again =>
    simp only [World.activity] at h
    split at h
    · exact mem_userCloseTask h
    · cases h
  | autoCloseComplete tid status err =>
    simp only [World.activity, autoCloseWarningCompleteCbActivity] at h
    split_ifs at h <;> exact ⟨_, List.mem_singleton.1 h⟩
  | schedCloseComplete tid status err =>
    simp only [World.activity, schedCloseWarningCompleteCbActivity] at h
    split_ifs at h <;> exact ⟨_, List.mem_singleton.1 h⟩
  | watchdogRetry status =>
    cases status with
    | none => cases h
    | some status =>
      simp only [World.activity] at h
      split at h
      · unfold retryActivity at h
        split at h
        · exact ⟨_, List.mem_singleton.1 h⟩
        · cases h
      · cases h
  | watchdogResend recheck request err =>
    simp only [World.activity] at h
    split at h
    · unfold watchdogResendActivity at h
      split_ifs at h <;> exact ⟨_, List.mem_singleton.1 h⟩
    · cases h
  | watchdogAutoClose current start =>
    simp only [World.activity] at h
    split at h
    · unfold watchdogAutoCloseActivity at h
      split_ifs at h
      · cases h
      · cases h
      · exact mem_startActivity h
    · cases h
  | watchdogSched clock current reserve start rollback => exact mem_schedCloseCheck h
  | reboot reads setenvOk => exact List.mem_singleton.1 h
  | warningCycle | watchdogWarningCycle | watchdogReoffer => cases h

end CanNote

end GdoBlaq
