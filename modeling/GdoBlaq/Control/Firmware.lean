import GdoBlaq.CloseSchedule
import GdoBlaq.Driver
import GdoBlaq.Lts.Stamp

/-!
# The state of the door control

The file-scope variables of `gdo-blaq-homekit.cpp`, of the clock and of the pre-close warning,
under their own names without the `s_` prefix, and the settings namespace of the flash storage.

`s_close_generation` and `s_door_command_id` are `uint32_t` counters that only ever move by `++`.
They are kept as the number of increments since boot; whatever the code compares is read through
32 bits (`Stamp.read 32`), and the copies of them (in the warning slots, in a task's argument, in
the retry budget) are kept the same way.  Times are milliseconds of the monotonic clock
(`now_ms()`).

Left out: the semaphores that other code waits on, the activity history and the log, and the
count of receive errors, none of which the door control reads back.
-/

namespace GdoBlaq

/-- `GDO_AUTO_CLOSE_TIMEOUT_DEFAULT_MS` -/
def autoCloseTimeoutDefaultMs : ℕ := 60 * 60 * 1000

/-- The last reports of the sensors that only HomeKit shows. -/
structure Seen where
  lastLight : LightState := .max
  lastLock : LockState := .max
  lastMotion : MotionState := .max
  lastLearn : LearnState := .max
  deriving DecidableEq, Repr

/-- The state of the link to the opener. -/
structure Link where
  syncRetryCount : ℕ := 0
  syncFirstFailureMs : ℤ := 0
  gdoPairingFault : Bool := false
  gdoProtocolIdentified : Bool := false
  deriving DecidableEq, Repr

/-- The transition that the watchdog is following, if any. -/
structure Tracking where
  doorInTransition : Bool := false
  transitionStartMs : ℤ := 0
  transitionTarget : DoorState := .max
  transitionStartRaw : ℕ := 0
  deriving DecidableEq, Repr

/-- The file-scope variables. -/
structure Firmware where
  lastDoor : DoorState := .max
  lastObstruction : ObstructionState := .max
  seen : Seen := {}
  link : Link := {}
  tracking : Tracking := {}
  /-- 0 whenever the door is not confirmed open; auto-close restarts it. -/
  doorOpenSinceMs : ℤ := 0
  /-- When the door last arrived at OPEN, 0 if it is not open. -/
  doorContinuouslyOpenSinceMs : ℤ := 0
  autoCloseTriggered : Bool := false
  autoCloseTimeoutMs : ℕ := autoCloseTimeoutDefaultMs
  autoCloseEnabled : Bool := false
  autoCloseGeneration : ℕ := 0
  autoCloseCommandId : ℕ := 0
  closeSchedule : CloseSchedule :=
    ⟨false, closeScheduleDefaultMin, charArray 64 closeScheduleDefaultTz⟩
  closeScheduleLastDay : ℤ := 0
  schedCloseGeneration : ℕ := 0
  schedCloseCommandId : ℕ := 0
  schedClosePending : Bool := false
  closeGeneration : ℕ := 0
  userClosePending : Bool := false
  userClosePendingGeneration : ℕ := 0
  doorCommandId : ℕ := 0
  /-- `s_buzzer_enabled` of the pre-close warning. -/
  buzzerEnabled : Bool := true
  /-- The `TZ` of the process that `clock_sync_apply_timezone` last set. -/
  timezone : CStr := []
  deriving DecidableEq

namespace Firmware

/-- `++s_close_generation` -/
def bump (s : Firmware) : Firmware := { s with closeGeneration := s.closeGeneration + 1 }

@[simp] theorem bump_closeGeneration (s : Firmware) :
    s.bump.closeGeneration = s.closeGeneration + 1 := rfl

end Firmware

/-! ### Flash storage -/

/-- What is stored under `sched_v1`: the bytes of a `PersistedSchedule`, or of something else. -/
structure PersistedSchedule where
  /-- The stored length. -/
  size : ℕ
  version : ℕ
  schedule : CloseSchedule
  lastDay : ℤ
  deriving DecidableEq

/-- `sizeof(PersistedSchedule)` -/
def persistedScheduleSize : ℕ := 76

/-- A stored string, which ends at its first NUL. -/
structure NvsStr where
  bytes : CStr
  noNul : 0 ∉ bytes

/-- The namespace `gdo_settings`, key by key. -/
structure Nvs where
  autoCloseMs : Option ℕ := none
  autoCloseEn : Option ℕ := none
  warnBuzzer : Option ℕ := none
  /-- `sched_v1` -/
  schedBlob : Option PersistedSchedule := none
  /-- The separate schedule keys of older firmware. -/
  schedEn : Option ℕ := none
  schedMin : Option ℕ := none
  tz : Option NvsStr := none
  schedLastDay : Option ℤ := none

/-- What `nvs_open`, `nvs_set_*` and `nvs_commit` answer to one write, and whether the new value
reached the storage although an error was returned. -/
structure NvsWrite where
  openErr : EspErr := .ok
  setErr : EspErr := .ok
  commitErr : EspErr := .ok
  storedAnyway : Bool := false
  deriving DecidableEq, Repr

namespace NvsWrite

/-- The error of the open, set and commit sequence. -/
def err (w : NvsWrite) : EspErr :=
  if w.openErr ≠ .ok then w.openErr
  else if w.setErr ≠ .ok then w.setErr
  else w.commitErr

/-- The new value is in the storage afterwards.  A write that returned `ESP_OK` is durable. -/
def stores (w : NvsWrite) : Bool :=
  if w.openErr ≠ .ok then false else w.err = .ok || w.storedAnyway

theorem stores_of_err (w : NvsWrite) (h : w.err = .ok) : w.stores = true := by
  have hopen : w.openErr = .ok := by
    by_contra hne
    simp [err, hne] at h
  simp [stores, hopen, h]

end NvsWrite

/-- Whether the allocation and the task creation that a warning needs succeed. -/
structure TaskStart where
  alloc : Bool := true
  created : Bool := true
  deriving DecidableEq, Repr

/-- `pre_close_warning_run_async`, as far as its caller sees it. -/
def preCloseWarningRunAsync (start : TaskStart) : EspErr :=
  if !start.alloc then .noMem else if !start.created then .noMem else .ok

/-- `PRE_CLOSE_WARNING_DURATION_MS` -/
def preCloseWarningDurationMs : ℕ := 5000

/-- `PRE_CLOSE_WARNING_BEEP_ON_MS + PRE_CLOSE_WARNING_BEEP_OFF_MS`, one turn of the loop of
`pre_close_warning_run`. -/
def preCloseWarningCycleMs : ℕ := 250 + 250

end GdoBlaq
