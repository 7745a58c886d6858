import GdoBlaq.Control.Automatic
import GdoBlaq.RetryBudget

/-!
# The other stages of the watchdog

The transition check, the retry stage (deciding, and repeating the command after the warning) and
the re-offer of `gdo_watchdog_task`.  The loop reads the time once, before its first stage.

## Main results

* `watchdogTransition_news` : the transition check can only do what the driver's news can do.
* `watchdogResend_cases` : the retry stage transmits at most one command, under the standing id,
  and only after the recheck.
-/

namespace GdoBlaq

open Firmware

/-! ### The transition check -/

/-- `GDO_DOOR_STALL_CHECK_MS` -/
def gdoDoorStallCheckMs : ℕ := 8000

/-- `GDO_DOOR_STALL_MOVEMENT_MIN` -/
def gdoDoorStallMovementMin : ℕ := 200

/-- `GDO_DOOR_TRANSIT_MARGIN_MS` -/
def gdoDoorTransitMarginMs : ℕ := 10000

/-- `GDO_DOOR_TRANSIT_FALLBACK_MS` -/
def gdoDoorTransitFallbackMs : ℕ := 35000

/-- `request_gdo_status_recovery` with the status it reads. -/
def requestGdoStatusRecovery (status : Option GdoStatus) : List Out :=
  match status with
  | some status => if status.synced then [] else [.sync]
  | none => []

/-- `elapsed` of the transition check. -/
def transitionElapsed (s : Firmware) (now : ℤ) : ℕ :=
  if 0 < now - s.tracking.transitionStartMs then u32 (now - s.tracking.transitionStartMs) else 0

/-- `measured_ms`: the learned travel time in the direction of the transition, 0 if unknown. -/
def measuredMs (s : Firmware) (status : GdoStatus) : ℕ :=
  if s.tracking.transitionTarget = .opening then status.openMs else status.closeMs

/-- `timeout_ms` of the transition check. -/
def transitionTimeoutMs (s : Firmware) (now : ℤ) (status : GdoStatus) : ℕ :=
  let measured := measuredMs s status
  let moved := ((rawPosition status.doorPosition : ℤ) - s.tracking.transitionStartRaw).natAbs
  let stalled : Bool := 0 < measured ∧ gdoDoorStallCheckMs ≤ transitionElapsed s now ∧
    moved < gdoDoorStallMovementMin
  if stalled then gdoDoorStallCheckMs
  else if 0 < measured then measured + gdoDoorTransitMarginMs
  else gdoDoorTransitFallbackMs

/-- `resolved`: the state that a timed-out transition is settled at. -/
def resolvedState (status : GdoStatus) : Option DoorState :=
  if status.door = .opened ∨ status.door = .closed ∨ status.door = .stopped then some status.door
  else doorAtExtreme (rawPosition status.doorPosition)

/-- The end that `door_target` stands for. -/
def requestedTarget (doorTarget : ℤ) : Option DoorState :=
  if doorTarget = 0 then some .opened else if doorTarget = 10000 then some .closed else none

/-- The target push for a transition that ended elsewhere than at the commanded end. -/
def correctTarget (status : GdoStatus) (resolved : DoorState) : List Out :=
  match requestedTarget status.doorTarget with
  | none => []
  | some requested =>
    if requested = resolved then []
    else if resolved = .opened then [.notify (.targetDoor .opened)]
    else if resolved = .closed then [.notify (.targetDoor .closed)]
    -- HomeKit has no target for a stopped door
    else []

/-- `set_last_door_state` where the caller tests for a change first. -/
def correctLastDoor (s : Firmware) (fresh : ℤ) (d : DoorState) : Firmware × List Out :=
  if d ≠ s.lastDoor then setLastDoorState s fresh d else (s, [])

/-- The transition check: `now` is the loop's time, `fresh` what `set_last_door_state` reads,
`recovery` the status that the recovery request reads. -/
def watchdogTransition (s : Firmware) (now fresh : ℤ) (status recovery : Option GdoStatus) :
    Firmware × List Out :=
  if !s.tracking.doorInTransition then (s, [])
  else
    match status with
    | none => (s, [])
    | some status =>
      if transitionElapsed s now ≤ transitionTimeoutMs s now status then (s, [])
      else
        let s := { s with tracking := { s.tracking with doorInTransition := false } }
        match resolvedState status with
        | some resolved =>
          let (s, out) := correctLastDoor s fresh resolved
          (s, out ++ correctTarget status resolved)
        | none =>
          -- neither the driver nor the position knows where the door is
          let (s, out) := correctLastDoor s fresh .stopped
          (s, out ++ requestGdoStatusRecovery recovery)

/-! ### The retry stage -/

/-- `GDO_MOTOR_ENGAGE_TIMEOUT_MS` -/
def gdoMotorEngageTimeoutMs : ℕ := 8000

/-- `pending`: a request was made and the door is still at the other end. -/
def requestPending (s : Firmware) (status : GdoStatus) : Bool :=
  status.synced ∧ !s.tracking.doorInTransition ∧
    ((status.doorTarget = 0 ∧ status.door = .closed) ∨
      (status.doorTarget = 10000 ∧ status.door = .opened))

/-- What the budget says about the standing request. -/
def retryDecision (s : Firmware) (b : RetryBudget) (now : ℤ) (status : GdoStatus) :
    RetryBudget × RetryAction :=
  retryBudgetStep b s.doorCommandId (requestPending s status) (!status.toggleOnly) now
    gdoMotorEngageTimeoutMs

/-- The `RETRY_REVERT` branch. -/
def retryRevert (s : Firmware) (fresh : ℤ) (status : GdoStatus) : Firmware × List Out :=
  (if status.door = .opened ∧ s.autoCloseTriggered then
    { s with autoCloseTriggered := false, doorOpenSinceMs := fresh } else s,
    [.notify (.targetDoor (if status.door = .opened then .opened else .closed))])

/-- The recheck after the warning that a repeated close sounds first. -/
def retryStands (s : Firmware) (generation : ℕ) (status : GdoStatus) (fresh : Option GdoStatus) :
    Bool :=
  match fresh with
  | none => false
  | some fresh =>
    Stamp.read 32 generation = Stamp.read 32 s.closeGeneration ∧ fresh.door = status.door ∧
      fresh.doorTarget = status.doorTarget ∧ (fresh.doorTarget ≠ 10000 ∨ fresh.obstruction = .clear)

/-- The end of the `RETRY_SEND` branch: `request` is the status that `retry_door_request` reads. -/
def watchdogResend (s : Firmware) (generation : ℕ) (status : GdoStatus)
    (fresh request : Option GdoStatus) (err : EspErr) : List Out :=
  if retryStands s generation status fresh then
    (retryDoorRequest s s.doorCommandId request err).2 else []

/-! ### The re-offer -/

/-- `resend_last_states_to_homekit` -/
def resendLastStatesToHomekit (s : Firmware) : List Out :=
  (if s.lastDoor ≠ .max then [.notify (.currentDoor s.lastDoor)] else []) ++
  (if s.seen.lastLight ≠ .max then [.notify (.light s.seen.lastLight)] else []) ++
  (if s.seen.lastLock ≠ .max then [.notify (.lock s.seen.lastLock)] else []) ++
  (if s.lastObstruction ≠ .max then [.notify (.obstruction s.lastObstruction)] else []) ++
  (if s.seen.lastMotion ≠ .max then [.notify (.motion s.seen.lastMotion)] else [])

/-! ### What they do -/

section

variable {s : Firmware} {now fresh : ℤ}

theorem correctLastDoor_news (d : DoorState) : News s fresh (correctLastDoor s fresh d).1 := by
  unfold correctLastDoor
  split_ifs with h
  · exact setLastDoorState_news h
  · exact .view s.seen s.link s.tracking

/-- The transition check can only do what the driver's news can do. -/
theorem watchdogTransition_news (status recovery : Option GdoStatus) :
    News s fresh (watchdogTransition s now fresh status recovery).1 := by
  unfold watchdogTransition
  split_ifs
  · exact .view s.seen s.link s.tracking
  · cases status with
    | none => exact .view s.seen s.link s.tracking
    | some status =>
      simp only
      split_ifs
      · exact .view s.seen s.link s.tracking
      · cases resolvedState status with
        | none => exact News.view_before s.seen s.link _ (correctLastDoor_news .stopped)
        | some d => exact News.view_before s.seen s.link _ (correctLastDoor_news d)

theorem correctLastDoor_silent (d : DoorState) : Silent (correctLastDoor s fresh d).2 := by
  unfold correctLastDoor
  split_ifs
  · exact setLastDoorState_silent
  · exact .nil

theorem correctTarget_silent (status : GdoStatus) (resolved : DoorState) :
    Silent (correctTarget status resolved) := by
  unfold correctTarget
  split
  · exact .nil
  · split_ifs
    · exact .nil
    · exact Silent.nil.notify _
    · exact Silent.nil.notify _
    · exact .nil

theorem requestGdoStatusRecovery_silent (status : Option GdoStatus) :
    Silent (requestGdoStatusRecovery status) := by
  unfold requestGdoStatusRecovery
  split
  · split_ifs
    · exact .nil
    · exact .cons (fun _ hc => hc) .nil
  · exact .nil

theorem watchdogTransition_silent (status recovery : Option GdoStatus) :
    Silent (watchdogTransition s now fresh status recovery).2 := by
  unfold watchdogTransition
  split_ifs
  · exact .nil
  · cases status with
    | none => exact .nil
    | some status =>
      simp only
      split_ifs
      · exact .nil
      · cases resolvedState status with
        | none => exact (correctLastDoor_silent _).append (requestGdoStatusRecovery_silent _)
        | some d => exact (correctLastDoor_silent _).append (correctTarget_silent _ _)

theorem resendLastStatesToHomekit_silent : Silent (resendLastStatesToHomekit s) := by
  have hoffer : ∀ (p : Prop) [Decidable p] (n : Notify),
      Silent (if p then [.notify n] else []) := by
    intro p _ n
    split_ifs
    · exact Silent.nil.notify _
    · exact .nil
  unfold resendLastStatesToHomekit
  exact ((((hoffer _ _).append (hoffer _ _)).append (hoffer _ _)).append (hoffer _ _)).append
    (hoffer _ _)

/-- `retry_door_request` repeats at most one command, the one the driver's `door_target` stands
for, under the standing id and only on a synced driver that has both commands. -/
theorem retryDoorRequest_cases (commandId : ℕ) (status : Option GdoStatus) (err : EspErr) :
    (retryDoorRequest s commandId status err).2 = [] ∨
    ∃ st cmd, status = some st ∧ Stamp.read 32 commandId ≠ 0 ∧
      Stamp.read 32 commandId = Stamp.read 32 s.doorCommandId ∧ st.synced = true ∧
      st.toggleOnly = false ∧ commandOfTarget st.doorTarget = some cmd ∧
      (retryDoorRequest s commandId status err).2 = [.retry cmd s.doorCommandId err] := by
  unfold retryDoorRequest
  by_cases hid : Stamp.read 32 commandId = 0 ∨
    Stamp.read 32 commandId ≠ Stamp.read 32 s.doorCommandId
  · exact .inl (by simp [hid])
  cases status with
  | none => exact .inl (by simp [hid])
  | some st =>
    simp only [hid, ite_false]
    by_cases hsync : st.synced = true
    · by_cases htog : st.toggleOnly = true
      · exact .inl (by simp [hsync, htog])
      · cases hcmd : commandOfTarget st.doorTarget with
        | none => exact .inl (by simp [hsync, htog])
        | some cmd =>
          obtain ⟨hne, heq⟩ := not_or.1 hid
          exact .inr ⟨st, cmd, rfl, hne, not_not.1 heq, hsync, by simpa using htog, hcmd,
            by simp [hsync, htog]⟩
    · exact .inl (by simp [hsync])

/-- The end of the `RETRY_SEND` branch transmits nothing, or one command after the recheck. -/
theorem watchdogResend_cases (generation : ℕ) (status : GdoStatus)
    (recheck request : Option GdoStatus)
    (err : EspErr) :
    watchdogResend s generation status recheck request err = [] ∨
    ∃ st cmd, request = some st ∧ retryStands s generation status recheck = true ∧
      Stamp.read 32 s.doorCommandId ≠ 0 ∧ st.synced = true ∧ st.toggleOnly = false ∧
      commandOfTarget st.doorTarget = some cmd ∧
      watchdogResend s generation status recheck request err =
        [.retry cmd s.doorCommandId err] := by
  unfold watchdogResend
  by_cases hstands : retryStands s generation status recheck = true
  · simp only [hstands, ite_true]
    rcases retryDoorRequest_cases (s := s) s.doorCommandId request err with h | h
    · exact .inl h
    · obtain ⟨st, cmd, hst, hid, -, hsync, htog, hcmd, hout⟩ := h
      exact .inr ⟨st, cmd, hst, trivial, hid, hsync, htog, hcmd, hout⟩
  · exact .inl (by simp [hstands])

end

end GdoBlaq
