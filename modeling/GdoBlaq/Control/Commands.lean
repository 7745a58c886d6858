import GdoBlaq.Control.Effect

/-!
# What the calls do to the outside

Only the driver's news, the transition check and the re-offer push what the door, the light or the
sensors do.  All other calls send commands to the opener and push targets.

## Main results

* `perform_commands` : what the other calls put out.
-/

namespace GdoBlaq

open Firmware

/-- Commands to the opener and targets pushed to HomeKit, and nothing else. -/
def Commands (out : List Out) : Prop :=
  ∀ o ∈ out, (∃ caller cmd id err, o = .request caller cmd id err) ∨
    (∃ cmd id err, o = .retry cmd id err) ∨ ∃ tgt, o = .notify (.targetDoor tgt)

section

variable {s : Firmware} {w w' : World} {r : Reply} {c : Call}

@[simp] theorem commands_nil : Commands [] := by simp [Commands]

@[simp] theorem commands_request (caller : Caller) (cmd : DoorCommand) (id : ℕ) (err : EspErr)
    (out : List Out) : Commands (.request caller cmd id err :: out) ↔ Commands out := by
  simp [Commands]

@[simp] theorem commands_retry (cmd : DoorCommand) (id : ℕ) (err : EspErr) (out : List Out) :
    Commands (.retry cmd id err :: out) ↔ Commands out := by
  simp [Commands]

@[simp] theorem commands_target (tgt : TargetState) (out : List Out) :
    Commands (.notify (.targetDoor tgt) :: out) ↔ Commands out := by
  simp [Commands]

@[simp] theorem commands_append (out out' : List Out) :
    Commands (out ++ out') ↔ Commands out ∧ Commands out' := List.forall_mem_append

@[simp] theorem commands_revertTarget (status : Option GdoStatus) :
    Commands (revertTarget status) := by
  unfold revertTarget
  split
  · split_ifs <;> simp
  · simp

theorem userCloseTask_commands (generation : ℕ) (status : Option GdoStatus) (err : EspErr)
    (again : Option GdoStatus) : Commands (userCloseTask s generation status err again).2 := by
  simp only [userCloseTask, sendDoorRequest]
  split_ifs <;> simp

theorem autoCloseWarningCompleteCb_commands (now : ℤ) (status : Option GdoStatus) (err : EspErr) :
    Commands (autoCloseWarningCompleteCb s now status err).2 := by
  rcases autoCloseWarningCompleteCb_cases (s := s) now status err with
    ⟨-, he⟩ | ⟨-, he, rfl⟩ | ⟨-, -, he⟩ <;> simp [he]

theorem schedCloseWarningCompleteCb_commands (status : Option GdoStatus) (err : EspErr) :
    Commands (schedCloseWarningCompleteCb s status err).2 := by
  by_cases hvalid : schedCloseValid s status = true
  · cases err <;> simp [schedCloseWarningCompleteCb, sendDoorRequest, hvalid]
  · simp [schedCloseWarningCompleteCb, hvalid]

theorem watchdogResend_commands (generation : ℕ) (status : GdoStatus)
    (recheck request : Option GdoStatus) (err : EspErr) :
    Commands (watchdogResend s generation status recheck request err) := by
  rcases watchdogResend_cases (s := s) generation status recheck request err with
    he | ⟨_, _, -, -, -, -, -, -, he⟩ <;> simp [he]

/-- **What the other calls put out**: commands and targets. -/
theorem perform_commands (h : w.perform c = some (w', r)) (hnews : c.isNews = false)
    (hoffer : c ≠ .watchdogReoffer) : Commands r.out := by
  have hpair : ∀ {x : World × Reply}, some x = some (w', r) → Commands x.2.out →
      Commands r.out := by
    intro x hx hout
    obtain rfl := Option.some.inj hx
    exact hout
  cases c with
  | event | watchdogTransition => simp [Call.isNews] at hnews
  | watchdogReoffer => exact absurd rfl hoffer
  | controlOpen => exact hpair h (by simp)
  | setPreCloseBuzzer | setAutoCloseTimeoutMs | setAutoCloseEnabled | setCloseSchedule
  | reboot => exact hpair h commands_nil
  | controlClose =>
    simp only [World.perform] at h
    split at h <;> exact hpair h commands_nil
  | warningCycle =>
    simp only [World.perform] at h
    split_ifs at h
    exact hpair h commands_nil
  | userCloseTask tid status err again =>
    simp only [World.perform] at h
    split at h
    · exact hpair h (userCloseTask_commands _ status err again)
    · cases h
  | autoCloseComplete tid status err =>
    simp only [World.perform] at h
    split at h
    · exact hpair h (autoCloseWarningCompleteCb_commands _ status err)
    · cases h
  | schedCloseComplete tid status err =>
    simp only [World.perform] at h
    split at h
    · exact hpair h (schedCloseWarningCompleteCb_commands status err)
    · cases h
  | watchdogRetry status =>
    simp only [World.perform] at h
    split at h
    · cases status with
      | none => exact hpair h commands_nil
      | some status =>
        simp only at h
        split at h
        · exact hpair h commands_nil
        · exact hpair h commands_nil
        · exact hpair h (by simp [retryRevert])
    · cases h
  | watchdogWarningCycle =>
    simp only [World.perform] at h
    split at h
    · split_ifs at h
      exact hpair h commands_nil
    · cases h
  | watchdogResend recheck request err =>
    simp only [World.perform] at h
    split at h
    · split_ifs at h
      exact hpair h (watchdogResend_commands _ _ recheck request err)
    · cases h
  | watchdogAutoClose =>
    simp only [World.perform] at h
    split at h
    · exact hpair h commands_nil
    · cases h
  | watchdogSched =>
    simp only [World.perform] at h
    split_ifs at h <;> exact hpair h commands_nil

end

end GdoBlaq
