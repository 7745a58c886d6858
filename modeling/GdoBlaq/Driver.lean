import Mathlib.Data.Int.Notation
import Mathlib.Data.Nat.Notation

/-!
# What the firmware sees of the opener driver

The opener is driven by a separate library, which is not part of the firmware.  It is an
environment here: a status read may return anything at any time, a command may be accepted or
refused, and any event may arrive with any status.  This file has the data that crosses that
border, under the names the firmware uses for it.

The status fields that the firmware only logs (openings, time to close, paired devices, battery)
are left out.
-/

namespace GdoBlaq

/-- `esp_err_t` with the codes the firmware itself returns or tests. -/
inductive EspErr where
  | ok
  | fail
  | noMem
  | invalidArg
  | invalidState
  | notSupported
  | nvsNotFound
  | other (code : ℕ)
  deriving DecidableEq, Repr

/-- `gdo_door_state_t`; `max` is the sentinel for "never reported". -/
inductive DoorState where
  | unknown
  | opened
  | closed
  | stopped
  | opening
  | closing
  | max
  deriving DecidableEq, Repr

/-- `gdo_obstruction_state_t`. -/
inductive ObstructionState where
  | obstructed
  | clear
  | max
  deriving DecidableEq, Repr

/-- `gdo_light_state_t`. -/
inductive LightState where
  | off
  | on
  | max
  deriving DecidableEq, Repr

/-- `gdo_lock_state_t`. -/
inductive LockState where
  | unlocked
  | locked
  | max
  deriving DecidableEq, Repr

/-- `gdo_motion_state_t`. -/
inductive MotionState where
  | clear
  | detected
  | max
  deriving DecidableEq, Repr

/-- `gdo_learn_state_t`. -/
inductive LearnState where
  | inactive
  | active
  | max
  deriving DecidableEq, Repr

/-- `gdo_motor_state_t`. -/
inductive MotorState where
  | off
  | on
  | max
  deriving DecidableEq, Repr

/-- `gdo_button_state_t`. -/
inductive ButtonState where
  | released
  | pressed
  | max
  deriving DecidableEq, Repr

/-- `gdo_protocol_type_t`: `none` is 0 and `max` the bound `GDO_PROTOCOL_MAX`. -/
inductive Protocol where
  | none
  | secPlusV1
  | secPlusV2
  | secPlusV1WithSmartPanel
  | max
  deriving DecidableEq, Repr

/-- `protocol > 0 && protocol < GDO_PROTOCOL_MAX`. -/
def Protocol.known (p : Protocol) : Bool := p ≠ .none ∧ p ≠ .max

/-- `gdo_status_t`.  Positions run from 0 (open) to 10000 (closed), with -1 for "not known". -/
structure GdoStatus where
  protocol : Protocol
  door : DoorState
  light : LightState
  lock : LockState
  motion : MotionState
  obstruction : ObstructionState
  motor : MotorState
  button : ButtonState
  learn : LearnState
  synced : Bool
  /-- Security+ 1.0: the opener only has a TOGGLE command. -/
  toggleOnly : Bool
  /-- `int32_t door_position` -/
  doorPosition : ℤ
  /-- `int32_t door_target`: 0 open, 10000 closed; it may be stale. -/
  doorTarget : ℤ
  /-- `uint16_t open_ms`: 0 until measured. -/
  openMs : ℕ
  /-- `uint16_t close_ms`: 0 until measured. -/
  closeMs : ℕ
  clientId : ℕ
  rollingCode : ℕ
  deriving DecidableEq, Repr

/-- A synced Security+ 2.0 opener whose door stands at `door`, with nothing else going on. -/
def GdoStatus.idle (door : DoorState) (doorPosition doorTarget : ℤ) : GdoStatus where
  protocol := .secPlusV2
  door := door
  light := .off
  lock := .unlocked
  motion := .clear
  obstruction := .clear
  motor := .off
  button := .released
  learn := .inactive
  synced := true
  toggleOnly := false
  doorPosition := doorPosition
  doorTarget := doorTarget
  openMs := 0
  closeMs := 0
  clientId := 1
  rollingCode := 1

/-- `gdo_cb_event_t`; `unknown` is any number without a name. -/
inductive GdoEvent where
  | synced
  | light
  | lock
  | doorPosition
  | learn
  | obstruction
  | motion
  | battery
  | button
  | motor
  | openings
  | ttc
  | pairedDevices
  | openDurationMeasurement
  | closeDurationMeasurement
  | unknown
  deriving DecidableEq, Repr

/-- The two door commands of the driver, `gdo_door_open()` and `gdo_door_close()`. -/
inductive DoorCommand where
  | doorOpen
  | doorClose
  deriving DecidableEq, Repr

/-- `TGT_OPEN` and `TGT_CLOSED`. -/
inductive TargetState where
  | opened
  | closed
  deriving DecidableEq, Repr

/-- A call of one of the `notify_homekit_*` functions with its argument. -/
inductive Notify where
  | currentDoor (door : DoorState)
  | targetDoor (tgt : TargetState)
  | light (light : LightState)
  | lock (lock : LockState)
  | obstruction (state : ObstructionState)
  | motion (motion : MotionState)
  | learn (learn : LearnState)
  deriving DecidableEq, Repr

/-- Which code called `send_door_request`. -/
inductive Caller where
  | control
  | userClose
  | autoClose
  | schedClose
  deriving DecidableEq, Repr

/-- What a piece of the firmware does to the outside: commands to the driver, pushes towards
HomeKit, and the sync bookkeeping it hands on. -/
inductive Out where
  /-- `send_door_request` took `id` and issued the command, with the driver's answer. -/
  | request (caller : Caller) (cmd : DoorCommand) (id : ℕ) (err : EspErr)
  /-- `retry_door_request` repeated a command under the standing `id`. -/
  | retry (cmd : DoorCommand) (id : ℕ) (err : EspErr)
  | notify (n : Notify)
  /-- `gdo_sync()` -/
  | sync
  /-- `gdo_set_rolling_code(code)` -/
  | setRollingCode (code : ℕ)
  /-- `gdo_save_synced_protocol(protocol)` -/
  | saveSyncedProtocol (protocol : Protocol)
  /-- `gdo_save_rolling_state(client_id, rolling_code)` -/
  | saveRollingState (clientId rollingCode : ℕ)
  deriving DecidableEq, Repr

/-- The output transmits the command `cmd` to the opener. -/
def Out.Transmits (cmd : DoorCommand) : Out → Prop
  | .request _ c _ _ => c = cmd
  | .retry c _ _ => c = cmd
  | _ => False

instance (cmd : DoorCommand) : DecidablePred (Out.Transmits cmd) := fun o => by
  cases o <;> unfold Out.Transmits <;> infer_instance

/-- The output is a new request of `send_door_request`. -/
def Out.IsRequest : Out → Prop
  | .request _ _ _ _ => True
  | _ => False

instance : DecidablePred Out.IsRequest := fun o => by
  cases o <;> unfold Out.IsRequest <;> infer_instance

@[simp] theorem Out.request_isRequest (caller : Caller)
    (cmd : DoorCommand) (id : ℕ) (err : EspErr) :
    (Out.request caller cmd id err).IsRequest := trivial

@[simp] theorem Out.notify_not_isRequest (n : Notify) : ¬ (Out.notify n).IsRequest := id

/-- The output repeats a command. -/
def Out.IsRetry : Out → Prop
  | .retry _ _ _ => True
  | _ => False

instance : DecidablePred Out.IsRetry := fun o => by
  cases o <;> unfold Out.IsRetry <;> infer_instance

/-- No output is a door command. -/
def Silent (out : List Out) : Prop := ∀ o ∈ out, ∀ cmd, ¬ o.Transmits cmd

theorem Silent.nil : Silent [] := by simp [Silent]

theorem Silent.cons {o : Out} {out : List Out} (h : ∀ cmd, ¬ o.Transmits cmd) (h' : Silent out) :
    Silent (o :: out) := by
  intro x hx
  rcases List.mem_cons.1 hx with rfl | hx
  · exact h
  · exact h' x hx

theorem Silent.append {out out' : List Out} (h : Silent out) (h' : Silent out') :
    Silent (out ++ out') := by
  intro x hx
  rcases List.mem_append.1 hx with hx | hx
  · exact h x hx
  · exact h' x hx

theorem Silent.notify (n : Notify) {out : List Out} (h : Silent out) : Silent (.notify n :: out) :=
  .cons (fun _ hc => hc) h

theorem Silent.not_isRetry {out : List Out} (h : Silent out) : ∀ o ∈ out, ¬ o.IsRetry := by
  intro o ho hr
  cases o with
  | retry cmd id err => exact h _ ho cmd rfl
  | _ => exact hr

theorem Silent.not_isRequest {out : List Out} (h : Silent out) : ∀ o ∈ out, ¬ o.IsRequest := by
  intro o ho hr
  cases o with
  | request caller cmd id err => exact h _ ho cmd rfl
  | _ => exact hr

end GdoBlaq
