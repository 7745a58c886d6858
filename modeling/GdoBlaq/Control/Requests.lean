import GdoBlaq.Control.Door

/-!
# Door requests and the user's open and close

`send_door_request`, `retry_door_request`, `gdo_control_open`, `gdo_control_close` and the body of
`user_close_task` after its warning.  The driver's answers (`gdo_door_open()`, `gdo_door_close()`)
and every status read are arguments; a failed `gdo_get_status` is `none`.
-/

namespace GdoBlaq

open Firmware

/-- `send_door_request`: take a new id and issue the command; `err` is the driver's answer. -/
def sendDoorRequest (s : Firmware) (caller : Caller) (cmd : DoorCommand) (err : EspErr) :
    Firmware × EspErr × List Out :=
  let id := s.doorCommandId + 1
  ({ s with doorCommandId := id }, err, [.request caller cmd id err])

/-- The command that `door_target` stands for when a request is repeated. -/
def commandOfTarget (doorTarget : ℤ) : Option DoorCommand :=
  if doorTarget = 0 then some .doorOpen
  else if doorTarget = 10000 then some .doorClose
  else none

/-- The `door_target` of a door that obeys the command. -/
def DoorCommand.target : DoorCommand → ℤ
  | .doorOpen => 0
  | .doorClose => 10000

theorem commandOfTarget_eq_some {doorTarget : ℤ} {cmd : DoorCommand} :
    commandOfTarget doorTarget = some cmd ↔ doorTarget = cmd.target := by
  unfold commandOfTarget
  cases cmd <;> split_ifs <;> simp_all [DoorCommand.target]

/-- `retry_door_request(command_id)` with the status it reads and the driver's answer. -/
def retryDoorRequest (s : Firmware) (commandId : ℕ) (status : Option GdoStatus) (err : EspErr) :
    EspErr × List Out :=
  if Stamp.read 32 commandId = 0 ∨ Stamp.read 32 commandId ≠ Stamp.read 32 s.doorCommandId then
    (.invalidState, [])
  else
    match status with
    | none => (.invalidState, [])
    | some status =>
      if !status.synced then (.invalidState, [])
      -- a second TOGGLE could stop or reverse the door
      else if status.toggleOnly then (.notSupported, [])
      else
        match commandOfTarget status.doorTarget with
        | some cmd => (err, [.retry cmd s.doorCommandId err])
        | none => (.invalidState, [])

/-- `gdo_control_open` -/
def gdoControlOpen (s : Firmware) (err : EspErr) : Firmware × EspErr × List Out :=
  sendDoorRequest s.bump .control .doorOpen err

/-- The push that puts the target back to where the door is. -/
def revertTarget (status : Option GdoStatus) : List Out :=
  match status with
  | some status =>
    if status.door = .opened then [.notify (.targetDoor .opened)]
    else if status.door = .closed then [.notify (.targetDoor .closed)]
    else []
  | none => []

/-- `err == ESP_OK && status.synced && status.obstruction == GDO_OBSTRUCTION_STATE_CLEAR` -/
def clearToClose (status : Option GdoStatus) : Bool :=
  match status with
  | some status => status.synced ∧ status.obstruction = .clear
  | none => false

/-- `user_close_task` after its warning: `generation` is the task's own, `status` the read that
decides, `err` the driver's answer and `again` the read that the revert makes. -/
def userCloseTask (s : Firmware) (generation : ℕ) (status : Option GdoStatus) (err : EspErr)
    (again : Option GdoStatus) : Firmware × List Out :=
  let s :=
    -- a task that was overtaken does not release the slot of the newer one
    if Stamp.read 32 s.userClosePendingGeneration = Stamp.read 32 generation then
      { s with userClosePending := false } else s
  if Stamp.read 32 generation = Stamp.read 32 s.closeGeneration then
    if clearToClose status then
      let (s, err, out) := sendDoorRequest s .userClose .doorClose err
      (s, if err ≠ .ok then out ++ revertTarget again else out)
    else (s, revertTarget again)
  else if !s.userClosePending then (s, revertTarget again)
  -- a newer close pends, which keeps the target at closed
  else (s, [])

/-- The `already closed` test of `gdo_control_close`. -/
def alreadyClosed (s : Firmware) (status : Option GdoStatus) : Bool :=
  match status with
  | some status => status.synced ∧ !s.tracking.doorInTransition ∧ status.door = .closed
  | none => false

/-- A user close is pending and nothing has cancelled it. -/
def Firmware.userCloseStands (s : Firmware) : Bool :=
  s.userClosePending ∧ Stamp.read 32 s.userClosePendingGeneration = Stamp.read 32 s.closeGeneration

/-- `gdo_control_close`: the variables, the answer, and the generation handed to a new
`user_close_task` if one was created. -/
def gdoControlClose (s : Firmware) (status : Option GdoStatus) (start : TaskStart) :
    Firmware × EspErr × Option ℕ :=
  if s.userCloseStands then (s, .invalidState, none)
  else if alreadyClosed s status then (s, .ok, none)
  else if !start.alloc then (s, .noMem, none)
  else
    let s := s.bump
    let s := { s with userClosePending := true, userClosePendingGeneration := s.closeGeneration }
    -- the bump stays even if there is no task for it
    if !start.created then ({ s with userClosePending := false }, .noMem, none)
    else (s, .ok, some s.closeGeneration)

/-! ### What they do -/

section

variable {s : Firmware}

/-- The four ends of `gdo_control_close`: refused or already closed (nothing moves), the task
could not be created (the generation has moved and the slot is free), or a task holds the slot. -/
theorem gdoControlClose_cases (status : Option GdoStatus) (start : TaskStart) :
    (∃ err, gdoControlClose s status start = (s, err, none) ∧
      (err = .ok → s.userCloseStands = false ∧ alreadyClosed s status = true)) ∨
    gdoControlClose s status start =
      ({ s.bump with
          userClosePending := false, userClosePendingGeneration := s.closeGeneration + 1 },
        .noMem, none) ∨
    (s.userCloseStands = false ∧ alreadyClosed s status = false ∧
      gdoControlClose s status start =
        ({ s.bump with
            userClosePending := true, userClosePendingGeneration := s.closeGeneration + 1 },
          .ok, some (s.closeGeneration + 1))) := by
  unfold gdoControlClose
  by_cases hstands : s.userCloseStands = true
  · exact .inl ⟨.invalidState, by simp [hstands], by simp⟩
  by_cases hclosed : alreadyClosed s status = true
  · exact .inl ⟨.ok, by simp [hstands, hclosed], fun _ => ⟨by simpa using hstands, hclosed⟩⟩
  by_cases halloc : start.alloc = true
  · by_cases hcreated : start.created = true
    · exact .inr (.inr ⟨by simpa using hstands, by simpa using hclosed,
        by simp [hstands, hclosed, halloc, hcreated]⟩)
    · exact .inr (.inl (by simp [hstands, hclosed, halloc, hcreated]))
  · exact .inl ⟨.noMem, by simp [hstands, hclosed, halloc], by simp⟩

theorem revertTarget_silent (again : Option GdoStatus) : Silent (revertTarget again) := by
  unfold revertTarget
  split
  · split_ifs
    · exact Silent.nil.notify _
    · exact Silent.nil.notify _
    · exact .nil
  · exact .nil

/-- The pending flag after `user_close_task` woke: a task only gives back a slot that is still
its own. -/
def Firmware.userClosePendingAfter (s : Firmware) (generation : ℕ) : Bool :=
  s.userClosePending &&
    !decide (Stamp.read 32 s.userClosePendingGeneration = Stamp.read 32 generation)

/-- The two ends of `user_close_task`: the close is sent, under a generation that still reads the
same and after a status that allows it, or nothing is sent. -/
theorem userCloseTask_cases (generation : ℕ) (status : Option GdoStatus) (err : EspErr)
    (again : Option GdoStatus) :
    (∃ out, Silent out ∧
      Stamp.read 32 generation = Stamp.read 32 s.closeGeneration ∧ clearToClose status = true ∧
      userCloseTask s generation status err again =
        ({ s with
            userClosePending := s.userClosePendingAfter generation
            doorCommandId := s.doorCommandId + 1 },
          .request .userClose .doorClose (s.doorCommandId + 1) err :: out)) ∨
    (∃ out, Silent out ∧
      userCloseTask s generation status err again =
        ({ s with userClosePending := s.userClosePendingAfter generation }, out)) := by
  have hslot : (if Stamp.read 32 s.userClosePendingGeneration = Stamp.read 32 generation then
      { s with userClosePending := false } else s) =
      { s with userClosePending := s.userClosePendingAfter generation } := by
    unfold userClosePendingAfter
    split_ifs with h <;> simp [h]
  simp only [userCloseTask, hslot]
  by_cases hgen : Stamp.read 32 generation = Stamp.read 32 s.closeGeneration
  · by_cases hclear : clearToClose status = true
    · refine .inl ⟨if err ≠ .ok then revertTarget again else [], ?_, hgen, hclear, ?_⟩
      · split_ifs
        · exact revertTarget_silent again
        · exact .nil
      · by_cases herr : err = .ok <;> simp [hgen, hclear, sendDoorRequest, herr]
    · refine .inr ⟨revertTarget again, revertTarget_silent again, ?_⟩
      simp [hgen, hclear]
  · by_cases hpend : s.userClosePendingAfter generation = true
    · exact .inr ⟨[], .nil, by simp [hgen, hpend]⟩
    · exact .inr ⟨revertTarget again, revertTarget_silent again, by simp [hgen, hpend]⟩

end

end GdoBlaq
