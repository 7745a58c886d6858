import GdoBlaq.Control.Firmware

/-!
# Door state: the driver's news

`set_last_door_state`, `process_door_position` and `gdo_event_handler`: everything the firmware
does when the driver calls back.  A function returns the new variables and what it does to the
outside, in order.

## Main results

* `setLastDoorState_of_ne` : how a change of `last_door` moves the generation and the two
  open timers.
* `News` and `gdoEventHandler_news` : all that a call of the event handler can do to the variables
  that decide about closing.
-/

namespace GdoBlaq

open Firmware

/-! ### `set_last_door_state` -/

/-- `set_last_door_state` -/
def setLastDoorState (s : Firmware) (now : ℤ) (newState : DoorState) : Firmware × List Out :=
  let s₁ := if newState ≠ s.lastDoor then s.bump else s
  let s₂ :=
    if newState = .opened ∧ s₁.lastDoor ≠ .opened then
      { s₁ with
        doorOpenSinceMs := now
        doorContinuouslyOpenSinceMs := now
        autoCloseTriggered := false }
    else if newState ≠ .opened ∧ s₁.lastDoor = .opened then
      { s₁ with
        doorOpenSinceMs := 0
        doorContinuouslyOpenSinceMs := 0
        autoCloseTriggered := false }
    else s₁
  -- the push is made even if the state has not changed
  ({ s₂ with lastDoor := newState }, [.notify (.currentDoor newState)])

/-! ### `process_door_position` -/

/-- `GDO_DOOR_POS_OPEN_THRESHOLD` -/
def doorPosOpenThreshold : ℕ := 200

/-- `GDO_DOOR_POS_CLOSED_THRESHOLD` -/
def doorPosClosedThreshold : ℕ := 9800

/-- The raw position: the driver's `int32_t` read as unsigned and capped. -/
def rawPosition (doorPosition : ℤ) : ℕ := min (u32 doorPosition) 10000

/-- The state that the raw position stands for at an extreme. -/
def doorAtExtreme (raw : ℕ) : Option DoorState :=
  if raw ≤ doorPosOpenThreshold then some .opened
  else if doorPosClosedThreshold ≤ raw then some .closed
  else none

/-- `inferred`: the reported state; the position decides only when no state was ever reported. -/
def inferDoor (status : GdoStatus) (raw : ℕ) : DoorState :=
  match status.protocol with
  | .secPlusV1 | .secPlusV1WithSmartPanel | .secPlusV2 =>
    -- STOPPED is taken at its word even if the position is at an end
    if status.door = .max then (doorAtExtreme raw).getD .max else status.door
  | _ => status.door

/-- The target pushed while a transition towards `d` is on. -/
def targetOfMoving (d : DoorState) : List Out :=
  match d with
  | .opening => [.notify (.targetDoor .opened)]
  | .closing => [.notify (.targetDoor .closed)]
  | _ => []

/-- The target that `door_target` stands for. -/
def targetOfDriver (doorTarget : ℤ) : List Out :=
  if doorTarget = 0 then [.notify (.targetDoor .opened)]
  else if doorTarget = 10000 then [.notify (.targetDoor .closed)]
  else []

/-- The target pushes that the two protocol blocks make before the state is resolved. -/
def protocolTarget (s : Firmware) (status : GdoStatus) (inferred : DoorState) : List Out :=
  match status.protocol with
  | .secPlusV1 | .secPlusV1WithSmartPanel => targetOfMoving inferred
  | .secPlusV2 =>
    -- the driver's target may be stale while a transition is tracked
    if s.tracking.doorInTransition then targetOfMoving s.tracking.transitionTarget
    else targetOfDriver status.doorTarget
  | _ => []

/-- `inferred_confirmed_by_raw` -/
def inferredConfirmedByRaw (inferred : DoorState) (raw : ℕ) : Bool :=
  (inferred ≠ .opened ∧ inferred ≠ .closed) ∨
    (inferred = .opened ∧ raw ≤ doorPosOpenThreshold) ∨
    (inferred = .closed ∧ doorPosClosedThreshold ≤ raw)

/-- The transition-tracking block. -/
def trackTransition (k : Tracking) (now : ℤ) (inferred : DoorState) (raw : ℕ) : Tracking :=
  if inferred = .opening ∨ inferred = .closing then
    if !k.doorInTransition ∨ k.transitionTarget ≠ inferred then
      ⟨true, now, inferred, raw⟩
    else k
  else if !k.doorInTransition then k
  -- a stale OPEN or CLOSED does not end a transition that the position contradicts
  else if inferredConfirmedByRaw inferred raw then { k with doorInTransition := false }
  else k

/-- A moving state shown before a jump between the two ends. -/
def jumpNotice (lastDoor inferred : DoorState) : List Out :=
  if lastDoor = .closed ∧ inferred = .opened then [.notify (.currentDoor .opening)]
  else if lastDoor = .opened ∧ inferred = .closed then [.notify (.currentDoor .closing)]
  else []

/-- The target that goes with a newly resolved state.  Stopped has none of its own: the nearer
end is shown, unless the position is not known. -/
def targetOfResolved (status : GdoStatus) (inferred : DoorState) (raw : ℕ) : List Out :=
  match inferred with
  | .opened => [.notify (.targetDoor .opened)]
  | .closed => [.notify (.targetDoor .closed)]
  | .stopped =>
    if 0 ≤ status.doorPosition then
      if raw ≤ 5000 then [.notify (.targetDoor .opened)] else [.notify (.targetDoor .closed)]
    else []
  | _ => []

/-- The HomeKit update block. -/
def resolveDoor (s : Firmware) (now : ℤ) (status : GdoStatus) (inferred : DoorState) (raw : ℕ) :
    Firmware × List Out :=
  if inferred ≠ s.lastDoor ∧ inferredConfirmedByRaw inferred raw = true then
    let (s', out) := setLastDoorState s now inferred
    (s', jumpNotice s.lastDoor inferred ++ out ++ targetOfResolved status inferred raw)
  else (s, [])

/-- `process_door_position` -/
def processDoorPosition (s : Firmware) (now : ℤ) (status : GdoStatus) : Firmware × List Out :=
  if !status.synced then (s, [])
  else
    let raw := rawPosition status.doorPosition
    let inferred := inferDoor status raw
    let targets := protocolTarget s status inferred
    let s₁ := { s with tracking := trackTransition s.tracking now inferred raw }
    let (s₂, updates) := resolveDoor s₁ now status inferred raw
    ({ s₂ with seen := { s₂.seen with lastLight := status.light } },
      targets ++ updates ++ [.notify (.light status.light)])

/-! ### `gdo_event_handler` -/

/-- `GDO_PAIRING_FAULT_TIMEOUT_MS` -/
def gdoPairingFaultTimeoutMs : ℤ := 15 * 60 * 1000

/-- The events that prove that an opener answered. -/
def GdoEvent.protocolEvidence : GdoEvent → Bool
  | .doorPosition | .light | .lock | .learn | .motor | .button | .motion | .openings | .ttc
  | .pairedDevices | .battery => true
  | _ => false

/-- The link after a failed sync. -/
def Link.syncFailed (k : Link) (now : ℤ) : Link :=
  let first := if k.syncRetryCount = 0 then now else k.syncFirstFailureMs
  { k with
    syncRetryCount := u32 (k.syncRetryCount + 1)
    syncFirstFailureMs := first
    gdoPairingFault := k.gdoPairingFault || decide (gdoPairingFaultTimeoutMs < now - first) }

/-- The jump of the rolling code after `count` failures in a row.  A count that has wrapped around to
0 gives a shift of `UINT32_MAX`, which C leaves undefined. -/
def rollingCodeJump (count : ℕ) : ℕ :=
  let shift := if 4 < count then 4 else u32 (count - 1)
  u32 (100 <<< shift : ℕ)

/-- `GDO_CB_EVENT_SYNCED` -/
def gdoEventSynced (s : Firmware) (now : ℤ) (status : GdoStatus) (rolling : EspErr) :
    Firmware × List Out :=
  if !status.synced then
    let link := s.link.syncFailed now
    let code := u32 (status.rollingCode + rollingCodeJump link.syncRetryCount)
    ({ s with link := link },
      .setRollingCode code :: (if rolling = .ok then [.sync] else []))
  else
    let s₁ := { s with
      link := { s.link with
        syncRetryCount := 0, syncFirstFailureMs := 0, gdoPairingFault := false } }
    let (s₂, out) := processDoorPosition s₁ now status
    (s₂, .saveSyncedProtocol status.protocol ::
      (if status.protocol = .secPlusV2 then
        [.saveRollingState status.clientId status.rollingCode] else []) ++ out)

/-- `GDO_CB_EVENT_OBSTRUCTION` -/
def gdoEventObstruction (s : Firmware) (status : GdoStatus) : Firmware × List Out :=
  let s₁ := if status.obstruction ≠ s.lastObstruction then
    { s.bump with lastObstruction := status.obstruction } else s
  (s₁, [.notify (.obstruction s₁.lastObstruction)])

/-- `GDO_CB_EVENT_MOTOR`: the motor starting shows the direction when the door was at an end. -/
def gdoEventMotor (s : Firmware) (now : ℤ) (status : GdoStatus) : Firmware × List Out :=
  if status.motor ≠ .on then (s, [])
  else
    let start (moving : DoorState) (tgt : TargetState) :=
      let (s₁, out) := setLastDoorState s now moving
      ({ s₁ with tracking := ⟨true, now, moving, rawPosition status.doorPosition⟩ },
        out ++ [.notify (.targetDoor tgt)])
    if s.lastDoor = .closed then start .opening .opened
    else if s.lastDoor = .opened then start .closing .closed
    -- which way a door starts from anywhere else cannot be told
    else (s, [])

/-- The head of `gdo_event_handler`: the first proof of the protocol is recorded. -/
def identifyProtocol (k : Link) (status : GdoStatus) (event : GdoEvent) : Link :=
  if (status.synced || event.protocolEvidence) && status.protocol.known then
    { k with gdoProtocolIdentified := true }
  else k

/-- The `switch` of `gdo_event_handler`. -/
def gdoEventSwitch (s : Firmware) (now : ℤ) (status : GdoStatus) (rolling : EspErr) :
    GdoEvent → Firmware × List Out
  | .synced => gdoEventSynced s now status rolling
  | .light => ({ s with seen := { s.seen with lastLight := status.light } },
      [.notify (.light status.light)])
  | .lock => ({ s with seen := { s.seen with lastLock := status.lock } },
      [.notify (.lock status.lock)])
  | .doorPosition => processDoorPosition s now status
  | .obstruction => gdoEventObstruction s status
  | .motion => ({ s with seen := { s.seen with lastMotion := status.motion } },
      [.notify (.motion status.motion)])
  | .button => (if status.button = .pressed then s.bump else s, [])
  | .motor => gdoEventMotor s now status
  | .learn => ({ s with seen := { s.seen with lastLearn := status.learn } },
      [.notify (.learn status.learn)])
  | _ => (s, [])

/-- `gdo_event_handler`; `rolling` is the driver's answer should it set the rolling code. -/
def gdoEventHandler (s : Firmware) (now : ℤ) (status : GdoStatus) (event : GdoEvent)
    (rolling : EspErr) : Firmware × List Out :=
  gdoEventSwitch { s with link := identifyProtocol s.link status event } now status rolling event

/-! ### What the driver's news can do -/

/-- The two open timers and the auto-close flag after `last_door` has become `d`. -/
inductive OpenTimers (s : Firmware) (now : ℤ) (d : DoorState) : ℤ → ℤ → Bool → Prop
  | arrived : d = .opened → OpenTimers s now d now now false
  | left : d ≠ .opened → s.lastDoor = .opened → OpenTimers s now d 0 0 false
  | away : d ≠ .opened → s.lastDoor ≠ .opened → OpenTimers s now d s.doorOpenSinceMs
      s.doorContinuouslyOpenSinceMs s.autoCloseTriggered

/-- All that the driver's news can do to the variables: change `last_door`, change
`last_obstruction` or report a button press, each with one bump of the generation, or only touch
what closing does not depend on. -/
inductive News (s : Firmware) (now : ℤ) : Firmware → Prop
  | view (a : Seen) (b : Link) (c : Tracking) :
      News s now { s with seen := a, link := b, tracking := c }
  | door (a : Seen) (b : Link) (c : Tracking) (d : DoorState) (since cont : ℤ) (trig : Bool)
      (hd : d ≠ s.lastDoor) (ht : OpenTimers s now d since cont trig) :
      News s now { s with
        seen := a, link := b, tracking := c, closeGeneration := s.closeGeneration + 1
        lastDoor := d, doorOpenSinceMs := since, doorContinuouslyOpenSinceMs := cont
        autoCloseTriggered := trig }
  | obstruction (a : Seen) (b : Link) (c : Tracking) (o : ObstructionState)
      (ho : o ≠ s.lastObstruction) :
      News s now { s with
        seen := a, link := b, tracking := c, closeGeneration := s.closeGeneration + 1
        lastObstruction := o }
  | button (a : Seen) (b : Link) (c : Tracking) :
      News s now { s with
        seen := a, link := b, tracking := c, closeGeneration := s.closeGeneration + 1 }

namespace News

variable {s s' : Firmware} {now : ℤ} {d : DoorState}

theorem view_after (h : News s now s') (a : Seen) (b : Link) (c : Tracking) :
    News s now { s' with seen := a, link := b, tracking := c } := by
  cases h with
  | view => exact .view a b c
  | door _ _ _ d since cont trig hd ht => exact .door a b c d since cont trig hd ht
  | obstruction _ _ _ o ho => exact .obstruction a b c o ho
  | button => exact .button a b c

theorem view_before (a : Seen) (b : Link) (c : Tracking)
    (h : News { s with seen := a, link := b, tracking := c } now s') : News s now s' := by
  cases h with
  | view a b c => exact .view a b c
  | door a b c d since cont trig hd ht =>
    refine .door a b c d since cont trig hd ?_
    cases ht with
    | arrived ho => exact .arrived ho
    | left ho hl => exact .left ho hl
    | away ho hl => exact .away ho hl
  | obstruction a b c o ho => exact .obstruction a b c o ho
  | button a b c => exact .button a b c

end News

section News

variable {s : Firmware} {now : ℤ} {d : DoorState}

/-- A change of `last_door`, as one update of the variables. -/
theorem setLastDoorState_of_ne (now : ℤ) (hd : d ≠ s.lastDoor) :
    ∃ since cont trig, OpenTimers s now d since cont trig ∧
      (setLastDoorState s now d).1 = { s with
        closeGeneration := s.closeGeneration + 1, lastDoor := d, doorOpenSinceMs := since
        doorContinuouslyOpenSinceMs := cont, autoCloseTriggered := trig } := by
  by_cases ho : d = .opened
  · subst ho
    exact ⟨_, _, _, .arrived rfl, by simp [setLastDoorState, bump, hd, Ne.symm hd]⟩
  · by_cases hl : s.lastDoor = .opened
    · exact ⟨_, _, _, .left ho hl, by simp [setLastDoorState, bump, ho, hl]⟩
    · exact ⟨_, _, _, .away ho hl, by simp [setLastDoorState, bump, hd, ho, hl]⟩

theorem setLastDoorState_news (hd : d ≠ s.lastDoor) : News s now (setLastDoorState s now d).1 := by
  obtain ⟨since, cont, trig, ht, he⟩ := setLastDoorState_of_ne now hd
  rw [he]
  exact .door s.seen s.link s.tracking d since cont trig hd ht

theorem resolveDoor_news (now : ℤ) (status : GdoStatus) (inferred : DoorState) (raw : ℕ) :
    News s now (resolveDoor s now status inferred raw).1 := by
  unfold resolveDoor
  split_ifs with h
  · exact setLastDoorState_news h.1
  · exact .view s.seen s.link s.tracking

theorem processDoorPosition_news (status : GdoStatus) :
    News s now (processDoorPosition s now status).1 := by
  unfold processDoorPosition
  split_ifs
  · exact .view s.seen s.link s.tracking
  · let raw := rawPosition status.doorPosition
    let inferred := inferDoor status raw
    have h := News.view_before (s := s) s.seen s.link (trackTransition s.tracking now inferred raw)
      (resolveDoor_news now status inferred raw)
    exact h.view_after _ _ _

theorem gdoEventSynced_news (status : GdoStatus) (rolling : EspErr) :
    News s now (gdoEventSynced s now status rolling).1 := by
  unfold gdoEventSynced
  by_cases h : status.synced = true
  · simp only [h, Bool.not_true, Bool.false_eq_true, ite_false]
    exact News.view_before s.seen _ s.tracking (processDoorPosition_news status)
  · simp only [h, Bool.not_false, ite_true]
    exact .view s.seen _ s.tracking

theorem gdoEventObstruction_news (status : GdoStatus) :
    News s now (gdoEventObstruction s status).1 := by
  unfold gdoEventObstruction
  split_ifs with h
  · exact .obstruction s.seen s.link s.tracking status.obstruction h
  · exact .view s.seen s.link s.tracking

theorem gdoEventMotor_news (status : GdoStatus) : News s now (gdoEventMotor s now status).1 := by
  unfold gdoEventMotor
  split_ifs with hm hc ho
  · exact .view s.seen s.link s.tracking
  · exact (setLastDoorState_news (by simp [hc])).view_after _ _ _
  · exact (setLastDoorState_news (by simp [ho])).view_after _ _ _
  · exact .view s.seen s.link s.tracking

/-- **What a call of the event handler can do.** -/
theorem gdoEventHandler_news (status : GdoStatus) (event : GdoEvent) (rolling : EspErr) :
    News s now (gdoEventHandler s now status event rolling).1 := by
  unfold gdoEventHandler
  refine News.view_before s.seen (identifyProtocol s.link status event) s.tracking ?_
  cases event with
  | synced => exact gdoEventSynced_news status rolling
  | doorPosition => exact processDoorPosition_news status
  | obstruction => exact gdoEventObstruction_news status
  | motor => exact gdoEventMotor_news status
  | button =>
    simp only [gdoEventSwitch]
    split_ifs
    · exact .button s.seen _ s.tracking
    · exact .view s.seen _ s.tracking
  | _ => exact .view _ _ _

theorem setLastDoorState_silent : Silent (setLastDoorState s now d).2 := Silent.nil.notify _

theorem targetOfMoving_silent (d : DoorState) : Silent (targetOfMoving d) := by
  cases d <;> first | exact Silent.nil.notify _ | exact .nil

theorem targetOfDriver_silent (doorTarget : ℤ) : Silent (targetOfDriver doorTarget) := by
  unfold targetOfDriver
  split_ifs
  · exact Silent.nil.notify _
  · exact Silent.nil.notify _
  · exact .nil

theorem protocolTarget_silent (status : GdoStatus) (inferred : DoorState) :
    Silent (protocolTarget s status inferred) := by
  unfold protocolTarget
  split
  · exact targetOfMoving_silent _
  · exact targetOfMoving_silent _
  · split_ifs
    · exact targetOfMoving_silent _
    · exact targetOfDriver_silent _
  · exact .nil

theorem jumpNotice_silent (lastDoor inferred : DoorState) :
    Silent (jumpNotice lastDoor inferred) := by
  unfold jumpNotice
  split_ifs
  · exact Silent.nil.notify _
  · exact Silent.nil.notify _
  · exact .nil

theorem targetOfResolved_silent (status : GdoStatus) (inferred : DoorState) (raw : ℕ) :
    Silent (targetOfResolved status inferred raw) := by
  unfold targetOfResolved
  split
  · exact Silent.nil.notify _
  · exact Silent.nil.notify _
  · split_ifs
    · exact Silent.nil.notify _
    · exact Silent.nil.notify _
    · exact .nil
  · exact .nil

theorem resolveDoor_silent (status : GdoStatus) (inferred : DoorState) (raw : ℕ) :
    Silent (resolveDoor s now status inferred raw).2 := by
  unfold resolveDoor
  split_ifs
  · exact ((jumpNotice_silent _ _).append setLastDoorState_silent).append
      (targetOfResolved_silent _ _ _)
  · exact .nil

theorem processDoorPosition_silent (status : GdoStatus) :
    Silent (processDoorPosition s now status).2 := by
  unfold processDoorPosition
  split_ifs
  · exact .nil
  · exact ((protocolTarget_silent _ _).append (resolveDoor_silent _ _ _)).append
      (Silent.nil.notify _)

theorem gdoEventSynced_silent (status : GdoStatus) (rolling : EspErr) :
    Silent (gdoEventSynced s now status rolling).2 := by
  unfold gdoEventSynced
  split_ifs with hsync hroll hproto
  · exact .cons (fun _ hc => hc) (.cons (fun _ hc => hc) .nil)
  · exact .cons (fun _ hc => hc) .nil
  · exact .cons (fun _ hc => hc)
      ((Silent.cons (o := .saveRollingState _ _) (fun _ hc => hc) .nil).append
        (processDoorPosition_silent _))
  · exact .cons (fun _ hc => hc) (processDoorPosition_silent _)

theorem gdoEventMotor_silent (status : GdoStatus) : Silent (gdoEventMotor s now status).2 := by
  unfold gdoEventMotor
  split_ifs
  · exact .nil
  · exact setLastDoorState_silent.append (Silent.nil.notify _)
  · exact setLastDoorState_silent.append (Silent.nil.notify _)
  · exact .nil

theorem gdoEventHandler_silent (status : GdoStatus) (event : GdoEvent) (rolling : EspErr) :
    Silent (gdoEventHandler s now status event rolling).2 := by
  unfold gdoEventHandler
  cases event with
  | synced => exact gdoEventSynced_silent status rolling
  | doorPosition => exact processDoorPosition_silent status
  | motor => exact gdoEventMotor_silent status
  | light | lock | obstruction | motion | learn => exact Silent.nil.notify _
  | _ => exact .nil

theorem gdoEventHandler_button {status : GdoStatus} (now : ℤ) (rolling : EspErr)
    (h : status.button = .pressed) :
    (gdoEventHandler s now status .button rolling).1.closeGeneration = s.closeGeneration + 1 := by
  simp [gdoEventHandler, gdoEventSwitch, h]

end News

end GdoBlaq
