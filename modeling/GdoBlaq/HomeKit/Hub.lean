import GdoBlaq.Driver
import GdoBlaq.Lts.Channel
import GdoBlaq.Lts.Machine

/-!
# The HomeKit side

The notification queue of `homekit.cpp`, the caches that its producers deduplicate with, the
characteristics that its consumer writes, and the write callbacks of the Home app.

`hap_char_update_val` on a characteristic that exists stores the value; until the HomeKit task has
created the characteristics they are kept here with the values they are created with.  A producer
waits up to 20 ms for room in the queue or for the mutex: what the consumer does meanwhile are steps
before the push, and whether the mutex was had in time is an argument.

## Main results

* `hub` : the machine of the queue, its producers, its consumer and the writes.
* `Hub.notify_delivered`, `Hub.step_move` : what a push and a step can do, as inductive statements.
-/

namespace GdoBlaq

/-! ### Data -/

/-- `HomeKitNotifDest`, one for each characteristic that is pushed. -/
inductive HomeKitNotifDest where
  | doorCurrentState
  | doorTargetState
  | lockCurrentState
  | lockTargetState
  | obstruction
  | light
  | motion
  | learn
  deriving DecidableEq, Repr

/-- The status that a write callback gives a write. -/
inductive HapStatus where
  | success
  | commErr
  | valInvalid
  deriving DecidableEq, Repr

/-- `map_gdo_to_homekit_state` -/
def mapGdoToHomekitState : DoorState → ℕ
  | .opened => 0
  | .closed => 1
  | .opening => 2
  | .closing => 3
  | _ => 4

/-- The value of `TGT_OPEN` and `TGT_CLOSED`. -/
def TargetState.value : TargetState → ℕ
  | .opened => 0
  | .closed => 1

/-- The target that a write asks for. -/
def TargetState.ofValue : ℕ → Option TargetState
  | 0 => some .opened
  | 1 => some .closed
  | _ => none

/-- The value of both lock characteristics for a reported lock: anything but unlocked is secured. -/
def LockState.value (lock : LockState) : ℕ := if lock = .unlocked then 0 else 1

def ObstructionState.value (state : ObstructionState) : ℕ := if state = .obstructed then 1 else 0

def LightState.value (light : LightState) : ℕ := if light = .on then 1 else 0

def MotionState.value (motion : MotionState) : ℕ := if motion = .clear then 0 else 1

def LearnState.value (learn : LearnState) : ℕ := if learn = .active then 1 else 0

/-- How far `homekit_task_entry` has got. -/
inductive HubPhase where
  /-- It waits for the protocol to be identified. -/
  | waiting
  | identified
  /-- The services exist and the consumer loop runs. -/
  | serving
  deriving DecidableEq, Repr

/-- The file-scope variables of `homekit.cpp` and the characteristics. -/
structure Hub where
  /-- `gdo_notif_event_q` exists. -/
  notifEventQ : Bool := true
  /-- `target_enqueue_mutex` exists. -/
  targetEnqueueMutex : Bool := true
  phase : HubPhase := .waiting
  learnSupported : Bool := true
  /-- The queue, and the values of the characteristics. -/
  channel : Channel HomeKitNotifDest ℕ := ⟨[], fun _ => 0⟩
  lastLight : LightState := .max
  lastLock : LockState := .max
  lastDoor : DoorState := .max
  lastMotion : MotionState := .max
  lastObstruction : ObstructionState := .max
  lastLearn : LearnState := .max
  /-- `none` is `HOMEKIT_TARGET_UNKNOWN`. -/
  lastTarget : Option TargetState := none

/-- What became of a push. -/
inductive Push where
  /-- Equal to the cache: nothing to do. -/
  | same
  | queued
  /-- Of the two events of a lock report only the first was queued. -/
  | half
  /-- No room in the queue, or the mutex was not had. -/
  | refused
  /-- There is no tile for it. -/
  | hidden
  deriving DecidableEq, Repr

namespace Hub

/-! ### Producers -/

/-- The number of slots of the queue. -/
def notifEventSlots : ℕ := 32

/-- `gdo_notif_event_q && xQueueSend(gdo_notif_event_q, &e, ...) == pdTRUE` -/
def xQueueSend (h : Hub) (dest : HomeKitNotifDest) (value : ℕ) : Option Hub :=
  if h.notifEventQ ∧ h.channel.queue.length < notifEventSlots then
    some { h with channel := h.channel.send dest value }
  else none

/-- The body of a `notify_homekit_*` function: nothing if the cache has the value already, else
queue it, and commit it to the cache only if that worked. -/
def offer {α : Type*} [DecidableEq α] (h : Hub) (cache new : α)
    (dest : HomeKitNotifDest) (value : ℕ)
    (commit : Hub → Hub) : Hub × Push :=
  if new = cache then (h, .same)
  else
    match h.xQueueSend dest value with
    | some h => (commit h, .queued)
    | none => (h, .refused)

/-- `queue_homekit_target`, which is `true` unless the push was refused. -/
def queueHomekitTarget (h : Hub) (tgt : TargetState) (mutexTaken : Bool) : Hub × Push :=
  if !h.targetEnqueueMutex ∨ !mutexTaken then (h, .refused)
  else h.offer h.lastTarget (some tgt) .doorTargetState tgt.value
    fun h => { h with lastTarget := some tgt }

/-- `notify_homekit_target_door_state_change` -/
def notifyHomekitTargetDoorStateChange (h : Hub) (tgt : TargetState)
    (mutexTaken : Bool) : Hub × Push :=
  h.queueHomekitTarget tgt mutexTaken

/-- `notify_homekit_current_door_state_change` -/
def notifyHomekitCurrentDoorStateChange (h : Hub) (door : DoorState) : Hub × Push :=
  h.offer h.lastDoor door .doorCurrentState (mapGdoToHomekitState door)
    fun h => { h with lastDoor := door }

/-- `notify_homekit_light` -/
def notifyHomekitLight (h : Hub) (light : LightState) : Hub × Push :=
  h.offer h.lastLight light .light light.value fun h => { h with lastLight := light }

/-- `notify_homekit_learn` -/
def notifyHomekitLearn (h : Hub) (learn : LearnState) : Hub × Push :=
  if !h.learnSupported then (h, .hidden)
  else h.offer h.lastLearn learn .learn learn.value fun h => { h with lastLearn := learn }

/-- `notify_homekit_obstruction` -/
def notifyHomekitObstruction (h : Hub) (state : ObstructionState) : Hub × Push :=
  h.offer h.lastObstruction state .obstruction state.value
    fun h => { h with lastObstruction := state }

/-- `notify_homekit_current_lock`: the target first, then the current state, and one cache for
both. -/
def notifyHomekitCurrentLock (h : Hub) (lock : LockState) : Hub × Push :=
  if lock = h.lastLock then (h, .same)
  else
    match h.xQueueSend .lockTargetState lock.value with
    | none => (h, .refused)
    | some h =>
      match h.xQueueSend .lockCurrentState lock.value with
      | some h => ({ h with lastLock := lock }, .queued)
      -- the target stays queued
      | none => (h, .half)

/-- `notify_homekit_motion` -/
def notifyHomekitMotion (h : Hub) (motion : MotionState) : Hub × Push :=
  h.offer h.lastMotion motion .motion motion.value fun h => { h with lastMotion := motion }

/-- One of the `notify_homekit_*` functions. -/
def notify (h : Hub) (n : Notify) (mutexTaken : Bool) : Hub × Push :=
  match n with
  | .currentDoor door => h.notifyHomekitCurrentDoorStateChange door
  | .targetDoor tgt => h.notifyHomekitTargetDoorStateChange tgt mutexTaken
  | .light light => h.notifyHomekitLight light
  | .lock lock => h.notifyHomekitCurrentLock lock
  | .obstruction state => h.notifyHomekitObstruction state
  | .motion motion => h.notifyHomekitMotion motion
  | .learn learn => h.notifyHomekitLearn learn

/-! ### The HomeKit task -/

/-- `learn_supported`, once the wait for the protocol is over; `none` is a timeout.  Then
`homekit_notif_queue_init` once more, for what could not be created the first time. -/
def identify (h : Hub) (protocol : Option Protocol) (queueCreated mutexCreated : Bool) : Hub :=
  { h with
    phase := .identified
    learnSupported := protocol = some .secPlusV2
    notifEventQ := h.notifEventQ || queueCreated
    targetEnqueueMutex := h.targetEnqueueMutex || mutexCreated }

/-- One turn of the consumer loop.  There may be no Learn tile to update. -/
def consume (h : Hub) : Option Hub :=
  let ignored : Bool := h.channel.queue.head?.map Prod.fst = some .learn ∧ !h.learnSupported
  (if ignored then h.channel.discard else h.channel.receive).map fun c => { h with channel := c }

/-! ### Writes of the Home app -/

/-- One write to Target Door State in `gdo_svc_set`: `err` is what `gdo_control_open` or
`gdo_control_close` answered. -/
def setTargetDoor (h : Hub) (value : ℕ) (err : EspErr) (mutexTaken : Bool) :
    Hub × Option Push × HapStatus :=
  match TargetState.ofValue value with
  | none => (h, none, .valInvalid)
  | some tgt =>
    if err = .ok then
      let (h, push) := h.queueHomekitTarget tgt mutexTaken
      (h, some push, if push = .refused then .commErr else .success)
    else (h, none, .commErr)

end Hub

/-- The commands of `gdolib` that a write may send at once. -/
inductive OpenerCommand where
  | lock
  | unlock
  | lightOn
  | lightOff
  | activateLearn
  | deactivateLearn
  deriving DecidableEq, Repr

/-- What became of a push, the status of a write, and the command that it sent. -/
structure HubReply where
  push : Option Push := none
  status : Option HapStatus := none
  command : Option OpenerCommand := none
  deriving DecidableEq, Repr

instance : Inhabited HubReply := ⟨{}⟩

namespace Hub

/-- A write that the opener is told of at once: the value is stored if `gdolib` takes the
command. -/
def setAccepted (h : Hub) (dest : HomeKitNotifDest) (value : ℕ) (command : OpenerCommand)
    (err : EspErr) : Hub × HubReply :=
  if err = .ok then
    ({ h with channel := h.channel.write dest value },
      { status := some .success, command := some command })
  else (h, { status := some .commErr, command := some command })

/-- One write to Lock Target State in `gdo_svc_set`. -/
def setLock (h : Hub) (value : ℕ) (err : EspErr) : Hub × HubReply :=
  h.setAccepted .lockTargetState value (if value = 1 then .lock else .unlock) err

/-- One write in `light_svc_set`. -/
def lightSvcSet (h : Hub) (on : Bool) (err : EspErr) : Hub × HubReply :=
  h.setAccepted .light on.toNat (if on then .lightOn else .lightOff) err

/-- `learn_svc_set` -/
def learnSvcSet (h : Hub) (enable : Bool) (err : EspErr) : Hub × HubReply :=
  h.setAccepted .learn enable.toNat (if enable then .activateLearn else .deactivateLearn) err

end Hub

/-! ### The machine -/

/-- A step on the HomeKit side, with what it reads from outside. -/
inductive HubCall where
  | notify (n : Notify) (mutexTaken : Bool)
  /-- A write to Target Door State. -/
  | setTargetDoor (value : ℕ) (err : EspErr) (mutexTaken : Bool)
  /-- A write to Lock Target State, answered by `gdo_lock` or `gdo_unlock`. -/
  | setLock (value : ℕ) (err : EspErr)
  /-- `light_svc_set` -/
  | setLight (on : Bool) (err : EspErr)
  /-- `learn_svc_set` -/
  | setLearn (enable : Bool) (err : EspErr)
  | identify (protocol : Option Protocol) (queueCreated mutexCreated : Bool)
  | serve
  /-- The consumer takes an event. -/
  | consume
  deriving DecidableEq

/-- The writes that are stored at once if they are accepted: the characteristic and the value. -/
def HubCall.stores : HubCall → Option (HomeKitNotifDest × ℕ)
  | .setLock value .ok => some (.lockTargetState, value)
  | .setLight on .ok => some (.light, on.toNat)
  | .setLearn enable .ok => some (.learn, enable.toNat)
  | _ => none

/-- The push that a step makes, and whether it had the mutex. -/
def HubCall.pushes : HubCall → Option (Notify × Bool)
  | .notify n mutexTaken => some (n, mutexTaken)
  | .setTargetDoor value .ok mutexTaken =>
    (TargetState.ofValue value).map fun tgt => (.targetDoor tgt, mutexTaken)
  | _ => none

namespace Hub

/-- What a step does; `none` where it cannot happen yet. -/
def step (h : Hub) : HubCall → Option (Hub × HubReply)
  | .notify n mutexTaken =>
    let (h, push) := h.notify n mutexTaken
    some (h, { push := some push })
  | .setTargetDoor value err mutexTaken =>
    if h.phase = .serving then
      let (h, push, status) := h.setTargetDoor value err mutexTaken
      some (h, { push := push, status := some status })
    else none
  | .setLock value err => if h.phase = .serving then some (h.setLock value err) else none
  | .setLight on err => if h.phase = .serving then some (h.lightSvcSet on err) else none
  | .setLearn enable err =>
    if h.phase = .serving ∧ h.learnSupported then some (h.learnSvcSet enable err) else none
  | .identify protocol queueCreated mutexCreated =>
    if h.phase = .waiting then some (h.identify protocol queueCreated mutexCreated, {}) else none
  | .serve => if h.phase = .identified then some ({ h with phase := .serving }, {}) else none
  | .consume => if h.phase = .serving then h.consume.map fun h => (h, {}) else none

end Hub

/-- The HomeKit side as a machine. -/
def hub : Machine Hub HubCall HubReply := ⟨Hub.step⟩

/-- A step of a run, with the HomeKit sides around it. -/
abbrev HubStep := LTS.Edge Hub (HubCall × HubReply)

/-- The HomeKit side right after `homekit_notif_queue_init`, which may have failed. -/
def Hub.init (notifEventQ targetEnqueueMutex : Bool) : Hub :=
  { notifEventQ := notifEventQ, targetEnqueueMutex := targetEnqueueMutex }

/-! ### What a push can do -/

/-- The events of a push. -/
def Notify.events : Notify → List (HomeKitNotifDest × ℕ)
  | .currentDoor door => [(.doorCurrentState, mapGdoToHomekitState door)]
  | .targetDoor tgt => [(.doorTargetState, tgt.value)]
  | .light state => [(.light, state.value)]
  | .lock state => [(.lockTargetState, state.value), (.lockCurrentState, state.value)]
  | .obstruction state => [(.obstruction, state.value)]
  | .motion state => [(.motion, state.value)]
  | .learn state => [(.learn, state.value)]

namespace Hub

variable {h h' : Hub} {n : Notify} {p : Push}

/-- The cache has what is pushed. -/
def Holds (h : Hub) : Notify → Prop
  | .currentDoor door => door = h.lastDoor
  | .targetDoor tgt => some tgt = h.lastTarget
  | .light light => light = h.lastLight
  | .lock lock => lock = h.lastLock
  | .obstruction state => state = h.lastObstruction
  | .motion motion => motion = h.lastMotion
  | .learn learn => learn = h.lastLearn

/-- The cache takes over what is pushed. -/
def commit (h : Hub) : Notify → Hub
  | .currentDoor door => { h with lastDoor := door }
  | .targetDoor tgt => { h with lastTarget := some tgt }
  | .light light => { h with lastLight := light }
  | .lock lock => { h with lastLock := lock }
  | .obstruction state => { h with lastObstruction := state }
  | .motion motion => { h with lastMotion := motion }
  | .learn learn => { h with lastLearn := learn }

/-- Nothing stands in the way of the push: there is a queue with room for all its events, and for a
Target the mutex was had. -/
structure Admits (h : Hub) (n : Notify) (mutexTaken : Bool) : Prop where
  queue : h.notifEventQ = true
  room : h.channel.queue.length + n.events.length ≤ notifEventSlots
  mutex : ∀ tgt, n = .targetDoor tgt → h.targetEnqueueMutex = true ∧ mutexTaken = true

/-- The queue and the cache after a push that was queued as a whole. -/
def delivered (h : Hub) (n : Notify) : Hub :=
  { h.commit n with channel := n.events.foldl (fun c e => c.send e.1 e.2) h.channel }

/-- All that a push can do. -/
inductive Delivered (h : Hub) (n : Notify) (mutexTaken : Bool) : Hub → Push → Prop
  | same (hold : h.Holds n) : Delivered h n mutexTaken h .same
  | queued (hnew : ¬ h.Holds n)
      (hroom : h.channel.queue.length + n.events.length ≤ notifEventSlots) :
      Delivered h n mutexTaken (h.delivered n) .queued
  /-- A lock report found a single slot. -/
  | half {lock : LockState} (hn : n = .lock lock) (hnew : ¬ h.Holds n)
      (hslot : h.notifEventQ = true ∧ h.channel.queue.length + 1 = notifEventSlots) :
      Delivered h n mutexTaken
        { h with channel := h.channel.send .lockTargetState lock.value } .half
  | refused (hwhy : ¬ h.Admits n mutexTaken) (hfull : (∀ tgt, n ≠ .targetDoor tgt) →
      ¬ h.Holds n ∧ ¬ (h.notifEventQ = true ∧ h.channel.queue.length < notifEventSlots)) :
      Delivered h n mutexTaken h .refused
  | hidden {learn : LearnState} (hn : n = .learn learn) (hoff : h.learnSupported = false) :
      Delivered h n mutexTaken h .hidden

theorem xQueueSend_cases (h : Hub) (dest : HomeKitNotifDest) (value : ℕ) :
    (h.notifEventQ = true ∧ h.channel.queue.length < notifEventSlots ∧
      h.xQueueSend dest value = some { h with channel := h.channel.send dest value }) ∨
    (¬ (h.notifEventQ = true ∧ h.channel.queue.length < notifEventSlots) ∧
      h.xQueueSend dest value = none) := by
  unfold xQueueSend
  split_ifs with hroom
  · exact .inl ⟨hroom.1, hroom.2, rfl⟩
  · exact .inr ⟨hroom, rfl⟩

theorem offer_delivered {α : Type*} [DecidableEq α] {cache new : α} {dest : HomeKitNotifDest}
    {value : ℕ} {commit : Hub → Hub} (mutexTaken : Bool) (hn : n.events = [(dest, value)])
    (hold : h.Holds n ↔ new = cache)
    (hcommit : commit { h with channel := h.channel.send dest value } = h.delivered n) :
    Delivered h n mutexTaken (h.offer cache new dest value commit).1
      (h.offer cache new dest value commit).2 := by
  unfold offer
  split_ifs with hsame
  · exact .same (hold.2 hsame)
  · rcases h.xQueueSend_cases dest value with ⟨-, hlt, he⟩ | ⟨hfull, he⟩
    · rw [he]
      simp only [hcommit]
      exact .queued (mt hold.1 hsame) (by rw [hn, List.length_singleton]; exact hlt)
    · rw [he]
      refine .refused (fun hadm => hfull ⟨hadm.queue, ?_⟩) fun _ => ⟨mt hold.1 hsame, hfull⟩
      have hlen := hadm.room
      rw [hn, List.length_singleton] at hlen
      omega

theorem notifyHomekitCurrentLock_delivered (lock : LockState) (mutexTaken : Bool) :
    Delivered h (.lock lock) mutexTaken (h.notifyHomekitCurrentLock lock).1
      (h.notifyHomekitCurrentLock lock).2 := by
  unfold notifyHomekitCurrentLock
  split_ifs with hsame
  · exact .same hsame
  rcases h.xQueueSend_cases .lockTargetState lock.value with ⟨hq, hlt, he⟩ | ⟨hfull, he⟩
  · rw [he]
    rcases xQueueSend_cases { h with channel := h.channel.send .lockTargetState lock.value }
      .lockCurrentState lock.value with ⟨-, hlt', he'⟩ | ⟨hfull', he'⟩
    · simp only [he']
      simp only [Channel.send_queue, List.length_append, List.length_singleton] at hlt'
      exact .queued hsame (by simp only [Notify.events, List.length_cons, List.length_nil]; omega)
    · simp only [he']
      simp only [hq, true_and, Channel.send_queue, List.length_append,
      List.length_singleton] at hfull'
      exact .half rfl hsame ⟨hq, by omega⟩
  · rw [he]
    refine .refused (fun hadm => hfull ⟨hadm.queue, ?_⟩) fun _ => ⟨hsame, hfull⟩
    have hlen := hadm.room
    simp only [Notify.events, List.length_cons, List.length_nil] at hlen
    omega

/-- **What a push can do.** -/
theorem notify_delivered (h : Hub) (n : Notify) (mutexTaken : Bool) :
    Delivered h n mutexTaken (h.notify n mutexTaken).1 (h.notify n mutexTaken).2 := by
  cases n with
  | lock lock => exact notifyHomekitCurrentLock_delivered lock mutexTaken
  | targetDoor tgt =>
    simp only [notify, notifyHomekitTargetDoorStateChange, queueHomekitTarget]
    split_ifs with hmutex
    · refine .refused ?_ fun hne => absurd rfl (hne tgt)
      intro hadm
      have hhad := hadm.mutex tgt rfl
      simp [hhad] at hmutex
    · exact offer_delivered mutexTaken rfl Iff.rfl rfl
  | learn learn =>
    simp only [notify, notifyHomekitLearn]
    split_ifs with hoff
    · exact .hidden rfl (by simpa using hoff)
    · exact offer_delivered mutexTaken rfl Iff.rfl rfl
  | _ => exact offer_delivered mutexTaken rfl Iff.rfl rfl

theorem holds_delivered (h : Hub) (n : Notify) : (h.delivered n).Holds n := by
  cases n <;> rfl

/-- **An admitted push** is queued if it is new, and skipped if not. -/
theorem Delivered.of_admits {mutexTaken : Bool} (hdel : Delivered h n mutexTaken h' p)
    (hadm : h.Admits n mutexTaken) (htile : ∀ learn, n = .learn learn → h.learnSupported = true) :
    (h.Holds n ∧ p = .same ∧ h' = h) ∨ (¬ h.Holds n ∧ p = .queued ∧ h' = h.delivered n) := by
  cases hdel with
  | same hold => exact .inl ⟨hold, rfl, rfl⟩
  | queued hnew => exact .inr ⟨hnew, rfl, rfl⟩
  | half hn _ hslot =>
    have hlen := hadm.room
    rw [hn] at hlen
    simp only [Notify.events, List.length_cons, List.length_nil] at hlen
    omega
  | refused hwhy => exact absurd hadm hwhy
  | hidden hn hoff => exact absurd (htile _ hn) (by simp [hoff])

/-! ### What a step can do -/

/-- All that a step can do. -/
inductive Move (h : Hub) : HubCall → Hub → HubReply → Prop
  | pushed {c : HubCall} {n : Notify} {mutexTaken : Bool} {h' : Hub} {p : Push} {r : HubReply}
      (hcall : c.pushes = some (n, mutexTaken)) (hdel : Delivered h n mutexTaken h' p)
      (hpush : r.push = some p) : Move h c h' r
  | stored {c : HubCall} {dest : HomeKitNotifDest} {value : ℕ} {r : HubReply}
      (hcall : c.stores = some (dest, value)) (hserving : h.phase = .serving)
      (hlearn : dest = .learn → h.learnSupported = true) (hpush : r.push = none) :
      Move h c { h with channel := h.channel.write dest value } r
  /-- A write that was refused. -/
  | kept {c : HubCall} {r : HubReply} (hcall : c.pushes = none) (hstore : c.stores = none)
      (hpush : r.push = none) : Move h c h r
  | identified {protocol : Option Protocol} {queueCreated mutexCreated : Bool}
      (hphase : h.phase = .waiting) :
      Move h (.identify protocol queueCreated mutexCreated)
        (h.identify protocol queueCreated mutexCreated) {}
  | served (hphase : h.phase = .identified) : Move h .serve { h with phase := .serving } {}
  | consumed {channel : Channel HomeKitNotifDest ℕ} (hphase : h.phase = .serving)
      (hreceive : h.channel.receive = some channel) :
      Move h .consume { h with channel := channel } {}
  | ignored {channel : Channel HomeKitNotifDest ℕ} (hphase : h.phase = .serving)
      (hdiscard : h.channel.discard = some channel)
      (hlearn : h.channel.queue.head?.map Prod.fst = some .learn)
      (hoff : h.learnSupported = false) :
      Move h .consume { h with channel := channel } {}

theorem Move.ofSetTargetDoor (value : ℕ) (err : EspErr) (mutexTaken : Bool) :
    let res := h.setTargetDoor value err mutexTaken
    Move h (.setTargetDoor value err mutexTaken) res.1
      { push := res.2.1, status := some res.2.2 } := by
  simp only [setTargetDoor]
  cases htgt : TargetState.ofValue value with
  | none =>
    refine .kept ?_ rfl rfl
    cases err <;> simp [HubCall.pushes, htgt]
  | some tgt =>
    split_ifs with herr
    · subst herr
      have hdel := h.notify_delivered (.targetDoor tgt) mutexTaken
      exact .pushed (by simp [HubCall.pushes, htgt]) hdel rfl
    · refine .kept ?_ rfl rfl
      cases err <;> simp_all [HubCall.pushes]

theorem Move.ofSetAccepted {c : HubCall} {dest : HomeKitNotifDest} {value : ℕ}
    {command : OpenerCommand} {err : EspErr} (hserving : h.phase = .serving)
    (hlearn : dest = .learn → h.learnSupported = true) (hpush : c.pushes = none)
    (hok : err = .ok → c.stores = some (dest, value)) (herr : err ≠ .ok → c.stores = none) :
    Move h c (h.setAccepted dest value command err).1 (h.setAccepted dest value command err).2 := by
  unfold setAccepted
  split_ifs with he
  · exact .stored (hok he) hserving hlearn rfl
  · exact .kept hpush (herr he) rfl

theorem Move.ofConsume (hphase : h.phase = .serving) (hc : h.consume = some h') :
    Move h .consume h' {} := by
  simp only [consume] at hc
  split_ifs at hc with hignored
  · obtain ⟨channel, hdiscard, rfl⟩ := Option.map_eq_some_iff.1 hc
    simp only [Bool.not_eq_true', decide_eq_true_eq] at hignored
    exact .ignored hphase hdiscard hignored.1 hignored.2
  · obtain ⟨channel, hreceive, rfl⟩ := Option.map_eq_some_iff.1 hc
    exact .consumed hphase hreceive

/-- **What a step can do.** -/
theorem step_move {c : HubCall} {r : HubReply} (hst : h.step c = some (h', r)) : Move h c h' r := by
  have hpair : ∀ x : Hub × HubReply, some x = some (h', r) → x.1 = h' ∧ x.2 = r := by
    rintro x hx
    obtain rfl := Option.some.inj hx
    exact ⟨rfl, rfl⟩
  cases c with
  | notify n mutexTaken =>
    obtain ⟨rfl, rfl⟩ := hpair _ hst
    exact .pushed rfl (h.notify_delivered n mutexTaken) rfl
  | setTargetDoor value err mutexTaken =>
    simp only [step] at hst
    split_ifs at hst
    obtain ⟨rfl, rfl⟩ := hpair _ hst
    exact .ofSetTargetDoor value err mutexTaken
  | setLock value err =>
    simp only [step] at hst
    split_ifs at hst with hserving
    obtain ⟨rfl, rfl⟩ := hpair _ hst
    exact .ofSetAccepted hserving (by simp) rfl (fun he => he ▸ rfl)
      (by cases err <;> simp [HubCall.stores])
  | setLight on err =>
    simp only [step] at hst
    split_ifs at hst with hserving
    obtain ⟨rfl, rfl⟩ := hpair _ hst
    exact .ofSetAccepted hserving (by simp) rfl (fun he => he ▸ rfl)
      (by cases err <;> simp [HubCall.stores])
  | setLearn enable err =>
    simp only [step] at hst
    split_ifs at hst with hserving
    obtain ⟨rfl, rfl⟩ := hpair _ hst
    exact .ofSetAccepted hserving.1 (fun _ => hserving.2) rfl (fun he => he ▸ rfl)
      (by cases err <;> simp [HubCall.stores])
  | identify protocol queueCreated mutexCreated =>
    simp only [step] at hst
    split_ifs at hst with hphase
    obtain ⟨rfl, rfl⟩ := hpair _ hst
    exact .identified hphase
  | serve =>
    simp only [step] at hst
    split_ifs at hst with hphase
    obtain ⟨rfl, rfl⟩ := hpair _ hst
    exact .served hphase
  | consume =>
    simp only [step] at hst
    split_ifs at hst with hphase
    obtain ⟨x, hx, he⟩ := Option.map_eq_some_iff.1 hst
    obtain ⟨rfl, rfl⟩ := Prod.mk.inj he
    exact .ofConsume hphase hx

end Hub

end GdoBlaq
