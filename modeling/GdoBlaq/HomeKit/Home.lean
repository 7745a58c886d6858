import GdoBlaq.Control.World
import GdoBlaq.HomeKit.Delivery

/-!
# The whole device

The door control and the HomeKit side as one machine.  What a piece of the door control pushes
reaches the HomeKit side in order and within the same step, also where the source pushes without the
lock; a write of the Home app to Target Door State is a door request first and a push after it.  In
the time that a push may wait the consumer can take events, which is an argument of the push.

## Main results

* `home` : the machine of both sides.
* `Home.step_moves` : what a step does to either side.
* `home_trace_world`, `home_trace_hub` : a run of the device is a run of each side.
-/

namespace GdoBlaq

/-! ### Data -/

/-- The push that an output is. -/
def Out.push : Out → Option Notify
  | .notify n => some n
  | _ => none

/-- The pushes among some outputs, in order. -/
def pushesOf (out : List Out) : List Notify := out.filterMap Out.push

/-- What happens around a push. -/
structure PushWait where
  /-- How many events the consumer takes before it, if there are so many. -/
  dequeues : ℕ := 0
  /-- `target_enqueue_mutex` is had in time. -/
  mutexTaken : Bool := true
  deriving DecidableEq, Repr

/-- One write to Target Door State, with all that its turn of `gdo_svc_set` meets. -/
structure DoorWrite where
  value : ℕ
  t : ℤ
  /-- The driver's answer to `gdo_door_open()`. -/
  err : EspErr := .ok
  /-- The status that `gdo_control_close` reads, and its allocation and task. -/
  status : Option GdoStatus := none
  start : TaskStart := {}
  wait : PushWait := {}
  deriving DecidableEq

/-- The device. -/
structure Home where
  world : World
  hub : Hub

/-- A step of the device. -/
inductive HomeCall where
  /-- A step of the door control that is no reboot, with the waits of its pushes. -/
  | control (a : Action) (waits : List PushWait)
  /-- A reboot; `homekit_notif_queue_init` may fail. -/
  | reboot (t : ℤ) (reads : NvsReads) (setenvOk notifEventQ targetEnqueueMutex : Bool)
  /-- A step of the HomeKit task, or a write to another characteristic. -/
  | homeKit (c : HubCall)
  | doorWrite (d : DoorWrite)
  deriving DecidableEq

/-- What a step answers and does, what it pushed with what became of it, and the status of a
write. -/
structure HomeReply where
  control : Reply := {}
  pushes : List (Notify × Push) := []
  status : Option HapStatus := none
  command : Option OpenerCommand := none
  deriving DecidableEq, Repr

instance : Inhabited HomeReply := ⟨{}⟩

/-! ### Steps -/

/-- The calls of the HomeKit side that the door control has no part in. -/
def HubCall.isOwn : HubCall → Bool
  | .notify _ _ | .setTargetDoor _ _ _ => false
  | _ => true

namespace Hub

/-- The consumer takes `k` events, or as many as there are. -/
def drain (h : Hub) (k : ℕ) : Hub := hub.last h (List.replicate k .consume)

/-- Some pushes, in order, with what became of each. -/
def pushAll (h : Hub) : List Notify → List PushWait → Hub × List (Notify × Push)
  | [], _ => (h, [])
  | n :: ns, waits =>
    let wait := waits.headD {}
    let (h, p) := (h.drain wait.dequeues).notify n wait.mutexTaken
    let (h, ps) := h.pushAll ns waits.tail
    (h, (n, p) :: ps)

end Hub

/-- The request that a write to Target Door State makes. -/
def DoorWrite.call (d : DoorWrite) : TargetState → Call
  | .opened => .controlOpen d.err
  | .closed => .controlClose d.status d.start

namespace Home

/-- The device right after `app_main`. -/
def boot (n : Nvs) (reads : NvsReads) (setenvOk : Bool) (t : ℤ)
    (notifEventQ targetEnqueueMutex : Bool) :
    Home :=
  ⟨World.boot n reads setenvOk t, Hub.init notifEventQ targetEnqueueMutex⟩

/-- The request of a write, if its value names a target. -/
def request (w : World) (d : DoorWrite) : Option (World × Reply) :=
  match TargetState.ofValue d.value with
  | some tgt => w.step ⟨d.t, d.call tgt⟩
  | none => some (w, {})

/-- One turn of the loop of `gdo_svc_set`, for a write to Target Door State. -/
def svcTurn (s : Home) (d : DoorWrite) : Option (Home × HomeReply) :=
  (request s.world d).map fun (w, r) =>
    let (h, push, status) :=
      (s.hub.drain d.wait.dequeues).setTargetDoor d.value r.err d.wait.mutexTaken
    (⟨w, h⟩,
      { control := r
        pushes := ((TargetState.ofValue d.value).map Notify.targetDoor).toList.zip push.toList
        status := some status })

/-- A step of the device; `none` where it cannot happen. -/
def step (s : Home) : HomeCall → Option (Home × HomeReply)
  | .control a waits =>
    if a.call.isReboot then none
    else
      (s.world.step a).map fun (w, r) =>
        let (h, ps) := s.hub.pushAll (pushesOf r.out) waits
        (⟨w, h⟩, { control := r, pushes := ps })
  | .reboot t reads setenvOk notifEventQ targetEnqueueMutex =>
    (s.world.step ⟨t, .reboot reads setenvOk⟩).map fun (w, r) =>
      (⟨w, Hub.init notifEventQ targetEnqueueMutex⟩, { control := r })
  | .homeKit c =>
    if c.isOwn then
      (s.hub.step c).map fun (h, r) =>
        (⟨s.world, h⟩, { status := r.status, command := r.command })
    else none
  | .doorWrite d => if s.hub.phase = .serving then s.svcTurn d else none

end Home

/-- The device as a machine. -/
def home : Machine Home HomeCall HomeReply := ⟨Home.step⟩

/-- Steps of the door control whose pushes find everything as it is. -/
def homeCalls (as : List Action) : List HomeCall := as.map fun a => .control a []

/-- The HomeKit task comes to run. -/
def homeServed : List HomeCall :=
  [.homeKit (.identify (some .secPlusV2) true true), .homeKit .serve]

/-- A step of a run, with the devices around it. -/
abbrev HomeStep := LTS.Edge Home (HomeCall × HomeReply)

/-! ### What a step does -/

namespace Hub

variable {h h' : Hub} {c : HubCall} {r : HubReply}

theorem drain_trace (h : Hub) (k : ℕ) :
    hub.toLTS.Trace h (hub.edges h (List.replicate k .consume)) (h.drain k) :=
  hub.trace_edges h _

theorem notify_trace (h : Hub) (n : Notify) (mutexTaken : Bool) :
    ∃ es, hub.toLTS.Trace h es (h.notify n mutexTaken).1 :=
  ⟨_, LTS.Trace.single (A := hub.toLTS)
    (l := (.notify n mutexTaken, { push := some (h.notify n mutexTaken).2 })) rfl⟩

theorem pushAll_cons {h h₁ : Hub} {n : Notify} {waits : List PushWait} {p : Push}
    (hpush : (h.drain (waits.headD {}).dequeues).notify n (waits.headD {}).mutexTaken = (h₁, p))
    (ns : List Notify) : h.pushAll (n :: ns) waits =
      ((h₁.pushAll ns waits.tail).1, (n, p) :: (h₁.pushAll ns waits.tail).2) := by
  simp only [pushAll, hpush]

theorem pushAll_delivered (h : Hub) (n : Notify) (ns : List Notify) (waits : List PushWait) :
    ∃ b h₁ p, Delivered (h.drain (waits.headD {}).dequeues) n b h₁ p ∧
      h.pushAll (n :: ns) waits =
        ((h₁.pushAll ns waits.tail).1, (n, p) :: (h₁.pushAll ns waits.tail).2) :=
  ⟨_, _, _, notify_delivered _ n (waits.headD {}).mutexTaken, pushAll_cons rfl ns⟩

theorem pushAll_trace (h : Hub) (ns : List Notify) (waits : List PushWait) :
    ∃ es, hub.toLTS.Trace h es (h.pushAll ns waits).1 := by
  induction ns generalizing h waits with
  | nil => exact ⟨[], .nil h⟩
  | cons n ns ih =>
    let wait := waits.headD {}
    obtain ⟨_, hpush⟩ := (h.drain wait.dequeues).notify_trace n wait.mutexTaken
    rcases he : (h.drain wait.dequeues).notify n wait.mutexTaken with ⟨h₁, p⟩
    rw [he] at hpush
    obtain ⟨_, hrest⟩ := ih h₁ waits.tail
    rw [pushAll_cons he]
    exact ⟨_, (h.drain_trace wait.dequeues).append (hpush.append hrest)⟩

theorem drain_eq (h : Hub) (k : ℕ) : ∃ channel, h.drain k = { h with channel := channel } ∧
    channel.queue.length ≤ h.channel.queue.length := by
  refine (h.drain_trace k).invariant (I := fun h' => ∃ channel, h' = { h with channel := channel } ∧
    channel.queue.length ≤ h.channel.queue.length) ⟨_, rfl, le_rfl⟩ fun e he hst hi => ?_
  obtain ⟨channel, hsrc, hlen⟩ := hi
  have hcall : e.label.1 = .consume := List.eq_of_mem_replicate (hub.action_mem he)
  have hmove : Move e.src e.label.1 e.dst e.label.2 := step_move hst
  rw [hcall] at hmove
  generalize e.dst = h', e.label.2 = r at hmove ⊢
  cases hmove with
  | pushed hpush | stored hpush => cases hpush
  | kept => exact ⟨channel, hsrc, hlen⟩
  | consumed _ hreceive =>
    rw [hsrc] at hreceive
    exact ⟨_, by rw [hsrc], (Channel.length_receive hreceive).trans hlen⟩
  | ignored _ hdiscard =>
    rw [hsrc] at hdiscard
    exact ⟨_, by rw [hsrc], (Channel.length_discard _ hdiscard).trans hlen⟩

@[simp] theorem drain_holds (h : Hub) (k : ℕ) (n : Notify) : (h.drain k).Holds n ↔ h.Holds n := by
  obtain ⟨channel, he, -⟩ := h.drain_eq k
  rw [he]
  cases n <;> rfl

@[simp] theorem drain_lastTarget (h : Hub) (k : ℕ) : (h.drain k).lastTarget = h.lastTarget := by
  obtain ⟨channel, he, -⟩ := h.drain_eq k
  rw [he]

end Hub

namespace Home

variable {s s' : Home} {d : DoorWrite} {c : HomeCall} {r : HomeReply}

/-- What a write to Target Door State can come to. -/
inductive Turned (s : Home) (d : DoorWrite) : Home → HomeReply → Prop
  /-- The value names no target. -/
  | invalid (htgt : TargetState.ofValue d.value = none) :
      Turned s d ⟨s.world, s.hub.drain d.wait.dequeues⟩ { status := some .valInvalid }
  /-- `gdo_control_open` or `gdo_control_close` failed. -/
  | declined {tgt : TargetState} {w : World} {r : Reply}
      (htgt : TargetState.ofValue d.value = some tgt)
      (hst : s.world.step ⟨d.t, d.call tgt⟩ = some (w, r)) (herr : r.err ≠ .ok) :
      Turned s d ⟨w, s.hub.drain d.wait.dequeues⟩ { control := r, status := some .commErr }
  /-- It was accepted, and the target is pushed. -/
  | accepted {tgt : TargetState} {w : World} {r : Reply} {h : Hub} {p : Push}
      (htgt : TargetState.ofValue d.value = some tgt)
      (hst : s.world.step ⟨d.t, d.call tgt⟩ = some (w, r)) (herr : r.err = .ok)
      (hpush : (s.hub.drain d.wait.dequeues).notify (.targetDoor tgt) d.wait.mutexTaken = (h, p)) :
      Turned s d ⟨w, h⟩
        { control := r
          pushes := [(.targetDoor tgt, p)]
          status := some (if p = .refused then .commErr else .success) }

theorem svcTurn_turned (h : s.svcTurn d = some (s', r)) : Turned s d s' r := by
  unfold svcTurn request at h
  cases htgt : TargetState.ofValue d.value with
  | none =>
    simp only [htgt, Option.map_some, Hub.setTargetDoor] at h
    obtain ⟨rfl, rfl⟩ := Prod.mk.inj (Option.some.inj h)
    exact .invalid htgt
  | some tgt =>
    simp only [htgt] at h
    obtain ⟨⟨w, r'⟩, hst, he⟩ := Option.map_eq_some_iff.1 h
    simp only [Hub.setTargetDoor, htgt] at he
    by_cases herr : r'.err = .ok
    · rw [if_pos herr] at he
      obtain ⟨rfl, rfl⟩ := Prod.mk.inj he
      exact .accepted htgt hst herr rfl
    · rw [if_neg herr] at he
      obtain ⟨rfl, rfl⟩ := Prod.mk.inj he
      exact .declined htgt hst herr

/-- All that a step can do. -/
inductive Moves (s : Home) : HomeCall → Home → HomeReply → Prop
  | control {a : Action} {waits : List PushWait} {w : World} {r : Reply}
      (hboot : a.call.isReboot = false) (hst : s.world.step a = some (w, r)) :
      Moves s (.control a waits) ⟨w, (s.hub.pushAll (pushesOf r.out) waits).1⟩
        { control := r, pushes := (s.hub.pushAll (pushesOf r.out) waits).2 }
  | rebooted (t : ℤ) (reads : NvsReads) (setenvOk q m : Bool) :
      Moves s (.reboot t reads setenvOk q m)
        ⟨{ World.boot s.world.nvs reads setenvOk t with nextTask := s.world.nextTask },
          Hub.init q m⟩ {}
  | homeKit {c : HubCall} {h : Hub} {r : HubReply} (hown : c.isOwn = true)
      (hst : s.hub.step c = some (h, r)) :
      Moves s (.homeKit c) ⟨s.world, h⟩ { status := r.status, command := r.command }
  | doorWrite {d : DoorWrite} {s' : Home} {r : HomeReply} (hserving : s.hub.phase = .serving)
      (hturn : Turned s d s' r) : Moves s (.doorWrite d) s' r

/-- **What a step can do.** -/
theorem step_moves (h : s.step c = some (s', r)) : Moves s c s' r := by
  cases c with
  | control a waits =>
    simp only [step] at h
    split_ifs at h with hboot
    obtain ⟨⟨w, r'⟩, hst, he⟩ := Option.map_eq_some_iff.1 h
    obtain ⟨rfl, rfl⟩ := Prod.mk.inj he
    exact .control (by simpa using hboot) hst
  | reboot t reads setenvOk q m =>
    simp only [step, World.step_reboot, Option.map_some] at h
    obtain ⟨rfl, rfl⟩ := Prod.mk.inj (Option.some.inj h)
    exact .rebooted t reads setenvOk q m
  | homeKit c =>
    simp only [step] at h
    split_ifs at h with hown
    obtain ⟨⟨h', r'⟩, hst, he⟩ := Option.map_eq_some_iff.1 h
    obtain ⟨rfl, rfl⟩ := Prod.mk.inj he
    exact .homeKit hown hst
  | doorWrite d =>
    simp only [step] at h
    split_ifs at h with hserving
    exact .doorWrite hserving (svcTurn_turned h)

end Home

/-! ### Runs -/

section

variable {s s' : Home} {es : List HomeStep}

theorem Home.Turned.trace_world {d : DoorWrite} {r : HomeReply} (h : Home.Turned s d s' r) :
    ∃ es, control.toLTS.Trace s.world es s'.world := by
  cases h with
  | invalid => exact ⟨[], .nil _⟩
  | declined _ hst | accepted _ hst =>
    exact ⟨_, LTS.Trace.single (A := control.toLTS) (l := (_, _)) hst⟩

/-- **A run of the device is a run of the door control.** -/
theorem home_trace_world (hrun : home.toLTS.Trace s es s') :
    ∃ es', control.toLTS.Trace s.world es' s'.world := by
  refine hrun.invariant (I := fun s' => ∃ es', control.toLTS.Trace s.world es' s'.world)
    ⟨[], .nil _⟩ fun e _ hst ⟨es', hes⟩ => ?_
  have hmoves : Home.Moves e.src e.label.1 e.dst e.label.2 := Home.step_moves hst
  suffices hmore : ∃ es', control.toLTS.Trace e.src.world es' e.dst.world by
    obtain ⟨es'', hes'⟩ := hmore
    exact ⟨_, hes.append hes'⟩
  generalize e.label.1 = c, e.label.2 = r, e.dst = s'' at hmoves ⊢
  cases hmoves with
  | control _ hst => exact ⟨_, LTS.Trace.single (A := control.toLTS) (l := (_, _)) hst⟩
  | rebooted t reads setenvOk q m =>
    exact ⟨_, LTS.Trace.single (A := control.toLTS) (l := (_, _))
      (World.step_reboot e.src.world t reads setenvOk)⟩
  | homeKit => exact ⟨[], .nil _⟩
  | doorWrite _ hturn => exact hturn.trace_world

/-- **A run of the device is, since its last boot, a run of the HomeKit side.** -/
theorem home_trace_hub {n : Nvs} {reads : NvsReads} {setenvOk : Bool} {t₀ : ℤ} {q m : Bool}
    (hrun : home.toLTS.Trace (Home.boot n reads setenvOk t₀ q m) es s) :
    ∃ q m es', hub.toLTS.Trace (Hub.init q m) es' s.hub := by
  refine hrun.invariant (I := fun s => ∃ q m es', hub.toLTS.Trace (Hub.init q m) es' s.hub)
    ⟨q, m, [], .nil _⟩ fun e _ hst ⟨q, m, es', hes⟩ => ?_
  have hmoves : Home.Moves e.src e.label.1 e.dst e.label.2 := Home.step_moves hst
  generalize e.label.1 = c, e.label.2 = r, e.dst = s'' at hmoves ⊢
  -- what a step that is no reboot adds
  have hmore : ∀ h, (∃ es', hub.toLTS.Trace e.src.hub es' h) →
      ∃ q m es', hub.toLTS.Trace (Hub.init q m) es' h :=
    fun h ⟨_, hes'⟩ => ⟨q, m, _, hes.append hes'⟩
  cases hmoves with
  | control => exact hmore _ (Hub.pushAll_trace _ _ _)
  | rebooted _ _ _ q m => exact ⟨q, m, [], .nil _⟩
  | homeKit _ hst => exact hmore _ ⟨_, LTS.Trace.single (A := hub.toLTS) (l := (_, _)) hst⟩
  | doorWrite _ hturn =>
    refine hmore _ ?_
    cases hturn with
    | invalid | declined => exact ⟨_, Hub.drain_trace _ _⟩
    | @accepted tgt _ _ _ _ _ _ _ hpush =>
      obtain ⟨_, hes'⟩ := Hub.notify_trace (e.src.hub.drain _) (.targetDoor tgt) _
      rw [hpush] at hes'
      exact ⟨_, (Hub.drain_trace _ _).append hes'⟩

end

end GdoBlaq
