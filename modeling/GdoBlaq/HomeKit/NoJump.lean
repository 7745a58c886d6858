import GdoBlaq.Control.Commands
import GdoBlaq.Control.Target
import GdoBlaq.HomeKit.Reoffer

/-!
# The door never jumps

The opener may send no frame between its two ends, so `process_door_position` pushes a moving state
before such a jump.  Motor starts, timed-out transitions, re-offers and the queue with its cache all
come between that and what HomeKit shows.  What the callback task and the watchdog do outside
`ControlGuard` is not taken apart here.

## Main results

* `World.step_leads` : the states that a step pushes lead from `last_door` to `last_door`, without a
  jump between the ends.
* `Hub.pushAll_leads` : and so do those that are queued.
* `current_door_never_jumps` : what HomeKit shows, in every run.
* `reoffer_between_jumps` : why a call of the event handler has to be one step for this.
-/

namespace GdoBlaq

open Firmware

/-! ### States in a row -/

/-- No jump between the two ends. -/
def DoorState.Smooth (d d' : DoorState) : Prop :=
  ¬ (d = .closed ∧ d' = .opened) ∧ ¬ (d = .opened ∧ d' = .closed)

instance : DecidableRel DoorState.Smooth := fun d d' =>
  inferInstanceAs (Decidable (¬ (d = .closed ∧ d' = .opened) ∧ ¬ (d = .opened ∧ d' = .closed)))

/-- The states `ds` come after `d`, without a jump, and end with `d'`. -/
inductive Leads : DoorState → List DoorState → DoorState → Prop
  | nil (d : DoorState) : Leads d [] d
  | cons {d d₁ d' : DoorState} {ds : List DoorState} (hd : d.Smooth d₁) (hds : Leads d₁ ds d') :
      Leads d (d₁ :: ds) d'

section

variable {d d₁ d' : DoorState} {ds ds' : List DoorState}

@[simp] theorem DoorState.smooth_self (d : DoorState) : d.Smooth d := by
  cases d <;> decide

theorem DoorState.smooth_of_moving (h : d.Moving) (d' : DoorState) : d.Smooth d' := by
  rcases h with rfl | rfl <;> simp [Smooth]

theorem Leads.one (h : d.Smooth d') : Leads d [d'] d' := .cons h (.nil d')

theorem Leads.append (h : Leads d ds d₁) (h' : Leads d₁ ds' d') : Leads d (ds ++ ds') d' := by
  induction h with
  | nil => exact h'
  | cons hd _ ih => exact .cons hd (ih h')

theorem Leads.getLast (h : Leads d ds d') : ds.getLast?.getD d = d' := by
  induction h with
  | nil => rfl
  | @cons d d₁ _ ds _ hds ih => rw [List.getLast?_cons, Option.getD_some, ih]

theorem Leads.isChain (h : Leads d ds d') : (d :: ds).IsChain DoorState.Smooth := by
  induction h with
  | nil d => exact .singleton d
  | cons hd _ ih => exact .cons_cons hd ih

end

/-! ### What a step of the door control pushes -/

/-- The door state that an output pushes. -/
def Out.door : Out → Option DoorState
  | .notify (.currentDoor d) => some d
  | _ => none

/-- The door states pushed by some outputs, in order. -/
def doorsOf (out : List Out) : List DoorState := out.filterMap Out.door

@[simp] theorem doorsOf_nil : doorsOf [] = [] := rfl

@[simp] theorem doorsOf_append (out out' : List Out) :
    doorsOf (out ++ out') = doorsOf out ++ doorsOf out' :=
  List.filterMap_append

section

variable {s : Firmware} {now fresh : ℤ} {d : DoorState} {status : GdoStatus}

@[simp] theorem doorsOf_setLastDoorState : doorsOf (setLastDoorState s now d).2 = [d] := rfl

@[simp] theorem doorsOf_targetOfMoving : doorsOf (targetOfMoving d) = [] := by
  cases d <;> rfl

@[simp] theorem doorsOf_targetOfDriver (doorTarget : ℤ) :
    doorsOf (targetOfDriver doorTarget) = [] := by
  unfold targetOfDriver
  split_ifs <;> rfl

@[simp] theorem doorsOf_protocolTarget : doorsOf (protocolTarget s status d) = [] := by
  unfold protocolTarget
  split
  · exact doorsOf_targetOfMoving
  · exact doorsOf_targetOfMoving
  · split_ifs
    · exact doorsOf_targetOfMoving
    · exact doorsOf_targetOfDriver _
  · rfl

@[simp] theorem doorsOf_targetOfResolved (raw : ℕ) :
    doorsOf (targetOfResolved status d raw) = [] := by
  unfold targetOfResolved
  cases d with
  | stopped =>
    simp only
    split_ifs <;> rfl
  | _ => rfl

theorem jumpNotice_leads (d d' : DoorState) : Leads d (doorsOf (jumpNotice d d') ++ [d']) d' := by
  unfold jumpNotice
  split_ifs with hopen hclose
  · obtain ⟨rfl, rfl⟩ := hopen
    exact .cons (by decide) (.one (by decide))
  · obtain ⟨rfl, rfl⟩ := hclose
    exact .cons (by decide) (.one (by decide))
  · exact .one ⟨hopen, hclose⟩

theorem resolveDoor_leads (raw : ℕ) :
    Leads s.lastDoor (doorsOf (resolveDoor s now status d raw).2)
      (resolveDoor s now status d raw).1.lastDoor := by
  unfold resolveDoor
  split_ifs
  · simp only [doorsOf_append, doorsOf_setLastDoorState, doorsOf_targetOfResolved, List.append_nil]
    exact jumpNotice_leads s.lastDoor d
  · exact .nil _

theorem processDoorPosition_leads :
    Leads s.lastDoor (doorsOf (processDoorPosition s now status).2)
      (processDoorPosition s now status).1.lastDoor := by
  unfold processDoorPosition
  split_ifs
  · exact .nil _
  · have hlight : doorsOf [.notify (.light status.light)] = [] := rfl
    let raw := rawPosition status.doorPosition
    let k := trackTransition s.tracking now (inferDoor status raw) raw
    simp only [doorsOf_append, doorsOf_protocolTarget, List.nil_append, hlight, List.append_nil]
    exact resolveDoor_leads (s := { s with tracking := k }) raw

theorem gdoEventSynced_leads (rolling : EspErr) :
    Leads s.lastDoor (doorsOf (gdoEventSynced s now status rolling).2)
      (gdoEventSynced s now status rolling).1.lastDoor := by
  unfold gdoEventSynced
  split_ifs
  · exact .nil _
  · exact .nil _
  all_goals
    let k : Link :=
      { s.link with syncRetryCount := 0, syncFirstFailureMs := 0, gdoPairingFault := false }
    exact processDoorPosition_leads (s := { s with link := k })

theorem gdoEventMotor_leads :
    Leads s.lastDoor (doorsOf (gdoEventMotor s now status).2)
      (gdoEventMotor s now status).1.lastDoor := by
  unfold gdoEventMotor
  split_ifs with hmotor hclosed hopened
  · exact .nil _
  · rw [hclosed]
    exact .one (by decide)
  · rw [hopened]
    exact .one (by decide)
  · exact .nil _

theorem gdoEventHandler_leads (event : GdoEvent) (rolling : EspErr) :
    Leads s.lastDoor (doorsOf (gdoEventHandler s now status event rolling).2)
      (gdoEventHandler s now status event rolling).1.lastDoor := by
  let k := identifyProtocol s.link status event
  unfold gdoEventHandler
  cases event with
  | synced => exact gdoEventSynced_leads (s := { s with link := k }) rolling
  | doorPosition => exact processDoorPosition_leads (s := { s with link := k })
  | motor => exact gdoEventMotor_leads (s := { s with link := k })
  | obstruction =>
    simp only [gdoEventSwitch, gdoEventObstruction]
    split_ifs <;> exact .nil _
  | button =>
    simp only [gdoEventSwitch]
    split_ifs <;> exact .nil _
  | _ => exact .nil _

/-- The transition check settles a door that was moving. -/
theorem watchdogTransition_leads (hs : Tracked s) (st recovery : Option GdoStatus) :
    Leads s.lastDoor (doorsOf (watchdogTransition s now fresh st recovery).2)
      (watchdogTransition s now fresh st recovery).1.lastDoor := by
  have hcorrect : ∀ d, s.tracking.doorInTransition = true → ∀ k out, doorsOf out = [] →
      Leads s.lastDoor (doorsOf ((correctLastDoor { s with tracking := k } fresh d).2 ++ out))
        (correctLastDoor { s with tracking := k } fresh d).1.lastDoor := by
    intro d hfollowed k out hout
    rw [doorsOf_append, hout, List.append_nil]
    unfold correctLastDoor
    split_ifs with hd
    · exact .one (DoorState.smooth_of_moving (hs.moving.1 hfollowed) d)
    · exact .nil _
  have htarget : ∀ (status : GdoStatus) d, doorsOf (correctTarget status d) = [] := by
    intro status d
    unfold correctTarget
    split
    · rfl
    · split_ifs <;> rfl
  have hrecovery : doorsOf (requestGdoStatusRecovery recovery) = [] := by
    unfold requestGdoStatusRecovery
    split
    · split_ifs <;> rfl
    · rfl
  unfold watchdogTransition
  split_ifs with hfollowed
  · exact .nil _
  · have hfollowed : s.tracking.doorInTransition = true := by simpa using hfollowed
    cases st with
    | none => exact .nil _
    | some status =>
      simp only
      split_ifs
      · exact .nil _
      · cases resolvedState status with
        | none => exact hcorrect _ hfollowed _ _ hrecovery
        | some resolved => exact hcorrect _ hfollowed _ _ (htarget status resolved)

end

section

variable {s : Firmware} {w w' : World} {r : Reply} {c : Call} {a : Action}

/-- The re-offer pushes `last_door`, if there is one. -/
theorem doorsOf_resend (s : Firmware) :
    doorsOf (resendLastStatesToHomekit s) = if s.lastDoor ≠ .max then [s.lastDoor] else [] := by
  have hoffer : ∀ (p : Prop) [Decidable p] (o : Out), o.door = none →
      doorsOf (if p then [o] else []) = [] := by
    intro p _ o ho
    split_ifs
    · simp [doorsOf, ho]
    · rfl
  simp only [resendLastStatesToHomekit, doorsOf_append]
  rw [hoffer _ (.notify (.light _)) rfl, hoffer _ (.notify (.lock _)) rfl,
    hoffer _ (.notify (.obstruction _)) rfl, hoffer _ (.notify (.motion _)) rfl]
  split_ifs <;> rfl

theorem doorsOf_of_commands {out : List Out} (h : Commands out) : doorsOf out = [] := by
  rw [doorsOf, List.filterMap_eq_nil_iff]
  intro o ho
  rcases h o ho with ⟨_, _, _, _, rfl⟩ | ⟨_, _, _, rfl⟩ | ⟨_, rfl⟩ <;> rfl

/-- **The states that a step pushes lead from `last_door` to `last_door`.** -/
theorem World.step_leads (h : w.step a = some (w', r)) (hs : Tracked w.fw)
    (hboot : a.call.isReboot = false) : Leads w.fw.lastDoor (doorsOf r.out) w'.fw.lastDoor := by
  have hperform := World.perform_of_step h
  have heff := World.perform_effect hperform
  cases hcall : a.call with
  | event status event rolling =>
    rw [hcall] at hperform
    obtain ⟨rfl, rfl⟩ := Prod.mk.inj (Option.some.inj hperform)
    exact gdoEventHandler_leads event rolling
  | watchdogTransition status recovery =>
    simp only [hcall, World.perform] at hperform
    split_ifs at hperform
    obtain ⟨rfl, rfl⟩ := Prod.mk.inj (Option.some.inj hperform)
    have htick : Tracked (w.tick a.t).fw := hs.congr rfl rfl
    exact watchdogTransition_leads htick status recovery
  | watchdogReoffer =>
    simp only [hcall, World.perform] at hperform
    split_ifs at hperform
    obtain ⟨rfl, rfl⟩ := Prod.mk.inj (Option.some.inj hperform)
    rw [doorsOf_resend]
    split_ifs
    · exact .one (DoorState.smooth_self _)
    · exact .nil _
  | _ =>
    have hnews : a.call.isNews = false := by rw [hcall]; rfl
    have hcommands := perform_commands hperform hnews (by simp [hcall])
    rw [doorsOf_of_commands hcommands, (heff.tracking hnews hboot).2]
    exact .nil _

end

/-! ### What becomes of the pushes -/

/-- The pushes of one kind that were queued, of those of a step. -/
def queuedIn {α : Type*} (kind : Notify → Option α) (ps : List (Notify × Push)) : List α :=
  ps.filterMap fun x => if x.2 = .queued then kind x.1 else none

@[simp] theorem queuedIn_nil {α : Type*} (kind : Notify → Option α) : queuedIn kind [] = [] := rfl

theorem doors_pushesOf (out : List Out) : (pushesOf out).filterMap Notify.door = doorsOf out := by
  rw [pushesOf, List.filterMap_filterMap, doorsOf]
  congr 1
  funext o
  cases o with
  | notify n => cases n <;> rfl
  | _ => rfl

namespace Hub

variable {h h' : Hub} {n : Notify} {ns : List Notify} {waits : List PushWait} {b : Bool} {p : Push}
  {c : HubCall} {r : HubReply} {α : Type*} {kind : Notify → Option α} {dest : HomeKitNotifDest}
  {enc : α → ℕ} {cache : Hub → α} {first : ℕ} {sent : List α}

@[simp] theorem drain_lastDoor (h : Hub) (k : ℕ) : (h.drain k).lastDoor = h.lastDoor := by
  obtain ⟨channel, he, -⟩ := h.drain_eq k
  rw [he]

theorem Delivered.lastDoor_of_none (hdel : Delivered h n b h' p) (hn : n.door = none) :
    h'.lastDoor = h.lastDoor := by
  cases hdel with
  | queued => cases n <;> simp_all [Notify.door, delivered, commit]
  | _ => rfl

theorem Delivered.door {d : DoorState} (hdel : Delivered h (.currentDoor d) b h' p)
    (hfit : p ≠ .refused) :
    (h.lastDoor = d ∧ p = .same ∧ h'.lastDoor = d) ∨ (p = .queued ∧ h'.lastDoor = d) := by
  cases hdel with
  | same hold => exact .inl ⟨hold.symm, rfl, hold.symm⟩
  | queued => exact .inr ⟨rfl, rfl⟩
  | refused => exact absurd rfl hfit
  | half hn | hidden hn => cases hn

/-- **What is queued of some states that lead on from the cache** leads on from the cache, to the
same end. -/
theorem pushAll_leads {d' : DoorState} (h : Hub) (waits : List PushWait)
    (hleads : Leads h.lastDoor (ns.filterMap Notify.door) d')
    (hfit : ∀ x ∈ (h.pushAll ns waits).2, x.1.door ≠ none → x.2 ≠ .refused) :
    Leads h.lastDoor (queuedIn Notify.door (h.pushAll ns waits).2) d' ∧
      (h.pushAll ns waits).1.lastDoor = d' := by
  induction ns generalizing h waits with
  | nil =>
    cases hleads
    exact ⟨.nil _, rfl⟩
  | cons n ns ih =>
    obtain ⟨b, h₁, p, hdel, he⟩ := h.pushAll_delivered n ns waits
    rw [he] at hfit ⊢
    obtain ⟨hfirst, hrest⟩ := List.forall_mem_cons.1 hfit
    rw [List.filterMap_cons] at hleads
    cases hn : n.door with
    | none =>
      rw [hn] at hleads
      have hcache := hdel.lastDoor_of_none hn
      rw [drain_lastDoor] at hcache
      rw [← hcache] at hleads ⊢
      have hnone : queuedIn Notify.door ((n, p) :: (h₁.pushAll ns waits.tail).2) =
          queuedIn Notify.door (h₁.pushAll ns waits.tail).2 := by simp [queuedIn, hn]
      rw [hnone]
      exact ih h₁ waits.tail hleads hrest
    | some d =>
      rw [hn] at hleads
      obtain rfl : n = .currentDoor d := by cases n <;> simp_all [Notify.door]
      obtain ⟨hd, hds⟩ : h.lastDoor.Smooth d ∧ Leads d (ns.filterMap Notify.door) d' := by
        cases hleads with
        | cons hd hds => exact ⟨hd, hds⟩
      rcases hdel.door (hfirst (by simp [Notify.door])) with ⟨hold, rfl, hcache⟩ | ⟨rfl, hcache⟩
      · rw [drain_lastDoor] at hold
        rw [hold]
        exact hcache ▸ ih h₁ waits.tail (hcache.symm ▸ hds) hrest
      · obtain ⟨hlater, hlast⟩ := ih h₁ waits.tail (hcache.symm ▸ hds) hrest
        exact ⟨.cons hd (hcache ▸ hlater), hlast⟩

/-! ### What the characteristic shows -/

theorem delivered_values (h : Hub) (n : Notify) :
    (h.delivered n).channel.values = h.channel.values := by
  cases n <;> rfl

theorem plays_delivered (hk : Deduplicates kind dest enc cache)
    (hplays : h.channel.Plays dest first (sent.map enc)) :
    (h.delivered n).channel.Plays dest first ((sent ++ (kind n).toList).map enc) := by
  cases hkind : kind n with
  | none =>
    have hnone : (n.events.filterMap fun e => if e.1 = dest then some e.2 else none) = [] := by
      rw [List.filterMap_eq_nil_iff]
      exact fun e he => if_neg ((hk.others n hkind).1 e he).symm
    rw [Option.toList_none, List.append_nil]
    refine hplays.congr (by rw [delivered_values]) ?_
    rw [pending_delivered, hnone, List.append_nil]
  | some x =>
    rw [Option.toList_some, List.map_append]
    refine (hplays.send (enc x)).congr (by rw [delivered_values, Channel.send_values]) ?_
    rw [pending_delivered, hk.events n x hkind, Channel.pending_send_self]
    simp

/-- **A step shows the next of what was queued, or queues one more.** -/
theorem Move.plays (hk : Deduplicates kind dest enc cache) (hmove : Move h c h' r)
    (hplays : h.channel.Plays dest first (sent.map enc)) :
    h'.channel.Plays dest first ((sent ++ queuedOf kind [⟨h, (c, r), h'⟩]).map enc) := by
  cases hmove with
  | @pushed _ n _ _ _ _ hcall hdel hpush =>
    cases hdel with
    | queued =>
      have hone : queuedOf kind [⟨h, (c, r), h.delivered n⟩] = (kind n).toList := by
        cases hkind : kind n <;> simp [queuedOf, hpush, hcall, hkind]
      rw [hone]
      exact plays_delivered hk hplays
    | half =>
      rw [queuedOf_single (by simp [hpush]), List.append_nil]
      exact hplays.congr rfl (Channel.pending_send_of_ne _ hk.queueOnly.1)
    | same | refused | hidden =>
      rw [queuedOf_single (by simp [hpush]), List.append_nil]
      exact hplays
  | @stored _ dest' _ _ hcall _ _ hpush =>
    rw [queuedOf_single (by simp [hpush]), List.append_nil]
    have hne : dest ≠ dest' := by
      obtain ⟨hlock, hlight, hlearn⟩ := hk.queueOnly
      cases c with
      | setLock _ err | setLight _ err | setLearn _ err =>
        cases err <;> simp_all [HubCall.stores]
      | _ => cases hcall
    exact hplays.congr (by simp [Channel.write, hne]) rfl
  | kept hcall _ hpush =>
    rw [queuedOf_single (by simp [hpush]), List.append_nil]
    exact hplays
  | identified | served =>
    rw [queuedOf_single (by simp), List.append_nil]
    exact hplays
  | consumed _ hreceive =>
    rw [queuedOf_single (by simp), List.append_nil]
    exact hplays.receive hreceive
  | ignored _ hdiscard hlearn =>
    rw [queuedOf_single (by simp), List.append_nil]
    refine hplays.discard hdiscard fun u hu hdest => hk.queueOnly.2.2 ?_
    rw [hu] at hlearn
    exact hdest.symm.trans (Option.some.inj hlearn)

/-- **In every run** a characteristic shows what was queued for it, in order. -/
theorem plays_of_trace (hk : Deduplicates kind dest enc cache) {es : List HubStep}
    (hrun : hub.toLTS.Trace h es h') (hplays : h.channel.Plays dest first (sent.map enc)) :
    h'.channel.Plays dest first ((sent ++ queuedOf kind es).map enc) := by
  refine hrun.history (I := fun es h' => h'.channel.Plays dest first
    ((sent ++ queuedOf kind es).map enc)) (by simpa [queuedOf] using hplays)
    fun pre e _ hst hi => ?_
  rw [queuedOf_append, ← List.append_assoc]
  exact (step_move hst).plays hk hi

theorem queuedOf_drain (kind : Notify → Option α) (h : Hub) (k : ℕ) :
    queuedOf kind (hub.edges h (List.replicate k .consume)) = [] := by
  refine List.filterMap_eq_nil_iff.2 fun e he => ?_
  have hcall : e.label.1 = .consume := List.eq_of_mem_replicate (hub.action_mem he)
  simp [hcall, HubCall.pushes]

theorem pushAll_run (kind : Notify → Option α) (h : Hub) (ns : List Notify)
    (waits : List PushWait) : ∃ es, hub.toLTS.Trace h es (h.pushAll ns waits).1 ∧
      queuedOf kind es = queuedIn kind (h.pushAll ns waits).2 := by
  induction ns generalizing h waits with
  | nil => exact ⟨[], .nil h, rfl⟩
  | cons n ns ih =>
    let wait := waits.headD {}
    rcases he : (h.drain wait.dequeues).notify n wait.mutexTaken with ⟨h₁, p⟩
    have hpush : hub.toLTS.Trace (h.drain wait.dequeues)
        [⟨_, (.notify n wait.mutexTaken, { push := some p }), h₁⟩] h₁ :=
      LTS.Trace.single (A := hub.toLTS) (by simp [hub, Machine.toLTS, step, he])
    obtain ⟨es, hrest, hqueued⟩ := ih h₁ waits.tail
    rw [pushAll_cons he]
    refine ⟨_, (h.drain_trace wait.dequeues).append (hpush.append hrest), ?_⟩
    rw [queuedOf_append, queuedOf_append, queuedOf_drain, hqueued]
    show queuedOf kind [_] ++ queuedIn kind _ = _
    by_cases hp : p = .queued
    · cases hkind : kind n <;> simp [queuedOf, queuedIn, HubCall.pushes, hp, hkind]
    · simp [queuedOf, queuedIn, hp]

end Hub

/-! ### Runs of the device -/

/-- The steps since the last boot. -/
def homeSinceBoot (es : List HomeStep) : List HomeStep :=
  es.foldl (fun past e => if e.label.1.isReboot then [] else past ++ [e]) []

/-- No push of a door state was refused. -/
def HomeReply.DoorFitted (r : HomeReply) : Prop :=
  ∀ x ∈ r.pushes, x.1.door ≠ none → x.2 ≠ .refused

instance : DecidablePred HomeReply.DoorFitted := fun r =>
  inferInstanceAs (Decidable (∀ x ∈ r.pushes, x.1.door ≠ none → x.2 ≠ .refused))

/-- The door states that were queued since the last boot, in order. -/
def queuedDoors (es : List HomeStep) : List DoorState :=
  (homeSinceBoot es).flatMap fun e => queuedIn Notify.door e.label.2.pushes

section

variable {s s' : Home} {es : List HomeStep} {e : HomeStep} {c : HomeCall} {r : HomeReply}

theorem homeSinceBoot_snoc (es : List HomeStep) (e : HomeStep) :
    homeSinceBoot (es ++ [e]) = if e.label.1.isReboot then [] else homeSinceBoot es ++ [e] := by
  simp [homeSinceBoot]

theorem queuedDoors_snoc (hboot : e.label.1.isReboot = false) :
    queuedDoors (es ++ [e]) = queuedDoors es ++ queuedIn Notify.door e.label.2.pushes := by
  simp [queuedDoors, homeSinceBoot_snoc, hboot]

theorem queuedDoors_reboot (hboot : e.label.1.isReboot = true) : queuedDoors (es ++ [e]) = [] := by
  simp [queuedDoors, homeSinceBoot_snoc, hboot]

/-- Between reboots a step of the device is a run of the HomeKit side that queues what is said to be
queued. -/
theorem hub_run_of_moves {α : Type*} (kind : Notify → Option α) (hmoves : Home.Moves s c s' r)
    (hboot : c.isReboot = false) :
    ∃ es, hub.toLTS.Trace s.hub es s'.hub ∧ queuedOf kind es = queuedIn kind r.pushes := by
  cases hmoves with
  | control => exact Hub.pushAll_run kind _ _ _
  | rebooted => simp [HomeCall.isReboot] at hboot
  | @homeKit c _ _ hown hst =>
    have hnone : c.pushes = none := by cases c <;> simp_all [HubCall.isOwn, HubCall.pushes]
    refine ⟨_, LTS.Trace.single (A := hub.toLTS) (l := (_, _)) hst, queuedOf_single ?_⟩
    simp [hnone]
  | doorWrite _ hturn =>
    cases hturn with
    | invalid | declined => exact ⟨_, Hub.drain_trace _ _, Hub.queuedOf_drain kind _ _⟩
    | @accepted tgt _ _ h p htgt _ _ hpush =>
      obtain ⟨_, hrest, hqueued⟩ :=
        Hub.pushAll_run kind s.hub [.targetDoor tgt] [_]
      rw [Hub.pushAll_cons hpush] at hrest hqueued
      exact ⟨_, hrest, hqueued⟩


/-- What holds of the door since the last boot. -/
structure DoorShown (es : List HomeStep) (s : Home) : Prop where
  tracked : Tracked s.world.fw
  plays : s.hub.channel.Plays .doorCurrentState 0 ((queuedDoors es).map mapGdoToHomekitState)
  leads : (∀ e ∈ homeSinceBoot es, e.label.2.DoorFitted) →
    Leads .max (queuedDoors es) s.world.fw.lastDoor ∧ s.hub.lastDoor = s.world.fw.lastDoor

theorem Home.Moves.tracked (hmoves : Home.Moves s c s' r) (hs : Tracked s.world.fw) :
    Tracked s'.world.fw := by
  cases hmoves with
  | control _ hst => exact hs.step hst
  | rebooted t reads setenvOk => exact Tracked.boot s.world.nvs reads setenvOk
  | homeKit => exact hs
  | doorWrite _ hturn =>
    cases hturn with
    | invalid => exact hs
    | declined _ hst | accepted _ hst => exact hs.step hst

theorem lastDoor_of_request {d : DoorWrite} {tgt : TargetState} {w : World} {r : Reply}
    (hst : s.world.step ⟨d.t, d.call tgt⟩ = some (w, r)) : w.fw.lastDoor = s.world.fw.lastDoor := by
  have heff := World.perform_effect (World.perform_of_step hst)
  have hnews : (d.call tgt).isNews = false := by cases tgt <;> rfl
  have hboot : (d.call tgt).isReboot = false := by cases tgt <;> rfl
  exact (heff.tracking hnews hboot).2

/-- **What a step does to `last_door` on either side**, if it is no reboot and no push of a door
state was refused. -/
theorem Home.Moves.leads (hmoves : Home.Moves s c s' r) (hs : Tracked s.world.fw)
    (hsame : s.hub.lastDoor = s.world.fw.lastDoor) (hfit : r.DoorFitted)
    (hboot : c.isReboot = false) :
    Leads s.world.fw.lastDoor (queuedIn Notify.door r.pushes) s'.world.fw.lastDoor ∧
      s'.hub.lastDoor = s'.world.fw.lastDoor := by
  cases hmoves with
  | @control a waits w r hcall hst =>
    have hleads := World.step_leads hst hs hcall
    rw [← doors_pushesOf, ← hsame] at hleads
    rw [← hsame]
    exact Hub.pushAll_leads s.hub waits hleads hfit
  | rebooted => simp [HomeCall.isReboot] at hboot
  | @homeKit c h r hown hst =>
    have hcache : h.lastDoor = s.hub.lastDoor := by
      have hmove := Hub.step_move hst
      cases hmove with
      | pushed hcall => cases c <;> simp_all [HubCall.isOwn, HubCall.pushes]
      | _ => rfl
    exact ⟨.nil _, hcache.trans hsame⟩
  | @doorWrite d _ _ _ hturn =>
    cases hturn with
    | invalid =>
      rw [Hub.drain_lastDoor]
      exact ⟨.nil _, hsame⟩
    | declined _ hst =>
      rw [Hub.drain_lastDoor, lastDoor_of_request hst]
      exact ⟨.nil _, hsame⟩
    | @accepted tgt _ _ _ p _ hst _ hpush =>
      have hdel := (s.hub.drain d.wait.dequeues).notify_delivered (.targetDoor tgt)
        d.wait.mutexTaken
      rw [hpush] at hdel
      have hcache := hdel.lastDoor_of_none rfl
      rw [Hub.drain_lastDoor] at hcache
      have hnone : queuedIn Notify.door [(Notify.targetDoor tgt, p)] = [] := by
        simp [queuedIn, Notify.door]
      rw [hnone, hcache, lastDoor_of_request hst]
      exact ⟨.nil _, hsame⟩

theorem boot_lastDoor (n : Nvs) (reads : NvsReads) (setenvOk : Bool) :
    (boot n reads setenvOk).lastDoor = .max := by
  obtain ⟨_, _, _, _, _, _, hboot⟩ := boot_eq (n := n) reads setenvOk
  rw [hboot]

theorem Home.Moves.booted (hmoves : Home.Moves s c s' r) (hboot : c.isReboot = true) :
    s'.world.fw.lastDoor = .max ∧ ∃ q m, s'.hub = Hub.init q m := by
  cases hmoves with
  | rebooted t reads setenvOk q m =>
    exact ⟨boot_lastDoor s.world.nvs reads setenvOk, q, m, rfl⟩
  | _ => cases hboot

/-- **In every run.** -/
theorem doorShown_of_trace {n : Nvs} {reads : NvsReads} {setenvOk : Bool} {t₀ : ℤ} {q m : Bool}
    (hrun : home.toLTS.Trace (Home.boot n reads setenvOk t₀ q m) es s) : DoorShown es s := by
  have hstart : ∀ q m, (Hub.init q m).channel.Plays .doorCurrentState 0
      (([] : List DoorState).map mapGdoToHomekitState) :=
    fun q m => Channel.Plays.start rfl HomeKitNotifDest.doorCurrentState
  refine hrun.history (I := DoorShown) ⟨Tracked.boot n reads setenvOk, hstart q m, fun _ => ?_⟩ ?_
  · have hdoor : (Home.boot n reads setenvOk t₀ q m).world.fw.lastDoor = .max :=
      boot_lastDoor n reads setenvOk
    rw [hdoor]
    exact ⟨.nil _, rfl⟩
  intro pre e _ hst hi
  have hmoves : Home.Moves e.src e.label.1 e.dst e.label.2 := Home.step_moves hst
  cases hboot : e.label.1.isReboot with
  | true =>
    obtain ⟨hdoor, q, m, hhub⟩ := hmoves.booted hboot
    refine ⟨hmoves.tracked hi.tracked, ?_, fun _ => ?_⟩
    · rw [queuedDoors_reboot hboot, hhub]
      exact hstart q m
    · rw [queuedDoors_reboot hboot, hhub, hdoor]
      exact ⟨.nil _, rfl⟩
  | false =>
    refine ⟨hmoves.tracked hi.tracked, ?_, fun hfit => ?_⟩
    · obtain ⟨es', hes', hqueued⟩ := hub_run_of_moves Notify.door hmoves hboot
      rw [queuedDoors_snoc hboot, ← hqueued]
      exact Hub.plays_of_trace deduplicates_door hes' hi.plays
    · rw [homeSinceBoot_snoc, if_neg (by simp [hboot])] at hfit
      obtain ⟨hpast, hsame⟩ := hi.leads fun e he => hfit e (List.mem_append_left _ he)
      obtain ⟨hmore, hsame'⟩ := hmoves.leads hi.tracked hsame (hfit e (by simp)) hboot
      rw [queuedDoors_snoc hboot]
      exact ⟨hpast.append hmore, hsame'⟩

/-- A change of the shown state between Open and Closed. -/
def Jump (v v' : ℕ) : Prop := v = 0 ∧ v' = 1 ∨ v = 1 ∧ v' = 0

instance : DecidableRel Jump := fun v v' =>
  inferInstanceAs (Decidable (v = 0 ∧ v' = 1 ∨ v = 1 ∧ v' = 0))

theorem not_jump_of_smooth {d d' : DoorState} (h : d.Smooth d') :
    ¬ Jump (mapGdoToHomekitState d) (mapGdoToHomekitState d') := by
  cases d <;> cases d' <;> simp_all [Jump, DoorState.Smooth, mapGdoToHomekitState]

/-- **HomeKit never sees the door jump.**  In every run in which, since the last boot, no push of a
door state was refused, the door states queued since lead to `last_door` without a jump between the
two ends, Current Door shows them in order, and the value that it is to show next is not the other
end of what it shows, unless it is the first since that boot.  A call of the event handler and a
transition check are one step each, so that no re-offer comes between the pushed moving state and
`set_last_door_state`. -/
theorem current_door_never_jumps {n : Nvs} {reads : NvsReads} {setenvOk : Bool} {t₀ : ℤ}
    {q m : Bool} (hrun : home.toLTS.Trace (Home.boot n reads setenvOk t₀ q m) es s)
    (hfit : ∀ e ∈ homeSinceBoot es, e.label.2.DoorFitted) :
    (queuedDoors es).IsChain DoorState.Smooth ∧
    (queuedDoors es).getLast?.getD .max = s.world.fw.lastDoor ∧
    s.hub.channel.Plays .doorCurrentState 0 ((queuedDoors es).map mapGdoToHomekitState) ∧
    ∀ v vs, s.hub.channel.pending .doorCurrentState = v :: vs →
      Jump (s.hub.channel.values .doorCurrentState) v →
        v :: vs = (queuedDoors es).map mapGdoToHomekitState := by
  obtain ⟨-, hplays, hleads⟩ := doorShown_of_trace hrun
  obtain ⟨hleads, -⟩ := hleads hfit
  refine ⟨hleads.isChain.tail, hleads.getLast, hplays, fun v vs hpending hjump => ?_⟩
  obtain ⟨done, hdone⟩ := hplays
  rw [hpending] at hdone
  cases done with
  | nil => exact (List.cons.inj hdone).2
  | cons _ done =>
    have hchain : ((queuedDoors es).map mapGdoToHomekitState).IsChain fun v v' => ¬ Jump v v' :=
      (List.isChain_map _).2 (hleads.isChain.tail.imp fun _ _ => not_jump_of_smooth)
    rw [← (List.cons.inj hdone).2] at hchain
    exact absurd hjump (List.isChain_append_cons_cons.1 hchain).2.1

/-- **A re-offer in between lets the door jump.**  Where it comes after the pushed moving state and
before `set_last_door_state`, the old end is pushed once more and the other end right after it. -/
theorem reoffer_between_jumps {s : Firmware} {now : ℤ} {d : DoorState}
    (hjump : ¬ s.lastDoor.Smooth d) :
    ¬ (doorsOf (jumpNotice s.lastDoor d ++ resendLastStatesToHomekit s ++
      (setLastDoorState s now d).2)).IsChain DoorState.Smooth := by
  have hmax : s.lastDoor ≠ .max := by
    intro h
    exact hjump (by simp [h, DoorState.Smooth])
  intro hchain
  rw [doorsOf_append, doorsOf_append, doorsOf_setLastDoorState, doorsOf_resend, if_pos hmax,
    List.append_assoc] at hchain
  exact hjump (List.isChain_append_cons_cons.1 hchain).2.1

/-- A closed door that the opener reports open with no frame in between, its motor after that, and
what HomeKit is shown. -/
def leapRun : List HomeCall :=
  homeServed ++ homeCalls [⟨1000, .event (.idle .closed 10000 10000) .doorPosition .ok⟩,
    ⟨9000, .event (.idle .opened 0 0) .doorPosition .ok⟩,
    ⟨20000, .event { GdoStatus.idle .opened 0 10000 with motor := .on } .motor .ok⟩]

theorem current_door_never_jumps_leap :
    queuedDoors (home.edges (Home.boot {} {} true 0 true true) leapRun) =
      [.closed, .opening, .opened, .closing] ∧
    (queuedDoors (home.edges (Home.boot {} {} true 0 true true) leapRun)).IsChain
      DoorState.Smooth :=
  ⟨by decide +kernel, (current_door_never_jumps (home.trace_edges _ _) (by decide +kernel)).1⟩

/-- The queue is full when the closed door is reported open, and empty at the next re-offer. -/
def refusedLeap : List HomeCall :=
  let st := GdoStatus.idle .closed 10000 10000
  homeCalls (⟨500, .event st .doorPosition .ok⟩ :: (List.range 29).map fun i =>
    ⟨500, .event { st with motion := if i % 2 = 0 then .detected else .clear } .motion .ok⟩) ++
    homeCalls [⟨9000, .event (.idle .opened 0 0) .doorPosition .ok⟩] ++ homeServed ++
    List.replicate 32 (.homeKit .consume) ++
    homeCalls (watchdogTick 9500 (.idle .opened 0 0))

/-- **A refused push lets the door jump.** -/
theorem refused_push_jumps :
    ∃ es s, home.toLTS.Trace (Home.boot {} {} true 0 true true) es s ∧
      queuedDoors es = [.closed, .opened] ∧
      s.hub.channel.values .doorCurrentState = 1 ∧
      s.hub.channel.pending .doorCurrentState = [0] :=
  ⟨_, _, home.trace_edges _ refusedLeap, by decide +kernel, by decide +kernel, by decide +kernel⟩

end

end GdoBlaq
