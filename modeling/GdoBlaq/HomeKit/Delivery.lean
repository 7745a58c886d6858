import GdoBlaq.HomeKit.Hub

/-!
# Delivery to HomeKit

Several tasks push into one queue, the push may fail at any time, and the caches move exactly with
the admission.  So the cache of a characteristic that only the queue writes is what HomeKit will
show, and the events of one characteristic come out in the order in which their values were
accepted.

## Main results

* `Hub.Agrees` and `Hub.Move.agrees_iff` : which steps keep a cache in agreement with HomeKit.
* `ordered_delivery` : what holds of the queue in every run.
-/

namespace GdoBlaq

namespace Hub

variable {h h' : Hub} {dest : HomeKitNotifDest} {c : HubCall} {r : HubReply}

/-- The value of a cache that is not at its sentinel. -/
def known {α : Type*} [DecidableEq α] (sentinel : α) (value : α → ℕ) (cache : α) : Option ℕ :=
  if cache = sentinel then none else some (value cache)

/-- The value that the cache of a characteristic stands for, if it is not the sentinel. -/
def cached (h : Hub) : HomeKitNotifDest → Option ℕ
  | .doorCurrentState => known .max mapGdoToHomekitState h.lastDoor
  | .doorTargetState => h.lastTarget.map TargetState.value
  | .lockCurrentState | .lockTargetState => known .max LockState.value h.lastLock
  | .obstruction => known .max ObstructionState.value h.lastObstruction
  | .light => known .max LightState.value h.lastLight
  | .motion => known .max MotionState.value h.lastMotion
  | .learn => known .max LearnState.value h.lastLearn

theorem known_eq_some {α : Type*} [DecidableEq α] {sentinel cache : α} {value : α → ℕ} {x : ℕ}
    (hx : known sentinel value cache = some x) : x = value cache := by
  unfold known at hx
  split_ifs at hx
  exact (Option.some.inj hx).symm

/-- The cache stands for what HomeKit will show once the queue has been worked off. -/
def Agrees (h : Hub) (dest : HomeKitNotifDest) : Prop :=
  (dest = .learn → h.learnSupported = true) →
    ∀ v, h.cached dest = some v → h.channel.view dest = v

/-- The characteristics that only the queue writes, and only whole pushes. -/
def QueueOnly (dest : HomeKitNotifDest) : Prop :=
  dest ≠ .lockTargetState ∧ dest ≠ .light ∧ dest ≠ .learn

/-- The step goes past the queue or pushes half: a write that no queued event overtakes, a lock
report that finds a single slot. -/
def Disagrees (h : Hub) (c : HubCall) (dest : HomeKitNotifDest) (value : ℕ) : Prop :=
  (c.stores = some (dest, value) ∧ h.channel.pending dest = []) ∨
    ∃ lock m, c.pushes = some (.lock lock, m) ∧ ¬ h.Holds (.lock lock) ∧
      h.notifEventQ = true ∧ h.channel.queue.length + 1 = notifEventSlots ∧
      dest = .lockTargetState ∧ value = lock.value

theorem view_delivered {n : Notify} {value : ℕ} (hn : (dest, value) ∈ n.events) :
    (h.delivered n).channel.view dest = value := by
  cases n with
  | lock lock =>
    simp only [Notify.events, List.mem_cons, Prod.mk.injEq, List.not_mem_nil, or_false] at hn
    rcases hn with ⟨rfl, rfl⟩ | ⟨rfl, rfl⟩
    · show ((h.channel.send .lockTargetState _).send .lockCurrentState _).view _ = _
      rw [Channel.view_send_of_ne _ (by simp), Channel.view_send_self]
    · exact Channel.view_send_self _
  | _ =>
    simp only [Notify.events, List.mem_singleton, Prod.mk.injEq] at hn
    obtain ⟨rfl, rfl⟩ := hn
    exact Channel.view_send_self _

theorem view_delivered_of_ne {n : Notify} (hn : ∀ e ∈ n.events, dest ≠ e.1) :
    (h.delivered n).channel.view dest = h.channel.view dest := by
  have hfold : ∀ us : List (HomeKitNotifDest × ℕ), (∀ e ∈ us, dest ≠ e.1) →
      ∀ ch : Channel HomeKitNotifDest ℕ,
        (us.foldl (fun c e => c.send e.1 e.2) ch).view dest = ch.view dest := by
    intro us hus
    induction us with
    | nil => exact fun _ => rfl
    | cons e us ih =>
      intro ch
      rw [List.foldl_cons, ih fun e he => hus e (List.mem_cons_of_mem _ he)]
      exact ch.view_send_of_ne (hus e List.mem_cons_self)
  exact hfold n.events hn h.channel

theorem cached_delivered {n : Notify} {value x : ℕ} (hn : (dest, value) ∈ n.events)
    (hx : (h.delivered n).cached dest = some x) : x = value := by
  cases n with
  | lock lock =>
    simp only [Notify.events, List.mem_cons, Prod.mk.injEq, List.not_mem_nil, or_false] at hn
    rcases hn with ⟨rfl, rfl⟩ | ⟨rfl, rfl⟩
    · exact known_eq_some hx
    · exact known_eq_some hx
  | targetDoor tgt =>
    simp only [Notify.events, List.mem_singleton, Prod.mk.injEq] at hn
    obtain ⟨rfl, rfl⟩ := hn
    exact (Option.some.inj hx).symm
  | _ =>
    simp only [Notify.events, List.mem_singleton, Prod.mk.injEq] at hn
    obtain ⟨rfl, rfl⟩ := hn
    exact known_eq_some hx

theorem cached_of_holds {n : Notify} {value v : ℕ} (hold : h.Holds n)
    (hn : (dest, value) ∈ n.events)
    (hv : h.cached dest = some v) : v = value := by
  have hsame : (h.delivered n).cached dest = h.cached dest := by
    cases n with
    | targetDoor tgt =>
      have hcache : some tgt = h.lastTarget := hold
      cases dest <;> simp [delivered, commit, cached, ← hcache]
    | _ =>
      obtain rfl := hold
      cases dest <;> rfl
  exact cached_delivered hn (hsame.trans hv)

theorem cached_delivered_of_ne {n : Notify} (hn : ∀ e ∈ n.events, dest ≠ e.1) :
    (h.delivered n).cached dest = h.cached dest := by
  cases n <;> cases dest <;> simp_all [Notify.events, delivered, commit, cached]

theorem agrees_delivered (n : Notify) (hi : h.Agrees dest) : (h.delivered n).Agrees dest := by
  have hlearn : (h.delivered n).learnSupported = h.learnSupported := by cases n <;> rfl
  intro htile v hv
  rw [hlearn] at htile
  by_cases hn : ∃ value, (dest, value) ∈ n.events
  · obtain ⟨value, hn⟩ := hn
    rw [view_delivered hn, cached_delivered hn hv]
  · have hne : ∀ e ∈ n.events, dest ≠ e.1 := by
      rintro ⟨k, value⟩ he rfl
      exact hn ⟨value, he⟩
    rw [cached_delivered_of_ne hne] at hv
    rw [view_delivered_of_ne hne]
    exact hi htile v hv

/-- Until the protocol is known a Learn tile is taken to be there. -/
def Undecided (h : Hub) : Prop := h.phase = .waiting → h.learnSupported = true

theorem Move.undecided (hmove : Move h c h' r) (hi : h.Undecided) : h'.Undecided := by
  cases hmove with
  | @pushed _ n _ _ _ _ _ hdel =>
    cases hdel with
    | queued => cases n <;> exact hi
    | _ => exact hi
  | identified => exact fun hphase => by simp [identify] at hphase
  | served => exact fun hphase => by simp at hphase
  | _ => exact hi

theorem stores_of_pushes {x : Notify × Bool} (hc : c.pushes = some x) : c.stores = none := by
  cases c <;> simp_all [HubCall.pushes, HubCall.stores]

theorem Agrees.mono (hi : h.Agrees dest) (hview : h'.channel.view dest = h.channel.view dest)
    (hcached : h'.cached dest = h.cached dest)
    (hlearn : dest = .learn → h'.learnSupported = true → h.learnSupported = true) :
    h'.Agrees dest := by
  intro htile v hv
  rw [hview]
  exact hi (fun hd => hlearn hd (htile hd)) v (hcached ▸ hv)

theorem not_disagrees_of_pushes {n : Notify} {m : Bool} (hcall : c.pushes = some (n, m))
    (hhalf : ∀ lock, n = .lock lock → h.Holds n ∨
      ¬ (h.notifEventQ = true ∧ h.channel.queue.length + 1 = notifEventSlots)) (value : ℕ) :
    ¬ h.Disagrees c dest value := by
  rintro (⟨hstore, -⟩ | ⟨lock, m', hpush, hnew, hq, hslot, -, -⟩)
  · simp [stores_of_pushes hcall] at hstore
  · obtain ⟨rfl, -⟩ : n = .lock lock ∧ m = m' := by simpa [hcall] using hpush
    rcases hhalf lock rfl with hold | hroom
    · exact hnew hold
    · exact hroom ⟨hq, hslot⟩

theorem not_disagrees_of_none (hpush : c.pushes = none) (hstore : c.stores = none) (value : ℕ) :
    ¬ h.Disagrees c dest value := by
  rintro (⟨hs, -⟩ | ⟨_, _, hp, -⟩)
  · simp [hstore] at hs
  · simp [hpush] at hp

/-- **Which pushes keep a cache in agreement.** -/
theorem Delivered.agrees_iff {n : Notify} {m : Bool} {p : Push} (hcall : c.pushes = some (n, m))
    (hdel : Delivered h n m h' p) (hi : h.Agrees dest) :
    h'.Agrees dest ↔ ∀ value, h.Disagrees c dest value →
      ∀ x, h.cached dest = some x → value = x := by
  cases hdel with
  | same hold =>
    exact iff_of_true hi fun v hd => absurd hd
      (not_disagrees_of_pushes hcall (fun _ _ => .inl hold) v)
  | queued _ hroom =>
    refine iff_of_true (agrees_delivered n hi) fun v hd => absurd hd ?_
    refine not_disagrees_of_pushes hcall (fun lock hn => .inr ?_) v
    intro hslot
    subst hn
    simp only [Notify.events, List.length_cons, List.length_nil] at hroom
    omega
  | refused _ hfull =>
    refine iff_of_true hi fun v hd => absurd hd ?_
    refine not_disagrees_of_pushes hcall (fun lock hn => .inr ?_) v
    intro hslot
    exact (hfull (by simp [hn])).2 ⟨hslot.1, by omega⟩
  | hidden hn =>
    refine iff_of_true hi fun v hd => absurd hd ?_
    exact not_disagrees_of_pushes hcall (fun lock hl => by simp [hn] at hl) v
  | @half lock hn hnew hslot =>
    subst hn
    by_cases hdest : dest = .lockTargetState
    · subst hdest
      constructor
      · rintro hi' value (⟨hstore, -⟩ | ⟨lock', m', hpush, -, -, -, -, rfl⟩) x hx
        · simp [stores_of_pushes hcall] at hstore
        · obtain ⟨rfl, -⟩ : lock = lock' ∧ m = m' := by simpa [hcall] using hpush
          have hview := hi' (by simp) x hx
          simpa using hview
      · intro hvalue htile x hx
        show (h.channel.send .lockTargetState lock.value).view .lockTargetState = x
        rw [Channel.view_send_self]
        exact hvalue _ (.inr ⟨lock, m, hcall, hnew, hslot.1, hslot.2, rfl, rfl⟩) x hx
    · refine iff_of_true (hi.mono (h.channel.view_send_of_ne hdest) ?_ fun _ => id) ?_
      · cases dest <;> rfl
      · rintro value (⟨hstore, -⟩ | ⟨_, _, _, _, _, _, hd, -⟩)
        · simp [stores_of_pushes hcall] at hstore
        · exact absurd hd hdest

/-- **Which steps keep a cache in agreement**: all but those past the queue, and these only with the
value that the cache stands for. -/
theorem Move.agrees_iff (hmove : Move h c h' r) (hw : h.Undecided) (hi : h.Agrees dest) :
    h'.Agrees dest ↔ ∀ value, h.Disagrees c dest value →
      ∀ x, h.cached dest = some x → value = x := by
  cases hmove with
  | pushed hcall hdel => exact hdel.agrees_iff hcall hi
  | @stored _ dest' value' _ hcall _ hlearn =>
    have hpush : ∀ x, c.pushes ≠ some x := fun x hx => by
      simp [stores_of_pushes hx] at hcall
    by_cases hdest : dest = dest'
    · subst hdest
      constructor
      · rintro hi' value (⟨hstore, hnone⟩ | ⟨_, _, hp, -⟩) x hx
        · obtain rfl : value' = value := by simpa [hcall] using hstore
          have hview : (h.channel.write dest value').view dest = x := hi' hlearn x hx
          rwa [Channel.view_write, if_pos hnone] at hview
        · exact absurd hp (hpush _)
      · intro hvalue htile x hx
        show (h.channel.write dest value').view dest = x
        rw [Channel.view_write]
        split_ifs with hnone
        · exact hvalue value' (.inl ⟨hcall, hnone⟩) x hx
        · exact hi htile x hx
    · refine iff_of_true (hi.mono (Channel.view_write_of_ne hdest) (by cases dest <;> rfl)
        fun _ => id) ?_
      rintro value (⟨hstore, -⟩ | ⟨_, _, hp, -⟩)
      · exact absurd (by simpa [hcall] using hstore : dest' = dest ∧ value' = value).1.symm hdest
      · exact absurd hp (hpush _)
  | kept hpush hstore =>
    exact iff_of_true hi fun v hd => absurd hd (not_disagrees_of_none hpush hstore v)
  | identified hphase =>
    refine iff_of_true (hi.mono rfl (by cases dest <;> rfl) fun _ _ => hw hphase) ?_
    intro v hd
    exact absurd hd (not_disagrees_of_none rfl rfl v)
  | served =>
    refine iff_of_true (hi.mono rfl (by cases dest <;> rfl) fun _ => id) ?_
    intro v hd
    exact absurd hd (not_disagrees_of_none rfl rfl v)
  | consumed _ hreceive =>
    refine iff_of_true (hi.mono (Channel.view_receive hreceive dest) (by cases dest <;> rfl)
      fun _ => id) fun v hd => ?_
    exact absurd hd (not_disagrees_of_none rfl rfl v)
  | ignored _ hdiscard hlearn hoff =>
    refine iff_of_true ?_ fun v hd => absurd hd (not_disagrees_of_none rfl rfl v)
    by_cases hdest : dest = .learn
    · exact fun htile => absurd (htile hdest) (by simp [hoff])
    · refine hi.mono (Channel.view_discard hdiscard fun u hu hk => hdest ?_) (by cases dest <;> rfl)
        fun _ => id
      rw [hu] at hlearn
      exact hk.symm.trans (Option.some.inj hlearn)

/-- **In every run** a characteristic that only the queue writes agrees with its cache. -/
theorem agrees_of_queueOnly {q m : Bool} {es : List HubStep}
    (hrun : hub.toLTS.Trace (init q m) es h)
    (hdest : QueueOnly dest) : h.Agrees dest := by
  have hstart : (init q m).Undecided ∧ (init q m).Agrees dest := by
    refine ⟨fun _ => rfl, ?_⟩
    intro _ v hv
    cases dest <;> cases hv
  refine (hrun.invariant (I := fun h => h.Undecided ∧ h.Agrees dest) hstart ?_).2
  intro e _ hst hi
  have hmove := step_move hst
  refine ⟨hmove.undecided hi.1, (hmove.agrees_iff hi.1 hi.2).2 ?_⟩
  rintro value (⟨hstore, -⟩ | ⟨_, _, _, _, _, _, hd, -⟩)
  · obtain ⟨hlock, hlight, hlearn⟩ := hdest
    cases hcall : e.label.1 with
    | setLock value err | setLight on err | setLearn enable err =>
      cases err <;> simp_all [HubCall.stores]
    | _ => simp [hcall, HubCall.stores] at hstore
  · exact absurd hd hdest.1

end Hub

/-! ### The order of the events -/

/-- What the pushes of one kind that were queued in a run were about, in order. -/
def queuedOf {α : Type*} (kind : Notify → Option α) (es : List HubStep) : List α :=
  es.filterMap fun e =>
    if e.label.2.push = some .queued then e.label.1.pushes.bind (kind ·.1) else none

/-- The pushes of one kind have one cache and one event each, and nothing else moves them. -/
structure Deduplicates {α : Type*} (kind : Notify → Option α) (dest : HomeKitNotifDest)
    (enc : α → ℕ) (cache : Hub → α) : Prop where
  queueOnly : Hub.QueueOnly dest
  events : ∀ n x, kind n = some x → n.events = [(dest, enc x)]
  holds : ∀ n x h, kind n = some x → x = cache h → h.Holds n
  commit : ∀ n x (h : Hub), kind n = some x → cache (h.delivered n) = x
  others : ∀ n, kind n = none →
    (∀ e ∈ n.events, dest ≠ e.1) ∧ ∀ h : Hub, cache (h.delivered n) = cache h
  frame : ∀ h h' : Hub, h'.lastDoor = h.lastDoor → h'.lastTarget = h.lastTarget → cache h' = cache h

section

variable {α : Type*} {kind : Notify → Option α} {dest : HomeKitNotifDest} {enc : α → ℕ}
  {cache : Hub → α} {h h' : Hub} {e : HubStep} {es : List HubStep}

theorem queuedOf_append (kind : Notify → Option α) (es es' : List HubStep) :
    queuedOf kind (es ++ es') = queuedOf kind es ++ queuedOf kind es' :=
  List.filterMap_append

theorem queuedOf_single (hnone : e.label.2.push = some .queued →
    e.label.1.pushes.bind (kind ·.1) = none) : queuedOf kind [e] = [] := by
  by_cases hq : e.label.2.push = some .queued
  · simp [queuedOf, hq, hnone hq]
  · simp [queuedOf, hq]

theorem Hub.pending_delivered (h : Hub) (n : Notify) (dest : HomeKitNotifDest) :
    (h.delivered n).channel.pending dest = h.channel.pending dest ++
      n.events.filterMap fun e => if e.1 = dest then some e.2 else none := by
  have hqueue : (h.delivered n).channel.queue = h.channel.queue ++ n.events := by
    cases n <;> simp [Hub.delivered, Notify.events]
  rw [Channel.pending, hqueue, List.filterMap_append, Channel.pending]

theorem Deduplicates.delivered (hk : Deduplicates kind dest enc cache) {n : Notify} {sentinel : α}
    {sent : List α} (hi : Channel.Sent enc sentinel (cache h) sent (h.channel.pending dest))
    (hnew : ¬ h.Holds n) :
    Channel.Sent enc sentinel (cache (h.delivered n)) (sent ++ (kind n).toList)
      ((h.delivered n).channel.pending dest) := by
  rw [Hub.pending_delivered]
  cases hkind : kind n with
  | none =>
    obtain ⟨hne, hcache⟩ := hk.others n hkind
    have hnone : (n.events.filterMap fun e => if e.1 = dest then some e.2 else none) = [] := by
      rw [List.filterMap_eq_nil_iff]
      intro e he
      exact if_neg (hne e he).symm
    rw [hnone, hcache, Option.toList_none, List.append_nil, List.append_nil]
    exact hi
  | some x =>
    rw [hk.events n x hkind, hk.commit n x h hkind]
    have hx : x ≠ cache h := fun heq => hnew (hk.holds n x h hkind heq)
    simpa using hi.push hx

/-- **What was accepted in a run comes out in order, and without repetition.** -/
theorem Deduplicates.sent (hk : Deduplicates kind dest enc cache) {q m : Bool}
    (hrun : hub.toLTS.Trace (Hub.init q m) es h) :
    Channel.Sent enc (cache (Hub.init q m)) (cache h) (queuedOf kind es)
      (h.channel.pending dest) := by
  refine hrun.history (I := fun es h => Channel.Sent enc (cache (Hub.init q m)) (cache h)
    (queuedOf kind es) (h.channel.pending dest)) (Channel.Sent.nil enc _) fun pre e _ hst hi => ?_
  rw [queuedOf_append]
  obtain ⟨h, ⟨c, r⟩, h'⟩ := e
  have hmove : Hub.Move h c h' r := Hub.step_move hst
  -- a step that queues nothing of the kind
  have hframe : ∀ h' : Hub, h'.lastDoor = h.lastDoor → h'.lastTarget = h.lastTarget →
      h'.channel.pending dest <:+ h.channel.pending dest →
      Channel.Sent enc (cache (Hub.init q m)) (cache h') (queuedOf kind pre ++ [])
        (h'.channel.pending dest) := by
    intro h' hdoor htarget hless
    rw [hk.frame h h' hdoor htarget, List.append_nil]
    exact hi.receive hless
  cases hmove with
  | @pushed _ n _ _ _ _ hcall hdel hpush =>
    cases hdel with
    | queued hnew =>
      have hone : queuedOf kind [⟨h, (c, r), h.delivered n⟩] = (kind n).toList := by
        cases hkind : kind n <;> simp [queuedOf, hpush, hcall, hkind]
      rw [hone]
      exact hk.delivered hi hnew
    | half =>
      rw [queuedOf_single (by simp [hpush])]
      refine hframe _ rfl rfl ?_
      dsimp only
      rewrite [Channel.pending_send_of_ne _ hk.queueOnly.1]
      exact List.suffix_rfl
    | same | refused | hidden =>
      rw [queuedOf_single (by simp [hpush])]
      exact hframe _ rfl rfl List.suffix_rfl
  | stored hcall _ _ hpush =>
    rw [queuedOf_single (by simp [hpush])]
    exact hframe _ rfl rfl List.suffix_rfl
  | kept hcall _ hpush =>
    rw [queuedOf_single (by simp [hpush])]
    exact hframe _ rfl rfl List.suffix_rfl
  | identified | served =>
    rw [queuedOf_single (by simp)]
    exact hframe _ rfl rfl List.suffix_rfl
  | consumed _ hreceive =>
    rw [queuedOf_single (by simp)]
    exact hframe _ rfl rfl (Channel.pending_receive hreceive dest)
  | ignored _ hdiscard =>
    rw [queuedOf_single (by simp)]
    exact hframe _ rfl rfl (Channel.pending_discard hdiscard dest)

end

/-- The door state that is pushed. -/
def Notify.door : Notify → Option DoorState
  | .currentDoor door => some door
  | _ => none

/-- The target that is pushed; the cache of targets has no sentinel among them. -/
def Notify.tgt : Notify → Option (Option TargetState)
  | .targetDoor tgt => some (some tgt)
  | _ => none

/-- The value of a cached target. -/
def targetValue : Option TargetState → ℕ := fun tgt => (tgt.map TargetState.value).getD 0

theorem deduplicates_door :
    Deduplicates Notify.door .doorCurrentState mapGdoToHomekitState Hub.lastDoor where
  queueOnly := by simp [Hub.QueueOnly]
  events n x hn := by cases n <;> simp_all [Notify.door, Notify.events]
  holds n x h hn hx := by cases n <;> simp_all [Notify.door, Hub.Holds]
  commit n x h hn := by cases n <;> simp_all [Notify.door, Hub.delivered, Hub.commit]
  others n hn := by cases n <;> simp_all [Notify.door, Notify.events, Hub.delivered, Hub.commit]
  frame _ _ hdoor _ := hdoor

theorem deduplicates_target :
    Deduplicates Notify.tgt .doorTargetState targetValue Hub.lastTarget where
  queueOnly := by simp [Hub.QueueOnly]
  events n x hn := by
    cases n <;> simp [Notify.tgt] at hn
    subst hn
    rfl
  holds n x h hn hx := by
    cases n <;> simp [Notify.tgt] at hn
    subst hn
    exact hx
  commit n x h hn := by
    cases n <;> simp [Notify.tgt] at hn
    subst hn
    rfl
  others n hn := by cases n <;> simp_all [Notify.tgt, Notify.events, Hub.delivered, Hub.commit]
  frame _ _ _ htarget := htarget

/-- **Ordered, deduplicated delivery.**  In every run of pushes, writes, refusals and deliveries, a
characteristic that only the queue writes is going to show what its cache stands for; a refused push
changes nothing, and is queued when it is made again over the same cache with nothing in the way;
and the values of the Current and Target Door State events come out in the order in which they were
accepted, no two in a row from equal cached values, the last one being the cache. -/
theorem ordered_delivery {q m : Bool} {es : List HubStep} {h : Hub}
    (hrun : hub.toLTS.Trace (Hub.init q m) es h) :
    (∀ dest ∈ [HomeKitNotifDest.doorCurrentState, .doorTargetState, .obstruction, .motion],
      ∀ v, h.cached dest = some v → h.channel.view dest = v) ∧
    (∀ e ∈ es, ∀ n b, e.label.1.pushes = some (n, b) → e.label.2.push = some .refused →
      e.dst = e.src ∧ ∀ later : Hub, (later.Holds n ↔ e.src.Holds n) → later.Admits n true →
        (∀ learn, n ≠ .learn learn) →
        (e.src.Holds n ∧ (later.notify n true).2 = .same) ∨
          (¬ e.src.Holds n ∧ (later.notify n true) = (later.delivered n, .queued))) ∧
    Channel.Sent mapGdoToHomekitState .max h.lastDoor (queuedOf Notify.door es)
      (h.channel.pending .doorCurrentState) ∧
    Channel.Sent targetValue none h.lastTarget (queuedOf Notify.tgt es)
      (h.channel.pending .doorTargetState) := by
  refine ⟨fun dest hdest v hv => ?_, fun e he n b hcall hrefused => ⟨?_, ?_⟩,
    deduplicates_door.sent hrun, deduplicates_target.sent hrun⟩
  · have hqueue : Hub.QueueOnly dest := by
      simp only [List.mem_cons, List.not_mem_nil, or_false] at hdest
      rcases hdest with rfl | rfl | rfl | rfl <;> simp [Hub.QueueOnly]
    exact Hub.agrees_of_queueOnly hrun hqueue (fun hlearn => absurd hlearn hqueue.2.2) v hv
  · obtain ⟨h, ⟨c, r⟩, h'⟩ := e
    have hmove : Hub.Move h c h' r := Hub.step_move (hrun.step_of_mem he)
    cases hmove with
    | pushed _ hdel hpush =>
      obtain rfl := Option.some.inj (hpush.symm.trans hrefused)
      cases hdel
      rfl
    | stored _ _ _ hpush | kept _ _ hpush => simp [hpush] at hrefused
    | _ => simp at hrefused
  · intro later hcache hadm htile
    rcases (later.notify_delivered n true).of_admits hadm fun l hl => absurd hl (htile l) with
      ⟨hold, hp, -⟩ | ⟨hnew, hp, hlater⟩
    · exact .inl ⟨hcache.1 hold, hp⟩
    · exact .inr ⟨mt hcache.2 hnew, Prod.ext hlater hp⟩

/-- The door opens and closes before the HomeKit task runs; then both ends are delivered. -/
def deliveryRun : List HubCall :=
  [.notify (.currentDoor .opened) true, .notify (.targetDoor .opened) false,
    .notify (.targetDoor .opened) true, .notify (.currentDoor .closed) true,
    .notify (.currentDoor .closed) true, .identify (some .secPlusV2) true true, .serve,
    .setTargetDoor 1 .ok true, .consume, .consume]

theorem ordered_delivery_opened_closed :
    let es := hub.edges (Hub.init true true) deliveryRun
    let h := hub.last (Hub.init true true) deliveryRun
    (∀ dest ∈ [HomeKitNotifDest.doorCurrentState, .doorTargetState, .obstruction, .motion],
      ∀ v, h.cached dest = some v → h.channel.view dest = v) ∧
    (∀ e ∈ es, ∀ n b, e.label.1.pushes = some (n, b) → e.label.2.push = some .refused →
      e.dst = e.src ∧ ∀ later : Hub, (later.Holds n ↔ e.src.Holds n) → later.Admits n true →
        (∀ learn, n ≠ .learn learn) →
        (e.src.Holds n ∧ (later.notify n true).2 = .same) ∨
          (¬ e.src.Holds n ∧ (later.notify n true) = (later.delivered n, .queued))) ∧
    Channel.Sent mapGdoToHomekitState .max h.lastDoor (queuedOf Notify.door es)
      (h.channel.pending .doorCurrentState) ∧
    Channel.Sent targetValue none h.lastTarget (queuedOf Notify.tgt es)
      (h.channel.pending .doorTargetState) :=
  ordered_delivery (hub.trace_edges _ _)

end GdoBlaq
