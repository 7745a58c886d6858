import GdoBlaq.HomeKit.Delivery

/-!
# What HomeKit shows, and what the caches say

Lock Target State, Light On and Learn On have a second writer, the Home app, and a lock report is
two events over one cache.  Either way a characteristic can come to show what its cache does not
say; the next report, equal to the cache, is then taken for old news.

## Main results

* `shown_is_cached_iff` : which steps a run must not have for the caches to say what HomeKit shows.
* `unheeded_light_write_stays` : a write that the opener takes and does not carry out.
* `lock_pair_agrees_iff` : when the latest lock report settles both lock characteristics.
* `half_report_stays` : a lock report of which only the target was queued.
-/

namespace GdoBlaq

/-! ### Two writers -/

/-- The characteristics that the Home app writes at once. -/
def HomeKitNotifDest.Toggle (dest : HomeKitNotifDest) : Prop :=
  dest = .light ∨ dest = .lockTargetState ∨ dest = .learn

namespace Hub

/-- An accepted write that no queued event of its characteristic overtakes asks for what the cache
says, and a lock report that finds a single slot is of a state with the same value as the cached
one. -/
def KeepsShown (h : Hub) (c : HubCall) : Prop :=
  ∀ dest : HomeKitNotifDest, dest.Toggle → ∀ value, h.Disagrees c dest value →
    ∀ x, h.cached dest = some x → value = x

/-- The cache of every characteristic with two writers stands for what HomeKit will show. -/
def ShowsCached (h : Hub) : Prop := ∀ dest : HomeKitNotifDest, dest.Toggle → h.Agrees dest

end Hub

section

variable {q m : Bool} {es : List HubStep} {h : Hub}

theorem undecided_of_trace (hrun : hub.toLTS.Trace (Hub.init q m) es h) : h.Undecided :=
  hrun.invariant (fun _ => rfl) fun _ _ hst hi => (Hub.step_move hst).undecided hi

theorem report_corrects {dest : HomeKitNotifDest} {n : Notify} {v x : ℕ} (hq : h.notifEventQ = true)
    (hempty : h.channel.queue = []) (hcached : h.cached dest = some v)
    (htile : dest = .learn → h.learnSupported = true) (hdest : dest.Toggle)
    (hn : (dest, x) ∈ n.events) (hne : x ≠ v) :
    h.notify n true = (h.delivered n, .queued) ∧ (h.delivered n).channel.view dest = x := by
  have hadm : h.Admits n true := by
    refine ⟨hq, ?_, ?_⟩
    · rw [hempty]
      cases n <;> simp [Notify.events, Hub.notifEventSlots]
    · rintro tgt rfl
      obtain ⟨rfl, -⟩ := Prod.mk.inj (List.mem_singleton.1 hn)
      simp [HomeKitNotifDest.Toggle] at hdest
  have hlearn : ∀ learn, n = .learn learn → h.learnSupported = true := by
    rintro learn rfl
    obtain ⟨rfl, -⟩ := Prod.mk.inj (List.mem_singleton.1 hn)
    exact htile rfl
  rcases (h.notify_delivered n true).of_admits hadm hlearn with ⟨hold, -⟩ | ⟨-, hp, hlater⟩
  · exact absurd (Hub.cached_of_holds hold hn hcached) hne.symm
  · exact ⟨Prod.ext hlater hp, Hub.view_delivered hn⟩

/-- **When the caches say what HomeKit shows.**  In every run the caches of Light, Lock Target and
Learn stand for what will be shown, in every state, exactly if every step keeps to it.  Then, with
an empty queue, they stand for what is shown, and a report of anything else is queued and corrects
it. -/
theorem shown_is_cached_iff (hrun : hub.toLTS.Trace (Hub.init q m) es h) :
    ((∀ e ∈ es, e.dst.ShowsCached) ↔ ∀ e ∈ es, e.src.KeepsShown e.label.1) ∧
    ((∀ e ∈ es, e.src.KeepsShown e.label.1) → h.channel.queue = [] →
      ∀ dest : HomeKitNotifDest, dest.Toggle → (dest = .learn → h.learnSupported = true) →
        ∀ v, h.cached dest = some v → h.channel.values dest = v ∧
          ∀ n x, (dest, x) ∈ n.events → x ≠ v → h.notifEventQ = true →
            h.notify n true = (h.delivered n, .queued) ∧
              (h.delivered n).channel.view dest = x) := by
  have hstart : (Hub.init q m).ShowsCached := by
    intro dest _ _ v hv
    cases dest <;> cases hv
  have hiff : (∀ e ∈ es, e.dst.ShowsCached) ↔ ∀ e ∈ es, e.src.KeepsShown e.label.1 := by
    refine hrun.forall_dst_iff hstart ?_
    intro e he hst hi
    obtain ⟨pre, post, rfl⟩ := List.append_of_mem he
    have hwait := undecided_of_trace (LTS.Trace.at_edge_iff.1 hrun).1
    have hmove := Hub.step_move hst
    exact forall₂_congr fun dest hdest => hmove.agrees_iff hwait (hi dest hdest)
  refine ⟨hiff, ?_⟩
  intro hkeeps hempty dest hdest htile v hv
  have hagrees : h.ShowsCached :=
    hrun.invariant hstart fun e he _ _ => hiff.2 hkeeps e he
  refine ⟨?_, fun n x hn hne hq => report_corrects hq hempty hv htile hdest hn hne⟩
  rw [← Channel.view_of_queue_nil hempty]
  exact hagrees dest hdest htile v hv

/-- The light is off; the Home app switches it on, which the opener accepts and does not do. -/
def unheededRun : List HubCall :=
  [.identify (some .secPlusV2) true true, .serve, .notify (.light .off) true,
    .consume, .setLight true .ok]

theorem shown_is_cached_iff_unheeded :
    let es := hub.edges (Hub.init true true) unheededRun
    let h := hub.last (Hub.init true true) unheededRun
    ((∀ e ∈ es, e.dst.ShowsCached) ↔ ∀ e ∈ es, e.src.KeepsShown e.label.1) ∧
    ((∀ e ∈ es, e.src.KeepsShown e.label.1) → h.channel.queue = [] →
      ∀ dest : HomeKitNotifDest, dest.Toggle → (dest = .learn → h.learnSupported = true) →
        ∀ v, h.cached dest = some v → h.channel.values dest = v ∧
          ∀ n x, (dest, x) ∈ n.events → x ≠ v → h.notifEventQ = true →
            h.notify n true = (h.delivered n, .queued) ∧
              (h.delivered n).channel.view dest = x) :=
  shown_is_cached_iff (hub.trace_edges _ _)

/-- **A write that is not carried out stays.**  The queue is empty, HomeKit shows the light on, the
cache says off, and the opener's report that it is off is skipped. -/
theorem unheeded_light_write_stays :
    ∃ es h, hub.toLTS.Trace (Hub.init true true) es h ∧ h.channel.queue = [] ∧
      h.cached .light = some 0 ∧ h.channel.values .light = 1 ∧
      (h.notify (.light .off) true).2 = .same :=
  ⟨_, _, hub.trace_edges _ unheededRun, by decide +kernel, by decide +kernel, by decide +kernel,
    by decide +kernel⟩

end

/-! ### Two events -/

/-- The lock state that is pushed. -/
def Notify.lockState : Notify → Option LockState
  | .lock state => some state
  | _ => none

/-- The lock state that a step reports. -/
def HubCall.lockReport (c : HubCall) : Option LockState := c.pushes.bind (·.1.lockState)

/-- A write to Lock Target State that is accepted. -/
def HubCall.WritesLock (c : HubCall) : Prop := c.stores.map Prod.fst = some .lockTargetState

instance (c : HubCall) : Decidable c.WritesLock := inferInstanceAs (Decidable (_ = _))

/-- The lock reports of which at least the target was queued, in order. -/
def lockTargetsOf (es : List HubStep) : List LockState :=
  es.filterMap fun e =>
    if e.label.2.push = some .queued ∨ e.label.2.push = some .half then
      e.label.1.lockReport
    else none

/-- What HomeKit will show of the lock, by the history of the reports. -/
structure LockShown (es : List HubStep) (h : Hub) : Prop where
  target : h.channel.view .lockTargetState =
    ((lockTargetsOf es).getLast?.map LockState.value).getD 0
  current : h.channel.view .lockCurrentState =
    ((queuedOf Notify.lockState es).getLast?.map LockState.value).getD 0
  cache : h.lastLock = (queuedOf Notify.lockState es).getLast?.getD .max

section

variable {q m : Bool} {es pre post : List HubStep} {h h' : Hub} {c : HubCall} {r : HubReply}

theorem HubCall.toggle_of_stores {dest : HomeKitNotifDest} {value : ℕ}
    (hstore : c.stores = some (dest, value)) : dest.Toggle := by
  cases c with
  | setLock _ err | setLight _ err | setLearn _ err =>
    cases err <;> simp_all [HubCall.stores, HomeKitNotifDest.Toggle]
  | _ => cases hstore

theorem HubCall.lockReport_eq_some {lock : LockState} :
    c.lockReport = some lock ↔ ∃ b, c.pushes = some (.lock lock, b) := by
  unfold lockReport
  cases c.pushes with
  | none => simp
  | some p =>
    obtain ⟨n, b⟩ := p
    cases n <;> simp [Notify.lockState]

theorem lockTargetsOf_append (es es' : List HubStep) :
    lockTargetsOf (es ++ es') = lockTargetsOf es ++ lockTargetsOf es' :=
  List.filterMap_append

theorem LockShown.frame {e : HubStep} (hi : LockShown es h)
    (htarget : h'.channel.view .lockTargetState = h.channel.view .lockTargetState)
    (hcurrent : h'.channel.view .lockCurrentState = h.channel.view .lockCurrentState)
    (hcache : h'.lastLock = h.lastLock)
    (hnone : e.label.2.push = some .queued ∨ e.label.2.push = some .half →
      e.label.1.lockReport = none) : LockShown (es ++ [e]) h' := by
  have hqueued : queuedOf Notify.lockState [e] = [] := queuedOf_single fun hq => hnone (.inl hq)
  have htargets : lockTargetsOf [e] = [] := by
    unfold lockTargetsOf
    by_cases hq : e.label.2.push = some .queued ∨ e.label.2.push = some .half
    · rw [List.filterMap_cons, if_pos hq, hnone hq]
      rfl
    · rw [List.filterMap_cons, if_neg hq]
      rfl
  constructor
  · rw [lockTargetsOf_append, htargets, List.append_nil, htarget]
    exact hi.target
  · rw [queuedOf_append, hqueued, List.append_nil, hcurrent]
    exact hi.current
  · rw [queuedOf_append, hqueued, List.append_nil, hcache]
    exact hi.cache

/-- A step that is no lock write and no report of a new lock state moves nothing of the lock. -/
theorem Hub.Move.lock_same (hmove : Hub.Move h c h' r) (hwrite : ¬ c.WritesLock)
    (hheld : ∀ lock ∈ c.lockReport, lock = h.lastLock) :
    h'.channel.view .lockTargetState = h.channel.view .lockTargetState ∧
      h'.channel.view .lockCurrentState = h.channel.view .lockCurrentState ∧
      h'.lastLock = h.lastLock ∧
      (r.push = some .queued ∨ r.push = some .half → c.lockReport = none) := by
  cases hmove with
  | @pushed _ n _ _ _ _ hcall hdel hpush =>
    cases hdel with
    | same | refused | hidden => exact ⟨rfl, rfl, rfl, by simp [hpush]⟩
    | queued hnew =>
      have hlock : n.lockState = none := by
        cases n with
        | lock lock => exact absurd (hheld lock (HubCall.lockReport_eq_some.2 ⟨_, hcall⟩)) hnew
        | _ => rfl
      have hne : ∀ e ∈ n.events, .lockTargetState ≠ e.1 ∧ .lockCurrentState ≠ e.1 := by
        cases n <;> simp_all [Notify.lockState, Notify.events]
      refine ⟨Hub.view_delivered_of_ne fun e he => (hne e he).1,
        Hub.view_delivered_of_ne fun e he => (hne e he).2, ?_,
          by simp [HubCall.lockReport, hcall, hlock]⟩
      cases n <;> simp_all [Notify.lockState, Hub.delivered, Hub.commit]
    | half hn hnew =>
      subst hn
      exact absurd (hheld _ (HubCall.lockReport_eq_some.2 ⟨_, hcall⟩)) hnew
  | @stored _ dest value _ hcall _ _ hpush =>
    have htarget : HomeKitNotifDest.lockTargetState ≠ dest := by
      rintro rfl
      exact hwrite (by simp [HubCall.WritesLock, hcall])
    have hcurrent : HomeKitNotifDest.lockCurrentState ≠ dest := by
      rintro rfl
      simpa [HomeKitNotifDest.Toggle] using HubCall.toggle_of_stores hcall
    exact ⟨Channel.view_write_of_ne htarget, Channel.view_write_of_ne hcurrent, rfl,
      by simp [hpush]⟩
  | kept _ _ hpush => exact ⟨rfl, rfl, rfl, by simp [hpush]⟩
  | identified | served => exact ⟨rfl, rfl, rfl, by simp⟩
  | consumed _ hreceive =>
    exact ⟨Channel.view_receive hreceive _, Channel.view_receive hreceive _, rfl, by simp⟩
  | ignored _ hdiscard hlearn =>
    have hhead : ∀ dest, dest ≠ .learn → ∀ u, h.channel.queue.head? = some u → u.1 ≠ dest := by
      rintro dest hdest u hu rfl
      simp only [hu, Option.map_some, Option.some.injEq] at hlearn
      exact hdest hlearn
    exact ⟨Channel.view_discard hdiscard (hhead _ (by simp)),
      Channel.view_discard hdiscard (hhead _ (by simp)), rfl, by simp⟩

/-- **One step** of a run without lock writes. -/
theorem LockShown.step {e : HubStep} (hi : LockShown es e.src)
    (hst : hub.toLTS.step e.src e.label e.dst)
    (hwrite : ¬ e.label.1.WritesLock) : LockShown (es ++ [e]) e.dst := by
  obtain ⟨h, ⟨c, r⟩, h'⟩ := e
  have hmove : Hub.Move h c h' r := Hub.step_move hst
  by_cases hnew : ∃ lock ∈ c.lockReport, lock ≠ h.lastLock
  swap
  · push Not at hnew
    obtain ⟨htarget, hcurrent, hcache, hnone⟩ := hmove.lock_same hwrite hnew
    exact hi.frame htarget hcurrent hcache hnone
  obtain ⟨lock, hreport, hnew⟩ := hnew
  obtain ⟨b, hcall⟩ := HubCall.lockReport_eq_some.1 hreport
  cases hmove with
  | @pushed _ n _ _ _ _ hcall' hdel hpush =>
    obtain ⟨rfl, -⟩ : n = .lock lock ∧ _ = b := by simpa [hcall'] using hcall
    cases hdel with
    | same hold => exact absurd hold hnew
    | hidden hn => cases hn
    | refused => exact hi.frame rfl rfl rfl (by simp [hpush])
    | queued =>
      have htarget : (.lockTargetState, lock.value) ∈ (Notify.lock lock).events := by
        simp [Notify.events]
      have hcurrent : (.lockCurrentState, lock.value) ∈ (Notify.lock lock).events := by
        simp [Notify.events]
      constructor
      · rw [lockTargetsOf_append, Hub.view_delivered htarget]
        simp [lockTargetsOf, hpush, Option.mem_def.1 hreport]
      · rw [queuedOf_append, Hub.view_delivered hcurrent]
        simp [queuedOf, hpush, hcall, Notify.lockState]
      · rw [queuedOf_append]
        simp [queuedOf, hpush, hcall, Notify.lockState, Hub.delivered, Hub.commit]
    | half hn =>
      obtain rfl := Notify.lock.inj hn
      constructor
      · rw [lockTargetsOf_append]
        simp [lockTargetsOf, hpush, Option.mem_def.1 hreport]
      · rw [queuedOf_append, queuedOf_single (by simp [hpush]), List.append_nil]
        exact (Channel.view_send_of_ne _ (by simp)).trans hi.current
      · rw [queuedOf_append, queuedOf_single (by simp [hpush]), List.append_nil]
        exact hi.cache
  | stored hstore => simp [Hub.stores_of_pushes hcall] at hstore
  | kept hnone => simp [hcall] at hnone
  | _ => cases hcall

theorem LockShown.trace (hrun : hub.toLTS.Trace (Hub.init q m) es h)
    (hwrites : ∀ e ∈ es, ¬ e.label.1.WritesLock) : LockShown es h := by
  refine hrun.history ⟨rfl, rfl, rfl⟩ ?_
  intro pre e hpre hst hi
  exact hi.step hst (hwrites e (hpre.subset (by simp)))

theorem lockTargetsOf_ne_nil (hq : queuedOf Notify.lockState es ≠ []) : lockTargetsOf es ≠ [] := by
  obtain ⟨lock, hmem⟩ := List.exists_mem_of_ne_nil _ hq
  obtain ⟨e, he, hlock⟩ := List.mem_filterMap.1 hmem
  refine List.ne_nil_of_mem (List.mem_filterMap.2 ⟨e, he, ?_⟩ : lock ∈ lockTargetsOf es)
  split_ifs at hlock with hpush
  rw [if_pos (.inl hpush)]
  exact hlock

theorem LockShown.settled_iff (hi : LockShown pre h) :
    (h.channel.view .lockTargetState = h.lastLock.value ∧
      h.channel.view .lockCurrentState = h.lastLock.value) ↔
    queuedOf Notify.lockState pre ≠ [] ∧
      (lockTargetsOf pre).getLast?.map LockState.value = some h.lastLock.value := by
  obtain ⟨htarget, hcurrent, hcache⟩ := hi
  rw [htarget, hcurrent]
  cases hlast : (queuedOf Notify.lockState pre).getLast? with
  | none =>
    -- the cache is at its sentinel, which stands for 1, and the characteristic was created with 0
    rw [hlast, Option.getD_none] at hcache
    simp [hcache, LockState.value, List.getLast?_eq_none_iff.1 hlast]
  | some lock =>
    rw [hlast, Option.getD_some] at hcache
    have hne : queuedOf Notify.lockState pre ≠ [] := by
      rintro hnil
      simp [hnil] at hlast
    obtain ⟨x, hx⟩ := List.getLast?_isSome.2 (lockTargetsOf_ne_nil hne)
      |> Option.isSome_iff_exists.1
    simp [hcache, hne, hx]

/-- **When the latest lock report settles both characteristics.**  In a run without lock writes of
the Home app, let `lock` be what the opener has reported since the step `e`, at which there was room
for both events.  Once the queue is empty, both characteristics show `lock`, unless the report at
`e` was skipped for the cache and the last target queued before it was of another value, or no
report had been queued at all. -/
theorem lock_pair_agrees_iff {e : HubStep} {lock : LockState} {b : Bool}
    (hrun : hub.toLTS.Trace (Hub.init q m) (pre ++ e :: post) h)
    (hwrites : ∀ a ∈ pre ++ e :: post, ¬ a.label.1.WritesLock)
    (hcall : e.label.1 = .notify (.lock lock) b) (hadm : e.src.Admits (.lock lock) b)
    (hlatest : ∀ a ∈ post, ∀ l ∈ a.label.1.lockReport, l = lock)
    (hempty : h.channel.queue = []) :
    (h.channel.values .lockTargetState = lock.value ∧
      h.channel.values .lockCurrentState = lock.value) ↔
    (e.src.lastLock = lock → queuedOf Notify.lockState pre ≠ [] ∧
      (lockTargetsOf pre).getLast?.map LockState.value = some lock.value) := by
  obtain ⟨hpre, hst, hpost⟩ := LTS.Trace.at_edge_iff.1 hrun
  have hshown : LockShown pre e.src := .trace hpre fun a ha => hwrites a (List.mem_append_left _ ha)
  -- the report itself
  have hreport : (lock = e.src.lastLock ∧ e.dst = e.src) ∨
      (lock ≠ e.src.lastLock ∧ e.dst = e.src.delivered (.lock lock)) := by
    have hdst : e.dst = (e.src.notify (.lock lock) b).1 := by
      have hst : e.src.step e.label.1 = some (e.dst, e.label.2) := hst
      rw [hcall] at hst
      exact congrArg Prod.fst (Option.some.inj hst).symm
    rcases (e.src.notify_delivered (.lock lock) b).of_admits hadm (by simp) with
      ⟨hold, -, hsame⟩ | ⟨hnew, -, hqueued⟩
    · exact .inl ⟨hold, hdst.trans hsame⟩
    · exact .inr ⟨hnew, hdst.trans hqueued⟩
  have hdst : e.dst.lastLock = lock := by
    rcases hreport with ⟨hold, hsame⟩ | ⟨-, hqueued⟩
    · rw [hsame, hold]
    · rw [hqueued]
      rfl
  -- nothing of the lock moves any more
  obtain ⟨-, htarget, hcurrent⟩ := hpost.invariant (I := fun h => h.lastLock = lock ∧
    h.channel.view .lockTargetState = e.dst.channel.view .lockTargetState ∧
      h.channel.view .lockCurrentState = e.dst.channel.view .lockCurrentState)
    ⟨hdst, rfl, rfl⟩ fun a ha hst ⟨hlock, ht, hc⟩ => by
      have hmove := Hub.step_move hst
      obtain ⟨ht', hc', hlock', -⟩ := hmove.lock_same (hwrites a (by simp [ha])) fun l hl =>
        (hlatest a ha l hl).trans hlock.symm
      exact ⟨hlock'.trans hlock, ht'.trans ht, hc'.trans hc⟩
  rw [← Channel.view_of_queue_nil hempty, ← Channel.view_of_queue_nil hempty, htarget, hcurrent]
  rcases hreport with ⟨hold, hsame⟩ | ⟨hnew, hqueued⟩
  · rw [hsame, hold]
    simp only [forall_true_left]
    exact hshown.settled_iff
  · rw [hqueued]
    refine iff_of_true ⟨Hub.view_delivered (by simp [Notify.events]),
      Hub.view_delivered (by simp [Notify.events])⟩ fun heq => absurd heq.symm hnew

/-- The HomeKit task comes to run. -/
def served : List HubCall := [.identify (some .secPlusV2) true true, .serve]

theorem lock_pair_agrees_iff_locked :
    let pre := hub.edges (Hub.init true true) served
    let e := hub.edge (hub.last (Hub.init true true) served) (.notify (.lock .locked) true)
    let h := hub.last e.dst [.consume, .consume]
    (h.channel.values .lockTargetState = LockState.locked.value ∧
      h.channel.values .lockCurrentState = LockState.locked.value) ↔
    (e.src.lastLock = .locked → queuedOf Notify.lockState pre ≠ [] ∧
      (lockTargetsOf pre).getLast?.map LockState.value = some LockState.locked.value) :=
  lock_pair_agrees_iff (b := true)
    ((hub.trace_edges (Hub.init true true) served).append
      (hub.trace_cons (by decide +kernel) (hub.trace_edges _ [.consume, .consume])))
    (by decide +kernel) rfl ⟨by decide +kernel, by decide +kernel, by simp⟩
    (by decide +kernel) (by decide +kernel)

/-- Unlocked is delivered.  The queue fills up to one free slot, which the report of locked gets for
its target; when the queue has been worked off the opener reports unlocked. -/
def halfRun : List HubCall :=
  served ++ [.notify (.lock .unlocked) true, .consume, .consume] ++
    (List.range 31).map (fun i =>
      .notify (.motion (if i % 2 = 0 then .detected else .clear)) true) ++
    [.notify (.lock .locked) true] ++ List.replicate 32 .consume ++ [.notify (.lock .unlocked) true]

/-- **Half a report stays.**  There is room for the latest report, the queue is empty, the opener is
unlocked, and the two lock characteristics disagree. -/
theorem half_report_stays :
    ∃ pre e h, hub.toLTS.Trace (Hub.init true true) (pre ++ [e]) h ∧
      (∀ a ∈ pre ++ [e], ¬ a.label.1.WritesLock) ∧
      e.label.1 = .notify (.lock .unlocked) true ∧ e.src.Admits (.lock .unlocked) true ∧
      h.channel.queue = [] ∧ h.channel.values .lockTargetState = 1 ∧
      h.channel.values .lockCurrentState = 0 :=
  ⟨hub.edges (Hub.init true true) halfRun.dropLast, _, _,
    hub.trace_snoc (hub.trace_edges _ _) (.notify (.lock .unlocked) true) (by decide +kernel),
    by decide +kernel, rfl, ⟨by decide +kernel, by decide +kernel, by simp⟩, by decide +kernel,
    by decide +kernel, by decide +kernel⟩

end

end GdoBlaq
