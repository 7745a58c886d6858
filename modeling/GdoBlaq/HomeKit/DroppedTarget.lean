import GdoBlaq.Control.Target
import GdoBlaq.HomeKit.Reoffer

/-!
# A Target that was dropped

The re-offer has the state of the door and no Target, so a Target push that was refused is made
again only if some event or task makes it.

## Main results

* `lastTarget_eq_accepted` : `last_target` is the Target accepted last.
* `dropped_target_recovered_iff` : what `last_target` is once the driver has fallen silent.
* `dropped_target_stays` : a closed door whose Target stays open.
-/

namespace GdoBlaq

open Firmware

/-! ### Accepted targets -/

/-- The Target that a push got accepted. -/
def acceptedOf : Notify × Push → Option TargetState
  | (.targetDoor tgt, p) => if p = .refused then none else some tgt
  | _ => none

/-- The Target accepted last since the last boot. -/
def acceptedTarget (es : List HomeStep) : Option TargetState :=
  es.foldl (fun last e =>
    if e.label.1.isReboot then none
    else (e.label.2.pushes.filterMap acceptedOf).getLast?.or last) none

section

variable {h h' : Hub} {n : Notify} {ns : List Notify} {waits : List PushWait} {b : Bool} {p : Push}
  {s s' : Home} {c : HomeCall} {r : HomeReply} {es : List HomeStep}

theorem acceptedTarget_snoc (es : List HomeStep) (e : HomeStep) : acceptedTarget (es ++ [e]) =
    if e.label.1.isReboot then none
    else (e.label.2.pushes.filterMap acceptedOf).getLast?.or (acceptedTarget es) := by
  simp [acceptedTarget]

theorem Hub.Delivered.lastTarget (hdel : Hub.Delivered h n b h' p) :
    h'.lastTarget = (acceptedOf (n, p)).or h.lastTarget := by
  cases hdel with
  | same hold =>
    cases n with
    | targetDoor tgt => simpa [acceptedOf] using Eq.symm hold
    | _ => rfl
  | queued => cases n <;> rfl
  | half hn | hidden hn =>
    subst hn
    rfl
  | refused => cases n <;> rfl

theorem Hub.pushAll_lastTarget (h : Hub) (ns : List Notify) (waits : List PushWait) :
    (h.pushAll ns waits).1.lastTarget =
      ((h.pushAll ns waits).2.filterMap acceptedOf).getLast?.or h.lastTarget := by
  induction ns generalizing h waits with
  | nil => rfl
  | cons n ns ih =>
    obtain ⟨b, h₁, p, hdel, he⟩ := h.pushAll_delivered n ns waits
    have hhead := hdel.lastTarget
    rw [Hub.drain_lastTarget] at hhead
    rw [he, ih h₁ waits.tail, hhead]
    cases hacc : acceptedOf (n, p) with
    | none => simp [hacc]
    | some tgt =>
      rw [List.filterMap_cons, hacc, List.getLast?_cons]
      cases ((h₁.pushAll ns waits.tail).2.filterMap acceptedOf).getLast? <;> rfl

/-- What a step leaves in `last_target`. -/
theorem Home.Moves.lastTarget (hmoves : Home.Moves s c s' r) : s'.hub.lastTarget =
    if c.isReboot then none else (r.pushes.filterMap acceptedOf).getLast?.or s.hub.lastTarget := by
  cases hmoves with
  | control => exact Hub.pushAll_lastTarget _ _ _
  | rebooted => rfl
  | @homeKit c _ _ hown hst =>
    have hnone : c.pushes = none := by
      cases c <;> simp_all [HubCall.isOwn, HubCall.pushes]
    have hmove := Hub.step_move hst
    cases hmove with
    | pushed hcall => simp [hnone] at hcall
    | _ => rfl
  | @doorWrite d _ _ _ hturn =>
    cases hturn with
    | invalid | declined => exact Hub.drain_lastTarget _ _
    | @accepted tgt _ _ _ p _ _ _ hpush =>
      have hdel := (s.hub.drain d.wait.dequeues).notify_delivered
        (.targetDoor tgt) d.wait.mutexTaken
      rw [hpush] at hdel
      have hlast := hdel.lastTarget
      rw [Hub.drain_lastTarget] at hlast
      rw [hlast]
      cases hacc : acceptedOf (.targetDoor tgt, p) <;> simp [hacc, HomeCall.isReboot]

/-- **`last_target` is the Target accepted last.** -/
theorem lastTarget_eq_accepted {n : Nvs} {reads : NvsReads} {setenvOk : Bool} {t₀ : ℤ} {q m : Bool}
    (hrun : home.toLTS.Trace (Home.boot n reads setenvOk t₀ q m) es s) :
    s.hub.lastTarget = acceptedTarget es := by
  refine hrun.history (I := fun es s => s.hub.lastTarget = acceptedTarget es) rfl
    fun pre e _ hst hi => ?_
  rw [acceptedTarget_snoc, ← hi]
  exact (Home.step_moves hst).lastTarget

end

/-! ### Silence -/

/-- The driver reports nothing, nothing is requested and no close is sent, and the retry stage finds
no request outstanding. -/
def Call.quiet (s : Firmware) : Call → Bool
  | .event _ _ _ | .controlOpen _ | .userCloseTask _ _ _ _ | .reboot _ _ => false
  | .autoCloseComplete _ status _ => !autoCloseValid s status
  | .schedCloseComplete _ status _ => !schedCloseValid s status
  | .watchdogRetry (some status) => !requestPending s status
  | _ => true

def Home.quiet (s : Home) : HomeCall → Bool
  | .control a _ => a.call.quiet s.world.fw
  | .homeKit _ => true
  | _ => false

section

variable {w w' : World} {c : Call} {r : Reply} {tgt : TargetState}

theorem retryDecision_of_not_pending {s : Firmware} {b : RetryBudget} {now : ℤ} {status : GdoStatus}
    (h : requestPending s status = false) : (retryDecision s b now status).2 = .wait := by
  unfold retryDecision retryBudgetStep RetryBudget.observe
  simp only [h]
  split_ifs <;> simp_all

theorem targetsOf_resend (s : Firmware) : targetsOf (resendLastStatesToHomekit s) = [] := by
  have hoffer : ∀ (p : Prop) [Decidable p] (o : Out), o.target = none →
      targetsOf (if p then [o] else []) = [] := by
    intro p _ o ho
    split_ifs
    · simp [ho]
    · rfl
  simp only [resendLastStatesToHomekit, targetsOf_append, List.append_eq_nil_iff]
  exact ⟨⟨⟨⟨hoffer _ _ rfl, hoffer _ _ rfl⟩, hoffer _ _ rfl⟩, hoffer _ _ rfl⟩, hoffer _ _ rfl⟩

theorem WatchdogMove.silent {p : Phase} {b : RetryBudget} {out : List Out}
    (hmove : WatchdogMove w c p b out) (hstage : c.isWatchdog = true) (hquiet : c.quiet w.fw = true)
    (hwakes : c.wakes = false) (hoffer : c ≠ .watchdogReoffer) : targetsOf out = [] := by
  cases hmove with
  | other hother => simp [hother] at hstage
  | woke => cases hwakes
  | @reverted now status _ _ _ hdec =>
    have hwait : (retryDecision w.fw w.budget now status).2 = .wait :=
      retryDecision_of_not_pending (by simpa [Call.quiet] using hquiet)
    simp [hdec] at hwait
  | @resent _ status generation _ recheck request err =>
    rcases watchdogResend_cases (s := w.fw) generation status recheck request err with
      he | ⟨_, _, -, -, -, -, -, -, he⟩
    · rw [he]
      rfl
    · rw [he]
      rfl
  | offered => exact absurd rfl hoffer
  | _ => rfl

/-- **Silence pushes no Target.** -/
theorem World.perform_silent (h : w.perform c = some (w', r)) (hquiet : c.quiet w.fw = true)
    (htrack : w.fw.tracking.doorInTransition = false) :
    targetsOf r.out = [] ∧ w'.fw.lastDoor = w.fw.lastDoor := by
  have hkept : c.isNews = false → c.isReboot = false → w'.fw.lastDoor = w.fw.lastDoor :=
    fun hnews hboot => ((World.perform_effect h).tracking hnews hboot).2
  cases c with
  | event | controlOpen | userCloseTask | reboot => simp [Call.quiet] at hquiet
  | watchdogTransition status recovery =>
    simp only [World.perform] at h
    split_ifs at h
    obtain ⟨rfl, rfl⟩ := Prod.mk.inj (Option.some.inj h)
    simp [watchdogTransition, htrack]
  | watchdogRetry | watchdogResend | watchdogAutoClose | watchdogSched | watchdogWarningCycle =>
    exact ⟨(World.perform_watchdog h).silent rfl hquiet rfl (by simp), hkept rfl rfl⟩
  | watchdogReoffer =>
    refine ⟨?_, hkept rfl rfl⟩
    simp only [World.perform] at h
    split_ifs at h
    obtain ⟨rfl, rfl⟩ := Prod.mk.inj (Option.some.inj h)
    exact targetsOf_resend w.fw
  | autoCloseComplete tid status err =>
    refine ⟨?_, hkept rfl rfl⟩
    simp only [World.perform] at h
    split at h
    · obtain ⟨rfl, rfl⟩ := Prod.mk.inj (Option.some.inj h)
      simp_all [Call.quiet, autoCloseWarningCompleteCb]
    · cases h
  | schedCloseComplete tid status err =>
    refine ⟨?_, hkept rfl rfl⟩
    simp only [World.perform] at h
    split at h
    · obtain ⟨rfl, rfl⟩ := Prod.mk.inj (Option.some.inj h)
      simp_all [Call.quiet, schedCloseWarningCompleteCb]
    · cases h
  | setPreCloseBuzzer | setAutoCloseTimeoutMs | setAutoCloseEnabled | setCloseSchedule =>
    refine ⟨?_, hkept rfl rfl⟩
    obtain ⟨rfl, rfl⟩ := Prod.mk.inj (Option.some.inj h)
    rfl
  | controlClose =>
    refine ⟨?_, hkept rfl rfl⟩
    simp only [World.perform] at h
    split at h
    · obtain ⟨rfl, rfl⟩ := Prod.mk.inj (Option.some.inj h)
      rfl
    · obtain ⟨rfl, rfl⟩ := Prod.mk.inj (Option.some.inj h)
      rfl
  | warningCycle =>
    refine ⟨?_, hkept rfl rfl⟩
    simp only [World.perform] at h
    split_ifs at h
    obtain ⟨rfl, rfl⟩ := Prod.mk.inj (Option.some.inj h)
    rfl

theorem dest_of_targetsOf {out : List Out} (h : targetsOf out = []) {n : Notify}
    (hn : n ∈ pushesOf out) : n.dest ≠ .doorTargetState := by
  obtain ⟨o, ho, hpush⟩ := List.mem_filterMap.1 hn
  have hnone := List.filterMap_eq_nil_iff.1 h o ho
  rintro hdest
  cases o with
  | notify n' =>
    obtain rfl := Option.some.inj hpush
    cases n' <;> simp_all [Notify.dest, Out.target]
  | _ => cases hpush

theorem lastTarget_eq_of_holds {h h' : Hub}
    (hholds : ∀ tgt, h'.Holds (.targetDoor tgt) ↔ h.Holds (.targetDoor tgt)) :
    h'.lastTarget = h.lastTarget := by
  refine Option.ext ?_
  intro tgt
  have htgt : some tgt = h'.lastTarget ↔ some tgt = h.lastTarget := hholds tgt
  rw [eq_comm, htgt, eq_comm]

/-- **One step of silence.** -/
theorem Home.Moves.silent {s s' : Home} {c : HomeCall} {r : HomeReply}
    (hmoves : Home.Moves s c s' r)
    (hquiet : s.quiet c = true) (htrack : s.world.fw.tracking.doorInTransition = false) :
    s'.hub.lastTarget = s.hub.lastTarget ∧ s'.world.fw.lastDoor = s.world.fw.lastDoor := by
  cases hmoves with
  | @control a waits w r hboot hst =>
    replace hst := World.perform_of_step hst
    obtain ⟨hnone, hdoor⟩ := World.perform_silent hst hquiet htrack
    refine ⟨lastTarget_eq_of_holds ?_, hdoor⟩
    intro tgt
    exact Hub.pushAll_holds_of_ne s.hub waits fun n hn => (dest_of_targetsOf hnone hn).symm
  | homeKit hown hst => exact ⟨(Home.Moves.homeKit hown hst).lastTarget, rfl⟩
  | _ => cases hquiet

/-- **When a dropped Target is made good.**  Whatever was refused in a run, let the driver fall
silent with the door at an end and no command outstanding.  However long the watchdog goes on,
`last_target` is that end exactly if the Target accepted last before the silence was; and when the
queue is empty HomeKit shows the target that it is. -/
theorem dropped_target_recovered_iff {n : Nvs} {reads : NvsReads} {setenvOk : Bool} {t₀ : ℤ}
    {q m : Bool} {pre es : List HomeStep} {mid s : Home}
    (hrun : home.toLTS.Trace (Home.boot n reads setenvOk t₀ q m) pre mid)
    (hsilence : home.toLTS.Trace mid es s) (hquiet : ∀ e ∈ es, e.src.quiet e.label.1 = true)
    (hend : mid.world.fw.lastDoor.atEnd = some tgt) :
    s.world.fw.lastDoor = mid.world.fw.lastDoor ∧
      (s.hub.lastTarget = some tgt ↔ acceptedTarget pre = some tgt) ∧
      (s.hub.channel.queue = [] → ∀ shown, s.hub.lastTarget = some shown →
        s.hub.channel.values .doorTargetState = shown.value) := by
  obtain ⟨htarget, hdoor⟩ := hsilence.invariant
    (I := fun s => s.hub.lastTarget = mid.hub.lastTarget ∧
      s.world.fw.lastDoor = mid.world.fw.lastDoor) ⟨rfl, rfl⟩ fun e he hst ⟨ht, hd⟩ => by
    obtain ⟨before, after, rfl⟩ := List.append_of_mem he
    obtain ⟨hbefore, -, -⟩ := LTS.Trace.at_edge_iff.1 hsilence
    obtain ⟨_, hworld⟩ := home_trace_world (hrun.append hbefore)
    -- a door at an end is not being followed
    have hstill : e.src.world.fw.tracking.doorInTransition = false := by
      have htracked : Tracked e.src.world.fw := Tracked.trace hworld
      rw [← Bool.not_eq_true, htracked.moving, hd]
      rcases DoorState.atEnd_eq_some hend with ⟨hd, -⟩ | ⟨hd, -⟩ <;> rw [hd] <;> decide
    obtain ⟨ht', hd'⟩ := (Home.step_moves hst).silent (hquiet e he) hstill
    exact ⟨ht'.trans ht, hd'.trans hd⟩
  refine ⟨hdoor, ?_, ?_⟩
  · rw [htarget, lastTarget_eq_accepted hrun]
  · intro hempty shown hshown
    obtain ⟨_, _, _, hhub⟩ := home_trace_hub (hrun.append hsilence)
    rw [← Channel.view_of_queue_nil hempty]
    have hagrees : Hub.Agrees _ .doorTargetState :=
      Hub.agrees_of_queueOnly hhub (by simp [Hub.QueueOnly])
    exact hagrees (by simp) _ (by simp [Hub.cached, hshown])

/-- The door is reported closed while the mutex of the targets is held. -/
def unheardClosed : List HomeCall :=
  homeServed ++ [.control ⟨1000, .event (.idle .closed 10000 10000) .doorPosition .ok⟩
    (List.replicate 4 { mutexTaken := false })]

/-- Two iterations of the watchdog, after each of which the queue is worked off. -/
def silentTicks : List HomeCall :=
  let st := GdoStatus.idle .closed 10000 10000
  homeCalls (watchdogTick 5000 st) ++ List.replicate 2 (.homeKit .consume) ++
    homeCalls (watchdogTick 10000 st)

theorem dropped_target_recovered_iff_unheard :
    let pre := home.edges (Home.boot {} {} true 0 true true) unheardClosed
    let mid := home.last (Home.boot {} {} true 0 true true) unheardClosed
    let s := home.last mid silentTicks
    s.world.fw.lastDoor = mid.world.fw.lastDoor ∧
      (s.hub.lastTarget = some .closed ↔ acceptedTarget pre = some .closed) ∧
      (s.hub.channel.queue = [] → ∀ shown, s.hub.lastTarget = some shown →
        s.hub.channel.values .doorTargetState = shown.value) :=
  dropped_target_recovered_iff (home.trace_edges _ unheardClosed) (home.trace_edges _ silentTicks)
    (by decide +kernel) (by decide +kernel)

/-- **A dropped Target stays dropped.**  The door is closed and the Target push for it was refused;
two re-offers later, with the queue empty, `last_target` is not closed, and HomeKit shows a closed
door with an open target. -/
theorem dropped_target_stays :
    ∃ pre mid es s, home.toLTS.Trace (Home.boot {} {} true 0 true true) pre mid ∧
      (∃ e ∈ pre, (.targetDoor .closed, .refused) ∈ e.label.2.pushes) ∧
      home.toLTS.Trace mid es s ∧ (∀ e ∈ es, e.src.quiet e.label.1 = true) ∧
      es.countP (fun e => e.label.1.Reoffers) = 2 ∧ mid.world.fw.lastDoor = .closed ∧
      s.world.fw.lastDoor = .closed ∧ s.hub.lastTarget ≠ some .closed ∧ s.hub.channel.queue = [] ∧
      s.hub.channel.values .doorTargetState = 0 ∧ s.hub.channel.values .doorCurrentState = 1 :=
  ⟨_, _, _, _, home.trace_edges _ unheardClosed, by decide +kernel, home.trace_edges _ silentTicks,
    by decide +kernel, by decide +kernel, by decide +kernel, by decide +kernel, by decide +kernel,
    by decide +kernel, by decide +kernel, by decide +kernel⟩

end

end GdoBlaq
