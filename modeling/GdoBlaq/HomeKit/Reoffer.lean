import GdoBlaq.Control.Cancellation
import GdoBlaq.Control.Progress
import GdoBlaq.HomeKit.Home
import Mathlib.Data.List.Flatten

/-!
# What an iteration of the watchdog leaves with HomeKit

The last stage of `gdo_watchdog_task` offers HomeKit the last known states again, which is where a
push that was dropped comes back.  The auto-close stage can end the iteration before it.

## Main results

* `pushAll_holds` : what pushes that were not refused leave in the caches.
* `iteration_complete_iff` : an iteration evaluates the schedule and makes the re-offer exactly if
  its auto-close stage does not end it.
* `due_close_starves` : an iteration that does neither.
-/

namespace GdoBlaq

open Firmware

/-! ### Pushes in a row -/

/-- The characteristic of a push, for a lock report that of its target. -/
def Notify.dest : Notify → HomeKitNotifDest
  | .currentDoor _ => .doorCurrentState
  | .targetDoor _ => .doorTargetState
  | .light _ => .light
  | .lock _ => .lockTargetState
  | .obstruction _ => .obstruction
  | .motion _ => .motion
  | .learn _ => .learn

/-- No push of the step was refused, whole or in part. -/
def HomeReply.Fitted (r : HomeReply) : Prop := ∀ x ∈ r.pushes, x.2 = .same ∨ x.2 = .queued

namespace Hub

variable {h h' : Hub} {n n' : Notify} {ns : List Notify}
  {waits : List PushWait} {b : Bool} {p : Push}

theorem Delivered.holds (hdel : Delivered h n b h' p) (hp : p = .same ∨ p = .queued) :
    h'.Holds n := by
  cases hdel with
  | same hold => exact hold
  | queued => exact h.holds_delivered n
  | _ => simp at hp

theorem Delivered.holds_of_ne (hdel : Delivered h n b h' p) (hne : n'.dest ≠ n.dest) :
    h'.Holds n' ↔ h.Holds n' := by
  cases hdel with
  | queued => cases n <;> cases n' <;> simp_all [Notify.dest, Holds, delivered, commit]
  | half => cases n' <;> rfl
  | _ => exact Iff.rfl

theorem pushAll_holds_of_ne (h : Hub) (waits : List PushWait) (hne : ∀ n ∈ ns, n'.dest ≠ n.dest) :
    (h.pushAll ns waits).1.Holds n' ↔ h.Holds n' := by
  induction ns generalizing h waits with
  | nil => exact Iff.rfl
  | cons n ns ih =>
    obtain ⟨hhead, hrest⟩ := List.forall_mem_cons.1 hne
    obtain ⟨b, h₁, p, hdel, he⟩ := h.pushAll_delivered n ns waits
    rw [he, ih h₁ waits.tail hrest, hdel.holds_of_ne hhead, drain_holds]

/-- **Pushes that were not refused are in their caches.** -/
theorem pushAll_holds (h : Hub) (waits : List PushWait)
    (hdests : ns.Pairwise fun n n' => n.dest ≠ n'.dest)
    (hfit : ∀ x ∈ (h.pushAll ns waits).2, x.2 = .same ∨ x.2 = .queued) :
    ∀ n ∈ ns, (h.pushAll ns waits).1.Holds n := by
  induction ns generalizing h waits with
  | nil => simp
  | cons n ns ih =>
    obtain ⟨hhead, hrest⟩ := List.pairwise_cons.1 hdests
    obtain ⟨b, h₁, p, hdel, he⟩ := h.pushAll_delivered n ns waits
    rw [he] at hfit ⊢
    obtain ⟨hfirst, hfit⟩ := List.forall_mem_cons.1 hfit
    refine List.forall_mem_cons.2 ⟨?_, ih h₁ waits.tail hrest hfit⟩
    exact (pushAll_holds_of_ne h₁ waits.tail hhead).2 (hdel.holds hfirst)

theorem Delivered.room (hdel : Delivered h n b h' p) (hadm : h.Admits n b)
    (htile : ∀ learn, n = .learn learn → h.learnSupported = true) :
    (p = .same ∨ p = .queued) ∧ h'.notifEventQ = h.notifEventQ ∧
      h'.channel.queue.length ≤ h.channel.queue.length + n.events.length := by
  rcases hdel.of_admits hadm htile with ⟨-, hp, rfl⟩ | ⟨-, hp, rfl⟩
  · exact ⟨.inl hp, rfl, Nat.le_add_right _ _⟩
  · refine ⟨.inr hp, ?_, ?_⟩
    · cases n <;> rfl
    · cases n <;> simp [delivered, Notify.events]

theorem pushAll_fits (h : Hub) (waits : List PushWait) (hq : h.notifEventQ = true)
    (hplain : ∀ n ∈ ns, n.dest ≠ .doorTargetState ∧ n.dest ≠ .learn)
    (hroom : h.channel.queue.length + (ns.flatMap Notify.events).length ≤ notifEventSlots) :
    ∀ x ∈ (h.pushAll ns waits).2, x.2 = .same ∨ x.2 = .queued := by
  induction ns generalizing h waits with
  | nil => simp [pushAll]
  | cons n ns ih =>
    obtain ⟨⟨htarget, hlearn⟩, hrest⟩ := List.forall_mem_cons.1 hplain
    obtain ⟨b, h₁, p, hdel, he⟩ := h.pushAll_delivered n ns waits
    rw [List.flatMap_cons, List.length_append] at hroom
    generalize hd : h.drain (waits.headD {}).dequeues = d at hdel
    obtain ⟨hq', hlen'⟩ : d.notifEventQ = true ∧
        d.channel.queue.length ≤ h.channel.queue.length := by
      obtain ⟨channel, hdrain, hlen⟩ := h.drain_eq (waits.headD {}).dequeues
      rw [← hd, hdrain]
      exact ⟨hq, hlen⟩
    have hadm : d.Admits n b := by
      refine ⟨hq', by omega, ?_⟩
      rintro tgt rfl
      exact absurd rfl htarget
    rw [he]
    obtain ⟨hp, hq₁, hlen₁⟩ := hdel.room hadm (by rintro learn rfl; exact absurd rfl hlearn)
    exact List.forall_mem_cons.2 ⟨hp, ih h₁ waits.tail (hq₁.trans hq') hrest (by omega)⟩

end Hub

/-! ### One iteration -/

/-- The call of the door control that a step makes, if it is one. -/
def HomeCall.call : HomeCall → Option Call
  | .control a _ => some a.call
  | _ => none

/-- The step restarts the device. -/
def HomeCall.isReboot : HomeCall → Bool
  | .reboot _ _ _ _ _ => true
  | _ => false

/-- The watchdog wakes. -/
def Call.wakes : Call → Bool
  | .watchdogTransition _ _ => true
  | _ => false

/-- `sched_close_check` in the watchdog. -/
def Call.schedules : Call → Bool
  | .watchdogSched _ _ _ _ _ => true
  | _ => false

def HomeCall.Schedules (c : HomeCall) : Prop := c.call.any Call.schedules = true

instance : DecidablePred HomeCall.Schedules := fun c =>
  inferInstanceAs (Decidable (c.call.any Call.schedules = true))

/-- `resend_last_states_to_homekit` in the watchdog. -/
def HomeCall.Reoffers (c : HomeCall) : Prop := c.call = some .watchdogReoffer

instance : DecidablePred HomeCall.Reoffers := fun c =>
  inferInstanceAs (Decidable (c.call = some .watchdogReoffer))

/-- The auto-close stage finds the close due, and under the lock not due any more. -/
def Home.Skips (s : Home) (c : HomeCall) : Prop :=
  ∃ t current start waits now, c = .control ⟨t, .watchdogAutoClose current start⟩ waits ∧
    s.world.phase = .autoClose now ∧ autoCloseDue s.world.fw now = true ∧
    autoCloseStillDue s.world.fw t current = false

/-- One iteration of the watchdog: it wakes with the first step and sleeps again after the last.
Steps of other tasks come between, but no reboot. -/
structure Iteration (es : List HomeStep) : Prop where
  wakes : (es.head?.bind (·.label.1.call)).any Call.wakes = true
  awake : ∀ e ∈ es.tail, e.src.world.phase ≠ .delay
  sleeps : es.getLast?.map (·.dst.world.phase) = some .delay
  running : ∀ e ∈ es, e.label.1.isReboot = false

/-- How far an iteration has got. -/
def Progress (es : List HomeStep) : Phase → Prop
  | .delay => ((∃ e ∈ es, e.src.Skips e.label.1) ∧ ¬ ∃ e ∈ es, e.label.1.Schedules) ∨
      ((¬ ∃ e ∈ es, e.src.Skips e.label.1) ∧ (∃ e ∈ es, e.label.1.Schedules) ∧
        ∃ e ∈ es, e.label.1.Reoffers)
  | .reoffer => (¬ ∃ e ∈ es, e.src.Skips e.label.1) ∧ ∃ e ∈ es, e.label.1.Schedules
  | _ => (¬ ∃ e ∈ es, e.src.Skips e.label.1) ∧ ¬ ∃ e ∈ es, e.label.1.Schedules

/-- The HomeKit caches have the last states, as far as these are known. -/
structure Home.Recovered (s : Home) : Prop where
  door : s.world.fw.lastDoor ≠ .max → s.hub.lastDoor = s.world.fw.lastDoor
  light : s.world.fw.seen.lastLight ≠ .max → s.hub.lastLight = s.world.fw.seen.lastLight
  lock : s.world.fw.seen.lastLock ≠ .max → s.hub.lastLock = s.world.fw.seen.lastLock
  obstruction : s.world.fw.lastObstruction ≠ .max →
    s.hub.lastObstruction = s.world.fw.lastObstruction
  motion : s.world.fw.seen.lastMotion ≠ .max → s.hub.lastMotion = s.world.fw.seen.lastMotion

section

variable {s s' : Home} {c : HomeCall} {r : HomeReply} {es : List HomeStep} {e : HomeStep}
  {w w' : World} {a : Action}

theorem watchdogAutoClose_skip_iff {s : Firmware} {now fresh : ℤ} {current : Option GdoStatus}
    {start : TaskStart} : (watchdogAutoClose s now fresh current start).2 = .skip ↔
      autoCloseDue s now = true ∧ autoCloseStillDue s fresh current = false := by
  unfold watchdogAutoClose
  by_cases hdue : autoCloseDue s now = true
  · by_cases hstill : autoCloseStillDue s fresh current = true
    · by_cases hstart : preCloseWarningRunAsync start = .ok <;> simp [hdue, hstill, hstart]
    · simp [hdue, hstill]
  · simp [hdue]

theorem step_autoClose {t : ℤ} {current : Option GdoStatus} {start : TaskStart} {r : Reply}
    (hst : w.step ⟨t, .watchdogAutoClose current start⟩ = some (w', r)) :
    ∃ now, w.phase = .autoClose now ∧
      w'.phase = if autoCloseDue w.fw now = true ∧ autoCloseStillDue w.fw t current = false
          then .delay
        else .sched := by
  replace hst := World.perform_of_step hst
  simp only [World.perform] at hst
  split at hst
  · rename_i now hphase
    refine ⟨now, hphase, ?_⟩
    obtain ⟨rfl, -⟩ := Prod.mk.inj (Option.some.inj hst)
    have hskip : (watchdogAutoClose w.fw now t current start).2 = .skip ↔
        autoCloseDue w.fw now = true ∧ autoCloseStillDue w.fw t current = false :=
      watchdogAutoClose_skip_iff
    simp only [World.tick, ← hskip]
    split_ifs <;> simp_all [World.spawn]
  · cases hst

theorem World.step_phase {r : Reply} (hst : w.step a = some (w', r))
    (hc : a.call.isWatchdog = false)
    (hboot : a.call.isReboot = false) : w'.phase = w.phase := by
  replace hst := World.perform_of_step hst
  exact (World.perform_other hst hc hboot).1

theorem Home.Moves.watchdog (hmoves : Home.Moves s c s' r) (hboot : c.isReboot = false) :
    (s'.world.phase = s.world.phase ∧ ∀ call, c.call = some call → call.isWatchdog = false) ∨
      ∃ a waits r', c = .control a waits ∧ a.call.isWatchdog = true ∧
        s.world.step a = some (s'.world, r') := by
  cases hmoves with
  | rebooted => cases hboot
  | homeKit => exact .inl ⟨rfl, by simp [HomeCall.call]⟩
  | doorWrite _ hturn =>
    refine .inl ⟨?_, by simp [HomeCall.call]⟩
    cases hturn with
    | invalid => rfl
    | @declined tgt _ _ _ hst | @accepted tgt _ _ _ _ _ hst =>
      exact World.step_phase hst (by cases tgt <;> rfl) (by cases tgt <;> rfl)
  | @control a waits _ _ hnoboot hst =>
    cases hc : a.call.isWatchdog with
    | false => exact .inl ⟨World.step_phase hst hc hnoboot, by simp [HomeCall.call, hc]⟩
    | true => exact .inr ⟨a, waits, _, rfl, hc, hst⟩

theorem Home.not_skips (h : ∀ call, c.call = some call → call.isWatchdog = false) :
    ¬ s.Skips c := by
  rintro ⟨t, current, start, waits, now, rfl, -⟩
  cases h _ rfl

theorem HomeCall.not_schedules (h : ∀ call, c.call = some call → call.isWatchdog = false) :
    ¬ c.Schedules := by
  unfold Schedules
  cases hc : c.call with
  | none => simp
  | some call =>
    have hother := h call hc
    cases call <;> simp_all [Call.isWatchdog, Call.schedules]

/-- A step that neither skips the rest nor is `sched_close_check` changes nothing. -/
theorem Progress.snoc {p : Phase} (hi : Progress es p) (hawake : p ≠ .delay)
    (hskip : ¬ e.src.Skips e.label.1) (hsched : ¬ e.label.1.Schedules) :
    Progress (es ++ [e]) p := by
  have hskips : (∃ a ∈ es ++ [e], a.src.Skips a.label.1) ↔ ∃ a ∈ es, a.src.Skips a.label.1 := by
    simp [or_and_right, exists_or, hskip]
  have hscheds : (∃ a ∈ es ++ [e], a.label.1.Schedules) ↔ ∃ a ∈ es, a.label.1.Schedules := by
    simp [or_and_right, exists_or, hsched]
  cases p with
  | delay => exact absurd rfl hawake
  | _ => simpa only [Progress, hskips, hscheds] using hi

/-- **One step of an iteration.** -/
theorem Progress.step (hi : Progress es s.world.phase) (hawake : s.world.phase ≠ .delay)
    (hmoves : Home.Moves s c s' r) (hboot : c.isReboot = false) :
    Progress (es ++ [⟨s, (c, r), s'⟩]) s'.world.phase := by
  rcases hmoves.watchdog hboot with ⟨hphase, hother⟩ | ⟨⟨t, call⟩, waits, r', rfl, hc, hst⟩
  · rw [hphase]
    exact hi.snoc hawake (Home.not_skips hother) (HomeCall.not_schedules hother)
  have hmove := World.step_watchdog hst
  generalize hp : s'.world.phase = p, s'.world.budget = b, r'.out = out at hmove
  cases hmove with
  | other hother => simp [hother] at hc
  | woke hphase => exact absurd hphase hawake
  | @autoDone _ _ current start =>
    obtain ⟨now, hphase, hp'⟩ := step_autoClose hst
    rw [hphase] at hi
    rw [hp] at hp'
    split_ifs at hp' with hskip
    · subst hp'
      refine .inl ⟨⟨_, List.mem_append_right _ (List.mem_singleton_self _), _, _, _, _, now, rfl,
        hphase, hskip⟩, ?_⟩
      simpa [HomeCall.Schedules, HomeCall.call, Call.schedules] using hi.2
    · subst hp'
      have hno : ¬ s.Skips (.control ⟨t, .watchdogAutoClose current start⟩ waits) := by
        rintro ⟨_, _, _, _, now', he, hphase', hskip'⟩
        cases he
        cases hphase.symm.trans hphase'
        exact hskip hskip'
      have hsched : ¬ (HomeCall.control ⟨t, .watchdogAutoClose current start⟩ waits).Schedules :=
        nofun
      exact hi.snoc (e := ⟨s, (_, r), s'⟩) (by simp) hno hsched
  | schedDone hphase =>
    have hphase : s.world.phase = .sched := hphase
    rw [hphase] at hi
    refine ⟨?_, _, List.mem_append_right _ (List.mem_singleton_self _), rfl⟩
    simpa [Home.Skips] using hi.1
  | offered hphase =>
    have hphase : s.world.phase = .reoffer := hphase
    rw [hphase] at hi
    obtain ⟨hskip, e, he, hsched⟩ := hi
    refine .inr ⟨?_, ⟨e, List.mem_append_left _ he, hsched⟩, _,
      List.mem_append_right _ (List.mem_singleton_self _), rfl⟩
    simpa [Home.Skips] using hskip
  | rebooted => cases hc
  | unread hphase | waited hphase | sending hphase | reverted hphase
  | beeped hphase | resent hphase =>
    have hphase : s.world.phase = _ := hphase
    rw [hphase] at hi
    refine hi.snoc (e := ⟨s, (_, r), s'⟩) (by simp) ?_ nofun
    rintro ⟨_, _, _, _, _, he, -⟩
    cases he

theorem Progress.start (hmoves : Home.Moves s c s' r) (hwakes : c.call.any Call.wakes = true) :
    Progress [⟨s, (c, r), s'⟩] s'.world.phase := by
  cases hmoves with
  | @control a waits w r hboot hst =>
    obtain ⟨t, c⟩ := a
    obtain ⟨status, recovery, rfl⟩ : ∃ status recovery,
        c = .watchdogTransition status recovery := by
      cases c <;> simp_all [HomeCall.call, Call.wakes]
    have hmove := World.step_watchdog hst
    have hphase : w.phase = .retry t := by
      generalize w.phase = p, w.budget = b, r.out = out at hmove
      cases hmove with
      | other hother => cases hother
      | woke => rfl
    rw [show (⟨w, _⟩ : Home).world.phase = .retry t from hphase]
    simp [Progress, Home.Skips, HomeCall.Schedules, HomeCall.call, Call.schedules]
  | _ => cases hwakes

/-- **How an iteration ends**: at its auto-close stage, or with everything done. -/
theorem Iteration.progress {m : Home} (hiter : Iteration es) (hrun : home.toLTS.Trace m es s) :
    Progress es .delay := by
  have hend : s.world.phase = .delay := by
    obtain ⟨e, hlast, hsleep⟩ := Option.map_eq_some_iff.1 hiter.sleeps
    obtain ⟨pre, rfl⟩ := List.getLast?_eq_some_iff.1 hlast
    obtain ⟨-, -, rfl⟩ := LTS.Trace.snoc_iff.1 hrun
    exact hsleep
  obtain ⟨first, rest, rfl⟩ : ∃ first rest, es = first :: rest := by
    cases es with
    | nil => simpa using hiter.wakes
    | cons first rest => exact ⟨first, rest, rfl⟩
  obtain ⟨-, hst, hrest⟩ := LTS.Trace.cons_iff.1 hrun
  rw [← hend]
  refine hrest.history (I := fun es s => Progress (first :: es) s.world.phase) ?_
    fun pre e hpre hst hi => ?_
  · exact Progress.start (Home.step_moves hst) hiter.wakes
  · have hmem : e ∈ rest := hpre.subset (by simp)
    exact hi.step (hiter.awake e hmem) (Home.step_moves hst)
      (hiter.running e (List.mem_cons_of_mem _ hmem))

theorem pushesOf_resend (s : Firmware) : pushesOf (resendLastStatesToHomekit s) =
    (if s.lastDoor ≠ .max then [.currentDoor s.lastDoor] else []) ++
    (if s.seen.lastLight ≠ .max then [.light s.seen.lastLight] else []) ++
    (if s.seen.lastLock ≠ .max then [.lock s.seen.lastLock] else []) ++
    (if s.lastObstruction ≠ .max then [.obstruction s.lastObstruction] else []) ++
    (if s.seen.lastMotion ≠ .max then [.motion s.seen.lastMotion] else []) := by
  have hoffer : ∀ (p : Prop) [Decidable p] (n : Notify),
      (if p then [Out.notify n] else []).filterMap Out.push = if p then [n] else [] := by
    intro p _ n
    split_ifs <;> rfl
  simp only [pushesOf, resendLastStatesToHomekit, List.filterMap_append, hoffer]

theorem resend_sublist (s : Firmware) : (pushesOf (resendLastStatesToHomekit s)).Sublist
    [.currentDoor s.lastDoor, .light s.seen.lastLight, .lock s.seen.lastLock,
      .obstruction s.lastObstruction, .motion s.seen.lastMotion] := by
  have hoffer : ∀ (p : Prop) [Decidable p] (n : Notify), (if p then [n] else []).Sublist [n] := by
    intro p _ n
    split_ifs <;> simp
  rw [pushesOf_resend]
  exact ((((hoffer _ _).append (hoffer _ _)).append (hoffer _ _)).append (hoffer _ _)).append
    (hoffer _ _)

/-- **What a re-offer leaves.** -/
theorem Home.Moves.reoffered (hmoves : Home.Moves s c s' r) (hoffer : c.Reoffers) :
    s'.world.phase = .delay ∧
      (s.hub.notifEventQ = true → s.hub.channel.queue.length + 6 ≤ Hub.notifEventSlots → r.Fitted) ∧
      (r.Fitted → s'.Recovered) := by
  cases hmoves with
  | @control a waits w r hboot hst =>
    obtain ⟨t, c⟩ := a
    obtain rfl : c = .watchdogReoffer := Option.some.inj hoffer
    replace hst := World.perform_of_step hst
    simp only [World.perform] at hst
    split_ifs at hst
    obtain ⟨rfl, rfl⟩ := Prod.mk.inj (Option.some.inj hst)
    have hless := resend_sublist s.world.fw
    refine ⟨rfl, ?_, ?_⟩
    · intro hq hroom
      refine Hub.pushAll_fits s.hub waits hq ?_ ?_
      · intro n hn
        have hmem := hless.subset hn
        simp only [List.mem_cons, List.not_mem_nil, or_false] at hmem
        rcases hmem with rfl | rfl | rfl | rfl | rfl <;> simp [Notify.dest]
      · have hlen := (hless.flatMap Notify.events).length_le
        simp only [List.flatMap_cons, Notify.events, List.flatMap_nil, List.length_append,
          List.length_cons, List.length_nil] at hlen
        simp only [World.tick]
        omega
    · intro hfit
      have hall := Hub.pushAll_holds s.hub waits
        (List.Pairwise.sublist hless (by simp [Notify.dest])) hfit
      constructor
      · intro (hknown : s.world.fw.lastDoor ≠ .max)
        exact (hall (.currentDoor s.world.fw.lastDoor) (by simp [pushesOf_resend, hknown])).symm
      · intro (hknown : s.world.fw.seen.lastLight ≠ .max)
        exact (hall (.light s.world.fw.seen.lastLight) (by simp [pushesOf_resend, hknown])).symm
      · intro (hknown : s.world.fw.seen.lastLock ≠ .max)
        exact (hall (.lock s.world.fw.seen.lastLock) (by simp [pushesOf_resend, hknown])).symm
      · intro (hknown : s.world.fw.lastObstruction ≠ .max)
        exact (hall (.obstruction s.world.fw.lastObstruction)
          (by simp [pushesOf_resend, hknown])).symm
      · intro (hknown : s.world.fw.seen.lastMotion ≠ .max)
        exact (hall (.motion s.world.fw.seen.lastMotion) (by simp [pushesOf_resend, hknown])).symm
  | _ => cases hoffer

theorem Iteration.reoffers_last {m : Home} (hiter : Iteration es) (hrun : home.toLTS.Trace m es s)
    (he : e ∈ es) (hoffer : e.label.1.Reoffers) : e.dst = s := by
  obtain ⟨pre, post, rfl⟩ := List.append_of_mem he
  obtain ⟨-, hst, hpost⟩ := LTS.Trace.at_edge_iff.1 hrun
  cases post with
  | nil => exact LTS.Trace.nil_iff.1 hpost
  | cons a post =>
    have hsleep : e.dst.world.phase = .delay := ((Home.step_moves hst).reoffered hoffer).1
    obtain ⟨hsrc, -⟩ := LTS.Trace.cons_iff.1 hpost
    have hmem : a ∈ (pre ++ e :: a :: post).tail := by
      cases pre <;> simp
    exact absurd (hsrc ▸ hsleep) (hiter.awake a hmem)

/-- **When an iteration does its whole job.**  It evaluates the schedule and makes the re-offer, and
after a re-offer that fitted into the queue the caches have the last known states, exactly if the
auto-close stage does not end the iteration. -/
theorem iteration_complete_iff {n : Nvs} {reads : NvsReads} {setenvOk : Bool} {t₀ : ℤ} {q m : Bool}
    {pre es : List HomeStep}
    (hrun : home.toLTS.Trace (Home.boot n reads setenvOk t₀ q m) (pre ++ es) s)
    (hiter : Iteration es) :
    ((∃ e ∈ es, e.label.1.Schedules) ∧ (∃ e ∈ es, e.label.1.Reoffers) ∧
      ∀ e ∈ es, e.label.1.Reoffers →
        (e.src.hub.notifEventQ = true → e.src.hub.channel.queue.length + 6 ≤ Hub.notifEventSlots →
          e.label.2.Fitted) ∧ (e.label.2.Fitted → s.Recovered)) ↔
    ∀ e ∈ es, ¬ e.src.Skips e.label.1 := by
  obtain ⟨mid, -, hes⟩ := LTS.Trace.append_iff.1 hrun
  have hlast : ∀ e ∈ es, e.label.1.Reoffers →
      (e.src.hub.notifEventQ = true → e.src.hub.channel.queue.length + 6 ≤ Hub.notifEventSlots →
        e.label.2.Fitted) ∧ (e.label.2.Fitted → s.Recovered) := by
    intro e he hoffer
    have hoffered := (Home.step_moves (hes.step_of_mem he)).reoffered hoffer
    rw [← hiter.reoffers_last hes he hoffer]
    exact hoffered.2
  constructor
  · rintro ⟨hsched, -⟩ e he hskip
    rcases hiter.progress hes with ⟨-, hno⟩ | ⟨hno, -⟩
    · exact hno hsched
    · exact hno ⟨e, he, hskip⟩
  · intro hskip
    rcases hiter.progress hes with ⟨⟨e, he, hyes⟩, -⟩ | ⟨-, hsched, hoffer⟩
    · exact absurd hyes (hskip e he)
    · exact ⟨hsched, hoffer, hlast⟩

/-- A door that is open and clear. -/
def openedClear : List HomeCall :=
  homeCalls [⟨1000, .event (.idle .opened 0 0) .doorPosition .ok⟩,
    ⟨1000, .event (.idle .opened 0 0) .obstruction .ok⟩]

theorem iteration_complete_iff_opened :
    let m := home.last (Home.boot {} {} true 0 true true) openedClear
    let es := home.edges m (homeCalls (watchdogTick 5000 (.idle .opened 0 0)))
    let s := home.last m (homeCalls (watchdogTick 5000 (.idle .opened 0 0)))
    ((∃ e ∈ es, e.label.1.Schedules) ∧ (∃ e ∈ es, e.label.1.Reoffers) ∧
      ∀ e ∈ es, e.label.1.Reoffers →
        (e.src.hub.notifEventQ = true → e.src.hub.channel.queue.length + 6 ≤ Hub.notifEventSlots →
          e.label.2.Fitted) ∧ (e.label.2.Fitted → s.Recovered)) ↔
    ∀ e ∈ es, ¬ e.src.Skips e.label.1 :=
  iteration_complete_iff ((home.trace_edges _ openedClear).append (home.trace_edges _ _))
    ⟨by decide +kernel, by decide +kernel, by decide +kernel, by decide +kernel⟩

/-- Motion comes and goes until the queue is full, so that HomeKit is not told of the open door. -/
def droppedRun : List HomeCall :=
  let st := GdoStatus.idle .opened 0 0
  homeCalls ((List.range 32).map fun i =>
    ⟨500, .event { st with motion := if i % 2 = 0 then .detected else .clear } .motion .ok⟩) ++
    openedClear ++ homeServed ++ List.replicate 32 (.homeKit .consume)

/-- A tick at which an auto-close is due and the driver is not synced. -/
def unsyncedTick : List HomeCall :=
  homeCalls [⟨62000, .watchdogTransition none none⟩, ⟨62000, .watchdogRetry none⟩,
    ⟨62000, .watchdogAutoClose (some { GdoStatus.idle .opened 0 0 with synced := false }) {}⟩]

/-- **A close that is due starves the rest.**  The queue is empty, but the iteration neither
evaluates the schedule nor offers HomeKit the state of the door. -/
theorem due_close_starves :
    ∃ pre es s, home.toLTS.Trace (Home.boot autoCloseNvs {} true 0 true true) (pre ++ es) s ∧
      Iteration es ∧ (¬ ∃ e ∈ es, e.label.1.Schedules) ∧ (¬ ∃ e ∈ es, e.label.1.Reoffers) ∧
      s.hub.channel.queue = [] ∧ ¬ s.Recovered := by
  refine ⟨_, home.edges _ unsyncedTick, _, (home.trace_edges _ droppedRun).append
    (home.trace_edges _ unsyncedTick), ⟨by decide +kernel, by decide +kernel, by decide +kernel,
      by decide +kernel⟩, by decide +kernel, by decide +kernel, by decide +kernel, fun hall => ?_⟩
  have hdoor := hall.door (by decide +kernel)
  revert hdoor
  decide +kernel

end

end GdoBlaq
