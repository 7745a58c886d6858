import GdoBlaq.Control.Effect

/-!
# The transition that is being followed

`s_door_in_transition` and `last_door` are written by the position handler, the motor handler and
the watchdog's transition check, each in two separate steps.  The two always agree, and the
transition check brings every transition to an end.

## Main results

* `Tracked.trace` : in every state of a run a transition is followed exactly while `last_door` shows
  one.
* `transition_settles` : after a transition check the transition is young, or the door has settled.
* `wrapped_transition_followed` : a run in which the 32-bit `elapsed` hides 49 days.
-/

namespace GdoBlaq

open Firmware

/-- The door is on its way. -/
def DoorState.Moving (d : DoorState) : Prop := d = .opening ∨ d = .closing

instance : DecidablePred DoorState.Moving := fun d =>
  inferInstanceAs (Decidable (d = .opening ∨ d = .closing))

/-- A transition is followed exactly while `last_door` shows one, and it is that one. -/
structure Tracked (s : Firmware) : Prop where
  moving : s.tracking.doorInTransition = true ↔ s.lastDoor.Moving
  target : s.tracking.doorInTransition = true → s.tracking.transitionTarget = s.lastDoor

section Handlers

variable {s : Firmware} {now : ℤ} {d : DoorState}

@[simp] theorem setLastDoorState_tracking :
    (setLastDoorState s now d).1.tracking = s.tracking := by
  simp only [setLastDoorState]
  split_ifs <;> rfl

@[simp] theorem setLastDoorState_lastDoor : (setLastDoorState s now d).1.lastDoor = d := rfl

@[simp] theorem resolveDoor_tracking (status : GdoStatus) (raw : ℕ) :
    (resolveDoor s now status d raw).1.tracking = s.tracking := by
  unfold resolveDoor
  split_ifs
  · exact setLastDoorState_tracking
  · rfl

theorem resolveDoor_lastDoor (status : GdoStatus) (raw : ℕ) :
    (resolveDoor s now status d raw).1.lastDoor =
      if inferredConfirmedByRaw d raw = true then d else s.lastDoor := by
  unfold resolveDoor
  by_cases hd : d = s.lastDoor
  · simp [hd]
  · by_cases hraw : inferredConfirmedByRaw d raw = true <;> simp [hd, hraw]

theorem inferredConfirmedByRaw_of_moving {raw : ℕ} (h : d.Moving) :
    inferredConfirmedByRaw d raw = true := by
  rcases h with rfl | rfl <;> simp [inferredConfirmedByRaw]

theorem trackTransition_of_moving (k : Tracking) (raw : ℕ) (h : d.Moving) :
    (trackTransition k now d raw).doorInTransition = true ∧
      (trackTransition k now d raw).transitionTarget = d := by
  unfold trackTransition
  rw [if_pos (show d = .opening ∨ d = .closing from h)]
  split_ifs with hnew
  · exact ⟨rfl, rfl⟩
  · simp only [not_or, Bool.not_eq_true', Bool.not_eq_false, not_not] at hnew
    exact hnew

theorem trackTransition_of_still (k : Tracking) (raw : ℕ) (h : ¬ d.Moving) :
    trackTransition k now d raw =
      if inferredConfirmedByRaw d raw = true then { k with doorInTransition := false } else k := by
  unfold trackTransition
  rw [if_neg (show ¬ (d = .opening ∨ d = .closing) from h)]
  by_cases hfollowed : k.doorInTransition = true
  · simp [hfollowed]
  · obtain ⟨inTransition, start, target, startRaw⟩ := k
    obtain rfl : inTransition = false := by simpa using hfollowed
    simp

theorem Tracked.resolve (h : Tracked s) {s' : Firmware} {raw : ℕ}
    (htrack : s'.tracking = trackTransition s.tracking now d raw)
    (hdoor : s'.lastDoor = if inferredConfirmedByRaw d raw = true then d else s.lastDoor) :
    Tracked s' := by
  by_cases hd : d.Moving
  · rw [if_pos (inferredConfirmedByRaw_of_moving hd)] at hdoor
    obtain ⟨hfollowed, htarget⟩ : s'.tracking.doorInTransition = true ∧
        s'.tracking.transitionTarget = d := by
      rw [htrack]
      exact trackTransition_of_moving s.tracking raw hd
    exact ⟨by simp [hfollowed, hdoor, hd], fun _ => htarget.trans hdoor.symm⟩
  · rw [trackTransition_of_still _ _ hd] at htrack
    split_ifs at htrack hdoor with hraw
    · exact ⟨by simp [htrack, hdoor, hd], by simp [htrack]⟩
    · exact ⟨by rw [htrack, hdoor]; exact h.moving, by rw [htrack, hdoor]; exact h.target⟩

theorem Tracked.processDoorPosition (h : Tracked s) (status : GdoStatus) :
    Tracked (processDoorPosition s now status).1 := by
  unfold GdoBlaq.processDoorPosition
  split_ifs
  · exact h
  · exact h.resolve (resolveDoor_tracking _ _) (resolveDoor_lastDoor _ _)

theorem Tracked.congr (h : Tracked s) {s' : Firmware} (htrack : s'.tracking = s.tracking)
    (hdoor : s'.lastDoor = s.lastDoor) : Tracked s' :=
  ⟨by rw [htrack, hdoor]; exact h.moving, by rw [htrack, hdoor]; exact h.target⟩

theorem Tracked.gdoEventSynced (h : Tracked s) (status : GdoStatus) (rolling : EspErr) :
    Tracked (gdoEventSynced s now status rolling).1 := by
  unfold GdoBlaq.gdoEventSynced
  by_cases hsync : status.synced = true
  · simp only [hsync, Bool.not_true, Bool.false_eq_true, ite_false]
    refine Tracked.processDoorPosition ?_ status
    exact h.congr rfl rfl
  · simp only [hsync, Bool.not_false, ite_true]
    exact h.congr rfl rfl

theorem Tracked.gdoEventMotor (h : Tracked s) (status : GdoStatus) :
    Tracked (gdoEventMotor s now status).1 := by
  unfold GdoBlaq.gdoEventMotor
  split_ifs
  · exact h
  · exact ⟨by simp [DoorState.Moving], fun _ => rfl⟩
  · exact ⟨by simp [DoorState.Moving], fun _ => rfl⟩
  · exact h

theorem Tracked.gdoEventHandler (h : Tracked s) (status : GdoStatus) (event : GdoEvent)
    (rolling : EspErr) : Tracked (gdoEventHandler s now status event rolling).1 := by
  have hlink : Tracked { s with link := identifyProtocol s.link status event } := h.congr rfl rfl
  unfold GdoBlaq.gdoEventHandler
  cases event with
  | synced => exact hlink.gdoEventSynced status rolling
  | doorPosition => exact hlink.processDoorPosition status
  | motor => exact hlink.gdoEventMotor status
  | obstruction =>
    simp only [gdoEventSwitch, gdoEventObstruction]
    split_ifs
    · exact hlink.congr rfl rfl
    · exact hlink
  | button =>
    simp only [gdoEventSwitch]
    split_ifs
    · exact hlink.congr rfl rfl
    · exact hlink
  | _ => exact hlink.congr rfl rfl

/-! ### The transition check -/

@[simp] theorem correctLastDoor_tracking :
    (correctLastDoor s now d).1.tracking = s.tracking := by
  unfold correctLastDoor
  split_ifs
  · exact setLastDoorState_tracking
  · rfl

@[simp] theorem correctLastDoor_lastDoor : (correctLastDoor s now d).1.lastDoor = d := by
  unfold correctLastDoor
  split_ifs with h
  · rfl
  · exact (not_not.1 h).symm

theorem doorAtExtreme_eq_some {raw : ℕ} (h : doorAtExtreme raw = some d) :
    d = .opened ∨ d = .closed := by
  unfold doorAtExtreme at h
  split_ifs at h
  · exact .inl (Option.some.inj h).symm
  · exact .inr (Option.some.inj h).symm

theorem resolvedState_eq_some {status : GdoStatus} (h : resolvedState status = some d) :
    d = .opened ∨ d = .closed ∨ d = .stopped := by
  unfold resolvedState at h
  split_ifs at h with hdoor
  · obtain rfl := Option.some.inj h
    exact hdoor
  · exact (doorAtExtreme_eq_some h).imp_right .inl

/-- The two ends of the transition check: nothing moves, the transition not being followed, the
status not read or the time not up; or the transition has ended and the door has settled. -/
theorem watchdogTransition_cases (now fresh : ℤ) (status recovery : Option GdoStatus) :
    ((watchdogTransition s now fresh status recovery).1 = s ∧
      ∀ st, status = some st → s.tracking.doorInTransition = true →
        transitionElapsed s now ≤ transitionTimeoutMs s now st) ∨
    ∃ settled, (settled = .opened ∨ settled = .closed ∨ settled = .stopped) ∧
      (watchdogTransition s now fresh status recovery).1.tracking =
        { s.tracking with doorInTransition := false } ∧
      (watchdogTransition s now fresh status recovery).1.lastDoor = settled := by
  unfold watchdogTransition
  by_cases hfollowed : s.tracking.doorInTransition = true
  · cases status with
    | none => exact .inl ⟨by simp [hfollowed], by simp⟩
    | some st =>
      by_cases htime : transitionElapsed s now ≤ transitionTimeoutMs s now st
      · exact .inl ⟨by simp [hfollowed, htime], fun _ h _ => Option.some.inj h ▸ htime⟩
      · refine .inr ?_
        simp only [hfollowed, htime, Bool.not_true, Bool.false_eq_true, ite_false]
        cases hres : resolvedState st with
        | none => exact ⟨.stopped, by simp, by simp, by simp⟩
        | some settled => exact ⟨settled, resolvedState_eq_some hres, by simp, by simp⟩
  · exact .inl ⟨by simp [hfollowed], fun _ _ h => absurd h hfollowed⟩

theorem Tracked.watchdogTransition (h : Tracked s) (fresh : ℤ)
    (status recovery : Option GdoStatus) :
    Tracked (watchdogTransition s now fresh status recovery).1 := by
  rcases watchdogTransition_cases (s := s) now fresh status recovery with
    ⟨hsame, -⟩ | ⟨settled, hset, htrack, hdoor⟩
  · rw [hsame]
    exact h
  · have hstill : ¬ settled.Moving := by rcases hset with rfl | rfl | rfl <;> decide
    exact ⟨by simp [htrack, hdoor, hstill], by simp [htrack]⟩

theorem transitionTimeoutMs_le (now : ℤ) (status : GdoStatus) :
    transitionTimeoutMs s now status ≤ max 35000 (measuredMs s status + 10000) := by
  unfold transitionTimeoutMs gdoDoorStallCheckMs gdoDoorTransitMarginMs gdoDoorTransitFallbackMs
  lift_lets
  intro measured moved stalled
  split
  · omega
  · split <;> omega

/-- `elapsed` is the time since the start until it comes round. -/
theorem le_transitionElapsed (h : now - s.tracking.transitionStartMs < 2 ^ 32) :
    now - s.tracking.transitionStartMs ≤ transitionElapsed s now := by
  unfold transitionElapsed u32
  split_ifs with hpos
  · rw [Int.emod_eq_of_lt hpos.le (by omega)]
    omega
  · push_cast
    omega

end Handlers

/-! ### Runs -/

section Runs

variable {w w' : World} {es : List Step} {c : Call} {r : Reply}

/-- Only the driver's news touch the transition and `last_door`. -/
theorem Effect.tracking (h : Effect w c w' r) (hc : c.isNews = false) (hboot : c.isReboot = false) :
    w'.fw.tracking = w.fw.tracking ∧ w'.fw.lastDoor = w.fw.lastDoor := by
  cases h with
  | news hcall => simp [hc] at hcall
  | rebooted => simp [Call.isReboot] at hboot
  | _ => exact ⟨rfl, rfl⟩

theorem Tracked.boot (n : Nvs) (reads : NvsReads) (setenvOk : Bool) :
    Tracked (boot n reads setenvOk) := by
  obtain ⟨_, _, _, _, _, _, hboot⟩ := boot_eq (n := n) reads setenvOk
  rw [hboot]
  exact ⟨by simp [DoorState.Moving], by simp⟩

theorem Tracked.perform (h : Tracked w.fw) (hw : w.perform c = some (w', r)) : Tracked w'.fw := by
  have heff := World.perform_effect hw
  cases c with
  | event status event rolling =>
    obtain ⟨rfl, rfl⟩ := Prod.mk.inj (Option.some.inj hw)
    exact h.gdoEventHandler status event rolling
  | watchdogTransition status recovery =>
    simp only [World.perform] at hw
    split_ifs at hw
    obtain ⟨rfl, rfl⟩ := Prod.mk.inj (Option.some.inj hw)
    exact h.watchdogTransition w.clock status recovery
  | reboot reads setenvOk =>
    obtain ⟨rfl, rfl⟩ := Prod.mk.inj (Option.some.inj hw)
    exact Tracked.boot w.nvs reads setenvOk
  | _ =>
    obtain ⟨htrack, hdoor⟩ := heff.tracking rfl rfl
    exact h.congr htrack hdoor

theorem Tracked.step {a : Action} (h : Tracked w.fw) (hst : w.step a = some (w', r)) :
    Tracked w'.fw := by
  replace hst := World.perform_of_step hst
  have htick : Tracked (w.tick a.t).fw := h.congr rfl rfl
  exact htick.perform hst

/-- **The tracked transition is the one that `last_door` shows**, in every state of a run. -/
theorem Tracked.trace {n : Nvs} {reads : NvsReads} {setenvOk : Bool} {t₀ : ℤ}
    (hrun : control.toLTS.Trace (World.boot n reads setenvOk t₀) es w) : Tracked w.fw := by
  refine hrun.invariant (I := fun w => Tracked w.fw) ?_ fun e _ hst hsrc => hsrc.step hst
  exact Tracked.boot n reads setenvOk

theorem checked_transition {a : Action} {st : GdoStatus} {recovery : Option GdoStatus}
    (hst : w.step a = some (w', r)) (hcall : a.call = .watchdogTransition (some st) recovery)
    (hfollowed : w.fw.tracking.doorInTransition = true)
    (htime : a.t - w.fw.tracking.transitionStartMs < 2 ^ 32) :
    (w'.fw.tracking.doorInTransition = true →
      a.t - w'.fw.tracking.transitionStartMs ≤ max 35000 (measuredMs w.fw st + 10000)) ∧
    (w'.fw.tracking.doorInTransition = false →
      w'.fw.lastDoor = .opened ∨ w'.fw.lastDoor = .closed ∨ w'.fw.lastDoor = .stopped) := by
  replace hst := World.perform_of_step hst
  simp only [hcall, World.perform] at hst
  split_ifs at hst
  obtain ⟨rfl, -⟩ := Prod.mk.inj (Option.some.inj hst)
  rcases watchdogTransition_cases (s := w.fw) a.t a.t (some st) recovery with
    ⟨hsame, hle⟩ | ⟨settled, hset, htrack, hdoor⟩
  · have helapsed := le_transitionElapsed htime
    have hlimit := transitionTimeoutMs_le (s := w.fw) a.t st
    have hshort := hle st rfl hfollowed
    simp only [World.tick, hsame]
    exact ⟨fun _ => by omega, fun h => by simp [hfollowed] at h⟩
  · simp only [World.tick, htrack, hdoor]
    exact ⟨fun h => by simp at h, fun _ => hset⟩

/-- **Every transition settles.**  In every run a transition is followed exactly while `last_door`
shows one; and after a transition check that read a status, less than 2^32 ms after the transition
began, a transition that is still followed is within its time limit, and one that the check ended
has settled. -/
theorem transition_settles {n : Nvs} {reads : NvsReads} {setenvOk : Bool} {t₀ : ℤ}
    (hrun : control.toLTS.Trace (World.boot n reads setenvOk t₀) es w) :
    (w.fw.tracking.doorInTransition = true ↔
      w.fw.lastDoor = .opening ∨ w.fw.lastDoor = .closing) ∧
    (w.fw.tracking.doorInTransition = true →
      w.fw.tracking.transitionTarget = w.fw.lastDoor) ∧
    ∀ e ∈ es, ∀ st recovery, e.label.1.call = .watchdogTransition (some st) recovery →
      e.src.fw.tracking.doorInTransition = true →
      e.label.1.t - e.src.fw.tracking.transitionStartMs < 2 ^ 32 →
      (e.dst.fw.tracking.doorInTransition = true →
        e.label.1.t - e.dst.fw.tracking.transitionStartMs ≤
            max 35000 (measuredMs e.src.fw st + 10000) ∧
          (st.openMs < 2 ^ 16 → st.closeMs < 2 ^ 16 →
            max 35000 (measuredMs e.src.fw st + 10000) ≤ 75535)) ∧
      (e.dst.fw.tracking.doorInTransition = false →
        e.dst.fw.lastDoor = .opened ∨ e.dst.fw.lastDoor = .closed ∨
          e.dst.fw.lastDoor = .stopped) := by
  obtain ⟨hmoving, htarget⟩ := Tracked.trace hrun
  refine ⟨hmoving, htarget, ?_⟩
  intro e he st recovery hcall hfollowed htime
  obtain ⟨hstill, hended⟩ := checked_transition (hrun.step_of_mem he) hcall hfollowed htime
  refine ⟨fun h => ⟨hstill h, ?_⟩, hended⟩
  intro hopen hclose
  unfold measuredMs
  split_ifs <;> omega

/-- An opening door, with a learned travel time of 65535 ms. -/
def opening (doorPosition : ℤ) : GdoStatus :=
  { GdoStatus.idle .opening doorPosition 0 with openMs := 65535 }

/-- The door starts to open at 1 s; the watchdog checks 75 s later. -/
def openingRun : List Action :=
  ⟨1000, .event (opening 9000) .doorPosition .ok⟩ :: watchdogTick 76000 (opening 5000)

theorem transition_settles_opening :
    let w := control.last (World.boot {} {} true 0) openingRun
    (w.fw.tracking.doorInTransition = true ↔
      w.fw.lastDoor = .opening ∨ w.fw.lastDoor = .closing) ∧
    (w.fw.tracking.doorInTransition = true →
      w.fw.tracking.transitionTarget = w.fw.lastDoor) ∧
    ∀ e ∈ control.edges (World.boot {} {} true 0) openingRun, ∀ st recovery,
      e.label.1.call = .watchdogTransition (some st) recovery →
      e.src.fw.tracking.doorInTransition = true →
      e.label.1.t - e.src.fw.tracking.transitionStartMs < 2 ^ 32 →
      (e.dst.fw.tracking.doorInTransition = true →
        e.label.1.t - e.dst.fw.tracking.transitionStartMs ≤
            max 35000 (measuredMs e.src.fw st + 10000) ∧
          (st.openMs < 2 ^ 16 → st.closeMs < 2 ^ 16 →
            max 35000 (measuredMs e.src.fw st + 10000) ≤ 75535)) ∧
      (e.dst.fw.tracking.doorInTransition = false →
        e.dst.fw.lastDoor = .opened ∨ e.dst.fw.lastDoor = .closed ∨
          e.dst.fw.lastDoor = .stopped) :=
  transition_settles (control.trace_edges _ _)

/-- The step is a transition check that read a status. -/
def Call.checksTransition : Call → Bool
  | .watchdogTransition (some _) _ => true
  | _ => false

/-- **A transition that is followed for 49 days.**  The opener's status is read at 75 s and again
2^32 - 1 ms later, when the 32-bit `elapsed` reads one millisecond less than it did. -/
theorem wrapped_transition_followed :
    ∃ es w, control.toLTS.Trace (World.boot {} {} true 0) es w ∧
      (∀ e₁ ∈ es, ∀ e₂ ∈ es, e₁.label.1.call.checksTransition = true →
        e₂.label.1.call.checksTransition = true → e₂.label.1.t - e₁.label.1.t < 2 ^ 32) ∧
      ∃ e ∈ es, ∃ st recovery, e.label.1.call = .watchdogTransition (some st) recovery ∧
        e.dst.fw.tracking.doorInTransition = true ∧
        (max 35000 (measuredMs e.src.fw st + 10000) : ℤ) <
          e.label.1.t - e.dst.fw.tracking.transitionStartMs := by
  let late : Action :=
    ⟨76000 + (2 ^ 32 - 1), .watchdogTransition (some (opening 5000)) (some (opening 5000))⟩
  have hrun := control.trace_snoc (control.trace_edges (World.boot {} {} true 0) openingRun) late
    (by decide +kernel)
  exact ⟨_, _, hrun, by decide +kernel, _, List.mem_append_right _ (List.mem_singleton_self _),
    opening 5000, some (opening 5000), control.edge_action _ _ ▸ rfl, by decide +kernel,
    by decide +kernel⟩

end Runs

end GdoBlaq
