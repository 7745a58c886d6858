import GdoBlaq.Control.Transition
import GdoBlaq.Control.Progress

/-!
# The target that goes with a settled door

A position event may push Target from the transition, from the driver's `door_target` and from the
state it resolves, and only the last push counts.  `door_target` is the last request the driver
knows of, and nothing takes it back when the door does not follow.

## Main results

* `processDoorPosition_target` : the last Target that a position event of a settled door pushes.
* `settled_target_agrees_iff` : it agrees with the door exactly if a door that was settled there
  already has no Security+ 2.0 target at the other end.
* `reverted_close_shown_again` : a close that was given up comes back to the Home app.
-/

namespace GdoBlaq

open Firmware

/-- The Target that an output pushes. -/
def Out.target : Out → Option TargetState
  | .notify (.targetDoor tgt) => some tgt
  | _ => none

/-- The Target pushes among some outputs, in order. -/
def targetsOf (out : List Out) : List TargetState := out.filterMap Out.target

/-- The Target that goes with a door at an end. -/
def DoorState.atEnd : DoorState → Option TargetState
  | .opened => some .opened
  | .closed => some .closed
  | _ => none

/-- The end that the driver's `door_target` names. -/
def driverEnd (doorTarget : ℤ) : Option TargetState :=
  if doorTarget = 0 then some .opened else if doorTarget = 10000 then some .closed else none

@[simp] theorem targetsOf_nil : targetsOf [] = [] := rfl

@[simp] theorem targetsOf_append (out out' : List Out) :
    targetsOf (out ++ out') = targetsOf out ++ targetsOf out' :=
  List.filterMap_append

@[simp] theorem targetsOf_cons (o : Out) (out : List Out) :
    targetsOf (o :: out) = o.target.toList ++ targetsOf out := by
  unfold targetsOf
  cases h : o.target <;> simp [h]

section

variable {s : Firmware} {now : ℤ} {status : GdoStatus} {tgt : TargetState}

theorem DoorState.atEnd_eq_some {d : DoorState} (h : d.atEnd = some tgt) :
    (d = .opened ∧ tgt = .opened) ∨ (d = .closed ∧ tgt = .closed) := by
  cases d <;> simp_all [DoorState.atEnd]

theorem inferDoor_of_atEnd (h : status.door.atEnd = some tgt) (raw : ℕ) :
    inferDoor status raw = status.door := by
  have hne : status.door ≠ .max := by
    intro hmax
    simp [hmax, DoorState.atEnd] at h
  unfold inferDoor
  split <;> simp [hne]

theorem targetsOf_targetOfDriver (doorTarget : ℤ) :
    targetsOf (targetOfDriver doorTarget) = (driverEnd doorTarget).toList := by
  unfold targetOfDriver driverEnd
  split_ifs <;> rfl

theorem protocolTarget_of_settled (hfollowed : s.tracking.doorInTransition = false)
    (h : status.door.atEnd = some tgt) :
    targetsOf (protocolTarget s status status.door) =
      if status.protocol = .secPlusV2 then (driverEnd status.doorTarget).toList else [] := by
  have hnone : targetOfMoving status.door = [] := by
    rcases DoorState.atEnd_eq_some h with ⟨hd, -⟩ | ⟨hd, -⟩ <;> rw [hd] <;> rfl
  unfold protocolTarget
  split <;> simp_all [targetsOf_targetOfDriver]

theorem targetOfResolved_atEnd (h : status.door.atEnd = some tgt) (raw : ℕ) :
    targetOfResolved status status.door raw = [.notify (.targetDoor tgt)] := by
  rcases DoorState.atEnd_eq_some h with ⟨hd, rfl⟩ | ⟨hd, rfl⟩ <;> rw [hd] <;> rfl

theorem targetsOf_resolveDoor (h : status.door.atEnd = some tgt) {raw : ℕ}
    (hraw : inferredConfirmedByRaw status.door raw = true) :
    targetsOf (resolveDoor s now status status.door raw).2 =
      if s.lastDoor = status.door then [] else [tgt] := by
  have hnotice : targetsOf (jumpNotice s.lastDoor status.door) = [] := by
    unfold jumpNotice
    split_ifs <;> rfl
  unfold resolveDoor
  by_cases hsame : s.lastDoor = status.door
  · simp [hsame]
  · rw [if_pos ⟨Ne.symm hsame, hraw⟩, if_neg hsame]
    simp [setLastDoorState, hnotice, targetOfResolved_atEnd h, Out.target]

/-- **The last Target of a position event** whose door is at an end that the position confirms: that
end if the event brought it there, otherwise what the driver's target says. -/
theorem processDoorPosition_target (hs : Tracked s) (hsync : status.synced = true)
    (h : status.door.atEnd = some tgt)
    (hraw : inferredConfirmedByRaw status.door (rawPosition status.doorPosition) = true) :
    (targetsOf (processDoorPosition s now status).2).getLast? =
      if s.lastDoor = status.door then
        if status.protocol = .secPlusV2 then driverEnd status.doorTarget else none
      else some tgt := by
  unfold processDoorPosition
  simp only [hsync, Bool.not_true, Bool.false_eq_true, ite_false, inferDoor_of_atEnd h,
    targetsOf_append, targetsOf_resolveDoor h hraw, targetsOf_cons, Out.target,
    Option.toList_none, targetsOf_nil, List.append_nil]
  by_cases hsame : s.lastDoor = status.door
  · -- nothing is being followed
    have hstill : s.tracking.doorInTransition = false := by
      rw [← Bool.not_eq_true, hs.moving, hsame]
      rcases DoorState.atEnd_eq_some h with ⟨hd, -⟩ | ⟨hd, -⟩ <;> rw [hd] <;> decide
    rw [if_pos hsame, if_pos hsame, List.append_nil, protocolTarget_of_settled hstill h]
    split_ifs
    · cases driverEnd status.doorTarget <;> rfl
    · rfl
  · rw [if_neg hsame, if_neg hsame, List.getLast?_concat]

theorem gdoEventHandler_target {event : GdoEvent} {rolling : EspErr} (hs : Tracked s)
    (hevent : event = .doorPosition ∨ event = .synced) (hsync : status.synced = true)
    (h : status.door.atEnd = some tgt)
    (hraw : inferredConfirmedByRaw status.door (rawPosition status.doorPosition) = true) :
    (targetsOf (gdoEventHandler s now status event rolling).2).getLast? =
      if s.lastDoor = status.door then
        if status.protocol = .secPlusV2 then driverEnd status.doorTarget else none
      else some tgt := by
  rcases hevent with rfl | rfl
  · exact processDoorPosition_target (hs.congr rfl rfl) hsync h hraw
  · have hsaved : targetsOf (if status.protocol = .secPlusV2 then
        [.saveRollingState status.clientId status.rollingCode] else []) = [] := by
      split_ifs <;> rfl
    simp only [gdoEventHandler, gdoEventSwitch, gdoEventSynced, hsync, Bool.not_true,
      Bool.false_eq_true, ite_false, targetsOf_cons, targetsOf_append, hsaved, Out.target,
      Option.toList_none, List.nil_append]
    exact processDoorPosition_target (hs.congr rfl rfl) hsync h hraw

/-- **When the Target of a settled door agrees with it.**  Whatever Target a position event of a
door at a confirmed end leaves as the last one, it is that end, unless the door was there already
and a Security+ 2.0 driver names the other end as its target. -/
theorem settled_target_agrees_iff {n : Nvs} {reads : NvsReads} {setenvOk : Bool} {t₀ : ℤ}
    {es : List Step} {w : World} (hrun : control.toLTS.Trace (World.boot n reads setenvOk t₀) es w)
    {e : Step} (he : e ∈ es) {event : GdoEvent} {rolling : EspErr}
    (hcall : e.label.1.call = .event status event rolling)
    (hevent : event = .doorPosition ∨ event = .synced) (hsync : status.synced = true)
    (hend : status.door.atEnd = some tgt)
    (hraw : inferredConfirmedByRaw status.door (rawPosition status.doorPosition) = true) :
    (∀ last, (targetsOf e.label.2.out).getLast? = some last → last = tgt) ↔
      ¬ (e.src.fw.lastDoor = status.door ∧ status.protocol = .secPlusV2 ∧
        ∃ stale, driverEnd status.doorTarget = some stale ∧ stale ≠ tgt) := by
  obtain ⟨pre, post, rfl⟩ := List.append_of_mem he
  obtain ⟨hbefore, hst, -⟩ := LTS.Trace.at_edge_iff.1 hrun
  have hout : e.label.2.out = (gdoEventHandler e.src.fw e.label.1.t status event rolling).2 := by
    have hst : e.src.step e.label.1 = some (e.dst, e.label.2) := hst
    replace hst := World.perform_of_step hst
    rw [hcall] at hst
    exact congrArg (fun x => x.2.out) (Option.some.inj hst).symm
  rw [hout, gdoEventHandler_target (Tracked.trace hbefore) hevent hsync hend hraw]
  by_cases hsame : e.src.fw.lastDoor = status.door
  · by_cases hproto : status.protocol = .secPlusV2
    · simp [hsame, hproto]
    · simp [hsame, hproto]
  · simp [hsame]

/-- The door has closed, after an OPENING frame that was lost: the driver's target is still 0. -/
def closedUnannounced : Action := ⟨2000, .event (.idle .closed 10000 0) .doorPosition .ok⟩

theorem settled_target_agrees_iff_unannounced :
    let e := control.edge (control.last (World.boot {} {} true 0)
      [⟨1000, .event (.idle .opened 0 0) .doorPosition .ok⟩]) closedUnannounced
    (∀ last, (targetsOf e.label.2.out).getLast? = some last → last = .closed) ↔
      ¬ (e.src.fw.lastDoor = .closed ∧ Protocol.secPlusV2 = .secPlusV2 ∧
        ∃ stale, driverEnd 0 = some stale ∧ stale ≠ .closed) := by
  intro e
  have hcall : e.label.1.call = .event (.idle .closed 10000 0) .doorPosition .ok := by
    rw [control.edge_action]
    rfl
  exact settled_target_agrees_iff
    (control.trace_snoc (control.trace_edges (World.boot {} {} true 0)
      [⟨1000, .event (.idle .opened 0 0) .doorPosition .ok⟩]) closedUnannounced (by decide +kernel))
    (List.mem_append_right _ (List.mem_singleton_self _)) hcall (.inl rfl) rfl rfl (by decide)

/-- A user close at 2 s that the opener ignores: sent at 7 s, repeated at 23 s and given up at
28 s. -/
def revertedCloseRun : List Action :=
  let idle := GdoStatus.idle .opened 0 0
  let st := GdoStatus.idle .opened 0 10000
  [⟨1000, .event idle .doorPosition .ok⟩, ⟨2000, .controlClose (some idle) {}⟩] ++
    List.replicate 10 ⟨7000, .warningCycle 0⟩ ++
    [⟨7001, .userCloseTask 0 (some idle) .ok (some st)⟩] ++ watchdogTick 8000 st ++
    watchdogTick 13000 st ++
    [⟨18000, .watchdogTransition (some st) (some st)⟩, ⟨18000, .watchdogRetry (some st)⟩] ++
    List.replicate 10 ⟨23000, .watchdogWarningCycle⟩ ++
    [⟨23000, .watchdogResend (some st) (some st) .ok⟩, ⟨23000, .watchdogAutoClose (some st) {}⟩,
      ⟨23000, .watchdogSched none (some st) {} {} {}⟩, ⟨23000, .watchdogReoffer⟩] ++
    watchdogTick 28000 st

/-- **A close that was given up comes back.**  `RETRY_REVERT` has put the target back to open; the
next position event of the open door pushes the driver's old target, and the Home app shows a door
that is closing. -/
theorem reverted_close_shown_again :
    ∃ es w, control.toLTS.Trace (World.boot {} {} true 0) es w ∧
      w.budget.commandId = w.fw.doorCommandId ∧ w.budget.done = true ∧
      (targetsOf (es.flatMap fun e => e.label.2.out)).getLast? = some .opened ∧
      ∃ w' r, control.step w ⟨29000, .event (.idle .opened 0 10000) .doorPosition .ok⟩ =
        some (w', r) ∧
      inferredConfirmedByRaw .opened (rawPosition 0) = true ∧
      (targetsOf r.out).getLast? = some .closed := by
  have hsome : (control.step (control.last (World.boot {} {} true 0) revertedCloseRun)
      ⟨29000, .event (.idle .opened 0 10000) .doorPosition .ok⟩).isSome = true := by
    decide +kernel
  exact ⟨_, _, control.trace_edges _ revertedCloseRun, by decide +kernel, by decide +kernel,
    by decide +kernel, _, _, (Option.some_get hsome).symm, by decide +kernel, by decide +kernel⟩

end

end GdoBlaq
