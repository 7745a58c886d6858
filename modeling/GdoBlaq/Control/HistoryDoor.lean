import GdoBlaq.Control.History

/-!
# The history tells the door

Each change of `last_door` and of `last_obstruction` is noted in the step that makes it.  A state
that is entered twice was left in between, which was noted as well, so that the line of the second
time does not repeat the one before it.

## Main results

* `perform_tellsView` : what a step notes is the view that it leaves.
* `history_tells_door` : the states of the door in the history are those that were entered, and the
  newest lines are the present.
-/

namespace GdoBlaq

open Firmware

/-! ### The door and the obstruction sensor -/

/-- The lines tell what became of the firmware's view of the door and of the obstruction sensor. -/
structure TellsView (s s' : Firmware) (lines : List Activity) : Prop where
  door : lines.filterMap Activity.doorState =
    if s'.lastDoor = s.lastDoor then [] else [s'.lastDoor]
  obstruction : lines.filterMap Activity.obstructionState =
    if s'.lastObstruction = s.lastObstruction then [] else [s'.lastObstruction]

section TellsView

variable {s s' : Firmware} {w w' : World} {c : Call} {r : Reply} {now : ℤ} {status : GdoStatus}

theorem TellsView.same {lines : List Activity} (hdoor : s'.lastDoor = s.lastDoor)
    (hobst : s'.lastObstruction = s.lastObstruction)
    (hlines : ∀ a ∈ lines, a.doorState = none ∧ a.obstructionState = none) :
    TellsView s s' lines := by
  constructor
  · rw [if_pos hdoor, List.filterMap_eq_nil_iff]
    exact fun a ha => (hlines a ha).1
  · rw [if_pos hobst, List.filterMap_eq_nil_iff]
    exact fun a ha => (hlines a ha).2

theorem setLastDoorState_tellsView (now : ℤ) (d : DoorState) :
    TellsView s (setLastDoorState s now d).1 (setLastDoorStateActivity s d) := by
  have hdoor : (setLastDoorState s now d).1.lastDoor = d := rfl
  have hobst : (setLastDoorState s now d).1.lastObstruction = s.lastObstruction := by
    unfold setLastDoorState
    simp only
    split_ifs <;> rfl
  by_cases hd : d = s.lastDoor
  · refine .same (hdoor.trans hd) hobst ?_
    simp [setLastDoorStateActivity, hd]
  · constructor
    · rw [hdoor, if_neg hd, setLastDoorStateActivity, if_pos hd]
      rfl
    · rw [hobst, if_pos rfl, setLastDoorStateActivity, if_pos hd]
      rfl

theorem processDoorPosition_tellsView (now : ℤ) (status : GdoStatus) :
    TellsView s (processDoorPosition s now status).1 (processDoorPositionActivity s status) := by
  simp only [processDoorPosition, processDoorPositionActivity, resolveDoor]
  split_ifs
  · exact .same rfl rfl (by simp)
  · let k := trackTransition s.tracking now (inferDoor status (rawPosition status.doorPosition))
      (rawPosition status.doorPosition)
    have htold := setLastDoorState_tellsView (s := { s with tracking := k }) now
      (inferDoor status (rawPosition status.doorPosition))
    exact ⟨htold.door, htold.obstruction⟩
  · exact .same rfl rfl (by simp)

theorem gdoEventSynced_tellsView (rolling : EspErr) :
    TellsView s (gdoEventSynced s now status rolling).1 (gdoEventSyncedActivity s status) := by
  unfold gdoEventSynced gdoEventSyncedActivity
  by_cases hsync : status.synced = true
  · let k : Link :=
      { s.link with syncRetryCount := 0, syncFirstFailureMs := 0, gdoPairingFault := false }
    have htold := processDoorPosition_tellsView (s := { s with link := k }) now status
    simp only [hsync, Bool.not_true, Bool.false_eq_true, if_false]
    exact ⟨htold.door, htold.obstruction⟩
  · simp only [hsync, Bool.not_false, if_true]
    exact .same rfl rfl (by simp)

theorem gdoEventObstruction_tellsView :
    TellsView s (gdoEventObstruction s status).1 (gdoEventObstructionActivity s status) := by
  unfold gdoEventObstruction gdoEventObstructionActivity
  by_cases hobst : status.obstruction = s.lastObstruction
  · simp only [hobst, ne_eq, not_true_eq_false, if_false]
    exact .same rfl rfl (by simp)
  · simp only [hobst, ne_eq, not_false_eq_true, if_true]
    exact ⟨(if_pos rfl).symm, (if_neg hobst).symm⟩

theorem gdoEventMotor_tellsView :
    TellsView s (gdoEventMotor s now status).1 (gdoEventMotorActivity s status) := by
  have hmoves : ∀ (d : DoorState) (k : Tracking),
      TellsView s { (setLastDoorState s now d).1 with tracking := k }
        (setLastDoorStateActivity s d) :=
    fun d k =>
      have htold := setLastDoorState_tellsView (s := s) now d
      ⟨htold.door, htold.obstruction⟩
  unfold gdoEventMotor gdoEventMotorActivity
  split_ifs
  · exact .same rfl rfl (by simp)
  · exact hmoves _ _
  · exact hmoves _ _
  · exact .same rfl rfl (by simp)

theorem gdoEventHandler_tellsView (event : GdoEvent) (rolling : EspErr) :
    TellsView s (gdoEventHandler s now status event rolling).1
      (gdoEventHandlerActivity s status event) := by
  let k := identifyProtocol s.link status event
  have hlink : ∀ {s' : Firmware} {lines : List Activity},
      TellsView { s with link := k } s' lines → TellsView s s' lines :=
    fun h => ⟨h.door, h.obstruction⟩
  cases event with
  | synced => exact hlink (gdoEventSynced_tellsView (s := { s with link := k }) rolling)
  | doorPosition => exact hlink (processDoorPosition_tellsView (s := { s with link := k }) now status)
  | obstruction => exact hlink (gdoEventObstruction_tellsView (s := { s with link := k }))
  | motor => exact hlink (gdoEventMotor_tellsView (s := { s with link := k }))
  | button =>
    simp only [gdoEventHandler, gdoEventSwitch, gdoEventHandlerActivity]
    split_ifs
    · exact .same rfl rfl (by simp [Activity.doorState, Activity.obstructionState])
    · exact .same rfl rfl (by simp)
  | _ => exact .same rfl rfl (by simp [gdoEventHandlerActivity])

theorem correctLastDoor_tellsView (now : ℤ) (d : DoorState) :
    TellsView s (correctLastDoor s now d).1 (setLastDoorStateActivity s d) := by
  unfold correctLastDoor
  split_ifs with hd
  · exact setLastDoorState_tellsView now d
  · exact .same rfl rfl (by simp [setLastDoorStateActivity, hd])

theorem watchdogTransition_tellsView (fresh : ℤ) (status recovery : Option GdoStatus) :
    TellsView s (watchdogTransition s now fresh status recovery).1
      (watchdogTransitionActivity s now status) := by
  unfold watchdogTransition watchdogTransitionActivity
  by_cases htrack : s.tracking.doorInTransition = true
  swap
  · simp only [htrack, Bool.not_false, if_true]
    exact .same rfl rfl (by simp)
  simp only [htrack, Bool.not_true, Bool.false_eq_true, if_false]
  cases status with
  | none => exact .same rfl rfl (by simp)
  | some status =>
    simp only
    by_cases htime : transitionElapsed s now ≤ transitionTimeoutMs s now status
    · simp only [htime, if_true]
      exact .same rfl rfl (by simp)
    · simp only [htime, if_false]
      have hcorrect := correctLastDoor_tellsView
        (s := { s with tracking := { s.tracking with doorInTransition := false } }) fresh
      cases resolvedState status with
      | none => exact ⟨(hcorrect _).door, (hcorrect _).obstruction⟩
      | some resolved => exact ⟨(hcorrect _).door, (hcorrect _).obstruction⟩

theorem Call.CanNote.states {a : Activity} (h : c.CanNote a) (hc : c.isNews = false) :
    a.doorState = none ∧ a.obstructionState = none := by
  cases c with
  | event | watchdogTransition => cases hc
  | controlOpen => obtain rfl | rfl := h <;> exact ⟨rfl, rfl⟩
  | controlClose => obtain rfl | rfl | rfl := h <;> exact ⟨rfl, rfl⟩
  | setPreCloseBuzzer | setAutoCloseTimeoutMs | setAutoCloseEnabled | setCloseSchedule
  | autoCloseComplete | schedCloseComplete | watchdogRetry | watchdogResend =>
    obtain ⟨_, rfl⟩ := h
    exact ⟨rfl, rfl⟩
  | userCloseTask => obtain rfl | ⟨_, rfl⟩ := h <;> exact ⟨rfl, rfl⟩
  | watchdogAutoClose => obtain rfl | rfl := h <;> exact ⟨rfl, rfl⟩
  | watchdogSched => obtain rfl | rfl | ⟨_, rfl⟩ := h <;> exact ⟨rfl, rfl⟩
  | reboot =>
    obtain rfl := h
    exact ⟨rfl, rfl⟩
  | warningCycle | watchdogWarningCycle | watchdogReoffer => exact h.elim

theorem Effect.view_kept (h : Effect w c w' r) (hc : c.isNews = false)
    (hboot : c.isReboot = false) :
    w'.fw.lastDoor = w.fw.lastDoor ∧ w'.fw.lastObstruction = w.fw.lastObstruction := by
  cases h with
  | news hcall => simp [hcall] at hc
  | rebooted => cases hboot
  | _ => exact ⟨rfl, rfl⟩

/-- **The view noted in a step is that which it leaves.** -/
theorem perform_tellsView (h : w.perform c = some (w', r)) (hboot : c.isReboot = false) :
    TellsView w.fw w'.fw (w.activity c) := by
  cases hc : c.isNews with
  | false =>
    obtain ⟨hdoor, hobst⟩ := (World.perform_effect h).view_kept hc hboot
    exact .same hdoor hobst fun a ha => (Call.canNote_of_mem ha).states hc
  | true =>
    cases c with
    | event status event rolling =>
      obtain ⟨rfl, -⟩ := Prod.mk.inj (Option.some.inj h)
      exact gdoEventHandler_tellsView event rolling
    | watchdogTransition status recovery =>
      simp only [World.perform] at h
      split_ifs at h
      obtain ⟨rfl, -⟩ := Prod.mk.inj (Option.some.inj h)
      exact watchdogTransition_tellsView w.clock status recovery
    | _ => cases hc

end TellsView

/-- The state of the door that a step enters, if it has a line of its own. -/
def doorEntered (e : Step) : Option DoorState :=
  if e.dst.fw.lastDoor = e.src.fw.lastDoor then none else e.dst.fw.lastDoor.told

/-- No line about a movement is the same as the one after it, and the newest lines are the
present. -/
structure Present (s : Firmware) (lines : List Activity) : Prop where
  distinct : Distinct (fun a => a.doorState.bind DoorState.told) lines
  last : ∀ a ∈ lines.getLast?, ∀ d, a.doorState = some d → s.lastDoor = d
  door : ((lines.filterMap Activity.doorState).getLast?).getD .max = s.lastDoor
  obstruction : ((lines.filterMap Activity.obstructionState).getLast?).getD .max =
    s.lastObstruction

section Present

variable {s s' : Firmware} {w : World} {es : List Step} {e : Step} {lines new : List Activity}
  {calls : List (Activity × ℤ × ℤ)} {n : Nvs} {reads : NvsReads} {setenvOk : Bool} {t₀ : ℤ}

theorem states_of_not_locked {a : Activity} (h : a.locked = false) :
    a.doorState = none ∧ a.obstructionState = none := by
  cases a with
  | door | obstruction => cases h
  | _ => exact ⟨rfl, rfl⟩

theorem DoorState.eq_of_told {d d' : DoorState} (h : d.told = some d') : d = d' := by
  cases d <;> first | exact Option.some.inj h | cases h

theorem TellsView.filterMap_told (h : TellsView s s' new) :
    new.filterMap (fun a => a.doorState.bind DoorState.told) =
      if s'.lastDoor = s.lastDoor then [] else s'.lastDoor.told.toList := by
  rw [← List.filterMap_filterMap, h.door]
  split_ifs
  · rfl
  · cases s'.lastDoor <;> rfl

theorem getLast?_append_told {α : Type*} [DecidableEq α] {before new : List α} {x y z : α}
    (h : before.getLast?.getD z = x) (hnew : new = if y = x then [] else [y]) :
    (before ++ new).getLast?.getD z = y := by
  split_ifs at hnew with hyx
  · rw [hnew, List.append_nil, h, hyx]
  · simp [hnew]

theorem TellsView.locked (h : TellsView s s' new) :
    TellsView s s' (new.filter Activity.locked) where
  door := (filterMap_locked (fun _ ha => (states_of_not_locked ha).1) new).trans h.door
  obstruction :=
    (filterMap_locked (fun _ ha => (states_of_not_locked ha).2) new).trans h.obstruction

theorem TellsView.eq_of_mem {a : Activity} {d : DoorState} (h : TellsView s s' new) (ha : a ∈ new)
    (hd : a.doorState = some d) : s'.lastDoor = d := by
  have hmem : d ∈ new.filterMap Activity.doorState := List.mem_filterMap.2 ⟨a, ha, hd⟩
  rw [h.door] at hmem
  split_ifs at hmem
  · cases hmem
  · exact (List.mem_singleton.1 hmem).symm

/-- **One step**: its lines go on from those before it. -/
theorem Present.append (h : Present s lines) (htells : TellsView s s' new) :
    Present s' (lines ++ new) := by
  constructor
  · refine h.distinct.append (f := doorOfTexts) (fun a => a.readable.2.2.1) ?_ ?_
    · rw [htells.filterMap_told]
      split_ifs
      · simp
      · cases s'.lastDoor <;> decide
    · intro a ha d hd hmem
      obtain ⟨d', hd', htold⟩ := Option.bind_eq_some_iff.1 hd
      obtain rfl := DoorState.eq_of_told htold
      rw [htells.filterMap_told] at hmem
      split_ifs at hmem with hsame
      · cases hmem
      -- the door was where the last line says, and has entered another state
      · have hdst := DoorState.eq_of_told (Option.mem_toList.1 hmem)
        exact hsame (hdst.trans (h.last a ha _ hd').symm)
  · intro a ha d hd
    cases hnew : new with
    | nil =>
      rw [hnew, List.append_nil] at ha
      have hnone := htells.door
      rw [hnew] at hnone
      split_ifs at hnone with hsame
      · exact hsame.trans (h.last a ha d hd)
      · cases hnone
    | cons b rest =>
      rw [List.getLast?_append_of_ne_nil _ (by simp [hnew])] at ha
      exact htells.eq_of_mem (List.mem_of_mem_getLast? ha) hd
  · rw [List.filterMap_append]
    exact getLast?_append_told h.door htells.door
  · rw [List.filterMap_append]
    exact getLast?_append_told h.obstruction htells.obstruction

/-- In every run no line about a movement repeats the one before it, and the newest are the
present. -/
theorem present_of_trace (hrun : control.toLTS.Trace (World.boot n reads setenvOk t₀) es w) :
    Present w.fw ((activitySince es).filter Activity.locked) := by
  have hboot : ∀ n reads setenvOk, Present (GdoBlaq.boot n reads setenvOk) [.booted] := by
    intro n reads setenvOk
    obtain ⟨_, _, _, _, _, _, hinitial⟩ := boot_eq (n := n) reads setenvOk
    rw [hinitial]
    refine ⟨.singleton _, ?_, rfl, rfl⟩
    intro a ha d hd
    obtain rfl : Activity.booted = a := by simpa using ha
    cases hd
  refine hrun.history
    (I := fun es w => Present w.fw ((activitySince es).filter Activity.locked)) ?_ ?_
  · exact hboot n reads setenvOk
  · intro before e _ hst hpresent
    rcases World.step_cases hst with ⟨hc, -, -⟩ | ⟨reads, setenvOk, hcall, -, hdst⟩
    · rw [activitySince_snoc hc, List.filter_append]
      exact hpresent.append
        (perform_tellsView (w := e.src.tick e.label.1.t) (World.perform_of_step hst) hc).locked
    · rw [activitySince_reboot (by rw [hcall]; rfl), hdst]
      exact hboot _ reads setenvOk

theorem getLast?_of_suffix {α : Type*} {read kept : List α} {x z : α} (hread : read <:+ kept)
    (hkept : kept.getLast?.getD z = x) : ∀ y ∈ read.getLast?, y = x := by
  obtain ⟨older, rfl⟩ := hread
  intro y hy
  rw [← hkept, List.getLast?_append, hy]
  rfl

/-- **The history tells the door.**  In every run, whatever the times at which the lines are written
and whatever lines the web server writes between them, the kept lines tell each state that the
firmware saw the door enter since the last boot, except that one line stands for all that are
neither open nor closed nor moving; and the newest lines about the door and about the obstruction
sensor, also of those that are read, are what the firmware sees now. -/
theorem history_tells_door (hrun : control.toLTS.Trace (World.boot n reads setenvOk t₀) es w)
    (hcalls : NotedSince es calls) :
    let kept := ActivityHistory.keptEvents (notesOf calls)
    let door := lit (doorMessage w.fw.lastDoor)
    let obstruction := lit (obstructionMessage w.fw.lastObstruction)
    toldBy doorOfTexts kept = (sinceBoot es).filterMap doorEntered ∧
      (toldBy doorLine kept).getLast?.getD (lit "Stopped or unknown") = door ∧
      (toldBy obstructionLine kept).getLast?.getD (lit "Detected or unknown") = obstruction ∧
      ∀ capacity,
        let read :=
          ((notesOf calls).foldl ActivityHistory.activityRecord {}).activityRead capacity
        (∀ x ∈ (toldBy doorLine read).getLast?, x = door) ∧
          ∀ x ∈ (toldBy obstructionLine read).getLast?, x = obstruction := by
  intro kept door obstruction
  have hpresent := present_of_trace hrun
  have hdoorless : ∀ a : Activity, a.locked = false → a.doorState = none :=
    fun _ ha => (states_of_not_locked ha).1
  have hobstless : ∀ a : Activity, a.locked = false → a.obstructionState = none :=
    fun _ ha => (states_of_not_locked ha).2
  have hlastDoor := hpresent.door
  have hlastObst := hpresent.obstruction
  rw [filterMap_locked hdoorless] at hlastDoor
  rw [filterMap_locked hobstless] at hlastObst
  have hdoor : (toldBy doorLine kept).getLast?.getD (lit "Stopped or unknown") = door := by
    rw [getLast?_toldBy hcalls (fun a => a.readable.2.2.2.1)
        (fun a ha => by rw [hdoorless a ha]; rfl), ← List.map_filterMap, List.getLast?_map]
    exact (Option.getD_map (fun d => lit (doorMessage d)) .max _).trans
      (congrArg (fun d => lit (doorMessage d)) hlastDoor)
  have hobst : (toldBy obstructionLine kept).getLast?.getD (lit "Detected or unknown") =
      obstruction := by
    rw [getLast?_toldBy hcalls (fun a => a.readable.2.2.2.2)
        (fun a ha => by rw [hobstless a ha]; rfl), ← List.map_filterMap, List.getLast?_map]
    exact (Option.getD_map (fun o => lit (obstructionMessage o)) .max _).trans
      (congrArg (fun o => lit (obstructionMessage o)) hlastObst)
  refine ⟨?_, hdoor, hobst, fun capacity => ⟨?_, ?_⟩⟩
  · rw [toldBy_eq hcalls (fun a => a.readable.2.2.1)
        (fun a ha => by rw [hdoorless a ha]; rfl) hpresent.distinct,
      filterMap_activitySince rfl, List.filterMap_eq_flatMap_toList]
    refine List.flatMap_congr fun e he => ?_
    have hboot : e.label.1.call.isReboot = false := by
      simpa using List.mem_rtakeWhile_imp he
    have htells : TellsView e.src.fw e.dst.fw (stepActivity e) :=
      perform_tellsView (w := e.src.tick e.label.1.t)
        (World.perform_of_step (hrun.step_of_mem (mem_of_mem_sinceBoot he))) hboot
    rw [htells.filterMap_told, doorEntered]
    split_ifs <;> rfl
  · exact getLast?_of_suffix (toldBy_activityRead doorLine _ capacity) hdoor
  · exact getLast?_of_suffix (toldBy_activityRead obstructionLine _ capacity) hobst

/-- The door is open, starts to move, and closes. -/
def seenClosingRun : List Action :=
  [⟨1000, .event (.idle .opened 0 0) .doorPosition .ok⟩,
    ⟨2000, .event { GdoStatus.idle .opened 0 0 with motor := .on } .motor .ok⟩,
    ⟨9000, .event (.idle .closed 10000 10000) .doorPosition .ok⟩]

theorem history_tells_door_closing :
    toldBy doorOfTexts (ActivityHistory.keptEvents
        (notesOf (notedAtOnce (control.edges (World.boot {} {} true 0) seenClosingRun)))) =
      [.opened, .closing, .closed] := by
  rw [(history_tells_door (control.trace_edges (World.boot {} {} true 0) seenClosingRun)
    (by decide +kernel)).1]
  decide +kernel

end Present

end GdoBlaq
