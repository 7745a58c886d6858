import GdoBlaq.Control.Rejected
import GdoBlaq.Control.Target
import GdoBlaq.HomeKit.Home

/-!
# A superseded close

`user_close_task` looks at the generation once its warning is over.  If it was superseded it leaves
the Target to a newer close that pends, and otherwise puts it back to where the door is.  A newer
Open pends nowhere, so the door's old position is pushed over it.

## Main results

* `userClose_armed` : the warning of a task that wakes was started by an accepted Close.
* `superseded_close_iff` : what a superseded task queues contradicts the latest command exactly if
  the door still rests at the other end, no close pends and the Target is taken.
* `superseded_close_overrules_open` : such a run.
-/

namespace GdoBlaq

open Firmware

/-! ### Commands -/

/-- The command of the user that is accepted in a step. -/
def userCommand (e : HomeStep) : Option TargetState :=
  if e.label.2.control.err = .ok then
    match e.label.1 with
    | .control ⟨_, .controlOpen _⟩ _ => some .opened
    | .control ⟨_, .controlClose _ _⟩ _ => some .closed
    | .doorWrite d => TargetState.ofValue d.value
    | _ => none
  else none

/-- The command accepted last. -/
def latestCommand (es : List HomeStep) : Option TargetState := (es.filterMap userCommand).getLast?

/-! ### The wake-up -/

/-- The warning `v` of the task was started in the step `arm`, by an accepted Close, and the task
has slept all through `mid`. -/
structure SleptSince (tid : ℕ) (v : Warning) (arm : HomeStep) (mid : List HomeStep) : Prop where
  command : userCommand arm = some .closed
  fresh : arm.src.world.tasks tid ≠ some v
  armed : arm.dst.world.tasks tid = some v
  asleep : ∀ e ∈ mid, e.src.world.tasks tid = some v

/-- The generation has moved on since the warning was started. -/
def Superseded (w : World) (v : Warning) : Prop :=
  Stamp.read 32 v.generation ≠ Stamp.read 32 w.fw.closeGeneration

instance (w : World) (v : Warning) : Decidable (Superseded w v) := instDecidableNot

/-- No user close is pending other than the task's own. -/
def NoneElse (s : Firmware) (v : Warning) : Prop :=
  s.userClosePending = false ∨
    Stamp.read 32 s.userClosePendingGeneration = Stamp.read 32 v.generation

/-- The Target is new, and the queue and the mutex are to be had for it. -/
def Hub.Takes (h : Hub) (tgt : TargetState) (mutexTaken : Bool) : Prop :=
  h.lastTarget ≠ some tgt ∧ h.Admits (.targetDoor tgt) mutexTaken

/-- The step queues a Target against the latest of the commands in `mid`. -/
def Contradicts (mid : List HomeStep) (e : HomeStep) : Prop :=
  ∃ tgt tgt', latestCommand mid = some tgt ∧ tgt' ≠ tgt ∧
    (.targetDoor tgt', .queued) ∈ e.label.2.pushes

/-- The latest of the commands in `mid` finds the door at rest at the other end, with no close
pending besides the task's own, and the Target for that end is taken. -/
def Overruled (mid : List HomeStep) (s : Home) (v : Warning) (again : Option GdoStatus)
    (wait : PushWait) : Prop :=
  ∃ tgt tgt', latestCommand mid = some tgt ∧ tgt' ≠ tgt ∧ NoneElse s.world.fw v ∧
    (again.bind fun status => status.door.atEnd) = some tgt' ∧
    (s.hub.drain wait.dequeues).Takes tgt' wait.mutexTaken

section

variable {s : Home} {w w' : World} {v : Warning} {tid : ℕ} {a : Action} {r : Reply}
  {status again : Option GdoStatus} {err : EspErr}

theorem revertTarget_eq (again : Option GdoStatus) :
    revertTarget again =
      ((again.bind fun status => status.door.atEnd).map (Out.notify ∘ .targetDoor)).toList := by
  cases again with
  | none => rfl
  | some status => cases hdoor : status.door <;> simp [revertTarget, hdoor, DoorState.atEnd]

variable (status again err) in
theorem userCloseTask_superseded (hsup : Superseded w v) :
    (userCloseTask w.fw v.generation status err again).2 = revertTarget again ∧ NoneElse w.fw v ∨
      (userCloseTask w.fw v.generation status err again).2 = [] ∧ ¬ NoneElse w.fw v := by
  have hgen : ¬ Stamp.read 32 v.generation = Stamp.read 32 w.fw.closeGeneration := hsup
  unfold NoneElse userCloseTask
  by_cases hown : Stamp.read 32 w.fw.userClosePendingGeneration = Stamp.read 32 v.generation
  · exact .inl ⟨by simp [hown, hgen], .inr hown⟩
  · cases hpend : w.fw.userClosePending with
    | false => exact .inl ⟨by simp [hown, hgen, hpend], .inl rfl⟩
    | true => exact .inr ⟨by simp [hown, hgen, hpend], by simp [hown]⟩

theorem Hub.notify_targetDoor_queued (h : Hub) (tgt : TargetState) (mutexTaken : Bool) :
    (h.notify (.targetDoor tgt) mutexTaken).2 = .queued ↔ h.Takes tgt mutexTaken := by
  constructor
  · intro hqueued
    simp only [notify, notifyHomekitTargetDoorStateChange, queueHomekitTarget, offer] at hqueued
    split_ifs at hqueued with hmutex hsame
    rcases h.xQueueSend_cases .doorTargetState tgt.value with ⟨hq, hlt, -⟩ | ⟨-, hnone⟩
    · exact ⟨fun hold => hsame hold.symm, hq, hlt, fun _ _ => by simpa using hmutex⟩
    · rw [hnone] at hqueued
      cases hqueued
  · rintro ⟨hnew, hadm⟩
    have hnot : ∀ learn, Notify.targetDoor tgt = .learn learn → h.learnSupported = true := by
      intro learn hlearn
      cases hlearn
    rcases (h.notify_delivered _ _).of_admits hadm hnot with ⟨hold, -⟩ | ⟨-, hqueued, -⟩
    · exact absurd hold.symm hnew
    · exact hqueued

theorem userClose_of_step (hst : w.step a = some (w', r)) (hold : w.tasks tid ≠ some v)
    (hnew : w'.tasks tid = some v) (hkind : v.kind = .user) :
    r.err = .ok ∧ ∃ status start, a.call = .controlClose status start := by
  obtain ⟨-, heff⟩ := World.step_effect hst (not_isReboot_of_asleep hst hnew)
  have harmed := (heff.arms hold hnew).1
  rw [hkind] at harmed
  obtain ⟨t, c⟩ := a
  cases c with
  | controlClose status start =>
    refine ⟨?_, status, start, rfl⟩
    by_contra herr
    obtain ⟨rfl, -⟩ := controlClose_refused hst herr
    exact hold hnew
  | _ => exact absurd harmed id

theorem Home.Moves.userCommand {c : HomeCall} {s' : Home} {r : HomeReply}
    (h : Home.Moves s c s' r) (hold : s.world.tasks tid ≠ some v)
    (hnew : s'.world.tasks tid = some v) (hkind : v.kind = .user) :
    GdoBlaq.userCommand ⟨s, (c, r), s'⟩ = some .closed := by
  cases h with
  | @control a waits w r hboot hst =>
    obtain ⟨herr, status, start, hcall⟩ := userClose_of_step hst hold hnew hkind
    obtain ⟨t, c⟩ := a
    obtain rfl : c = .controlClose status start := hcall
    simp [GdoBlaq.userCommand, herr]
  | rebooted => exact absurd hnew nofun
  | homeKit => exact absurd hnew hold
  | @doorWrite d _ _ hserving hturn =>
    cases hturn with
    | invalid => exact absurd hnew hold
    | declined htgt hst herr =>
      exact absurd (userClose_of_step hst hold hnew hkind).1 herr
    | @accepted tgt _ _ _ _ htgt hst herr hpush =>
      obtain ⟨-, status, start, hcall⟩ := userClose_of_step hst hold hnew hkind
      cases tgt with
      | opened => exact absurd hcall nofun
      | closed => simp [GdoBlaq.userCommand, herr, htgt]

theorem home_userClose {s' : Home} {t : ℤ} {waits : List PushWait} {r : HomeReply}
    (hst : s.step (.control ⟨t, .userCloseTask tid status err again⟩ waits) = some (s', r)) :
    ∃ v, s.world.tasks tid = some v ∧ v.kind = .user ∧
      r.pushes = (s.hub.pushAll
        (pushesOf (userCloseTask s.world.fw v.generation status err again).2) waits).2 := by
  have hmoves := Home.step_moves hst
  cases hmoves with
  | control hboot hworld =>
    replace hworld := World.perform_of_step hworld
    simp only [World.perform] at hworld
    cases hover : (s.world.tick t).warningOver tid .user with
    | none => simp [hover] at hworld
    | some v =>
      simp only [hover] at hworld
      obtain ⟨rfl, rfl⟩ := Prod.mk.inj (Option.some.inj hworld)
      obtain ⟨htask, hkind, -⟩ := warningOver_eq_some hover
      exact ⟨v, htask, hkind, rfl⟩

variable (status again err) in
/-- What a superseded task pushes. -/
theorem superseded_pushes (waits : List PushWait) (hsup : Superseded s.world v) :
    let pushes := (s.hub.pushAll
      (pushesOf (userCloseTask s.world.fw v.generation status err again).2) waits).2
    (∀ tgt, (.targetDoor tgt, .queued) ∈ pushes ↔ NoneElse s.world.fw v ∧
      (again.bind fun status => status.door.atEnd) = some tgt ∧
      (s.hub.drain (waits.headD {}).dequeues).Takes tgt (waits.headD {}).mutexTaken) ∧
    (¬ NoneElse s.world.fw v → pushes = []) := by
  intro pushes
  rcases userCloseTask_superseded status again err hsup with
    ⟨hout, hnone⟩ | ⟨hout, helse⟩
  · refine ⟨?_, fun helse => absurd hnone helse⟩
    intro tgt
    cases hend : again.bind fun status => status.door.atEnd with
    | none =>
      have hpushes : pushes = [] := by
        simp [pushes, hout, revertTarget_eq, hend, pushesOf, Hub.pushAll]
      simp [hpushes]
    | some x =>
      have hpushes : pushes = [(.targetDoor x, ((s.hub.drain (waits.headD {}).dequeues).notify
          (.targetDoor x) (waits.headD {}).mutexTaken).2)] := by
        simp [pushes, hout, revertTarget_eq, hend, pushesOf, Hub.pushAll, Out.push]
      rw [hpushes, List.mem_singleton, Prod.mk.injEq, ← Hub.notify_targetDoor_queued,
        Option.some.injEq]
      constructor
      · rintro ⟨htgt, hqueued⟩
        obtain rfl : tgt = x := Notify.targetDoor.inj htgt
        exact ⟨hnone, rfl, hqueued.symm⟩
      · rintro ⟨-, rfl, hqueued⟩
        exact ⟨rfl, hqueued.symm⟩
  · have hpushes : pushes = [] := by simp [pushes, hout, pushesOf, Hub.pushAll]
    exact ⟨fun tgt => iff_of_false (by simp [hpushes]) fun h => helse h.1, fun _ => hpushes⟩

theorem not_noneElse (hsup : Superseded w v) (hstands : w.fw.userCloseStands = true) :
    ¬ NoneElse w.fw v := by
  simp only [userCloseStands, decide_eq_true_eq] at hstands
  obtain ⟨hpend, hgen⟩ := hstands
  rintro (hno | hown)
  · rw [hpend] at hno
    exact absurd hno (by decide)
  · exact hsup (hown.symm.trans hgen)

/-- **When a superseded close speaks over a newer command.**  The warning of every task that wakes
was started by an accepted Close of the run.  If the task was superseded, what it queues contradicts
the latest command accepted since exactly if that command is overruled; and it pushes nothing while
a close of the current generation pends. -/
theorem superseded_close_iff {n : Nvs} {reads : NvsReads} {setenvOk : Bool} {t₀ t : ℤ} {q m : Bool}
    {pre post : List HomeStep} {e : HomeStep} {waits : List PushWait}
    (hrun : home.toLTS.Trace (Home.boot n reads setenvOk t₀ q m) (pre ++ e :: post) s)
    (hcall : e.label.1 = .control ⟨t, .userCloseTask tid status err again⟩ waits) :
    ∃ v before arm mid, pre = before ++ arm :: mid ∧ SleptSince tid v arm mid ∧
      e.src.world.tasks tid = some v ∧
      (Superseded e.src.world v →
        (¬ Contradicts mid e ↔ ¬ Overruled mid e.src v again (waits.headD {})) ∧
        (e.src.world.fw.userCloseStands = true → e.label.2.pushes = [])) := by
  obtain ⟨hpre, hst, -⟩ := LTS.Trace.at_edge_iff.1 hrun
  have hstep : e.src.step (.control ⟨t, .userCloseTask tid status err again⟩ waits) =
      some (e.dst, e.label.2) := hcall ▸ hst
  obtain ⟨v, htask, hkind, hpushes⟩ := home_userClose hstep
  obtain ⟨before, arm, mid, rfl, hold, hnew, hasleep⟩ :=
    hpre.exists_rise (P := fun s => s.world.tasks tid = some v) nofun htask
  obtain ⟨-, harm, -⟩ := LTS.Trace.at_edge_iff.1 hpre
  have hcommand := (Home.step_moves harm).userCommand hold hnew hkind
  refine ⟨v, before, arm, mid, rfl, ⟨hcommand, hold, hnew, fun e he => (hasleep e he).1⟩, htask, ?_⟩
  intro hsup
  obtain ⟨hqueued, hnothing⟩ := superseded_pushes status again err waits hsup
  refine ⟨not_congr ?_, fun hstands => hpushes.trans (hnothing (not_noneElse hsup hstands))⟩
  unfold Contradicts Overruled
  simp only [hpushes, hqueued]

end

/-- A served device, and a door that starts to close. -/
def closingRun : List HomeCall :=
  homeServed ++ [.control ⟨1000, .event (.idle .closing 5000 10000) .doorPosition .ok⟩ []]

/-- A Close from Home, which comes while the door is closing. -/
def closeWrite : HomeCall :=
  .doorWrite { value := 1, t := 2000, status := some (.idle .closing 5000 10000) }

/-- The door is closed, Home sends an Open, and the ten beeps of the Close end. -/
def reopenedRun : List HomeCall :=
  [.control ⟨3000, .event (.idle .closed 10000 10000) .doorPosition .ok⟩ [],
    .doorWrite { value := 0, t := 6500 }] ++
    homeCalls (List.replicate 10 ⟨7000, .warningCycle 0⟩)

/-- The task of that Close wakes, before the opener has moved the door. -/
def staleWake : HomeCall :=
  .control ⟨7001, .userCloseTask 0 (some (.idle .closed 10000 10000)) .ok
    (some (.idle .closed 10000 10000))⟩ []

theorem superseded_close_iff_reopened :
    let boot := Home.boot {} {} true 0 true true
    let calls := closingRun ++ [closeWrite] ++ reopenedRun
    let e := home.edge (home.last boot calls) staleWake
    ∃ v before arm mid, home.edges boot calls = before ++ arm :: mid ∧ SleptSince 0 v arm mid ∧
      e.src.world.tasks 0 = some v ∧
      (Superseded e.src.world v →
        (¬ Contradicts mid e ↔
          ¬ Overruled mid e.src v (some (.idle .closed 10000 10000)) {}) ∧
        (e.src.world.fw.userCloseStands = true → e.label.2.pushes = [])) := by
  have hrun := home.trace_snoc (home.trace_edges (Home.boot {} {} true 0 true true)
    (closingRun ++ [closeWrite] ++ reopenedRun)) staleWake (by decide +kernel)
  have hwake := superseded_close_iff hrun (home.edge_action _ staleWake)
  exact hwake

/-- **A superseded close speaks over an Open.**  The Close came while the door was closing, and
was superseded by an Open that was accepted; the door has not moved since, and Target Closed is
queued. -/
theorem superseded_close_overrules_open :
    let boot := Home.boot {} {} true 0 true true
    let arm := home.edge (home.last boot closingRun) closeWrite
    let mid := home.edges arm.dst reopenedRun
    let e := home.edge (home.last arm.dst reopenedRun) staleWake
    (∃ s, home.toLTS.Trace boot (home.edges boot closingRun ++ arm :: (mid ++ [e])) s) ∧
      ∃ v, SleptSince 0 v arm mid ∧ e.src.world.tasks 0 = some v ∧ Superseded e.src.world v ∧
        latestCommand mid.tail = some .opened ∧
        (∀ x ∈ mid.tail, x.src.world.fw.lastDoor = .closed ∧ x.dst.world.fw.lastDoor = .closed) ∧
        (.targetDoor .closed, .queued) ∈ e.label.2.pushes ∧ Contradicts mid e := by
  intro boot arm mid e
  have harm : (home.step (home.last boot closingRun) closeWrite).isSome = true := by decide +kernel
  have hwake : (home.step (home.last arm.dst reopenedRun) staleWake).isSome = true := by
    decide +kernel
  have hbefore := home.trace_edges boot closingRun
  have hmid := home.trace_snoc (home.trace_edges arm.dst reopenedRun) staleWake hwake
  refine ⟨⟨_, hbefore.append (home.trace_cons harm hmid)⟩, ⟨.user, 2000, 2, 0⟩, ?_,
    by decide +kernel, by decide +kernel, by decide +kernel, by decide +kernel, by decide +kernel,
    .opened, .closed, by decide +kernel, by decide, by decide +kernel⟩
  exact ⟨by decide +kernel, by decide +kernel, by decide +kernel, by decide +kernel⟩

end GdoBlaq
