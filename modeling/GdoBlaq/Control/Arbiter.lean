import GdoBlaq.Control.Cancellation
import GdoBlaq.Control.UserSlot
import GdoBlaq.Lts.Transducer

/-!
# What the counters are for

The firmware decides by two wrapping counters, a slot for each kind of close and a flag whether a
warning that is over may still close the door.  The specification of all that needs no counter: an
arbiter knows for each kind of close which warning may still close the door, forgets them all at
once when something happens that should cancel them, and lets a door command of any kind put an end
to the automatic closes.  The firmware follows the arbiter, command for command.

## Main results

* `arbiter` : the specification, a `Transducer`.
* `Follows.step` : a step of the firmware is its events to the arbiter.
* `door_requests_eq_arbiter` : in every run the commands issued are those of the arbiter, and a
  sleeping warning carries the current counters exactly if the arbiter still has it.
* `undisturbed_close_is_made` : a warning that nothing disturbs closes the door.
-/

namespace GdoBlaq

open Firmware

/-! ### The specification -/

/-- For each kind of close the warning task that may still close the door. -/
structure Arbiter where
  pending : WarningKind → Option ℕ

/-- What the arbiter is told. -/
inductive ArbiterEvent where
  /-- The door is asked to open. -/
  | opened
  /-- Something happened that pending closes do not survive. -/
  | cancelled
  /-- The warning task `tid` was started. -/
  | started (kind : WarningKind) (tid : ℕ)
  /-- The warning task `tid` is over, and the door may be closed or not. -/
  | completed (kind : WarningKind) (tid : ℕ) (clear : Bool)
  deriving DecidableEq, Repr

/-- The code that sends the close of a kind. -/
def WarningKind.caller : WarningKind → Caller
  | .user => .userClose
  | .auto => .autoClose
  | .sched => .schedClose

namespace Arbiter

/-- Nothing pends. -/
def idle : Arbiter := ⟨fun _ => none⟩

/-- A warning starts.  The user's close takes the place of all others. -/
def start (a : Arbiter) (kind : WarningKind) (tid : ℕ) : Arbiter :=
  ⟨Function.update (if kind = .user then fun _ => none else a.pending) kind (some tid)⟩

/-- The close of a kind pends no more. -/
def drop (a : Arbiter) (kind : WarningKind) : Arbiter := ⟨Function.update a.pending kind none⟩

/-- A close of a kind is made, which the other automatic closes do not survive either. -/
def made (a : Arbiter) (kind : WarningKind) : Arbiter :=
  ((a.drop kind).drop .auto).drop .sched

/-- The arbiter after an event. -/
def next (a : Arbiter) : ArbiterEvent → Arbiter
  | .opened | .cancelled => idle
  | .started kind tid => a.start kind tid
  | .completed kind tid clear =>
    if a.pending kind = some tid then
      if clear then a.made kind else a.drop kind
    else a

/-- The door commands that an event leads to. -/
def emits (a : Arbiter) : ArbiterEvent → List (Caller × DoorCommand)
  | .opened => [(.control, .doorOpen)]
  | .completed kind tid clear =>
    if a.pending kind = some tid ∧ clear = true then [(kind.caller, .doorClose)] else []
  | _ => []

variable {a : Arbiter} {kind kind' : WarningKind} {tid : ℕ}

@[simp] theorem idle_pending : idle.pending kind = none := rfl

theorem start_pending :
    (a.start kind tid).pending kind' =
      if kind' = kind then some tid else if kind = .user then none else a.pending kind' := by
  simp only [start, Function.update_apply]
  split_ifs <;> rfl

theorem drop_pending :
    (a.drop kind).pending kind' = if kind' = kind then none else a.pending kind' :=
  Function.update_apply ..

theorem made_pending :
    (a.made kind).pending kind' =
      if kind' = .user ∧ kind ≠ .user then a.pending kind' else none := by
  unfold made
  rw [drop_pending, drop_pending, drop_pending]
  cases kind <;> cases kind' <;> simp

end Arbiter

/-- The specification of the door commands. -/
def arbiter : Transducer Arbiter ArbiterEvent (Caller × DoorCommand) :=
  ⟨Arbiter.next, Arbiter.emits⟩

/-! ### The events and the commands of a step -/

/-- The door command of an output of `send_door_request`. -/
def Out.requested : Out → Option (Caller × DoorCommand)
  | .request caller cmd _ _ => some (caller, cmd)
  | _ => none

/-- The door commands issued in a step. -/
def doorRequests (e : Step) : List (Caller × DoorCommand) := e.label.2.out.filterMap Out.requested

/-- What a callback asks before it closes the door, apart from whether its warning still counts. -/
def World.mayClose (w : World) (status : Option GdoStatus) : WarningKind → Bool
  | .user => clearToClose status
  | .auto => openAndClear status ∧ w.fw.lastObstruction = .clear ∧ w.fw.autoCloseEnabled = true
  | .sched =>
    openAndClear status ∧ w.fw.lastObstruction = .clear ∧ w.fw.closeSchedule.enabled = true

/-- The kind of warning that the call may start. -/
def Call.starts : Call → Option WarningKind
  | .controlClose _ _ => some .user
  | .watchdogAutoClose _ _ => some .auto
  | .watchdogSched _ _ _ _ _ => some .sched
  | _ => none

/-- A Close was accepted for which no task could be created. -/
def Call.notCreated (err : EspErr) : Call → Bool
  | .controlClose _ start => err = .noMem ∧ start.alloc = true
  | _ => false

/-- A reported button press. -/
def Call.isPress : Call → Bool
  | .event status .button _ => status.button = .pressed
  | _ => false

/-- The step cancels what pends: the view of the door or of the obstruction changed, the button was
pressed, a setting was changed, a Close had no task, or the device restarted. -/
def cancelsCloses (e : Step) : Bool :=
  e.dst.fw.lastDoor ≠ e.src.fw.lastDoor ∨ e.dst.fw.lastObstruction ≠ e.src.fw.lastObstruction ∨
    e.label.1.call.isPress ∨ (e.label.1.call.isSetter ∧ e.label.2.err = .ok) ∨
    e.label.1.call.notCreated e.label.2.err ∨ e.label.1.call.isReboot

/-- What a step is to the arbiter. -/
def closeEvents (e : Step) : List ArbiterEvent :=
  match e.label.1.call with
  | .controlOpen _ => [.opened]
  | c =>
    match c.completes with
    | some (kind, tid) => [.completed kind tid (e.src.mayClose c.decidesOn kind)]
    | none =>
      if e.dst.nextTask ≠ e.src.nextTask then
        c.starts.toList.map fun kind => .started kind e.src.nextTask
      else if cancelsCloses e then [.cancelled]
      else []

/-! ### Warnings that still count -/

/-- The task `tid` sleeps in a warning of the kind that was stamped with the generation and, for an
automatic close, with the command id. -/
def Live (f : ℕ → Option Warning) (generation commandId : ℕ) (kind : WarningKind) (tid : ℕ) :
    Prop :=
  ∃ v, f tid = some v ∧ v.kind = kind ∧ v.generation = generation ∧
    (kind ≠ .user → v.commandId = commandId)

/-- The warning may still close the door: its stamps are the present counters. -/
def World.Live (w : World) : WarningKind → ℕ → Prop :=
  GdoBlaq.Live w.tasks w.fw.closeGeneration w.fw.doorCommandId

/-- The arbiter has exactly the warnings that still count. -/
def Follows (a : Arbiter) (w : World) : Prop :=
  ∀ kind tid, a.pending kind = some tid ↔ w.Live kind tid

section Live

variable {f : ℕ → Option Warning} {g k i tid : ℕ} {u v : Warning} {kind : WarningKind} {w : World}

theorem live_spawn (hfree : f i = none) :
    Live (Function.update f i (some u)) g k kind tid ↔
      (tid = i ∧ u.kind = kind ∧ u.generation = g ∧ (kind ≠ .user → u.commandId = k)) ∨
        Live f g k kind tid := by
  unfold Live
  by_cases h : tid = i
  · subst h
    simp [hfree]
  · simp [h]

theorem live_finish :
    Live (Function.update f i none) g k kind tid ↔ tid ≠ i ∧ Live f g k kind tid := by
  unfold Live
  by_cases h : tid = i
  · subst h
    simp
  · simp [h]

theorem Bookkeeping.not_live_of_generation (hbook : Bookkeeping w) (h : w.fw.closeGeneration < g) :
    ¬ Live w.tasks g k kind tid := by
  rintro ⟨v, hv, -, hgen, -⟩
  have hle := hbook.generation tid v hv
  omega

theorem Bookkeeping.not_live_of_commandId (hbook : Bookkeeping w) (h : w.fw.doorCommandId < k)
    (hk : kind ≠ .user) : ¬ Live w.tasks g k kind tid := by
  rintro ⟨v, hv, -, -, hid⟩
  have hle := hbook.commandId tid v hv
  have := hid hk
  omega

theorem live_user : Live f g k .user tid ↔ Live f g i .user tid := by simp [Live]

theorem ne_of_live {kind' : WarningKind} (hv : f i = some v) (hkind : v.kind = kind)
    (hne : kind' ≠ kind) (hlive : Live f g k kind' tid) : tid ≠ i := by
  rintro rfl
  obtain ⟨u, hu, hk, -⟩ := hlive
  obtain rfl := Option.some.inj (hv.symm.trans hu)
  exact hne (hk.symm.trans hkind)

end Live

/-! ### What a warning that is over does -/

section Completions

variable {w w' : World} {c : Call} {r : Reply} {kind : WarningKind} {tid : ℕ} {v : Warning}

/-- The counters that the callback of the warning compares read what it recorded. -/
def Warning.Counts (w : World) (v : Warning) : Prop :=
  Stamp.read 32 (v.compared w) = Stamp.read 32 w.fw.closeGeneration ∧
    Stamp.read 32 (v.comparedId w) = Stamp.read 32 w.fw.doorCommandId

theorem requested_of_not_isRequest {out : List Out} (h : ∀ o ∈ out, ¬ o.IsRequest) :
    out.filterMap Out.requested = [] := by
  rw [List.filterMap_eq_nil_iff]
  intro o ho
  cases o with
  | request => exact absurd trivial (h _ ho)
  | _ => rfl

theorem requested_of_silent {out : List Out} (h : Silent out) : out.filterMap Out.requested = [] :=
  requested_of_not_isRequest h.not_isRequest

/-- `user_close_task` sends its close exactly if its generation still reads the same and the status
allows it. -/
theorem userCloseTask_requested {s : Firmware} (generation : ℕ) (status again : Option GdoStatus)
    (err : EspErr) :
    (userCloseTask s generation status err again).2.filterMap Out.requested =
      if clearToClose status = true ∧
          Stamp.read 32 generation = Stamp.read 32 s.closeGeneration then
        [(.userClose, .doorClose)] else [] := by
  rcases userCloseTask_cases (s := s) generation status err again with
    ⟨out, hout, hgen, hclear, he⟩ | ⟨out, hout, he⟩
  · rw [he, if_pos ⟨hclear, hgen⟩]
    simp [Out.requested, requested_of_silent hout]
  · have hnone : (userCloseTask s generation status err again).2.filterMap Out.requested = [] := by
      rw [he, requested_of_silent hout]
    rw [hnone, if_neg]
    rintro ⟨hclear, hgen⟩
    simp only [userCloseTask, hgen, hclear, if_true] at hnone
    split_ifs at hnone <;> simp_all [sendDoorRequest, Out.requested]

theorem autoCloseValid_iff {status : Option GdoStatus} (hk : v.kind = .auto) :
    autoCloseValid w.fw status = true ↔ w.mayClose status .auto = true ∧ v.Counts w := by
  simp only [autoCloseValid, World.mayClose, Warning.Counts, Warning.compared, Warning.comparedId,
    hk, decide_eq_true_eq]
  tauto

theorem schedCloseValid_iff {status : Option GdoStatus} (hk : v.kind = .sched) :
    schedCloseValid w.fw status = true ↔ w.mayClose status .sched = true ∧ v.Counts w := by
  simp only [schedCloseValid, World.mayClose, Warning.Counts, Warning.compared, Warning.comparedId,
    hk, decide_eq_true_eq]
  tauto

/-- The end of a warning task, and the close that it makes or not. -/
structure Completes (w w' : World) (kind : WarningKind) (tid : ℕ) (sends : Bool) (out : List Out) :
    Prop where
  tasks : w'.tasks = Function.update w.tasks tid none
  generation : w'.fw.closeGeneration = w.fw.closeGeneration
  commandId : w'.fw.doorCommandId = w.fw.doorCommandId + if sends then 1 else 0
  requested : out.filterMap Out.requested = if sends then [(kind.caller, .doorClose)] else []

/-- **What a completed warning does**: it ends, and it closes the door exactly if its callback may
and its stamps still read the same. -/
theorem completes_of_perform (h : w.perform c = some (w', r))
    (hc : c.completes = some (kind, tid)) :
    ∃ v sends, w.tasks tid = some v ∧ v.kind = kind ∧ Completes w w' kind tid sends r.out ∧
      (sends = true ↔ w.mayClose c.decidesOn kind = true ∧ v.Counts w) := by
  have heff := World.perform_effect h
  cases heff with
  | userSent htask hgen hclear hout =>
    obtain ⟨rfl, rfl⟩ := Prod.mk.inj (Option.some.inj hc)
    obtain ⟨hv, hk, -, -⟩ := warningOver_eq_some htask
    refine ⟨_, true, hv, hk, ⟨rfl, rfl, rfl, ?_⟩, ?_⟩
    · simp [Out.requested, requested_of_silent hout, WarningKind.caller]
    · simp [Warning.Counts, Warning.compared, Warning.comparedId, hk, hgen, World.mayClose,
        Call.decidesOn, hclear]
  | @userDropped _ v status again err out htask hout =>
    obtain ⟨rfl, rfl⟩ := Prod.mk.inj (Option.some.inj hc)
    obtain ⟨hv, hk, -, -⟩ := warningOver_eq_some htask
    refine ⟨v, false, hv, hk, ⟨rfl, rfl, rfl, requested_of_silent hout⟩, ?_⟩
    simp only [World.perform, htask, Option.some.injEq, Prod.mk.injEq] at h
    have hreq := userCloseTask_requested (s := w.fw) v.generation status again err
    have hnone :
        (userCloseTask w.fw v.generation status err again).2.filterMap Out.requested = [] := by
      rw [(Reply.mk.inj h.2).2, requested_of_silent hout]
    rw [hnone] at hreq
    simp only [Bool.false_eq_true, false_iff, World.mayClose, Call.decidesOn, Warning.Counts,
      Warning.compared, Warning.comparedId, hk, and_true]
    intro hboth
    rw [if_pos hboth] at hreq
    cases hreq
  | autoCancelled htask hvalid =>
    obtain ⟨rfl, rfl⟩ := Prod.mk.inj (Option.some.inj hc)
    obtain ⟨hv, hk, -, -⟩ := warningOver_eq_some htask
    refine ⟨_, false, hv, hk, ⟨rfl, rfl, rfl, rfl⟩, ?_⟩
    rw [Call.decidesOn, ← autoCloseValid_iff hk, hvalid]
  | autoSent htask hvalid | autoRefused _ htask hvalid =>
    obtain ⟨rfl, rfl⟩ := Prod.mk.inj (Option.some.inj hc)
    obtain ⟨hv, hk, -, -⟩ := warningOver_eq_some htask
    refine ⟨_, true, hv, hk, ⟨rfl, rfl, rfl, rfl⟩, ?_⟩
    rw [Call.decidesOn, ← autoCloseValid_iff hk, hvalid]
  | schedCancelled htask hvalid =>
    obtain ⟨rfl, rfl⟩ := Prod.mk.inj (Option.some.inj hc)
    obtain ⟨hv, hk, -, -⟩ := warningOver_eq_some htask
    refine ⟨_, false, hv, hk, ⟨rfl, rfl, rfl, rfl⟩, ?_⟩
    rw [Call.decidesOn, ← schedCloseValid_iff hk, hvalid]
  | schedSent htask hvalid hout =>
    obtain ⟨rfl, rfl⟩ := Prod.mk.inj (Option.some.inj hc)
    obtain ⟨hv, hk, -, -⟩ := warningOver_eq_some htask
    refine ⟨_, true, hv, hk, ⟨rfl, rfl, rfl, ?_⟩, ?_⟩
    · simp [Out.requested, requested_of_silent hout, WarningKind.caller]
    · rw [Call.decidesOn, ← schedCloseValid_iff hk, hvalid]
  | idle hcall => simp [hcall] at hc
  | news hcall => simp [Call.completes_of_isNews hcall] at hc
  | set hcall | setFailed hcall => simp [Call.completes_of_isSetter hcall] at hc
  | _ => simp [Call.completes] at hc

end Completions

/-! ### Bumps of the generation -/

section Bumps

variable {s s' : Firmware} {w w' : World} {c : Call} {r : Reply} {now fresh : ℤ} {d : DoorState}

/-- The generation stands, or the view of the door or of the obstruction shows why it does not. -/
def BumpShows (s s' : Firmware) : Prop :=
  s'.closeGeneration = s.closeGeneration ∨ s'.lastDoor ≠ s.lastDoor ∨
    s'.lastObstruction ≠ s.lastObstruction

theorem setLastDoorState_bumpShows (hd : d ≠ s.lastDoor) :
    BumpShows s (setLastDoorState s now d).1 := by
  obtain ⟨_, _, _, -, he⟩ := setLastDoorState_of_ne now hd
  rw [he]
  exact .inr (.inl hd)

theorem resolveDoor_bumpShows (status : GdoStatus) (inferred : DoorState) (raw : ℕ) :
    BumpShows s (resolveDoor s now status inferred raw).1 := by
  unfold resolveDoor
  split_ifs with h
  · exact setLastDoorState_bumpShows h.1
  · exact .inl rfl

theorem processDoorPosition_bumpShows (status : GdoStatus) :
    BumpShows s (processDoorPosition s now status).1 := by
  unfold processDoorPosition
  split_ifs
  · exact .inl rfl
  · exact resolveDoor_bumpShows (s := { s with tracking := _ }) status _ _

theorem gdoEventSynced_bumpShows (status : GdoStatus) (rolling : EspErr) :
    BumpShows s (gdoEventSynced s now status rolling).1 := by
  unfold gdoEventSynced
  by_cases h : status.synced = true
  · simp only [h, Bool.not_true, Bool.false_eq_true, ite_false]
    exact processDoorPosition_bumpShows (s := { s with link := _ }) status
  · simp only [h, Bool.not_false, ite_true]
    exact .inl rfl

theorem gdoEventObstruction_bumpShows (status : GdoStatus) :
    BumpShows s (gdoEventObstruction s status).1 := by
  unfold gdoEventObstruction
  split_ifs with h
  · exact .inr (.inr h)
  · exact .inl rfl

theorem gdoEventMotor_bumpShows (status : GdoStatus) :
    BumpShows s (gdoEventMotor s now status).1 := by
  unfold gdoEventMotor
  split_ifs with hm hc ho
  · exact .inl rfl
  · exact setLastDoorState_bumpShows (by simp [hc])
  · exact setLastDoorState_bumpShows (by simp [ho])
  · exact .inl rfl

theorem correctLastDoor_bumpShows (d : DoorState) :
    BumpShows s (correctLastDoor s fresh d).1 := by
  unfold correctLastDoor
  split_ifs with h
  · exact setLastDoorState_bumpShows h
  · exact .inl rfl

theorem watchdogTransition_bumpShows (status recovery : Option GdoStatus) :
    BumpShows s (watchdogTransition s now fresh status recovery).1 := by
  unfold watchdogTransition
  split_ifs
  · exact .inl rfl
  · cases status with
    | none => exact .inl rfl
    | some status =>
      simp only
      split_ifs
      · exact .inl rfl
      · cases resolvedState status with
        | none => exact correctLastDoor_bumpShows (s := { s with tracking := _ }) .stopped
        | some d => exact correctLastDoor_bumpShows (s := { s with tracking := _ }) d

theorem bumpShows_of_isNews (h : w.perform c = some (w', r)) (hc : c.isNews = true) :
    BumpShows w.fw w'.fw ∨ c.isPress = true := by
  cases c with
  | event status event rolling =>
    simp only [World.perform, Option.some.injEq, Prod.mk.injEq] at h
    obtain ⟨rfl, -⟩ := h
    simp only [gdoEventHandler]
    cases event with
    | synced => exact .inl (gdoEventSynced_bumpShows (s := { w.fw with link := _ }) status rolling)
    | doorPosition =>
      exact .inl (processDoorPosition_bumpShows (s := { w.fw with link := _ }) status)
    | obstruction =>
      exact .inl (gdoEventObstruction_bumpShows (s := { w.fw with link := _ }) status)
    | motor => exact .inl (gdoEventMotor_bumpShows (s := { w.fw with link := _ }) status)
    | button =>
      by_cases hpress : status.button = .pressed
      · exact .inr (by simpa [Call.isPress] using hpress)
      · exact .inl (.inl (by simp [gdoEventSwitch, hpress]))
    | _ => exact .inl (.inl rfl)
  | watchdogTransition status recovery =>
    simp only [World.perform] at h
    split_ifs at h
    obtain ⟨rfl, rfl⟩ := Prod.mk.inj (Option.some.inj h)
    exact .inl (watchdogTransition_bumpShows status recovery)
  | _ => simp [Call.isNews] at hc

theorem notCreated_iff {status : Option GdoStatus} {start : TaskStart}
    (h : w.perform (.controlClose status start) = some (w', r)) (hnext : w'.nextTask = w.nextTask) :
    (Call.controlClose status start).notCreated r.err = true ↔
      w'.fw.closeGeneration = w.fw.closeGeneration + 1 := by
  simp only [World.perform, gdoControlClose] at h
  by_cases hstands : w.fw.userCloseStands = true
  · simp only [hstands, if_true, Option.some.injEq, Prod.mk.injEq] at h
    obtain ⟨rfl, rfl⟩ := h
    simp [Call.notCreated]
  by_cases hclosed : alreadyClosed w.fw status = true
  · simp only [hstands, hclosed, if_true] at h
    obtain ⟨rfl, rfl⟩ := Prod.mk.inj (Option.some.inj h)
    simp [Call.notCreated]
  by_cases halloc : start.alloc = true
  · by_cases hcreated : start.created = true
    · simp [hstands, hclosed, halloc, hcreated, World.spawn] at h
      obtain ⟨rfl, rfl⟩ := h
      simp at hnext
    · simp [hstands, hclosed, halloc, hcreated] at h
      obtain ⟨rfl, rfl⟩ := h
      simp [Call.notCreated, halloc]
  · simp [hstands, hclosed, halloc] at h
    obtain ⟨rfl, rfl⟩ := h
    simp [Call.notCreated, halloc]

end Bumps

/-! ### One step -/

section Steps

variable {a : Arbiter} {w w' : World} {c : Call} {r : Reply} {e : Step} {kind : WarningKind}
  {tid : ℕ} {v : Warning}

theorem Sound.counts_iff_live (hi : Sound w) (hcalm : w.Calm) (hv : w.tasks tid = some v) :
    v.Counts w ↔ w.Live v.kind tid := by
  unfold Warning.Counts
  rw [hi.compared_eq hv]
  constructor
  · rintro ⟨hgen, hid⟩
    have heq := Stamp.eq_of_reads_eq (hi.book.generation tid v hv)
      (hcalm.noWrap v (hi.book.mem_sleeping.2 ⟨tid, hv⟩)) hgen
    refine ⟨v, hv, rfl, heq, ?_⟩
    intro hk
    rw [hi.comparedId_eq hv hk] at hid
    exact Stamp.eq_of_reads_eq (hi.book.commandId tid v hv) (hi.commandId_lt hcalm hv hk heq) hid
  · rintro ⟨u, hu, -, hgen, hid⟩
    obtain rfl := Option.some.inj (hv.symm.trans hu)
    refine ⟨by rw [hgen], ?_⟩
    by_cases hk : v.kind = .user
    · simp [Warning.comparedId, hk]
    · rw [hi.comparedId_eq hv hk, hid hk]

theorem Follows.congr (hi : Follows a w) (htasks : w'.tasks = w.tasks)
    (hgen : w'.fw.closeGeneration = w.fw.closeGeneration)
    (hid : w'.fw.doorCommandId = w.fw.doorCommandId) : Follows a w' := by
  intro kind tid
  rw [hi kind tid, World.Live, World.Live, htasks, hgen, hid]

theorem follows_idle (hbook : Bookkeeping w) (htasks : w'.tasks = w.tasks)
    (hgen : w.fw.closeGeneration < w'.fw.closeGeneration) : Follows .idle w' := by
  intro kind tid
  rw [World.Live, htasks]
  simpa using hbook.not_live_of_generation hgen

theorem follows_start_user (hbook : Bookkeeping w) {u : Warning} (hu : u.kind = .user)
    (htasks : w'.tasks = Function.update w.tasks w.nextTask (some u))
    (hugen : u.generation = w'.fw.closeGeneration)
    (hgen : w.fw.closeGeneration < w'.fw.closeGeneration) :
    Follows (a.start .user w.nextTask) w' := by
  intro kind tid
  rw [World.Live, htasks, live_spawn (hbook.fresh _ le_rfl), Arbiter.start_pending]
  have hold : ¬Live w.tasks w'.fw.closeGeneration w'.fw.doorCommandId kind tid :=
    hbook.not_live_of_generation hgen
  by_cases hk : kind = .user
  · subst hk
    simp [hold, hu, hugen, eq_comm]
  · simp [hold, hu, hk, Ne.symm hk]

theorem Follows.start_automatic (hi : Follows a w) (hbook : Bookkeeping w) {u : Warning}
    (hu : u.kind ≠ .user) (htasks : w'.tasks = Function.update w.tasks w.nextTask (some u))
    (hnone : ∀ i v, w.tasks i = some v → v.kind ≠ u.kind)
    (hugen : u.generation = w'.fw.closeGeneration) (huid : u.commandId = w'.fw.doorCommandId)
    (hgen : w'.fw.closeGeneration = w.fw.closeGeneration)
    (hid : w'.fw.doorCommandId = w.fw.doorCommandId) :
    Follows (a.start u.kind w.nextTask) w' := by
  intro kind tid
  rw [World.Live, htasks, live_spawn (hbook.fresh _ le_rfl), Arbiter.start_pending, hgen, hid]
  by_cases hk : kind = u.kind
  · subst hk
    have hold : ¬ Live w.tasks w.fw.closeGeneration w.fw.doorCommandId u.kind tid := by
      rintro ⟨v, hv, hvk, -⟩
      exact hnone tid v hv hvk
    simp [hold, hugen, huid, hgen, hid, eq_comm]
  · rw [if_neg hk, if_neg hu, hi kind tid]
    simp [Ne.symm hk, World.Live]

/-- A warning that is over. -/
theorem Follows.completed (hi : Follows a w) (hsound : Sound w) (hcalm : w.Calm)
    (hv : w.tasks tid = some v) {sends clear : Bool} {out : List Out}
    (h : Completes w w' v.kind tid sends out)
    (hsends : sends = true ↔ clear = true ∧ v.Counts w) :
    Follows (a.next (.completed v.kind tid clear)) w' ∧
      out.filterMap Out.requested = a.emits (.completed v.kind tid clear) := by
  have hlive : a.pending v.kind = some tid ↔ v.Counts w :=
    (hi v.kind tid).trans (hsound.counts_iff_live hcalm hv).symm
  -- no other warning of its kind counts
  have hunique : ∀ tid', w.Live v.kind tid' → v.Counts w → tid' = tid := fun tid' hother hcounts =>
    Option.some.inj (((hi v.kind tid').2 hother).symm.trans (hlive.2 hcounts))
  have hafter : ∀ kind tid', w'.Live kind tid' ↔ tid' ≠ tid ∧
      Live w.tasks w.fw.closeGeneration (w.fw.doorCommandId + if sends then 1 else 0)
        kind tid' := by
    intro kind tid'
    rw [World.Live, h.tasks, live_finish, h.generation, h.commandId]
  have hne : ∀ {k kind tid'}, kind ≠ v.kind → Live w.tasks w.fw.closeGeneration k kind tid' →
      tid' ≠ tid := fun hk => ne_of_live hv rfl hk
  rw [h.requested]
  cases sends with
  | true =>
    obtain ⟨rfl, hcounts⟩ := hsends.1 rfl
    have hpend := hlive.2 hcounts
    refine ⟨?_, by simp [Arbiter.emits, hpend]⟩
    intro kind tid'
    rw [Arbiter.next, if_pos hpend, if_pos rfl, Arbiter.made_pending, hafter]
    by_cases hk : kind = .user
    · subst hk
      rw [live_user (i := w.fw.doorCommandId)]
      by_cases hvk : v.kind = .user
      · simp only [hvk, ne_eq, not_true_eq_false, and_false, if_false, reduceCtorEq, false_iff]
        rintro ⟨hother, hl⟩
        exact hother (hunique tid' (hvk ▸ hl) hcounts)
      · simp only [ne_eq, hvk, not_false_eq_true, and_self, if_true, hi .user tid']
        exact ⟨fun hl => ⟨hne (Ne.symm hvk) hl, hl⟩, And.right⟩
    · simp only [hk, false_and, if_false, reduceCtorEq, false_iff]
      rintro ⟨-, hl⟩
      exact hsound.book.not_live_of_commandId (Nat.lt_succ_self _) hk hl
  | false =>
    have hnot : ¬ (clear = true ∧ v.Counts w) := fun hboth => by simpa using hsends.2 hboth
    simp only [Bool.false_eq_true, if_false, Nat.add_zero] at hafter ⊢
    by_cases hpend : a.pending v.kind = some tid
    · have hcounts := hlive.1 hpend
      have hclear : clear = false := by simpa [hcounts] using hnot
      refine ⟨?_, by simp [Arbiter.emits, hclear]⟩
      intro kind tid'
      rw [Arbiter.next, if_pos hpend, hclear, hafter]
      simp only [Bool.false_eq_true, if_false, Arbiter.drop_pending]
      by_cases hk : kind = v.kind
      · subst hk
        simp only [if_true, reduceCtorEq, false_iff]
        rintro ⟨hother, hl⟩
        exact hother (hunique tid' hl hcounts)
      · rw [if_neg hk, hi kind tid']
        exact ⟨fun hl => ⟨hne hk hl, hl⟩, And.right⟩
    · refine ⟨?_, by simp [Arbiter.emits, hpend]⟩
      intro kind tid'
      rw [Arbiter.next, if_neg hpend, hafter, hi kind tid']
      refine ⟨fun hl => ⟨?_, hl⟩, And.right⟩
      rintro rfl
      by_cases hk : kind = v.kind
      · subst hk
        exact hpend ((hi _ _).2 hl)
      · exact hne hk hl rfl

theorem Call.cancels_of_isPress (h : c.isPress = true) (err : EspErr) : c.Cancels err := by
  cases c with
  | event status event rolling =>
    cases event <;> simp_all [Call.isPress, Call.Cancels]
  | _ => simp [Call.isPress] at h

theorem Call.cancels_of_isSetter (h : c.isSetter = true) : c.Cancels .ok := by
  cases c <;> simp_all [Call.isSetter, Call.Cancels]

theorem closeEvents_of_completes (hc : e.label.1.call.completes = some (kind, tid)) :
    closeEvents e = [.completed kind tid (e.src.mayClose e.label.1.call.decidesOn kind)] := by
  unfold closeEvents
  split
  · rename_i hopen
    simp [hopen, Call.completes] at hc
  · rw [hc]

theorem closeEvents_of_nextTask (hc : e.label.1.call.completes = none)
    (hopen : ∀ err, e.label.1.call ≠ .controlOpen err) (hnext : e.dst.nextTask = e.src.nextTask) :
    closeEvents e = if cancelsCloses e then [.cancelled] else [] := by
  unfold closeEvents
  split
  · rename_i err hcall
    exact absurd hcall (hopen err)
  · simp [hc, hnext]

theorem closeEvents_of_starts (hc : e.label.1.call.starts = some kind)
    (hnext : e.dst.nextTask ≠ e.src.nextTask) :
    closeEvents e = [.started kind e.src.nextTask] := by
  unfold closeEvents
  split
  · rename_i hcall
    simp [hcall, Call.starts] at hc
  · have hnone : e.label.1.call.completes = none := by
      cases hcall : e.label.1.call <;> simp_all [Call.starts, Call.completes]
    simp [hnone, hnext, hc]

/-- **A step that starts and ends no warning bumps the generation exactly if it cancels what
pends.** -/
theorem cancelsCloses_iff (hst : control.toLTS.step e.src e.label e.dst)
    (hc : e.label.1.call.completes = none) (hopen : ∀ err, e.label.1.call ≠ .controlOpen err)
    (hboot : e.label.1.call.isReboot = false) (hnext : e.dst.nextTask = e.src.nextTask) :
    cancelsCloses e = true ↔ e.dst.fw.closeGeneration ≠ e.src.fw.closeGeneration := by
  obtain ⟨w, ⟨⟨t, c⟩, r⟩, w'⟩ := e
  have hperf : (w.tick t).perform c = some (w', r) := World.perform_of_step hst
  have hcreated : c.notCreated r.err = true → w'.fw.closeGeneration = w.fw.closeGeneration + 1 := by
    intro hnot
    cases c with
    | controlClose status start => exact (notCreated_iff hperf hnext).1 hnot
    | _ => simp [Call.notCreated] at hnot
  simp only at hc hopen hboot hnext
  have heff := World.perform_effect hperf
  simp only [cancelsCloses, decide_eq_true_eq, hboot, Bool.false_eq_true, or_false]
  constructor
  · intro hcancels hgen
    obtain ⟨hnone, -, hdoor, hobst⟩ := heff.quiet_of_generation hgen hboot
    rcases hcancels with h | h | h | ⟨hset, hok⟩ | h
    · exact h hdoor
    · exact h hobst
    · exact hnone (Call.cancels_of_isPress h _)
    · exact hnone (hok ▸ Call.cancels_of_isSetter hset)
    · have := hcreated h
      omega
  · intro hgen
    cases heff with
    | news hcall =>
      rcases bumpShows_of_isNews hperf hcall with (h | h | h) | h
      · exact absurd h hgen
      · exact .inl h
      · exact .inr (.inl h)
      · exact .inr (.inr (.inl h))
    | set hcall => exact .inr (.inr (.inr (.inl ⟨hcall, rfl⟩)))
    | closeNotCreated => exact .inr (.inr (.inr (.inr ((notCreated_iff hperf rfl).2 rfl))))
    | opened err => exact absurd rfl (hopen err)
    | closeArmed => simp [World.tick] at hnext
    | rebooted => simp [Call.isReboot] at hboot
    | _ => exact absurd rfl hgen

/-- A step that starts and ends no warning, and opens nothing, keeps the tasks and the command id
and issues no command. -/
theorem Effect.keeps (h : Effect w c w' r) (hc : c.completes = none)
    (hopen : ∀ err, c ≠ .controlOpen err) (hboot : c.isReboot = false)
    (hnext : w'.nextTask = w.nextTask) :
    w'.tasks = w.tasks ∧ w'.fw.doorCommandId = w.fw.doorCommandId ∧
      w.fw.closeGeneration ≤ w'.fw.closeGeneration ∧ r.out.filterMap Out.requested = [] := by
  have hgen := (h.counters hboot).1
  cases h with
  | idle _ _ hout | restarted _ _ _ _ hout =>
    exact ⟨rfl, rfl, hgen, requested_of_not_isRequest hout⟩
  | news _ hnews _ hout => exact ⟨rfl, hnews.frame.commandId, hgen, requested_of_silent hout⟩
  | opened err => exact absurd rfl (hopen err)
  | closeArmed | autoArmed | schedArmed => simp at hnext
  | userSent | userDropped | autoCancelled | autoSent | autoRefused | schedCancelled | schedSent =>
    simp [Call.completes] at hc
  | rebooted => simp [Call.isReboot] at hboot
  | _ => exact ⟨rfl, rfl, hgen, rfl⟩

theorem Follows.started (hi : Follows a w) (hsound : Sound w) (hcalm : w.Calm)
    (h : Effect w c w' r) (hboot : c.isReboot = false) (hnext : w'.nextTask ≠ w.nextTask) :
    ∃ kind, c.starts = some kind ∧ Follows (a.start kind w.nextTask) w' ∧
      r.out.filterMap Out.requested = [] := by
  cases h with
  | closeArmed =>
    exact ⟨.user, rfl, follows_start_user hsound.book rfl rfl rfl (Nat.lt_succ_self _), rfl⟩
  | autoArmed hdue =>
    refine ⟨.auto, rfl, ?_, rfl⟩
    exact hi.start_automatic (u := ⟨.auto, w.clock, w.fw.closeGeneration, w.fw.doorCommandId⟩)
      hsound.book (by simp) rfl (hsound.auto.none_of_due hsound.book hcalm hdue) rfl rfl rfl rfl
  | schedArmed hdue =>
    obtain ⟨_, _, _, -, -, -, -, hpend, -⟩ := schedCloseDue_eq_some hdue
    refine ⟨.sched, rfl, ?_, rfl⟩
    exact hi.start_automatic (u := ⟨.sched, w.clock, w.fw.closeGeneration, w.fw.doorCommandId⟩)
      hsound.book (by simp) rfl (hsound.sched.none_of_not_pending hpend) rfl rfl rfl rfl
  | rebooted => simp [Call.isReboot] at hboot
  | _ => exact absurd rfl hnext

/-- **One step**: the firmware follows the arbiter through the events of the step, and issues its
commands. -/
theorem Follows.step (hi : Follows a e.src) (hsound : Sound e.src) (hcalm : CalmAt e.src e.label.1)
    (hst : control.toLTS.step e.src e.label e.dst) :
    Follows (arbiter.last a (closeEvents e)) e.dst ∧
      doorRequests e = arbiter.output a (closeEvents e) := by
  rcases World.step_cases hst with ⟨hboot, hclock, heff⟩ | ⟨reads, setenvOk, hcall, hr, hdst⟩
  swap
  · have hevents : closeEvents e = [.cancelled] := by
      rw [closeEvents_of_nextTask (by simp [hcall, Call.completes]) (by simp [hcall])
        (by simp [hdst])]
      simp [cancelsCloses, hcall, Call.isReboot]
    rw [hevents]
    refine ⟨?_, by simp [doorRequests, hr, arbiter, Arbiter.emits]⟩
    intro kind tid
    simp [arbiter, Arbiter.next, World.Live, Live, hdst, World.boot]
  have hquiet := hcalm hboot
  have hnow := hsound.tick hclock
  cases hc : e.label.1.call.completes with
  | some x =>
    obtain ⟨kind, tid⟩ := x
    obtain ⟨v, sends, hv, rfl, hdone, hsends⟩ :=
      completes_of_perform (World.perform_of_step hst) hc
    obtain ⟨hrel, hout⟩ :=
      Follows.completed (a := a) (w := e.src.tick e.label.1.t) hi hnow hquiet hv hdone hsends
    rw [closeEvents_of_completes hc]
    exact ⟨hrel, by rw [arbiter.output_cons, arbiter.output_nil, List.append_nil]; exact hout⟩
  | none =>
    by_cases hnext : e.dst.nextTask = e.src.nextTask
    · by_cases hopen : ∀ err, e.label.1.call ≠ .controlOpen err
      · obtain ⟨htasks, hid, hgen, hout⟩ := heff.keeps hc hopen hboot hnext
        rw [closeEvents_of_nextTask hc hopen hnext]
        have hiff := cancelsCloses_iff hst hc hopen hboot hnext
        split_ifs with hcancels
        · refine ⟨follows_idle hnow.book htasks (lt_of_le_of_ne hgen ?_), hout⟩
          exact (hiff.1 hcancels).symm
        · exact ⟨hi.congr htasks (by simpa using hiff.not.1 hcancels) hid, hout⟩
      · simp only [ne_eq, not_forall, not_not] at hopen
        obtain ⟨err, hcall⟩ := hopen
        obtain ⟨hdst, hr⟩ := World.eq_of_step hst hcall rfl
        rw [closeEvents, hcall, hdst, doorRequests, hr]
        exact ⟨follows_idle hnow.book rfl (Nat.lt_succ_self _), rfl⟩
    · obtain ⟨kind, hstarts, hrel, hout⟩ :=
        Follows.started (a := a) (w := e.src.tick e.label.1.t) hi hnow hquiet heff hboot hnext
      rw [closeEvents_of_starts hstarts hnext]
      exact ⟨hrel, hout⟩

end Steps

/-! ### Runs -/

section Runs

variable {w w' : World} {es : List Step} {a : Action} {r : Reply} {e : Step} {kind : WarningKind}
  {tid : ℕ}

/-- **The firmware is the arbiter.**  In every run in which no sleeping warning is a minute old or
has seen a full turn of the generation and the timeout is at least a minute, the door commands that
the firmware issues are, in their order, those of the arbiter on the events of the run, and the
warnings whose stamps are the present counters are those that the arbiter has. -/
theorem door_requests_eq_arbiter {n : Nvs} {reads : NvsReads} {setenvOk : Bool} {t₀ : ℤ}
    (hrun : control.toLTS.Trace (World.boot n reads setenvOk t₀) es w)
    (hcalm : ∀ e ∈ es, CalmAt e.src e.label.1) :
    es.flatMap doorRequests = arbiter.output .idle (es.flatMap closeEvents) ∧
      ∀ kind tid, (arbiter.last .idle (es.flatMap closeEvents)).pending kind = some tid ↔
        w.Live kind tid := by
  have hboot : Sound (World.boot n reads setenvOk t₀) := Sound.boot n reads setenvOk t₀ 0
  have hidle : Follows .idle (World.boot n reads setenvOk t₀) := by
    intro kind tid
    simp [World.Live, Live, World.boot]
  obtain ⟨⟨-, hfollows⟩, hout⟩ := hrun.follows arbiter
    (R := fun a w => Sound w ∧ Follows a w) ⟨hboot, hidle⟩ fun e he hst a hi =>
      have hstep := hi.2.step hi.1 (hcalm e he) hst
      ⟨⟨hi.1.step (hcalm e he) hst, hstep.1⟩, hstep.2⟩
  exact ⟨hout, hfollows⟩

/-- The run of an auto-close, to the end of its warning. -/
def autoClosedRun : List Action :=
  autoCloseRun ++ [⟨67001, .autoCloseComplete 0 (some (.idle .opened 0 0)) .ok⟩]

theorem door_requests_eq_arbiter_auto :
    (control.edges (World.boot autoCloseNvs {} true 0) autoClosedRun).flatMap doorRequests =
      [(.autoClose, .doorClose)] := by
  rw [(door_requests_eq_arbiter (control.trace_edges (World.boot autoCloseNvs {} true 0)
    autoClosedRun) (by decide +kernel)).1]
  decide +kernel

/-- The event ends every close that pends, whatever its kind. -/
def ArbiterEvent.Disturbs : ArbiterEvent → Prop
  | .opened | .cancelled => True
  | .started kind _ => kind = .user
  | .completed _ _ _ => False

/-- A step moves the generation exactly if one of its events disturbs what pends, and the command
id exactly if it issues a door command. -/
theorem counters_eq_iff (hst : control.toLTS.step e.src e.label e.dst)
    (hboot : e.label.1.call.isReboot = false) :
    (e.dst.fw.closeGeneration = e.src.fw.closeGeneration ↔ ∀ x ∈ closeEvents e, ¬ x.Disturbs) ∧
      (e.dst.fw.doorCommandId = e.src.fw.doorCommandId ↔ doorRequests e = []) := by
  have heff : Effect (e.src.tick e.label.1.t) e.label.1.call e.dst e.label.2 := effect_of_step hst
  cases hc : e.label.1.call.completes with
  | some x =>
    obtain ⟨kind, tid⟩ := x
    obtain ⟨v, sends, -, -, hdone, -⟩ := completes_of_perform (World.perform_of_step hst) hc
    rw [closeEvents_of_completes hc, doorRequests, hdone.requested, hdone.commandId,
      hdone.generation]
    cases sends <;> simp [ArbiterEvent.Disturbs, World.tick]
  | none =>
    by_cases hnext : e.dst.nextTask = e.src.nextTask
    · by_cases hopen : ∀ err, e.label.1.call ≠ .controlOpen err
      · obtain ⟨-, hid, -, hout⟩ := heff.keeps hc hopen hboot hnext
        have hiff := cancelsCloses_iff hst hc hopen hboot hnext
        rw [closeEvents_of_nextTask hc hopen hnext, doorRequests, hout, hid]
        refine ⟨?_, by simp [World.tick]⟩
        split_ifs with hcancels
        · simpa [ArbiterEvent.Disturbs] using hiff.1 hcancels
        · simpa using hiff.not.1 hcancels
      · simp only [ne_eq, not_forall, not_not] at hopen
        obtain ⟨err, hcall⟩ := hopen
        obtain ⟨hdst, hr⟩ := World.eq_of_step hst hcall rfl
        rw [closeEvents, hcall, hdst, doorRequests, hr]
        simp [ArbiterEvent.Disturbs, World.tick, Out.requested, bump]
    · obtain ⟨w, ⟨⟨t, c⟩, r⟩, w'⟩ := e
      simp only at heff hboot hc hnext
      cases heff with
      | closeArmed | autoArmed | schedArmed =>
        rw [closeEvents_of_starts rfl hnext]
        simp [ArbiterEvent.Disturbs, doorRequests, World.tick]
      | rebooted => simp [Call.isReboot] at hboot
      | userSent | userDropped | autoCancelled | autoSent | autoRefused | schedCancelled
      | schedSent => simp [Call.completes] at hc
      | _ => exact absurd rfl hnext

/-- **A sleeping warning still counts exactly if nothing disturbed it since it was started.** -/
theorem live_iff_undisturbed {arm : Step} {mid : List Step} {v : Warning}
    (hst : control.toLTS.step arm.src arm.label arm.dst) (hbook : Bookkeeping arm.src)
    (hmid : control.toLTS.Trace arm.dst mid w) (harm : Arms arm v.kind tid)
    (hv : w.tasks tid = some v) :
    w.Live v.kind tid ↔ (∀ e ∈ mid, ∀ x ∈ closeEvents e, ¬ x.Disturbs) ∧
      (v.kind ≠ .user → ∀ e ∈ mid, doorRequests e = []) := by
  obtain ⟨u, hu, hk⟩ := harm.asleep
  obtain ⟨-, -, hgen, hid, -⟩ := arms_of_step hst hbook (by simp [harm.fresh]) hu
  obtain rfl := warning_unique hmid (hbook.step hst) hu hv
  have hsteps : ∀ e ∈ mid, control.toLTS.step e.src e.label e.dst :=
    fun e he => hmid.step_of_mem he
  have hboot : ∀ e ∈ mid, e.label.1.call.isReboot = false := fun e he =>
    not_isReboot_of_asleep (hsteps e he) (asleep_throughout hmid (hbook.step hst) hu hv e he).2
  have hmono := fun e he => step_mono (hsteps e he) (hboot e he)
  have hcounters := fun e he => counters_eq_iff (hsteps e he) (hboot e he)
  have hgens := hmid.eq_iff_of_mono (f := fun w => w.fw.closeGeneration) fun e he => (hmono e he).1
  have hids := hmid.eq_iff_of_mono (f := fun w => w.fw.doorCommandId) fun e he => (hmono e he).2.1
  have hlive : w.Live u.kind tid ↔ w.fw.closeGeneration = arm.dst.fw.closeGeneration ∧
      (u.kind ≠ .user → w.fw.doorCommandId = arm.dst.fw.doorCommandId) := by
    simp [World.Live, Live, hv, hgen, hid, eq_comm]
  rw [hlive, hgens, hids]
  refine and_congr (forall₂_congr fun e he => (hcounters e he).1) (imp_congr_right fun _ => ?_)
  exact forall₂_congr fun e he => (hcounters e he).2

/-- **Closes are made exactly if nothing disturbs them.**  In every run in which no sleeping warning
is a minute old or has seen a full turn of the generation and the timeout is at least a minute, when
a warning is over, its task closes the door if and only if its callback may and nothing has happened
since the step that started the warning that ends a pending close; and, for an automatic close, no
door command has been issued since. -/
theorem close_made_iff_undisturbed {n : Nvs} {reads : NvsReads} {setenvOk : Bool} {t₀ : ℤ}
    (hrun : control.toLTS.Trace (World.boot n reads setenvOk t₀) es w)
    (hcalm : ∀ e ∈ es, CalmAt e.src e.label.1) (hstep : control.step w a = some (w', r))
    (hcalm' : CalmAt w a) (hkind : a.call.completes = some (kind, tid)) :
    r.out.filterMap Out.requested = [(kind.caller, .doorClose)] ↔
      w.mayClose a.call.decidesOn kind = true ∧
        ∃ before arm mid, es = before ++ arm :: mid ∧ Arms arm kind tid ∧
          (∀ e ∈ mid, ∀ x ∈ closeEvents e, ¬ x.Disturbs) ∧
          (kind ≠ .user → ∀ e ∈ mid, doorRequests e = []) := by
  have hboot : a.call.isReboot = false := Call.not_isReboot_of_completes hkind
  have hsound : Sound w := (Sound.boot n reads setenvOk t₀ 0).trace hrun hcalm
  obtain ⟨hclock, -⟩ := World.step_effect hstep hboot
  have hnow := hsound.tick hclock
  obtain ⟨v, sends, hv, rfl, hdone, hsends⟩ :=
    completes_of_perform (World.perform_of_step hstep) hkind
  rw [hnow.counts_iff_live (hcalm' hboot) hv] at hsends
  have hsent : r.out.filterMap Out.requested = [(v.kind.caller, .doorClose)] ↔ sends = true := by
    rw [hdone.requested]
    cases sends <;> simp
  rw [hsent, hsends]
  refine and_congr_right fun _ => ?_
  have hbook : Bookkeeping (World.boot n reads setenvOk t₀) :=
    (Sound.boot n reads setenvOk t₀ 0).book
  constructor
  · intro hlive
    obtain ⟨before, arm, mid, rfl, hold, hnew, -⟩ := warning_armed hrun (by simp [World.boot]) hv
    obtain ⟨hbefore, hst, hmid⟩ := LTS.Trace.at_edge_iff.1 hrun
    obtain ⟨harm, -⟩ := arms_of_step hst (hbook.trace hbefore) hold hnew
    exact ⟨before, arm, mid, rfl, harm,
      (live_iff_undisturbed hst (hbook.trace hbefore) hmid harm hv).1 hlive⟩
  · rintro ⟨before, arm, mid, rfl, harm, hundisturbed⟩
    obtain ⟨hbefore, hst, hmid⟩ := LTS.Trace.at_edge_iff.1 hrun
    exact (live_iff_undisturbed hst (hbook.trace hbefore) hmid harm hv).2 hundisturbed

theorem close_made_iff_undisturbed_auto : ∃ before arm mid,
    control.edges (World.boot autoCloseNvs {} true 0) autoCloseRun = before ++ arm :: mid ∧
      Arms arm .auto 0 ∧ (∀ e ∈ mid, ∀ x ∈ closeEvents e, ¬ x.Disturbs) ∧
      (WarningKind.auto ≠ .user → ∀ e ∈ mid, doorRequests e = []) := by
  have hsome : (control.step (control.last (World.boot autoCloseNvs {} true 0) autoCloseRun)
      ⟨67001, .autoCloseComplete 0 (some (.idle .opened 0 0)) .ok⟩).isSome = true := by
    decide +kernel
  exact ((close_made_iff_undisturbed (control.trace_edges _ _) (by decide +kernel)
    (Option.some_get hsome).symm (by decide +kernel) rfl).1 (by decide +kernel)).2

end Runs

end GdoBlaq
