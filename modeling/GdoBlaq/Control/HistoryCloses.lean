import GdoBlaq.Control.History

/-!
# The history tells the closes

Two closes of a kind have the same text, and the history drops a line that repeats the one before
it.  Still none is lost: a close is made only after a warning, the start of a warning has a line of
its own, and no warning of the kind counts any more once its close is made.

## Main results

* `perform_closes` : the closes that a step notes are those that it issues.
* `started_noted` : a warning that starts is noted.
* `history_tells_closes` : the closes in the history are those that were made.
-/

namespace GdoBlaq

open Firmware

/-! ### Closes -/

/-- The close that `send_door_request` issued, and whether the driver took it. -/
def Out.closeMade : Out → Option (Caller × Bool)
  | .request caller .doorClose _ err => some (caller, err = .ok)
  | _ => none

/-- The closes that a step issues. -/
def closesMade (e : Step) : List (Caller × Bool) := e.label.2.out.filterMap Out.closeMade

section Closes

variable {s : Firmware} {w w' : World} {c : Call} {r : Reply} {e : Step} {es : List Step}
  {a : Arbiter} {kind : WarningKind} {tid : ℕ} {out : List Out}

@[simp] theorem Out.closeMade_notify (n : Notify) : (Out.notify n).closeMade = none := rfl

@[simp] theorem Out.closeMade_close (caller : Caller) (id : ℕ) (err : EspErr) :
    (Out.request caller .doorClose id err).closeMade = some (caller, decide (err = .ok)) := rfl

@[simp] theorem Activity.closeMade_dropped : Activity.closeDropped.closeMade = none := rfl

@[simp] theorem Activity.closeMade_cancelled (kind : WarningKind) :
    (Activity.close kind .cancelled).closeMade = none := rfl

@[simp] theorem Activity.closeMade_answer (kind : WarningKind) (err : EspErr) :
    (Activity.close kind (.answer err)).closeMade = some (kind.caller, decide (err = .ok)) := by
  by_cases h : err = .ok <;> simp [CloseNote.answer, Activity.closeMade, h]

theorem requested_closes (out : List Out) :
    (out.filterMap Out.closeMade).map (fun x => (x.1, DoorCommand.doorClose)) =
      (out.filterMap Out.requested).filter (fun x => x.2 = .doorClose) := by
  induction out with
  | nil => rfl
  | cons o out ih =>
    rw [List.filterMap_cons, List.filterMap_cons]
    cases o with
    | request caller cmd id err => cases cmd <;> simp [Out.closeMade, Out.requested, ih]
    | _ => simpa [Out.closeMade, Out.requested] using ih

theorem closeMade_of_silent (h : Silent out) : out.filterMap Out.closeMade = [] := by
  have hnone := requested_closes out
  rwa [requested_of_silent h, List.filter_nil, List.map_eq_nil_iff] at hnone

theorem userCloseTask_closes (generation : ℕ) (status again : Option GdoStatus) (err : EspErr) :
    (userCloseTaskActivity s generation status err).filterMap Activity.closeMade =
      (userCloseTask s generation status err again).2.filterMap Out.closeMade := by
  have hrevert : (revertTarget again).filterMap Out.closeMade = [] :=
    closeMade_of_silent (revertTarget_silent again)
  simp only [userCloseTaskActivity, userCloseTask, sendDoorRequest]
  split_ifs <;> simp [List.filterMap_cons, hrevert, WarningKind.caller]

theorem autoCloseWarningCompleteCb_closes (now : ℤ) (status : Option GdoStatus) (err : EspErr) :
    (autoCloseWarningCompleteCbActivity s status err).filterMap Activity.closeMade =
      (autoCloseWarningCompleteCb s now status err).2.filterMap Out.closeMade := by
  by_cases hvalid : autoCloseValid s status = true
  · by_cases herr : err = .ok <;>
      simp [autoCloseWarningCompleteCbActivity, autoCloseWarningCompleteCb, sendDoorRequest,
        List.filterMap_cons, WarningKind.caller, hvalid, herr]
  · simp [autoCloseWarningCompleteCbActivity, autoCloseWarningCompleteCb, hvalid]

theorem schedCloseWarningCompleteCb_closes (status : Option GdoStatus) (err : EspErr) :
    (schedCloseWarningCompleteCbActivity s status err).filterMap Activity.closeMade =
      (schedCloseWarningCompleteCb s status err).2.filterMap Out.closeMade := by
  by_cases hvalid : schedCloseValid s status = true
  · by_cases herr : err = .ok <;>
      simp [schedCloseWarningCompleteCbActivity, schedCloseWarningCompleteCb, sendDoorRequest,
        List.filterMap_cons, WarningKind.caller, hvalid, herr]
  · simp [schedCloseWarningCompleteCbActivity, schedCloseWarningCompleteCb, hvalid]

theorem Call.CanNote.closeMade {x : Activity} (h : c.CanNote x) (hc : c.completes = none) :
    x.closeMade = none := by
  cases c with
  | userCloseTask | autoCloseComplete | schedCloseComplete => simp [Call.completes] at hc
  | event | watchdogTransition =>
    cases x with
    | door | obstruction | buttonPress => rfl
    | _ => exact h.elim
  | controlOpen => obtain rfl | rfl := h <;> rfl
  | controlClose => obtain rfl | rfl | rfl := h <;> rfl
  | setPreCloseBuzzer | setAutoCloseTimeoutMs | setAutoCloseEnabled | setCloseSchedule
  | watchdogRetry | watchdogResend =>
    obtain ⟨_, rfl⟩ := h
    rfl
  | watchdogAutoClose => obtain rfl | rfl := h <;> rfl
  | watchdogSched => obtain rfl | rfl | ⟨_, rfl⟩ := h <;> rfl
  | reboot =>
    obtain rfl := h
    rfl
  | warningCycle | watchdogWarningCycle | watchdogReoffer => exact h.elim

theorem Effect.no_closes (h : Effect w c w' r) (hc : c.completes = none) :
    r.out.filterMap Out.closeMade = [] := by
  cases h with
  | idle _ _ hout | restarted _ _ _ _ hout =>
    have hnone := requested_closes r.out
    rwa [requested_of_not_isRequest hout, List.filter_nil, List.map_eq_nil_iff] at hnone
  | news _ _ _ hout => exact closeMade_of_silent hout
  | userSent | userDropped | autoCancelled | autoSent | autoRefused | schedCancelled
  | schedSent => simp [Call.completes] at hc
  | _ => rfl

/-- **The closes noted in a step are those that it issues.** -/
theorem perform_closes (h : w.perform c = some (w', r)) :
    (w.activity c).filterMap Activity.closeMade = r.out.filterMap Out.closeMade := by
  cases hc : c.completes with
  | none =>
    rw [(World.perform_effect h).no_closes hc, List.filterMap_eq_nil_iff]
    exact fun x hx => (Call.canNote_of_mem hx).closeMade hc
  | some x =>
    cases c with
    | userCloseTask tid status err again =>
      cases hover : w.warningOver tid .user with
      | none => simp [World.perform, hover] at h
      | some v =>
        simp only [World.perform, hover] at h
        obtain ⟨-, rfl⟩ := Prod.mk.inj (Option.some.inj h)
        simp only [World.activity, hover]
        exact userCloseTask_closes _ status again err
    | autoCloseComplete tid status err =>
      simp only [World.perform] at h
      split at h
      · obtain ⟨-, rfl⟩ := Prod.mk.inj (Option.some.inj h)
        exact autoCloseWarningCompleteCb_closes w.clock status err
      · cases h
    | schedCloseComplete tid status err =>
      simp only [World.perform] at h
      split at h
      · obtain ⟨-, rfl⟩ := Prod.mk.inj (Option.some.inj h)
        exact schedCloseWarningCompleteCb_closes status err
      · cases h
    | _ => simp [Call.completes] at hc

end Closes

/-! ### Warnings that start are noted -/

section Started

variable {s : Firmware} {w w' : World} {c : Call} {r : Reply} {e : Step} {kind : WarningKind}
  {tid : ℕ} {start : TaskStart}

theorem gdoControlClose_unnoted {status : Option GdoStatus}
    (h : gdoControlCloseActivity s status start = []) :
    (gdoControlClose s status start).2.2 = none := by
  unfold gdoControlCloseActivity at h
  unfold gdoControlClose
  split_ifs at h ⊢
  · rfl
  · rfl

theorem watchdogAutoClose_unnoted {now fresh : ℤ} {current : Option GdoStatus}
    (h : watchdogAutoCloseActivity s now fresh current start = []) :
    (watchdogAutoClose s now fresh current start).2 ≠ .armed := by
  unfold watchdogAutoCloseActivity at h
  unfold watchdogAutoClose
  split_ifs at h ⊢
  all_goals simp_all [startActivity]

theorem schedCloseCheck_unnoted {n : Nvs} {now : ℤ} {clock : Option Tm}
    {current : Option GdoStatus} {reserve rollback : NvsWrite}
    (h : schedCloseCheckActivity s n now clock current reserve start = []) :
    schedCloseCheck s n now clock current reserve start rollback = (s, n, false) := by
  cases hdue : schedCloseDue s now clock current with
  | none => simp [schedCloseCheck, hdue]
  | some day =>
    obtain ⟨nowMin, today, st, hclock, rfl, -⟩ := schedCloseDue_eq_some hdue
    simp only [schedCloseDue, hclock] at hdue
    simp only [schedCloseCheckActivity, hclock] at h
    split_ifs at hdue with hoff hpending hunsynced hfire hobstructed
    simp only [if_neg hoff, if_neg hpending, if_neg hunsynced, if_neg hfire,
      if_neg hobstructed] at h
    split_ifs at h
    cases h

theorem Call.CanNote.locked {a : Activity} (h : c.CanNote a) (hc : c.starts = some kind) :
    a.locked = true := by
  cases c with
  | controlClose => obtain rfl | rfl | rfl := h <;> rfl
  | watchdogAutoClose => obtain rfl | rfl := h <;> rfl
  | watchdogSched => obtain rfl | rfl | ⟨_, rfl⟩ := h <;> rfl
  | _ => cases hc

theorem activity_nil_of_locked (hc : c.starts = some kind)
    (hnil : (w.activity c).filter Activity.locked = []) : w.activity c = [] := by
  rwa [List.filter_eq_self.2 fun a ha => (Call.canNote_of_mem ha).locked hc] at hnil

theorem perform_unnoted (h : w.perform c = some (w', r))
    (hnil : (w.activity c).filter Activity.locked = []) : w'.nextTask = w.nextTask := by
  cases World.perform_effect h with
  | closeArmed =>
    have hnone := gdoControlClose_unnoted (activity_nil_of_locked rfl hnil)
    simp only [World.perform] at h
    rw [hnone] at h
    exact (congrArg (fun x => x.1.nextTask) (Option.some.inj h)).symm
  | autoArmed =>
    replace hnil := activity_nil_of_locked rfl hnil
    simp only [World.perform, World.activity] at h hnil
    split at h
    · rename_i hphase
      rw [hphase] at hnil
      simp only [watchdogAutoClose_unnoted hnil, if_false] at h
      exact (congrArg (fun x => x.1.nextTask) (Option.some.inj h)).symm
    · cases h
  | schedArmed =>
    simp only [World.perform] at h
    rw [schedCloseCheck_unnoted (activity_nil_of_locked rfl hnil)] at h
    simp only [Bool.false_eq_true, if_false] at h
    split_ifs at h
    exact (congrArg (fun x => x.1.nextTask) (Option.some.inj h)).symm
  | rebooted => cases hnil
  | _ => rfl

/-- **A warning that starts is noted**, under the lock. -/
theorem started_noted (hst : control.toLTS.step e.src e.label e.dst)
    (h : .started kind tid ∈ closeEvents e) : (stepActivity e).filter Activity.locked ≠ [] := by
  intro hnil
  have hnext : e.dst.nextTask = e.src.nextTask :=
    perform_unnoted (w := e.src.tick e.label.1.t) (World.perform_of_step hst) hnil
  unfold closeEvents at h
  split at h
  · simp at h
  · split at h
    · simp at h
    · rw [if_neg (not_not.2 hnext)] at h
      split_ifs at h <;> simp at h

end Started

/-! ### Two closes of a kind -/

namespace Arbiter

variable {a : Arbiter} {kind : WarningKind} {x : ArbiterEvent}

theorem pending_next (h : a.pending kind = none) (hx : ∀ tid, x ≠ .started kind tid) :
    (a.next x).pending kind = none := by
  cases x with
  | opened | cancelled => rfl
  | started kind' tid =>
    have hne : kind ≠ kind' := by
      rintro rfl
      exact hx tid rfl
    rw [next, start_pending, if_neg hne]
    split_ifs
    · rfl
    · exact h
  | completed kind' tid clear =>
    simp only [next]
    split_ifs
    · rw [made_pending]
      split_ifs
      · exact h
      · rfl
    · rw [drop_pending]
      split_ifs
      · rfl
      · exact h
    · exact h

theorem emits_close (h : (kind.caller, .doorClose) ∈ a.emits x) :
    ∃ tid, x = .completed kind tid true ∧ a.pending kind = some tid := by
  cases x with
  | completed kind' tid clear =>
    simp only [emits] at h
    split_ifs at h with hpend
    · obtain ⟨hpend, rfl⟩ := hpend
      have hcaller := congrArg Prod.fst (List.mem_singleton.1 h)
      obtain rfl : kind = kind' := by
        cases kind <;> cases kind' <;> first | rfl | cases hcaller
      exact ⟨tid, rfl, hpend⟩
    · cases h
  | opened =>
    have hcmd := congrArg Prod.snd (List.mem_singleton.1 h)
    cases hcmd
  | cancelled | started => cases h

theorem emits_length (a : Arbiter) (x : ArbiterEvent) : (a.emits x).length ≤ 1 := by
  cases x with
  | completed =>
    simp only [emits]
    split_ifs <;> simp
  | _ => simp [emits]

end Arbiter

theorem closeEvents_cases (e : Step) : closeEvents e = [] ∨ ∃ x, closeEvents e = [x] := by
  unfold closeEvents
  split
  · exact .inr ⟨_, rfl⟩
  · split
    · exact .inr ⟨_, rfl⟩
    · split_ifs
      · cases e.label.1.call.starts with
        | none => exact .inl rfl
        | some kind => exact .inr ⟨_, rfl⟩
      · exact .inr ⟨_, rfl⟩
      · exact .inl rfl

/-- No close line is the same as the one after it, and no close pends of a kind that the newest line
tells of. -/
structure Noted (a : Arbiter) (lines : List Activity) : Prop where
  distinct : Distinct Activity.closeMade lines
  last : ∀ x ∈ lines.getLast?, ∀ kind ok, x.closeMade = some (kind.caller, ok) →
    a.pending kind = none

section Noted

variable {a : Arbiter} {e : Step} {es : List Step} {w : World} {lines : List Activity}
  {kind : WarningKind} {ok : Bool}

theorem closeMade_of_not_locked {x : Activity} (h : x.locked = false) : x.closeMade = none := by
  cases x with
  | close kind note => cases h
  | _ => rfl

theorem closeMade_eq_some {x : Activity} {y : Caller × Bool} (h : x.closeMade = some y) :
    ∃ kind ok, y = (WarningKind.caller kind, ok) := by
  cases x with
  | close kind note =>
    cases note with
    | sent | failed => exact ⟨kind, _, (Option.some.inj h).symm⟩
    | _ => cases h
  | _ => cases h

theorem locked_closes (hst : control.toLTS.step e.src e.label e.dst) :
    ((stepActivity e).filter Activity.locked).filterMap Activity.closeMade = closesMade e :=
  (filterMap_locked (fun _ => closeMade_of_not_locked) _).trans
    (perform_closes (w := e.src.tick e.label.1.t) (World.perform_of_step hst))

theorem closesMade_length (hout : doorRequests e = arbiter.output a (closeEvents e)) :
    (closesMade e).length ≤ 1 := by
  have hlength := congrArg List.length (requested_closes e.label.2.out)
  rw [List.length_map] at hlength
  refine hlength.le.trans ((List.length_filter_le _ _).trans ?_)
  change (doorRequests e).length ≤ 1
  rw [hout]
  rcases closeEvents_cases e with hx | ⟨x, hx⟩
  · simp [hx]
  · rw [hx, arbiter.output_cons, arbiter.output_nil, List.append_nil]
    exact a.emits_length x

theorem completed_of_mem_closesMade (hout : doorRequests e = arbiter.output a (closeEvents e))
    (hmem : (kind.caller, ok) ∈ closesMade e) :
    ∃ tid, closeEvents e = [.completed kind tid true] ∧ a.pending kind = some tid := by
  have hreq := List.mem_map_of_mem (f := fun x => (x.1, DoorCommand.doorClose)) hmem
  rw [closesMade, requested_closes e.label.2.out] at hreq
  replace hreq : (kind.caller, DoorCommand.doorClose) ∈ doorRequests e :=
    (List.mem_filter.1 hreq).1
  rw [hout] at hreq
  rcases closeEvents_cases e with hx | ⟨x, hx⟩
  · simp [hx] at hreq
  · rw [hx, arbiter.output_cons, arbiter.output_nil, List.append_nil] at hreq
    obtain ⟨tid, rfl, hpend⟩ := Arbiter.emits_close hreq
    exact ⟨tid, hx, hpend⟩

/-- **One step**: its lines go on from those before it. -/
theorem Noted.step (h : Noted a lines) (hst : control.toLTS.step e.src e.label e.dst)
    (hout : doorRequests e = arbiter.output a (closeEvents e)) :
    Noted (arbiter.last a (closeEvents e)) (lines ++ (stepActivity e).filter Activity.locked) := by
  constructor
  · refine h.distinct.append (f := closeOfTexts) (fun x => x.readable.2.1) ?_ ?_
    · rw [locked_closes hst]
      exact closesMade_length hout
    · intro x hx y hy hmem
      obtain ⟨kind, ok, rfl⟩ := closeMade_eq_some hy
      rw [locked_closes hst] at hmem
      obtain ⟨tid, -, hpend⟩ := completed_of_mem_closesMade hout hmem
      rw [h.last x hx kind ok hy] at hpend
      cases hpend
  · intro x hx kind ok hclose
    cases hnew : (stepActivity e).filter Activity.locked with
    | nil =>
      -- the newest line stays, and without a line no warning starts
      rw [hnew, List.append_nil] at hx
      have hpend := h.last x hx kind ok hclose
      rcases closeEvents_cases e with hy | ⟨y, hy⟩
      · rw [hy]
        exact hpend
      · rw [hy]
        refine Arbiter.pending_next hpend ?_
        rintro tid rfl
        exact started_noted hst (by rw [hy]; exact List.mem_singleton_self _) hnew
    | cons y new =>
      -- the newest line is a close of this step, after which none of its kind pends
      rw [List.getLast?_append_of_ne_nil _ (by simp [hnew])] at hx
      have hmem := List.mem_filterMap.2 ⟨x, List.mem_of_mem_getLast? hx, hclose⟩
      rw [locked_closes hst] at hmem
      obtain ⟨tid, hy, hpend⟩ := completed_of_mem_closesMade hout hmem
      rw [hy]
      change (a.next (.completed kind tid true)).pending kind = none
      rw [Arbiter.next, if_pos hpend, if_pos rfl, Arbiter.made_pending]
      simp

end Noted

/-! ### Runs -/

section Runs

variable {w : World} {es : List Step} {calls : List (Activity × ℤ × ℤ)} {n : Nvs}
  {reads : NvsReads} {setenvOk : Bool} {t₀ : ℤ}

theorem noted_of_trace (hrun : control.toLTS.Trace (World.boot n reads setenvOk t₀) es w)
    (hcalm : ∀ e ∈ es, CalmAt e.src e.label.1) :
    Sound w ∧ ∃ a, Follows a w ∧ Noted a ((activitySince es).filter Activity.locked) := by
  refine hrun.history (I := fun es w =>
    Sound w ∧ ∃ a, Follows a w ∧ Noted a ((activitySince es).filter Activity.locked)) ?_ ?_
  · refine ⟨Sound.boot n reads setenvOk t₀ 0, .idle, ?_, .singleton _, ?_⟩
    · intro kind tid
      simp [World.Live, Live, World.boot]
    · intro x hx kind ok hclose
      rfl
  · rintro before e hbefore hst ⟨hsound, a, hfollows, hnoted⟩
    have hcalm' : CalmAt e.src e.label.1 := hcalm e (hbefore.subset (by simp))
    obtain ⟨hafter, hout⟩ := hfollows.step hsound hcalm' hst
    refine ⟨hsound.step hcalm' hst, _, hafter, ?_⟩
    cases hc : e.label.1.call.isReboot with
    | false =>
      rw [activitySince_snoc hc, List.filter_append]
      exact hnoted.step hst hout
    | true =>
      -- the history starts over
      rw [activitySince_reboot hc]
      refine ⟨.singleton _, ?_⟩
      intro x hx kind ok hclose
      obtain rfl : x = Activity.booted :=
        List.mem_singleton.1 (List.mem_filter.1 (List.mem_of_mem_getLast? hx)).1
      cases hclose

/-- **The history tells the closes.**  In every run in which no sleeping warning is a minute old or
has seen a full turn of the generation and the timeout is at least a minute, whatever the times at
which the lines are written and whatever lines the web server writes between them, the closes that
the kept lines tell of are those that the firmware has issued since the last boot, in their order
and with the driver's answers; and what is read of the history tells of the last of them. -/
theorem history_tells_closes
    (hrun : control.toLTS.Trace (World.boot n reads setenvOk t₀) es w)
    (hcalm : ∀ e ∈ es, CalmAt e.src e.label.1) (hcalls : NotedSince es calls) :
    toldBy closeOfTexts (ActivityHistory.keptEvents (notesOf calls)) =
        (sinceBoot es).flatMap closesMade ∧
      ∀ capacity,
        toldBy closeOfTexts
            (((notesOf calls).foldl ActivityHistory.activityRecord {}).activityRead capacity) <:+
          (sinceBoot es).flatMap closesMade := by
  obtain ⟨-, a, -, hnoted⟩ := noted_of_trace hrun hcalm
  have hkept : toldBy closeOfTexts (ActivityHistory.keptEvents (notesOf calls)) =
      (sinceBoot es).flatMap closesMade := by
    rw [toldBy_eq hcalls (fun a => a.readable.2.1) (fun _ => closeMade_of_not_locked)
        hnoted.distinct,
      filterMap_activitySince rfl]
    refine List.flatMap_congr fun e he => ?_
    exact perform_closes (w := e.src.tick e.label.1.t)
      (World.perform_of_step (hrun.step_of_mem (mem_of_mem_sinceBoot he)))
  refine ⟨hkept, fun capacity => ?_⟩
  rw [← hkept]
  exact toldBy_activityRead closeOfTexts _ capacity

/-- A Close of an open door that the opener does not act on, and another. -/
def closedTwiceRun : List Action :=
  let st := GdoStatus.idle .opened 0 0
  [⟨1000, .event st .doorPosition .ok⟩, ⟨2000, .controlClose (some st) {}⟩] ++
    List.replicate 10 ⟨7000, .warningCycle 0⟩ ++
    [⟨7001, .userCloseTask 0 (some st) .ok none⟩, ⟨8000, .controlClose (some st) {}⟩] ++
    List.replicate 10 ⟨13000, .warningCycle 1⟩ ++
    [⟨13001, .userCloseTask 1 (some st) .ok none⟩]

theorem history_tells_closes_twice :
    toldBy closeOfTexts (ActivityHistory.keptEvents
        (notesOf (notedAtOnce (control.edges (World.boot {} {} true 0) closedTwiceRun)))) =
      [(.userClose, true), (.userClose, true)] := by
  rw [(history_tells_closes (control.trace_edges (World.boot {} {} true 0) closedTwiceRun)
    (by decide +kernel) (by decide +kernel)).1]
  decide +kernel

end Runs

end GdoBlaq
