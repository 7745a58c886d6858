import GdoBlaq.Control.Invariant

/-!
# Pending closes are cancelled

A close that a warning task transmits was undisturbed since the step that armed the warning: every
user action, every change of the door or the obstruction and every changed setting bumps the one
generation counter, and the stamp of the warning must still match.

## Main results

* `Effect.arms` : which steps start a warning, and what they record.
* `Effect.quiet_of_generation` : a step that leaves the generation alone disturbs nothing.
* `warning_armed` : a sleeping warning was started by one step of the run and has slept since.
* `transmitted_close_undisturbed` : the cancellation safety of all three delayed closes.
* `pressed_trace` : the generation can be moved on and on by button presses.
-/

namespace GdoBlaq

open Firmware

/-- The status on which a step decides to send a close: the last that it reads before. -/
def Call.decidesOn : Call → Option GdoStatus
  | .userCloseTask _ status _ _ => status
  | .autoCloseComplete _ status _ => status
  | .schedCloseComplete _ status _ => status
  | .watchdogResend _ request _ => request
  | _ => none

/-- The code that starts warnings of a kind. -/
def WarningKind.ArmedBy : WarningKind → Call → Prop
  | .user, .controlClose _ _ => True
  | .auto, .watchdogAutoClose _ _ => True
  | .sched, .watchdogSched _ _ _ _ _ => True
  | _, _ => False

/-- The step creates warning task `tid` for a close of the given kind. -/
structure Arms (e : Step) (kind : WarningKind) (tid : ℕ) : Prop where
  call : kind.ArmedBy e.label.1.call
  fresh : e.src.tasks tid = none
  asleep : ∃ v, e.dst.tasks tid = some v ∧ v.kind = kind

/-- Nothing happens in the step that should cancel a pending close: no open, no button press, no
setting changed, no new user close, no change of `last_door` or `last_obstruction`. -/
structure Quiet (e : Step) : Prop where
  call : ¬ e.label.1.call.Cancels e.label.2.err
  close : ∀ tid, ¬ Arms e .user tid
  door : e.dst.fw.lastDoor = e.src.fw.lastDoor
  obstruction : e.dst.fw.lastObstruction = e.src.fw.lastObstruction

section Effects

variable {w w' : World} {c : Call} {r : Reply} {tid : ℕ} {v : Warning}

/-- A warning that was not there before the effect is the one it starts, and records the present. -/
theorem Effect.arms (h : Effect w c w' r) (hold : w.tasks tid ≠ some v)
    (hnew : w'.tasks tid = some v) :
    v.kind.ArmedBy c ∧ tid = w.nextTask ∧ v.startMs = w.clock ∧ w'.clock = w.clock ∧
      v.generation = w'.fw.closeGeneration ∧ v.commandId = w'.fw.doorCommandId ∧
      w'.elapsed tid = 0 := by
  cases h with
  | closeArmed | autoArmed | schedArmed =>
    rcases update_some_eq_some.1 hnew with ⟨rfl, rfl⟩ | ⟨-, hv⟩
    · exact ⟨trivial, rfl, rfl, rfl, rfl, rfl, Function.update_self ..⟩
    · exact absurd hv hold
  | userSent | userDropped | autoCancelled | autoSent | autoRefused | schedCancelled | schedSent =>
    exact absurd (update_none_eq_some.1 hnew).2 hold
  | rebooted => simp [World.boot] at hnew
  | _ => exact absurd hnew hold

/-- **A step that leaves the generation alone disturbs nothing.** -/
theorem Effect.quiet_of_generation (h : Effect w c w' r)
    (hgen : w'.fw.closeGeneration = w.fw.closeGeneration) (hc : c.isReboot = false) :
    ¬ c.Cancels r.err ∧ (∀ tid v, v.kind = .user → w'.tasks tid = some v → w.tasks tid = some v) ∧
      w'.fw.lastDoor = w.fw.lastDoor ∧ w'.fw.lastObstruction = w.fw.lastObstruction := by
  cases h with
  | idle _ hcancel => exact ⟨hcancel, fun _ _ _ hv => hv, rfl, rfl⟩
  | news _ hnews hcancel =>
    have hview : ¬ c.Cancels r.err := fun hcan => by simp [hcancel hcan] at hgen
    cases hnews with
    | view => exact ⟨hview, fun _ _ _ hv => hv, rfl, rfl⟩
    | door | obstruction | button => simp at hgen
  | set | opened | closeArmed | closeNotCreated => simp at hgen
  | setFailed _ _ hcancel => exact ⟨hcancel, fun _ _ _ hv => hv, rfl, rfl⟩
  | userSent | userDropped | autoCancelled | autoSent | autoRefused | schedCancelled | schedSent =>
    exact ⟨id, fun _ _ _ hv => (update_none_eq_some.1 hv).2, rfl, rfl⟩
  | autoArmed | schedArmed =>
    refine ⟨id, ?_, rfl, rfl⟩
    intro tid v hk hv
    rcases update_some_eq_some.1 hv with ⟨-, rfl⟩ | ⟨-, hv⟩
    · simp at hk
    · exact hv
  | autoNotStarted | restarted | schedNotReserved | schedNotStarted =>
    exact ⟨id, fun _ _ _ hv => hv, rfl, rfl⟩
  | rebooted => simp [Call.isReboot] at hc

theorem Effect.settings_of_generation (h : Effect w c w' r)
    (hgen : w'.fw.closeGeneration = w.fw.closeGeneration) (hc : c.isReboot = false) :
    w'.fw.closeSchedule = w.fw.closeSchedule ∧
      w'.fw.autoCloseTimeoutMs = w.fw.autoCloseTimeoutMs := by
  cases h with
  | news _ hnews => exact ⟨hnews.frame.schedule, hnews.frame.timeout⟩
  | set => simp at hgen
  | rebooted => simp [Call.isReboot] at hc
  | _ => exact ⟨rfl, rfl⟩

theorem Effect.generation_of_armedBy (h : Effect w c w' r) {kind : WarningKind}
    (hkind : kind ≠ .user) (hcall : kind.ArmedBy c) :
    w'.fw.closeGeneration = w.fw.closeGeneration := by
  have hnews : c.isNews = false ∧ c.isSetter = false ∧ c.isReboot = false := by
    cases kind <;> cases c <;> simp_all [WarningKind.ArmedBy, Call.isNews, Call.isSetter,
      Call.isReboot]
  cases h with
  | news hc => simp [hnews.1] at hc
  | set hc => simp [hnews.2.1] at hc
  | opened | closeArmed | closeNotCreated => cases kind <;> simp_all [WarningKind.ArmedBy]
  | rebooted => simp [Call.isReboot] at hnews
  | _ => rfl

theorem Effect.not_isRequest_of_commandId (h : Effect w c w' r)
    (hid : w'.fw.doorCommandId = w.fw.doorCommandId) : ∀ o ∈ r.out, ¬ o.IsRequest := by
  cases h with
  | idle _ _ hout | restarted _ _ _ _ hout => exact hout
  | news _ _ _ hout => exact hout.not_isRequest
  | userDropped _ hout => exact hout.not_isRequest
  | opened | userSent | autoSent | autoRefused | schedSent => simp at hid
  | _ => simp

/-- The generation that the code behind a warning compares with the current one: the task's own, or
the one in the slot of its kind. -/
def Warning.compared (w : World) (v : Warning) : ℕ :=
  match v.kind with
  | .user => v.generation
  | .auto => w.fw.autoCloseGeneration
  | .sched => w.fw.schedCloseGeneration

/-- The command id that the callback of an automatic close compares with the current one. -/
def Warning.comparedId (w : World) (v : Warning) : ℕ :=
  match v.kind with
  | .user => w.fw.doorCommandId
  | .auto => w.fw.autoCloseCommandId
  | .sched => w.fw.schedCloseCommandId

theorem Sound.compared_eq (hi : Sound w) (hv : w.tasks tid = some v) :
    v.compared w = v.generation := by
  unfold Warning.compared
  split
  · rfl
  · rename_i hk; exact (hi.auto.generation tid v hv hk).symm
  · rename_i hk; exact (hi.sched.generation tid v hv hk).symm

theorem Sound.comparedId_eq (hi : Sound w) (hv : w.tasks tid = some v) (hk : v.kind ≠ .user) :
    v.comparedId w = v.commandId := by
  unfold Warning.comparedId
  split
  · rename_i hu; exact absurd hu hk
  · rename_i hk; exact (hi.auto.commandId tid v hv hk).symm
  · rename_i hk; exact (hi.sched.commandId tid v hv hk).symm

theorem clearToClose_of_openAndClear {status : Option GdoStatus} (h : openAndClear status = true) :
    clearToClose status = true := by
  cases status with
  | none => simp [openAndClear] at h
  | some st =>
    simp only [openAndClear, clearToClose, decide_eq_true_eq] at h ⊢
    exact ⟨h.1, h.2.2⟩

/-- **What a completed warning checked before it transmitted**: the warning was over, the status
said synced and Clear, and the generation and, for an automatic close, the command id that the code
compares read the same as the current ones. -/
theorem Effect.completes_sends (h : Effect w c w' r) {kind : WarningKind}
    (hkind : c.completes = some (kind, tid)) (hsent : ∃ o ∈ r.out, o.Transmits .doorClose) :
    ∃ v, w.warningOver tid kind = some v ∧ clearToClose c.decidesOn = true ∧
      Stamp.read 32 (v.compared w) = Stamp.read 32 w.fw.closeGeneration ∧
      Stamp.read 32 (v.comparedId w) = Stamp.read 32 w.fw.doorCommandId := by
  obtain ⟨o, ho, htrans⟩ := hsent
  cases h with
  | userSent htask hgen hclear =>
    obtain ⟨rfl, rfl⟩ := Prod.mk.inj (Option.some.inj hkind)
    obtain ⟨-, hk, -, -⟩ := warningOver_eq_some htask
    exact ⟨_, htask, hclear, by simpa [Warning.compared, hk], by simp [Warning.comparedId, hk]⟩
  | userDropped _ hout => exact absurd htrans (hout o ho _)
  | autoCancelled | schedCancelled => simp at ho
  | autoSent htask hvalid | autoRefused _ htask hvalid =>
    obtain ⟨rfl, rfl⟩ := Prod.mk.inj (Option.some.inj hkind)
    obtain ⟨-, hk, -, -⟩ := warningOver_eq_some htask
    simp only [autoCloseValid, decide_eq_true_eq] at hvalid
    obtain ⟨hopen, -, -, hgen, hid⟩ := hvalid
    exact ⟨_, htask, clearToClose_of_openAndClear hopen, by simpa [Warning.compared, hk],
      by simpa [Warning.comparedId, hk]⟩
  | schedSent htask hvalid =>
    obtain ⟨rfl, rfl⟩ := Prod.mk.inj (Option.some.inj hkind)
    obtain ⟨-, hk, -, -⟩ := warningOver_eq_some htask
    simp only [schedCloseValid, decide_eq_true_eq] at hvalid
    obtain ⟨hopen, -, -, hgen, hid⟩ := hvalid
    exact ⟨_, htask, clearToClose_of_openAndClear hopen, by simpa [Warning.compared, hk],
      by simpa [Warning.comparedId, hk]⟩
  | idle hcall => simp [hcall] at hkind
  | news hcall => simp [Call.completes_of_isNews hcall] at hkind
  | set hcall | setFailed hcall => simp [Call.completes_of_isSetter hcall] at hkind
  | _ => simp [Call.completes] at hkind

theorem Effect.completes_finish (h : Effect w c w' r) {kind : WarningKind}
    (hkind : c.completes = some (kind, tid)) : w'.tasks tid = none := by
  cases h with
  | userSent | userDropped | autoCancelled | autoSent | autoRefused | schedCancelled | schedSent =>
    obtain ⟨rfl, rfl⟩ := Prod.mk.inj (Option.some.inj hkind)
    exact Function.update_self ..
  | idle hcall => simp [hcall] at hkind
  | news hcall => simp [Call.completes_of_isNews hcall] at hkind
  | set hcall | setFailed hcall => simp [Call.completes_of_isSetter hcall] at hkind
  | _ => simp [Call.completes] at hkind

theorem WarningKind.not_armedBy_of_completes {kind kind' : WarningKind}
    (h : c.completes = some (kind, tid)) : ¬ kind'.ArmedBy c := by
  cases c <;> simp only [Call.completes, reduceCtorEq] at h <;> cases kind' <;> exact id

theorem Call.not_isReboot_of_completes {kind : WarningKind} (h : c.completes = some (kind, tid)) :
    c.isReboot = false := by
  cases c <;> simp_all [Call.completes, Call.isReboot]

end Effects

section Runs

variable {w₀ w w' : World} {es : List Step} {a : Action} {r : Reply} {tid : ℕ} {v : Warning}

/-- **Where a sleeping warning comes from**: one step of the run started it, and it has slept
through all the steps since. -/
theorem warning_armed (hrun : control.toLTS.Trace w₀ es w) (h₀ : w₀.tasks tid = none)
    (hv : w.tasks tid = some v) :
    ∃ before arm mid, es = before ++ arm :: mid ∧ arm.src.tasks tid ≠ some v ∧
      arm.dst.tasks tid = some v ∧
      ∀ e ∈ mid, e.src.tasks tid = some v ∧ e.dst.tasks tid = some v :=
  hrun.exists_rise (P := fun w => w.tasks tid = some v) (by simp [h₀]) hv

theorem not_isReboot_of_asleep (h : w.step a = some (w', r)) (hv : w'.tasks tid = some v) :
    a.call.isReboot = false := by
  obtain ⟨t, c⟩ := a
  cases c with
  | reboot reads setenvOk =>
    rw [World.step_reboot] at h
    obtain ⟨rfl, -⟩ := Prod.mk.inj (Option.some.inj h)
    simp [World.boot] at hv
  | _ => rfl

theorem step_mono (h : w.step a = some (w', r)) (hc : a.call.isReboot = false) :
    w.fw.closeGeneration ≤ w'.fw.closeGeneration ∧ w.fw.doorCommandId ≤ w'.fw.doorCommandId ∧
      w.clock ≤ w'.clock := by
  obtain ⟨hclock, heff⟩ := World.step_effect h hc
  obtain ⟨hgen, hid, ht, -⟩ := heff.counters hc
  exact ⟨hgen, hid, hclock.trans ht.ge⟩

theorem arms_of_step {e : Step} (hst : e.src.step e.label.1 = some (e.dst, e.label.2))
    (hbook : Bookkeeping e.src) (hold : e.src.tasks tid ≠ some v)
    (hnew : e.dst.tasks tid = some v) :
    Arms e v.kind tid ∧ v.startMs = e.dst.clock ∧ v.generation = e.dst.fw.closeGeneration ∧
      v.commandId = e.dst.fw.doorCommandId ∧ e.dst.elapsed tid = 0 := by
  obtain ⟨-, heff⟩ := World.step_effect hst (not_isReboot_of_asleep hst hnew)
  obtain ⟨hcall, htid, hstart, hclock, hgen, hid, hel⟩ := heff.arms hold hnew
  exact ⟨⟨hcall, hbook.fresh tid htid.ge, v, hnew, rfl⟩, hstart.trans hclock.symm, hgen, hid, hel⟩

/-- **A task number is never used again**: what sleeps under it later, if anything, is what slept
under it before. -/
theorem task_kept {m : World} (hrun : control.toLTS.Trace m es w) (hlt : tid < m.nextTask) :
    tid < w.nextTask ∧ (w.tasks tid = none ∨ w.tasks tid = m.tasks tid) := by
  refine hrun.invariant (I := fun w => tid < w.nextTask ∧
    (w.tasks tid = none ∨ w.tasks tid = m.tasks tid)) ⟨hlt, .inr rfl⟩
    fun e _ hst ⟨hnext, htask⟩ => ?_
  rcases World.step_cases hst with ⟨hc, -, heff⟩ | ⟨_, _, -, -, he⟩
  · refine ⟨hnext.trans_le (heff.counters hc).2.2.2, ?_⟩
    cases hx : e.dst.tasks tid with
    | none => exact .inl rfl
    | some x =>
      by_cases hold : e.src.tasks tid = some x
      · rcases htask with htask | htask
        · simp [htask] at hold
        · exact .inr (hold.symm.trans htask)
      · have := (heff.arms hold hx).2.1
        simp only [World.tick] at this
        omega
  · rw [he]
    exact ⟨hnext, .inl rfl⟩

theorem Bookkeeping.lt_nextTask (hbook : Bookkeeping w) (hv : w.tasks tid = some v) :
    tid < w.nextTask := by
  by_contra hge
  simp [hbook.fresh tid (by omega)] at hv

theorem warning_unique {u : Warning} {m : World} (hrun : control.toLTS.Trace m es w)
    (hbook : Bookkeeping m) (hu : m.tasks tid = some u) (hv : w.tasks tid = some v) : u = v := by
  rcases (task_kept hrun (hbook.lt_nextTask hu)).2 with h | h
  · simp [h] at hv
  · exact Option.some.inj (hu.symm.trans (h.symm.trans hv))

theorem asleep_throughout {m : World} (hrun : control.toLTS.Trace m es w) (hbook : Bookkeeping m)
    (hu : m.tasks tid = some v) (hv : w.tasks tid = some v) :
    ∀ e ∈ es, e.src.tasks tid = some v ∧ e.dst.tasks tid = some v := by
  have hcut : ∀ x pre post, control.toLTS.Trace m pre x → control.toLTS.Trace x post w →
      x.tasks tid = some v := by
    intro x pre post hpre hpost
    obtain ⟨hlt, hx⟩ := task_kept hpre (hbook.lt_nextTask hu)
    rcases hx with hx | hx
    · rcases (task_kept hpost hlt).2 with hw | hw <;> simp [hw, hx] at hv
    · exact hx.trans hu
  intro e he
  obtain ⟨pre, post, rfl⟩ := List.append_of_mem he
  obtain ⟨hpre, hst, hpost⟩ := LTS.Trace.at_edge_iff.1 hrun
  exact ⟨hcut _ _ _ hpre (.cons hst hpost), hcut _ _ _ (hpre.append (.single hst)) hpost⟩

theorem generation_const_of_asleep {m : World} {mid : List Step}
    (hrun : control.toLTS.Trace m mid w)
    (hasleep : ∀ e ∈ mid, e.src.tasks tid = some v ∧ e.dst.tasks tid = some v)
    (hgen : v.generation = m.fw.closeGeneration)
    (hread : Stamp.read 32 v.generation = Stamp.read 32 w.fw.closeGeneration)
    (hwrap : w.fw.closeGeneration < v.generation + 2 ^ 32) :
    ∀ e ∈ mid, e.dst.fw.closeGeneration = e.src.fw.closeGeneration := by
  intro e he
  have hst : ∀ e ∈ mid, e.src.step e.label.1 = some (e.dst, e.label.2) :=
    fun e he => hrun.step_of_mem he
  have hconst := hrun.quiet_of_stamp (f := fun w => w.fw.closeGeneration)
    (fun e he => (step_mono (hst e he) (not_isReboot_of_asleep (hst e he) (hasleep e he).2)).1)
    (hgen ▸ hwrap) (hgen ▸ hread) he
  exact hconst.2.trans hconst.1.symm

theorem quiet_of_asleep {e : Step} (hst : e.src.step e.label.1 = some (e.dst, e.label.2))
    (hv : e.dst.tasks tid = some v)
    (hgen : e.dst.fw.closeGeneration = e.src.fw.closeGeneration) : Quiet e := by
  have hboot := not_isReboot_of_asleep hst hv
  obtain ⟨-, heff⟩ := World.step_effect hst hboot
  obtain ⟨hcall, huser, hdoor, hobst⟩ := heff.quiet_of_generation hgen hboot
  refine ⟨hcall, ?_, hdoor, hobst⟩
  intro i harm
  obtain ⟨u, hu, hk⟩ := harm.asleep
  exact absurd (huser i u hk hu) (by simp [World.tick, harm.fresh])

theorem Sound.commandId_lt (hi : Sound w) (hcalm : w.Calm) (hv : w.tasks tid = some v)
    (hk : v.kind ≠ .user) (hgen : v.generation = w.fw.closeGeneration) :
    w.fw.doorCommandId < v.commandId + 2 ^ 32 := by
  have hle := w.le_idsDue
  have hyoung := hcalm.young v (hi.book.mem_sleeping.2 ⟨tid, hv⟩)
  cases hkind : v.kind with
  | user => exact absurd hkind hk
  | auto =>
    have := hi.ids.auto tid v hv hkind
    omega
  | sched =>
    have := hi.ids.sched tid v hv hkind
    omega

/-- What a step that leaves the generation alone leaves alone as well. -/
structure Settled (e : Step) : Prop where
  quiet : Quiet e
  schedule : e.dst.fw.closeSchedule = e.src.fw.closeSchedule
  timeout : e.dst.fw.autoCloseTimeoutMs = e.src.fw.autoCloseTimeoutMs
  clock : e.src.clock ≤ e.dst.clock

theorem settled_of_asleep {e : Step} (hst : e.src.step e.label.1 = some (e.dst, e.label.2))
    (hv : e.dst.tasks tid = some v)
    (hgen : e.dst.fw.closeGeneration = e.src.fw.closeGeneration) : Settled e := by
  have hboot := not_isReboot_of_asleep hst hv
  obtain ⟨-, heff⟩ := World.step_effect hst hboot
  obtain ⟨hschedule, htimeout⟩ := heff.settings_of_generation hgen hboot
  exact ⟨quiet_of_asleep hst hv hgen, hschedule, htimeout, (step_mono hst hboot).2.2⟩

theorem settled_trace {m : World} (hrun : control.toLTS.Trace m es w)
    (hsettled : ∀ x ∈ es, Settled x) :
    w.fw.closeSchedule = m.fw.closeSchedule ∧
      w.fw.autoCloseTimeoutMs = m.fw.autoCloseTimeoutMs ∧ m.clock ≤ w.clock := by
  refine hrun.invariant (I := fun w => w.fw.closeSchedule = m.fw.closeSchedule ∧
    w.fw.autoCloseTimeoutMs = m.fw.autoCloseTimeoutMs ∧ m.clock ≤ w.clock) ⟨rfl, rfl, le_rfl⟩
    fun x hx _ ⟨hschedule, htimeout, hclock⟩ => ?_
  have h := hsettled x hx
  exact ⟨h.schedule.trans hschedule, h.timeout.trans htimeout, hclock.trans h.clock⟩

theorem Arms.settled {e : Step} {kind : WarningKind} (harm : Arms e kind tid)
    (hst : e.src.step e.label.1 = some (e.dst, e.label.2)) (hkind : kind ≠ .user) :
    Settled e ∧ e.dst.clock = e.label.1.t := by
  obtain ⟨v, hv, -⟩ := harm.asleep
  have hboot := not_isReboot_of_asleep hst hv
  obtain ⟨-, heff⟩ := World.step_effect hst hboot
  exact ⟨settled_of_asleep hst hv (heff.generation_of_armedBy hkind harm.call),
    (heff.counters hboot).2.2.1⟩

/-- While a warning sleeps and the command id reads what the warning recorded, less than a turn
later, no step issues a request. -/
theorem no_request_of_asleep {m : World} {mid : List Step} (hrun : control.toLTS.Trace m mid w)
    (hasleep : ∀ e ∈ mid, e.src.tasks tid = some v ∧ e.dst.tasks tid = some v)
    (hid : v.commandId = m.fw.doorCommandId)
    (hread : Stamp.read 32 v.commandId = Stamp.read 32 w.fw.doorCommandId)
    (hwrap : w.fw.doorCommandId < v.commandId + 2 ^ 32) :
    ∀ e ∈ mid, ∀ o ∈ e.label.2.out, ¬ o.IsRequest := by
  intro e he
  have hst : ∀ e ∈ mid, e.src.step e.label.1 = some (e.dst, e.label.2) :=
    fun e he => hrun.step_of_mem he
  have hboot : ∀ e ∈ mid, e.label.1.call.isReboot = false :=
    fun e he => not_isReboot_of_asleep (hst e he) (hasleep e he).2
  have hconst := hrun.quiet_of_stamp (f := fun w => w.fw.doorCommandId)
    (fun e he => (step_mono (hst e he) (hboot e he)).2.1) (hid ▸ hwrap) (hid ▸ hread) he
  obtain ⟨-, heff⟩ := World.step_effect (hst e he) (hboot e he)
  exact heff.not_isRequest_of_commandId (hconst.2.trans hconst.1.symm)

/-- **Cancellation safety of every pending close.**  In any run, if a completed warning makes
`user_close_task`, `auto_close_warning_complete_cb` or `sched_close_warning_complete_cb` transmit a
close, then since the very step that started this warning nothing happened that should have
cancelled it; and since an automatic close was armed no other request was issued at all. -/
theorem transmitted_close_undisturbed {n : Nvs} {reads : NvsReads} {setenvOk : Bool} {t₀ : ℤ}
    {kind : WarningKind} (hrun : control.toLTS.Trace (World.boot n reads setenvOk t₀) es w)
    (hcalm : ∀ e ∈ es, CalmAt e.src e.label.1) (hstep : control.step w a = some (w', r))
    (hcalm' : CalmAt w a) (hkind : a.call.completes = some (kind, tid))
    (hsent : ∃ o ∈ r.out, o.Transmits .doorClose) :
    ∃ before arm mid, es = before ++ arm :: mid ∧ Arms arm kind tid ∧ (∀ e ∈ mid, Quiet e) ∧
      (kind ≠ .user → ∀ e ∈ mid, ∀ o ∈ e.label.2.out, ¬ o.IsRequest) := by
  have hboot : a.call.isReboot = false := Call.not_isReboot_of_completes hkind
  have hsound : Sound w := (Sound.boot n reads setenvOk t₀ 0).trace hrun hcalm
  obtain ⟨hclock, heff⟩ := World.step_effect hstep hboot
  have hsound' : Sound (w.tick a.t) := hsound.tick hclock
  obtain ⟨v, hover, -, hread, hreadId⟩ := heff.completes_sends hkind hsent
  obtain ⟨hv, rfl, -, -⟩ := warningOver_eq_some hover
  rw [hsound'.compared_eq hv] at hread
  have hcalm' := hcalm' hboot
  obtain ⟨before, arm, mid, rfl, hold, hnew, hasleep⟩ :=
    warning_armed hrun (by simp [World.boot]) hv
  obtain ⟨hbefore, hst, hmid⟩ := LTS.Trace.at_edge_iff.1 hrun
  have hsrc : Sound arm.src :=
    (Sound.boot n reads setenvOk t₀ 0).trace hbefore fun e he => hcalm e (by simp [he])
  obtain ⟨harms, -, hgen, hid, -⟩ := arms_of_step hst hsrc.book hold hnew
  have hwrap := hcalm'.noWrap v (hsound'.book.mem_sleeping.2 ⟨tid, hv⟩)
  -- the counter reads the same at both ends, has not come round, and so never moved
  have hconst := generation_const_of_asleep hmid hasleep hgen hread hwrap
  refine ⟨before, arm, mid, rfl, harms, ?_, ?_⟩
  · intro e he
    exact quiet_of_asleep (hmid.step_of_mem he) (hasleep e he).2 (hconst e he)
  · intro hne
    have heq := Stamp.eq_of_reads_eq (hsound'.book.generation tid v hv) hwrap hread
    rw [hsound'.comparedId_eq hv hne] at hreadId
    exact no_request_of_asleep hmid hasleep hid hreadId (hsound'.commandId_lt hcalm' hv hne heq)

/-- A door left open at 1 s, with auto-close after a minute: the watchdog's tick at 62 s starts the
warning as task 0, which sleeps until 67 s. -/
def autoCloseRun : List Action :=
  let st := GdoStatus.idle .opened 0 0
  [⟨1000, .event st .doorPosition .ok⟩, ⟨1000, .event st .obstruction .ok⟩] ++
    watchdogTick 62000 st ++ List.replicate 10 ⟨67000, .warningCycle 0⟩

/-- The storage of a device with auto-close on, after a minute. -/
def autoCloseNvs : Nvs := { autoCloseMs := some 60000, autoCloseEn := some 1 }

theorem transmitted_close_undisturbed_auto :
    ∃ before arm mid,
      control.edges (World.boot autoCloseNvs {} true 0) autoCloseRun = before ++ arm :: mid ∧
        Arms arm .auto 0 ∧ (∀ e ∈ mid, Quiet e) ∧
        (WarningKind.auto ≠ .user → ∀ e ∈ mid, ∀ o ∈ e.label.2.out, ¬ o.IsRequest) := by
  have hsome : (control.step (control.last (World.boot autoCloseNvs {} true 0) autoCloseRun)
      ⟨67001, .autoCloseComplete 0 (some (.idle .opened 0 0)) .ok⟩).isSome = true := by
    decide +kernel
  exact transmitted_close_undisturbed (control.trace_edges _ _) (by decide +kernel)
    (Option.some_get hsome).symm (by decide +kernel) rfl (by decide +kernel)

/-! ### A full turn of the generation -/

/-- The generation after `n` more bumps, and nothing else. -/
def World.bumped (w : World) (n : ℕ) : World :=
  { w with fw := { w.fw with closeGeneration := w.fw.closeGeneration + n } }

/-- A report of a button press. -/
def pressed (t : ℤ) : Action :=
  ⟨t, .event { GdoStatus.idle .opened 0 0 with button := .pressed } .button .ok⟩

theorem pressed_step (hlink : identifyProtocol w.fw.link
      { GdoStatus.idle .opened 0 0 with button := .pressed } .button = w.fw.link) (n : ℕ) :
    control.step (w.bumped n) (pressed w.clock) = some (w.bumped (n + 1), {}) := by
  simp [control, World.step, World.perform, World.tick, World.bumped, pressed, gdoEventHandler,
    gdoEventSwitch, hlink, bump, Nat.add_assoc]

/-- **As many button presses as one likes**, with the states in between. -/
theorem pressed_trace (hlink : identifyProtocol w.fw.link
      { GdoStatus.idle .opened 0 0 with button := .pressed } .button = w.fw.link) (n : ℕ) :
    ∃ es, control.toLTS.Trace w es (w.bumped n) ∧
      ∀ e ∈ es, e.label.1 = pressed w.clock ∧ ∃ k, e.src = w.bumped k := by
  induction n with
  | zero => exact ⟨[], .nil w, by simp⟩
  | succ n ih =>
    obtain ⟨es, hrun, hes⟩ := ih
    refine ⟨es ++ [⟨w.bumped n, (pressed w.clock, {}), w.bumped (n + 1)⟩],
      hrun.append (.single (pressed_step hlink n)), fun e he => ?_⟩
    rcases List.mem_append.1 he with he | he
    · exact hes e he
    · obtain rfl := List.mem_singleton.1 he
      exact ⟨rfl, n, rfl⟩

end Runs

end GdoBlaq
