import GdoBlaq.Control.Setters
import GdoBlaq.Control.Warned

/-!
# One scheduled close per window

The day of a window is reserved in the storage before its warning starts, so that neither a second
tick nor a reboot arms the same window again.  What gives the day back: an edit of the time of the
schedule, which is meant to, and the loss of the record over a reboot.

## Main results

* `Effect.day_kept` : what a step can do to the reserved day, in the variables and in the storage.
* `day_given_back` : a reserved day is lost only to an edit of the time or to a reboot.
* `one_close_per_window` : between two scheduled closes of one window day the day was given back.
* `closed_twice`, `unread_record_closes_twice`, `full_turn_closes_twice` : runs in which a failed
  edit, a record that cannot be read or a full turn of the generation give it back.
-/

namespace GdoBlaq

open Firmware

/-! ### Days -/

/-- The window day that a call finds a scheduled close due for. -/
def World.due (w : World) : Call → Option ℤ
  | .watchdogSched clock current _ _ _ => schedCloseDue w.fw w.clock clock current
  | _ => none

/-- The window day of a step, if a scheduled close is due in it. -/
def dueAt (e : Step) : Option ℤ := (e.src.tick e.label.1.t).due e.label.1.call

/-- The window days of the steps, in order. -/
def daysSeen (es : List Step) : List ℤ := es.filterMap dueAt

/-- The call sets a schedule of another minute or another zone. -/
def timeEdit (w : World) : Call → Bool
  | .setCloseSchedule (some sch) _ _ _ => sch.timeChanged w.fw.closeSchedule
  | _ => false

/-- A `gdo_set_close_schedule` that changed the minute or the zone succeeded. -/
def TimeEdited (e : Step) : Prop := timeEdit e.src e.label.1.call = true ∧ e.label.2.err = .ok

/-- A `gdo_set_close_schedule` that was to change the minute or the zone failed, and left another
record in the storage. -/
def TimeEditLeft (e : Step) : Prop :=
  timeEdit e.src e.label.1.call = true ∧ e.label.2.err ≠ .ok ∧
    e.dst.nvs.schedBlob ≠ e.src.nvs.schedBlob

/-- The call is a reboot that cannot read the record. -/
def Call.cannotRead : Call → Bool
  | .reboot reads _ => reads.schedOpenFails || reads.schedBlobFails
  | _ => false

/-- A record of the day `d` is in the storage. -/
def RecordsDay (w : World) (d : ℤ) : Prop :=
  ∃ p, w.nvs.schedBlob = some p ∧ p.valid = true ∧ p.lastDay = d

/-- The step `e` makes the scheduled close whose warning `arm` started for the window day `d`. -/
def SchedClose (arm e : Step) (d : ℤ) : Prop :=
  ∃ tid, Arms arm .sched tid ∧ dueAt arm = some d ∧
    e.label.1.call.completes = some (.sched, tid) ∧ ∃ o ∈ e.label.2.out, o.Transmits .doorClose

section Effects

variable {w w' : World} {c : Call} {r : Reply} {d : ℤ}

theorem World.due_ne {day : ℤ} (h : w.due c = some day) : w.fw.closeScheduleLastDay ≠ day := by
  cases c with
  | watchdogSched clock current reserve start rollback =>
    obtain ⟨nowMin, today, -, -, -, -, -, -, -, -, -, -, -, hfire, rfl⟩ := schedCloseDue_eq_some h
    exact (closeScheduleShouldFire_iff.1 hfire).2.2.2.2.2
  | _ => simp [World.due] at h

theorem dayAfterEdit_of_kept {s : Firmware} {sch : CloseSchedule}
    (h : ¬ sch.timeChanged s.closeSchedule = true) :
    dayAfterEdit s sch = s.closeScheduleLastDay := by
  simp [dayAfterEdit, h]

theorem ScheduleEdit.day_kept {sch : CloseSchedule} {day : ℤ} {blob : Option PersistedSchedule}
    (h : ScheduleEdit w c sch day blob) :
    (day = w.fw.closeScheduleLastDay ∨ timeEdit w c = true) ∧
      (blob = w.nvs.schedBlob ∨ ∃ sch, sch.wellFormed = true ∧ blob = some (.of sch day)) := by
  cases h with
  | kept => exact ⟨.inl rfl, .inl rfl⟩
  | edited _ _ _ _ hform =>
    refine ⟨?_, .inr ⟨sch, hform, rfl⟩⟩
    by_cases htime : sch.timeChanged w.fw.closeSchedule = true
    · exact .inr htime
    · exact .inl (dayAfterEdit_of_kept htime)

theorem FailedEdit.day_kept {blob : Option PersistedSchedule} (h : FailedEdit w c blob) :
    blob = w.nvs.schedBlob ∨
      (∃ sch, sch.wellFormed = true ∧ blob = some (.of sch w.fw.closeScheduleLastDay)) ∨
      timeEdit w c = true := by
  cases h with
  | kept => exact .inl rfl
  | stored sch _ _ _ hform =>
    by_cases htime : sch.timeChanged w.fw.closeSchedule = true
    · exact .inr (.inr htime)
    · exact .inr (.inl ⟨sch, hform, by rw [dayAfterEdit_of_kept htime]⟩)

/-- **What a step does to the reserved day.**  If no scheduled close is due, only an edit of the
time changes the day, and the record either stays, or is written anew with the day in force, or was
left by an edit of the time that failed. -/
theorem Effect.day_kept (h : Effect w c w' r) (hc : c.isReboot = false) (hdue : w.due c = none) :
    (w'.fw.closeScheduleLastDay = w.fw.closeScheduleLastDay ∨ timeEdit w c = true ∧ r.err = .ok) ∧
      (w'.nvs.schedBlob = w.nvs.schedBlob ∨
        (∃ sch, sch.wellFormed = true ∧
          w'.nvs.schedBlob = some (.of sch w'.fw.closeScheduleLastDay)) ∨
        timeEdit w c = true ∧ r.err ≠ .ok) := by
  cases h with
  | news _ hnews => exact ⟨.inl hnews.frame.lastDay, .inl rfl⟩
  | set _ _ hedit =>
    obtain ⟨hday, hblob⟩ := hedit.day_kept
    exact ⟨hday.imp_right fun h => ⟨h, rfl⟩, hblob.imp_right .inl⟩
  | setFailed _ herr _ hedit =>
    exact ⟨.inl rfl, hedit.day_kept.imp_right (.imp_right fun h => ⟨h, herr⟩)⟩
  | schedNotReserved hday | schedNotStarted hday | schedArmed hday =>
    simp [World.due, hday] at hdue
  | rebooted => simp [Call.isReboot] at hc
  | _ => exact ⟨.inl rfl, .inl rfl⟩

theorem Effect.reserves (h : Effect w c w' r) {tid : ℕ} {v : Warning}
    (hcall : WarningKind.ArmedBy .sched c) (hold : w.tasks tid = none)
    (hnew : w'.tasks tid = some v) :
    ∃ d, w.due c = some d ∧ w'.fw.closeScheduleLastDay = d ∧
      w'.nvs.schedBlob = some (.of w.fw.closeSchedule d) := by
  cases h with
  | schedArmed hday => exact ⟨_, hday, rfl, rfl⟩
  | closeArmed | autoArmed | userSent | userDropped | autoCancelled | autoSent | autoRefused
  | schedCancelled | schedSent => exact hcall.elim
  | rebooted => exact hcall.elim
  | _ => simp [hold] at hnew

end Effects

/-! ### Runs -/

section Runs

variable {w₀ w w' m : World} {es : List Step} {e : Step} {d : ℤ}

/-- A step in which the day `d` stands and no other is due leaves it standing, or is an edit of the
time, or a reboot that does not find it. -/
theorem day_step (hst : control.toLTS.step e.src e.label e.dst)
    (hday : e.src.fw.closeScheduleLastDay = d) (hdue : ∀ day, dueAt e = some day → day = d) :
    e.dst.fw.closeScheduleLastDay = d ∨ TimeEdited e ∨
      e.label.1.call.isReboot = true ∧
        (e.label.1.call.cannotRead = true ∨ ¬ RecordsDay e.src d) := by
  have hnone : dueAt e = none := by
    rw [Option.eq_none_iff_forall_ne_some]
    intro day hsome
    exact World.due_ne hsome (hday.trans (hdue day hsome).symm)
  rcases World.step_cases hst with ⟨hc, -, heff⟩ | ⟨reads, setenvOk, hcall, -, hboot⟩
  · rcases (heff.day_kept hc hnone).1 with h | ⟨hedit, hok⟩
    · exact .inl (h.trans hday)
    · exact .inr (.inl ⟨hedit, hok⟩)
  · by_cases hread : (reads.schedOpenFails || reads.schedBlobFails) = true
    · exact .inr (.inr ⟨by rw [hcall]; rfl, .inl (by rw [hcall]; exact hread)⟩)
    · by_cases hrec : RecordsDay e.src d
      · obtain ⟨p, hp, hvalid, hd⟩ := hrec
        simp only [Bool.or_eq_true, not_or, Bool.not_eq_true] at hread
        have := ((boot_schedule reads setenvOk).2 p hp hvalid hread.1 hread.2).2
        exact .inl (by rw [hboot]; exact this.trans hd)
      · exact .inr (.inr ⟨by rw [hcall]; rfl, .inr hrec⟩)

theorem record_step (hst : control.toLTS.step e.src e.label e.dst)
    (hday : e.src.fw.closeScheduleLastDay = d) (hday' : e.dst.fw.closeScheduleLastDay = d)
    (hdue : ∀ day, dueAt e = some day → day = d) (hrec : RecordsDay e.src d) :
    RecordsDay e.dst d ∨ TimeEditLeft e := by
  have hnone : dueAt e = none := by
    rw [Option.eq_none_iff_forall_ne_some]
    intro day hsome
    exact World.due_ne hsome (hday.trans (hdue day hsome).symm)
  rcases World.step_cases hst with ⟨hc, -, heff⟩ | ⟨reads, setenvOk, -, -, hboot⟩
  · by_cases hsame : e.dst.nvs.schedBlob = e.src.nvs.schedBlob
    · exact .inl (by unfold RecordsDay at hrec ⊢; rwa [hsame])
    · rcases (heff.day_kept hc hnone).2 with h | ⟨sch, hform, h⟩ | ⟨hedit, herr⟩
      · exact absurd h hsame
      · exact .inl ⟨_, h, PersistedSchedule.of_valid hform, hday'⟩
      · exact .inr ⟨hedit, herr, hsame⟩
  · rw [hboot]
    exact .inl hrec

/-- Over steps in which the day `d` stands, its record stays or an edit of the time fails. -/
theorem record_trace (hrun : control.toLTS.Trace m es w)
    (hday : ∀ e ∈ es, e.src.fw.closeScheduleLastDay = d ∧ e.dst.fw.closeScheduleLastDay = d)
    (hdue : ∀ e ∈ es, ∀ day, dueAt e = some day → day = d) (hrec : RecordsDay m d) :
    RecordsDay w d ∨ ∃ e ∈ es, TimeEditLeft e := by
  by_contra hno
  obtain ⟨hlost, hnone⟩ := not_or.1 hno
  refine hlost (hrun.invariant (I := fun w => RecordsDay w d) hrec ?_)
  intro e he hst hsrc
  exact (record_step hst (hday e he).1 (hday e he).2 (hdue e he) hsrc).resolve_right
    fun hleft => hnone ⟨e, he, hleft⟩

theorem TimeEdited.cancels (h : TimeEdited e) : e.label.1.call.Cancels e.label.2.err := by
  obtain ⟨hedit, hok⟩ := h
  unfold timeEdit at hedit
  split at hedit
  · rename_i hcall
    rw [hcall]
    exact hok
  · simp at hedit

theorem not_timeEdited_of_completes {kind : WarningKind} {tid : ℕ}
    (h : e.label.1.call.completes = some (kind, tid)) : ¬ TimeEdited e := by
  intro hedit
  have hcancel := hedit.cancels
  cases hc : e.label.1.call <;> simp_all [Call.completes, Call.Cancels]

theorem SchedClose.asleep {arm : Step} {mid : List Step} (hbook : Bookkeeping arm.src)
    (hst : control.toLTS.step arm.src arm.label arm.dst)
    (hmid : control.toLTS.Trace arm.dst mid e.src)
    (hst' : control.toLTS.step e.src e.label e.dst) (hclose : SchedClose arm e d) :
    ∃ tid v, Arms arm .sched tid ∧ e.src.tasks tid = some v ∧ v.kind = .sched ∧
      e.dst.tasks tid = none ∧ v.generation = arm.dst.fw.closeGeneration ∧
      (∀ x ∈ mid, x.src.tasks tid = some v ∧ x.dst.tasks tid = some v) ∧
      e.label.1.call.completes = some (.sched, tid) ∧
      Stamp.read 32 (v.compared e.src) = Stamp.read 32 e.src.fw.closeGeneration := by
  obtain ⟨tid, harm, -, hcall, hsent⟩ := hclose
  obtain ⟨-, heff⟩ := World.step_effect hst' (Call.not_isReboot_of_completes hcall)
  obtain ⟨v, hover, -, hread, -⟩ := heff.completes_sends hcall hsent
  obtain ⟨hv, hk, -, -⟩ := warningOver_eq_some hover
  obtain ⟨u, hu, -⟩ := harm.asleep
  have hbook' := hbook.step hst
  obtain rfl := warning_unique hmid hbook' hu hv
  have hgen := (arms_of_step hst hbook (by simp [harm.fresh]) hu).2.2.1
  exact ⟨tid, u, harm, hv, hk, heff.completes_finish hcall, hgen,
    asleep_throughout hmid hbook' hu hv, hcall, hread⟩

theorem SchedClose.reserves {n : Nvs} {reads : NvsReads} {setenvOk : Bool} {t₀ : ℤ} {arm : Step}
    {before : List Step}
    (hrun : control.toLTS.Trace (World.boot n reads setenvOk t₀) before arm.src)
    (hst : control.toLTS.step arm.src arm.label arm.dst) (hclose : SchedClose arm e d) :
    arm.dst.fw.closeScheduleLastDay = d ∧ RecordsDay arm.dst d := by
  obtain ⟨tid, harm, hdue, -⟩ := hclose
  have hform : arm.src.fw.closeSchedule.wellFormed = true :=
    hrun.invariant (I := fun w => w.fw.closeSchedule.wellFormed = true)
      (boot_schedule reads setenvOk).1 fun e _ hst h => wellFormed_step hst h
  obtain ⟨v, hv, -⟩ := harm.asleep
  obtain ⟨-, heff⟩ := World.step_effect hst (not_isReboot_of_asleep hst hv)
  obtain ⟨day, hday, hlast, hblob⟩ := heff.reserves harm.call harm.fresh hv
  obtain rfl : day = d := Option.some.inj (hday.symm.trans hdue)
  exact ⟨hlast, _, hblob, PersistedSchedule.of_valid hform, rfl⟩

theorem schedClose_armed {n : Nvs} {reads : NvsReads} {setenvOk : Bool} {t₀ : ℤ}
    (hrun : control.toLTS.Trace (World.boot n reads setenvOk t₀) es e.src)
    (hst : control.toLTS.step e.src e.label e.dst) {tid : ℕ}
    (hcall : e.label.1.call.completes = some (.sched, tid))
    (hsent : ∃ o ∈ e.label.2.out, o.Transmits .doorClose) :
    ∃ before arm mid d, es = before ++ arm :: mid ∧ Arms arm .sched tid ∧ SchedClose arm e d := by
  obtain ⟨-, heff⟩ := World.step_effect hst (Call.not_isReboot_of_completes hcall)
  obtain ⟨v, hover, -⟩ := heff.completes_sends hcall hsent
  obtain ⟨hv, hk, -, -⟩ := warningOver_eq_some hover
  obtain ⟨before, arm, mid, rfl, hold, hnew, -⟩ := warning_armed hrun (by simp [World.boot]) hv
  obtain ⟨hbefore, harmst, -⟩ := LTS.Trace.at_edge_iff.1 hrun
  have hbook := (Sound.boot n reads setenvOk t₀ 0).book.trace hbefore
  have harm : Arms arm .sched tid := hk ▸ (arms_of_step harmst hbook hold hnew).1
  obtain ⟨-, harmeff⟩ := World.step_effect harmst (not_isReboot_of_asleep harmst hnew)
  obtain ⟨d, hdue, -, -⟩ := harmeff.reserves harm.call harm.fresh hnew
  exact ⟨before, arm, mid, d, rfl, harm, tid, harm, hdue, hcall, hsent⟩

/-- Since a scheduled close that is made was armed, no edit succeeded and the device did not
reboot. -/
theorem SchedClose.settled {arm : Step} {mid : List Step} (hbook : Bookkeeping arm.src)
    (hslot : SchedSlot e.src) (hst : control.toLTS.step arm.src arm.label arm.dst)
    (hmid : control.toLTS.Trace arm.dst mid e.src)
    (hst' : control.toLTS.step e.src e.label e.dst) (hclose : SchedClose arm e d)
    (hwrap : generationKept e.src e.label.1.call = true) :
    ∀ x ∈ mid, Settled x ∧ x.label.1.call.isReboot = false := by
  obtain ⟨tid, v, -, hv, hk, -, hgen, hasleep, hcall, hread⟩ := hclose.asleep hbook hst hmid hst'
  have hslotgen : v.compared e.src = v.generation := by
    simp [Warning.compared, hk, hslot.generation tid v hv hk]
  have hlt : e.src.fw.closeGeneration < v.generation + 2 ^ 32 := by
    simp only [generationKept, hcall, decide_eq_true_eq] at hwrap
    exact hwrap v hv
  have hconst := generation_const_of_asleep hmid hasleep hgen (hslotgen ▸ hread) hlt
  intro x hx
  have hxst : x.src.step x.label.1 = some (x.dst, x.label.2) := hmid.step_of_mem hx
  exact ⟨settled_of_asleep hxst (hasleep x hx).2 (hconst x hx),
    not_isReboot_of_asleep hxst (hasleep x hx).2⟩

theorem Arms.lt_nextTask {tid : ℕ} {kind : WarningKind} (harm : Arms e kind tid)
    (hst : control.toLTS.step e.src e.label e.dst) (hbook : Bookkeeping e.src) :
    tid < e.dst.nextTask := by
  obtain ⟨v, hv, -⟩ := harm.asleep
  exact (hbook.step hst).lt_nextTask hv

theorem dueAt_between {pre mid post : List Step} {a b : Step}
    (hdays : (daysSeen (pre ++ a :: (mid ++ b :: post))).Pairwise (· ≤ ·)) (ha : dueAt a = some d)
    (hb : dueAt b = some d) : ∀ x ∈ mid, ∀ day, dueAt x = some day → day = d := by
  intro x hx day hday
  rw [daysSeen, List.pairwise_filterMap, List.pairwise_append, List.pairwise_cons,
    List.pairwise_append] at hdays
  obtain ⟨-, ⟨hfirst, -, -, hlast⟩, -⟩ := hdays
  have hle : d ≤ day := hfirst x (List.mem_append_left _ hx) d ha day hday
  have hge : day ≤ d := hlast x hx b List.mem_cons_self day hday d hb
  omega

theorem SchedClose.arm_after {before mid : List Step} {arm₁ arm₂ e₁ e₂ : Step} {mid₁ : List Step}
    (hrun : control.toLTS.Trace w₀ (before ++ arm₁ :: (mid₁ ++ e₁ :: mid)) e₂.src)
    (hbook : Bookkeeping w₀) (hslot : SchedSlot w₀) (h₁ : SchedClose arm₁ e₁ d)
    (hst₂ : control.toLTS.step e₂.src e₂.label e₂.dst) (h₂ : SchedClose arm₂ e₂ d)
    (hmem : arm₂ ∈ before ++ arm₁ :: (mid₁ ++ e₁ :: mid)) : arm₂ ∈ mid := by
  obtain ⟨hbefore, hst, hrest⟩ := LTS.Trace.at_edge_iff.1 hrun
  obtain ⟨hmid₁, hst₁, -⟩ := LTS.Trace.at_edge_iff.1 hrest
  obtain ⟨tid₁, v₁, -, hv₁, hk₁, hnone, -, -, hcall₁, -⟩ :=
    h₁.asleep (hbook.trace hbefore) hst hmid₁ hst₁
  have hlist : before ++ arm₁ :: (mid₁ ++ e₁ :: mid) = (before ++ arm₁ :: mid₁) ++ e₁ :: mid := by
    simp
  rw [hlist] at hmem hrun
  rcases List.mem_append.1 hmem with hearly | hlate
  · exfalso
    obtain ⟨x, y, hxy⟩ := List.append_of_mem hearly
    rw [hxy, List.append_assoc, List.cons_append] at hrun
    obtain ⟨hx, hst', hrest'⟩ := LTS.Trace.at_edge_iff.1 hrun
    obtain ⟨hy, -, -⟩ := LTS.Trace.at_edge_iff.1 hrest'
    obtain ⟨tid₂, v₂, -, -, hk₂, -, -, hasleep, -, -⟩ :=
      h₂.asleep (hbook.trace hx) hst' hrest' hst₂
    obtain ⟨hsrc, hdst⟩ := hasleep e₁ (by simp)
    have hslot₁ : SchedSlot e₁.src := hslot.trace (hbefore.append (.cons hst hmid₁))
    obtain rfl := hslot₁.unique tid₁ tid₂ v₁ v₂ hv₁ hsrc hk₁ hk₂
    simp [hnone] at hdst
  · rcases List.mem_cons.1 hlate with rfl | hlate
    · exfalso
      obtain ⟨tid₂, harm, -⟩ := h₂
      exact WarningKind.not_armedBy_of_completes hcall₁ harm.call
    · exact hlate

theorem SchedClose.day_stays {arm : Step} {mid : List Step} (hbook : Bookkeeping arm.src)
    (hslot : SchedSlot e.src) (hst : control.toLTS.step arm.src arm.label arm.dst)
    (hmid : control.toLTS.Trace arm.dst mid e.src)
    (hst' : control.toLTS.step e.src e.label e.dst) (hclose : SchedClose arm e d)
    (hwrap : generationKept e.src e.label.1.call = true)
    (hday : arm.dst.fw.closeScheduleLastDay = d)
    (hdue : ∀ x ∈ mid ++ [e], ∀ day, dueAt x = some day → day = d) :
    ∀ x ∈ mid ++ [e], x.src.fw.closeScheduleLastDay = d ∧ x.dst.fw.closeScheduleLastDay = d := by
  have hsettled := hclose.settled hbook hslot hst hmid hst' hwrap
  obtain ⟨tid, -, -, hcall, -⟩ := hclose
  have hkept : ∀ x ∈ mid ++ [e], ¬ TimeEdited x ∧ x.label.1.call.isReboot = false := by
    intro x hx
    rcases List.mem_append.1 hx with hx | hx
    · exact ⟨fun h => (hsettled x hx).1.quiet.call h.cancels, (hsettled x hx).2⟩
    · obtain rfl := List.mem_singleton.1 hx
      exact ⟨not_timeEdited_of_completes hcall, Call.not_isReboot_of_completes hcall⟩
  intro x hx
  refine (hmid.append (.single hst')).invariant_mem (I := fun w => w.fw.closeScheduleLastDay = d)
    hday (fun y hy hyst hstands => ?_) hx
  rcases day_step hyst hstands (hdue y hy) with h | h | ⟨h, -⟩
  · exact h
  · exact absurd h (hkept y hy).1
  · simp [(hkept y hy).2] at h

/-- **How a day is given back.**  Over steps in which no other day is due, a day that stood and does
not any more was given back by a first step: an edit of the time that succeeded, or a reboot that
could not read the record of the day or found none. -/
theorem day_given_back (hrun : control.toLTS.Trace m es w)
    (hday : m.fw.closeScheduleLastDay = d) (hgone : w.fw.closeScheduleLastDay ≠ d)
    (hdue : ∀ e ∈ es, ∀ day, dueAt e = some day → day = d) :
    ∃ pre b post, es = pre ++ b :: post ∧
      (∀ e ∈ pre, e.src.fw.closeScheduleLastDay = d ∧ e.dst.fw.closeScheduleLastDay = d) ∧
      (TimeEdited b ∨ b.label.1.call.isReboot = true ∧
        (b.label.1.call.cannotRead = true ∨ ¬ RecordsDay b.src d)) := by
  obtain ⟨pre, b, post, rfl, hb, hb', hpre⟩ :=
    hrun.exists_first (P := fun w => w.fw.closeScheduleLastDay ≠ d) (not_not.2 hday) hgone
  obtain ⟨-, hbst, -⟩ := LTS.Trace.at_edge_iff.1 hrun
  refine ⟨pre, b, post, rfl, fun e he => ⟨not_not.1 (hpre e he).1, not_not.1 (hpre e he).2⟩, ?_⟩
  rcases day_step hbst (not_not.1 hb) (hdue b (by simp)) with h | h | h
  · exact absurd h hb'
  · exact .inl h
  · exact .inr h

/-- **One scheduled close per window.**  In every run in which the window days never decrease, if
two scheduled closes are made for one window day, then between the two an edit of the minute or
the zone succeeded, or the device rebooted and could not read the record of the schedule, or it
rebooted and an edit of the minute or the zone, failed since the first close was armed, had left
another record. -/
theorem one_close_per_window {n : Nvs} {reads : NvsReads} {setenvOk : Bool} {t₀ : ℤ}
    {before mid₁ mid after : List Step} {arm₁ arm₂ e₁ e₂ : Step}
    (hrun : control.toLTS.Trace (World.boot n reads setenvOk t₀)
      (before ++ arm₁ :: (mid₁ ++ e₁ :: (mid ++ e₂ :: after))) w)
    (hdays : (daysSeen (before ++ arm₁ :: (mid₁ ++ e₁ :: (mid ++ e₂ :: after)))).Pairwise (· ≤ ·))
    (hwrap : generationKept e₁.src e₁.label.1.call = true) (h₁ : SchedClose arm₁ e₁ d)
    (h₂ : SchedClose arm₂ e₂ d) (harm₂ : arm₂ ∈ before ++ arm₁ :: (mid₁ ++ e₁ :: mid)) :
    (∃ e ∈ mid, TimeEdited e) ∨ ∃ pre b post, mid = pre ++ b :: post ∧
      b.label.1.call.isReboot = true ∧
        (b.label.1.call.cannotRead = true ∨ ∃ e ∈ mid₁ ++ e₁ :: pre, TimeEditLeft e) := by
  have hbook := (Sound.boot n reads setenvOk t₀ 0).book
  have hslot := (Sound.boot n reads setenvOk t₀ 0).sched
  obtain ⟨hbefore, hst, hrest⟩ := LTS.Trace.at_edge_iff.1 hrun
  obtain ⟨hmid₁, hst₁, hrest'⟩ := LTS.Trace.at_edge_iff.1 hrest
  obtain ⟨hmid, hst₂, -⟩ := LTS.Trace.at_edge_iff.1 hrest'
  have hmem := h₁.arm_after (hbefore.append (.cons hst (hmid₁.append (.cons hst₁ hmid)))) hbook
    hslot hst₂ h₂ harm₂
  obtain ⟨p, q, rfl⟩ := List.append_of_mem hmem
  obtain ⟨hp, -, -⟩ := LTS.Trace.at_edge_iff.1 hmid
  -- between the two arming steps no other day was due
  have hdue : ∀ e ∈ mid₁ ++ [e₁] ++ p, ∀ day, dueAt e = some day → day = d := by
    obtain ⟨-, -, hdue₁, -⟩ := h₁
    obtain ⟨-, -, hdue₂, -⟩ := h₂
    have hlist : before ++ arm₁ :: (mid₁ ++ e₁ :: (p ++ arm₂ :: q ++ e₂ :: after)) =
        before ++ arm₁ :: ((mid₁ ++ [e₁] ++ p) ++ arm₂ :: (q ++ e₂ :: after)) := by
      simp only [List.append_assoc, List.cons_append, List.nil_append]
    exact dueAt_between (hlist ▸ hdays) hdue₁ hdue₂
  obtain ⟨hday₁, hrec₁⟩ := h₁.reserves hbefore hst
  have hstays := h₁.day_stays (hbook.trace hbefore)
    (hslot.trace (hbefore.append (.cons hst hmid₁))) hst hmid₁ hst₁ hwrap hday₁
    fun e he => hdue e (List.mem_append_left _ he)
  -- the second arming found it gone
  have hgone : arm₂.src.fw.closeScheduleLastDay ≠ d := by
    obtain ⟨-, -, hdue₂, -⟩ := h₂
    exact World.due_ne (w := arm₂.src.tick arm₂.label.1.t) hdue₂
  obtain ⟨pre, b, post, rfl, hpre, hback⟩ := day_given_back hp (hstays e₁ (by simp)).2 hgone
    fun e he => hdue e (List.mem_append_right _ he)
  rcases hback with hedit | ⟨hreboot, hlost⟩
  · exact .inl ⟨b, by simp, hedit⟩
  · refine .inr ⟨pre, b, post ++ arm₂ :: q, by simp, hreboot, hlost.imp_right ?_⟩
    intro hrec
    obtain ⟨hpretr, -, -⟩ := LTS.Trace.at_edge_iff.1 hp
    have hall : ∀ e ∈ mid₁ ++ [e₁] ++ pre, e.src.fw.closeScheduleLastDay = d ∧
        e.dst.fw.closeScheduleLastDay = d := fun e he =>
      (List.mem_append.1 he).elim (hstays e) (hpre e)
    have htr := (hmid₁.append (.single hst₁)).append hpretr
    have hleft := (record_trace htr hall (fun e he => hdue e (by simp at he ⊢; tauto))
      hrec₁).resolve_left hrec
    simpa using hleft

end Runs

/-! ### A day that is given back -/

/-- A nightly close, in UTC. -/
def nightly (minute : ℕ) : CloseSchedule := ⟨true, minute, charArray 64 closeScheduleDefaultTz⟩

/-- A minute of an evening in 2026. -/
def evening (hour min : ℕ) : Tm := ⟨126, 0, 1, hour, min⟩

/-- A watchdog iteration up to the scheduled close. -/
def watchdogTickUntilSched (t : ℤ) (status : GdoStatus) : List Action :=
  [⟨t, .watchdogTransition (some status) (some status)⟩, ⟨t, .watchdogRetry (some status)⟩,
    ⟨t, .watchdogAutoClose (some status) {}⟩]

/-- The driver's reports of an open door with nothing in its way. -/
def openReports (t : ℤ) : List Action :=
  [⟨t, .event (.idle .opened 0 0) .doorPosition .ok⟩,
    ⟨t, .event (.idle .opened 0 0) .obstruction .ok⟩]

/-- The watchdog's last stage and the ten beeps of a warning. -/
def warningRun (tid : ℕ) (t : ℤ) : List Action :=
  ⟨t, .watchdogReoffer⟩ :: List.replicate 10 ⟨t, .warningCycle tid⟩

/-- The edit of the nightly close from 22:59 to 23:00 fails but leaves its record, and the device
reboots; the door is reported open again and three minutes pass. -/
def failedEditAndReboot : List Action :=
  [⟨105500, .setCloseSchedule (some (nightly 1380))
      { commitErr := .fail, storedAnyway := true } true
      true⟩, ⟨106000, .reboot {} true⟩] ++ openReports 107000 ++
    watchdogTickUntilSched 287000 (.idle .opened 0 0)

theorem Arms.of_edge {w : World} {a : Action} {kind : WarningKind} {tid : ℕ}
    (hcall : kind.ArmedBy a.call) (hfresh : w.tasks tid = none)
    (hasleep : ((control.edge w a).dst.tasks tid).map Warning.kind = some kind) :
    Arms (control.edge w a) kind tid := by
  refine ⟨by simpa using hcall, by simpa using hfresh, ?_⟩
  simpa using hasleep

/-- A device with a nightly close at 22:59 and an open door, until that minute. -/
def nightStart : List Step :=
  control.edges (World.boot { schedBlob := some (.of (nightly 1379) 0) } {} true 0)
    (openReports 1000 ++ watchdogTickUntilSched 100000 (.idle .opened 0 0))

/-- The step that arms the close of 22:59. -/
def nightArm : Step :=
  control.edge (control.last (World.boot { schedBlob := some (.of (nightly 1379) 0) } {} true 0)
      (openReports 1000 ++ watchdogTickUntilSched 100000 (.idle .opened 0 0)))
    ⟨100000, .watchdogSched (some (evening 22 59)) (some (.idle .opened 0 0)) {} {} {}⟩

/-- The step that makes it. -/
def nightClose : Step :=
  control.edge (control.last nightArm.dst (warningRun 0 105000))
    ⟨105001, .schedCloseComplete 0 (some (.idle .opened 0 0)) .ok⟩

/-- The step that arms another close at 23:02, after the given actions. -/
def lateArm (w : World) (actions : List Action) : Step :=
  control.edge (control.last w actions)
    ⟨287000, .watchdogSched (some (evening 23 2)) (some (.idle .opened 0 0)) {} {} {}⟩

/-- The step that makes it. -/
def lateClose (w : World) (actions : List Action) : Step :=
  control.edge (control.last (lateArm w actions).dst (warningRun 1 292000))
    ⟨292001, .schedCloseComplete 1 (some (.idle .opened 0 0)) .ok⟩

/-- What happens before it is made. -/
def beforeLateClose (w : World) (actions : List Action) : List Step :=
  control.edges w actions ++
    lateArm w actions :: control.edges (lateArm w actions).dst (warningRun 1 292000)

theorem late_trace (w : World) (actions : List Action)
    (harm : (control.step (control.last w actions)
      ⟨287000, .watchdogSched (some (evening 23 2))
        (some (.idle .opened 0 0)) {} {} {}⟩).isSome = true)
    (hclose : (control.step (control.last (lateArm w actions).dst (warningRun 1 292000))
      ⟨292001, .schedCloseComplete 1 (some (.idle .opened 0 0)) .ok⟩).isSome = true) :
    control.toLTS.Trace w (beforeLateClose w actions ++ [lateClose w actions])
      (lateClose w actions).dst := by
  have hlate := control.trace_snoc
    (control.trace_edges (lateArm w actions).dst (warningRun 1 292000)) _ hclose
  have hrun := (control.trace_edges w actions).append (control.trace_cons harm hlate)
  rw [beforeLateClose, List.append_assoc, List.cons_append]
  exact hrun

theorem late_schedClose (w : World) (actions : List Action)
    (hfresh : (control.last w actions).tasks 1 = none)
    (hasleep : ((lateArm w actions).dst.tasks 1).map Warning.kind = some .sched)
    (hdue : dueAt (lateArm w actions) = some 20454)
    (hsent : ∃ o ∈ (lateClose w actions).label.2.out, o.Transmits .doorClose) :
    SchedClose (lateArm w actions) (lateClose w actions) 20454 :=
  ⟨1, .of_edge trivial hfresh hasleep, hdue, by rw [lateClose, control.edge_action]; rfl, hsent⟩

theorem night_schedClose : SchedClose nightArm nightClose 20454 :=
  ⟨0, .of_edge trivial (by decide +kernel) (by decide +kernel), by decide +kernel,
    by decide +kernel, by decide +kernel⟩

theorem night_trace {es : List Step} {w : World} (hrun : control.toLTS.Trace nightClose.dst es w) :
    control.toLTS.Trace (World.boot { schedBlob := some (.of (nightly 1379) 0) } {} true 0)
      (nightStart ++ nightArm :: (control.edges nightArm.dst (warningRun 0 105000) ++
        nightClose :: es)) w := by
  have hnight := (control.trace_edges nightArm.dst (warningRun 0 105000)).append
    (control.trace_cons (by decide +kernel) hrun)
  exact (control.trace_edges _ _).append (control.trace_cons (by decide +kernel) hnight)

theorem failed_edit_trace :
    control.toLTS.Trace (World.boot { schedBlob := some (.of (nightly 1379) 0) } {} true 0)
      (nightStart ++ nightArm :: (control.edges nightArm.dst (warningRun 0 105000) ++
        nightClose :: (beforeLateClose nightClose.dst failedEditAndReboot ++
          [lateClose nightClose.dst failedEditAndReboot])))
      (lateClose nightClose.dst failedEditAndReboot).dst :=
  night_trace (late_trace _ _ (by decide +kernel) (by decide +kernel))

theorem failed_edit_schedClose :
    SchedClose (lateArm nightClose.dst failedEditAndReboot)
      (lateClose nightClose.dst failedEditAndReboot) 20454 :=
  late_schedClose _ _ (by decide +kernel) (by decide +kernel) (by decide +kernel)
    (by decide +kernel)

/-- **A window that closes twice**, with no successful edit between the two: the record that a
failed edit left was loaded by the reboot. -/
theorem closed_twice :
    ¬ ∀ (n : Nvs) (before mid₁ mid after : List Step) (arm₁ arm₂ e₁ e₂ : Step) (w : World) (d : ℤ),
      control.toLTS.Trace (World.boot n {} true 0)
        (before ++ arm₁ :: (mid₁ ++ e₁ :: (mid ++ e₂ :: after))) w →
      (daysSeen (before ++ arm₁ :: (mid₁ ++ e₁ :: (mid ++ e₂ :: after)))).Pairwise (· ≤ ·) →
      SchedClose arm₁ e₁ d → SchedClose arm₂ e₂ d →
      arm₂ ∈ before ++ arm₁ :: (mid₁ ++ e₁ :: mid) → ∃ e ∈ mid, TimeEdited e := by
  intro hclaim
  obtain ⟨e, he, hedit⟩ := hclaim _ _ _ _ _ _ _ _ _ _ _ failed_edit_trace (by decide +kernel)
    night_schedClose failed_edit_schedClose (by simp [beforeLateClose])
  have hnone : ∀ e ∈ beforeLateClose nightClose.dst failedEditAndReboot,
      ¬ (timeEdit e.src e.label.1.call = true ∧ e.label.2.err = .ok) := by
    decide +kernel
  exact hnone e he hedit

theorem one_close_per_window_night :
    (∃ e ∈ beforeLateClose nightClose.dst failedEditAndReboot, TimeEdited e) ∨
      ∃ pre b post, beforeLateClose nightClose.dst failedEditAndReboot = pre ++ b :: post ∧
        b.label.1.call.isReboot = true ∧ (b.label.1.call.cannotRead = true ∨
          ∃ e ∈ control.edges nightArm.dst (warningRun 0 105000) ++ nightClose :: pre,
            TimeEditLeft e) :=
  one_close_per_window failed_edit_trace (by decide +kernel) (by decide +kernel)
    night_schedClose failed_edit_schedClose (by simp [beforeLateClose])

/-- The device reboots and cannot read its record, and the schedule, by default one for 23:00 and
off, is turned on. -/
def rebootUnread : List Action :=
  [⟨105500, .reboot { schedBlobFails := true } true⟩,
      ⟨106000, .setCloseSchedule (some (nightly 1380)) {} true true⟩] ++
    openReports 107000 ++ watchdogTickUntilSched 287000 (.idle .opened 0 0)

/-- **A record that cannot be read gives the day back**: the window closes twice although no call
was to change the minute or the zone. -/
theorem unread_record_closes_twice :
    ∃ (n : Nvs) (before mid₁ mid : List Step) (arm₁ arm₂ e₁ e₂ : Step) (w : World) (d : ℤ),
      control.toLTS.Trace (World.boot n {} true 0)
        (before ++ arm₁ :: (mid₁ ++ e₁ :: (mid ++ [e₂]))) w ∧
      (daysSeen (before ++ arm₁ :: (mid₁ ++ e₁ :: (mid ++ [e₂])))).Pairwise (· ≤ ·) ∧
      generationKept e₁.src e₁.label.1.call = true ∧ SchedClose arm₁ e₁ d ∧ SchedClose arm₂ e₂ d ∧
      arm₂ ∈ mid ∧ ∀ e ∈ mid₁ ++ e₁ :: mid, timeEdit e.src e.label.1.call = false :=
  ⟨_, _, _, _, _, _, _, _, _, _,
    night_trace (late_trace nightClose.dst rebootUnread (by decide +kernel) (by decide +kernel)),
    by decide +kernel, by decide +kernel, night_schedClose,
    late_schedClose _ _ (by decide +kernel) (by decide +kernel) (by decide +kernel)
    (by decide +kernel),
    by simp [beforeLateClose], by decide +kernel⟩

/-- The warning of 22:59, during which the close is moved to 23:00. -/
def editedWarning : List Action :=
  warningRun 0 105000 ++ [⟨105000, .setCloseSchedule (some (nightly 1380)) {} true true⟩]

/-- The step that makes the close of 22:59 after almost a full turn of the generation. -/
def turnedClose : Step :=
  control.edge ((control.last nightArm.dst editedWarning).bumped (2 ^ 32 - 1))
    ⟨105001, .schedCloseComplete 0 (some (.idle .opened 0 0)) .ok⟩

/-- **A full turn gives the day back**: the edit comes before the first of the two closes. -/
theorem full_turn_closes_twice :
    ∃ (n : Nvs) (before mid₁ mid : List Step) (arm₁ arm₂ e₁ e₂ : Step) (w : World) (d : ℤ),
      control.toLTS.Trace (World.boot n {} true 0)
        (before ++ arm₁ :: (mid₁ ++ e₁ :: (mid ++ [e₂]))) w ∧
      (daysSeen (before ++ arm₁ :: (mid₁ ++ e₁ :: (mid ++ [e₂])))).Pairwise (· ≤ ·) ∧
      SchedClose arm₁ e₁ d ∧ SchedClose arm₂ e₂ d ∧ arm₂ ∈ mid ∧
      ∀ e ∈ mid, timeEdit e.src e.label.1.call = false ∧ e.label.1.call.isReboot = false := by
  obtain ⟨es, hpressed, hes⟩ :=
    pressed_trace (w := control.last nightArm.dst editedWarning) (by decide +kernel) (2 ^ 32 - 1)
  have hlate := late_trace turnedClose.dst (watchdogTickUntilSched 287000 (.idle .opened 0 0))
    (by decide +kernel) (by decide +kernel)
  have hwarning := ((control.trace_edges nightArm.dst editedWarning).append hpressed).append
    (control.trace_cons (by decide +kernel) hlate)
  have hrun := (control.trace_edges _ _).append (control.trace_cons (by decide +kernel) hwarning)
  -- no press finds a close due
  have hnone : daysSeen es = [] := by
    refine List.filterMap_eq_nil_iff.2 ?_
    intro e he
    rw [dueAt, (hes e he).1]
    rfl
  refine ⟨_, nightStart, _, _, nightArm, _, turnedClose, _, _, 20454, hrun, ?_,
    ⟨0, .of_edge trivial (by decide +kernel) (by decide +kernel), by decide +kernel,
      by decide +kernel, by decide +kernel⟩,
    late_schedClose _ _ (by decide +kernel) (by decide +kernel) (by decide +kernel)
    (by decide +kernel),
    by simp [beforeLateClose], by decide +kernel⟩
  simp only [daysSeen] at hnone ⊢
  simp only [List.filterMap_append, List.filterMap_cons, hnone, List.append_nil]
  decide +kernel

end GdoBlaq
