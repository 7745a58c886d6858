import GdoBlaq.Control.Invariant

/-!
# All or nothing

What the four setters do to the active settings, and in which zone the wall clock runs.  The
schedule setter applies its timezone before it knows whether the storage works and has to undo it;
the boot applies the zone that it loaded and does not look at the answer.

## Main results

* `Effect.keeps_settings` : no step but a setter and a reboot touches the active settings.
* `gdoSetCloseSchedule_restores` : a failed edit of the schedule leaves no trace in the variables.
* `setters_all_or_nothing_iff` : the setters are all or nothing and the clock runs in the zone of
  the schedule throughout, if and only if `setenv` succeeded at every boot.
-/

namespace GdoBlaq

open Firmware

/-- The settings in force, with the zone that the process runs in. -/
structure ActiveSettings where
  autoCloseTimeoutMs : ℕ
  autoCloseEnabled : Bool
  buzzerEnabled : Bool
  closeSchedule : CloseSchedule
  timezone : CStr
  deriving DecidableEq

/-- The settings of the firmware that are in force. -/
def Firmware.activeSettings (s : Firmware) : ActiveSettings :=
  ⟨s.autoCloseTimeoutMs, s.autoCloseEnabled, s.buzzerEnabled, s.closeSchedule, s.timezone⟩

/-- The zone that `clock_sync_local_now` uses is the zone of the schedule, by its name: without a
`TZ` the clock runs in UTC, which is the hour of the default zone `UTC0` all the same. -/
def Firmware.InZone (s : Firmware) : Prop := s.timezone = cstr s.closeSchedule.tz

instance (s : Firmware) : Decidable s.InZone :=
  inferInstanceAs (Decidable (s.timezone = cstr s.closeSchedule.tz))

/-- `s'` is `s` with the new setting of a call and one more generation; an edit of the minute or
the zone also takes the last day back to 0. -/
def Call.Publishes (s s' : Firmware) : Call → Prop
  | .setPreCloseBuzzer enabled _ => s' = { s.bump with buzzerEnabled := enabled }
  | .setAutoCloseTimeoutMs timeoutMs _ => s' = { s.bump with autoCloseTimeoutMs := timeoutMs }
  | .setAutoCloseEnabled enabled _ => s' = { s.bump with autoCloseEnabled := enabled }
  | .setCloseSchedule (some new) _ _ _ =>
    s' = { s.bump with
      timezone := cstr new.tz, closeSchedule := new
      closeScheduleLastDay :=
        if new.minute ≠ s.closeSchedule.minute ∨ cstr new.tz ≠ cstr s.closeSchedule.tz then 0
        else s.closeScheduleLastDay }
  | _ => False

/-- A step that is a setter leaves every variable alone if it answers with an error, and publishes
its setting if it answers `ESP_OK`. -/
def AllOrNothing (e : Step) : Prop :=
  e.label.1.call.isSetter = true →
    (e.label.2.err ≠ .ok → e.dst.fw = e.src.fw) ∧
      (e.label.2.err = .ok → e.label.1.call.Publishes e.src.fw e.dst.fw)

/-- `setenv` of the zone that was in force before an edit, and so has been applied before, does not
fail when the edit goes back to it. -/
def SetenvAgain (e : Step) : Prop :=
  ∀ schedule write applied restored,
    e.label.1.call = .setCloseSchedule schedule write applied restored →
      e.src.fw.InZone → restored = true

/-- If the step is a boot, `setenv` succeeded in it. -/
def SetenvAtBoot (e : Step) : Prop :=
  ∀ reads setenvOk, e.label.1.call = .reboot reads setenvOk → setenvOk = true

/-! ### The settings between the calls -/

section Effects

variable {w w' : World} {c : Call} {r : Reply}

/-- Only the setters and a reboot touch the settings. -/
theorem Effect.keeps_settings (h : Effect w c w' r) (hset : c.isSetter = false)
    (hc : c.isReboot = false) : w'.fw.activeSettings = w.fw.activeSettings := by
  cases h with
  | news _ hnews => cases hnews <;> rfl
  | set hcall | setFailed hcall => simp [hcall] at hset
  | rebooted => simp [Call.isReboot] at hc
  | _ => rfl

theorem ScheduleEdit.wellFormed {sch : CloseSchedule} {day : ℤ} {blob : Option PersistedSchedule}
    (h : ScheduleEdit w c sch day blob) (hform : w.fw.closeSchedule.wellFormed = true) :
    sch.wellFormed = true := by
  cases h with
  | kept => exact hform
  | edited _ _ _ _ hnew => exact hnew

theorem wellFormed_step {e : Step} (hst : control.toLTS.step e.src e.label e.dst)
    (h : e.src.fw.closeSchedule.wellFormed = true) : e.dst.fw.closeSchedule.wellFormed = true := by
  rcases World.step_cases hst with ⟨hc, -, heff⟩ | ⟨reads, setenvOk, -, -, hboot⟩
  · generalize e.label.1.call = c, e.dst = w', e.label.2 = r at heff hc
    cases heff with
    | news _ hnews => rw [hnews.frame.schedule]; exact h
    | set _ _ hedit => exact hedit.wellFormed h
    | rebooted => simp [Call.isReboot] at hc
    | _ => exact h
  · rw [hboot]
    exact (boot_schedule reads setenvOk).1

end Effects

/-! ### The setters -/

section Setters

variable {s : Firmware} {n : Nvs} {w : NvsWrite}

theorem saveSetting_allOrNothing (stored : Nvs) (publish : Firmware → Firmware) :
    ((saveSetting s n w stored publish).2.2 ≠ .ok → (saveSetting s n w stored publish).1 = s) ∧
      ((saveSetting s n w stored publish).2.2 = .ok →
        (saveSetting s n w stored publish).1 = publish s.bump) := by
  rcases saveSetting_cases (s := s) (n := n) (w := w) stored publish with
    ⟨n', -, herr, he⟩ | ⟨-, he⟩
  · rw [he]
    exact ⟨fun _ => rfl, fun h => absurd h herr⟩
  · rw [he]
    exact ⟨fun h => absurd rfl h, fun _ => rfl⟩

theorem PersistedSchedule.of_valid {sch : CloseSchedule} {day : ℤ} (h : sch.wellFormed = true) :
    (PersistedSchedule.of sch day).valid = true := by
  simp [PersistedSchedule.of, PersistedSchedule.valid, h]

theorem CloseSchedule.tzValid_of_wellFormed {c : CloseSchedule} (h : c.wellFormed = true) :
    closeScheduleTzValid (cstr c.tz) = true := by
  simp only [CloseSchedule.wellFormed, decide_eq_true_eq] at h
  exact h.2.2

theorem clockSyncApplyTimezone_of_valid {posixTz : CStr} (h : closeScheduleTzValid posixTz = true)
    (setenvOk : Bool) :
    clockSyncApplyTimezone s posixTz setenvOk =
      if setenvOk then ({ s with timezone := posixTz }, .ok) else (s, .fail) := by
  cases setenvOk <;> simp [clockSyncApplyTimezone, h]

/-- **An edit that fails leaves no trace.**  If the clock ran in the zone of the schedule and this
zone can be applied again, every variable is as it was. -/
theorem gdoSetCloseSchedule_restores {schedule : Option CloseSchedule} {applied restored : Bool}
    (hform : s.closeSchedule.wellFormed = true) (hzone : s.InZone) (hrestored : restored = true)
    (herr : (gdoSetCloseSchedule s n schedule w applied restored).2.2 ≠ .ok) :
    (gdoSetCloseSchedule s n schedule w applied restored).1 = s := by
  have hback : { s with timezone := cstr s.closeSchedule.tz } = s := by rw [← hzone]
  cases schedule with
  | none => rfl
  | some c =>
    by_cases hc : c.wellFormed = true
    · have hnew : clockSyncApplyTimezone s (cstr c.tz) applied =
          if applied then ({ s with timezone := cstr c.tz }, .ok) else (s, .fail) :=
        clockSyncApplyTimezone_of_valid (CloseSchedule.tzValid_of_wellFormed hc) applied
      simp only [gdoSetCloseSchedule, hc, Bool.not_true, Bool.false_eq_true, ite_false, hnew]
        at herr ⊢
      cases applied with
      | false => simp
      | true =>
        by_cases hw : w.err = .ok
        · simp [hw, closeScheduleSave] at herr
        · simp [hw, closeScheduleSave, hrestored, hback,
            clockSyncApplyTimezone_of_valid (CloseSchedule.tzValid_of_wellFormed hform)]
    · simp [gdoSetCloseSchedule, hc]

theorem gdoSetCloseSchedule_publishes {schedule : Option CloseSchedule} {applied restored : Bool}
    (hok : (gdoSetCloseSchedule s n schedule w applied restored).2.2 = .ok) :
    (Call.setCloseSchedule schedule w applied restored).Publishes s
      (gdoSetCloseSchedule s n schedule w applied restored).1 := by
  rcases gdoSetCloseSchedule_cases (s := s) (n := n) (w := w) schedule applied restored with
    ⟨_, _, _, herr, -, he⟩ | ⟨c, rfl, -, he⟩
  · rw [he] at hok
    exact absurd hok herr
  · rw [he]
    show _ = _
    simp only [dayAfterEdit, CloseSchedule.timeChanged, decide_eq_true_eq]

theorem loaded_timezone (r : NvsReads) :
    (closeScheduleRead (autoCloseSettingsLoad {} n r) n r).timezone = [] := by
  obtain ⟨sch, day, hread⟩ := closeScheduleRead_eq (s := autoCloseSettingsLoad {} n r) (n := n) r
  rw [hread]
  show (autoCloseSettingsLoad {} n r).timezone = []
  unfold autoCloseSettingsLoad
  split_ifs <;> rfl

/-- After a boot the clock runs in the zone of the schedule exactly if `setenv` succeeded. -/
theorem boot_inZone_iff (r : NvsReads) (setenvOk : Bool) :
    (boot n r setenvOk).InZone ↔ setenvOk = true := by
  have hvalid : closeScheduleTzValid (cstr (boot n r setenvOk).closeSchedule.tz) = true :=
    CloseSchedule.tzValid_of_wellFormed (boot_schedule r setenvOk).1
  have hne : [] ≠ cstr (boot n r setenvOk).closeSchedule.tz := by
    intro h
    rw [← h] at hvalid
    simp [closeScheduleTzValid] at hvalid
  have hsch : (boot n r setenvOk).closeSchedule =
      (closeScheduleRead (autoCloseSettingsLoad {} n r) n r).closeSchedule := by
    obtain ⟨tz, hboot⟩ := boot_loaded (n := n) r setenvOk
    rw [hboot]
  rw [hsch] at hvalid hne
  rw [InZone, hsch, boot, closeScheduleSettingsLoad, clockSyncApplyTimezone_of_valid hvalid]
  cases setenvOk with
  | false => simpa [loaded_timezone] using hne
  | true => simp

end Setters

/-! ### Runs -/

section Runs

variable {e : Step}

theorem Call.Publishes.inZone {s s' : Firmware} {c : Call} (h : c.Publishes s s')
    (hzone : s.InZone) : s'.InZone := by
  cases c with
  | setPreCloseBuzzer | setAutoCloseTimeoutMs | setAutoCloseEnabled => obtain rfl := h; exact hzone
  | setCloseSchedule schedule =>
    cases schedule with
    | none => exact h.elim
    | some new => obtain rfl := h; rfl
  | _ => exact h.elim

/-- **A setter is all or nothing** if the clock ran in the zone of the schedule before it. -/
theorem allOrNothing_step (hst : control.toLTS.step e.src e.label e.dst)
    (hform : e.src.fw.closeSchedule.wellFormed = true) (hzone : e.src.fw.InZone)
    (hagain : SetenvAgain e) : AllOrNothing e := by
  intro hset
  cases hcall : e.label.1.call with
  | setPreCloseBuzzer | setAutoCloseEnabled =>
    obtain ⟨hdst, hr⟩ := World.eq_of_step hst hcall rfl
    rw [hdst, hr]
    exact saveSetting_allOrNothing _ _
  | setAutoCloseTimeoutMs timeoutMs write =>
    obtain ⟨hdst, hr⟩ := World.eq_of_step hst hcall rfl
    rw [hdst, hr]
    simp only [gdoSetAutoCloseTimeoutMs]
    split_ifs
    · exact ⟨fun _ => rfl, fun h => by cases h⟩
    · exact saveSetting_allOrNothing _ _
  | setCloseSchedule schedule write applied restored =>
    obtain ⟨hdst, hr⟩ := World.eq_of_step hst hcall rfl
    rw [hdst, hr]
    have hrestored := hagain _ _ _ _ hcall hzone
    exact ⟨gdoSetCloseSchedule_restores hform hzone hrestored, gdoSetCloseSchedule_publishes⟩
  | _ => simp [hcall, Call.isSetter] at hset

/-- From a state in which the clock runs in the zone of the schedule, every step but a boot whose
`setenv` fails leads to another. -/
theorem inZone_step_iff (hst : control.toLTS.step e.src e.label e.dst)
    (hform : e.src.fw.closeSchedule.wellFormed = true) (hzone : e.src.fw.InZone)
    (hagain : SetenvAgain e) : e.dst.fw.InZone ↔ SetenvAtBoot e := by
  by_cases hset : e.label.1.call.isSetter = true
  · have hboot : SetenvAtBoot e := fun reads setenvOk hcall => by
      simp [hcall, Call.isSetter] at hset
    refine iff_of_true ?_ hboot
    obtain ⟨hfail, hok⟩ := allOrNothing_step hst hform hzone hagain hset
    by_cases herr : e.label.2.err = .ok
    · exact (hok herr).inZone hzone
    · rw [hfail herr]
      exact hzone
  · rcases World.step_cases hst with ⟨hc, -, heff⟩ | ⟨reads, setenvOk, hcall, -, hboot⟩
    · have hkept := heff.keeps_settings (by simpa using hset) hc
      have hnone : SetenvAtBoot e := fun reads setenvOk hcall => by
        simp [hcall, Call.isReboot] at hc
      refine iff_of_true ?_ hnone
      rw [InZone, show e.dst.fw.timezone = e.src.fw.timezone from congrArg (·.timezone) hkept,
        show e.dst.fw.closeSchedule = e.src.fw.closeSchedule from congrArg (·.closeSchedule) hkept]
      exact hzone
    · rw [hboot]
      refine (boot_inZone_iff reads setenvOk).trans ⟨?_, fun h => h reads setenvOk hcall⟩
      rintro rfl reads' setenvOk' hcall'
      rw [hcall] at hcall'
      cases hcall'
      rfl

/-- **All or nothing, and in the zone of the schedule.**  In a run in which `setenv` does not fail
for a zone that an edit goes back to, every setter is all or nothing and the clock runs in the zone
of the schedule in every state, if and only if `setenv` succeeded at every boot. -/
theorem setters_all_or_nothing_iff {n : Nvs} {reads : NvsReads} {setenvOk : Bool} {t₀ : ℤ}
    {es : List Step} {w : World}
    (hrun : control.toLTS.Trace (World.boot n reads setenvOk t₀) es w)
    (hagain : ∀ e ∈ es, SetenvAgain e) :
    ((World.boot n reads setenvOk t₀).fw.InZone ∧ ∀ e ∈ es, AllOrNothing e ∧ e.dst.fw.InZone) ↔
      setenvOk = true ∧ ∀ e ∈ es, SetenvAtBoot e := by
  have hboot : (World.boot n reads setenvOk t₀).fw.InZone ↔ setenvOk = true :=
    boot_inZone_iff reads setenvOk
  have hform : ∀ e ∈ es, e.src.fw.closeSchedule.wellFormed = true := fun e he =>
    (hrun.invariant_mem (I := fun w => w.fw.closeSchedule.wellFormed = true)
      (boot_schedule reads setenvOk).1 (fun e _ hst => wellFormed_step hst) he).1
  rw [hboot]
  refine and_congr_right ?_
  intro hok
  have hzone : (∀ e ∈ es, e.dst.fw.InZone) ↔ ∀ e ∈ es, SetenvAtBoot e :=
    hrun.forall_dst_iff (I := fun w => w.fw.InZone) (hboot.2 hok) fun e he hst hsrc =>
      inZone_step_iff hst (hform e he) hsrc (hagain e he)
  constructor
  · intro h
    exact hzone.1 fun e he => (h e he).2
  · intro h e he
    obtain ⟨hst, hsrc⟩ : control.toLTS.step e.src e.label e.dst ∧ e.src.fw.InZone := by
      refine ⟨hrun.step_of_mem he, (hrun.invariant_mem (I := fun w => w.fw.InZone) (hboot.2 hok)
        (fun a ha hst hsrc => ?_) he).1⟩
      exact (inZone_step_iff hst (hform a ha) hsrc (hagain a ha)).2 (h a ha)
    exact ⟨allOrNothing_step hst (hform e he) hsrc (hagain e he), hzone.2 h e he⟩

/-- A schedule for 2:10 on the east coast. -/
def eastern : CloseSchedule := ⟨true, 130, charArray 64 (lit "EST5EDT,M3.2.0,M11.1.0")⟩

/-- An edit whose commit fails, the same edit again, the buzzer off, and a reboot. -/
def editAgain : List Action :=
  [⟨1, .setCloseSchedule (some eastern) { commitErr := .fail } true true⟩,
    ⟨2, .setCloseSchedule (some eastern) {} true true⟩, ⟨3, .setPreCloseBuzzer false {}⟩,
    ⟨4, .reboot {} true⟩]

theorem setters_all_or_nothing_eastern :
    (World.boot {} {} true 0).fw.InZone ∧
      ∀ e ∈ control.edges (World.boot {} {} true 0) editAgain,
        AllOrNothing e ∧ e.dst.fw.InZone := by
  refine (setters_all_or_nothing_iff (control.trace_edges _ editAgain) ?_).2 ⟨rfl, ?_⟩
  · intro e he schedule write applied restored hcall _
    have hmem := control.action_mem he
    simp only [editAgain, List.mem_cons, List.not_mem_nil, or_false] at hmem
    rcases hmem with h | h | h | h <;> simp_all
  · intro e he reads setenvOk hcall
    have hmem := control.action_mem he
    simp only [editAgain, List.mem_cons, List.not_mem_nil, or_false] at hmem
    rcases hmem with h | h | h | h <;> simp_all

/-- What older firmware left: a schedule for 23:00 in the separate keys. -/
def olderSchedule : Nvs :=
  { schedEn := some 1, schedMin := some 1380, tz := some ⟨lit "EST5", by decide +kernel⟩ }

/-- An edit whose commit fails. -/
def editFails : List Action :=
  [⟨1, .setCloseSchedule (some eastern) { commitErr := .fail } true true⟩]

/-- **A boot whose `setenv` fails** leaves the schedule enabled in a zone that the clock does not
run in, and an edit that is refused then changes the zone of the process. -/
theorem boot_out_of_zone :
    control.toLTS.Trace (World.boot olderSchedule {} false 0)
        (control.edges (World.boot olderSchedule {} false 0) editFails)
        (control.last (World.boot olderSchedule {} false 0) editFails) ∧
      (∀ e ∈ control.edges (World.boot olderSchedule {} false 0) editFails, SetenvAgain e) ∧
      (World.boot olderSchedule {} false 0).fw.closeSchedule.enabled = true ∧
      ¬ (World.boot olderSchedule {} false 0).fw.InZone ∧
      ∃ e ∈ control.edges (World.boot olderSchedule {} false 0) editFails, ¬ AllOrNothing e := by
  refine ⟨control.trace_edges _ _, ?_, by decide +kernel, by decide +kernel, ?_⟩
  · intro e he schedule write applied restored hcall _
    have hmem := control.action_mem he
    simp only [editFails, List.mem_singleton] at hmem
    simp_all
  · refine ⟨control.edge (World.boot olderSchedule {} false 0)
      ⟨1, .setCloseSchedule (some eastern) { commitErr := .fail } true true⟩, .head _,
      fun hall => ?_⟩
    exact absurd ((hall rfl).1 (by decide +kernel)) (by decide +kernel)

end Runs

end GdoBlaq
