import GdoBlaq.Control.Setters

/-!
# The schedule over a reboot

The schedule and the last day on which it fired are one record.  Only the separate keys of older
firmware are still read one by one.

## Main results

* `restorable_step` : where no failed write leaves anything behind, the storage keeps holding the
  schedule and the day in force.
* `enabled_from_storage` : what is known of a schedule that is enabled after a boot.
* `schedule_restored` : both together.
-/

namespace GdoBlaq

open Firmware

/-- The schedule and the last day on which it fired. -/
def Firmware.dated (s : Firmware) : CloseSchedule × ℤ := (s.closeSchedule, s.closeScheduleLastDay)

/-- What a boot finds that can read all it looks at. -/
def storedSchedule (n : Nvs) : CloseSchedule × ℤ := (closeScheduleRead {} n {}).dated

/-- No read that concerns the schedule fails. -/
structure NvsReads.Schedule (r : NvsReads) : Prop where
  opened : r.schedOpenFails = false
  blob : r.schedBlobFails = false
  enabled : r.schedEnFails = false
  minute : r.schedMinFails = false
  tz : r.tzFails = false
  lastDay : r.schedLastDayFails = false

/-- A write that fails leaves the stored value as it was. -/
def NvsWrite.Clean (w : NvsWrite) : Prop := w.err ≠ .ok → w.stores = false

/-- The writes of the schedule in a step are clean. -/
def CleanWrites (e : Step) : Prop :=
  match e.label.1.call with
  | .setCloseSchedule _ write _ _ => write.Clean
  | .watchdogSched _ _ reserve _ rollback => reserve.Clean ∧ rollback.Clean
  | _ => True

/-- If the step is a boot, it can read the schedule. -/
def BootReads (e : Step) : Prop :=
  ∀ reads setenvOk, e.label.1.call = .reboot reads setenvOk → reads.Schedule

/-- The storage holds the schedule and the day in force. -/
structure Restorable (s : Firmware) (n : Nvs) : Prop where
  stored : storedSchedule n = s.dated
  wellFormed : s.closeSchedule.wellFormed = true

/-- A field of the schedule after a boot without a record: the value under its separate key, if
that can be read and is legal, and the default if the key is missing. -/
def FromKey {α β : Type} (key : Option α) (fails : Bool) (legal : α → Prop) (value : α → β)
    (default field : β) : Prop :=
  (∀ a, key = some a → fails = false → legal a → field = value a) ∧ (key = none → field = default)

/-- What a boot has restored: the whole record; or, without a record, an `enabled` that was stored
and the other fields from their own keys. -/
def FromStorage (n : Nvs) (r : NvsReads) (s : Firmware) : Prop :=
  (∃ p, n.schedBlob = some p ∧ p.valid = true ∧ s.dated = (p.schedule, p.lastDay)) ∨
    (n.schedBlob = none ∧ (∃ v, n.schedEn = some v ∧ v ≠ 0 ∧ r.schedEnFails = false) ∧
      FromKey n.schedMin r.schedMinFails (· < 1440) id closeScheduleDefaultMin
        s.closeSchedule.minute ∧
      FromKey n.tz r.tzFails (fun tz => closeScheduleTzValid tz.bytes = true) NvsStr.bytes
        closeScheduleDefaultTz (cstr s.closeSchedule.tz))

/-! ### Saving -/

section Save

variable {s : Firmware} {n : Nvs} {w : NvsWrite}

theorem closeScheduleSave_clean (hclean : w.Clean) (schedule : CloseSchedule) (day : ℤ) :
    closeScheduleSave n schedule day w =
      (if w.err = .ok then { n with schedBlob := some (.of schedule day) } else n, w.err) := by
  unfold closeScheduleSave
  by_cases h : w.err = .ok
  · simp [h, w.stores_of_err h]
  · simp [h, hclean h]

theorem storedSchedule_of_save {schedule : CloseSchedule} (hform : schedule.wellFormed = true)
    (day : ℤ) :
    storedSchedule { n with schedBlob := some (.of schedule day) } = (schedule, day) := by
  rw [storedSchedule, closeScheduleRead_of_blob rfl (PersistedSchedule.of_valid hform) rfl rfl]
  rfl

theorem gdoSetCloseSchedule_clean (hclean : w.Clean) {schedule : Option CloseSchedule}
    {applied restored : Bool}
    (herr : (gdoSetCloseSchedule s n schedule w applied restored).2.2 ≠ .ok) :
    (gdoSetCloseSchedule s n schedule w applied restored).2.1 = n := by
  cases schedule with
  | none => rfl
  | some c =>
    by_cases hc : c.wellFormed = true
    · simp only [gdoSetCloseSchedule, hc, Bool.not_true, Bool.false_eq_true, ite_false,
        closeScheduleSave_clean hclean] at herr ⊢
      by_cases happ : (clockSyncApplyTimezone s (cstr c.tz) applied).2 = .ok
      · by_cases hw : w.err = .ok
        · simp [happ, hw] at herr
        · simp [happ, hw]
      · simp [happ]
    · simp [gdoSetCloseSchedule, hc]

/-- An edit that fails changes neither the schedule nor the record, and one that succeeds changes
both alike. -/
theorem Restorable.edit (h : Restorable s n) (hclean : w.Clean) (schedule : Option CloseSchedule)
    (applied restored : Bool) :
    Restorable (gdoSetCloseSchedule s n schedule w applied restored).1
      (gdoSetCloseSchedule s n schedule w applied restored).2.1 := by
  rcases gdoSetCloseSchedule_cases (s := s) (n := n) (w := w) schedule applied restored with
    ⟨_, n', _, herr, -, he⟩ | ⟨c, -, hform, he⟩
  · have hkept : n' = n := by
      have hfail : (gdoSetCloseSchedule s n schedule w applied restored).2.2 ≠ .ok := by
        rw [he]
        exact herr
      have hclean' := gdoSetCloseSchedule_clean hclean hfail
      rwa [he] at hclean'
    rw [he, hkept]
    exact ⟨h.stored, h.wellFormed⟩
  · rw [he]
    exact ⟨storedSchedule_of_save hform _, hform⟩

theorem Restorable.reserve (h : Restorable s n) (hclean : w.Clean) (day : ℤ) :
    Restorable (closeScheduleLastDaySave s n day w).1 (closeScheduleLastDaySave s n day w).2.1 := by
  unfold closeScheduleLastDaySave
  rw [closeScheduleSave_clean hclean]
  by_cases hw : w.err = .ok
  · simp only [hw, ite_true]
    exact ⟨storedSchedule_of_save h.wellFormed day, h.wellFormed⟩
  · simp only [hw, ite_false]
    exact h

theorem Restorable.tick (h : Restorable s n) {reserve rollback : NvsWrite} (now : ℤ)
    (clock : Option Tm) (current : Option GdoStatus) (start : TaskStart)
    (hreserve : reserve.Clean) (hrollback : rollback.Clean) :
    Restorable (schedCloseCheck s n now clock current reserve start rollback).1
      (schedCloseCheck s n now clock current reserve start rollback).2.1 := by
  unfold schedCloseCheck
  cases schedCloseDue s now clock current with
  | none => exact h
  | some day =>
    have hday := h.reserve hreserve day
    simp only
    generalize closeScheduleLastDaySave s n day reserve = x at hday
    obtain ⟨s₁, n₁, err⟩ := x
    simp only at hday ⊢
    split_ifs
    · exact hday
    · exact Restorable.reserve (s := { s₁ with
        schedCloseGeneration := s₁.closeGeneration, schedCloseCommandId := s₁.doorCommandId
        schedClosePending := false }) ⟨hday.stored, hday.wellFormed⟩ hrollback _
    · exact ⟨hday.stored, hday.wellFormed⟩

end Save

/-! ### Booting -/

section Boot

variable {n : Nvs}

theorem closeScheduleRead_dated (s : Firmware) {r : NvsReads} (hr : r.Schedule)
    (hsch : s.closeSchedule = ({} : Firmware).closeSchedule)
    (hday : s.closeScheduleLastDay = ({} : Firmware).closeScheduleLastDay) :
    (closeScheduleRead s n r).dated = storedSchedule n := by
  obtain ⟨hopen, hblob, hen, hmin, htz, hlast⟩ := hr
  simp only [storedSchedule, closeScheduleRead, hopen, hblob]
  cases hn : n.schedBlob with
  | none => simp [nvsGet, legacyScheduleLoad, dated, hsch, hday, hen, hmin, htz, hlast]
  | some p =>
    simp only [nvsGet, Bool.false_eq_true, ite_false]
    cases p.valid <;> simp [dated, hsch, hday]

theorem boot_dated (r : NvsReads) (setenvOk : Bool) :
    (boot n r setenvOk).dated =
      (closeScheduleRead (autoCloseSettingsLoad {} n r) n r).dated := by
  obtain ⟨tz, hboot⟩ := boot_loaded (n := n) r setenvOk
  rw [hboot]
  rfl

theorem autoCloseSettingsLoad_dated (r : NvsReads) :
    (autoCloseSettingsLoad {} n r).closeSchedule = ({} : Firmware).closeSchedule ∧
      (autoCloseSettingsLoad {} n r).closeScheduleLastDay = 0 := by
  unfold autoCloseSettingsLoad
  split_ifs <;> exact ⟨rfl, rfl⟩

theorem boot_restorable {r : NvsReads} (hr : r.Schedule) (setenvOk : Bool) :
    Restorable (boot n r setenvOk) n := by
  obtain ⟨hsch, hday⟩ := autoCloseSettingsLoad_dated (n := n) r
  refine ⟨?_, (boot_schedule r setenvOk).1⟩
  rw [boot_dated, closeScheduleRead_dated _ hr hsch hday]

theorem orKeep_nonzero {fails : Bool} {key : Option ℕ}
    (h : orKeep ((nvsGet fails key).map nonzero) false = true) :
    ∃ v, key = some v ∧ v ≠ 0 ∧ fails = false := by
  unfold nvsGet at h
  cases fails with
  | true => simp [orKeep, Except.map] at h
  | false =>
    cases key with
    | none => simp [orKeep, Except.map] at h
    | some v => exact ⟨v, rfl, by simpa [orKeep, Except.map, nonzero] using h, rfl⟩

theorem legacyScheduleLoad_fromKeys {s : Firmware} {r : NvsReads}
    (hsch : s.closeSchedule = ({} : Firmware).closeSchedule)
    (hen : (legacyScheduleLoad s n r).closeSchedule.enabled = true) :
    (∃ v, n.schedEn = some v ∧ v ≠ 0 ∧ r.schedEnFails = false) ∧
      FromKey n.schedMin r.schedMinFails (· < 1440) id closeScheduleDefaultMin
        (legacyScheduleLoad s n r).closeSchedule.minute ∧
      FromKey n.tz r.tzFails (fun tz => closeScheduleTzValid tz.bytes = true) NvsStr.bytes
        closeScheduleDefaultTz (cstr (legacyScheduleLoad s n r).closeSchedule.tz) := by
  have hdefault : cstr (charArray 64 closeScheduleDefaultTz) = closeScheduleDefaultTz := by
    decide +kernel
  simp only [legacyScheduleLoad, hsch] at hen ⊢
  refine ⟨orKeep_nonzero hen, ⟨fun m hkey hread hlegal => ?_, fun hkey => ?_⟩,
    fun tz hkey hread hlegal => ?_, fun hkey => ?_⟩
  · simp [nvsGet, hkey, hread, hlegal]
  · cases hread : r.schedMinFails <;> simp [nvsGet, hkey]
  · simp [nvsGet, hkey, hread, hlegal, cstr_strcpy _ hlegal tz.noNul]
  · cases hread : r.tzFails <;> simp [nvsGet, hkey, hdefault]

/-- **An enabled schedule comes from the storage**: the whole record, or the key `sched_en` and the
keys of the other fields. -/
theorem enabled_from_storage (r : NvsReads) (setenvOk : Bool)
    (hen : (boot n r setenvOk).closeSchedule.enabled = true) :
    FromStorage n r (boot n r setenvOk) := by
  obtain ⟨hsch, -⟩ := autoCloseSettingsLoad_dated (n := n) r
  generalize hs : autoCloseSettingsLoad {} n r = s at hsch
  have hdated : (boot n r setenvOk).dated = (closeScheduleRead s n r).dated := by
    rw [boot_dated, hs]
  have hsame : (boot n r setenvOk).closeSchedule = (closeScheduleRead s n r).closeSchedule :=
    congrArg (·.1) hdated
  have hoff : s.closeSchedule.enabled ≠ true := by rw [hsch]; decide
  rw [hsame] at hen
  unfold FromStorage
  rw [hdated, hsame]
  unfold closeScheduleRead at hen ⊢
  cases hopen : r.schedOpenFails with
  | true => simp [hopen, hoff] at hen
  | false =>
    cases hread : r.schedBlobFails with
    | true => simp [hopen, hread, nvsGet, hoff] at hen
    | false =>
      cases hn : n.schedBlob with
      | none =>
        simp only [hopen, hread, hn, nvsGet, Bool.false_eq_true, ite_false] at hen ⊢
        exact .inr ⟨trivial, legacyScheduleLoad_fromKeys hsch hen⟩
      | some p =>
        by_cases hvalid : p.valid = true
        · exact .inl ⟨p, rfl, hvalid, by simp [nvsGet, hvalid, dated]⟩
        · simp [hopen, hread, hn, nvsGet, hvalid, hoff] at hen

end Boot

/-! ### Runs -/

section Runs

variable {e : Step}

/-- Steps that are neither setters nor the scheduler's tick leave the schedule and the storage
alone. -/
theorem Effect.keeps_record {w w' : World} {c : Call} {r : Reply} (h : Effect w c w' r)
    (hset : c.isSetter = false) (hc : c.isReboot = false)
    (hsched : ∀ clock current reserve start rollback,
      c ≠ .watchdogSched clock current reserve start rollback) :
    w'.nvs = w.nvs ∧ w'.fw.dated = w.fw.dated := by
  cases h with
  | news _ hnews => exact ⟨rfl, Prod.ext hnews.frame.schedule hnews.frame.lastDay⟩
  | set hcall | setFailed hcall => simp [hcall] at hset
  | schedNotReserved | schedNotStarted | schedArmed => exact absurd rfl (hsched _ _ _ _ _)
  | rebooted => simp [Call.isReboot] at hc
  | _ => exact ⟨rfl, rfl⟩

theorem Restorable.saveSetting {s : Firmware} {n stored : Nvs} {w : NvsWrite}
    {publish : Firmware → Firmware} (h : Restorable s n)
    (hstored : storedSchedule stored = storedSchedule n)
    (hpublish : (publish s.bump).closeSchedule = s.closeSchedule ∧
      (publish s.bump).closeScheduleLastDay = s.closeScheduleLastDay) :
    Restorable (saveSetting s n w stored publish).1 (saveSetting s n w stored publish).2.1 := by
  rcases saveSetting_cases (s := s) (n := n) (w := w) stored publish with
    ⟨n', hn', -, he⟩ | ⟨-, he⟩
  · rw [he]
    rcases hn' with rfl | rfl
    · exact h
    · exact ⟨hstored.trans h.stored, h.wellFormed⟩
  · rw [he]
    refine ⟨hstored.trans (h.stored.trans ?_), by rw [hpublish.1]; exact h.wellFormed⟩
    exact Prod.ext hpublish.1.symm hpublish.2.symm

/-- **The storage keeps up with the schedule in force.** -/
theorem restorable_step (hst : control.toLTS.step e.src e.label e.dst) (hclean : CleanWrites e)
    (hreads : BootReads e) (h : Restorable e.src.fw e.src.nvs) :
    Restorable e.dst.fw e.dst.nvs := by
  unfold CleanWrites at hclean
  cases hcall : e.label.1.call with
  | setPreCloseBuzzer | setAutoCloseEnabled =>
    obtain ⟨hdst, -⟩ := World.eq_of_step hst hcall rfl
    rw [hdst]
    exact h.saveSetting rfl ⟨rfl, rfl⟩
  | setAutoCloseTimeoutMs timeoutMs write =>
    obtain ⟨hdst, -⟩ := World.eq_of_step hst hcall rfl
    rw [hdst]
    simp only [gdoSetAutoCloseTimeoutMs]
    split_ifs
    · exact h
    · exact h.saveSetting rfl ⟨rfl, rfl⟩
  | setCloseSchedule schedule write applied restored =>
    rw [hcall] at hclean
    obtain ⟨hdst, -⟩ := World.eq_of_step hst hcall rfl
    rw [hdst]
    exact h.edit hclean schedule applied restored
  | watchdogSched clock current reserve start rollback =>
    rw [hcall] at hclean
    have hperform := World.perform_of_step hst
    have htick := h.tick e.label.1.t clock current start hclean.1 hclean.2
    simp only [hcall, World.perform] at hperform
    split_ifs at hperform with hphase harmed
    · obtain ⟨hdst, -⟩ := Prod.mk.inj (Option.some.inj hperform)
      rw [← hdst]
      exact htick
    · obtain ⟨hdst, -⟩ := Prod.mk.inj (Option.some.inj hperform)
      rw [← hdst]
      exact htick
  | reboot reads setenvOk =>
    obtain ⟨hdst, -⟩ := World.eq_of_step hst hcall rfl
    rw [hdst]
    exact boot_restorable (hreads reads setenvOk hcall) setenvOk
  | _ =>
    rcases World.step_cases hst with ⟨hc, -, heff⟩ | ⟨_, _, hreboot, -, -⟩
    · obtain ⟨hnvs, hdated⟩ := heff.keeps_record (by rw [hcall]; rfl) hc (by simp [hcall])
      refine ⟨by rw [hnvs, hdated]; exact h.stored, ?_⟩
      rw [show e.dst.fw.closeSchedule = e.src.fw.closeSchedule from congrArg (·.1) hdated]
      exact h.wellFormed
    · simp [hreboot] at hcall

theorem reboot_keeps_schedule (hst : control.toLTS.step e.src e.label e.dst)
    (hreads : BootReads e) (h : Restorable e.src.fw e.src.nvs)
    (hboot : e.label.1.call.isReboot = true) :
    e.dst.fw.closeSchedule = e.src.fw.closeSchedule ∧
      e.dst.fw.closeScheduleLastDay = e.src.fw.closeScheduleLastDay := by
  rcases World.step_cases hst with ⟨hc, -, -⟩ | ⟨reads, setenvOk, hcall, -, hdst⟩
  · rw [hboot] at hc
    cases hc
  · have hloaded : (boot e.src.nvs reads setenvOk).dated = e.src.fw.dated :=
      (boot_restorable (hreads reads setenvOk hcall) setenvOk).stored.symm.trans h.stored
    rw [hdst]
    exact ⟨congrArg (·.1) hloaded, congrArg (·.2) hloaded⟩

/-- **A schedule is restored as acknowledged.**  Where the boots can read the schedule and failed
writes leave the record as it was, a reboot brings back the schedule and the last day in force
before it.  And whatever the storage holds and whichever reads fail, a schedule that is enabled
after a boot is the stored record, or has each field from its own key. -/
theorem schedule_restored :
    (∀ {n : Nvs} {reads : NvsReads} {setenvOk : Bool} {t₀ : ℤ} {es : List Step} {w : World},
      control.toLTS.Trace (World.boot n reads setenvOk t₀) es w → reads.Schedule →
      (∀ e ∈ es, CleanWrites e ∧ BootReads e) →
      ∀ e ∈ es, e.label.1.call.isReboot = true →
        e.dst.fw.closeSchedule = e.src.fw.closeSchedule ∧
          e.dst.fw.closeScheduleLastDay = e.src.fw.closeScheduleLastDay) ∧
    ∀ (n : Nvs) (reads : NvsReads) (setenvOk : Bool),
      (boot n reads setenvOk).closeSchedule.enabled = true →
        FromStorage n reads (boot n reads setenvOk) := by
  refine ⟨?_, fun n reads setenvOk hen => enabled_from_storage reads setenvOk hen⟩
  intro n reads setenvOk t₀ es w hrun hreads hsteps e he hboot
  have hsrc : Restorable e.src.fw e.src.nvs :=
    (hrun.invariant_mem (I := fun w => Restorable w.fw w.nvs) (boot_restorable hreads setenvOk)
      (fun a ha hst hsrc => restorable_step hst (hsteps a ha).1 (hsteps a ha).2 hsrc) he).1
  exact reboot_keeps_schedule (hrun.step_of_mem he) (hsteps e he).2 hsrc hboot

/-- The run of `editAgain`, whose edit is in force after its reboot, and the schedule that older
firmware left. -/
theorem schedule_restored_eastern :
    (∀ e ∈ control.edges (World.boot {} {} true 0) editAgain, e.label.1.call.isReboot = true →
      e.dst.fw.closeSchedule = e.src.fw.closeSchedule ∧
        e.dst.fw.closeScheduleLastDay = e.src.fw.closeScheduleLastDay) ∧
    FromStorage olderSchedule {} (boot olderSchedule {} true) := by
  refine ⟨schedule_restored.1 (control.trace_edges _ editAgain) (by constructor <;> rfl) ?_,
    schedule_restored.2 olderSchedule {} true (by decide +kernel)⟩
  intro e he
  have hmem := control.action_mem he
  simp only [editAgain, List.mem_cons, List.not_mem_nil, or_false] at hmem
  unfold CleanWrites BootReads
  rcases hmem with h | h | h | h
  · rw [h]
    exact ⟨fun _ => rfl, by simp⟩
  · rw [h]
    exact ⟨fun herr => absurd rfl herr, by simp⟩
  · rw [h]
    exact ⟨trivial, by simp⟩
  · rw [h]
    refine ⟨trivial, ?_⟩
    rintro _ _ hcall
    cases hcall
    constructor <;> rfl

/-- **A default beside a stored field**: older firmware stored an enabled schedule for 23:00 but no
zone, and the schedule is enabled in the default zone. -/
theorem default_zone_filled_in :
    ¬ ∀ (n : Nvs) (reads : NvsReads) (setenvOk : Bool),
      (boot n reads setenvOk).closeSchedule.enabled = true →
        (∃ p, n.schedBlob = some p ∧
          (boot n reads setenvOk).closeSchedule.minute = p.schedule.minute ∧
          cstr (boot n reads setenvOk).closeSchedule.tz = cstr p.schedule.tz) ∨
        (n.schedMin = some (boot n reads setenvOk).closeSchedule.minute ∧
          ∃ tz, n.tz = some tz ∧ cstr (boot n reads setenvOk).closeSchedule.tz = tz.bytes) := by
  intro hclaim
  rcases hclaim { schedEn := some 1, schedMin := some 1380 } {} true (by decide +kernel) with
    ⟨p, hp, -⟩ | ⟨-, tz, htz, -⟩
  · cases hp
  · cases htz

end Runs

end GdoBlaq
