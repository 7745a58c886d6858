import GdoBlaq.Control.Firmware

/-!
# Settings: saving, loading and the schedule record

The setters, `close_schedule_save`, `close_schedule_last_day_save` and the two loaders that
`app_main` calls.  A function takes the variables and the storage and returns both; which storage
operations fail, and whether a failed write stored its value all the same, is an argument.

## Main results

* `saveSetting_cases` and `gdoSetCloseSchedule_cases` : a setter that succeeds bumps the
  generation once and publishes what it stored; one that fails changes none of the variables that
  decide about closing.
* `closeScheduleRead_of_blob` : a well-formed record that can be read is restored whole.
-/

namespace GdoBlaq

open Firmware

/-! ### Setters -/

/-- Write one value and, if that succeeded, bump the generation and publish the new setting. -/
def saveSetting (s : Firmware) (n : Nvs) (w : NvsWrite) (stored : Nvs)
    (publish : Firmware → Firmware) : Firmware × Nvs × EspErr :=
  let n := if w.stores then stored else n
  if w.err ≠ .ok then (s, n, w.err) else (publish s.bump, n, .ok)

/-- `gdo_set_pre_close_buzzer` -/
def gdoSetPreCloseBuzzer (s : Firmware) (n : Nvs) (enabled : Bool) (w : NvsWrite) :
    Firmware × Nvs × EspErr :=
  saveSetting s n w { n with warnBuzzer := some enabled.toNat }
    fun s => { s with buzzerEnabled := enabled }

/-- `gdo_set_auto_close_timeout_ms` -/
def gdoSetAutoCloseTimeoutMs (s : Firmware) (n : Nvs) (timeoutMs : ℕ) (w : NvsWrite) :
    Firmware × Nvs × EspErr :=
  if timeoutMs < 60000 ∨ 86400000 < timeoutMs then (s, n, .invalidArg)
  else
    saveSetting s n w { n with autoCloseMs := some timeoutMs }
      fun s => { s with autoCloseTimeoutMs := timeoutMs }

/-- `gdo_set_auto_close_enabled` -/
def gdoSetAutoCloseEnabled (s : Firmware) (n : Nvs) (enabled : Bool) (w : NvsWrite) :
    Firmware × Nvs × EspErr :=
  saveSetting s n w { n with autoCloseEn := some enabled.toNat }
    fun s => { s with autoCloseEnabled := enabled }

/-- `clock_sync_apply_timezone`; `setenvOk` is the answer of `setenv`. -/
def clockSyncApplyTimezone (s : Firmware) (posixTz : CStr) (setenvOk : Bool) :
    Firmware × EspErr :=
  if !closeScheduleTzValid posixTz then (s, .invalidArg)
  else if !setenvOk then (s, .fail)
  else ({ s with timezone := posixTz }, .ok)

/-- The record that `close_schedule_save` writes. -/
def PersistedSchedule.of (schedule : CloseSchedule) (day : ℤ) : PersistedSchedule :=
  ⟨persistedScheduleSize, 1, schedule, day⟩

/-- `close_schedule_save` -/
def closeScheduleSave (n : Nvs) (schedule : CloseSchedule) (day : ℤ) (w : NvsWrite) :
    Nvs × EspErr :=
  (if w.stores then { n with schedBlob := some (.of schedule day) } else n, w.err)

/-- `time_changed` of `gdo_set_close_schedule`. -/
def CloseSchedule.timeChanged (new old : CloseSchedule) : Bool :=
  new.minute ≠ old.minute ∨ cstr new.tz ≠ cstr old.tz

/-- What `gdo_set_close_schedule` and the loader accept as a schedule. -/
def CloseSchedule.wellFormed (c : CloseSchedule) : Bool :=
  c.minute < 1440 ∧ hasNul c.tz ∧ closeScheduleTzValid (cstr c.tz)

/-- The `day` that `gdo_set_close_schedule` stores with the new schedule. -/
def dayAfterEdit (s : Firmware) (new : CloseSchedule) : ℤ :=
  if new.timeChanged s.closeSchedule then 0 else s.closeScheduleLastDay

/-- `gdo_set_close_schedule`; `none` is the null pointer, `applied` and `restored` are the answers
of `setenv` for the new zone and for the old one after a failed write. -/
def gdoSetCloseSchedule (s : Firmware) (n : Nvs) (schedule : Option CloseSchedule) (w : NvsWrite)
    (applied restored : Bool) : Firmware × Nvs × EspErr :=
  match schedule with
  | none => (s, n, .invalidArg)
  | some schedule =>
    if !schedule.wellFormed then (s, n, .invalidArg)
    else
      let day := dayAfterEdit s schedule
      let (s', err) := clockSyncApplyTimezone s (cstr schedule.tz) applied
      if err ≠ .ok then (s', n, err)
      else
        let (n', err) := closeScheduleSave n schedule day w
        -- the storage may hold the new record all the same
        if err ≠ .ok then
          ((clockSyncApplyTimezone s' (cstr s.closeSchedule.tz) restored).1, n', err)
        else
          ({ s'.bump with closeSchedule := schedule, closeScheduleLastDay := day }, n', .ok)

/-- `close_schedule_last_day_save` -/
def closeScheduleLastDaySave (s : Firmware) (n : Nvs) (day : ℤ) (w : NvsWrite) :
    Firmware × Nvs × EspErr :=
  let (n', err) := closeScheduleSave n s.closeSchedule day w
  (if err = .ok then { s with closeScheduleLastDay := day } else s, n', err)

/-! ### Loading at boot -/

/-- Which reads of the settings namespace fail at a boot although the key may be there. -/
structure NvsReads where
  settingsOpenFails : Bool := false
  autoCloseMsFails : Bool := false
  autoCloseEnFails : Bool := false
  warnBuzzerFails : Bool := false
  schedOpenFails : Bool := false
  schedBlobFails : Bool := false
  schedEnFails : Bool := false
  schedMinFails : Bool := false
  tzFails : Bool := false
  schedLastDayFails : Bool := false
  deriving DecidableEq, Repr

/-- `nvs_get_*`: the stored value, `ESP_ERR_NVS_NOT_FOUND` for a missing key, or another error. -/
def nvsGet {α : Type} (fails : Bool) (value : Option α) : Except EspErr α :=
  if fails then .error .fail
  else match value with
    | some a => .ok a
    | none => .error .nvsNotFound

/-- The value of a read that answered `ESP_OK`, else `default`. -/
def orKeep {α : Type} (read : Except EspErr α) (default : α) : α :=
  match read with
  | .ok a => a
  | .error _ => default

/-- A stored `uint8_t` read as a flag. -/
def nonzero (v : ℕ) : Bool := v ≠ 0

/-- `auto_close_settings_load` -/
def autoCloseSettingsLoad (s : Firmware) (n : Nvs) (r : NvsReads) : Firmware :=
  if r.settingsOpenFails then s
  else
    { s with
      autoCloseTimeoutMs := orKeep (nvsGet r.autoCloseMsFails n.autoCloseMs) s.autoCloseTimeoutMs
      autoCloseEnabled :=
        orKeep ((nvsGet r.autoCloseEnFails n.autoCloseEn).map nonzero) s.autoCloseEnabled
      buzzerEnabled :=
        orKeep ((nvsGet r.warnBuzzerFails n.warnBuzzer).map nonzero) s.buzzerEnabled }

/-- The record passes the loader's checks. -/
def PersistedSchedule.valid (p : PersistedSchedule) : Bool :=
  p.size = persistedScheduleSize ∧ p.version = 1 ∧ p.schedule.wellFormed

/-- The separate keys of older firmware, each taken if it can be read and is in range. -/
def legacyScheduleLoad (s : Firmware) (n : Nvs) (r : NvsReads) : Firmware :=
  let enabled := orKeep ((nvsGet r.schedEnFails n.schedEn).map nonzero) s.closeSchedule.enabled
  let minute :=
    match nvsGet r.schedMinFails n.schedMin with
    | .ok minute => if minute < 1440 then minute else s.closeSchedule.minute
    | .error _ => s.closeSchedule.minute
  let tz :=
    match nvsGet r.tzFails n.tz with
    | .ok tz =>
      if closeScheduleTzValid tz.bytes then strcpy s.closeSchedule.tz tz.bytes
      else s.closeSchedule.tz
    | .error _ => s.closeSchedule.tz
  { s with
    closeSchedule := ⟨enabled, minute, tz⟩
    closeScheduleLastDay :=
      orKeep (nvsGet r.schedLastDayFails n.schedLastDay) s.closeScheduleLastDay }

/-- The storage half of `close_schedule_settings_load`. -/
def closeScheduleRead (s : Firmware) (n : Nvs) (r : NvsReads) : Firmware :=
  if r.schedOpenFails then s
  else
    match nvsGet r.schedBlobFails n.schedBlob with
    | .ok saved =>
      if saved.valid then
        { s with closeSchedule := saved.schedule, closeScheduleLastDay := saved.lastDay }
      -- a record that is not valid hides the older keys
      else s
    | .error .nvsNotFound => legacyScheduleLoad s n r
    | .error _ => s

/-- `close_schedule_settings_load` -/
def closeScheduleSettingsLoad (s : Firmware) (n : Nvs) (r : NvsReads) (setenvOk : Bool) :
    Firmware :=
  let s := closeScheduleRead s n r
  (clockSyncApplyTimezone s (cstr s.closeSchedule.tz) setenvOk).1

/-- The variables once `app_main` has loaded the settings. -/
def boot (n : Nvs) (r : NvsReads) (setenvOk : Bool) : Firmware :=
  closeScheduleSettingsLoad (autoCloseSettingsLoad {} n r) n r setenvOk

/-! ### What they do -/

section

variable {s : Firmware} {n : Nvs} {w : NvsWrite}

/-- The two ends of a save: the error comes back and the variables stay, or the value is stored,
published and the generation bumped. -/
theorem saveSetting_cases (stored : Nvs) (publish : Firmware → Firmware) :
    (∃ n', (n' = n ∨ n' = stored) ∧ w.err ≠ .ok ∧
      saveSetting s n w stored publish = (s, n', w.err)) ∨
    (w.err = .ok ∧ saveSetting s n w stored publish = (publish s.bump, stored, .ok)) := by
  unfold saveSetting
  by_cases h : w.err = .ok
  · exact .inr ⟨h, by simp [h, w.stores_of_err h]⟩
  · refine .inl ⟨if w.stores then stored else n, ?_, h, by simp [h]⟩
    split_ifs <;> simp

theorem clockSyncApplyTimezone_fst (posixTz : CStr) (setenvOk : Bool) :
    ∃ tz, (clockSyncApplyTimezone s posixTz setenvOk).1 = { s with timezone := tz } := by
  unfold clockSyncApplyTimezone
  split_ifs
  · exact ⟨s.timezone, rfl⟩
  · exact ⟨s.timezone, rfl⟩
  · exact ⟨posixTz, rfl⟩

theorem clockSyncApplyTimezone_ok {posixTz : CStr} {setenvOk : Bool}
    (h : (clockSyncApplyTimezone s posixTz setenvOk).2 = .ok) :
    (clockSyncApplyTimezone s posixTz setenvOk).1 = { s with timezone := posixTz } := by
  unfold clockSyncApplyTimezone at h ⊢
  split_ifs at h ⊢
  rfl

/-- The ends of `gdo_set_close_schedule`: an error leaves the variables as they were but for the
process timezone, and the stored record is the old one or the new one; success stores and
publishes the new schedule with its day and bumps the generation. -/
theorem gdoSetCloseSchedule_cases (schedule : Option CloseSchedule) (applied restored : Bool) :
    (∃ tz n' err, err ≠ .ok ∧
      (n' = n ∨ ∃ c, schedule = some c ∧ c.wellFormed = true ∧
        n' = { n with schedBlob := some (.of c (dayAfterEdit s c)) }) ∧
      gdoSetCloseSchedule s n schedule w applied restored = ({ s with timezone := tz }, n', err)) ∨
    (∃ c, schedule = some c ∧ c.wellFormed = true ∧
      gdoSetCloseSchedule s n schedule w applied restored =
        ({ s.bump with
            timezone := cstr c.tz, closeSchedule := c, closeScheduleLastDay := dayAfterEdit s c },
          { n with schedBlob := some (.of c (dayAfterEdit s c)) }, .ok)) := by
  cases schedule with
  | none => exact .inl ⟨s.timezone, n, .invalidArg, by simp, .inl rfl, rfl⟩
  | some c =>
    by_cases hc : c.wellFormed = true
    · simp only [gdoSetCloseSchedule, hc, Bool.not_true, Bool.false_eq_true, ite_false]
      by_cases happ : (clockSyncApplyTimezone s (cstr c.tz) applied).2 = .ok
      · rw [clockSyncApplyTimezone_ok happ]
        by_cases hw : w.err = .ok
        · exact .inr ⟨c, rfl, hc, by simp [happ, hw, closeScheduleSave, w.stores_of_err hw, bump]⟩
        · obtain ⟨tz, htz⟩ := clockSyncApplyTimezone_fst
            (s := { s with timezone := cstr c.tz }) (cstr s.closeSchedule.tz) restored
          refine .inl ⟨tz, (closeScheduleSave n c (dayAfterEdit s c) w).1, w.err, hw, ?_, ?_⟩
          · unfold closeScheduleSave
            split_ifs
            · exact .inr ⟨c, rfl, hc, rfl⟩
            · exact .inl rfl
          · simp [happ, closeScheduleSave, hw, htz]
      · obtain ⟨tz, htz⟩ := clockSyncApplyTimezone_fst (s := s) (cstr c.tz) applied
        exact .inl ⟨tz, n, _, happ, .inl rfl, by simp [happ, htz]⟩
    · exact .inl ⟨s.timezone, n, .invalidArg, by simp, .inl rfl, by simp [gdoSetCloseSchedule, hc]⟩

/-- The ends of `close_schedule_last_day_save`. -/
theorem closeScheduleLastDaySave_cases (day : ℤ) :
    (∃ n', w.err ≠ .ok ∧
      (n' = n ∨ n' = { n with schedBlob := some (.of s.closeSchedule day) }) ∧
      closeScheduleLastDaySave s n day w = (s, n', w.err)) ∨
    (w.err = .ok ∧ closeScheduleLastDaySave s n day w =
      ({ s with closeScheduleLastDay := day },
        { n with schedBlob := some (.of s.closeSchedule day) }, .ok)) := by
  unfold closeScheduleLastDaySave closeScheduleSave
  by_cases h : w.err = .ok
  · exact .inr ⟨h, by simp [h, w.stores_of_err h]⟩
  · refine .inl ⟨if w.stores then { n with schedBlob := some (.of s.closeSchedule day) } else n, h,
      ?_, by simp [h]⟩
    split_ifs <;> simp

/-- A record that the checks accept and that can be read is restored whole. -/
theorem closeScheduleRead_of_blob {p : PersistedSchedule} {r : NvsReads}
    (hblob : n.schedBlob = some p) (hp : p.valid = true) (hopen : r.schedOpenFails = false)
    (hread : r.schedBlobFails = false) :
    closeScheduleRead s n r =
      { s with closeSchedule := p.schedule, closeScheduleLastDay := p.lastDay } := by
  simp [closeScheduleRead, nvsGet, hblob, hp, hopen, hread]

theorem closeScheduleRead_eq (r : NvsReads) :
    ∃ sch day, closeScheduleRead s n r =
      { s with closeSchedule := sch, closeScheduleLastDay := day } := by
  unfold closeScheduleRead
  split_ifs
  · exact ⟨_, _, rfl⟩
  · split
    · split_ifs
      · exact ⟨_, _, rfl⟩
      · exact ⟨_, _, rfl⟩
    · exact ⟨_, _, rfl⟩
    · exact ⟨_, _, rfl⟩

/-- Copying a zone that passes the validator into `tz` gives that zone. -/
theorem cstr_strcpy (dst : Vector UInt8 64) {tz : CStr} (hvalid : closeScheduleTzValid tz = true)
    (hnul : 0 ∉ tz) : cstr (strcpy dst tz) = tz ∧ hasNul (strcpy dst tz) = true := by
  have hlen := length_of_closeScheduleTzValid hvalid
  have htake : (strcpy dst tz).toList.take tz.length = tz := by
    refine List.ext_getElem (by simp; omega) ?_
    intro i hi hi'
    simp [strcpy, hi']
  have hlt : tz.length < (strcpy dst tz).toList.length := by simp; omega
  have hend : (strcpy dst tz).toList[tz.length] = 0 := by simp [strcpy]
  have hlist : (strcpy dst tz).toList = tz ++ 0 :: (strcpy dst tz).toList.drop (tz.length + 1) := by
    conv_lhs => rw [← List.take_append_drop tz.length (strcpy dst tz).toList, htake,
      List.drop_eq_getElem_cons hlt, hend]
  constructor
  · rw [cstr, hlist, List.takeWhile_append_of_pos fun c hc => ?_]
    · simp
    · simp only [ne_eq, decide_not, Bool.not_eq_true', decide_eq_false_iff_not]
      rintro rfl
      exact hnul hc
  · rw [hasNul, hlist]
    simp

theorem wellFormed_default : ({} : Firmware).closeSchedule.wellFormed = true := by
  decide +kernel

/-- Whatever the loader reads, the schedule in force stays well formed. -/
theorem closeScheduleRead_wellFormed (r : NvsReads) (h : s.closeSchedule.wellFormed = true) :
    (closeScheduleRead s n r).closeSchedule.wellFormed = true := by
  unfold closeScheduleRead
  split_ifs
  · exact h
  · split
    · rename_i saved _
      split_ifs with hvalid
      · simp only [PersistedSchedule.valid, decide_eq_true_eq] at hvalid
        exact hvalid.2.2
      · exact h
    · simp only [CloseSchedule.wellFormed, decide_eq_true_eq] at h
      obtain ⟨hmin, hnul, htz⟩ := h
      unfold legacyScheduleLoad CloseSchedule.wellFormed
      refine decide_eq_true ⟨?_, ?_⟩
      · simp only
        split
        · split_ifs with hlt
          · exact hlt
          · exact hmin
        · exact hmin
      · simp only
        split
        · rename_i tz _
          split_ifs with hvalid
          · obtain ⟨hcopy, hnul'⟩ := cstr_strcpy s.closeSchedule.tz hvalid tz.noNul
            exact ⟨hnul', by rw [hcopy]; exact hvalid⟩
          · exact ⟨hnul, htz⟩
        · exact ⟨hnul, htz⟩
    · exact h

theorem boot_loaded (r : NvsReads) (setenvOk : Bool) :
    ∃ tz, boot n r setenvOk =
      { closeScheduleRead (autoCloseSettingsLoad {} n r) n r with timezone := tz } :=
  clockSyncApplyTimezone_fst _ setenvOk

/-- **The schedule in force after a boot is well formed**, and a record that can be read and passes
the checks is in force again. -/
theorem boot_schedule (r : NvsReads) (setenvOk : Bool) :
    (boot n r setenvOk).closeSchedule.wellFormed = true ∧
      ∀ p, n.schedBlob = some p → p.valid = true → r.schedOpenFails = false →
        r.schedBlobFails = false → (boot n r setenvOk).closeSchedule = p.schedule ∧
          (boot n r setenvOk).closeScheduleLastDay = p.lastDay := by
  have hload : (autoCloseSettingsLoad {} n r).closeSchedule.wellFormed = true := by
    unfold autoCloseSettingsLoad
    split_ifs <;> exact wellFormed_default
  obtain ⟨tz, hboot⟩ := boot_loaded (n := n) r setenvOk
  simp only [hboot]
  refine ⟨closeScheduleRead_wellFormed r hload, ?_⟩
  intro p hblob hvalid hopen hread
  rw [closeScheduleRead_of_blob hblob hvalid hopen hread]
  exact ⟨rfl, rfl⟩

theorem boot_eq (r : NvsReads) (setenvOk : Bool) :
    ∃ ms enabled buzzer sch day tz, boot n r setenvOk =
      { autoCloseTimeoutMs := ms, autoCloseEnabled := enabled, buzzerEnabled := buzzer
        closeSchedule := sch, closeScheduleLastDay := day, timezone := tz } := by
  have hload : ∃ ms enabled buzzer, autoCloseSettingsLoad {} n r =
      { autoCloseTimeoutMs := ms, autoCloseEnabled := enabled, buzzerEnabled := buzzer } := by
    unfold autoCloseSettingsLoad
    split_ifs <;> exact ⟨_, _, _, rfl⟩
  obtain ⟨ms, enabled, buzzer, hload⟩ := hload
  obtain ⟨sch, day, hread⟩ := closeScheduleRead_eq (s := autoCloseSettingsLoad {} n r) (n := n) r
  obtain ⟨tz, hboot⟩ := boot_loaded (n := n) r setenvOk
  exact ⟨ms, enabled, buzzer, sch, day, tz, by rw [hboot, hread, hload]⟩

@[simp] theorem boot_initial (r : NvsReads) (setenvOk : Bool) :
    (boot n r setenvOk).lastDoor = .max ∧ (boot n r setenvOk).doorOpenSinceMs = 0 ∧
      (boot n r setenvOk).doorContinuouslyOpenSinceMs = 0 ∧
      (boot n r setenvOk).autoCloseTriggered = false ∧ (boot n r setenvOk).closeGeneration = 0 ∧
      (boot n r setenvOk).doorCommandId = 0 ∧ (boot n r setenvOk).userClosePending = false ∧
      (boot n r setenvOk).userClosePendingGeneration = 0 ∧
      (boot n r setenvOk).autoCloseGeneration = 0 := by
  obtain ⟨_, _, _, _, _, _, h⟩ := boot_eq (n := n) r setenvOk
  simp only [h, and_self]

end

end GdoBlaq
