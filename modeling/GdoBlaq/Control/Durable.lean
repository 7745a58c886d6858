import GdoBlaq.Control.LegalRange
import GdoBlaq.Control.Restore
import GdoBlaq.Data.WriteThrough

/-!
# The settings of auto-close in the storage

The timeout, the switch and the buzzer have a key each.  A setter writes its key first and
publishes the setting if the write succeeded; a failed write may leave the new value under the key,
and the next boot takes it over.

## Main results

* `settings_follow` : every step does to the settings in force and to the stored ones what its
  event does to a value and its copy.
* `settings_durable` : which edits are in force after a run, and which are stored.
-/

namespace GdoBlaq

open Firmware WriteThrough

/-- The settings of auto-close and of its warning. -/
structure AutoCloseSettings where
  timeoutMs : ℕ
  enabled : Bool
  buzzer : Bool
  deriving DecidableEq

/-- The settings of auto-close that are in force. -/
def Firmware.autoCloseSettings (s : Firmware) : AutoCloseSettings :=
  ⟨s.autoCloseTimeoutMs, s.autoCloseEnabled, s.buzzerEnabled⟩

/-- What a boot finds that can read the three keys. -/
def storedAutoClose (n : Nvs) : AutoCloseSettings :=
  (autoCloseSettingsLoad {} n {}).autoCloseSettings

/-- The three keys can be read. -/
structure NvsReads.AutoClose (r : NvsReads) : Prop where
  opened : r.settingsOpenFails = false
  timeout : r.autoCloseMsFails = false
  enabled : r.autoCloseEnFails = false
  buzzer : r.warnBuzzerFails = false

/-- An edit of one of the settings. -/
inductive AutoCloseEdit where
  | timeoutMs (ms : ℕ)
  | enabled (on : Bool)
  | buzzer (on : Bool)
  deriving DecidableEq

namespace AutoCloseEdit

/-- The settings with the edit. -/
def apply : AutoCloseEdit → AutoCloseSettings → AutoCloseSettings
  | .timeoutMs ms, c => ⟨ms, c.enabled, c.buzzer⟩
  | .enabled on, c => ⟨c.timeoutMs, on, c.buzzer⟩
  | .buzzer on, c => ⟨c.timeoutMs, c.enabled, on⟩

/-- The setter gets as far as the storage. -/
def Accepted : AutoCloseEdit → Prop
  | .timeoutMs ms => TimeoutInRange ms
  | .enabled _ => True
  | .buzzer _ => True

instance : DecidablePred Accepted := fun edit => by
  cases edit <;> unfold Accepted <;> infer_instance

/-- What an edit amounts to whose setter made the write `w` and answered `err`. -/
def events (edit : AutoCloseEdit) (w : NvsWrite) (err : EspErr) : List (Event AutoCloseEdit) :=
  if err = .ok then [.acknowledged edit]
  else if edit.Accepted ∧ w.stores = true then [.leftBehind edit] else []

end AutoCloseEdit

/-- What a step amounts to for the settings of auto-close. -/
def settingsEvents (e : Step) : List (Event AutoCloseEdit) :=
  match e.label.1.call with
  | .setAutoCloseTimeoutMs ms write => AutoCloseEdit.events (.timeoutMs ms) write e.label.2.err
  | .setAutoCloseEnabled on write => AutoCloseEdit.events (.enabled on) write e.label.2.err
  | .setPreCloseBuzzer on write => AutoCloseEdit.events (.buzzer on) write e.label.2.err
  | .reboot _ _ => [.restarted]
  | _ => []

/-- The settings in force and the stored ones. -/
def World.settingsPair (w : World) : WriteThrough AutoCloseSettings :=
  ⟨w.fw.autoCloseSettings, storedAutoClose w.nvs⟩

/-! ### Storing -/

section Storing

variable {s : Firmware} {n n' : Nvs}

theorem storedAutoClose_congr (hms : n'.autoCloseMs = n.autoCloseMs)
    (hen : n'.autoCloseEn = n.autoCloseEn) (hbuzz : n'.warnBuzzer = n.warnBuzzer) :
    storedAutoClose n' = storedAutoClose n := by
  simp only [storedAutoClose, autoCloseSettingsLoad, hms, hen, hbuzz]

theorem storedAutoClose_set (n : Nvs) :
    (∀ ms, storedAutoClose { n with autoCloseMs := some ms } =
        (AutoCloseEdit.timeoutMs ms).apply (storedAutoClose n)) ∧
      (∀ b : Bool, storedAutoClose { n with autoCloseEn := some b.toNat } =
        (AutoCloseEdit.enabled b).apply (storedAutoClose n)) ∧
      ∀ b : Bool, storedAutoClose { n with warnBuzzer := some b.toNat } =
        (AutoCloseEdit.buzzer b).apply (storedAutoClose n) := by
  refine ⟨fun ms => rfl, fun b => ?_, fun b => ?_⟩
  · cases b <;> rfl
  · cases b <;> rfl

theorem saveSetting_follows {edit : AutoCloseEdit} (haccepted : edit.Accepted) {w : NvsWrite}
    {stored : Nvs} {publish : Firmware → Firmware}
    (hstored : storedAutoClose stored = edit.apply (storedAutoClose n))
    (hpublish : (publish s.bump).autoCloseSettings = edit.apply s.autoCloseSettings) :
    run AutoCloseEdit.apply ⟨s.autoCloseSettings, storedAutoClose n⟩
        (edit.events w (saveSetting s n w stored publish).2.2) =
      ⟨(saveSetting s n w stored publish).1.autoCloseSettings,
        storedAutoClose (saveSetting s n w stored publish).2.1⟩ := by
  unfold saveSetting AutoCloseEdit.events
  by_cases hw : w.err = .ok
  · simp [hw, w.stores_of_err hw, hstored, hpublish, run, next]
  · cases hstores : w.stores <;> simp [hw, haccepted, hstored, run, next]

theorem gdoSetAutoCloseTimeoutMs_follows {w : NvsWrite} (ms : ℕ) :
    run AutoCloseEdit.apply ⟨s.autoCloseSettings, storedAutoClose n⟩
        ((AutoCloseEdit.timeoutMs ms).events w (gdoSetAutoCloseTimeoutMs s n ms w).2.2) =
      ⟨(gdoSetAutoCloseTimeoutMs s n ms w).1.autoCloseSettings,
        storedAutoClose (gdoSetAutoCloseTimeoutMs s n ms w).2.1⟩ := by
  unfold gdoSetAutoCloseTimeoutMs
  split_ifs with hrange
  · have hout : ¬TimeoutInRange ms := by unfold TimeoutInRange; omega
    simp [AutoCloseEdit.events, AutoCloseEdit.Accepted, hout, run]
  · have hin : (AutoCloseEdit.timeoutMs ms).Accepted := by
      unfold AutoCloseEdit.Accepted TimeoutInRange
      omega
    exact saveSetting_follows hin ((storedAutoClose_set n).1 ms) rfl

theorem gdoSetCloseSchedule_settings {w : NvsWrite} (schedule : Option CloseSchedule)
    (applied restored : Bool) :
    (gdoSetCloseSchedule s n schedule w applied restored).1.autoCloseSettings =
        s.autoCloseSettings ∧
      storedAutoClose (gdoSetCloseSchedule s n schedule w applied restored).2.1 =
        storedAutoClose n := by
  rcases gdoSetCloseSchedule_cases (s := s) (n := n) (w := w) schedule applied restored with
    ⟨_, n', _, -, hn', he⟩ | ⟨c, -, -, he⟩
  · rw [he]
    rcases hn' with rfl | ⟨c, -, -, rfl⟩
    · exact ⟨rfl, rfl⟩
    · exact ⟨rfl, storedAutoClose_congr rfl rfl rfl⟩
  · rw [he]
    exact ⟨rfl, storedAutoClose_congr rfl rfl rfl⟩

theorem closeScheduleLastDaySave_settings {w : NvsWrite} (day : ℤ) :
    storedAutoClose (closeScheduleLastDaySave s n day w).2.1 = storedAutoClose n := by
  rcases closeScheduleLastDaySave_cases (s := s) (n := n) (w := w) day with
    ⟨n', -, hn', he⟩ | ⟨-, he⟩
  · rw [he]
    rcases hn' with rfl | rfl
    · rfl
    · exact storedAutoClose_congr rfl rfl rfl
  · rw [he]
    exact storedAutoClose_congr rfl rfl rfl

theorem schedCloseCheck_settings {reserve rollback : NvsWrite} (now : ℤ) (clock : Option Tm)
    (current : Option GdoStatus) (start : TaskStart) :
    storedAutoClose (schedCloseCheck s n now clock current reserve start rollback).2.1 =
      storedAutoClose n := by
  unfold schedCloseCheck
  cases schedCloseDue s now clock current with
  | none => rfl
  | some day =>
    have hreserve := closeScheduleLastDaySave_settings (s := s) (n := n) (w := reserve) day
    simp only
    split_ifs
    · exact hreserve
    · exact (closeScheduleLastDaySave_settings _).trans hreserve
    · exact hreserve

theorem autoCloseSettings_of_active {s' : Firmware} (h : s'.activeSettings = s.activeSettings) :
    s'.autoCloseSettings = s.autoCloseSettings :=
  congrArg (fun a : ActiveSettings =>
    AutoCloseSettings.mk a.autoCloseTimeoutMs a.autoCloseEnabled a.buzzerEnabled) h

theorem boot_autoCloseSettings {r : NvsReads} (hr : r.AutoClose) (setenvOk : Bool) :
    (boot n r setenvOk).autoCloseSettings = storedAutoClose n := by
  obtain ⟨sch, day, hread⟩ := closeScheduleRead_eq (s := autoCloseSettingsLoad {} n r) (n := n) r
  obtain ⟨tz, hboot⟩ := boot_loaded (n := n) r setenvOk
  rw [hboot, hread]
  simp only [storedAutoClose, autoCloseSettingsLoad, autoCloseSettings, hr.opened, hr.timeout,
    hr.enabled, hr.buzzer, Bool.false_eq_true, ite_false]

end Storing

/-! ### Steps -/

section Steps

variable {e : Step}

theorem settingsPair_keeps (hst : control.toLTS.step e.src e.label e.dst)
    (hset : e.label.1.call.isSetter = false) (hc : e.label.1.call.isReboot = false) :
    e.dst.settingsPair = e.src.settingsPair := by
  rcases World.step_cases hst with ⟨-, -, heff⟩ | ⟨_, _, hreboot, -, -⟩
  · refine congrArg₂ WriteThrough.mk (autoCloseSettings_of_active (heff.keeps_settings hset hc)) ?_
    by_cases hsched : ∃ clock current reserve start rollback,
        e.label.1.call = .watchdogSched clock current reserve start rollback
    · obtain ⟨clock, current, reserve, start, rollback, hcall⟩ := hsched
      have hperform := World.perform_of_step hst
      simp only [hcall, World.perform] at hperform
      split_ifs at hperform
      · obtain ⟨hdst, -⟩ := Prod.mk.inj (Option.some.inj hperform)
        rw [← hdst]
        exact schedCloseCheck_settings _ _ _ _
      · obtain ⟨hdst, -⟩ := Prod.mk.inj (Option.some.inj hperform)
        rw [← hdst]
        exact schedCloseCheck_settings _ _ _ _
    · obtain ⟨hnvs, -⟩ := heff.keeps_record hset hc
        fun clock current reserve start rollback h =>
          hsched ⟨clock, current, reserve, start, rollback, h⟩
      exact congrArg storedAutoClose hnvs
  · simp [hreboot, Call.isReboot] at hc

theorem settings_of_boot (hst : control.toLTS.step e.src e.label e.dst)
    (hreads : ∀ reads setenvOk, e.label.1.call = .reboot reads setenvOk → reads.AutoClose)
    (hboot : e.label.1.call.isReboot = true) :
    e.dst.fw.autoCloseSettings = storedAutoClose e.src.nvs := by
  rcases World.step_cases hst with ⟨hc, -, -⟩ | ⟨reads, setenvOk, hcall, -, hdst⟩
  · rw [hboot] at hc
    cases hc
  · rw [hdst]
    exact boot_autoCloseSettings (hreads reads setenvOk hcall) setenvOk

/-- **What a step does to the settings**: what its events do to a value and its copy. -/
theorem settings_follow (hst : control.toLTS.step e.src e.label e.dst)
    (hreads : ∀ reads setenvOk, e.label.1.call = .reboot reads setenvOk → reads.AutoClose) :
    run AutoCloseEdit.apply e.src.settingsPair (settingsEvents e) =
      e.dst.settingsPair := by
  unfold settingsEvents
  cases hcall : e.label.1.call with
  | setPreCloseBuzzer enabled write =>
    obtain ⟨hdst, hr⟩ := World.eq_of_step hst hcall rfl
    have haccepted : (AutoCloseEdit.buzzer enabled).Accepted := trivial
    rw [hdst, hr]
    exact saveSetting_follows haccepted ((storedAutoClose_set _).2.2 _) rfl
  | setAutoCloseEnabled enabled write =>
    obtain ⟨hdst, hr⟩ := World.eq_of_step hst hcall rfl
    have haccepted : (AutoCloseEdit.enabled enabled).Accepted := trivial
    rw [hdst, hr]
    exact saveSetting_follows haccepted ((storedAutoClose_set _).2.1 _) rfl
  | setAutoCloseTimeoutMs ms write =>
    obtain ⟨hdst, hr⟩ := World.eq_of_step hst hcall rfl
    rw [hdst, hr]
    exact gdoSetAutoCloseTimeoutMs_follows ms
  | reboot reads setenvOk =>
    obtain ⟨hdst, -⟩ := World.eq_of_step hst hcall rfl
    have hboot := settings_of_boot hst hreads (by rw [hcall]; rfl)
    have hnvs : e.dst.nvs = e.src.nvs := by rw [hdst]; rfl
    refine congrArg₂ WriteThrough.mk hboot.symm ?_
    exact congrArg storedAutoClose hnvs.symm
  | setCloseSchedule schedule write applied restored =>
    obtain ⟨hdst, -⟩ := World.eq_of_step hst hcall rfl
    obtain ⟨hfw, hnvs⟩ := gdoSetCloseSchedule_settings (s := e.src.fw) (n := e.src.nvs)
      (w := write) schedule applied restored
    rw [hdst]
    exact congrArg₂ WriteThrough.mk hfw.symm hnvs.symm
  | _ => exact (settingsPair_keeps hst (by rw [hcall]; rfl) (by rw [hcall]; rfl)).symm

end Steps

/-! ### Runs -/

section Runs

variable {n : Nvs} {reads : NvsReads} {setenvOk : Bool} {t₀ : ℤ} {es : List Step} {w : World}

/-- What the steps of a run amount to for the settings of auto-close. -/
def settingsJournal (es : List Step) : List (Event AutoCloseEdit) := es.flatMap settingsEvents

/-- The edits that the setters answered with `ESP_OK`. -/
def acknowledgedEdits (es : List Step) : List AutoCloseEdit :=
  (settingsJournal es).flatMap acknowledged

/-- The edits that are in the storage since, acknowledged or not. -/
def writtenEdits (es : List Step) : List AutoCloseEdit := (settingsJournal es).flatMap written

/-- Every boot of the run can read the three keys. -/
def BootsReadAutoClose (es : List Step) : Prop :=
  ∀ e ∈ es, ∀ reads setenvOk, e.label.1.call = .reboot reads setenvOk → reads.AutoClose

theorem settings_follow_run {w₀ : World} (h : control.toLTS.Trace w₀ es w)
    (hboots : BootsReadAutoClose es) :
    run AutoCloseEdit.apply w₀.settingsPair (settingsJournal es) = w.settingsPair := by
  refine h.history (I := fun es w =>
    run AutoCloseEdit.apply w₀.settingsPair (settingsJournal es) = w.settingsPair) rfl ?_
  intro pre e hpre hst ih
  have he : e ∈ es := hpre.subset (List.mem_append_right _ List.mem_cons_self)
  rw [settingsJournal, List.flatMap_append, run_append, List.flatMap_singleton]
  exact (congrArg (run AutoCloseEdit.apply · (settingsEvents e)) ih).trans
    (settings_follow hst (hboots e he))

theorem isReboot_of_restarted {e : Step} (h : Event.restarted ∈ settingsEvents e) :
    e.label.1.call.isReboot = true := by
  unfold settingsEvents at h
  cases hcall : e.label.1.call with
  | reboot => rfl
  | setAutoCloseTimeoutMs | setAutoCloseEnabled | setPreCloseBuzzer =>
    simp only [hcall, AutoCloseEdit.events] at h
    split_ifs at h <;> simp at h
  | _ => simp [hcall] at h

/-- **Which settings survive.**  In every run whose boots can read the three keys, the storage
holds all edits that were written.  In force are, over what the storage held at the last boot,
those acknowledged since.  And unless a failed write left its edit behind, no boot is noticed:
exactly the acknowledged edits are in force, and exactly these are stored. -/
theorem settings_durable (h : control.toLTS.Trace (World.boot n reads setenvOk t₀) es w)
    (hreads : reads.AutoClose) (hboots : BootsReadAutoClose es) :
    storedAutoClose w.nvs = replay AutoCloseEdit.apply (writtenEdits es) (storedAutoClose n) ∧
    (∀ pre e post, es = pre ++ e :: post → e.label.1.call.isReboot = true →
      (∀ e' ∈ post, e'.label.1.call.isReboot = false) →
      w.fw.autoCloseSettings =
        replay AutoCloseEdit.apply (acknowledgedEdits post) (storedAutoClose e.src.nvs)) ∧
    ((∀ e ∈ es, ∀ edit, Event.leftBehind edit ∉ settingsEvents e) →
      w.fw.autoCloseSettings =
          replay AutoCloseEdit.apply (acknowledgedEdits es) (storedAutoClose n) ∧
        storedAutoClose w.nvs = w.fw.autoCloseSettings) := by
  have hfirst : (World.boot n reads setenvOk t₀).settingsPair =
      ⟨storedAutoClose n, storedAutoClose n⟩ :=
    congrArg (WriteThrough.mk · (storedAutoClose n)) (boot_autoCloseSettings hreads setenvOk)
  have hrun := settings_follow_run h hboots
  rw [hfirst] at hrun
  have hstored : storedAutoClose w.nvs =
      replay AutoCloseEdit.apply (writtenEdits es) (storedAutoClose n) :=
    (congrArg WriteThrough.stored hrun).symm.trans stored_run
  refine ⟨hstored, ?_, ?_⟩
  · rintro pre e post rfl hboot hpost
    obtain ⟨-, hst, htail⟩ := LTS.Trace.at_edge_iff.1 h
    have hposts : BootsReadAutoClose post := fun e' he' =>
      hboots e' (List.mem_append_right _ (.tail _ he'))
    have hsettled := settings_follow_run htail hposts
    have hnone : Event.restarted ∉ settingsJournal post := by
      intro hmem
      obtain ⟨e', he', hevent⟩ := List.mem_flatMap.1 hmem
      have hsame := isReboot_of_restarted hevent
      rw [hpost e' he'] at hsame
      cases hsame
    have hbooted := settings_of_boot hst (hboots e (by simp)) hboot
    calc w.fw.autoCloseSettings
        = (run AutoCloseEdit.apply e.dst.settingsPair (settingsJournal post)).active := by
          rw [hsettled]; rfl
      _ = replay AutoCloseEdit.apply (acknowledgedEdits post) e.dst.fw.autoCloseSettings :=
          active_run hnone
      _ = replay AutoCloseEdit.apply (acknowledgedEdits post) (storedAutoClose e.src.nvs) := by
          rw [hbooted]
  · intro hclean
    have hnone : ∀ edit, Event.leftBehind edit ∉ settingsJournal es := by
      intro edit hmem
      obtain ⟨e, he, hevent⟩ := List.mem_flatMap.1 hmem
      exact hclean e he edit hevent
    have hsynced : w.settingsPair.active = w.settingsPair.stored := by
      rw [← hrun]
      exact synced_run rfl hnone
    change w.fw.autoCloseSettings = storedAutoClose w.nvs at hsynced
    refine ⟨?_, hsynced.symm⟩
    rw [hsynced, hstored, writtenEdits, written_eq_acknowledged hnone, acknowledgedEdits]

/-- Auto-close is switched on with an error, and is on after the boot all the same. -/
def switchedOnByBoot : List Action :=
  [⟨1, .setAutoCloseTimeoutMs 120000 {}⟩,
    ⟨2, .setAutoCloseEnabled true { commitErr := .fail, storedAnyway := true }⟩,
    ⟨3, .reboot {} true⟩, ⟨4, .setPreCloseBuzzer false {}⟩]

theorem settings_durable_left_behind :
    storedAutoClose (control.last (World.boot {} {} true 0) switchedOnByBoot).nvs =
        ⟨120000, true, false⟩ ∧
      acknowledgedEdits (control.edges (World.boot {} {} true 0) switchedOnByBoot) =
        [.timeoutMs 120000, .buzzer false] := by
  refine ⟨?_, by decide +kernel⟩
  refine (settings_durable (control.trace_edges _ switchedOnByBoot) ⟨rfl, rfl, rfl, rfl⟩ ?_).1.trans
    (by decide +kernel)
  intro e he reads setenvOk hcall
  have hmem := control.action_mem he
  simp only [switchedOnByBoot, List.mem_cons, List.not_mem_nil, or_false] at hmem
  rcases hmem with h | h | h | h
  · simp [h] at hcall
  · simp [h] at hcall
  · rw [h] at hcall
    cases hcall
    exact ⟨rfl, rfl, rfl, rfl⟩
  · simp [h] at hcall

end Runs

end GdoBlaq
