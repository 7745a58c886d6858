import GdoBlaq.Control.Setters

/-!
# The range of the active settings

The setters check what they are given, and the loader of the schedule checks what it reads.  The
loader of the auto-close timeout takes whatever number it finds.

## Main results

* `boot_legal_iff` : a boot leaves the settings in their range unless it reads a timeout outside.
* `settings_legal_iff` : over a run, the settings are in their range in every state if and only if
  no boot reads a stored timeout outside it.
-/

namespace GdoBlaq

open Firmware

/-- The range that `gdo_set_auto_close_timeout_ms` accepts. -/
def TimeoutInRange (ms : ℕ) : Prop := 60000 ≤ ms ∧ ms ≤ 86400000

theorem TimeoutInRange.of_eq {ms ms' : ℕ} (h : TimeoutInRange ms) (heq : ms' = ms) :
    TimeoutInRange ms' := by
  rwa [heq]

instance (ms : ℕ) : Decidable (TimeoutInRange ms) :=
  inferInstanceAs (Decidable (60000 ≤ ms ∧ ms ≤ 86400000))

/-- The active settings are inside their ranges. -/
structure Firmware.Legal (s : Firmware) : Prop where
  timeout : TimeoutInRange s.autoCloseTimeoutMs
  minute : s.closeSchedule.minute < 1440
  nul : hasNul s.closeSchedule.tz = true
  tz : closeScheduleTzValid (cstr s.closeSchedule.tz) = true

/-- What a boot finds under `auto_close_ms`, if it can read the key, is inside the range. -/
def TimeoutLoads (n : Nvs) (r : NvsReads) : Prop :=
  r.settingsOpenFails = true ∨ r.autoCloseMsFails = true ∨
    ∀ ms, n.autoCloseMs = some ms → TimeoutInRange ms

/-- If the step is a boot, it loads no timeout outside the range. -/
def BootsInRange (e : Step) : Prop :=
  ∀ reads setenvOk, e.label.1.call = .reboot reads setenvOk → TimeoutLoads e.src.nvs reads

theorem Firmware.legal_iff {s : Firmware} :
    s.Legal ↔ TimeoutInRange s.autoCloseTimeoutMs ∧ s.closeSchedule.wellFormed = true := by
  simp only [CloseSchedule.wellFormed, decide_eq_true_eq]
  constructor
  · rintro ⟨htimeout, hmin, hnul, htz⟩
    exact ⟨htimeout, hmin, hnul, htz⟩
  · rintro ⟨htimeout, hmin, hnul, htz⟩
    exact ⟨htimeout, hmin, hnul, htz⟩

/-! ### Boot -/

section Boot

variable {n : Nvs}

theorem timeoutInRange_default : TimeoutInRange autoCloseTimeoutDefaultMs := by decide

theorem boot_timeout (r : NvsReads) (setenvOk : Bool) :
    (boot n r setenvOk).autoCloseTimeoutMs =
      (autoCloseSettingsLoad {} n r).autoCloseTimeoutMs := by
  obtain ⟨sch, day, hread⟩ := closeScheduleRead_eq (s := autoCloseSettingsLoad {} n r) (n := n) r
  obtain ⟨tz, hboot⟩ := boot_loaded (n := n) r setenvOk
  rw [hboot, hread]

/-- **The loader takes what it reads**: the timeout after a boot is in its range if and only if no
stored one outside it was read. -/
theorem timeout_loaded_iff (r : NvsReads) :
    TimeoutInRange (autoCloseSettingsLoad {} n r).autoCloseTimeoutMs ↔ TimeoutLoads n r := by
  unfold autoCloseSettingsLoad TimeoutLoads nvsGet
  cases hopen : r.settingsOpenFails with
  | true => simpa using timeoutInRange_default
  | false =>
    cases hread : r.autoCloseMsFails with
    | true => simpa [orKeep] using timeoutInRange_default
    | false =>
      cases n.autoCloseMs with
      | none => simpa [orKeep] using timeoutInRange_default
      | some ms => simp [orKeep]

theorem boot_legal_iff (r : NvsReads) (setenvOk : Bool) :
    (boot n r setenvOk).Legal ↔ TimeoutLoads n r := by
  rw [legal_iff, boot_timeout, timeout_loaded_iff]
  exact and_iff_left (boot_schedule r setenvOk).1

end Boot

/-! ### Runs -/

section Runs

variable {s : Firmware} {n : Nvs} {w : NvsWrite} {e : Step}

/-- The ends of `gdo_set_auto_close_timeout_ms`: an error leaves the variables alone; success is for
a timeout inside the range, which is stored and in force. -/
theorem gdoSetAutoCloseTimeoutMs_cases (ms : ℕ) :
    (∃ n' err, (n' = n ∨ n' = { n with autoCloseMs := some ms }) ∧ err ≠ .ok ∧
      gdoSetAutoCloseTimeoutMs s n ms w = (s, n', err)) ∨
    (TimeoutInRange ms ∧ w.err = .ok ∧ gdoSetAutoCloseTimeoutMs s n ms w =
      ({ s.bump with autoCloseTimeoutMs := ms }, { n with autoCloseMs := some ms }, .ok)) := by
  unfold gdoSetAutoCloseTimeoutMs
  split_ifs with hrange
  · exact .inl ⟨n, .invalidArg, .inl rfl, by simp, rfl⟩
  · rcases saveSetting_cases (s := s) (n := n) (w := w) { n with autoCloseMs := some ms }
      fun s => { s with autoCloseTimeoutMs := ms } with ⟨n', hn', herr, he⟩ | ⟨hok, he⟩
    · exact .inl ⟨n', w.err, hn', herr, he⟩
    · exact .inr ⟨by unfold TimeoutInRange; omega, hok, he⟩

/-- Between two boots the timeout changes only to one inside the range. -/
theorem timeout_step (hst : control.toLTS.step e.src e.label e.dst)
    (hc : e.label.1.call.isReboot = false) :
    e.dst.fw.autoCloseTimeoutMs = e.src.fw.autoCloseTimeoutMs ∨
      TimeoutInRange e.dst.fw.autoCloseTimeoutMs := by
  cases hcall : e.label.1.call with
  | setPreCloseBuzzer enabled write | setAutoCloseEnabled enabled write =>
    obtain ⟨hdst, -⟩ := World.eq_of_step hst hcall rfl
    rw [hdst]
    left
    show (saveSetting _ _ write _ _).1.autoCloseTimeoutMs = _
    rcases saveSetting_cases (s := e.src.fw) (n := e.src.nvs) (w := write) _ _ with
      ⟨_, -, -, he⟩ | ⟨-, he⟩ <;> exact congrArg (·.1.autoCloseTimeoutMs) he
  | setAutoCloseTimeoutMs timeoutMs write =>
    obtain ⟨hdst, -⟩ := World.eq_of_step hst hcall rfl
    rw [hdst]
    rcases gdoSetAutoCloseTimeoutMs_cases (s := e.src.fw) (n := e.src.nvs) (w := write)
      timeoutMs with ⟨_, _, -, -, he⟩ | ⟨hrange, -, he⟩
    · exact .inl (congrArg (·.1.autoCloseTimeoutMs) he)
    · have hms : (gdoSetAutoCloseTimeoutMs e.src.fw e.src.nvs timeoutMs write).1.autoCloseTimeoutMs
          = timeoutMs := congrArg (·.1.autoCloseTimeoutMs) he
      exact .inr (hrange.of_eq hms)
  | setCloseSchedule schedule write applied restored =>
    obtain ⟨hdst, -⟩ := World.eq_of_step hst hcall rfl
    rw [hdst]
    left
    show (gdoSetCloseSchedule _ _ schedule write applied restored).1.autoCloseTimeoutMs = _
    rcases gdoSetCloseSchedule_cases (s := e.src.fw) (n := e.src.nvs) (w := write) schedule applied
      restored with ⟨_, _, _, -, -, he⟩ | ⟨_, -, -, he⟩ <;>
      exact congrArg (·.1.autoCloseTimeoutMs) he
  | _ =>
    rcases World.step_cases hst with ⟨-, -, heff⟩ | ⟨_, _, hreboot, -, -⟩
    · exact .inl (congrArg (·.autoCloseTimeoutMs)
        (heff.keeps_settings (by rw [hcall]; rfl) hc))
    · rw [hreboot] at hc
      cases hc

/-- From a state inside the ranges every step but a boot that reads a timeout outside its range
leads to another. -/
theorem legal_step_iff (hst : control.toLTS.step e.src e.label e.dst) (hlegal : e.src.fw.Legal) :
    e.dst.fw.Legal ↔ BootsInRange e := by
  rcases World.step_cases hst with ⟨hc, -, -⟩ | ⟨reads, setenvOk, hcall, -, hboot⟩
  · have hnone : BootsInRange e := fun reads setenvOk hcall => by
      rw [hcall] at hc
      cases hc
    obtain ⟨htimeout, hform⟩ := legal_iff.1 hlegal
    refine iff_of_true (legal_iff.2 ⟨?_, wellFormed_step hst hform⟩) hnone
    exact (timeout_step hst hc).elim htimeout.of_eq id
  · rw [hboot]
    refine (boot_legal_iff reads setenvOk).trans ⟨?_, fun h => h reads setenvOk hcall⟩
    rintro hloads reads' setenvOk' hcall'
    rw [hcall] at hcall'
    cases hcall'
    exact hloads

/-- **The range of the settings.**  Whatever the storage holds, which reads fail and which setters
are called, the active settings are inside their ranges in every state if and only if no boot reads
a stored timeout outside its range. -/
theorem settings_legal_iff {reads : NvsReads} {setenvOk : Bool} {t₀ : ℤ} {es : List Step}
    {w : World} (hrun : control.toLTS.Trace (World.boot n reads setenvOk t₀) es w) :
    ((World.boot n reads setenvOk t₀).fw.Legal ∧ ∀ e ∈ es, e.dst.fw.Legal) ↔
      TimeoutLoads n reads ∧ ∀ e ∈ es, BootsInRange e := by
  have hboot : (World.boot n reads setenvOk t₀).fw.Legal ↔ TimeoutLoads n reads :=
    boot_legal_iff reads setenvOk
  rw [hboot]
  refine and_congr_right ?_
  intro hloads
  exact hrun.forall_dst_iff (I := fun w => w.fw.Legal) (hboot.2 hloads) fun e _ hst hsrc =>
    legal_step_iff hst hsrc

/-- A two-hour timeout, refused and then saved, and a reboot that reads it. -/
def twoHours : List Action :=
  [⟨1, .setAutoCloseTimeoutMs 30000 {}⟩, ⟨2, .setAutoCloseTimeoutMs 7200000 {}⟩,
    ⟨3, .reboot {} true⟩]

theorem settings_legal_twoHours :
    (World.boot {} {} true 0).fw.Legal ∧
      ∀ e ∈ control.edges (World.boot {} {} true 0) twoHours, e.dst.fw.Legal := by
  refine (settings_legal_iff (control.trace_edges _ twoHours)).2 ⟨.inr (.inr (by simp)), ?_⟩
  intro e he reads setenvOk hcall
  have hstored : ∀ e ∈ control.edges (World.boot {} {} true 0) twoHours,
      e.label.1.call.isReboot = true → e.src.nvs.autoCloseMs = some 7200000 := by
    decide +kernel
  refine .inr (.inr ?_)
  intro ms hms
  rw [hstored e he (by rw [hcall]; rfl)] at hms
  cases hms
  decide

/-- The door is reported open with nothing in its way, and the watchdog looks at it once. -/
def openDoor : List Action :=
  ⟨1000, .event (.idle .opened 0 0) .doorPosition .ok⟩ ::
    ⟨1000, .event (.idle .opened 0 0) .obstruction .ok⟩ :: watchdogTick 1001 (.idle .opened 0 0)

/-- **A timeout of 0 that older firmware stored** is loaded as it is, and the warning of an
automatic close starts one millisecond after the door was reported open. -/
theorem zero_timeout_loaded :
    ¬ (World.boot { autoCloseMs := some 0, autoCloseEn := some 1 } {} true 0).fw.Legal ∧
      (World.boot { autoCloseMs := some 0, autoCloseEn := some 1 } {} true 0).fw.autoCloseTimeoutMs
        = 0 ∧
      (control.last (World.boot { autoCloseMs := some 0, autoCloseEn := some 1 } {} true 0)
        openDoor).tasks 0 = some ⟨.auto, 1001, 2, 0⟩ := by
  refine ⟨?_, by decide +kernel, by decide +kernel⟩
  intro h
  exact absurd h.timeout (by decide +kernel)

end Runs

end GdoBlaq
