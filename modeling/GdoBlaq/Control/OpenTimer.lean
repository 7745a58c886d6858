import GdoBlaq.Control.OpenSince

/-!
# The open timers and the door

`set_last_door_state` is meant to be the only owner of the two timers, but four other places start
the auto-close countdown again, most of them without a look at `last_door`.  They may: a countdown
that has run out and a raised flag belong to an open door, and an auto-close whose generation still
stands was armed for a door that has not moved since.

## Main results

* `OpenTimer.effect` : every step keeps the timers in agreement with `last_door`.
* `open_timer_iff` : in every state of a run they say whether the door is open, and since when.
* `full_turn_starts_timer` : a full turn of the generation starts the countdown of a closed door.
-/

namespace GdoBlaq

open Firmware

section

variable {w w' : World} {c : Call} {r : Reply} {es : List Step}

/-- No auto-close warning that sleeps has seen a full turn of the generation. -/
def World.NoAutoTurn (w : World) : Prop :=
  ∀ v ∈ w.sleeping, v.kind = .auto → w.fw.closeGeneration < v.generation + 2 ^ 32

instance (w : World) : Decidable w.NoAutoTurn := inferInstanceAs (Decidable (∀ _ ∈ _, _))

/-- Both timers run, and the flag may be up, exactly while `last_door` is OPEN; and so it is while
an auto-close warning sleeps whose generation still stands. -/
structure OpenTimer (w : World) : Prop where
  since : w.fw.doorOpenSinceMs ≠ 0 ↔ w.fw.lastDoor = .opened
  continuously : w.fw.doorContinuouslyOpenSinceMs ≠ 0 ↔ w.fw.lastDoor = .opened
  started : w.fw.lastDoor = .opened → w.fw.doorContinuouslyOpenSinceMs ≤ w.fw.doorOpenSinceMs ∧
    w.fw.doorOpenSinceMs ≤ w.clock
  triggered : w.fw.autoCloseTriggered = true → w.fw.lastDoor = .opened
  stands : ∀ i v, w.tasks i = some v → v.kind = .auto →
    w.fw.autoCloseGeneration = w.fw.closeGeneration → w.fw.lastDoor = .opened

theorem OpenTimer.mono (hi : OpenTimer w) (horder : AutoOrder w)
    (hold : NoNew .auto w.tasks w'.tasks)
    (hdoor : w'.fw.lastDoor = w.fw.lastDoor)
    (hsince : w'.fw.doorOpenSinceMs = w.fw.doorOpenSinceMs)
    (hcont : w'.fw.doorContinuouslyOpenSinceMs = w.fw.doorContinuouslyOpenSinceMs)
    (htrig : w'.fw.autoCloseTriggered = true → w.fw.autoCloseTriggered = true)
    (hslot : w'.fw.autoCloseGeneration = w.fw.autoCloseGeneration)
    (hgen : w.fw.closeGeneration ≤ w'.fw.closeGeneration) (hclock : w.clock ≤ w'.clock) :
    OpenTimer w' where
  since := by rw [hsince, hdoor]; exact hi.since
  continuously := by rw [hcont, hdoor]; exact hi.continuously
  started h := by
    obtain ⟨hle, hle'⟩ := hi.started (hdoor ▸ h)
    rw [hsince, hcont]
    exact ⟨hle, hle'.trans hclock⟩
  triggered h := hdoor ▸ hi.triggered (htrig h)
  stands i v hv hk he := by
    have hle := horder.slot_le
    exact hdoor ▸ hi.stands i v (hold i v hv hk) hk (by omega)

theorem OpenTimer.restart (hi : OpenTimer w) (hnow : 0 < w.clock)
    (hopen : w.fw.lastDoor = .opened) (hdoor : w'.fw.lastDoor = w.fw.lastDoor)
    (hsince : w'.fw.doorOpenSinceMs = w.clock)
    (hcont : w'.fw.doorContinuouslyOpenSinceMs = w.fw.doorContinuouslyOpenSinceMs)
    (hclock : w'.clock = w.clock) : OpenTimer w' where
  since := by
    rw [hsince, hdoor]
    exact iff_of_true hnow.ne' hopen
  continuously := by rw [hcont, hdoor]; exact hi.continuously
  started _ := by
    obtain ⟨hle, hle'⟩ := hi.started hopen
    rw [hsince, hcont, hclock]
    exact ⟨hle.trans hle', le_rfl⟩
  triggered _ := hdoor.trans hopen
  stands _ _ _ _ _ := hdoor.trans hopen

theorem OpenTimer.news (hi : OpenTimer w) (horder : AutoOrder w) (hnow : 0 < w.clock)
    {fw : Firmware} {p : Phase} (h : News w.fw w.clock fw) :
    OpenTimer { w with fw := fw, phase := p } := by
  cases h with
  | view | obstruction | button =>
    exact hi.mono horder (.refl _ _) rfl rfl rfl id rfl (by simp) le_rfl
  | door _ _ _ d since cont trig hd ht =>
    -- the bump leaves the slot behind
    have hbehind : w.fw.autoCloseGeneration ≠ w.fw.closeGeneration + 1 := by
      have := horder.slot_le
      omega
    cases ht with
    | arrived ho =>
      exact ⟨iff_of_true hnow.ne' ho, iff_of_true hnow.ne' ho, fun _ => ⟨le_rfl, le_rfl⟩,
        fun _ => ho, fun _ _ _ _ _ => ho⟩
    | left hd' =>
      exact ⟨iff_of_false (not_not.2 rfl) hd', iff_of_false (not_not.2 rfl) hd',
        fun h => absurd h hd', fun h => by simp at h, fun _ _ _ _ he => absurd he hbehind⟩
    | away hd' hne =>
      exact ⟨iff_of_false (fun h => hne (hi.since.1 h)) hd',
        iff_of_false (fun h => hne (hi.continuously.1 h)) hd', fun h => absurd h hd',
        fun h => absurd (hi.triggered h) hne, fun _ _ _ _ he => absurd he hbehind⟩

/-- **One step.**  Whatever starts the countdown again finds the door open. -/
theorem OpenTimer.effect (hi : OpenTimer w) (hbook : Bookkeeping w) (horder : AutoOrder w)
    (hnow : 0 < w.clock) (hturn : w.NoAutoTurn) (hc : c.isReboot = false)
    (h : Effect w c w' r) : OpenTimer w' := by
  cases h with
  | news _ hnews => exact hi.news horder hnow hnews
  | idle | set | setFailed | opened | closeNotCreated | schedNotReserved | schedNotStarted =>
    exact hi.mono horder (.refl _ _) rfl rfl rfl id rfl (by simp) le_rfl
  | userSent | userDropped | autoSent | schedCancelled | schedSent =>
    exact hi.mono horder (.finish _ _) rfl rfl rfl id rfl (by simp) le_rfl
  | closeArmed | schedArmed =>
    exact hi.mono horder (.spawn (by simp) _) rfl rfl rfl id rfl (by simp) le_rfl
  | autoNotStarted hdue =>
    have hopen := hi.since.1 (autoCloseStillDue_iff.1 hdue).2.2.2.2.1
    exact hi.restart hnow hopen rfl rfl rfl rfl
  | autoArmed hdue =>
    have hopen := hi.since.1 (autoCloseStillDue_iff.1 hdue).2.2.2.2.1
    exact ⟨hi.since, hi.continuously, hi.started, fun _ => hopen, fun _ _ _ _ _ => hopen⟩
  | autoCancelled =>
    -- the countdown starts over only for a door that is still open
    by_cases hopen : w.fw.lastDoor = .opened
    · exact hi.restart hnow hopen rfl (by simp [hopen]) rfl rfl
    · exact hi.mono horder (.finish _ _) rfl (by simp [hopen]) rfl (by simp) rfl le_rfl le_rfl
  | autoRefused _ htask hvalid =>
    obtain ⟨hv, hk, -, -⟩ := warningOver_eq_some htask
    simp only [autoCloseValid, decide_eq_true_eq] at hvalid
    -- the close was not cancelled, so the door has not left OPEN since it was armed
    have hle := horder.le_slot _ _ hv hk
    have hlt := hturn _ (hbook.mem_sleeping.2 ⟨_, hv⟩) hk
    have hgen := Stamp.eq_of_reads_eq horder.slot_le (by omega) hvalid.2.2.2.1
    exact hi.restart hnow (hi.stands _ _ hv hk hgen) rfl rfl rfl rfl
  | restarted _ _ _ htrig =>
    exact hi.restart hnow (hi.triggered htrig) rfl rfl rfl rfl
  | rebooted => simp [Call.isReboot] at hc

theorem OpenTimer.boot (n : Nvs) (reads : NvsReads) (setenvOk : Bool) (t : ℤ) (next : ℕ) :
    OpenTimer { World.boot n reads setenvOk t with nextTask := next } := by
  constructor <;> simp [World.boot]

/-- **The timers agree with the door** in every state of a run. -/
theorem OpenTimer.trace (hrun : control.toLTS.Trace w es w') (hbook : Bookkeeping w)
    (horder : AutoOrder w) (hi : OpenTimer w) (hnow : ∀ e ∈ es, 0 < e.label.1.t)
    (hturn : ∀ e ∈ es, e.src.NoAutoTurn) : OpenTimer w' := by
  refine (hbook.invariant (I := fun w => AutoOrder w ∧ OpenTimer w) hrun ⟨horder, hi⟩
    fun e he hst hbook ⟨horder, hi⟩ => ⟨horder.step hbook hst, ?_⟩).2
  rcases World.step_cases hst with ⟨hc, hclock, heff⟩ | ⟨reads, setenvOk, -, -, hboot⟩
  · have htick : OpenTimer (e.src.tick e.label.1.t) :=
      hi.mono horder (.refl _ _) rfl rfl rfl id rfl le_rfl hclock
    have horder' : AutoOrder (e.src.tick e.label.1.t) := horder.mono (.refl _ _) rfl le_rfl
    exact htick.effect (hbook.tick hclock) horder' (hnow e he) (hturn e he) hc heff
  · rw [hboot]
    exact OpenTimer.boot e.src.nvs reads setenvOk e.label.1.t e.src.nextTask

/-- **The timers say whether the door is open, and since when.**  In every state of a run whose
times are positive, and in which no auto-close warning sleeps through a full turn of the
generation, the countdown runs if and only if the other timer does, if and only if `last_door` is
OPEN; the other timer then holds the time of the step in which `last_door` became OPEN, and the
countdown no earlier one; and the flag is up for an open door only. -/
theorem open_timer_iff {n : Nvs} {reads : NvsReads} {setenvOk : Bool} {t₀ : ℤ}
    (hrun : control.toLTS.Trace (World.boot n reads setenvOk t₀) es w)
    (hnow : ∀ e ∈ es, 0 < e.label.1.t) (hturn : ∀ e ∈ es, e.src.NoAutoTurn) :
    (w.fw.doorOpenSinceMs ≠ 0 ↔ w.fw.lastDoor = .opened) ∧
      (w.fw.doorContinuouslyOpenSinceMs ≠ 0 ↔ w.fw.lastDoor = .opened) ∧
      (w.fw.lastDoor = .opened → OpenSince es w.fw.doorContinuouslyOpenSinceMs ∧
        w.fw.doorContinuouslyOpenSinceMs ≤ w.fw.doorOpenSinceMs) ∧
      (w.fw.autoCloseTriggered = true → w.fw.lastDoor = .opened) := by
  have htimer : OpenTimer w := OpenTimer.trace hrun (Sound.boot n reads setenvOk t₀ 0).book
    (AutoOrder.boot n reads setenvOk t₀ 0) (OpenTimer.boot n reads setenvOk t₀ 0) hnow hturn
  exact ⟨htimer.since, htimer.continuously,
    fun hopen => ⟨opened_since hrun hopen, (htimer.started hopen).1⟩, htimer.triggered⟩

/-- The run in which a door is left open, up to the end of the warning. -/
theorem open_timer_iff_left_open :
    ((control.last (World.boot autoCloseNvs {} true 0) autoCloseRun).fw.doorOpenSinceMs ≠ 0 ↔
        (control.last (World.boot autoCloseNvs {} true 0) autoCloseRun).fw.lastDoor = .opened) ∧
      ((control.last (World.boot autoCloseNvs {} true 0)
          autoCloseRun).fw.doorContinuouslyOpenSinceMs ≠ 0 ↔
        (control.last (World.boot autoCloseNvs {} true 0) autoCloseRun).fw.lastDoor = .opened) ∧
      ((control.last (World.boot autoCloseNvs {} true 0) autoCloseRun).fw.lastDoor = .opened →
        OpenSince (control.edges (World.boot autoCloseNvs {} true 0) autoCloseRun)
            (control.last (World.boot autoCloseNvs {} true 0)
              autoCloseRun).fw.doorContinuouslyOpenSinceMs ∧
          (control.last (World.boot autoCloseNvs {} true 0)
              autoCloseRun).fw.doorContinuouslyOpenSinceMs ≤
            (control.last (World.boot autoCloseNvs {} true 0) autoCloseRun).fw.doorOpenSinceMs) ∧
      ((control.last (World.boot autoCloseNvs {} true 0)
          autoCloseRun).fw.autoCloseTriggered = true →
        (control.last (World.boot autoCloseNvs {} true 0) autoCloseRun).fw.lastDoor = .opened) :=
  open_timer_iff (control.trace_edges _ _) (by decide +kernel) (by decide +kernel)

end

/-! ### A full turn of the generation -/

/-- The auto-close of `autoCloseRun` is armed, and then the door reported closed. -/
def leftOpenRun : List Action :=
  autoCloseRun ++ [⟨67000, .event (.idle .closed 10000 10000) .doorPosition .ok⟩]

/-- The firmware after `leftOpenRun` and almost a full turn of the generation. -/
def closedWorld : World :=
  (control.last (World.boot autoCloseNvs {} true 0) leftOpenRun).bumped (2 ^ 32 - 1)

/-- The end of the warning, where the driver says that the door is open and then refuses. -/
def refusedClose : Action := ⟨67001, .autoCloseComplete 0 (some (.idle .opened 0 0)) .fail⟩

theorem refusedClose_isSome : (control.step closedWorld refusedClose).isSome = true := by
  decide +kernel

/-- **A full turn starts the countdown of a closed door.**  The door closes during the warning, and
2^32 - 1 button presses later the generation reads as it did when the auto-close was armed. -/
theorem full_turn_starts_timer :
    ∃ es w, control.toLTS.Trace (World.boot autoCloseNvs {} true 0) es w ∧
      (∀ e ∈ es, 0 < e.label.1.t) ∧ w.fw.lastDoor = .closed ∧ w.fw.doorOpenSinceMs ≠ 0 := by
  have hbefore : ∀ e ∈ control.edges (World.boot autoCloseNvs {} true 0) leftOpenRun,
      0 < e.label.1.t := by
    decide +kernel
  have hrun := control.trace_edges (World.boot autoCloseNvs {} true 0) leftOpenRun
  have hclock : 0 < (control.last (World.boot autoCloseNvs {} true 0) leftOpenRun).clock := by
    decide +kernel
  have hstep : control.toLTS.step closedWorld
      (refusedClose, ((control.step closedWorld refusedClose).get refusedClose_isSome).2)
      ((control.step closedWorld refusedClose).get refusedClose_isSome).1 :=
    (Option.some_get refusedClose_isSome).symm
  obtain ⟨es, hpressed, hes⟩ := pressed_trace
    (w := control.last (World.boot autoCloseNvs {} true 0) leftOpenRun) (by decide +kernel)
    (2 ^ 32 - 1)
  refine ⟨_, _, (hrun.append hpressed).append (.single hstep), ?_, by decide +kernel,
    by decide +kernel⟩
  intro e he
  rcases List.mem_append.1 he with he | he
  · rcases List.mem_append.1 he with he | he
    · exact hbefore e he
    · rw [(hes e he).1]
      exact hclock
  · obtain rfl := List.mem_singleton.1 he
    exact show (0 : ℤ) < 67001 by decide

end GdoBlaq
