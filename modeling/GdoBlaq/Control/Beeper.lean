import GdoBlaq.Control.Firmware
import GdoBlaq.Lts.Machine
import Mathlib.Logic.Function.Basic

/-!
# The buzzer and the LED of a warning

`pre_close_warning_run` drives two pins, and several tasks may be in it at once: the three kinds of
warning tasks and the watchdog.  Every call of a driver function is a step of its own, so that one
task can come between any two calls of another.

## Main results

* `Beeper.LedShown.advance`, `Beeper.Sounding.advance` : what a pin shows goes back to a task.
* `pins_follow_warnings` : in every interleaving the pins are off when no warning runs.
* `warning_beeps` : a warning that has returned has made all its beeps.
-/

namespace GdoBlaq

/-! ### The module -/

/-- `BUZZER_DUTY_ON` -/
def buzzerDutyOn : ℕ := 512

/-- `BUZZER_DUTY_OFF` -/
def buzzerDutyOff : ℕ := 0

/-- Which of the three pairs of `buzzer_set` and `led_set` in `pre_close_warning_run`. -/
inductive BeepPlace where
  /-- The beep begins. -/
  | on
  | off
  /-- After the loop. -/
  | ended
  deriving DecidableEq, Repr

/-- The next thing a task does in `pre_close_warning_run`. -/
inductive RunPc where
  /-- `elapsed < duration_ms` -/
  | test
  /-- `buzzer_set`: `if (!s_buzzer_enabled) on = false`. -/
  | readEnabled (place : BeepPlace)
  /-- `ledc_set_duty`, which the pin does not show yet. -/
  | setDuty (place : BeepPlace) (on : Bool)
  /-- `ledc_update_duty` -/
  | updateDuty (place : BeepPlace)
  /-- `led_set` -/
  | setLevel (place : BeepPlace)
  | delayOn
  /-- The second delay, and `elapsed += cycle_ms` after it. -/
  | delayOff
  deriving DecidableEq, Repr

/-- A task that is in `pre_close_warning_run`. -/
structure WarningRun where
  durationMs : UInt32
  elapsed : UInt32 := 0
  pc : RunPc := .test
  deriving DecidableEq

/-- The variable of the module, the two pins, and the tasks that use them. -/
structure Beeper where
  buzzerEnabled : Bool := true
  /-- The duty that was set last, in force from the next update. -/
  dutySet : ℕ := buzzerDutyOff
  /-- The duty of the buzzer's pin. -/
  duty : ℕ := buzzerDutyOff
  /-- The level of the LED's pin. -/
  level : Bool := false
  runs : ℕ → Option WarningRun := fun _ => none
  nextRun : ℕ := 0

/-- What happens. -/
inductive BeeperCall where
  /-- A task calls `pre_close_warning_run`. -/
  | run (durationMs : UInt32)
  /-- `pre_close_warning_set_buzzer_enabled` -/
  | setBuzzerEnabled (enabled : Bool)
  /-- The next thing that a task does. -/
  | advance (i : ℕ)
  deriving DecidableEq, Repr

namespace Beeper

/-- One step of a task, and the task after it, unless the function has returned. -/
def advance (b : Beeper) (t : WarningRun) : Beeper × Option WarningRun :=
  match t.pc with
  | .test =>
    (b, some { t with pc := .readEnabled (if t.elapsed < t.durationMs then .on else .ended) })
  | .readEnabled place => (b, some { t with pc := .setDuty place (place = .on ∧ b.buzzerEnabled) })
  | .setDuty place on =>
    ({ b with dutySet := if on then buzzerDutyOn else buzzerDutyOff },
      some { t with pc := .updateDuty place })
  | .updateDuty place => ({ b with duty := b.dutySet }, some { t with pc := .setLevel place })
  | .setLevel place =>
    ({ b with level := place = .on },
      match place with
      | .on => some { t with pc := .delayOn }
      | .off => some { t with pc := .delayOff }
      | .ended => none)
  | .delayOn => (b, some { t with pc := .readEnabled .off })
  | .delayOff =>
    (b, some { t with elapsed := t.elapsed + .ofNat preCloseWarningCycleMs, pc := .test })

/-- What a step does; `none` where there is no such task. -/
def step (b : Beeper) : BeeperCall → Option Beeper
  | .run durationMs =>
    some { b with
      runs := Function.update b.runs b.nextRun (some { durationMs := durationMs })
      nextRun := b.nextRun + 1 }
  | .setBuzzerEnabled enabled => some { b with buzzerEnabled := enabled }
  | .advance i =>
    (b.runs i).map fun t =>
      { (b.advance t).1 with runs := Function.update b.runs i (b.advance t).2 }

end Beeper

/-- The warnings and their pins as a machine. -/
def beeper : Machine Beeper BeeperCall Unit := ⟨fun b c => (b.step c).map fun b => (b, ())⟩

/-- A step of a run, with the pins around it. -/
abbrev BeeperStep := LTS.Edge Beeper (BeeperCall × Unit)

/-! ### Where a warning is -/

namespace RunPc

/-- The LED was switched on, and not off again. -/
def Lit : RunPc → Prop
  | .delayOn | .readEnabled .off | .setDuty .off _ | .updateDuty .off | .setLevel .off => True
  | _ => False

/-- The duty was set at the beginning of a beep, and not set back. -/
def Beeps : RunPc → Prop
  | .updateDuty .on | .setLevel .on | .delayOn | .readEnabled .off | .setDuty .off _ => True
  | _ => False

/-- The same, until the pin follows. -/
def Sounds (pc : RunPc) : Prop := pc.Beeps ∨ pc = .updateDuty .off

/-- The buzzer is about to be switched on. -/
def Rings : RunPc → Prop
  | .setDuty _ on => on = true
  | _ => False

end RunPc

namespace Beeper

/-- Some task is where `P` says. -/
def Some (b : Beeper) (P : ℕ → RunPc → Prop) : Prop := ∃ i t, b.runs i = some t ∧ P i t.pc

/-- All tasks are where `P` says. -/
def All (b : Beeper) (P : ℕ → RunPc → Prop) : Prop := ∀ i t, b.runs i = some t → P i t.pc

section

variable {b b' : Beeper} {P P' : ℕ → RunPc → Prop} {i : ℕ} {t t' : WarningRun}
  {new : Option WarningRun}

theorem Some.keep (h : b.Some P) (hi : b.runs i = some t)
    (hruns : b'.runs = Function.update b.runs i new)
    (hother : ∀ j pc, j ≠ i → P j pc → P' j pc)
    (hkeep : P i t.pc → ∃ t', new = some t' ∧ P' i t'.pc) : b'.Some P' := by
  obtain ⟨j, u, hu, hP⟩ := h
  by_cases hj : j = i
  · subst hj
    obtain rfl : t = u := Option.some.inj (hi.symm.trans hu)
    obtain ⟨t', hnew, ht'⟩ := hkeep hP
    exact ⟨j, t', by rw [hruns, Function.update_self, hnew], ht'⟩
  · exact ⟨j, u, by rw [hruns, Function.update_of_ne hj, hu], hother j _ hj hP⟩

theorem Some.enter (hruns : b'.runs = Function.update b.runs i (some t')) (ht' : P i t'.pc) :
    b'.Some P :=
  ⟨i, t', by rw [hruns, Function.update_self], ht'⟩

theorem All.update (h : b.All P) (hruns : b'.runs = Function.update b.runs i new)
    (hother : ∀ j pc, j ≠ i → P j pc → P' j pc) (hnew : ∀ t', new = some t' → P' i t'.pc) :
    b'.All P' := by
  intro j u hu
  rw [hruns] at hu
  by_cases hj : j = i
  · subst hj
    rw [Function.update_self] at hu
    exact hnew u hu
  · rw [Function.update_of_ne hj] at hu
    exact hother j _ hj (h j u hu)

end

/-! ### The LED -/

/-- A lit LED goes back to a task that has not switched it off yet. -/
def LedShown (b : Beeper) : Prop := b.level = true → b.Some fun _ pc => pc.Lit

/-- **One step of a task, and the LED.** -/
theorem LedShown.advance {b : Beeper} {i : ℕ} {t : WarningRun} (h : b.LedShown)
    (hi : b.runs i = some t) :
    LedShown { (b.advance t).1 with runs := Function.update b.runs i (b.advance t).2 } := by
  obtain ⟨durationMs, elapsed, pc⟩ := t
  have hsame : ∀ (j : ℕ) (pc : RunPc), j ≠ i → pc.Lit → pc.Lit := fun _ _ _ => id
  intro hlit
  cases pc with
  | test | delayOff => exact (h hlit).keep hi rfl hsame False.elim
  | delayOn => exact (h hlit).keep hi rfl hsame fun _ => ⟨_, rfl, trivial⟩
  | readEnabled place | setDuty place | updateDuty place =>
    refine (h hlit).keep hi rfl hsame ?_
    cases place <;> simp [Beeper.advance, RunPc.Lit]
  | setLevel place =>
    cases place with
    | on => exact .enter rfl trivial
    | off | ended => simp [Beeper.advance] at hlit

/-! ### The buzzer -/

/-- A buzzer that sounds, is to sound from the next update or is about to be switched on goes back
to a task that `W` names and that has not taken it back yet. -/
structure Sounding (W : ℕ → Prop) (b : Beeper) : Prop where
  dutySet : b.dutySet ≠ buzzerDutyOff → b.Some fun i pc => W i ∧ pc.Beeps
  duty : b.duty ≠ buzzerDutyOff → b.Some fun i pc => W i ∧ pc.Sounds
  rings : b.All fun i pc => pc.Rings → W i
  place : b.All fun _ pc => ∀ place, pc = .setDuty place true → place = .on

section

variable {W W' : ℕ → Prop} {b b' : Beeper} {i : ℕ} {t : WarningRun}

/-- The other tasks stay where they are, and task `i` goes on without a change of the duty. -/
theorem Sounding.keep {new : Option WarningRun} (h : b.Sounding W) (hi : b.runs i = some t)
    (hruns : b'.runs = Function.update b.runs i new) (hset : b'.dutySet = b.dutySet)
    (hduty : b'.duty = b.duty) (hother : ∀ j, j ≠ i → W j → W' j)
    (hbeeps : W i → t.pc.Beeps → ∃ t', new = some t' ∧ W' i ∧ t'.pc.Beeps)
    (hsounds : W i → t.pc.Sounds → ∃ t', new = some t' ∧ W' i ∧ t'.pc.Sounds)
    (hnew : ∀ t', new = some t' → (t'.pc.Rings → W' i) ∧
      ∀ place, t'.pc = .setDuty place true → place = .on) : b'.Sounding W' where
  dutySet hd := (h.dutySet (hset ▸ hd)).keep hi hruns (fun j _ hj => And.imp_left (hother j hj))
    fun hw => hbeeps hw.1 hw.2
  duty hd := (h.duty (hduty ▸ hd)).keep hi hruns (fun j _ hj => And.imp_left (hother j hj))
    fun hw => hsounds hw.1 hw.2
  rings := h.rings.update hruns (fun j _ hj hw hr => hother j hj (hw hr))
    fun t' ht' => (hnew t' ht').1
  place := h.place.update hruns (fun _ _ _ => id) fun t' ht' => (hnew t' ht').2

theorem Sounding.setDuty {durationMs elapsed : UInt32} {place : BeepPlace} {on : Bool}
    (h : b.Sounding W) (hi : b.runs i = some ⟨durationMs, elapsed, .setDuty place on⟩)
    (hother : ∀ j, j ≠ i → W j → W' j) (hkept : W i → W' i) :
    Sounding W' { (b.advance ⟨durationMs, elapsed, .setDuty place on⟩).1 with
      runs := Function.update b.runs i (b.advance ⟨durationMs, elapsed, .setDuty place on⟩).2 } := by
  refine ⟨fun hd => ?_, fun hd => ?_, h.rings.update rfl ?_ ?_, h.place.update rfl ?_ ?_⟩
  · cases on with
    | true =>
      obtain rfl := h.place i _ hi _ rfl
      exact .enter rfl ⟨hkept (h.rings i _ hi rfl), trivial⟩
    | false => exact absurd rfl hd
  · refine (h.duty hd).keep hi rfl (fun j _ hj => And.imp_left (hother j hj)) ?_
    rintro ⟨hw, hpc⟩
    refine ⟨_, rfl, hkept hw, ?_⟩
    cases place <;> simp_all [RunPc.Sounds, RunPc.Beeps]
  · exact fun j _ hj hw hr => hother j hj (hw hr)
  · rintro _ ⟨⟩ ⟨⟩
  · exact fun _ _ _ => id
  · rintro _ ⟨⟩ _ ⟨⟩

/-- What comes into force was set by a task that is still in its beep. -/
theorem Sounding.updateDuty {durationMs elapsed : UInt32} {place : BeepPlace}
    (h : b.Sounding W) (hi : b.runs i = some ⟨durationMs, elapsed, .updateDuty place⟩)
    (hother : ∀ j, j ≠ i → W j → W' j) (hkept : W i → W' i) :
    Sounding W' { (b.advance ⟨durationMs, elapsed, .updateDuty place⟩).1 with
      runs := Function.update b.runs i (b.advance ⟨durationMs, elapsed, .updateDuty place⟩).2 } := by
  have hset : b.dutySet ≠ buzzerDutyOff →
      Some { (b.advance ⟨durationMs, elapsed, .updateDuty place⟩).1 with
        runs := Function.update b.runs i (b.advance ⟨durationMs, elapsed, .updateDuty place⟩).2 }
        fun i pc => W' i ∧ pc.Beeps := by
    refine fun hd => (h.dutySet hd).keep hi rfl (fun j _ hj => And.imp_left (hother j hj)) ?_
    rintro ⟨hw, hpc⟩
    refine ⟨_, rfl, hkept hw, ?_⟩
    cases place <;> simp_all [RunPc.Beeps]
  refine ⟨hset, fun hd => ?_, h.rings.update rfl ?_ ?_, h.place.update rfl ?_ ?_⟩
  · obtain ⟨j, u, hu, hw, hpc⟩ := hset hd
    exact ⟨j, u, hu, hw, .inl hpc⟩
  · exact fun j _ hj hw hr => hother j hj (hw hr)
  · rintro _ ⟨⟩ ⟨⟩
  · exact fun _ _ _ => id
  · rintro _ ⟨⟩ _ ⟨⟩

/-- **One step of a task, and the buzzer.**  `W` may lose a task at the end of its beep, and need
not have one that finds the buzzer off. -/
theorem Sounding.advance (h : b.Sounding W) (hi : b.runs i = some t)
    (hother : ∀ j, j ≠ i → W j → W' j) (hkept : t.pc ≠ .setLevel .off → W i → W' i)
    (hread : b.buzzerEnabled = true → W' i) :
    Sounding W' { (b.advance t).1 with runs := Function.update b.runs i (b.advance t).2 } := by
  obtain ⟨durationMs, elapsed, pc⟩ := t
  cases pc with
  | test | delayOff =>
    refine h.keep hi rfl rfl rfl hother ?_ ?_ ?_
    · simp [RunPc.Beeps]
    · simp [RunPc.Sounds, RunPc.Beeps]
    · rintro _ ⟨⟩
      exact ⟨by rintro ⟨⟩, by rintro _ ⟨⟩⟩
  | delayOn =>
    refine h.keep hi rfl rfl rfl hother ?_ ?_ ?_
    · exact fun hw _ => ⟨_, rfl, hkept (by simp) hw, trivial⟩
    · exact fun hw _ => ⟨_, rfl, hkept (by simp) hw, .inl trivial⟩
    · rintro _ ⟨⟩
      exact ⟨by rintro ⟨⟩, by rintro _ ⟨⟩⟩
  | readEnabled place =>
    refine h.keep hi rfl rfl rfl hother ?_ ?_ ?_
    · intro hw hpc
      refine ⟨_, rfl, hkept (by simp) hw, ?_⟩
      cases place <;> simp_all [RunPc.Beeps]
    · intro hw hpc
      refine ⟨_, rfl, hkept (by simp) hw, ?_⟩
      cases place <;> simp_all [RunPc.Sounds, RunPc.Beeps]
    · rintro _ ⟨⟩
      refine ⟨fun hr => hread (of_decide_eq_true hr).2, fun place' hpc => ?_⟩
      obtain ⟨rfl, hon⟩ := RunPc.setDuty.inj hpc
      exact (of_decide_eq_true hon).1
  | setLevel place =>
    refine h.keep hi rfl rfl rfl hother ?_ ?_ ?_
    · intro hw hpc
      cases place with
      | on => exact ⟨_, rfl, hkept (by simp) hw, trivial⟩
      | off | ended => cases hpc
    · intro hw hpc
      cases place with
      | on => exact ⟨_, rfl, hkept (by simp) hw, .inl trivial⟩
      | off | ended => simp [RunPc.Sounds, RunPc.Beeps] at hpc
    · cases place <;> rintro _ ⟨⟩ <;> exact ⟨by rintro ⟨⟩, by rintro _ ⟨⟩⟩
  | setDuty => exact h.setDuty hi hother (hkept (by simp))
  | updateDuty => exact h.updateDuty hi hother (hkept (by simp))

end

/-! ### Runs -/

/-- The numbers from `nextRun` on are free. -/
def Fresh (b : Beeper) : Prop := ∀ i, b.nextRun ≤ i → b.runs i = none

section

variable {b b' : Beeper} {W W' : ℕ → Prop} {c : BeeperCall} {durationMs : UInt32} {u : Unit}

/-- All that a step can do. -/
inductive Moves (b : Beeper) : BeeperCall → Beeper → Prop
  | run (durationMs : UInt32) :
      Moves b (.run durationMs)
        { b with
          runs := Function.update b.runs b.nextRun (some { durationMs := durationMs })
          nextRun := b.nextRun + 1 }
  | setBuzzerEnabled (enabled : Bool) :
      Moves b (.setBuzzerEnabled enabled) { b with buzzerEnabled := enabled }
  | advance {i : ℕ} {t : WarningRun} (hi : b.runs i = some t) :
      Moves b (.advance i)
        { (b.advance t).1 with runs := Function.update b.runs i (b.advance t).2 }

theorem step_moves (h : beeper.step b c = some (b', u)) : Moves b c b' := by
  obtain ⟨b₁, hst, he⟩ := Option.map_eq_some_iff.1 h
  obtain rfl := (Prod.mk.inj he).1
  cases c with
  | run durationMs =>
    obtain rfl := Option.some.inj hst
    exact .run durationMs
  | setBuzzerEnabled enabled =>
    obtain rfl := Option.some.inj hst
    exact .setBuzzerEnabled enabled
  | advance i =>
    obtain ⟨t, hi, rfl⟩ := Option.map_eq_some_iff.1 hst
    exact .advance hi

theorem advance_frame (b : Beeper) (t : WarningRun) :
    (b.advance t).1.buzzerEnabled = b.buzzerEnabled ∧ (b.advance t).1.nextRun = b.nextRun := by
  obtain ⟨_, _, pc⟩ := t
  cases pc <;> exact ⟨rfl, rfl⟩

theorem Fresh.moves (h : b.Fresh) (hmoves : Moves b c b') : b'.Fresh := by
  cases hmoves with
  | run =>
    intro j hj
    have hj' : b.nextRun + 1 ≤ j := hj
    show Function.update b.runs b.nextRun _ j = none
    rw [Function.update_of_ne (by omega)]
    exact h j (by omega)
  | setBuzzerEnabled => exact h
  | @advance i t hi =>
    intro j hj
    have hj' : b.nextRun ≤ j := (advance_frame b t).2 ▸ hj
    have hne : j ≠ i := by
      rintro rfl
      rw [h j hj'] at hi
      cases hi
    show Function.update b.runs i _ j = none
    rw [Function.update_of_ne hne]
    exact h j hj'

theorem Some.spawn {P P' : ℕ → RunPc → Prop} (h : b.Some P) (hfresh : b.Fresh)
    (hP : ∀ j pc, P j pc → P' j pc) {new : WarningRun}
    (hruns : b'.runs = Function.update b.runs b.nextRun (some new)) : b'.Some P' := by
  obtain ⟨j, t, ht, hj⟩ := h
  have hne : j ≠ b.nextRun := by
    rintro rfl
    rw [hfresh _ le_rfl] at ht
    cases ht
  exact ⟨j, t, by rw [hruns, Function.update_of_ne hne, ht], hP j _ hj⟩

theorem LedShown.moves (h : b.LedShown) (hfresh : b.Fresh) (hmoves : Moves b c b') :
    b'.LedShown := by
  cases hmoves with
  | run => exact fun hlit => (h hlit).spawn hfresh (fun _ _ => id) rfl
  | setBuzzerEnabled => exact h
  | advance hi => exact h.advance hi

theorem Sounding.moves (h : b.Sounding W) (hfresh : b.Fresh) (hmoves : Moves b c b')
    (hother : ∀ j, c ≠ .advance j → W j → W' j)
    (hkept : ∀ i t, c = .advance i → b.runs i = some t → t.pc ≠ .setLevel .off → W i → W' i)
    (hread : b.buzzerEnabled = true → ∀ i, W' i) : b'.Sounding W' := by
  have hall : (∀ j, W j → W' j) → b.Sounding W' := fun hw =>
    ⟨fun hd => (h.dutySet hd).imp fun j ⟨t, ht, hj⟩ => ⟨t, ht, hj.imp_left (hw j)⟩,
      fun hd => (h.duty hd).imp fun j ⟨t, ht, hj⟩ => ⟨t, ht, hj.imp_left (hw j)⟩,
      fun j t ht hr => hw j (h.rings j t ht hr), h.place⟩
  cases hmoves with
  | run =>
    have hnew := hall fun j => hother j (by simp)
    refine ⟨fun hd => (hnew.dutySet hd).spawn hfresh (fun _ _ => id) rfl,
      fun hd => (hnew.duty hd).spawn hfresh (fun _ _ => id) rfl,
      hnew.rings.update rfl (fun _ _ _ => id) ?_, hnew.place.update rfl (fun _ _ _ => id) ?_⟩
    · rintro _ ⟨⟩ ⟨⟩
    · rintro _ ⟨⟩ _ ⟨⟩
  | setBuzzerEnabled =>
    have hnew := hall fun j => hother j (by simp)
    exact ⟨hnew.dutySet, hnew.duty, hnew.rings, hnew.place⟩
  | @advance i t hi =>
    exact h.advance hi (fun j hj => hother j fun he => hj (BeeperCall.advance.inj he).symm)
      (hkept i t rfl hi) (fun hon => hread hon i)

end

end Beeper

/-- The step ends a beep of task `i`: it switches the LED off. -/
def BeepEnds (i : ℕ) (e : BeeperStep) : Prop :=
  e.label.1 = .advance i ∧ (e.src.runs i).map WarningRun.pc = some (.setLevel .off)

instance (i : ℕ) : DecidablePred (BeepEnds i) := fun e =>
  inferInstanceAs (Decidable (e.label.1 = .advance i ∧
    (e.src.runs i).map WarningRun.pc = some (.setLevel .off)))

section

open Beeper

variable {b b' : Beeper} {es es' : List BeeperStep}

theorem pins_of_trace (hrun : beeper.toLTS.Trace {} es b) :
    b.Fresh ∧ b.LedShown ∧ b.Sounding fun _ => True := by
  have hstart : ({} : Beeper).Fresh ∧ ({} : Beeper).LedShown ∧
      ({} : Beeper).Sounding fun _ => True := by
    refine ⟨fun _ _ => rfl, ?_, fun h => absurd rfl h, fun h => absurd rfl h, ?_, ?_⟩
    · rintro ⟨⟩
    · rintro _ _ ⟨⟩
    · rintro _ _ ⟨⟩
  refine hrun.invariant (I := fun b => b.Fresh ∧ b.LedShown ∧ b.Sounding fun _ => True) hstart ?_
  rintro e _ hst ⟨hfresh, hled, hsounding⟩
  have hmoves := Beeper.step_moves hst
  exact ⟨hfresh.moves hmoves, hled.moves hfresh hmoves, hsounding.moves hfresh hmoves
    (fun _ _ => id) (fun _ _ _ _ _ => id) fun _ _ => trivial⟩

/-- Once the buzzer is off only the beeps that had begun can still be heard, until they end. -/
theorem sounding_of_muted (hfresh : b.Fresh) (hsounding : b.Sounding fun _ => True)
    (hrun : beeper.toLTS.Trace b es b') (hoff : b.buzzerEnabled = false)
    (hmuted : ∀ e ∈ es, e.label.1 ≠ .setBuzzerEnabled true) :
    b'.Sounding fun i => (∃ t, b.runs i = some t ∧ (t.pc.Sounds ∨ t.pc.Rings)) ∧
      ∀ e ∈ es, ¬ BeepEnds i e := by
  have hstart : b.Sounding fun i => (∃ t, b.runs i = some t ∧ (t.pc.Sounds ∨ t.pc.Rings)) ∧
      ∀ e ∈ ([] : List BeeperStep), ¬ BeepEnds i e := by
    refine ⟨fun hd => ?_, fun hd => ?_, fun i t ht hr => ?_, hsounding.place⟩
    · obtain ⟨i, t, ht, -, hpc⟩ := hsounding.dutySet hd
      exact ⟨i, t, ht, ⟨⟨t, ht, .inl (.inl hpc)⟩, by simp⟩, hpc⟩
    · obtain ⟨i, t, ht, -, hpc⟩ := hsounding.duty hd
      exact ⟨i, t, ht, ⟨⟨t, ht, .inl hpc⟩, by simp⟩, hpc⟩
    · exact ⟨⟨t, ht, .inr hr⟩, by simp⟩
  refine (hrun.history (I := fun es b' => b'.buzzerEnabled = false ∧ b'.Fresh ∧
    b'.Sounding fun i => (∃ t, b.runs i = some t ∧ (t.pc.Sounds ∨ t.pc.Rings)) ∧
      ∀ e ∈ es, ¬ BeepEnds i e) ⟨hoff, hfresh, hstart⟩ ?_).2.2
  rintro pre e hpre hst ⟨hoff, hfresh, hsounding⟩
  have hmoves := Beeper.step_moves hst
  have hcall : e.label.1 ≠ .setBuzzerEnabled true := hmuted e (hpre.subset (by simp))
  refine ⟨?_, hfresh.moves hmoves, hsounding.moves hfresh hmoves ?_ ?_ ?_⟩
  · generalize e.label.1 = c, e.dst = b' at hmoves hcall
    cases hmoves with
    | run => exact hoff
    | setBuzzerEnabled enabled => simpa using hcall
    | @advance _ t => exact (advance_frame e.src t).1.trans hoff
  · rintro j hne ⟨hold, hpast⟩
    refine ⟨hold, fun x hx => ?_⟩
    rcases List.mem_append.1 hx with hx | hx
    · exact hpast x hx
    · obtain rfl := List.mem_singleton.1 hx
      exact fun hends => hne hends.1
  · rintro i t hc hi hpc ⟨hold, hpast⟩
    refine ⟨hold, fun x hx => ?_⟩
    rcases List.mem_append.1 hx with hx | hx
    · exact hpast x hx
    · obtain rfl := List.mem_singleton.1 hx
      rintro ⟨-, hends⟩
      rw [hi] at hends
      exact hpc (Option.some.inj hends)
  · simp [hoff]

/-- **The pins belong to the warnings.**  In every interleaving of warnings, down to single calls of
the pin drivers, the LED is lit only for a task that has lit it and not yet put it out, the buzzer
sounds only for a task in its beep, and both are off when no warning runs.  After the buzzer has
been turned off, and until it is turned on again, it is silent once every beep that had begun has
ended, whatever warnings start meanwhile. -/
theorem pins_follow_warnings (hrun : beeper.toLTS.Trace {} es b) :
    (b.level = true → b.Some fun _ pc => pc.Lit) ∧
    (b.duty ≠ buzzerDutyOff → b.Some fun _ pc => pc.Sounds) ∧
    ((∀ i, b.runs i = none) → b.level = false ∧ b.duty = buzzerDutyOff) ∧
    ∀ es' b', beeper.toLTS.Trace b es' b' → b.buzzerEnabled = false →
      (∀ e ∈ es', e.label.1 ≠ .setBuzzerEnabled true) →
      (∀ i t, b.runs i = some t → t.pc.Sounds ∨ t.pc.Rings → ∃ e ∈ es', BeepEnds i e) →
      b'.duty = buzzerDutyOff := by
  obtain ⟨hfresh, hled, hsounding⟩ := pins_of_trace hrun
  have hsound : b.duty ≠ buzzerDutyOff → b.Some fun _ pc => pc.Sounds := by
    intro hd
    obtain ⟨i, t, ht, -, hpc⟩ := hsounding.duty hd
    exact ⟨i, t, ht, hpc⟩
  refine ⟨hled, hsound, fun hnone => ⟨?_, ?_⟩, fun es' b' hrun' hoff hmuted hends => ?_⟩
  · by_contra hlit
    obtain ⟨i, t, ht, -⟩ := hled (by simpa using hlit)
    simp [hnone i] at ht
  · by_contra hd
    obtain ⟨i, t, ht, -⟩ := hsound hd
    simp [hnone i] at ht
  · by_contra hd
    obtain ⟨i, -, -, ⟨⟨t, ht, hpc⟩, hpast⟩, -⟩ :=
      (sounding_of_muted hfresh hsounding hrun' hoff hmuted).duty hd
    obtain ⟨e, he, hend⟩ := hends i t ht hpc
    exact hpast e he hend

/-- Two warnings: the first is in its beep when the buzzer is turned off, and the second has read
the variable before that. -/
def mutedRun : List BeeperCall :=
  [.run 1000, .advance 0, .advance 0, .advance 0, .advance 0, .advance 0, .run 500, .advance 1,
    .advance 1, .setBuzzerEnabled false]

/-- Both beeps end. -/
def mutedBeeps : List BeeperCall :=
  .run 500 :: List.replicate 9 (.advance 1) ++ List.replicate 5 (.advance 0)

theorem pins_follow_warnings_muted :
    (beeper.last {} mutedRun).duty = buzzerDutyOn ∧ (beeper.last {} mutedRun).level = true ∧
    (beeper.last (beeper.last {} mutedRun) mutedBeeps).duty = buzzerDutyOff := by
  refine ⟨rfl, rfl, (pins_follow_warnings (beeper.trace_edges {} mutedRun)).2.2.2 _ _
    (beeper.trace_edges _ mutedBeeps) rfl (by decide +kernel) ?_⟩
  rintro i t ht -
  have hfresh := (pins_of_trace (beeper.trace_edges {} mutedRun)).1
  obtain rfl | rfl | hge : i = 0 ∨ i = 1 ∨ 2 ≤ i := by omega
  · decide +kernel
  · decide +kernel
  · rw [hfresh i hge] at ht
    cases ht

end

/-! ### The number of beeps -/

/-- The step begins a beep of task `i`: it lights the LED. -/
def BeepBegins (i : ℕ) (e : BeeperStep) : Bool :=
  e.label.1 = .advance i ∧ (e.src.runs i).map WarningRun.pc = some (.setLevel .on)

namespace RunPc

/-- A task that has begun `n` beeps, of a warning of `d` ms, with `elapsed` ms counted so far: every
beep before the one that it is in has been counted, and began before the time was up. -/
def Counts (d n elapsed : ℕ) : RunPc → Prop
  | .test => elapsed = n * preCloseWarningCycleMs ∧ elapsed < d + preCloseWarningCycleMs
  | .readEnabled .on | .setDuty .on _ | .updateDuty .on | .setLevel .on =>
    elapsed = n * preCloseWarningCycleMs ∧ elapsed < d
  | .readEnabled .ended | .setDuty .ended _ | .updateDuty .ended | .setLevel .ended =>
    elapsed = n * preCloseWarningCycleMs ∧ d ≤ elapsed ∧ elapsed < d + preCloseWarningCycleMs
  | _ => elapsed + preCloseWarningCycleMs = n * preCloseWarningCycleMs ∧ elapsed < d

end RunPc

/-- The number of beeps of a warning. -/
def beepsOf (durationMs : UInt32) : ℕ :=
  (durationMs.toNat + preCloseWarningCycleMs - 1) / preCloseWarningCycleMs

/-- Task `i` has begun `n` beeps of its warning; if it has returned, all of them. -/
def Counted (durationMs : UInt32) (n : ℕ) : Option WarningRun → Prop
  | some t => t.durationMs = durationMs ∧ t.pc.Counts durationMs.toNat n t.elapsed.toNat
  | none => n = beepsOf durationMs

section

open Beeper

variable {b : Beeper} {es pre post : List BeeperStep} {e : BeeperStep} {durationMs : UInt32} {n : ℕ}

theorem beepsOf_eq {elapsed : ℕ} (hn : elapsed = n * preCloseWarningCycleMs)
    (hle : durationMs.toNat ≤ elapsed) (hlt : elapsed < durationMs.toNat + preCloseWarningCycleMs) :
    n = beepsOf durationMs := by
  unfold beepsOf
  simp only [preCloseWarningCycleMs] at *
  omega

/-- **One step of the task.** -/
theorem Counted.advance {t : WarningRun} (h : Counted durationMs n (some t))
    (hlong : durationMs.toNat + preCloseWarningCycleMs ≤ 2 ^ 32) :
    Counted durationMs (n + if t.pc = .setLevel .on then 1 else 0) (b.advance t).2 := by
  obtain ⟨d, elapsed, pc⟩ := t
  obtain ⟨rfl, hcount⟩ := h
  cases pc with
  | test =>
    refine ⟨rfl, ?_⟩
    simp only [reduceCtorEq, ite_false, Nat.add_zero]
    split_ifs with hmore
    · exact ⟨hcount.1, UInt32.lt_iff_toNat_lt.1 hmore⟩
    · exact ⟨hcount.1, not_lt.1 fun hlt => hmore (UInt32.lt_iff_toNat_lt.2 hlt), hcount.2⟩
  | readEnabled place | setDuty place on | updateDuty place =>
    refine ⟨rfl, ?_⟩
    cases place <;> exact hcount
  | setLevel place =>
    cases place with
    | on =>
      refine ⟨rfl, ?_, hcount.2⟩
      simp only [ite_true, Nat.add_mul, Nat.one_mul, hcount.1]
    | off => exact ⟨rfl, hcount⟩
    | ended => exact beepsOf_eq hcount.1 hcount.2.1 hcount.2.2
  | delayOn => exact ⟨rfl, hcount⟩
  | delayOff =>
    obtain ⟨hsum, hlt⟩ := hcount
    simp only at hsum hlt hlong
    have hcycle : (UInt32.ofNat preCloseWarningCycleMs).toNat = preCloseWarningCycleMs := rfl
    have hwrap : (elapsed + UInt32.ofNat preCloseWarningCycleMs).toNat =
        elapsed.toNat + preCloseWarningCycleMs := by
      rw [UInt32.toNat_add, hcycle]
      exact Nat.mod_eq_of_lt (by omega)
    refine ⟨rfl, ?_⟩
    show RunPc.Counts d.toNat n (elapsed + UInt32.ofNat preCloseWarningCycleMs).toNat .test
    rw [hwrap]
    exact ⟨hsum, by omega⟩

/-- **Every warning beeps to its end.**  Whatever else runs in between, a warning of at most
2^32 - 500 ms that has returned has beeped once for every 500 ms begun of its duration.  In such a
time `elapsed` does not wrap around. -/
theorem warning_beeps (hrun : beeper.toLTS.Trace {} (pre ++ e :: post) b)
    (hcall : e.label.1 = .run durationMs)
    (hlong : durationMs.toNat + preCloseWarningCycleMs ≤ 2 ^ 32)
    (hdone : b.runs e.src.nextRun = none) :
    post.countP (BeepBegins e.src.nextRun) = beepsOf durationMs := by
  obtain ⟨hpre, hst, hpost⟩ := LTS.Trace.at_edge_iff.1 hrun
  have hfresh := (pins_of_trace hpre).1
  have hstart : e.dst.runs e.src.nextRun = some { durationMs := durationMs } ∧
      e.src.nextRun < e.dst.nextRun := by
    have hmoves := Beeper.step_moves hst
    rw [hcall] at hmoves
    generalize e.dst = b' at hmoves ⊢
    cases hmoves with
    | run => exact ⟨Function.update_self .., Nat.lt_succ_self _⟩
  suffices hall : Counted durationMs (post.countP (BeepBegins e.src.nextRun))
      (b.runs e.src.nextRun) by
    rwa [hdone] at hall
  refine (hpost.history (I := fun post b => e.src.nextRun < b.nextRun ∧
    Counted durationMs (post.countP (BeepBegins e.src.nextRun)) (b.runs e.src.nextRun))
    ⟨hstart.2, ?_⟩ ?_).2
  · rw [hstart.1]
    exact ⟨rfl, by simp, Nat.add_pos_right _ (by decide)⟩
  rintro mid ⟨src, ⟨c, u⟩, dst⟩ - hst ⟨hnew, hi⟩
  have hmoves := Beeper.step_moves hst
  rw [List.countP_append, List.countP_singleton]
  simp only at hmoves hnew hi ⊢
  have hother : c ≠ .advance e.src.nextRun → BeepBegins e.src.nextRun ⟨src, (c, u), dst⟩ = false :=
    fun hne => decide_eq_false fun hbegins => hne hbegins.1
  cases hmoves with
  | run =>
    rw [hother (by simp)]
    refine ⟨hnew.trans (Nat.lt_succ_self _), ?_⟩
    show Counted durationMs _ (Function.update src.runs src.nextRun _ e.src.nextRun)
    rw [Function.update_of_ne hnew.ne]
    exact hi
  | setBuzzerEnabled =>
    rw [hother (by simp)]
    exact ⟨hnew, hi⟩
  | @advance j t hj =>
    refine ⟨(advance_frame src t).2.symm ▸ hnew, ?_⟩
    show Counted durationMs _ (Function.update src.runs j _ e.src.nextRun)
    by_cases hsame : e.src.nextRun = j
    · subst hsame
      have hbegins : ∀ dst, BeepBegins e.src.nextRun ⟨src, (.advance e.src.nextRun, u), dst⟩ =
          decide (t.pc = .setLevel .on) := by simp [BeepBegins, hj]
      rw [hj] at hi
      rw [Function.update_self, hbegins]
      simp only [decide_eq_true_eq]
      exact hi.advance hlong
    · rw [Function.update_of_ne hsame, hother (by simpa using Ne.symm hsame)]
      exact hi

/-- A warning of 501 ms and another one meanwhile. -/
def longRun : List BeeperCall :=
  [.advance 0, .run 1000] ++ List.replicate 6 (.advance 1) ++ List.replicate 26 (.advance 0) ++
    List.replicate 4 (.advance 1)

theorem warning_beeps_twice :
    (beeper.edges (beeper.last {} [.run 501]) longRun).countP (BeepBegins 0) = beepsOf 501 := by
  have hrun : beeper.toLTS.Trace {} ([] ++ ⟨{}, (.run 501, ()), beeper.last {} [.run 501]⟩ ::
      beeper.edges (beeper.last {} [.run 501]) longRun) _ :=
    beeper.trace_edges {} (.run 501 :: longRun)
  exact warning_beeps hrun rfl (by decide) (by decide +kernel)

end

end GdoBlaq
