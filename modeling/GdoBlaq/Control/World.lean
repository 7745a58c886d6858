import GdoBlaq.Control.Watchdog
import GdoBlaq.Lts.Machine

/-!
# The tasks together

The firmware as a machine.  A step is a piece of code that one task runs without blocking: a call
of the public functions, a driver callback, one beep of a warning, what a warning task does after
its warning, one stage of the watchdog, or a reboot.  Any step may come at any time that the
guards here allow, so every interleaving of the tasks is a run.

The watchdog's stages are separate steps, which allows more interleavings than a loop whose
stages always follow each other at once.

## Main results

* `World.step` : the machine, and `control` as a `Machine`.
* `World.perform_effect` : what each step can do to the variables that decide about closing, as
  one inductive statement with all the guards.
-/

namespace GdoBlaq

open Firmware

/-! ### States -/

/-- The close that a warning was started for. -/
inductive WarningKind where
  | user
  | auto
  | sched
  deriving DecidableEq, Repr

/-- A task asleep in a pre-close warning.  `generation` is the argument of a `user_close_task`;
for the automatic closes it and `commandId` are what the arming code put into the shared slots,
which is all their callbacks read. -/
structure Warning where
  kind : WarningKind
  startMs : ℤ
  generation : ℕ
  commandId : ℕ
  deriving DecidableEq, Repr

/-- Where `gdo_watchdog_task` is: before a stage, or asleep.  `now` is the loop's time. -/
inductive Phase where
  /-- `vTaskDelay(GDO_WATCHDOG_PERIOD_MS)` -/
  | delay
  | retry (now : ℤ)
  /-- `RETRY_SEND`, with the status read and the generation recorded before the warning and the
  `elapsed` of that warning. -/
  | resend (now : ℤ) (status : GdoStatus) (generation elapsed : ℕ)
  | autoClose (now : ℤ)
  | sched
  | reoffer
  deriving DecidableEq, Repr

/-- The firmware, the storage, and where every task is. -/
structure World where
  fw : Firmware := {}
  nvs : Nvs := {}
  /-- The warnings under way. -/
  tasks : ℕ → Option Warning := fun _ => none
  /-- `elapsed` of `pre_close_warning_run`, by task. -/
  elapsed : ℕ → ℕ := fun _ => 0
  /-- The number of warning tasks created so far. -/
  nextTask : ℕ := 0
  phase : Phase := .delay
  budget : RetryBudget := {}
  /-- `now_ms()` at the last step. -/
  clock : ℤ := 0

/-! ### Steps -/

/-- A step of some task, with all that it reads from outside. -/
inductive Call where
  /-- `gdo_control_open` -/
  | controlOpen (err : EspErr)
  /-- `gdo_control_close` -/
  | controlClose (status : Option GdoStatus) (start : TaskStart)
  /-- `gdo_event_handler` -/
  | event (status : GdoStatus) (event : GdoEvent) (rolling : EspErr)
  | setPreCloseBuzzer (enabled : Bool) (write : NvsWrite)
  | setAutoCloseTimeoutMs (timeoutMs : ℕ) (write : NvsWrite)
  | setAutoCloseEnabled (enabled : Bool) (write : NvsWrite)
  | setCloseSchedule (schedule : Option CloseSchedule) (write : NvsWrite) (applied restored : Bool)
  /-- One turn of the loop of `pre_close_warning_run` in a warning task. -/
  | warningCycle (tid : ℕ)
  /-- `user_close_task` after its warning. -/
  | userCloseTask (tid : ℕ) (status : Option GdoStatus) (err : EspErr) (again : Option GdoStatus)
  /-- `auto_close_warning_complete_cb` -/
  | autoCloseComplete (tid : ℕ) (status : Option GdoStatus) (err : EspErr)
  /-- `sched_close_warning_complete_cb` -/
  | schedCloseComplete (tid : ℕ) (status : Option GdoStatus) (err : EspErr)
  /-- The watchdog wakes, reads the time and makes the transition check. -/
  | watchdogTransition (status recovery : Option GdoStatus)
  | watchdogRetry (status : Option GdoStatus)
  /-- One turn of the loop of `pre_close_warning_run` in the watchdog. -/
  | watchdogWarningCycle
  | watchdogResend (recheck request : Option GdoStatus) (err : EspErr)
  | watchdogAutoClose (current : Option GdoStatus) (start : TaskStart)
  /-- `sched_close_check` -/
  | watchdogSched (clock : Option Tm) (current : Option GdoStatus) (reserve : NvsWrite)
      (start : TaskStart) (rollback : NvsWrite)
  /-- `resend_last_states_to_homekit` -/
  | watchdogReoffer
  | reboot (reads : NvsReads) (setenvOk : Bool)
  deriving DecidableEq

/-- The call is a reboot, which starts the clock again. -/
def Call.isReboot : Call → Bool
  | .reboot _ _ => true
  | _ => false

/-- A step at a time of the monotonic clock. -/
structure Action where
  t : ℤ
  call : Call
  deriving DecidableEq

/-- What a step answers to its caller and does to the outside. -/
structure Reply where
  err : EspErr := .ok
  out : List Out := []
  deriving DecidableEq, Repr

instance : Inhabited Reply := ⟨{}⟩

namespace World

/-- The firmware right after `app_main`, over a storage. -/
def boot (n : Nvs) (r : NvsReads) (setenvOk : Bool) (t : ℤ) : World :=
  { fw := GdoBlaq.boot n r setenvOk, nvs := n, clock := t }

/-- Record a new warning task. -/
def spawn (w : World) (kind : WarningKind) (generation commandId : ℕ) : World :=
  { w with
    tasks := Function.update w.tasks w.nextTask (some ⟨kind, w.clock, generation, commandId⟩)
    elapsed := Function.update w.elapsed w.nextTask 0
    nextTask := w.nextTask + 1 }

/-- The warning task `tid` ends. -/
def finish (w : World) (tid : ℕ) : World := { w with tasks := Function.update w.tasks tid none }

/-- A setter's result, as a step. -/
def settings (w : World) (r : Firmware × Nvs × EspErr) : World × Reply :=
  ({ w with fw := r.1, nvs := r.2.1 }, { err := r.2.2 })

/-- The warning of task `tid`, if it is over: its loop has run out, which takes time. -/
def warningOver (w : World) (tid : ℕ) (kind : WarningKind) : Option Warning :=
  match w.tasks tid with
  | some v =>
    if v.kind = kind ∧ preCloseWarningDurationMs ≤ w.elapsed tid ∧ v.startMs < w.clock then some v
    else none
  | none => none

/-- What a call does at the time `w.clock`; `none` where the task concerned is not there. -/
def perform (w : World) : Call → Option (World × Reply)
  | .controlOpen err =>
    let (fw, err, out) := gdoControlOpen w.fw err
    some ({ w with fw := fw }, ⟨err, out⟩)
  | .controlClose status start =>
    let (fw, err, task) := gdoControlClose w.fw status start
    let w := { w with fw := fw }
    match task with
    | some generation => some (w.spawn .user generation fw.doorCommandId, { err := err })
    | none => some (w, { err := err })
  | .event status event rolling =>
    let (fw, out) := gdoEventHandler w.fw w.clock status event rolling
    some ({ w with fw := fw }, { out := out })
  | .setPreCloseBuzzer enabled write =>
    some (w.settings (gdoSetPreCloseBuzzer w.fw w.nvs enabled write))
  | .setAutoCloseTimeoutMs timeoutMs write =>
    some (w.settings (gdoSetAutoCloseTimeoutMs w.fw w.nvs timeoutMs write))
  | .setAutoCloseEnabled enabled write =>
    some (w.settings (gdoSetAutoCloseEnabled w.fw w.nvs enabled write))
  | .setCloseSchedule schedule write applied restored =>
    some (w.settings (gdoSetCloseSchedule w.fw w.nvs schedule write applied restored))
  | .warningCycle tid =>
    if (w.tasks tid).isSome ∧ w.elapsed tid < preCloseWarningDurationMs then
      some ({ w with
        elapsed := Function.update w.elapsed tid (w.elapsed tid + preCloseWarningCycleMs) }, {})
    else none
  | .userCloseTask tid status err again =>
    match w.warningOver tid .user with
    | some v =>
      let (fw, out) := userCloseTask w.fw v.generation status err again
      some ({ w with fw := fw }.finish tid, { out := out })
    | none => none
  | .autoCloseComplete tid status err =>
    match w.warningOver tid .auto with
    | some _ =>
      let (fw, out) := autoCloseWarningCompleteCb w.fw w.clock status err
      some ({ w with fw := fw }.finish tid, { out := out })
    | none => none
  | .schedCloseComplete tid status err =>
    match w.warningOver tid .sched with
    | some _ =>
      let (fw, out) := schedCloseWarningCompleteCb w.fw status err
      some ({ w with fw := fw }.finish tid, { out := out })
    | none => none
  | .watchdogTransition status recovery =>
    if w.phase = .delay then
      let (fw, out) := watchdogTransition w.fw w.clock w.clock status recovery
      some ({ w with fw := fw, phase := .retry w.clock }, { out := out })
    else none
  | .watchdogRetry status =>
    match w.phase with
    | .retry now =>
      match status with
      | none => some ({ w with phase := .autoClose now }, {})
      | some status =>
        let (budget, action) := retryDecision w.fw w.budget now status
        let w := { w with budget := budget }
        match action with
        | .wait => some ({ w with phase := .autoClose now }, {})
        | .send => some ({ w with phase := .resend now status w.fw.closeGeneration 0 }, {})
        | .revert =>
          let (fw, out) := retryRevert w.fw w.clock status
          some ({ w with fw := fw, phase := .autoClose now }, { out := out })
    | _ => none
  | .watchdogWarningCycle =>
    match w.phase with
    | .resend now status generation elapsed =>
      if status.doorTarget = 10000 ∧ elapsed < preCloseWarningDurationMs then
        some ({ w with
          phase := .resend now status generation (elapsed + preCloseWarningCycleMs) }, {})
      else none
    | _ => none
  | .watchdogResend recheck request err =>
    match w.phase with
    | .resend now status generation elapsed =>
      -- only a Close is warned about
      if status.doorTarget = 10000 ∧ elapsed < preCloseWarningDurationMs then none
      else
        some ({ w with phase := .autoClose now },
          { out := watchdogResend w.fw generation status recheck request err })
    | _ => none
  | .watchdogAutoClose current start =>
    match w.phase with
    | .autoClose now =>
      let (fw, stage) := watchdogAutoClose w.fw now w.clock current start
      let w := { w with fw := fw, phase := if stage = .skip then .delay else .sched }
      some (if stage = .armed then
          w.spawn .auto fw.autoCloseGeneration fw.autoCloseCommandId else w,
        {})
    | _ => none
  | .watchdogSched clock current reserve start rollback =>
    if w.phase = .sched then
      let (fw, nvs, armed) :=
        schedCloseCheck w.fw w.nvs w.clock clock current reserve start rollback
      let w := { w with fw := fw, nvs := nvs, phase := .reoffer }
      some (if armed then w.spawn .sched fw.schedCloseGeneration fw.schedCloseCommandId else w, {})
    else none
  | .watchdogReoffer =>
    if w.phase = .reoffer then
      some ({ w with phase := .delay }, { out := resendLastStatesToHomekit w.fw })
    else none
  | .reboot reads setenvOk =>
    -- task numbers are the model's own, and never used twice
    some ({ World.boot w.nvs reads setenvOk w.clock with nextTask := w.nextTask }, {})

/-- The same state at the time `t`. -/
def tick (w : World) (t : ℤ) : World := { w with clock := t }

/-- A step: time does not go back, except over a reboot. -/
def step (w : World) (a : Action) : Option (World × Reply) :=
  if w.clock ≤ a.t ∨ a.call.isReboot then (w.tick a.t).perform a.call else none

theorem perform_of_step {w w' : World} {a : Action} {r : Reply} (h : w.step a = some (w', r)) :
    (w.tick a.t).perform a.call = some (w', r) := by
  unfold step at h
  split_ifs at h
  exact h

theorem eq_of_step {w w' w₁ : World} {a : Action} {r r₁ : Reply} {c : Call}
    (h : w.step a = some (w', r)) (hcall : a.call = c)
    (hdone : (w.tick a.t).perform c = some (w₁, r₁)) : w' = w₁ ∧ r = r₁ := by
  subst hcall
  exact Prod.mk.inj (Option.some.inj ((perform_of_step h).symm.trans hdone))

theorem step_reboot (w : World) (t : ℤ) (reads : NvsReads) (setenvOk : Bool) :
    w.step ⟨t, .reboot reads setenvOk⟩ =
      some ({ World.boot w.nvs reads setenvOk t with nextTask := w.nextTask }, {}) := by
  simp [step, Call.isReboot, perform, tick]

end World

/-- The firmware as a machine. -/
def control : Machine World Action Reply := ⟨World.step⟩

/-- A step of a run, with the worlds around it. -/
abbrev Step := LTS.Edge World (Action × Reply)

/-- The steps of a watchdog iteration that finds the same status at every read, before the wall
clock is set. -/
def watchdogTick (t : ℤ) (status : GdoStatus) : List Action :=
  [⟨t, .watchdogTransition (some status) (some status)⟩, ⟨t, .watchdogRetry (some status)⟩,
    ⟨t, .watchdogAutoClose (some status) {}⟩, ⟨t, .watchdogSched none (some status) {} {} {}⟩,
    ⟨t, .watchdogReoffer⟩]

end GdoBlaq
