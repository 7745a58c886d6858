import GdoBlaq.Control.Cancellation
import GdoBlaq.Control.Progress

/-!
# Every close is warned

Which closes come after a complete warning of their own, with the generation standing still since
the warning was started, on a status that says synced and Clear.

The delayed closes do, as long as the generation does not come round and an auto-close callback
still finds its own slot.  A repeated close does only if the status that `retry_door_request`
reads for itself still is the one that was warned about: the retry stage decides whether to warn,
and whether the obstruction is Clear, on two earlier reads.

## Main results

* `complete_warning` : a warning task that is over has beeped its ten times.
* `close_is_warned_iff` : the closes that are warned, in every run.
* `unwarned_close` : an Open that is being repeated is transmitted as a Close.
-/

namespace GdoBlaq

open Firmware

/-- One beep of the warning that a transmitting step waits for. -/
def Call.beep : Call → Call
  | .userCloseTask tid _ _ _ => .warningCycle tid
  | .autoCloseComplete tid _ _ => .warningCycle tid
  | .schedCloseComplete tid _ _ => .warningCycle tid
  | _ => .watchdogWarningCycle

/-- The step `arm` started the warning for the close that the call `c` makes in `w`: it created the
warning task, or it is the retry stage's decision to repeat a Close. -/
def StartedFor (arm : Step) (w : World) (c : Call) : Prop :=
  match c.completes with
  | some (kind, tid) => Arms arm kind tid
  | none => ∃ now status elapsed, status.doorTarget = 10000 ∧
      arm.label.1.call = .watchdogRetry (some status) ∧
      arm.dst.phase = .resend now status arm.dst.fw.closeGeneration 0 ∧
      w.phase = .resend now status arm.dst.fw.closeGeneration elapsed

/-- After the steps `es`, which led to `w`, the close that `c` makes is a warned one: some step
started the warning for it, all beeps came, and the generation has not moved since. -/
def Warned (es : List Step) (w : World) (c : Call) : Prop :=
  ∃ before arm mid, es = before ++ arm :: mid ∧ StartedFor arm w c ∧
    mid.countP (fun e => e.label.1.call = c.beep) * preCloseWarningCycleMs =
      preCloseWarningDurationMs ∧
    (∀ e ∈ mid, e.dst.fw.closeGeneration = e.src.fw.closeGeneration) ∧
    arm.dst.fw.closeGeneration = w.fw.closeGeneration

/-- The generation that the code behind the call recorded has not come round. -/
def generationKept (w : World) (c : Call) : Bool :=
  match c.completes, w.phase with
  | some (_, tid), _ => ∀ v ∈ w.tasks tid, w.fw.closeGeneration < v.generation + 2 ^ 32
  | none, .resend _ _ generation _ => w.fw.closeGeneration < generation + 2 ^ 32
  | none, _ => true

/-- An auto-close callback still finds in the shared slot what its own warning put there. -/
def slotKept (w : World) : Call → Bool
  | .autoCloseComplete tid _ _ => ∀ v ∈ w.tasks tid, v.generation = w.fw.autoCloseGeneration
  | _ => true

/-- If the recheck passes and the status that `retry_door_request` then reads makes it repeat a
Close, the retry stage had read a Close as well, and this last status says Clear. -/
def retryKept (w : World) (c : Call) : Bool :=
  match w.phase, c with
  | .resend _ status generation _, .watchdogResend recheck (some request) _ =>
    retryStands w.fw generation status recheck = true ∧ request.synced = true ∧
      request.toggleOnly = false ∧ request.doorTarget = 10000 →
      status.doorTarget = 10000 ∧ request.obstruction = .clear
  | _, _ => true

/-- The conditions under which a step makes only warned closes. -/
structure WarningKept (w : World) (c : Call) : Prop where
  generation : generationKept w c = true
  slot : slotKept w c = true
  retry : retryKept w c = true

section Beeps

variable {w w' m : World} {a : Action} {r : Reply} {mid : List Step} {tid : ℕ} {v : Warning}

/-- **A warning that is over is complete.**  Between the step that started it and its end a warning
task made all its beeps. -/
theorem complete_warning (hrun : control.toLTS.Trace m mid w) (hbook : Bookkeeping m)
    (hasleep : ∀ e ∈ mid, e.src.tasks tid = some v ∧ e.dst.tasks tid = some v)
    (hstart : m.elapsed tid = 0) (hover : preCloseWarningDurationMs ≤ w.elapsed tid) :
    mid.countP (fun e => e.label.1.call = .warningCycle tid) * preCloseWarningCycleMs =
      preCloseWarningDurationMs := by
  have hstep : ∀ e ∈ mid, e.dst.elapsed tid = e.src.elapsed tid +
        (if e.label.1.call = .warningCycle tid then preCloseWarningCycleMs else 0) ∧
      (e.label.1.call = .warningCycle tid → e.src.elapsed tid < preCloseWarningDurationMs) := by
    intro e he
    have hst : e.src.step e.label.1 = some (e.dst, e.label.2) := hrun.step_of_mem he
    obtain ⟨hv, hv'⟩ := hasleep e he
    obtain ⟨-, heff⟩ := World.step_effect hst (not_isReboot_of_asleep hst hv')
    have hsrc := (hrun.invariant_mem hbook (fun _ _ hst hb => hb.step hst) he).1
    exact heff.elapsed hsrc.fresh hv hv'
  exact hrun.count_of_loop (f := fun w => w.elapsed tid) (fun e he => by simpa using (hstep e he).1)
    (fun e he hbeep => (hstep e he).2 (by simpa using hbeep)) (by decide) (by decide) hstart hover

/-- The progress of the warning that the watchdog runs before it repeats a Close. -/
def Phase.elapsed : Phase → ℕ
  | .resend _ _ _ elapsed => elapsed
  | _ => 0

/-- The watchdog is in its retry stage, between deciding and repeating. -/
def Repeating (w : World) (now : ℤ) (status : GdoStatus) (generation : ℕ) : Prop :=
  ∃ elapsed, w.phase = .resend now status generation elapsed

variable {now : ℤ} {status : GdoStatus} {generation : ℕ}

theorem repeating_step (h : w.step a = some (w', r)) (hw : Repeating w now status generation)
    (hw' : Repeating w' now status generation) :
    w'.phase.elapsed =
        w.phase.elapsed + (if a.call = .watchdogWarningCycle then preCloseWarningCycleMs else 0) ∧
      (a.call = .watchdogWarningCycle → w.phase.elapsed < preCloseWarningDurationMs) ∧
      a.call.isReboot = false := by
  obtain ⟨el, hphase⟩ := hw
  obtain ⟨el', hphase'⟩ := hw'
  have hmove := World.step_watchdog h
  generalize a.call = c, w'.phase = p, w'.budget = b, r.out = out at hmove hphase'
  cases hmove with
  | other hc hboot =>
    refine ⟨?_, ?_, hboot⟩
    · have hne : c ≠ .watchdogWarningCycle := by rintro rfl; simp [Call.isWatchdog] at hc
      simp [hne, World.tick]
    · rintro rfl; simp [Call.isWatchdog] at hc
  | beeped hresend _ hmore =>
    simp only [World.tick] at hresend
    simp [hresend, Phase.elapsed, hmore, Call.isReboot]
  | sending hretry => simp [World.tick, hphase] at hretry
  | autoDone _ hp => rcases hp with rfl | rfl <;> simp at hphase'
  | _ => simp at hphase'

theorem repeating_entered (h : w.step a = some (w', r)) (hw : ¬ Repeating w now status generation)
    (hw' : Repeating w' now status generation) :
    a.call = .watchdogRetry (some status) ∧ w'.phase = .resend now status generation 0 ∧
      generation = w'.fw.closeGeneration := by
  obtain ⟨el', hphase'⟩ := hw'
  have hmove := World.step_watchdog h
  have heff := (World.step_cases h).resolve_right fun ⟨_, _, _, _, hboot⟩ => by
    simp [hboot, World.boot] at hphase'
  obtain ⟨-, -, heff⟩ := heff
  rcases hcall : a with ⟨t, c⟩
  rw [hcall] at hmove heff
  generalize hp : w'.phase = p at hmove hphase'
  generalize w'.budget = b, hout : r.out = out at hmove
  cases hmove with
  | other =>
    exact absurd ⟨el', hphase'⟩ hw
  | beeped hresend =>
    obtain ⟨rfl, rfl, rfl, -⟩ := Phase.resend.inj hphase'
    exact absurd ⟨_, hresend⟩ hw
  | sending =>
    obtain ⟨rfl, rfl, rfl, rfl⟩ := Phase.resend.inj hphase'
    refine ⟨rfl, rfl, ?_⟩
    cases heff with
    | idle | restarted => rfl
    | news hc | set hc | setFailed hc => simp [Call.isNews, Call.isSetter] at hc
  | autoDone _ hp => rcases hp with rfl | rfl <;> simp at hphase'
  | _ => simp at hphase'

end Beeps

/-! ### Transmissions -/

section Transmissions

variable {w₀ w w' : World} {es : List Step} {a : Action} {r : Reply}

theorem Effect.not_request_close {c : Call} (h : Effect w c w' r) (hc : c.completes = none) :
    ∀ o ∈ r.out, o.IsRequest → ¬ o.Transmits .doorClose := by
  intro o ho hreq htrans
  cases h with
  | idle _ _ hout | restarted _ _ _ _ hout => exact hout o ho hreq
  | news _ _ _ hout => exact hout o ho _ htrans
  | opened err =>
    obtain rfl := List.mem_singleton.1 ho
    simp [Out.Transmits] at htrans
  | userSent | userDropped | autoSent | autoRefused | schedSent => simp [Call.completes] at hc
  | _ => simp at ho

theorem Out.isRequest_or_isRetry {o : Out} {cmd : DoorCommand} (h : o.Transmits cmd) :
    o.IsRequest ∨ o.IsRetry := by
  cases o with
  | request => exact .inl trivial
  | retry => exact .inr trivial
  | _ => exact h.elim

/-- **A close that no warning task sends is repeated by the retry stage**, after its recheck and on
a status that it reads last of all. -/
theorem repeated_close (h : w.step a = some (w', r)) (hc : a.call.completes = none)
    (hsent : ∃ o ∈ r.out, o.Transmits .doorClose) :
    ∃ now status generation elapsed recheck request err,
      a.call = .watchdogResend recheck (some request) err ∧
      w.phase = .resend now status generation elapsed ∧
      (status.doorTarget = 10000 → preCloseWarningDurationMs ≤ elapsed) ∧
      retryStands w.fw generation status recheck = true ∧ request.synced = true ∧
      request.toggleOnly = false ∧ request.doorTarget = 10000 := by
  obtain ⟨o, ho, htrans⟩ := hsent
  have hretry : o.IsRetry := by
    rcases World.step_cases h with ⟨-, -, heff⟩ | ⟨_, _, -, rfl, -⟩
    · exact (Out.isRequest_or_isRetry htrans).resolve_left
        fun hreq => heff.not_request_close hc o ho hreq htrans
    · simp at ho
  obtain ⟨now, status, generation, elapsed, recheck, request, err, cmd, hcall, hphase, hover,
    hstands, -, hsync, htog, hcmd, hout⟩ := World.step_retry h ho hretry
  rw [hout, List.mem_singleton] at ho
  subst ho
  obtain rfl : cmd = .doorClose := htrans
  exact ⟨now, status, generation, elapsed, recheck, request, err, hcall, hphase, hover, hstands,
    hsync, htog, commandOfTarget_eq_some.1 hcmd⟩

/-- The warned closes of the warning tasks. -/
theorem completed_close_warned {kind : WarningKind} {tid : ℕ} (hrun : control.toLTS.Trace w₀ es w)
    (hboot : Bookkeeping w₀) (hboot' : SchedSlot w₀) (h₀ : w₀.tasks tid = none)
    (hstep : w.step a = some (w', r)) (hkind : a.call.completes = some (kind, tid))
    (hsent : ∃ o ∈ r.out, o.Transmits .doorClose) (hgen : generationKept w a.call = true)
    (hslot : slotKept w a.call = true) :
    Warned es w a.call ∧ clearToClose a.call.decidesOn = true := by
  have hreboot : a.call.isReboot = false := Call.not_isReboot_of_completes hkind
  obtain ⟨-, heff⟩ := World.step_effect hstep hreboot
  obtain ⟨v, hover, hclear, hread, -⟩ := heff.completes_sends hkind hsent
  obtain ⟨hv, rfl, hdone, -⟩ := warningOver_eq_some hover
  have hv : w.tasks tid = some v := hv
  have hsched := hboot'.trace hrun
  have hcompared : v.compared (w.tick a.t) = v.generation := by
    cases hc : a.call <;> simp only [hc, Call.completes, reduceCtorEq, Option.some.injEq,
      Prod.mk.injEq] at hkind
    · simp [Warning.compared, ← hkind.1]
    · obtain ⟨hk, rfl⟩ := hkind
      simp only [slotKept, hc, decide_eq_true_eq] at hslot
      simp [Warning.compared, ← hk, hslot v hv, World.tick]
    · obtain ⟨hk, rfl⟩ := hkind
      simp [Warning.compared, ← hk, hsched.generation _ v hv hk.symm, World.tick]
  have hwrap : w.fw.closeGeneration < v.generation + 2 ^ 32 := by
    simp only [generationKept, hkind, decide_eq_true_eq] at hgen
    exact hgen v hv
  rw [hcompared] at hread
  obtain ⟨before, arm, mid, rfl, hold, hnew, hasleep⟩ := warning_armed hrun h₀ hv
  obtain ⟨hbefore, hst, hmid⟩ := LTS.Trace.at_edge_iff.1 hrun
  have hbook := hboot.trace hbefore
  obtain ⟨harms, -, harmgen, -, hstart⟩ := arms_of_step hst hbook hold hnew
  have hconst := generation_const_of_asleep hmid hasleep harmgen hread hwrap
  have hbeeps := complete_warning hmid (hbook.step hst) hasleep hstart hdone
  refine ⟨⟨before, arm, mid, rfl, ?_, ?_, hconst, ?_⟩, hclear⟩
  · simpa [StartedFor, hkind] using harms
  · have hbeep : a.call.beep = .warningCycle tid := by
      cases hc : a.call <;> simp_all [Call.completes, Call.beep]
    rw [hbeep]
    exact hbeeps
  · rw [← harmgen]
    exact Stamp.eq_of_reads_eq ((hboot.trace hrun).generation tid v hv) hwrap hread

/-- The warned closes of the retry stage. -/
theorem repeated_close_warned (hrun : control.toLTS.Trace w₀ es w) (h₀ : w₀.phase = .delay)
    (hstep : w.step a = some (w', r)) (hc : a.call.completes = none)
    (hsent : ∃ o ∈ r.out, o.Transmits .doorClose) (hgen : generationKept w a.call = true)
    (hretry : retryKept w a.call = true) :
    Warned es w a.call ∧ clearToClose a.call.decidesOn = true := by
  obtain ⟨now, status, generation, elapsed, recheck, request, err, hcall, hphase, hover, hstands,
    hsync, htog, htarget⟩ := repeated_close hstep hc hsent
  simp only [hcall, retryKept, hphase, decide_eq_true_eq] at hretry
  obtain ⟨hwarn, hclear⟩ := hretry ⟨hstands, hsync, htog, htarget⟩
  have hread : Stamp.read 32 generation = Stamp.read 32 w.fw.closeGeneration := by
    unfold retryStands at hstands
    split at hstands
    · simp at hstands
    · exact (of_decide_eq_true hstands).1
  have hwrap : w.fw.closeGeneration < generation + 2 ^ 32 := by
    simpa [generationKept, hc, hphase] using hgen
  -- the retry stage was entered by one step and has not been left since
  obtain ⟨before, arm, mid, rfl, hnot, hin, hstay⟩ :=
    hrun.exists_rise (P := fun w => Repeating w now status generation)
      (by simp [Repeating, h₀]) ⟨elapsed, hphase⟩
  obtain ⟨-, hst, hmid⟩ := LTS.Trace.at_edge_iff.1 hrun
  obtain ⟨harm, harmphase, harmgen⟩ := repeating_entered hst hnot hin
  have hsteps : ∀ e ∈ mid, e.src.step e.label.1 = some (e.dst, e.label.2) :=
    fun e he => hmid.step_of_mem he
  have hbeep : ∀ e ∈ mid, e.dst.phase.elapsed = e.src.phase.elapsed +
        (if e.label.1.call = .watchdogWarningCycle then preCloseWarningCycleMs else 0) ∧
      (e.label.1.call = .watchdogWarningCycle →
        e.src.phase.elapsed < preCloseWarningDurationMs) ∧ e.label.1.call.isReboot = false :=
    fun e he => repeating_step (hsteps e he) (hstay e he).1 (hstay e he).2
  have hmono : ∀ e ∈ mid, e.src.fw.closeGeneration ≤ e.dst.fw.closeGeneration :=
    fun e he => (step_mono (hsteps e he) (hbeep e he).2.2).1
  refine ⟨⟨before, arm, mid, rfl, ?_, ?_, ?_, ?_⟩, ?_⟩
  · simp only [StartedFor, hcall, Call.completes]
    exact ⟨now, status, elapsed, hwarn, harm, harmgen ▸ harmphase, harmgen ▸ hphase⟩
  · have hcycle : a.call.beep = .watchdogWarningCycle := by
      rw [hcall]
      rfl
    rw [hcycle]
    exact hmid.count_of_loop (f := fun w => w.phase.elapsed)
      (fun e he => by simpa using (hbeep e he).1)
      (fun e he hb => (hbeep e he).2.1 (by simpa using hb)) (by decide) (by decide)
      (by simp [harmphase, Phase.elapsed]) (by simpa [hphase, Phase.elapsed] using hover hwarn)
  · intro e he
    have hconst := hmid.quiet_of_stamp (f := fun w => w.fw.closeGeneration) hmono
      (harmgen ▸ hwrap) (harmgen ▸ hread) he
    exact hconst.2.trans hconst.1.symm
  · rw [← harmgen]
    have hle : arm.dst.fw.closeGeneration ≤ w.fw.closeGeneration :=
      hmid.le_of_mono (f := fun w => w.fw.closeGeneration) hmono
    exact Stamp.eq_of_reads_eq (harmgen ▸ hle) hwrap hread
  · simp [hcall, Call.decidesOn, clearToClose, hsync, hclear]

/-- A warned close of a warning task was not overtaken: its stamp is the present generation. -/
theorem kept_of_completed_warned {kind : WarningKind} {tid : ℕ}
    (hrun : control.toLTS.Trace w₀ es w) (hboot : Bookkeeping w₀) (hboot' : AutoOrder w₀)
    (hkind : a.call.completes = some (kind, tid)) (hwarned : Warned es w a.call) :
    WarningKept w a.call := by
  obtain ⟨before, arm, mid, rfl, harm, -, -, hgen⟩ := hwarned
  obtain ⟨hbefore, hst, hmid⟩ := LTS.Trace.at_edge_iff.1 hrun
  have hbook := hboot.trace hbefore
  simp only [StartedFor, hkind] at harm
  obtain ⟨u, hu, hk⟩ := harm.asleep
  obtain ⟨-, -, hugen, -, -⟩ := arms_of_step hst hbook (by simp [harm.fresh]) hu
  have hnow : ∀ v, w.tasks tid = some v →
      v.generation = w.fw.closeGeneration ∧ v.kind = kind := by
    intro v hv
    rw [← warning_unique hmid (hbook.step hst) hu hv]
    exact ⟨hugen.trans hgen, hk⟩
  have horder := hboot'.trace hrun hboot
  constructor
  · simp only [generationKept, hkind]
    refine decide_eq_true ?_
    intro v hv
    have := (hnow v hv).1
    omega
  · unfold slotKept
    split
    · rename_i tid' _ _ hcall
      simp only [hcall, Call.completes, Option.some.injEq, Prod.mk.injEq] at hkind
      obtain ⟨rfl, rfl⟩ := hkind
      refine decide_eq_true ?_
      intro v hv
      obtain ⟨hv', hauto⟩ := hnow v hv
      have hle := horder.le_slot _ v hv hauto
      have hle' := horder.slot_le
      omega
    · rfl
  · unfold retryKept
    split
    · rename_i hcall
      simp [hcall, Call.completes] at hkind
    · rfl

theorem kept_of_repeated_warned (hc : a.call.completes = none) (hwarned : Warned es w a.call)
    (hclear : clearToClose a.call.decidesOn = true) : WarningKept w a.call := by
  obtain ⟨before, arm, mid, -, harm, -, -, hgen⟩ := hwarned
  simp only [StartedFor, hc] at harm
  obtain ⟨now, status, elapsed, htarget, -, -, hphase⟩ := harm
  constructor
  · simp [generationKept, hc, hphase, hgen]
  · unfold slotKept
    split
    · rename_i hcall
      simp [hcall, Call.completes] at hc
    · rfl
  · unfold retryKept
    split
    · rename_i status' _ _ recheck request _ hphase' hcall
      obtain ⟨-, rfl, -, -⟩ := Phase.resend.inj (hphase.symm.trans hphase')
      simp only [hcall, Call.decidesOn, clearToClose, decide_eq_true_eq] at hclear
      exact decide_eq_true fun _ => ⟨htarget, hclear.2⟩
    · rfl

/-- **No unwarned close, and exactly when.**  In every run, a step that transmits a close does so
after a complete warning that was started for this close, with the generation standing still since,
on a status that says synced and Clear, if and only if the step keeps `WarningKept`. -/
theorem close_is_warned_iff {n : Nvs} {reads : NvsReads} {setenvOk : Bool} {t₀ : ℤ}
    (hrun : control.toLTS.Trace (World.boot n reads setenvOk t₀) es w)
    (hstep : control.step w a = some (w', r)) (hsent : ∃ o ∈ r.out, o.Transmits .doorClose) :
    (Warned es w a.call ∧ clearToClose a.call.decidesOn = true) ↔ WarningKept w a.call := by
  have hsound := Sound.boot n reads setenvOk t₀ 0
  constructor
  · rintro ⟨hwarned, hclear⟩
    cases hkind : a.call.completes with
    | some x =>
      exact kept_of_completed_warned hrun hsound.book (AutoOrder.boot n reads setenvOk t₀ 0) hkind
        hwarned
    | none => exact kept_of_repeated_warned hkind hwarned hclear
  · intro hkept
    cases hkind : a.call.completes with
    | some x =>
      exact completed_close_warned hrun hsound.book hsound.sched rfl hstep hkind hsent
        hkept.generation hkept.slot
    | none => exact repeated_close_warned hrun rfl hstep hkind hsent hkept.generation hkept.retry

theorem close_is_warned_iff_auto :
    let w := control.last (World.boot autoCloseNvs {} true 0) autoCloseRun
    let c := Call.autoCloseComplete 0 (some (.idle .opened 0 0)) .ok
    (Warned (control.edges (World.boot autoCloseNvs {} true 0) autoCloseRun) w c ∧
      clearToClose c.decidesOn = true) ↔ WarningKept w c := by
  have hsome : (control.step (control.last (World.boot autoCloseNvs {} true 0) autoCloseRun)
      ⟨67001, .autoCloseComplete 0 (some (.idle .opened 0 0)) .ok⟩).isSome = true := by
    decide +kernel
  exact close_is_warned_iff (control.trace_edges _ _) (Option.some_get hsome).symm
    (by decide +kernel)

/-- A closed door that does not answer an Open of 2 s: the retry stage decides at 15 s to repeat the
Open, which needs no warning. -/
def openRetryRun : List Action :=
  let st := GdoStatus.idle .closed 10000 0
  [⟨1000, .event st .doorPosition .ok⟩, ⟨2000, .controlOpen .ok⟩] ++ watchdogTick 5000 st ++
    watchdogTick 10000 st ++
    [⟨15000, .watchdogTransition (some st) (some st)⟩, ⟨15000, .watchdogRetry (some st)⟩]

/-- **An unwarned close.**  The recheck still sees the Open, and the status that
`retry_door_request` reads next has the driver's target at closed: the retry transmits a Close,
with no warning at all. -/
theorem unwarned_close :
    ∃ es w a w' r, control.toLTS.Trace (World.boot {} {} true 0) es w ∧
      control.step w a = some (w', r) ∧ (∃ o ∈ r.out, o.Transmits .doorClose) ∧
      ¬ (Warned es w a.call ∧ clearToClose a.call.decidesOn = true) := by
  have hsome : (control.step (control.last (World.boot {} {} true 0) openRetryRun)
      ⟨15000, .watchdogResend (some (.idle .closed 10000 0)) (some (.idle .closed 10000 10000))
        .ok⟩).isSome = true := by
    decide +kernel
  refine ⟨_, _, _, _, _, control.trace_edges _ openRetryRun, (Option.some_get hsome).symm,
    by decide +kernel, fun ⟨hwarned, hclear⟩ => ?_⟩
  have hkept := (kept_of_repeated_warned rfl hwarned hclear).retry
  exact absurd hkept (by decide +kernel)

end Transmissions

end GdoBlaq
