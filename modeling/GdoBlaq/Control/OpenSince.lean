import GdoBlaq.Control.Cancellation

/-!
# Since when the door is open

Two timers say since when the door has been open.  One is set when `last_door` arrives at OPEN and
left alone until it leaves; the other is the auto-close countdown, which many paths restart.  Both
say less than they seem to: they are facts about runs.

## Main results

* `opened_since` : while `last_door` is OPEN, the first timer is the time of the step in which it
  became OPEN, and it has been OPEN ever since.
* `Countdown.trace` : the countdown was never started before that, and runs only while `last_door`
  is OPEN.
-/

namespace GdoBlaq

open Firmware

section

variable {w w' : World} {c : Call} {r : Reply} {es : List Step} {e : Step}

/-- `last_door` is OPEN in the step's two states. -/
def StaysOpen (e : Step) : Prop := e.src.fw.lastDoor = .opened ∧ e.dst.fw.lastDoor = .opened

/-- **How long the door has been open**: since the time `t` of one of the steps, in which
`last_door` became OPEN, it has been OPEN without interruption. -/
def OpenSince (es : List Step) (t : ℤ) : Prop :=
  ∃ before e after, es = before ++ e :: after ∧ e.src.fw.lastDoor ≠ .opened ∧
    e.dst.fw.lastDoor = .opened ∧ e.dst.clock = t ∧ ∀ x ∈ after, StaysOpen x

/-- `s_door_continuously_open_since_ms` when `last_door` arrives at OPEN, and while it stays. -/
theorem Effect.continuously (h : Effect w c w' r) (hopen : w'.fw.lastDoor = .opened) :
    (w.fw.lastDoor ≠ .opened → w'.fw.doorContinuouslyOpenSinceMs = w'.clock) ∧
      (w.fw.lastDoor = .opened →
        w'.fw.doorContinuouslyOpenSinceMs = w.fw.doorContinuouslyOpenSinceMs) := by
  cases h with
  | news _ hnews =>
    cases hnews with
    | door _ _ _ d since cont trig hd ht =>
      cases ht with
      | arrived => exact ⟨fun _ => rfl, fun hsame => absurd hopen (hsame ▸ hd)⟩
      | left hd' | away hd' => exact absurd hopen hd'
    | view | obstruction | button => exact ⟨fun hne => absurd hopen hne, fun _ => rfl⟩
  | rebooted => simp [World.boot] at hopen
  | _ => exact ⟨fun hne => absurd hopen hne, fun _ => rfl⟩

theorem step_continuously (hst : control.toLTS.step e.src e.label e.dst)
    (hopen : e.dst.fw.lastDoor = .opened) :
    (e.src.fw.lastDoor ≠ .opened → e.dst.fw.doorContinuouslyOpenSinceMs = e.dst.clock) ∧
      (e.src.fw.lastDoor = .opened →
        e.dst.fw.doorContinuouslyOpenSinceMs = e.src.fw.doorContinuouslyOpenSinceMs) := by
  rcases World.step_cases hst with ⟨-, -, heff⟩ | ⟨reads, setenvOk, -, -, hboot⟩
  · exact heff.continuously hopen
  · simp [hboot, World.boot] at hopen

/-- **The first timer is true**: `last_door` became OPEN at that time and has been OPEN since. -/
theorem opened_since {n : Nvs} {reads : NvsReads} {setenvOk : Bool} {t₀ : ℤ}
    (hrun : control.toLTS.Trace (World.boot n reads setenvOk t₀) es w)
    (hopen : w.fw.lastDoor = .opened) : OpenSince es w.fw.doorContinuouslyOpenSinceMs := by
  obtain ⟨before, e, after, rfl, hsrc, hdst, hafter⟩ :=
    hrun.exists_rise (P := fun w => w.fw.lastDoor = .opened) (by simp [World.boot]) hopen
  obtain ⟨-, hst, htr⟩ := LTS.Trace.at_edge_iff.1 hrun
  refine ⟨before, e, after, rfl, hsrc, hdst, ?_, hafter⟩
  rw [← (step_continuously hst hdst).1 hsrc]
  refine (htr.invariant (I := fun w => w.fw.doorContinuouslyOpenSinceMs =
    e.dst.fw.doorContinuouslyOpenSinceMs) rfl fun x hx hxst hsame => ?_).symm
  exact ((step_continuously hxst (hafter x hx).2).2 (hafter x hx).1).trans hsame

theorem OpenSince.append {mid : List Step} {t : ℤ} (h : OpenSince es t)
    (hmid : ∀ x ∈ mid, StaysOpen x) : OpenSince (es ++ mid) t := by
  obtain ⟨before, e, after, rfl, hsrc, hdst, ht, hafter⟩ := h
  refine ⟨before, e, after ++ mid, by simp, hsrc, hdst, ht, ?_⟩
  intro x hx
  rcases List.mem_append.1 hx with hx | hx
  · exact hafter x hx
  · exact hmid x hx

theorem staysOpen_of_quiet {m : World} (hrun : control.toLTS.Trace m es w)
    (hquiet : ∀ x ∈ es, Quiet x) (hopen : m.fw.lastDoor = .opened) :
    ∀ x ∈ es, StaysOpen x := by
  intro x hx
  show x.src.fw.lastDoor = .opened ∧ x.dst.fw.lastDoor = .opened
  exact hrun.invariant_mem (I := fun w => w.fw.lastDoor = .opened) hopen
    (fun e he _ h => (hquiet e he).door.trans h) hx

theorem OpenSince.through_warning {mid : List Step} {arm : Step} {t : ℤ} (h : OpenSince es t)
    (hopen : arm.src.fw.lastDoor = .opened) (harm : Settled arm)
    (hmid : control.toLTS.Trace arm.dst mid w) (hsettled : ∀ x ∈ mid, Settled x) :
    OpenSince (es ++ arm :: mid) t := by
  have hopen' : arm.dst.fw.lastDoor = .opened := harm.quiet.door.trans hopen
  refine h.append ?_
  intro x hx
  rcases List.mem_cons.1 hx with rfl | hx
  · exact ⟨hopen, hopen'⟩
  · exact staysOpen_of_quiet hmid (fun x hx => (hsettled x hx).quiet) hopen' x hx

end

/-! ### The countdown -/

section

variable {w w' : World} {c : Call} {r : Reply} {es : List Step} {a : Action}

/-- The auto-close countdown and its flag belong to a door that is open, and the countdown started
no earlier than the door opened.  So does an auto-close warning that has not been cancelled. -/
structure Countdown (w : World) : Prop where
  running : w.fw.doorOpenSinceMs ≠ 0 → w.fw.lastDoor = .opened
  triggered : w.fw.autoCloseTriggered = true → w.fw.lastDoor = .opened
  started : w.fw.lastDoor = .opened → w.fw.doorContinuouslyOpenSinceMs ≤ w.fw.doorOpenSinceMs ∧
    w.fw.doorOpenSinceMs ≤ w.clock
  warning : ∀ i v, w.tasks i = some v → v.kind = .auto → v.generation = w.fw.closeGeneration →
    w.fw.lastDoor = .opened

theorem Countdown.mono (hi : Countdown w) (hbook : Bookkeeping w)
    (hold : NoNew .auto w.tasks w'.tasks)
    (hdoor : w'.fw.lastDoor = w.fw.lastDoor)
    (hsince : w'.fw.doorOpenSinceMs = w.fw.doorOpenSinceMs)
    (hcont : w'.fw.doorContinuouslyOpenSinceMs = w.fw.doorContinuouslyOpenSinceMs)
    (htrig : w'.fw.autoCloseTriggered = true → w.fw.autoCloseTriggered = true)
    (hgen : w.fw.closeGeneration ≤ w'.fw.closeGeneration) (hclock : w.clock ≤ w'.clock) :
    Countdown w' where
  running h := hdoor ▸ hi.running (hsince ▸ h)
  triggered h := hdoor ▸ hi.triggered (htrig h)
  started h := by
    obtain ⟨hle, hle'⟩ := hi.started (hdoor ▸ h)
    rw [hsince, hcont]
    exact ⟨hle, hle'.trans hclock⟩
  warning i v hv hk he := by
    have hv := hold i v hv hk
    have hle := hbook.generation i v hv
    exact hdoor ▸ hi.warning i v hv hk (by omega)

theorem Countdown.restart (hi : Countdown w)
    (hopen : w.fw.lastDoor = .opened) (hdoor : w'.fw.lastDoor = w.fw.lastDoor)
    (hsince : w'.fw.doorOpenSinceMs = w.clock)
    (hcont : w'.fw.doorContinuouslyOpenSinceMs = w.fw.doorContinuouslyOpenSinceMs)
    (hclock : w'.clock = w.clock) : Countdown w' where
  running _ := hdoor.trans hopen
  triggered _ := hdoor.trans hopen
  started _ := by
    obtain ⟨hle, hle'⟩ := hi.started hopen
    rw [hsince, hcont, hclock]
    exact ⟨hle.trans hle', le_rfl⟩
  warning _ _ _ _ _ := hdoor.trans hopen

theorem Countdown.news (hi : Countdown w) (hbook : Bookkeeping w) {fw : Firmware} {p : Phase}
    (h : News w.fw w.clock fw) : Countdown { w with fw := fw, phase := p } := by
  cases h with
  | view | obstruction | button =>
    exact hi.mono hbook (.refl _ _) rfl rfl rfl id (by simp) le_rfl
  | door _ _ _ d since cont trig hd ht =>
    -- a change of the door cancels every warning that sleeps
    have hstale : ∀ i v, w.tasks i = some v → v.generation ≠ w.fw.closeGeneration + 1 := by
      intro i v hv he
      have := hbook.generation i v hv
      omega
    cases ht with
    | arrived ho =>
      exact ⟨fun _ => ho, fun _ => ho, fun _ => ⟨le_rfl, le_rfl⟩,
        fun i v hv _ he => absurd he (hstale i v hv)⟩
    | left hd' =>
      exact ⟨fun h => absurd rfl h, fun h => by simp at h, fun h => absurd h hd',
        fun i v hv _ he => absurd he (hstale i v hv)⟩
    | away hd' hne =>
      exact ⟨fun h => absurd (hi.running h) hne, fun h => absurd (hi.triggered h) hne,
        fun h => absurd h hd', fun i v hv _ he => absurd he (hstale i v hv)⟩

theorem Countdown.effect (hi : Countdown w) (hs : Sound w) (hwrap : w.NoWrap)
    (hc : c.isReboot = false) (h : Effect w c w' r) : Countdown w' := by
  have hbook := hs.book
  cases h with
  | news _ hnews => exact hi.news hbook hnews
  | idle | set | setFailed | opened | closeNotCreated | schedNotReserved | schedNotStarted =>
    exact hi.mono hbook (.refl _ _) rfl rfl rfl id (by simp) le_rfl
  | userSent | userDropped | autoSent | schedCancelled | schedSent =>
    exact hi.mono hbook (.finish _ _) rfl rfl rfl id (by simp) le_rfl
  | closeArmed | schedArmed =>
    exact hi.mono hbook (.spawn (by simp) _) rfl rfl rfl id (by simp) le_rfl
  | autoNotStarted hdue =>
    have hopen := hi.running (autoCloseStillDue_iff.1 hdue).2.2.2.2.1
    exact hi.restart hopen rfl rfl rfl rfl
  | autoArmed hdue =>
    have hopen := hi.running (autoCloseStillDue_iff.1 hdue).2.2.2.2.1
    exact ⟨fun _ => hopen, fun _ => hopen, hi.started, fun _ _ _ _ _ => hopen⟩
  | autoCancelled =>
    by_cases hopen : w.fw.lastDoor = .opened
    · exact hi.restart hopen rfl (by simp [hopen]) rfl rfl
    · exact hi.mono hbook (.finish _ _) rfl (by simp [hopen]) rfl (by simp) le_rfl le_rfl
  | autoRefused _ htask hvalid =>
    obtain ⟨hv, hk, -, -⟩ := warningOver_eq_some htask
    simp only [autoCloseValid, decide_eq_true_eq] at hvalid
    have hslot := hs.auto.generation _ _ hv hk
    have hread := hvalid.2.2.2.1
    -- the close was not cancelled, so the door has not left OPEN since it was armed
    rw [← hslot] at hread
    have hgen := Stamp.eq_of_reads_eq (hbook.generation _ _ hv)
      (hwrap _ (hbook.mem_sleeping.2 ⟨_, hv⟩)) hread
    exact hi.restart (hi.warning _ _ hv hk hgen) rfl rfl rfl rfl
  | restarted _ _ _ htrig =>
    exact hi.restart (hi.triggered htrig) rfl rfl rfl rfl
  | rebooted => simp [Call.isReboot] at hc

theorem Countdown.boot (n : Nvs) (reads : NvsReads) (setenvOk : Bool) (t : ℤ) (next : ℕ) :
    Countdown { World.boot n reads setenvOk t with nextTask := next } := by
  constructor <;> simp [World.boot]

/-- **The countdown tells the truth** in every state of a run. -/
theorem Countdown.trace (hrun : control.toLTS.Trace w es w') (hs : Sound w) (hi : Countdown w)
    (hcalm : ∀ e ∈ es, CalmAt e.src e.label.1) : Countdown w' := by
  refine (hrun.invariant (I := fun w => Sound w ∧ Countdown w) ⟨hs, hi⟩
    fun e he hst ⟨hsound, hcount⟩ => ⟨hsound.step (hcalm e he) hst, ?_⟩).2
  rcases World.step_cases hst with ⟨hc, hclock, heff⟩ | ⟨reads, setenvOk, -, -, hboot⟩
  · have htick : Countdown (e.src.tick e.label.1.t) :=
      hcount.mono hsound.book (.refl _ _) rfl rfl rfl id le_rfl hclock
    exact htick.effect (hsound.tick hclock) (hcalm e he hc).noWrap hc heff
  · rw [hboot]
    exact Countdown.boot e.src.nvs reads setenvOk e.label.1.t e.src.nextTask

end

end GdoBlaq
