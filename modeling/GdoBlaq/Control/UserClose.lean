import GdoBlaq.Control.Cancellation

/-!
# Closes that the user asks for

What an accepted `gdo_control_close` leaves behind: a warning task that holds the slot, or nothing,
because the door was closed already.  The second is only sound if no Open is on its way.

## Main results

* `controlClose_accepted` : the two ends of an accepted close.
* `accepted_close_stands_iff` : an accepted close stands against every Open that the opener has not
  acted on, unless the shortcut was taken while one is outstanding.
* `accepted_close_dropped` : such a run.
-/

namespace GdoBlaq

open Firmware

/-- The step transmits a new Open. -/
def SendsOpen (e : Step) : Prop := ∃ o ∈ e.label.2.out, o.IsRequest ∧ o.Transmits .doorOpen

/-- `last_door` becomes CLOSED in the step. -/
def BecomesClosed (e : Step) : Prop := e.src.fw.lastDoor ≠ .closed ∧ e.dst.fw.lastDoor = .closed

/-- An Open has been transmitted since `last_door` last became CLOSED. -/
def OpenOutstanding (es : List Step) : Prop :=
  ∃ before e after, es = before ++ e :: after ∧ SendsOpen e ∧ ∀ x ∈ after, ¬ BecomesClosed x

/-- A user-close task sleeps for the current generation and holds the slot. -/
def UserCloseSleeps (w : World) : Prop :=
  w.fw.userClosePending = true ∧ w.fw.userClosePendingGeneration = w.fw.closeGeneration ∧
    ∃ tid v, w.tasks tid = some v ∧ v.kind = .user ∧ v.generation = w.fw.closeGeneration

/-- After the steps `es`, an accepted close with the given status read and the given outcome is not
dropped against an Open: its warning sleeps, or the door is closed and no Open is on its way. -/
def CloseStands (es : List Step) (w w' : World) (status : Option GdoStatus) : Prop :=
  UserCloseSleeps w' ∨
    (∃ st, status = some st ∧ st.synced = true ∧ st.door = .closed) ∧
      w.fw.tracking.doorInTransition = false ∧ ¬ OpenOutstanding es

section

variable {w₀ w w' : World} {es : List Step} {r : Reply} {t : ℤ} {status : Option GdoStatus}
  {start : TaskStart}

theorem alreadyClosed_iff {s : Firmware} :
    alreadyClosed s status = true ↔
      (∃ st, status = some st ∧ st.synced = true ∧ st.door = .closed) ∧
      s.tracking.doorInTransition = false := by
  cases status with
  | none => simp [alreadyClosed]
  | some st =>
    simp only [alreadyClosed, decide_eq_true_eq, Bool.not_eq_true', Option.some.injEq]
    constructor
    · rintro ⟨hsync, htrack, hdoor⟩
      exact ⟨⟨st, rfl, hsync, hdoor⟩, htrack⟩
    · rintro ⟨⟨_, rfl, hsync, hdoor⟩, htrack⟩
      exact ⟨hsync, htrack, hdoor⟩

/-- **An accepted close** either found the door closed and changed nothing, or has a warning task
asleep that holds the slot under the current generation. -/
theorem controlClose_accepted (h : w.step ⟨t, .controlClose status start⟩ = some (w', r))
    (hok : r.err = .ok) :
    (alreadyClosed w.fw status = true ∧ w.fw.userCloseStands = false ∧ w' = w.tick t) ∨
      (alreadyClosed w.fw status = false ∧ UserCloseSleeps w') := by
  replace h := World.perform_of_step h
  simp only [World.perform] at h
  rcases gdoControlClose_cases (s := w.fw) status start with ⟨err, he, hcl⟩ | he | ⟨hst, hcl, he⟩
  · simp only [World.tick, he] at h
    obtain ⟨rfl, rfl⟩ := Prod.mk.inj (Option.some.inj h)
    obtain ⟨hst, hcl⟩ := hcl hok
    exact .inl ⟨hcl, hst, rfl⟩
  · simp only [World.tick, he] at h
    obtain ⟨-, rfl⟩ := Prod.mk.inj (Option.some.inj h)
    simp at hok
  · simp only [World.tick, he] at h
    obtain ⟨rfl, -⟩ := Prod.mk.inj (Option.some.inj h)
    exact .inr ⟨hcl, rfl, rfl, w.nextTask, _, Function.update_self .., rfl, rfl⟩

theorem UserCloseSleeps.stands (h : UserCloseSleeps w) : w.fw.userCloseStands = true := by
  simp [userCloseStands, h.1, h.2.1]

/-- **An accepted close is not dropped against an outstanding Open, exactly** unless it takes the
already-closed shortcut while an Open has been transmitted since `last_door` became CLOSED. -/
theorem accepted_close_stands_iff {n : Nvs} {reads : NvsReads} {setenvOk : Bool} {t₀ : ℤ}
    {before after : List Step} {e : Step}
    (hrun : control.toLTS.Trace (World.boot n reads setenvOk t₀) (before ++ e :: after) w)
    (hcall : e.label.1.call = .controlClose status start) (hok : e.label.2.err = .ok) :
    CloseStands before e.src e.dst status ↔
      alreadyClosed e.src.fw status = false ∨ ¬ OpenOutstanding before := by
  obtain ⟨-, hstep, -⟩ := LTS.Trace.at_edge_iff.1 hrun
  have hcall' : e.label.1 = ⟨e.label.1.t, .controlClose status start⟩ := by rw [← hcall]
  have hstep : e.src.step ⟨e.label.1.t, .controlClose status start⟩ = some (e.dst, e.label.2) :=
    hcall' ▸ hstep
  rcases controlClose_accepted hstep hok with ⟨hclosed, hstands, hdst⟩ | ⟨hclosed, hsleeps⟩
  · have hnone : ¬ UserCloseSleeps e.dst := fun hsleeps => by
      have := hsleeps.stands
      simp only [hdst, World.tick, hstands, Bool.false_eq_true] at this
    obtain ⟨hdoor, htrack⟩ := alreadyClosed_iff.1 hclosed
    constructor
    · rintro (hsleeps | ⟨-, -, hopen⟩)
      · exact absurd hsleeps hnone
      · exact .inr hopen
    · rintro (hno | hopen)
      · simp [hclosed] at hno
      · exact .inr ⟨hdoor, htrack, hopen⟩
  · exact ⟨fun _ => .inl hclosed, fun _ => .inl hsleeps⟩

end

/-- The driver's report, at 1 s, of a door that is closed. -/
def closedRun : List Action := [⟨1000, .event (.idle .closed 10000 10000) .doorPosition .ok⟩]

/-- An Open at 2 s. -/
def openAction : Action := ⟨2000, .controlOpen .ok⟩

/-- A Close half a second later, before the opener has moved. -/
def closeAction : Action := ⟨2500, .controlClose (some (.idle .closed 10000 10000)) {}⟩

/-- A Close of a closed door that nobody asked to open stands. -/
theorem accepted_close_stands_iff_closed :
    let es := control.edges (World.boot {} {} true 0) closedRun
    let e := control.edge (control.last (World.boot {} {} true 0) closedRun) closeAction
    CloseStands es e.src e.dst (some (.idle .closed 10000 10000)) ↔
      alreadyClosed e.src.fw (some (.idle .closed 10000 10000)) = false ∨
        ¬ OpenOutstanding es := by
  have hrun := control.trace_snoc (control.trace_edges (World.boot {} {} true 0) closedRun)
    closeAction (by decide +kernel)
  have hcall : (control.edge (control.last (World.boot {} {} true 0) closedRun)
      closeAction).label.1.call = .controlClose (some (.idle .closed 10000 10000)) {} := by
    decide +kernel
  exact accepted_close_stands_iff hrun hcall (by decide +kernel)

/-- **A dropped Close.**  The Open has been transmitted and the door still reads closed: the Close
is accepted, nothing is pending for it, and the door is left to open. -/
theorem accepted_close_dropped :
    ∃ before e w status start, control.toLTS.Trace (World.boot {} {} true 0) (before ++ [e]) w ∧
      e.label.1.call = .controlClose status start ∧ e.label.2.err = .ok ∧
      ¬ CloseStands before e.src e.dst status := by
  have hopen := control.trace_snoc
    (control.trace_edges (World.boot {} {} true 0) closedRun) openAction (by decide +kernel)
  have hclose := control.trace_snoc hopen closeAction (by decide +kernel)
  refine ⟨_, _, _, some (.idle .closed 10000 10000), {}, hclose, by decide +kernel,
    by decide +kernel, ?_⟩
  rintro (⟨hpending, -⟩ | ⟨-, -, houtstanding⟩)
  · exact absurd hpending (by decide +kernel)
  · refine houtstanding ⟨_, _, [], rfl, ?_, by simp⟩
    exact ⟨.request .control .doorOpen 1 .ok, by decide +kernel, by decide +kernel⟩

end GdoBlaq
