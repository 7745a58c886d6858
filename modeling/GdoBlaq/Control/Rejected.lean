import GdoBlaq.Control.OncePerWindow

/-!
# A Close that is refused

`gdo_control_close` refuses while its own warning pends, without memory, and when the task for the
warning cannot be created.  The first two exits come before anything is claimed.  The third comes
after the generation has been moved and the slot taken, and gives back the flag alone.

## Main results

* `gdoControlClose_rejected` : the error exits.
* `rejected_close_undisturbed_iff` : a refused Close leaves the other closes alone, unless it is
  the task that could not be created.
* `rejected_close_cancels_night` : such a call, and the night's close that it costs.
-/

namespace GdoBlaq

open Firmware

/-- The call gets as far as claiming the slot, and there is no task for its warning. -/
def TaskRefused (s : Firmware) (status : Option GdoStatus) (start : TaskStart) : Prop :=
  s.userCloseStands = false ∧ alreadyClosed s status = false ∧
    start.alloc = true ∧ start.created = false

instance (s : Firmware) (status : Option GdoStatus) (start : TaskStart) :
    Decidable (TaskRefused s status start) := instDecidableAnd

/-- The generation, the slot and the request id read as before. -/
def SlotKept (s s' : Firmware) : Prop :=
  Stamp.read 32 s'.closeGeneration = Stamp.read 32 s.closeGeneration ∧
    s'.userClosePending = s.userClosePending ∧
    Stamp.read 32 s'.userClosePendingGeneration = Stamp.read 32 s.userClosePendingGeneration ∧
    Stamp.read 32 s'.doorCommandId = Stamp.read 32 s.doorCommandId

/-- Every run from `w'` is one from `w`: the same calls are answered alike and transmit the same
requests. -/
def RunsAs (w w' : World) : Prop :=
  ∀ es v, control.toLTS.Trace w' es v →
    ∃ es' v', control.toLTS.Trace w es' v' ∧
      es'.map LTS.Edge.label = es.map LTS.Edge.label

/-- A call that leads from `w` to `w'` has left the other closes alone. -/
def Undisturbed (w w' : World) : Prop := SlotKept w.fw w'.fw ∧ RunsAs w w'

section

variable {s : Firmware} {w w' : World} {r : Reply} {t : ℤ} {status : Option GdoStatus}
  {start : TaskStart}

/-- The error exits of `gdo_control_close`. -/
theorem gdoControlClose_rejected (herr : (gdoControlClose s status start).2.1 ≠ .ok) :
    (TaskRefused s status start ∧ gdoControlClose s status start =
      ({ s.bump with
          userClosePending := false, userClosePendingGeneration := s.closeGeneration + 1 },
        .noMem, none)) ∨
    (¬ TaskRefused s status start ∧
      ∃ err, gdoControlClose s status start = (s, err, none)) := by
  unfold gdoControlClose TaskRefused at *
  by_cases hstands : s.userCloseStands = true
  · exact .inr ⟨by simp [hstands], .invalidState, by simp [hstands]⟩
  by_cases hclosed : alreadyClosed s status = true
  · exact .inr ⟨by simp [hclosed], .ok, by simp [hstands, hclosed]⟩
  by_cases halloc : start.alloc = true
  · by_cases hcreated : start.created = true
    · exact absurd (by simp [hstands, hclosed, halloc, hcreated]) herr
    · exact .inl ⟨by simpa [hstands, hclosed, halloc] using hcreated,
        by simp [hstands, hclosed, halloc, hcreated]⟩
  · exact .inr ⟨by simp [halloc], .noMem, by simp [hstands, hclosed, halloc]⟩

theorem RunsAs.of_tick (hle : w.clock ≤ t) : RunsAs w (w.tick t) := by
  intro es v hrun
  cases hrun with
  | nil => exact ⟨[], w, .nil w, rfl⟩
  | @cons _ m _ l es hst htr =>
    have hstep : w.step l.1 = some (m, l.2) := by
      replace hst : (w.tick t).step l.1 = some (m, l.2) := hst
      have hguard : t ≤ l.1.t ∨ l.1.call.isReboot = true := by
        by_contra hback
        simp [World.step, World.tick, hback] at hst
      have hguard' : w.clock ≤ l.1.t ∨ l.1.call.isReboot = true :=
        hguard.imp_left fun h => hle.trans h
      rw [World.step, if_pos hguard']
      have hdone := World.perform_of_step hst
      exact hdone
    exact ⟨⟨w, l, m⟩ :: es, v, .cons hstep htr, rfl⟩

theorem controlClose_refused (h : w.step ⟨t, .controlClose status start⟩ = some (w', r))
    (herr : r.err ≠ .ok) :
    w' = { w.tick t with fw := (gdoControlClose w.fw status start).1 } ∧
      (gdoControlClose w.fw status start).2.1 ≠ .ok := by
  replace h := World.perform_of_step h
  simp only [World.perform, World.tick] at h
  rcases gdoControlClose_cases (s := w.fw) status start with ⟨err, he, -⟩ | he | ⟨-, -, he⟩
  · rw [he] at h ⊢
    obtain ⟨rfl, rfl⟩ := Prod.mk.inj (Option.some.inj h)
    exact ⟨rfl, herr⟩
  · rw [he] at h ⊢
    obtain ⟨rfl, rfl⟩ := Prod.mk.inj (Option.some.inj h)
    exact ⟨rfl, herr⟩
  · rw [he] at h
    obtain ⟨-, rfl⟩ := Prod.mk.inj (Option.some.inj h)
    exact absurd rfl herr

/-- **A refused Close leaves the other closes alone, exactly** unless it got as far as claiming the
slot and could not create its task. -/
theorem rejected_close_undisturbed_iff {e : Step} (hst : control.toLTS.step e.src e.label e.dst)
    (hcall : e.label.1.call = .controlClose status start) (herr : e.label.2.err ≠ .ok) :
    Undisturbed e.src e.dst ↔ ¬ TaskRefused e.src.fw status start := by
  have hstep : e.src.step ⟨e.label.1.t, .controlClose status start⟩ = some (e.dst, e.label.2) := by
    rw [← hcall]
    exact hst
  have hle : e.src.clock ≤ e.label.1.t := by
    by_contra hback
    simp [World.step, hback, Call.isReboot] at hstep
  obtain ⟨hdst, hfails⟩ := controlClose_refused hstep herr
  rcases gdoControlClose_rejected hfails with ⟨hrefused, heq⟩ | ⟨hnot, err, heq⟩
  · refine iff_of_false ?_ (not_not_intro hrefused)
    rintro ⟨⟨hgen, -⟩, -⟩
    rw [hdst, heq] at hgen
    exact Stamp.read_succ_ne (by decide) hgen
  · refine iff_of_true ?_ hnot
    have hsame : e.dst = e.src.tick e.label.1.t := by rw [hdst, heq]; rfl
    rw [hsame]
    exact ⟨⟨rfl, rfl, rfl, rfl⟩, .of_tick hle⟩

end

/-- A second Close while the first one's warning runs. -/
theorem rejected_close_undisturbed_iff_pending :
    let w := control.last (World.boot {} {} true 0)
      (openReports 1000 ++ [⟨2000, .controlClose (some (.idle .opened 0 0)) {}⟩])
    let e := control.edge w ⟨3000, .controlClose (some (.idle .opened 0 0)) {}⟩
    Undisturbed e.src e.dst ↔ ¬ TaskRefused e.src.fw (some (.idle .opened 0 0)) {} :=
  rejected_close_undisturbed_iff (control.step_edge (by decide +kernel)) (by decide +kernel)
    (by decide +kernel)

/-- A Close whose task cannot be created, a second into the warning of the night's close. -/
def vainClose : Step :=
  control.edge nightArm.dst
    ⟨101000, .controlClose (some (.idle .opened 0 0)) { created := false }⟩

/-- The rest of that warning, and its end. -/
def nightRest : List Action :=
  warningRun 0 105000 ++ [⟨105001, .schedCloseComplete 0 (some (.idle .opened 0 0)) .ok⟩]

/-- **A night's close lost to a refused Close.**  Without the call the warning ends in a close;
with it, the same steps transmit none. -/
theorem rejected_close_cancels_night :
    (∃ w, control.toLTS.Trace (World.boot { schedBlob := some (.of (nightly 1379) 0) } {} true 0)
      (nightStart ++ [nightArm] ++ [vainClose]) w) ∧
    vainClose.label.2.err = .noMem ∧
    ¬ Undisturbed vainClose.src vainClose.dst ∧
    (∃ e ∈ control.edges vainClose.src nightRest, ∃ o ∈ e.label.2.out, o.Transmits .doorClose) ∧
    ∀ e ∈ control.edges vainClose.dst nightRest, ∀ o ∈ e.label.2.out,
      ¬ o.Transmits .doorClose := by
  have harm := control.trace_snoc (control.trace_edges
    (World.boot { schedBlob := some (.of (nightly 1379) 0) } {} true 0)
    (openReports 1000 ++ watchdogTickUntilSched 100000 (.idle .opened 0 0)))
    ⟨100000, .watchdogSched (some (evening 22 59)) (some (.idle .opened 0 0)) {} {} {}⟩
    (by decide +kernel)
  have hvain := control.trace_snoc harm
    ⟨101000, .controlClose (some (.idle .opened 0 0)) { created := false }⟩ (by decide +kernel)
  refine ⟨⟨_, hvain⟩, by decide +kernel, ?_, by decide +kernel, by decide +kernel⟩
  rintro ⟨⟨hgen, -⟩, -⟩
  exact absurd hgen (by decide +kernel)

end GdoBlaq
