import GdoBlaq.Web.Ota

/-!
# Confirming an upload

An upload stops short of the boot choice: the image waits ten minutes for its confirmation.  What
awaits its confirmation is at any time the image that the last upload wrote.

## Main results

* `pending_stands` : over a whole run, an image that awaits its confirmation was written whole, and
  nothing was erased and nothing cancelled since.
* `confirm_boots_reviewed_image` : so a confirmation boots no other image, and `/status` shows no
  other one as pending.
-/

namespace GdoBlaq

/-- An upload to `p` was validated at `since`, and the image still stands. -/
def Stands (es : List OtaStep) (p : EspPartition) (since : ℤ) : Prop :=
  ∃ before upload mid, es = before ++ upload :: mid ∧
    upload.label.1.Validates upload.label.2 p since ∧ ∀ a ∈ mid, ¬ a.label.1.Supersedes a.label.2

theorem Stands.snoc {es : List OtaStep} {e : OtaStep} {p : EspPartition} {since : ℤ}
    (h : Stands es p since) (he : ¬ e.label.1.Supersedes e.label.2) :
    Stands (es ++ [e]) p since := by
  obtain ⟨before, upload, mid, rfl, hval, hmid⟩ := h
  refine ⟨before, upload, mid ++ [e], by simp, hval, ?_⟩
  intro a ha
  rcases List.mem_append.1 ha with ha | ha
  · exact hmid a ha
  · obtain rfl := List.mem_singleton.1 ha
    exact he

section Run

variable {slots : String → Option ℕ} {es : List OtaStep} {s : Ota}

theorem ota_step {e : OtaStep} (h : ota.toLTS.step e.src e.label e.dst) :
    e.src.step e.label.1 = (e.dst, e.label.2) :=
  Option.some.inj h

theorem idle_between_requests (hrun : ota.toLTS.Trace (Ota.boot slots) es s) {e : OtaStep}
    (he : e ∈ es) : e.src.uploadInProgress = false ∧ e.dst.uploadInProgress = false := by
  refine hrun.invariant_mem (I := fun s => s.uploadInProgress = false) rfl
    (fun e _ hst hsrc => ?_) he
  cases Ota.step_moves (ota_step hst) with
  | kept hidle => exact hidle.trans hsrc
  | forgotten hidle => exact hidle hsrc
  | validated _ hidle => exact hidle

/-- **What awaits its confirmation stands.** -/
theorem pending_stands (hrun : ota.toLTS.Trace (Ota.boot slots) es s) :
    ∀ p, s.pendingPartition = some p → Stands es p s.pendingSinceMs := by
  refine hrun.history (I := fun es s => ∀ p, s.pendingPartition = some p →
    Stands es p s.pendingSinceMs) nofun ?_
  intro pre e _ hst ih p hpart
  cases Ota.step_moves (ota_step hst) with
  | kept _ hsame hsince hstands =>
    rw [hsame] at hpart
    rw [hsince]
    exact (ih p hpart).snoc hstands
  | forgotten _ hnone =>
    rw [hnone] at hpart
    cases hpart
  | validated p' _ hval hnew =>
    obtain rfl : p' = p := Option.some.inj (hnew.symm.trans hpart)
    exact ⟨pre, e, [], rfl, hval, by simp⟩

/-- **A confirmation boots the reviewed image.**  In every run of uploads, confirmations,
cancellations, rollbacks and status requests, with reboots in between, whatever fails:
`uploadInProgress` is false between requests; a confirmation chooses a slot only if the last upload
that began to erase one wrote all of its image there, the image was found valid at most ten minutes
ago, and nothing has been erased and nothing cancelled since; and `/status` shows an upload as
pending only under the same conditions. -/
theorem confirm_boots_reviewed_image (hrun : ota.toLTS.Trace (Ota.boot slots) es s) :
    (∀ e ∈ es, e.src.uploadInProgress = false ∧ e.dst.uploadInProgress = false) ∧
    ∀ pre e post, es = pre ++ e :: post →
      (∀ authorized c p err, e.label.1 = .confirm authorized c →
        .setBootPartition p err ∈ e.label.2.ops →
        ∃ since, Stands pre p since ∧ c.t - since ≤ otaConfirmExpiryMs) ∧
      ∀ q st, e.label.1 = .status q → e.label.2.http = some (.status st) → st.otaPending = true →
        ∃ p since, Stands pre p since ∧ q.t - since < otaConfirmExpiryMs ∧
          st.otaPendingPartition = p.label ∧
          st.otaConfirmRemainingMs = otaConfirmExpiryMs - (q.t - since) := by
  refine ⟨fun e he => idle_between_requests hrun he, ?_⟩
  intro pre e post hes
  subst hes
  obtain ⟨hpre, hst, -⟩ := LTS.Trace.at_edge_iff.1 hrun
  replace hst := ota_step hst
  refine ⟨?_, ?_⟩
  · intro authorized c p err hcall hboot
    rw [hcall] at hst
    obtain ⟨-, -, hin⟩ := Ota.firmwareConfirm_cases hst
    obtain ⟨hpart, hage⟩ := hin p err hboot
    exact ⟨e.src.pendingSinceMs, pending_stands hpre p hpart, hage⟩
  · intro q st hcall hreply hpending
    rw [hcall] at hst
    rcases (Ota.statusGet_cases hst).2 with ⟨-, hnot⟩ | ⟨-, p, hpart, hleft, hshown⟩
    · rw [hnot st hreply] at hpending
      cases hpending
    · exact ⟨p, e.src.pendingSinceMs, pending_stands hpre p hpart, by omega, hshown st hreply⟩

end Run

/-- The slot that the device does not run from. -/
def otherSlot : EspPartition := ⟨"ota_1", 1900544⟩

/-- An upload of 5000 bytes in two pieces, a look at `/status`, a confirmation after exactly ten
minutes. -/
def reviewedRun : List OtaCall :=
  [.upload true 5000 {
      target := some otherSlot, chunks := [⟨4096, .ok⟩, ⟨904, .ok⟩], appDesc := none, t := 1000 },
    .status {
      running := none, runningDesc := none, other := some otherSlot, otherDesc := none, t := 2000 },
    .confirm true { t := 601000 }]

theorem confirm_boots_reviewed_image_in_time :
    let es := ota.edges (Ota.boot fun _ => none) reviewedRun
    (∀ e ∈ es, e.src.uploadInProgress = false ∧ e.dst.uploadInProgress = false) ∧
    ∃ pre e, es = pre ++ [e] ∧ .setBootPartition otherSlot .ok ∈ e.label.2.ops ∧
      ∃ since, Stands pre otherSlot since ∧ 601000 - since ≤ otaConfirmExpiryMs := by
  have h := confirm_boots_reviewed_image (ota.trace_edges (Ota.boot fun _ => none) reviewedRun)
  let pre := ota.edges (Ota.boot fun _ => none) (reviewedRun.take 2)
  let e := ota.edge (ota.last (Ota.boot fun _ => none) (reviewedRun.take 2))
    (.confirm true { t := 601000 })
  have hsplit : ota.edges (Ota.boot fun _ => none) reviewedRun = pre ++ [e] := rfl
  have hboot : .setBootPartition otherSlot .ok ∈ e.label.2.ops := by decide +kernel
  exact ⟨h.1, pre, e, hsplit, hboot, (h.2 pre e [] hsplit).1 true _ otherSlot .ok rfl hboot⟩

end GdoBlaq
