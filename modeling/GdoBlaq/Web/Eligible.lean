import GdoBlaq.Web.Device

/-!
# Eligible slots

A rollback chooses the other slot if its flag in the namespace `gdo_ota` is zero.  The flag is
withdrawn before the slot is erased, and given to the running image when the start task has come to
its end.

## Main results

* `eligible_proved` : over a whole run, whatever fails and whenever the power does, the image in a
  slot with the flag zero has come to the end of the start task since the slot was last erased.
* `rollback_proved` : so a rollback chooses no other image.
-/

namespace GdoBlaq

/-- The step starts to erase a slot. -/
def ErasesSlot (l : String) (e : DeviceStep) : Prop :=
  ∃ intact op todo, e.label.1 = .op intact ∧ e.src.todo = op :: todo ∧ op.erased = some l

/-- The image in the slot has run and come to the end of the start task since the slot was last
erased. -/
def ProvedSince (es : List DeviceStep) (l : String) : Prop :=
  ∃ before e after, es = before ++ e :: after ∧
    (∃ err known w, e.label.1 = .startTaskEnd err known w) ∧ e.src.running.label = l ∧
    ∀ a ∈ after, ¬ ErasesSlot l a

theorem ProvedSince.snoc {es : List DeviceStep} {e : DeviceStep} {l : String}
    (h : ProvedSince es l) (he : ¬ ErasesSlot l e) : ProvedSince (es ++ [e]) l := by
  obtain ⟨before, mark, after, rfl, hcall, hrunning, hafter⟩ := h
  refine ⟨before, mark, after ++ [e], by simp, hcall, hrunning, ?_⟩
  intro a ha
  rcases List.mem_append.1 ha with ha | ha
  · exact hafter a ha
  · obtain rfl := List.mem_singleton.1 ha
    exact he

section Run

variable {next : EspPartition → Option EspPartition} {slots : String → Option ℕ}
  {running : EspPartition} {complete : String → Bool} {es : List DeviceStep} {d : Device}

theorem guarded_run (hother : ∀ p q, next p = some q → q.label ≠ p.label)
    (hrun : (device next).toLTS.Trace (.boot slots running complete) es d) : d.Guarded :=
  hrun.invariant (Device.boot_guarded _ _ _) fun _ _ hst => Device.guarded_step hother hst

theorem not_erasesSlot {e : DeviceStep} (h : ∀ intact, e.label.1 ≠ .op intact) (l : String) :
    ¬ ErasesSlot l e := by
  rintro ⟨intact, _, _, hcall, -⟩
  exact h intact hcall

/-- **A flag that is zero after a step** was zero before it, and the slot is not being erased; or
the slot runs, and the start task has just come to its end. -/
theorem flag_step {e : DeviceStep} {l : String} (hd : e.src.Guarded)
    (hst : (device next).toLTS.step e.src e.label e.dst) (h : e.dst.ota.slots l = some 0) :
    (e.src.ota.slots l = some 0 ∧ ¬ ErasesSlot l e) ∨
      (∃ err known w, e.label.1 = .startTaskEnd err known w) ∧ e.src.running.label = l := by
  cases device_steps hst with
  | request c ota hcall hdone hmeets hstep hdst =>
    rw [hdst] at h
    exact .inl ⟨h, not_erasesSlot (by simp [hcall]) l⟩
  | op intact op todo hcall htodo hdst =>
    have hflag : e.src.ota.slots l = some 0 := by
      by_contra hne
      have hop : ∀ p blocked w, op = .blockSlot p blocked w → blocked = true := by
        rintro p blocked w rfl
        exact (hd.blocks (htodo ▸ List.mem_cons_self)).1
      rw [hdst] at h
      exact Device.exec_slots_ne (d := { e.src with todo }) hop hne h
    refine .inl ⟨hflag, ?_⟩
    rintro ⟨_, op', _, -, htodo', herased⟩
    obtain ⟨rfl, -⟩ := List.cons.inj (htodo.symm.trans htodo')
    -- a slot is erased only when its flag has been withdrawn
    cases op with
    | otaBegin p n err =>
      cases herased
      exact (hd.erases_head htodo).2 hflag
    | _ => cases herased
  | startTaskEnd err known w hcall hdst =>
    obtain ⟨slots, hmark, hslots⟩ :=
      Device.markValid_slots e.src.ota e.src.running err known w
    rw [hdst, hmark] at h
    by_cases hsame : slots l = e.src.ota.slots l
    · exact .inl ⟨hsame.symm.trans h, not_erasesSlot (by simp [hcall]) l⟩
    · exact .inr ⟨⟨err, known, w, hcall⟩, hslots l hsame⟩
  | reboot into erased hcall hdst =>
    refine .inl ⟨?_, not_erasesSlot (by simp [hcall]) l⟩
    rw [hdst] at h
    cases erased with
    | false => exact h
    | true => cases h

/-- **An eligible slot holds a proved image.** -/
theorem eligible_proved (hother : ∀ p q, next p = some q → q.label ≠ p.label)
    (hslots : ∀ l, slots l ≠ some 0)
    (hrun : (device next).toLTS.Trace (.boot slots running complete) es d) {l : String}
    (h : d.ota.slots l = some 0) : ProvedSince es l := by
  have hinv : d.Guarded ∧ ∀ l, d.ota.slots l = some 0 → ProvedSince es l := by
    refine hrun.history
      (I := fun es d => d.Guarded ∧ ∀ l, d.ota.slots l = some 0 → ProvedSince es l)
      ⟨Device.boot_guarded _ _ _, fun l h => absurd h (hslots l)⟩ ?_
    rintro pre e - hst ⟨hd, ih⟩
    refine ⟨Device.guarded_step hother hst hd, ?_⟩
    intro l h
    rcases flag_step hd hst h with ⟨hflag, hstands⟩ | ⟨hcall, hrunning⟩
    · exact (ih l hflag).snoc hstands
    · exact ⟨pre, e, [], rfl, hcall, hrunning, by simp⟩
  exact hinv.2 l h

/-- **A rollback is sound across reboots.**  In every run of requests, reboots and reverts that
starts with no slot eligible, with the power failing between any two operations and the storage at
any of them: a rollback chooses a slot only if the image in it has run and come to the end of the
start task since the slot was last erased. -/
theorem rollback_proved (hother : ∀ p q, next p = some q → q.label ≠ p.label)
    (hslots : ∀ l, slots l ≠ some 0)
    (hrun : (device next).toLTS.Trace (.boot slots running complete) es d)
    {pre post : List DeviceStep} {e : DeviceStep} (hes : es = pre ++ e :: post)
    {authorized : Bool} {c : Rollback} (hcall : e.label.1 = .request (.rollback authorized c))
    {p : EspPartition} {err : EspErr} (hchosen : .setBootPartition p err ∈ e.label.2.ops) :
    ProvedSince pre p.label := by
  subst hes
  obtain ⟨hpre, hst, -⟩ := LTS.Trace.at_edge_iff.1 hrun
  refine eligible_proved hother hslots hpre ?_
  cases device_steps hst with
  | request c' ota hcall' _ hmeets hstep _ =>
    rw [hcall] at hcall'
    cases hcall'
    have hplan := Ota.step_plan (guarded_run hother hpre).idle hmeets hstep
    obtain ⟨⟨hno, -⟩ | ⟨-, hflag⟩, -⟩ := hplan.of_setBootPartition hchosen
    · exact absurd rfl (hno _ _)
    · exact hflag
  | op _ _ _ hcall' => rw [hcall] at hcall'; cases hcall'
  | startTaskEnd _ _ _ hcall' => rw [hcall] at hcall'; cases hcall'
  | reboot _ _ hcall' => rw [hcall] at hcall'; cases hcall'

end Run

/-- A new device reports its first slot; an upload to the other one is confirmed and runs, and is
rolled back. -/
def rolledBackRun : List DeviceCall :=
  [.startTaskEnd .ok true {},
    .request (.upload true 5000 {
      target := some otherSlot, chunks := [⟨4096, .ok⟩, ⟨904, .ok⟩], appDesc := none, t := 1000 }),
    .op true, .op true, .op true, .op true, .op true,
    .request (.confirm true { t := 2000 }), .op true, .op true,
    .reboot otherSlot false,
    .request (.rollback true { other := some firstSlot, appDesc := some (.replicate 32 0) })]

theorem rollback_proved_rolledBack :
    let d : Device := .boot (fun _ => none) firstSlot fun l => l = "ota_0"
    ∃ pre e, (device twoSlots).edges d rolledBackRun = pre ++ [e] ∧
      .setBootPartition firstSlot .ok ∈ e.label.2.ops ∧ ProvedSince pre "ota_0" := by
  intro d
  let pre := (device twoSlots).edges d (rolledBackRun.take 11)
  let e := (device twoSlots).edge ((device twoSlots).last d (rolledBackRun.take 11))
    (.request (.rollback true { other := some firstSlot, appDesc := some (.replicate 32 0) }))
  have hsplit : (device twoSlots).edges d rolledBackRun = pre ++ [e] := rfl
  have hchosen : .setBootPartition firstSlot .ok ∈ e.label.2.ops := by decide +kernel
  exact ⟨pre, e, hsplit, hchosen, rollback_proved twoSlots_other (by simp)
    ((device twoSlots).trace_edges d rolledBackRun) hsplit rfl hchosen⟩

end GdoBlaq
