import GdoBlaq.Web.Eligible

/-!
# The slot chosen for the next boot

A confirmation and a rollback choose a slot and schedule a restart.  Until it happens, or for good
if the restart task could not be created, the server goes on to take requests, and an upload erases
the slot that does not run, which is the one that was chosen.

## Main results

* `chosen_step_iff` : which steps keep the chosen slot complete.
* `boot_slot_complete_iff` : over a whole run, the slot chosen for the next boot holds a complete
  image if and only if no upload is accepted once a slot has been chosen.
-/

namespace GdoBlaq

namespace Device

/-- The slot chosen for the next boot, if any, holds a complete image, and nothing is about to erase
it. -/
def BootSlotComplete (d : Device) : Prop :=
  ∀ p ∈ d.chosen, d.complete p.label = true ∧ ∀ op ∈ d.todo, op.erased ≠ some p.label

instance (d : Device) : Decidable d.BootSlotComplete :=
  inferInstanceAs (Decidable (∀ p ∈ d.chosen, _ ∧ ∀ op ∈ d.todo, _))

/-- The device when a list of operations has been done, a failing `esp_ota_begin` at its worst. -/
def drain (d : Device) (ops : List OtaOp) : Device := ops.foldl (fun d op => d.exec false op) d

end Device

/-- The bootloader picks a slot with a complete image. -/
def BootsComplete (e : DeviceStep) : Prop :=
  ∀ into erased, e.label.1 = .reboot into erased → e.src.complete into.label = true

/-- An upload is accepted although the slot for the next boot has been chosen. -/
def ErasesChosen (e : DeviceStep) : Prop :=
  ∃ c : OtaCall, e.label.1 = .request c ∧ c.Installs ∧ e.src.chosen.isSome = true

theorem not_erasesChosen {e : DeviceStep} (h : ∀ c, e.label.1 ≠ .request c) : ¬ ErasesChosen e := by
  rintro ⟨c, hcall, -⟩
  exact h c hcall

/-! ### Complete images -/

namespace Device

variable {d d' : Device} {l : String} {op : OtaOp} {ops : List OtaOp} {intact : Bool}

theorem exec_complete (h : d.complete l = true) (hop : op.erased ≠ some l) :
    (d.exec intact op).complete l = true := by
  unfold exec
  cases op with
  | otaBegin p n err =>
    have hne : l ≠ p.label := fun hl => hop (congrArg some hl.symm)
    dsimp only
    split_ifs <;> simp [hne, h]
  | otaEnd err =>
    dsimp only
    split
    · split_ifs
      · by_cases hl : l = ‹EspPartition›.label <;> simp [hl, h]
      · exact h
    · exact h
  | setBootPartition p err => dsimp only; split_ifs <;> exact h
  | _ => exact h

theorem drain_complete (h : d.complete l = true) (hops : ∀ op ∈ ops, op.erased ≠ some l) :
    (d.drain ops).complete l = true := by
  induction ops generalizing d with
  | nil => exact h
  | cons op ops ih =>
    obtain ⟨hop, hops⟩ := List.forall_mem_cons.1 hops
    exact ih (exec_complete h hop) hops

/-- Nothing is complete in `d` that is not in `d'`, and the same slot is being written. -/
structure Below (d d' : Device) : Prop where
  writing : d.writing = d'.writing
  complete : ∀ l, d.complete l = true → d'.complete l = true

theorem update_le {f g : String → Bool} (h : ∀ l, f l = true → g l = true) (p : String) (v : Bool)
    (l : String) (hl : Function.update f p v l = true) : Function.update g p v l = true := by
  by_cases heq : l = p
  · subst heq
    simpa using hl
  · simpa [heq] using h l (by simpa [heq] using hl)

theorem Below.exec (h : d.Below d') : (d.exec false op).Below (d'.exec intact op) := by
  unfold Device.exec
  cases op with
  | otaBegin p n err =>
    by_cases herr : err = .ok
    · simp only [herr, if_true]
      exact ⟨rfl, update_le h.complete _ _⟩
    · cases intact with
      | false =>
        simp only [herr, if_false, Bool.false_eq_true]
        exact ⟨h.writing, update_le h.complete _ _⟩
      | true =>
        -- the slot may have survived
        simp only [herr, if_false, Bool.false_eq_true, if_true]
        refine ⟨h.writing, fun l hl => h.complete l ?_⟩
        by_cases heq : l = p.label
        · simp [heq] at hl
        · simpa [heq] using hl
  | otaEnd err =>
    cases hwriting : d.writing with
    | none => simpa only [hwriting, ← h.writing] using h
    | some p =>
      simp only [← h.writing, hwriting]
      split_ifs
      · exact ⟨rfl, update_le h.complete _ _⟩
      · exact ⟨rfl, h.complete⟩
  | setBootPartition p err => dsimp only; split_ifs <;> exact ⟨h.writing, h.complete⟩
  | otaAbort => exact ⟨rfl, h.complete⟩
  | _ => exact ⟨h.writing, h.complete⟩

theorem Below.drain (h : d.Below d') (ops : List OtaOp) : (d.drain ops).Below (d'.drain ops) := by
  induction ops generalizing d d' with
  | nil => exact h
  | cons op ops ih => exact ih h.exec

theorem drain_upload {p : EspPartition} (written : List ℤ) (h : d.writing = some p) :
    (d.drain (written.map (OtaOp.otaWrite · .ok) ++ [.otaEnd .ok])).complete p.label = true := by
  induction written generalizing d with
  | nil => simp [drain, exec, h]
  | cons k written ih => exact ih (d := d.exec false (.otaWrite k .ok)) h

/-! ### The invariant -/

variable {next : EspPartition → Option EspPartition}

/-- What holds between any two operations. -/
structure Sound (next : EspPartition → Option EspPartition) (d : Device) : Prop where
  guarded : d.Guarded
  /-- The running image is complete. -/
  running : d.complete d.running.label = true
  /-- The image in an eligible slot is complete. -/
  eligible : ∀ l, d.ota.slots l = some 0 → d.complete l = true
  /-- An image that awaits its confirmation is in the other slot, and complete at the end of the
  request. -/
  pending : ∀ p ∈ d.ota.pendingPartition, next d.running = some p ∧
    (d.drain d.todo).complete p.label = true
  /-- A slot is chosen only if its image is complete, and then nothing is erased. -/
  choice : ∀ {p err}, .setBootPartition p err ∈ d.todo → next d.running = some p ∧
    d.complete p.label = true ∧ ∀ op ∈ d.todo, op.erased = none
  /-- The chosen slot is the other one. -/
  chosen : ∀ p ∈ d.chosen, next d.running = some p

theorem boot_sound {slots : String → Option ℕ} {running : EspPartition} {complete : String → Bool}
    (hrunning : complete running.label = true)
    (hslots : ∀ l, slots l = some 0 → complete l = true) :
    (boot slots running complete).Sound next :=
  ⟨boot_guarded _ _ _, hrunning, hslots, nofun, nofun, nofun⟩

theorem plan_erases {s s' : Ota} {c : OtaCall} {ops : List OtaOp} {other : Option EspPartition}
    (hplan : s.Plan other c ops s') :
    (¬ c.Installs ∧ s.KeepsPending s' ∧ ∀ op ∈ ops, op.erased = none) ∨
      c.Installs ∧ ∃ p, other = some p ∧ ∃ op ∈ ops, op.erased = some p.label := by
  cases hplan with
  | blocks hnot hkeeps hops =>
    refine .inl ⟨hnot, hkeeps, ?_⟩
    intro op hop
    obtain ⟨_, _, -, rfl⟩ := hops op hop
    rfl
  | chooses p err rest hnot hkeeps hops hrest hslot =>
    refine .inl ⟨hnot, hkeeps, ?_⟩
    intro op hop
    rw [hops] at hop
    rcases List.mem_cons.1 hop with rfl | hop
    · rfl
    · obtain ⟨_, rfl⟩ := hrest op hop
      rfl
  | installs p w n err rest hin hnext hw hops hrest hpending =>
    exact .inr ⟨hin, p, hnext, .otaBegin p n err, by simp [hops], rfl⟩

variable {e : DeviceStep}

theorem step_complete (hst : (device next).toLTS.step e.src e.label e.dst) {l : String}
    (h : e.src.complete l = true) (hkept : ¬ ErasesSlot l e) : e.dst.complete l = true := by
  cases device_steps hst with
  | request _ _ _ _ _ _ hdst => rw [hdst]; exact h
  | op intact op todo hcall htodo hdst =>
    rw [hdst]
    exact exec_complete (d := { e.src with todo }) h fun herased =>
      hkept ⟨intact, op, todo, hcall, htodo, herased⟩
  | startTaskEnd _ _ _ _ hdst => rw [hdst]; exact h
  | reboot _ _ _ hdst => rw [hdst]; exact h

theorem plan_pending {c : OtaCall} {s' : Ota} {ops : List OtaOp} (hdone : d.todo = [])
    (hpending : ∀ p ∈ d.ota.pendingPartition, next d.running = some p ∧
      (d.drain d.todo).complete p.label = true)
    (hplan : d.ota.Plan (next d.running) c ops s') :
    ∀ p ∈ s'.pendingPartition, next d.running = some p ∧
      (d.drain ops).complete p.label = true := by
  intro p hp
  rcases plan_erases hplan with ⟨-, hnone | hsame, hops⟩ | ⟨hin, -⟩
  · rw [hnone] at hp
    cases hp
  · rw [hsame] at hp
    obtain ⟨hnext, hcomplete⟩ := hpending p hp
    rw [hdone] at hcomplete
    exact ⟨hnext, drain_complete hcomplete fun op hop => by simp [hops op hop]⟩
  · cases hplan with
    | blocks hnot => exact absurd hin hnot
    | chooses _ _ _ hnot => exact absurd hin hnot
    | installs q w n err rest _ hnext _ hops _ hnew =>
      rcases hnew with hnone | ⟨hq, rfl, written, rfl⟩
      · rw [hnone] at hp
        cases hp
      · obtain rfl : q = p := Option.some.inj (hq.symm.trans hp)
        refine ⟨hnext, ?_⟩
        rw [hops]
        exact drain_upload written (d := (d.exec false (.blockSlot q true w)).exec false
          (.otaBegin q n .ok)) rfl

theorem exec_chosen {p : EspPartition} (h : p ∈ (d.exec intact op).chosen) :
    p ∈ d.chosen ∨ op = .setBootPartition p .ok := by
  unfold exec at h
  cases op with
  | otaBegin q n err => dsimp only at h; split_ifs at h <;> exact .inl h
  | otaEnd err => dsimp only at h; split at h <;> (try split_ifs at h) <;> exact .inl h
  | setBootPartition q err =>
    dsimp only at h
    split_ifs at h with herr
    · cases h
      exact .inr (by rw [herr])
    · exact .inl h
  | _ => exact .inl h

/-- The next operation keeps soundness. -/
theorem Sound.exec {todo : List OtaOp} (h : d.Sound next) (htodo : d.todo = op :: todo)
    (hguarded : ({ d with todo }.exec intact op).Guarded)
    (heligible : ∀ l, ({ d with todo }.exec intact op).ota.slots l = some 0 →
      ({ d with todo }.exec intact op).complete l = true) :
    ({ d with todo }.exec intact op).Sound next := by
  have hmem : op ∈ d.todo := htodo ▸ List.mem_cons_self
  refine ⟨hguarded, ?_, heligible, ?_, ?_, ?_⟩
  · -- the running slot is not erased
    rw [exec_running]
    refine exec_complete (d := { d with todo }) h.running ?_
    intro herased
    cases op with
    | otaBegin p n err => exact (h.guarded.erases_head htodo).1 (Option.some.inj herased)
    | _ => cases herased
  · intro p hp
    rw [exec_pendingPartition] at hp
    obtain ⟨hnext, hcomplete⟩ := h.pending p hp
    rw [htodo] at hcomplete
    have hbelow : Below d { d with todo } := ⟨rfl, fun _ => id⟩
    rw [exec_running, exec_todo]
    exact ⟨hnext, (hbelow.exec.drain todo).complete _ hcomplete⟩
  · intro p err hchoice
    rw [exec_todo] at hchoice
    obtain ⟨hnext, hcomplete, herases⟩ := h.choice (htodo ▸ List.mem_cons_of_mem op hchoice)
    rw [exec_running, exec_todo]
    refine ⟨hnext, exec_complete (d := { d with todo }) hcomplete ?_, fun op' hop' =>
      herases op' (htodo ▸ List.mem_cons_of_mem op hop')⟩
    simp [herases op hmem]
  · intro p hp
    rw [exec_running]
    rcases exec_chosen hp with hp | rfl
    · exact h.chosen p hp
    · exact (h.choice hmem).1

/-- **Soundness is kept**, given that the bootloader picks a complete image. -/
theorem sound_step (hother : ∀ p q, next p = some q → q.label ≠ p.label)
    (hst : (device next).toLTS.step e.src e.label e.dst) (hboots : BootsComplete e)
    (h : e.src.Sound next) : e.dst.Sound next := by
  have hguarded := guarded_step hother hst h.guarded
  have heligible : ∀ l, e.dst.ota.slots l = some 0 → e.dst.complete l = true := by
    intro l hflag
    rcases flag_step h.guarded hst hflag with ⟨hflag, hkept⟩ | ⟨⟨_, _, _, hcall⟩, rfl⟩
    · exact step_complete hst (h.eligible l hflag) hkept
    · exact step_complete hst h.running (not_erasesSlot (by simp [hcall]) _)
  cases device_steps hst with
  | request c ota hcall hdone hmeets hstep hdst =>
    have hplan := Ota.step_plan h.guarded.idle hmeets hstep
    rw [hdst] at hguarded heligible ⊢
    refine ⟨hguarded, h.running, heligible, ?_, fun {p err} hmem => ?_, h.chosen⟩
    · intro p hp
      obtain ⟨hnext, hcomplete⟩ := plan_pending hdone h.pending hplan p hp
      have hbelow : Below e.src
          { e.src with ota := { ota with slots := e.src.ota.slots }, todo := e.label.2.ops } :=
        ⟨rfl, fun _ => id⟩
      exact ⟨hnext, (hbelow.drain _).complete _ hcomplete⟩
    · obtain ⟨hslot, herases⟩ := hplan.of_setBootPartition hmem
      rcases hslot with ⟨-, hpending⟩ | ⟨hnext, hflag⟩
      · obtain ⟨hnext, hcomplete⟩ := h.pending p hpending
        rw [hdone] at hcomplete
        exact ⟨hnext, hcomplete, herases⟩
      · exact ⟨hnext, h.eligible _ hflag, herases⟩
  | op intact op todo hcall htodo hdst =>
    rw [hdst] at hguarded heligible ⊢
    exact h.exec htodo hguarded heligible
  | startTaskEnd err known w hcall hdst =>
    obtain ⟨slots, hmark, -⟩ := markValid_slots e.src.ota e.src.running err known w
    rw [hmark] at hdst
    rw [hdst] at hguarded heligible ⊢
    refine ⟨hguarded, h.running, heligible, ?_, h.choice, h.chosen⟩
    intro p hp
    obtain ⟨hnext, hcomplete⟩ := h.pending p hp
    have hbelow : Below e.src { e.src with ota := { e.src.ota with slots } } := ⟨rfl, fun _ => id⟩
    exact ⟨hnext, (hbelow.drain _).complete _ hcomplete⟩
  | reboot into erased hcall hdst =>
    rw [hdst] at heligible ⊢
    exact boot_sound (hboots into erased hcall) heligible

/-! ### The chosen slot -/

/-- **Which steps keep the chosen slot complete**: all but an upload that is accepted once a slot
has been chosen. -/
theorem chosen_step_iff (hst : (device next).toLTS.step e.src e.label e.dst)
    (hsound : e.src.Sound next) (h : e.src.BootSlotComplete) :
    e.dst.BootSlotComplete ↔ ¬ ErasesChosen e := by
  cases device_steps hst with
  | request c ota hcall hdone hmeets hstep hdst =>
    have hplan := Ota.step_plan hsound.guarded.idle hmeets hstep
    have herases : ErasesChosen e ↔ c.Installs ∧ e.src.chosen.isSome = true := by
      constructor
      · rintro ⟨_, hcall', h⟩
        cases hcall.symm.trans hcall'
        exact h
      · exact fun h => ⟨c, hcall, h⟩
    rw [hdst, herases]
    constructor
    · rintro hdst ⟨hin, hsome⟩
      obtain ⟨p, hp⟩ := Option.isSome_iff_exists.1 hsome
      rcases plan_erases hplan with ⟨hnot, -⟩ | ⟨-, q, hnext, op, hop, herased⟩
      · exact hnot hin
      · -- the upload goes to the chosen slot
        obtain rfl : q = p := Option.some.inj (hnext.symm.trans (hsound.chosen p hp))
        exact (hdst q hp).2 op hop herased
    · intro hnot p hp
      refine ⟨(h p hp).1, ?_⟩
      intro op hop
      rcases plan_erases hplan with ⟨-, -, hops⟩ | ⟨hin, -⟩
      · simp [hops op hop]
      · exact absurd ⟨hin, Option.isSome_iff_exists.2 ⟨p, hp⟩⟩ hnot
  | op intact op todo hcall htodo hdst =>
    have hmem : op ∈ e.src.todo := htodo ▸ List.mem_cons_self
    refine iff_of_true ?_ (not_erasesChosen (by simp [hcall]))
    rw [hdst]
    intro p hp
    have hkept : e.src.complete p.label = true ∧ ∀ op ∈ e.src.todo, op.erased ≠ some p.label := by
      rcases exec_chosen hp with hp | rfl
      · exact h p hp
      · obtain ⟨-, hcomplete, hnone⟩ := hsound.choice hmem
        exact ⟨hcomplete, fun op hop => by simp [hnone op hop]⟩
    refine ⟨exec_complete (d := { e.src with todo }) hkept.1 (hkept.2 op hmem), ?_⟩
    intro op' hop'
    rw [exec_todo] at hop'
    exact hkept.2 op' (htodo ▸ List.mem_cons_of_mem op hop')
  | startTaskEnd err known w hcall hdst =>
    refine iff_of_true ?_ (not_erasesChosen (by simp [hcall]))
    rw [hdst]
    exact h
  | reboot into erased hcall hdst =>
    refine iff_of_true ?_ (not_erasesChosen (by simp [hcall]))
    rw [hdst]
    exact nofun

end Device

section Run

variable {next : EspPartition → Option EspPartition} {slots : String → Option ℕ}
  {running : EspPartition} {complete : String → Bool} {es : List DeviceStep} {d : Device}

/-- **The slot chosen for the next boot holds a complete image**, in every state from the choice up
to the restart, if and only if no upload is accepted in between.  The run starts with a boot of a
complete image with no eligible slot that is not complete, and the bootloader picks complete
images. -/
theorem boot_slot_complete_iff (hother : ∀ p q, next p = some q → q.label ≠ p.label)
    (hrunning : complete running.label = true)
    (hslots : ∀ l, slots l = some 0 → complete l = true)
    (hrun : (device next).toLTS.Trace (.boot slots running complete) es d)
    (hboots : ∀ e ∈ es, BootsComplete e) :
    (∀ e ∈ es, e.dst.BootSlotComplete) ↔ ∀ e ∈ es, ¬ ErasesChosen e := by
  have hsound : ∀ e ∈ es, e.src.Sound next := fun e he =>
    (hrun.invariant_mem (I := Device.Sound next) (Device.boot_sound hrunning hslots)
      (fun e he hst => Device.sound_step hother hst (hboots e he)) he).1
  exact hrun.forall_dst_iff (I := Device.BootSlotComplete) nofun fun e he hst =>
    Device.chosen_step_iff hst (hsound e he)

end Run

/-- An upload to the other slot is confirmed, the device restarts into it, and the start task comes
to its end. -/
def confirmedRun (after : List DeviceCall) : List DeviceCall :=
  [.startTaskEnd .ok true {},
    .request (.upload true 5000 {
      target := some otherSlot, chunks := [⟨4096, .ok⟩, ⟨904, .ok⟩], appDesc := none, t := 1000 }),
    .op true, .op true, .op true, .op true, .op true,
    .request (.confirm true { t := 2000 }), .op true, .op true] ++ after

/-- A device with an image in its first slot only. -/
def newDevice : Device := .boot (fun _ => none) firstSlot fun l => l = "ota_0"

theorem boot_slot_complete_confirmed :
    let es := (device twoSlots).edges newDevice (confirmedRun [.reboot otherSlot false])
    (∃ e ∈ es, e.dst.chosen = some otherSlot) ∧ ∀ e ∈ es, e.dst.BootSlotComplete := by
  have hboots : ∀ e ∈ (device twoSlots).edges newDevice (confirmedRun [.reboot otherSlot false]),
      e.label.1 = .reboot otherSlot false → e.src.complete otherSlot.label = true := by
    decide +kernel
  have hchosen : ∀ e ∈ (device twoSlots).edges newDevice (confirmedRun [.reboot otherSlot false]),
      e.src.chosen.isSome = true → e.label.1 ∈ [.op true, .reboot otherSlot false] := by
    decide +kernel
  refine ⟨by decide +kernel, (boot_slot_complete_iff twoSlots_other rfl (by simp)
    ((device twoSlots).trace_edges newDevice _) fun e he into erased hcall => ?_).2 fun e he => ?_⟩
  · have hmem := (device twoSlots).action_mem he
    rw [hcall] at hmem
    obtain ⟨rfl, rfl⟩ : into = otherSlot ∧ erased = false := by simpa [confirmedRun] using hmem
    exact hboots e he hcall
  · rintro ⟨c, hcall, -, hsome⟩
    have hmem := hchosen e he hsome
    rw [hcall] at hmem
    simp at hmem

/-- **An upload after the confirmation**: that was answered with `OK`, the restart has not happened
yet, the upload is accepted, and the slot chosen for the next boot is erased. -/
theorem chosen_slot_erased :
    let es := (device twoSlots).edges newDevice (confirmedRun [
      .request (.upload true 5000 {
        target := some otherSlot, chunks := [], appDesc := none, t := 2100 }),
      .op true, .op true])
    (∃ e ∈ es, e.label.1 = .request (.confirm true { t := 2000 }) ∧
        e.label.2.http = some (.text "OK, restarting...")) ∧
      ∃ e ∈ es, e.dst.chosen = some otherSlot ∧ e.dst.complete otherSlot.label = false ∧
        ¬ e.dst.BootSlotComplete := by
  decide +kernel

end GdoBlaq
