import GdoBlaq.Web.Confirm

/-!
# The slots under the firmware handlers

What the firmware handlers act upon: the two slots with what is written in them, the boot choice,
and the restarts.  A request is answered in one step, as in `Ota.lean`, and what it does to the
flash follows one operation at a time, so that the power can fail between any two of them.  The
server takes the next request when the last operation is done; the start task ends on its own.

## Main results

* `device` : the machine, over what `esp_ota_get_next_update_partition` answers for each slot that
  the device can run from.
* `OtaCall.Installs` : the requests that get as far as `esp_ota_begin`.
* `Ota.step_plan` : what a request does to the flash, by its shape.
* `Device.guarded_step` : the running slot is not touched, and no slot is erased before it is
  blocked.
-/

namespace GdoBlaq

/-! ### The machine -/

/-- The flash, the boot choice and the variables of the handlers. -/
structure Device where
  /-- The variables, with the namespace `gdo_ota` as it is stored at the moment. -/
  ota : Ota
  /-- The slot whose image runs. -/
  running : EspPartition
  /-- Whether a slot, by its label, holds an image that was written whole and found valid. -/
  complete : String → Bool
  /-- The slot of the open OTA handle. -/
  writing : Option EspPartition := none
  /-- The slot that `esp_ota_set_boot_partition` has chosen since the boot. -/
  chosen : Option EspPartition := none
  /-- What the request that is worked on has still to do. -/
  todo : List OtaOp := []

/-- A step of the device. -/
inductive DeviceCall where
  | request (c : OtaCall)
  /-- The next operation of the request.  An `esp_ota_begin` that fails may leave the slot
  `intact`. -/
  | op (intact : Bool)
  /-- The end of `wait_for_network_and_start_task`, with the answer to
  `esp_ota_mark_app_valid_cancel_rollback`, and whether the running slot is known. -/
  | startTaskEnd (err : EspErr) (known : Bool) (w : NvsWrite)
  /-- A restart, for whatever reason, into the slot that the bootloader picks.  `app_main` may find
  the storage unusable and erase it. -/
  | reboot (into : EspPartition) (erased : Bool)
  deriving DecidableEq

/-- What a request finds out about the slots is how they are. -/
def OtaCall.meets (next : Option EspPartition) (running : EspPartition) : OtaCall → Bool
  | .upload _ _ u => u.target = next
  | .rollback _ r => r.other = next
  | .status q => q.other = next && q.running.all (· = running)
  | .confirm _ _ | .cancel _ => true
  -- not requests
  | .reboot | .markValid _ _ _ => false

namespace Device

/-- The device after a boot. -/
def boot (slots : String → Option ℕ) (running : EspPartition) (complete : String → Bool) : Device :=
  { ota := Ota.boot slots, running, complete }

/-- One operation on the flash. -/
def exec (d : Device) (intact : Bool) : OtaOp → Device
  | .blockSlot p blocked w => { d with ota := (d.ota.otaBlockSlot p blocked w).1 }
  | .otaBegin p _ err =>
    if err = .ok then
      { d with complete := Function.update d.complete p.label false, writing := some p }
    else if intact then d
    else { d with complete := Function.update d.complete p.label false }
  | .otaAbort => { d with writing := none }
  | .otaEnd err =>
    match d.writing with
    | some p =>
      if err = .ok then
        { d with complete := Function.update d.complete p.label true, writing := none }
      else { d with writing := none }
    | none => d
  | .setBootPartition p err => if err = .ok then { d with chosen := some p } else d
  | .otaWrite _ _ | .createRestartTask _ => d

/-- One step. -/
def step (next : EspPartition → Option EspPartition) (d : Device) :
    DeviceCall → Option (Device × OtaReply)
  | .request c =>
    if d.todo = [] ∧ c.meets (next d.running) d.running = true then
      let (ota, r) := d.ota.step c
      -- the flags are stored by the operations
      some ({ d with ota := { ota with slots := d.ota.slots }, todo := r.ops }, r)
    else none
  | .op intact =>
    match d.todo with
    | op :: todo => some ({ d with todo }.exec intact op, {})
    | [] => none
  | .startTaskEnd err known w =>
    some ({ d with ota := (d.ota.markValid err (if known then some d.running else none) w).1 }, {})
  | .reboot into erased =>
    some (boot (if erased then fun _ => none else d.ota.slots) into d.complete, {})

end Device

/-- The device, where `next` is the answer of `esp_ota_get_next_update_partition` for the slot it
runs from. -/
def device (next : EspPartition → Option EspPartition) : Machine Device DeviceCall OtaReply where
  step := Device.step next

/-- A step of a run. -/
abbrev DeviceStep := LTS.Edge Device (DeviceCall × OtaReply)

/-- The slot that a new device runs from. -/
def firstSlot : EspPartition := ⟨"ota_0", 1900544⟩

/-- `esp_ota_get_next_update_partition` with two slots. -/
def twoSlots (running : EspPartition) : Option EspPartition :=
  some (if running.label = otherSlot.label then firstSlot else otherSlot)

theorem twoSlots_other (p q : EspPartition) (h : twoSlots p = some q) : q.label ≠ p.label := by
  obtain rfl := Option.some.inj h
  split_ifs with hp
  · rw [hp]
    decide
  · exact Ne.symm hp

/-! ### What a request does to the flash -/

/-- The slot that an operation starts to erase. -/
def OtaOp.erased : OtaOp → Option String
  | .otaBegin p _ _ => some p.label
  | _ => none

/-- An upload of `imageSize` bytes that gets as far as erasing `target`. -/
structure Upload.Accepted (u : Upload) (imageSize : ℤ) (target : EspPartition) : Prop where
  pos : 0 < imageSize
  target_eq : u.target = some target
  fits : imageSize ≤ target.size
  alloc : u.chunkAlloc = true
  blocked : u.block.err = .ok

/-- The request is an upload that gets as far as `esp_ota_begin`. -/
def OtaCall.Installs (c : OtaCall) : Prop :=
  ∃ contentLen u target, c = .upload true contentLen u ∧ u.Accepted contentLen.toInt target

theorem OtaCall.not_installs {c : OtaCall} (h : ∀ contentLen u, c ≠ .upload true contentLen u) :
    ¬ c.Installs := by
  rintro ⟨contentLen, u, -, hc, -⟩
  exact h contentLen u hc

/-- The operations of an upload after `esp_ota_begin`. -/
inductive OtaOp.Continues : OtaOp → Prop
  | write (length : ℤ) (err : EspErr) : Continues (.otaWrite length err)
  | abort : Continues .otaAbort
  | finish (err : EspErr) : Continues (.otaEnd err)

/-- The image that awaits its confirmation after a request that installs none. -/
def Ota.KeepsPending (s s' : Ota) : Prop :=
  s'.pendingPartition = none ∨ s'.pendingPartition = s.pendingPartition

/-- What a request does to the flash, where `next` is the slot it does not run from. -/
inductive Ota.Plan (s : Ota) (next : Option EspPartition) (c : OtaCall) (ops : List OtaOp)
    (s' : Ota) : Prop
  /-- At most it blocks the other slot. -/
  | blocks (hnot : ¬ c.Installs) (hkeeps : s.KeepsPending s')
      (hops : ∀ op ∈ ops, ∃ p w, next = some p ∧ op = .blockSlot p true w)
  /-- It chooses the image that awaits its confirmation, or an eligible slot. -/
  | chooses (p : EspPartition) (err : EspErr) (rest : List OtaOp) (hnot : ¬ c.Installs)
      (hkeeps : s.KeepsPending s') (hops : ops = .setBootPartition p err :: rest)
      (hrest : ∀ op ∈ rest, ∃ created, op = .createRestartTask created)
      (hslot : (∀ authorized r, c ≠ .rollback authorized r) ∧ s.pendingPartition = some p ∨
        next = some p ∧ s.slots p.label = some 0)
  /-- It blocks the other slot, erases it and writes to it. -/
  | installs (p : EspPartition) (w : NvsWrite) (n : ℤ) (err : EspErr) (rest : List OtaOp)
      (hin : c.Installs) (hnext : next = some p) (hw : w.err = .ok)
      (hops : ops = .blockSlot p true w :: .otaBegin p n err :: rest)
      (hrest : ∀ op ∈ rest, op.Continues)
      (hpending : s'.pendingPartition = none ∨ s'.pendingPartition = some p ∧ err = .ok ∧
        ∃ written : List ℤ, rest = written.map (OtaOp.otaWrite · .ok) ++ [.otaEnd .ok])

section Plan

variable {s s' : Ota} {r : OtaReply} {next : Option EspPartition} {c : OtaCall} {ops : List OtaOp}
  {u : Upload} {n : ℤ} {p : EspPartition} {err : EspErr}

theorem Ota.Plan.of_blockSlot {blocked : Bool} {w : NvsWrite} (h : s.Plan next c ops s')
    (hmem : .blockSlot p blocked w ∈ ops) : blocked = true ∧ next = some p := by
  cases h with
  | blocks _ _ hall =>
    obtain ⟨q, w', hnext, heq⟩ := hall _ hmem
    cases heq
    exact ⟨rfl, hnext⟩
  | chooses _ _ _ _ _ hops hrest =>
    simp only [hops, List.mem_cons, reduceCtorEq, false_or] at hmem
    obtain ⟨_, heq⟩ := hrest _ hmem
    cases heq
  | installs q w' _ _ _ _ hnext _ hops hrest =>
    simp only [hops, List.mem_cons, reduceCtorEq, false_or] at hmem
    rcases hmem with heq | hmem
    · cases heq
      exact ⟨rfl, hnext⟩
    · cases hrest _ hmem

theorem Ota.Plan.of_otaBegin (h : s.Plan next c ops s') (hmem : .otaBegin p n err ∈ ops) :
    next = some p ∧ ∃ w rest, w.err = .ok ∧ ops = .blockSlot p true w :: rest := by
  cases h with
  | blocks _ _ hall =>
    obtain ⟨_, _, _, heq⟩ := hall _ hmem
    cases heq
  | chooses _ _ _ _ _ hops hrest =>
    simp only [hops, List.mem_cons, reduceCtorEq, false_or] at hmem
    obtain ⟨_, heq⟩ := hrest _ hmem
    cases heq
  | installs q w _ _ _ _ hnext hw hops hrest =>
    simp only [hops, List.mem_cons, reduceCtorEq, false_or] at hmem
    rcases hmem with heq | hmem
    · cases heq
      exact ⟨hnext, w, _, hw, hops⟩
    · cases hrest _ hmem

theorem Ota.Plan.of_setBootPartition (h : s.Plan next c ops s')
    (hmem : .setBootPartition p err ∈ ops) :
    ((∀ authorized r, c ≠ .rollback authorized r) ∧ s.pendingPartition = some p ∨
      next = some p ∧ s.slots p.label = some 0) ∧ ∀ op ∈ ops, op.erased = none := by
  cases h with
  | blocks _ _ hall =>
    obtain ⟨_, _, -, heq⟩ := hall _ hmem
    cases heq
  | chooses q _ rest _ _ hops hrest hslot =>
    have hnone : ∀ op ∈ ops, op.erased = none := by
      rw [hops]
      refine List.forall_mem_cons.2 ⟨rfl, fun op hop => ?_⟩
      obtain ⟨_, rfl⟩ := hrest op hop
      rfl
    rw [hops] at hmem
    rcases List.mem_cons.1 hmem with heq | hmem
    · cases heq
      exact ⟨hslot, hnone⟩
    · obtain ⟨_, heq⟩ := hrest _ hmem
      cases heq
  | installs _ _ _ _ _ _ _ _ hops hrest =>
    simp only [hops, List.mem_cons, reduceCtorEq, false_or] at hmem
    cases hrest _ hmem

theorem receiveLoop_continues {chunks : List OtaChunk} {ops : List OtaOp} {ok : Bool}
    (h : receiveLoop n chunks = (ops, ok)) : ∀ op ∈ ops, op.Continues := by
  induction chunks generalizing n ops with
  | nil =>
    obtain ⟨rfl, -⟩ := Prod.mk.inj h
    simp
  | cons c chunks ih =>
    unfold receiveLoop at h
    split_ifs at h
    · obtain ⟨rfl, -⟩ := Prod.mk.inj h
      simp
    · obtain ⟨rfl, -⟩ := Prod.mk.inj h
      simp
    · obtain ⟨rfl, -⟩ := Prod.mk.inj h
      simpa using .write _ _
    · obtain ⟨rfl, hok⟩ := Prod.mk.inj h
      exact List.forall_mem_cons.2 ⟨.write _ _, ih (Prod.ext rfl hok)⟩

theorem firmwareInstall_plan {target : EspPartition} (hn : 0 ≤ n)
    (h : s.firmwareInstall target n u = (s', r)) (hnone : s.pendingPartition = none) :
    ∃ err rest, r.ops = .otaBegin target n err :: rest ∧ (∀ op ∈ rest, op.Continues) ∧
      (s'.pendingPartition = none ∨ s'.pendingPartition = some target ∧ err = .ok ∧
        ∃ written : List ℤ, rest = written.map (OtaOp.otaWrite · .ok) ++ [.otaEnd .ok]) := by
  unfold Ota.firmwareInstall at h
  rcases hloop : receiveLoop n u.chunks with ⟨writes, ok⟩
  have hthen {op : OtaOp} (hop : op.Continues) : ∀ op' ∈ writes ++ [op], op'.Continues :=
    List.forall_mem_append.2 ⟨receiveLoop_continues hloop, List.forall_mem_singleton.2 hop⟩
  simp only [hloop] at h
  split_ifs at h with hbegin hok hend
  · obtain ⟨rfl, rfl⟩ := Prod.mk.inj h
    exact ⟨_, [], rfl, by simp, .inl hnone⟩
  · obtain ⟨rfl, rfl⟩ := Prod.mk.inj h
    exact ⟨_, writes ++ [.otaAbort], rfl, hthen .abort, .inl hnone⟩
  · obtain ⟨rfl, rfl⟩ := Prod.mk.inj h
    exact ⟨_, writes ++ [.otaEnd u.endErr], rfl, hthen (.finish _), .inl hnone⟩
  · obtain ⟨rfl, rfl⟩ := Prod.mk.inj h
    obtain rfl : ok = true := by simpa using hok
    obtain ⟨written, hops, -, -⟩ := receiveLoop_ok hn hloop
    have hend : u.endErr = .ok := not_not.1 hend
    exact ⟨_, writes ++ [.otaEnd u.endErr], rfl, hthen (.finish _),
      .inr ⟨rfl, not_not.1 hbegin, written, by rw [hops, hend]⟩⟩

/-- An upload: it gets as far as erasing if and only if it is accepted. -/
theorem firmwareUpdate_plan {contentLen : BitVec 32} (hidle : s.uploadInProgress = false)
    (h : s.firmwareUpdatePostHandler true contentLen u = (s', r)) :
    s.Plan u.target (.upload true contentLen u) r.ops s' := by
  have hturned : (∀ target, ¬ u.Accepted contentLen.toInt target) →
      ¬ (OtaCall.upload true contentLen u).Installs := by
    rintro hnone ⟨_, _, target, heq, hacc⟩
    cases heq
    exact hnone target hacc
  simp only [Ota.firmwareUpdatePostHandler, Bool.not_true, Bool.false_eq_true, if_false,
    Ota.firmwareReceive, hidle] at h
  cases htarget : u.target with
  | none =>
    simp only [htarget] at h
    split_ifs at h <;> obtain ⟨rfl, rfl⟩ := Prod.mk.inj h <;>
      exact .blocks (hturned fun _ hacc => by simpa [htarget] using hacc.target_eq) (.inr rfl)
        (by simp)
  | some target =>
    simp only [htarget] at h
    have hthis : ∀ {p}, u.Accepted contentLen.toInt p → p = target := fun hacc =>
      Option.some.inj (hacc.target_eq.symm.trans htarget)
    split_ifs at h with hlen hlarge halloc hblock
    · obtain ⟨rfl, rfl⟩ := Prod.mk.inj h
      exact .blocks (hturned fun _ hacc => hlen.not_gt hacc.pos) (.inr rfl) (by simp)
    · obtain ⟨rfl, rfl⟩ := Prod.mk.inj h
      exact .blocks (hturned fun _ hacc => by cases hthis hacc; exact hlarge.not_ge hacc.fits)
        (.inr rfl) (by simp)
    · obtain ⟨rfl, rfl⟩ := Prod.mk.inj h
      exact .blocks (hturned fun _ hacc => by simp [hacc.alloc] at halloc) (.inr rfl) (by simp)
    · -- the block could not be stored
      obtain ⟨rfl, rfl⟩ := Prod.mk.inj h
      have herr : u.block.err ≠ .ok := by simpa [Ota.otaBlockSlot] using hblock
      exact .blocks (hturned fun _ hacc => herr hacc.blocked) (.inr rfl)
        (by simp)
    · have hstored : u.block.err = .ok := by simpa [Ota.otaBlockSlot] using hblock
      generalize hinst : Ota.firmwareInstall _ target contentLen.toInt u = res at h
      obtain ⟨rfl, rfl⟩ := Prod.mk.inj h
      obtain ⟨err, rest, hops, hrest, hpending⟩ :=
        firmwareInstall_plan (not_le.1 hlen).le hinst rfl
      have hacc : u.Accepted contentLen.toInt target :=
        ⟨not_le.1 hlen, htarget, not_lt.1 hlarge, by simpa using halloc, hstored⟩
      exact .installs target u.block _ err rest ⟨_, u, target, rfl, hacc⟩ rfl hstored
        (congrArg _ hops) hrest hpending

theorem otaSlotEligible_flag {p : EspPartition} {read : SlotRead}
    (h : s.otaSlotEligible p read = true) : s.slots p.label = some 0 := by
  unfold Ota.otaSlotEligible nvsGet at h
  rcases hflag : s.slots p.label with _ | v
  · cases hfails : read.readFails <;> simp [hflag, hfails] at h
  · cases hfails : read.readFails <;> simp [hflag, hfails] at h
    rw [h.2]

theorem firmwareRollback_plan {authorized : Bool} {c : Rollback}
    (h : s.firmwareRollbackPostHandler authorized c = r) :
    r.ops = [] ∨ ∃ p err rest, c.other = some p ∧ s.slots p.label = some 0 ∧
      r.ops = .setBootPartition p err :: rest ∧
      ∀ op ∈ rest, ∃ created, op = .createRestartTask created := by
  unfold Ota.firmwareRollbackPostHandler at h
  rcases hother : c.other with _ | p <;> rcases hdesc : c.appDesc with _ | version <;>
    simp only [hother, hdesc] at h
  case some.some =>
    split_ifs at h with hauth hbusy heligible herr
    iterate 3 exact .inl (h ▸ rfl)
    all_goals
      have hflag : s.slots p.label = some 0 := otaSlotEligible_flag (by simpa using heligible)
    · subst h
      exact .inr ⟨p, _, _, rfl, hflag, rfl, by simp⟩
    · subst h
      exact .inr ⟨p, _, _, rfl, hflag, rfl, by simp⟩
  all_goals split_ifs at h <;> exact .inl (h ▸ rfl)

/-- **What a request does to the flash.**  It blocks the other slot at most, or it chooses an image
that awaits its confirmation or an eligible slot, or it is an accepted upload, which first blocks
the other slot and then erases it. -/
theorem Ota.step_plan {c : OtaCall} {running : EspPartition} (hidle : s.uploadInProgress = false)
    (hmeets : c.meets next running = true) (h : s.step c = (s', r)) :
    s.Plan next c r.ops s' := by
  cases c with
  | upload authorized contentLen u =>
    obtain rfl : u.target = next := by simpa [OtaCall.meets] using hmeets
    cases authorized with
    | false =>
      obtain ⟨rfl, rfl⟩ := Prod.mk.inj h
      exact .blocks (OtaCall.not_installs (by simp)) (.inr rfl) (by simp)
    | true => exact firmwareUpdate_plan hidle h
  | confirm authorized c =>
    have hnot : ¬ (OtaCall.confirm authorized c).Installs := OtaCall.not_installs (by simp)
    unfold step firmwareConfirmPostHandler at h
    cases hpart : s.pendingPartition with
    | none =>
      simp only [hpart] at h
      split_ifs at h <;> obtain ⟨rfl, rfl⟩ := Prod.mk.inj h <;>
        exact .blocks hnot (.inr rfl) (by simp)
    | some p =>
      simp only [hpart] at h
      split_ifs at h with hauth hage herr
      · obtain ⟨rfl, rfl⟩ := Prod.mk.inj h
        exact .blocks hnot (.inr rfl) (by simp)
      · obtain ⟨rfl, rfl⟩ := Prod.mk.inj h
        exact .blocks hnot (.inl rfl) (by simp)
      · obtain ⟨rfl, rfl⟩ := Prod.mk.inj h
        exact .chooses p _ [] hnot (.inr rfl) rfl (by simp) (.inl ⟨by simp, hpart⟩)
      · obtain ⟨rfl, rfl⟩ := Prod.mk.inj h
        exact .chooses p _ _ hnot (.inl rfl) rfl (by simp) (.inl ⟨by simp, hpart⟩)
  | cancel authorized =>
    have hnot : ¬ (OtaCall.cancel authorized).Installs := OtaCall.not_installs (by simp)
    cases authorized <;> obtain ⟨rfl, rfl⟩ := Prod.mk.inj h
    · exact .blocks hnot (.inr rfl) (by simp)
    · exact .blocks hnot (.inl rfl) (by simp)
  | rollback authorized c =>
    have hnot : ¬ (OtaCall.rollback authorized c).Installs := OtaCall.not_installs (by simp)
    obtain rfl : c.other = next := by simpa [OtaCall.meets] using hmeets
    obtain ⟨rfl, hr⟩ := Prod.mk.inj h
    rcases firmwareRollback_plan hr with hops | ⟨p, err, rest, hother, hflag, hops, hrest⟩
    · exact .blocks hnot (.inr rfl) (by simp [hops])
    · exact .chooses p err rest hnot (.inr rfl) hops hrest (.inr ⟨hother, hflag⟩)
  | status q =>
    have hnot : ¬ (OtaCall.status q).Installs := OtaCall.not_installs (by simp)
    obtain ⟨hops, ⟨rfl, -⟩ | ⟨rfl, -⟩⟩ := statusGet_cases h
    · exact .blocks hnot (.inl rfl) (by simp [hops])
    · exact .blocks hnot (.inr rfl) (by simp [hops])
  | reboot => cases hmeets
  | markValid err running w => cases hmeets

end Plan

/-! ### What a step does -/

/-- The four kinds of steps. -/
inductive Device.Steps (next : EspPartition → Option EspPartition) (d : Device)
    (l : DeviceCall × OtaReply) (d' : Device) : Prop
  | request (c : OtaCall) (ota : Ota) (hcall : l.1 = .request c) (hdone : d.todo = [])
      (hmeets : c.meets (next d.running) d.running = true) (hstep : d.ota.step c = (ota, l.2))
      (hdst : d' = { d with ota := { ota with slots := d.ota.slots }, todo := l.2.ops })
  | op (intact : Bool) (op : OtaOp) (todo : List OtaOp) (hcall : l.1 = .op intact)
      (htodo : d.todo = op :: todo) (hdst : d' = { d with todo }.exec intact op)
  | startTaskEnd (err : EspErr) (known : Bool) (w : NvsWrite)
      (hcall : l.1 = .startTaskEnd err known w) (hdst : d' = { d with
        ota := (d.ota.markValid err (if known then some d.running else none) w).1 })
  | reboot (into : EspPartition) (erased : Bool) (hcall : l.1 = .reboot into erased)
      (hdst : d' = .boot (if erased then fun _ => none else d.ota.slots) into d.complete)

section Steps

variable {next : EspPartition → Option EspPartition} {d : Device} {e : DeviceStep}

theorem device_steps (h : (device next).toLTS.step e.src e.label e.dst) :
    e.src.Steps next e.label e.dst := by
  obtain ⟨d, ⟨call, r⟩, d'⟩ := e
  replace h : d.step next call = some (d', r) := h
  unfold Device.step at h
  cases call with
  | request c =>
    simp only at h
    split_ifs at h with hready
    obtain ⟨rfl, rfl⟩ := Prod.mk.inj (Option.some.inj h)
    exact .request c _ rfl hready.1 hready.2 rfl rfl
  | op intact =>
    cases htodo : d.todo with
    | nil => simp [htodo] at h
    | cons op todo =>
      simp only [htodo] at h
      obtain ⟨rfl, rfl⟩ := Prod.mk.inj (Option.some.inj h)
      exact .op intact op todo rfl htodo rfl
  | startTaskEnd err known w =>
    obtain ⟨rfl, rfl⟩ := Prod.mk.inj (Option.some.inj h)
    exact .startTaskEnd err known w rfl rfl
  | reboot into erased =>
    obtain ⟨rfl, rfl⟩ := Prod.mk.inj (Option.some.inj h)
    exact .reboot into erased rfl rfl

namespace Device

section Exec

variable (d) (intact : Bool) (op : OtaOp)

theorem exec_frame : ∃ slots complete writing chosen, d.exec intact op =
    ⟨{ d.ota with slots }, d.running, complete, writing, chosen, d.todo⟩ := by
  unfold exec
  cases op with
  | otaBegin p n err => dsimp only; split_ifs <;> exact ⟨_, _, _, _, rfl⟩
  | otaEnd err => dsimp only; split <;> (try split_ifs) <;> exact ⟨_, _, _, _, rfl⟩
  | setBootPartition p err => dsimp only; split_ifs <;> exact ⟨_, _, _, _, rfl⟩
  | _ => exact ⟨_, _, _, _, rfl⟩

@[simp] theorem exec_running : (d.exec intact op).running = d.running := by
  obtain ⟨_, _, _, _, h⟩ := d.exec_frame intact op
  rw [h]

@[simp] theorem exec_todo : (d.exec intact op).todo = d.todo := by
  obtain ⟨_, _, _, _, h⟩ := d.exec_frame intact op
  rw [h]

@[simp] theorem exec_uploadInProgress :
    (d.exec intact op).ota.uploadInProgress = d.ota.uploadInProgress := by
  obtain ⟨_, _, _, _, h⟩ := d.exec_frame intact op
  rw [h]

@[simp] theorem exec_pendingPartition :
    (d.exec intact op).ota.pendingPartition = d.ota.pendingPartition := by
  obtain ⟨_, _, _, _, h⟩ := d.exec_frame intact op
  rw [h]

end Exec

theorem exec_slots {op : OtaOp} (h : ∀ p blocked w, op ≠ .blockSlot p blocked w) (intact : Bool) :
    (d.exec intact op).ota.slots = d.ota.slots := by
  unfold exec
  cases op with
  | blockSlot p blocked w => exact absurd rfl (h p blocked w)
  | otaBegin p n err => dsimp only; split_ifs <;> rfl
  | otaEnd err => dsimp only; split <;> (try split_ifs) <;> rfl
  | setBootPartition p err => dsimp only; split_ifs <;> rfl
  | _ => rfl

theorem exec_slots_ne {l : String} {op : OtaOp} {intact : Bool}
    (hop : ∀ p blocked w, op = .blockSlot p blocked w → blocked = true)
    (h : d.ota.slots l ≠ some 0) : (d.exec intact op).ota.slots l ≠ some 0 := by
  cases op with
  | blockSlot p blocked w =>
    obtain rfl := hop p blocked w rfl
    simp only [exec, Ota.otaBlockSlot]
    split_ifs
    · by_cases hl : l = p.label
      · simp [hl]
      · simpa [hl] using h
    · exact h
  | _ => rwa [exec_slots (by simp)]

theorem markValid_slots (s : Ota) (running : EspPartition) (err : EspErr) (known : Bool)
    (w : NvsWrite) :
    ∃ slots, (s.markValid err (if known then some running else none) w).1 = { s with slots } ∧
      ∀ l, slots l ≠ s.slots l → running.label = l := by
  unfold Ota.markValid
  cases known with
  | false => exact ⟨s.slots, rfl, fun l h => absurd rfl h⟩
  | true =>
    simp only [if_true]
    split_ifs with herr
    · refine ⟨_, rfl, fun l h => ?_⟩
      by_contra hne
      by_cases hstores : w.stores = true
      · exact h (by rw [if_pos hstores, Function.update_of_ne (Ne.symm hne)])
      · exact h (by rw [if_neg hstores])
    · exact ⟨s.slots, rfl, fun l h => absurd rfl h⟩

/-- **What protects the slots.**  No upload is half-way between two requests; the running slot is
not touched; and a slot that is about to be erased is blocked first. -/
structure Guarded (d : Device) : Prop where
  idle : d.ota.uploadInProgress = false
  blocks : ∀ {p blocked w}, .blockSlot p blocked w ∈ d.todo →
    blocked = true ∧ p.label ≠ d.running.label
  erases : ∀ {pre p n err post}, d.todo = pre ++ .otaBegin p n err :: post →
    p.label ≠ d.running.label ∧
      (d.ota.slots p.label ≠ some 0 ∨ ∃ w, .blockSlot p true w ∈ pre ∧ w.err = .ok)

theorem Guarded.erases_head {p : EspPartition} {n : ℤ} {err : EspErr} {post : List OtaOp}
    (h : d.Guarded) (htodo : d.todo = .otaBegin p n err :: post) :
    p.label ≠ d.running.label ∧ d.ota.slots p.label ≠ some 0 := by
  have hsplit : d.todo = [] ++ .otaBegin p n err :: post := htodo
  obtain ⟨hother, hflag | ⟨_, hmem, -⟩⟩ := h.erases hsplit
  · exact ⟨hother, hflag⟩
  · cases hmem

theorem boot_guarded (slots : String → Option ℕ) (running : EspPartition)
    (complete : String → Bool) : (boot slots running complete).Guarded :=
  ⟨rfl, nofun, fun h => by simp [boot] at h⟩

theorem plan_guarded {c : OtaCall} {s' : Ota} {ops : List OtaOp}
    (hother : ∀ q, next d.running = some q → q.label ≠ d.running.label)
    (hplan : d.ota.Plan (next d.running) c ops s') (hidle : s'.uploadInProgress = false) :
    ({ d with ota := { s' with slots := d.ota.slots }, todo := ops } : Device).Guarded := by
  refine ⟨hidle, fun hmem => ?_, fun {pre p n err post} hsplit => ?_⟩
  · obtain ⟨rfl, hnext⟩ := hplan.of_blockSlot hmem
    exact ⟨rfl, hother _ hnext⟩
  · obtain rfl : ops = pre ++ .otaBegin p n err :: post := hsplit
    have hmem : .otaBegin p n err ∈ pre ++ .otaBegin p n err :: post := by simp
    obtain ⟨hnext, w, rest, hw, hops⟩ := hplan.of_otaBegin hmem
    refine ⟨hother p hnext, .inr ⟨w, ?_, hw⟩⟩
    -- what comes first is the blocking
    cases pre with
    | nil => simp at hops
    | cons op pre =>
      obtain ⟨rfl, -⟩ := List.cons.inj hops
      exact List.mem_cons_self

/-- **What is protected stays so.** -/
theorem guarded_step (hother : ∀ p q, next p = some q → q.label ≠ p.label)
    (hst : (device next).toLTS.step e.src e.label e.dst) (h : e.src.Guarded) : e.dst.Guarded := by
  cases device_steps hst with
  | request c ota hcall hdone hmeets hstep hdst =>
    rw [hdst]
    refine plan_guarded (hother _) (Ota.step_plan h.idle hmeets hstep) ?_
    cases Ota.step_moves hstep with
    | kept hidle => exact hidle.trans h.idle
    | forgotten hidle => exact hidle h.idle
    | validated _ hidle => exact hidle
  | op intact op todo hcall htodo hdst =>
    rw [hdst]
    refine ⟨by simpa using h.idle, fun hmem => ?_, fun {pre p n err post} htail => ?_⟩
    · simp only [exec_todo, exec_running] at hmem ⊢
      exact h.blocks (htodo ▸ List.mem_cons_of_mem op hmem)
    · simp only [exec_todo, exec_running] at htail ⊢
      have hsplit : e.src.todo = (op :: pre) ++ .otaBegin p n err :: post := by
        rw [htodo, htail]
        rfl
      obtain ⟨hother, hflag⟩ := h.erases hsplit
      refine ⟨hother, ?_⟩
      have hop : ∀ q blocked w, op = .blockSlot q blocked w → blocked = true := by
        rintro q blocked w rfl
        exact (h.blocks (htodo ▸ List.mem_cons_self)).1
      rcases hflag with hflag | ⟨w, hmem, hw⟩
      · exact .inl (exec_slots_ne (d := { e.src with todo }) hop hflag)
      · rcases List.mem_cons.1 hmem with rfl | hmem
        · -- it is blocked with this operation
          exact .inl (by simp [exec, Ota.otaBlockSlot, w.stores_of_err hw])
        · exact .inr ⟨w, hmem, hw⟩
  | startTaskEnd err known w hcall hdst =>
    obtain ⟨slots, hmark, hslots⟩ := markValid_slots e.src.ota e.src.running err known w
    rw [hdst, hmark]
    refine ⟨h.idle, h.blocks, fun {pre p n err post} htodo => ?_⟩
    obtain ⟨hother, hflag⟩ := h.erases htodo
    refine ⟨hother, hflag.imp_left fun hflag => ?_⟩
    have hsame : slots p.label = e.src.ota.slots p.label := by
      by_contra hne
      exact hother (hslots _ hne).symm
    simpa [hsame] using hflag
  | reboot into erased hcall hdst =>
    rw [hdst]
    exact boot_guarded _ _ _

end Device

end Steps

end GdoBlaq
