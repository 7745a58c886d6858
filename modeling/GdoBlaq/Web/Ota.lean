import GdoBlaq.Control.Settings
import GdoBlaq.Lts.Machine

/-!
# Firmware uploads

The firmware handlers of `diag_webserver.cpp` with the variables they share, without the `s_` and
`s_ota_` prefixes, and the namespace `gdo_ota` of the flash storage.  The web server works on one
request at a time, so a request is one step.

Beside its answer a request leaves the list of what it did to the flash and to the boot choice, in
order.  Times are milliseconds of the monotonic clock, `esp_timer_get_time() / 1000`.

## Main results

* `ota` : the machine that serves requests, with reboots in between.
* `firmwareReceive_cases` : an upload is turned down, fails, or is written whole and validated.
* `Ota.Moves` : what a step may do to the image that awaits its confirmation, and
  `Ota.step_moves` : no step does anything else.
-/

namespace GdoBlaq

/-! ### Data -/

/-- `esp_partition_t`: an OTA slot. -/
structure EspPartition where
  label : String
  size : ℕ
  deriving DecidableEq, Repr

/-- What the handlers do outside of their variables, with the answer. -/
inductive OtaOp where
  /-- `ota_block_slot` -/
  | blockSlot (partition : EspPartition) (blocked : Bool) (w : NvsWrite)
  /-- `esp_ota_begin`, which erases the slot. -/
  | otaBegin (partition : EspPartition) (imageSize : ℤ) (err : EspErr)
  | otaWrite (length : ℤ) (err : EspErr)
  | otaAbort
  | otaEnd (err : EspErr)
  | setBootPartition (partition : EspPartition) (err : EspErr)
  /-- The task that restarts the device in 500 ms. -/
  | createRestartTask (created : Bool)
  deriving DecidableEq, Repr

/-- What `/status` says about the two slots. -/
structure OtaStatus where
  runningPartition : String
  fwVersion : CStr
  otherPartition : String
  otherFwVersion : CStr
  otaPending : Bool
  otaPendingVersion : CStr
  otaPendingPartition : String
  otaConfirmRemainingMs : ℤ
  otaRollbackEligible : Bool
  deriving DecidableEq

/-- The answer to a request. -/
inductive HttpReply where
  /-- `authorize_mutation` has answered. -/
  | unauthorized
  | error (status : ℕ) (text : String)
  /-- `httpd_resp_send_500` -/
  | serverError
  | text (body : String)
  /-- The partition, version and size of an image that awaits its confirmation. -/
  | image (partition : String) (version : CStr) (size : ℤ)
  | status (s : OtaStatus)
  /-- What was to be sent did not fit its buffer. -/
  | empty
  deriving DecidableEq

/-- What a step answers, if it is a request, and does. -/
structure OtaReply where
  http : Option HttpReply := none
  ops : List OtaOp := []
  deriving DecidableEq

instance : Inhabited OtaReply := ⟨{}⟩

/-- One turn of the receive loop: what `httpd_req_recv` and `esp_ota_write` answer. -/
structure OtaChunk where
  received : ℤ
  writeErr : EspErr := .ok
  deriving DecidableEq, Repr

/-- `version` of an `esp_app_desc_t`. -/
abbrev AppVersion := Vector UInt8 32

/-- All that an upload meets on its way. -/
structure Upload where
  /-- `esp_ota_get_next_update_partition` -/
  target : Option EspPartition
  chunkAlloc : Bool := true
  block : NvsWrite := {}
  beginErr : EspErr := .ok
  /-- What is received and how it is written; then the connection is closed. -/
  chunks : List OtaChunk
  endErr : EspErr := .ok
  /-- `esp_ota_get_partition_description` -/
  appDesc : Option AppVersion
  /-- When the image has been validated. -/
  t : ℤ
  deriving DecidableEq

/-- A confirmation: its time, the answer to `esp_ota_set_boot_partition`, and whether the restart
task can be created. -/
structure Confirm where
  t : ℤ
  setBootErr : EspErr := .ok
  restartCreated : Bool := true
  deriving DecidableEq, Repr

/-- Whether the flag of a slot can be read. -/
structure SlotRead where
  openErr : EspErr := .ok
  readFails : Bool := false
  deriving DecidableEq, Repr

/-- All that a rollback meets. -/
structure Rollback where
  other : Option EspPartition
  appDesc : Option AppVersion
  read : SlotRead := {}
  setBootErr : EspErr := .ok
  restartCreated : Bool := true
  deriving DecidableEq

/-- All that a status request reads about the slots. -/
structure StatusQuery where
  running : Option EspPartition
  runningDesc : Option AppVersion
  other : Option EspPartition
  otherDesc : Option AppVersion
  read : SlotRead := {}
  /-- The answer fits its buffer. -/
  fits : Bool := true
  t : ℤ
  deriving DecidableEq

/-- The variables of the firmware handlers, and the namespace `gdo_ota`, key by key. -/
structure Ota where
  uploadInProgress : Bool := false
  pendingPartition : Option EspPartition := none
  pendingSinceMs : ℤ := 0
  pendingVersion : CStr := []
  slots : String → Option ℕ

/-- A request, or what happens to the device between two requests. -/
inductive OtaCall where
  | upload (authorized : Bool) (contentLen : BitVec 32) (u : Upload)
  | confirm (authorized : Bool) (c : Confirm)
  | cancel (authorized : Bool)
  | rollback (authorized : Bool) (r : Rollback)
  | status (q : StatusQuery)
  /-- A restart, for whatever reason. -/
  | reboot
  /-- The end of `wait_for_network_and_start_task`: the running image is marked valid. -/
  | markValid (err : EspErr) (running : Option EspPartition) (w : NvsWrite)
  deriving DecidableEq

/-- `OTA_UPLOAD_CHUNK_SIZE` -/
def otaUploadChunkSize : ℤ := 4096

/-- `OTA_CONFIRM_EXPIRY_MS` -/
def otaConfirmExpiryMs : ℤ := 10 * 60 * 1000

/-! ### Handlers -/

namespace Ota

/-- The state after a boot. -/
def boot (slots : String → Option ℕ) : Ota := { slots }

/-- `ota_slot_eligible` -/
def otaSlotEligible (s : Ota) (p : EspPartition) (read : SlotRead) : Bool :=
  if read.openErr ≠ .ok then false
  else match nvsGet read.readFails (s.slots p.label) with
    | .ok blocked => blocked = 0
    | .error _ => false

/-- `ota_block_slot` -/
def otaBlockSlot (s : Ota) (p : EspPartition) (blocked : Bool) (w : NvsWrite) : Ota × Bool :=
  let slots := if w.stores then
      Function.update s.slots p.label (some (if blocked then 1 else 0)) else s.slots
  ({ s with slots }, w.err = .ok)

/-- `ota_clear_pending` -/
def otaClearPending (s : Ota) : Ota :=
  { s with pendingPartition := none, pendingSinceMs := 0, pendingVersion := [] }

end Ota

/-- How much `httpd_req_recv` gives, at most what it is asked for. -/
def OtaChunk.length (c : OtaChunk) (remaining : ℤ) : ℤ :=
  min c.received (min remaining otaUploadChunkSize)

/-- The receive loop of `firmware_receive`: what it does, and `ok`. -/
def receiveLoop : ℤ → List OtaChunk → List OtaOp × Bool
  | remaining, [] => ([], remaining ≤ 0)
  | remaining, c :: chunks =>
    if remaining ≤ 0 then ([], true)
    else if c.length remaining ≤ 0 then ([], false)
    else if c.writeErr ≠ .ok then ([.otaWrite (c.length remaining) c.writeErr], false)
    else
      let (ops, ok) := receiveLoop (remaining - c.length remaining) chunks
      (.otaWrite (c.length remaining) .ok :: ops, ok)

/-- The version of an image, `"unknown"` if it cannot be read. -/
def versionOr (unknown : String) (desc : Option AppVersion) : CStr :=
  match desc with
  | some version => cstr version
  | none => unknown.toList.map byte

namespace Ota

/-- `firmware_receive` from `esp_ota_begin` on. -/
def firmwareInstall (s : Ota) (target : EspPartition) (imageSize : ℤ) (u : Upload) :
    Ota × OtaReply :=
  let opened := OtaOp.otaBegin target imageSize u.beginErr
  if u.beginErr ≠ .ok then
    ({ s with uploadInProgress := false }, ⟨some .serverError, [opened]⟩)
  else
    let (writes, ok) := receiveLoop imageSize u.chunks
    if !ok then
      ({ s with uploadInProgress := false },
        ⟨some (.error 400 "Upload failed"), opened :: writes ++ [.otaAbort]⟩)
    else
      let s := { s with uploadInProgress := false }
      let ops := opened :: writes ++ [.otaEnd u.endErr]
      if u.endErr ≠ .ok then (s, ⟨some (.error 400 "Invalid firmware image"), ops⟩)
      else
        let version := versionOr "unknown" u.appDesc
        -- the copy has room for 31 bytes and the NUL
        ({ s with
            pendingPartition := some target
            pendingSinceMs := u.t
            pendingVersion := version.take 31 },
          ⟨some (.image target.label version imageSize), ops⟩)

/-- `firmware_receive` -/
def firmwareReceive (s : Ota) (imageSize : ℤ) (u : Upload) : Ota × OtaReply :=
  if imageSize ≤ 0 then (s, { http := some (.error 411 "Content-Length required") })
  else if s.uploadInProgress then
    (s, { http := some (.error 409 "An upload is already in progress") })
  else match u.target with
  | none => (s, { http := some .serverError })
  | some target =>
    if imageSize > target.size then
      (s, { http := some (.error 413 "Image larger than OTA partition") })
    else if !u.chunkAlloc then (s, { http := some .serverError })
    else
      let (s, blocked) := s.otaBlockSlot target true u.block
      let block := OtaOp.blockSlot target true u.block
      if !blocked then (s, ⟨some .serverError, [block]⟩)
      else
        let s := { s with uploadInProgress := true }.otaClearPending
        let (s, r) := s.firmwareInstall target imageSize u
        (s, { r with ops := block :: r.ops })

/-- `firmware_update_post_handler` -/
def firmwareUpdatePostHandler (s : Ota) (authorized : Bool) (contentLen : BitVec 32) (u : Upload) :
    Ota × OtaReply :=
  if !authorized then (s, { http := some .unauthorized })
  else s.firmwareReceive contentLen.toInt u

/-- `firmware_confirm_post_handler` -/
def firmwareConfirmPostHandler (s : Ota) (authorized : Bool) (c : Confirm) : Ota × OtaReply :=
  if !authorized then (s, { http := some .unauthorized })
  else match s.pendingPartition with
  | none => (s, { http := some (.error 400 "No pending upload to confirm") })
  | some target =>
    let age := c.t - s.pendingSinceMs
    if age > otaConfirmExpiryMs then
      (s.otaClearPending, { http := some (.error 400 "Pending upload expired - upload again") })
    else
      let setBoot := OtaOp.setBootPartition target c.setBootErr
      if c.setBootErr ≠ .ok then (s, ⟨some .serverError, [setBoot]⟩)
      else
        (s.otaClearPending,
          ⟨some (.text "OK, restarting..."), [setBoot, .createRestartTask c.restartCreated]⟩)

/-- `firmware_cancel_post_handler` -/
def firmwareCancelPostHandler (s : Ota) (authorized : Bool) : Ota × OtaReply :=
  if !authorized then (s, { http := some .unauthorized })
  else (s.otaClearPending, { http := some (.text "OK") })

/-- `firmware_rollback_post_handler` -/
def firmwareRollbackPostHandler (s : Ota) (authorized : Bool) (r : Rollback) : OtaReply :=
  if !authorized then { http := some .unauthorized }
  else if s.uploadInProgress then { http := some (.error 409 "An upload is in progress") }
  else match r.other, r.appDesc with
  | some other, some _ =>
    if !s.otaSlotEligible other r.read then
      { http := some (.error 400 ("The other slot is unconfirmed or has unknown settings " ++
          "compatibility. Upload compatible firmware and choose Confirm instead.")) }
    else
      let setBoot := OtaOp.setBootPartition other r.setBootErr
      if r.setBootErr ≠ .ok then ⟨some .serverError, [setBoot]⟩
      else ⟨some (.text "OK, restarting..."), [setBoot, .createRestartTask r.restartCreated]⟩
  | _, _ => { http := some (.error 400 "Other OTA slot has no valid image to roll back to") }

/-- `status_get_handler`, what concerns the slots.  An image that was not confirmed in time is
forgotten here. -/
def statusGetHandler (s : Ota) (q : StatusQuery) : Ota × OtaReply :=
  let haveOther := q.other.isSome && q.otherDesc.isSome
  let left := if s.pendingPartition.isSome then otaConfirmExpiryMs - (q.t - s.pendingSinceMs) else 0
  let (s, pendingMs) := if left ≤ 0 then (s.otaClearPending, 0) else (s, left)
  let label := fun (p : Option EspPartition) unknown => (p.map EspPartition.label).getD unknown
  let body : OtaStatus := {
    runningPartition := label q.running "unknown"
    fwVersion := versionOr "unknown" q.runningDesc
    otherPartition := if haveOther then label q.other "none" else "none"
    otherFwVersion := if haveOther then versionOr "none" q.otherDesc else "none".toList.map byte
    otaPending := s.pendingPartition.isSome
    otaPendingVersion := s.pendingVersion
    otaPendingPartition := label s.pendingPartition ""
    otaConfirmRemainingMs := pendingMs
    otaRollbackEligible := haveOther && q.other.any (s.otaSlotEligible · q.read) }
  (s, { http := some (if q.fits then .status body else .empty) })

/-- The eligibility that the end of `wait_for_network_and_start_task` records. -/
def markValid (s : Ota) (err : EspErr) (running : Option EspPartition) (w : NvsWrite) :
    Ota × OtaReply :=
  match running with
  | some p =>
    if err = .ok then ((s.otaBlockSlot p false w).1, { ops := [.blockSlot p false w] }) else (s, {})
  | none => (s, {})

/-- One step. -/
def step (s : Ota) : OtaCall → Ota × OtaReply
  | .upload authorized contentLen u => s.firmwareUpdatePostHandler authorized contentLen u
  | .confirm authorized c => s.firmwareConfirmPostHandler authorized c
  | .cancel authorized => s.firmwareCancelPostHandler authorized
  | .rollback authorized r => (s, s.firmwareRollbackPostHandler authorized r)
  | .status q => s.statusGetHandler q
  | .reboot => (boot s.slots, {})
  | .markValid err running w => s.markValid err running w

end Ota

/-- The web server, as far as firmware is concerned. -/
def ota : Machine Ota OtaCall OtaReply where
  step s c := some (s.step c)

/-- A step of a run. -/
abbrev OtaStep := LTS.Edge Ota (OtaCall × OtaReply)

/-! ### What a step does to the image that awaits its confirmation -/

/-- The operation starts to erase a slot. -/
def OtaOp.Erases : OtaOp → Prop
  | .otaBegin _ _ _ => True
  | _ => False

/-- All `n` bytes were written to `p` and the image is valid. -/
def OtaReply.Completes (r : OtaReply) (p : EspPartition) (n : ℤ) : Prop :=
  ∃ (w : NvsWrite) (written : List ℤ), w.err = .ok ∧
    r.ops = .blockSlot p true w :: .otaBegin p n .ok ::
      (written.map (OtaOp.otaWrite · .ok) ++ [.otaEnd .ok]) ∧
    (∀ k ∈ written, 0 < k) ∧ written.sum = n

namespace OtaCall

/-- An upload to `p` of all the bytes announced, validated at `since`. -/
def Validates (c : OtaCall) (r : OtaReply) (p : EspPartition) (since : ℤ) : Prop :=
  ∃ contentLen u, c = .upload true contentLen u ∧ u.t = since ∧ r.Completes p contentLen.toInt

/-- An uploaded image does not stand after this: a slot is erased, or the upload is cancelled, or
the device restarts. -/
def Supersedes (c : OtaCall) (r : OtaReply) : Prop :=
  (∃ op ∈ r.ops, op.Erases) ∨ c = .cancel true ∨ c = .reboot

theorem not_supersedes {c : OtaCall} {r : OtaReply} (hops : ∀ op ∈ r.ops, ¬ op.Erases)
    (hcancel : c ≠ .cancel true) (hreboot : c ≠ .reboot) : ¬ c.Supersedes r := by
  rintro (⟨op, hop, herases⟩ | hcall | hcall)
  · exact hops op hop herases
  · exact hcancel hcall
  · exact hreboot hcall

end OtaCall

section Receive

variable {s s' : Ota} {r : OtaReply} {target : EspPartition} {n : ℤ} {u : Upload} {ops : List OtaOp}

theorem receiveLoop_ok {chunks : List OtaChunk} (hn : 0 ≤ n)
    (h : receiveLoop n chunks = (ops, true)) :
    ∃ written : List ℤ, ops = written.map (OtaOp.otaWrite · .ok) ∧ (∀ k ∈ written, 0 < k) ∧
      written.sum = n := by
  induction chunks generalizing n ops with
  | nil =>
    obtain ⟨rfl, hle⟩ : [] = ops ∧ n ≤ 0 := by simpa [receiveLoop] using h
    obtain rfl : n = 0 := le_antisymm hle hn
    exact ⟨[], rfl, by simp, rfl⟩
  | cons c chunks ih =>
    unfold receiveLoop at h
    split_ifs at h with hle hnone
    · obtain ⟨rfl, -⟩ := Prod.mk.inj h
      obtain rfl : n = 0 := le_antisymm hle hn
      exact ⟨[], rfl, by simp, rfl⟩
    · simp at h
    · simp at h
    · -- this turn wrote some bytes, the later ones write what is left
      have hk : c.length n ≤ n := (min_le_right _ _).trans (min_le_left _ _)
      obtain ⟨rfl, hok⟩ := Prod.mk.inj h
      obtain ⟨written, hops, hpos, hsum⟩ := ih (by omega) (Prod.ext rfl hok)
      refine ⟨c.length n :: written, by simp [hops], ?_, ?_⟩
      · simpa using ⟨by omega, hpos⟩
      · rw [List.sum_cons, hsum]
        omega

theorem firmwareInstall_cases (hn : 0 ≤ n) (h : s.firmwareInstall target n u = (s', r)) :
    s' = { s with uploadInProgress := false } ∨
    (∃ version, s' = ⟨false, some target, u.t, version, s.slots⟩) ∧
      ∃ written : List ℤ, r.ops = .otaBegin target n .ok ::
          (written.map (OtaOp.otaWrite · .ok) ++ [.otaEnd .ok]) ∧
        (∀ k ∈ written, 0 < k) ∧ written.sum = n := by
  unfold Ota.firmwareInstall at h
  rcases hloop : receiveLoop n u.chunks with ⟨writes, ok⟩
  simp only [hloop] at h
  split_ifs at h with hbegin hok hend
  · exact .inl (Prod.mk.inj h).1.symm
  · exact .inl (Prod.mk.inj h).1.symm
  · exact .inl (Prod.mk.inj h).1.symm
  · obtain ⟨rfl, rfl⟩ := Prod.mk.inj h
    obtain rfl : ok = true := by simpa using hok
    obtain ⟨written, rfl, hpos, hsum⟩ := receiveLoop_ok hn hloop
    exact .inr ⟨⟨_, rfl⟩, written, by simp_all, hpos, hsum⟩

/-- **An upload.**  It is turned down before anything is erased, or it fails and no image awaits its
confirmation, or it is written whole and validated. -/
theorem firmwareReceive_cases (h : s.firmwareReceive n u = (s', r)) :
    ((∃ slots, s' = { s with slots }) ∧ ∀ op ∈ r.ops, ¬ op.Erases) ∨
    (s'.pendingPartition = none ∧ s'.uploadInProgress = false) ∨
    ∃ p slots version, s' = ⟨false, some p, u.t, version, slots⟩ ∧ r.Completes p n := by
  unfold Ota.firmwareReceive at h
  cases htarget : u.target with
  | none =>
    simp only [htarget] at h
    split_ifs at h <;> obtain ⟨rfl, rfl⟩ := Prod.mk.inj h <;> exact .inl ⟨⟨s.slots, rfl⟩, by simp⟩
  | some target =>
    simp only [htarget] at h
    split_ifs at h with hlen hbusy hlarge halloc hblock
    iterate 4
      obtain ⟨rfl, rfl⟩ := Prod.mk.inj h
      exact .inl ⟨⟨s.slots, rfl⟩, by simp⟩
    · obtain ⟨rfl, rfl⟩ := Prod.mk.inj h
      exact .inl ⟨⟨_, rfl⟩, by simp [OtaOp.Erases]⟩
    · -- no image awaits its confirmation any more, and the slot is erased
      have hstored : u.block.err = .ok := by simpa [Ota.otaBlockSlot] using hblock
      generalize hinst : Ota.firmwareInstall _ target n u = res at h
      obtain ⟨rfl, rfl⟩ := Prod.mk.inj h
      rcases firmwareInstall_cases (not_le.1 hlen).le hinst with
        hs | ⟨⟨version, hs⟩, written, hops, hpos, hsum⟩
      · rw [hs]
        exact .inr (.inl ⟨rfl, rfl⟩)
      · refine .inr (.inr ⟨target, _, version, hs, u.block, written, hstored, ?_, hpos, hsum⟩)
        exact congrArg _ hops

end Receive

/-- What a step does to the image that awaits its confirmation.  None leaves an upload in progress.
-/
inductive Ota.Moves (s : Ota) (c : OtaCall) (r : OtaReply) (s' : Ota) : Prop
  /-- Nothing, and nothing happens to the slots. -/
  | kept (hidle : s'.uploadInProgress = s.uploadInProgress)
      (hpart : s'.pendingPartition = s.pendingPartition)
      (hsince : s'.pendingSinceMs = s.pendingSinceMs) (hstands : ¬ c.Supersedes r)
  /-- It is forgotten, whatever happens to the slots. -/
  | forgotten (hidle : s.uploadInProgress = false → s'.uploadInProgress = false)
      (hnone : s'.pendingPartition = none)
  /-- There is a new one. -/
  | validated (p : EspPartition) (hidle : s'.uploadInProgress = false)
      (hval : c.Validates r p s'.pendingSinceMs) (hpart : s'.pendingPartition = some p)

namespace Ota

variable {s s' : Ota} {r : OtaReply}

theorem firmwareConfirm_cases {authorized : Bool} {c : Confirm}
    (h : s.firmwareConfirmPostHandler authorized c = (s', r)) :
    (s' = s ∨ s' = s.otaClearPending) ∧ (∀ op ∈ r.ops, ¬ op.Erases) ∧
      ∀ p err, .setBootPartition p err ∈ r.ops →
        s.pendingPartition = some p ∧ c.t - s.pendingSinceMs ≤ otaConfirmExpiryMs := by
  unfold firmwareConfirmPostHandler at h
  cases hpart : s.pendingPartition with
  | none =>
    simp only [hpart] at h
    split_ifs at h <;> obtain ⟨rfl, rfl⟩ := Prod.mk.inj h <;> simp
  | some target =>
    simp only [hpart] at h
    split_ifs at h with hauth hage herr
    · obtain ⟨rfl, rfl⟩ := Prod.mk.inj h
      simp
    · obtain ⟨rfl, rfl⟩ := Prod.mk.inj h
      simp
    · obtain ⟨rfl, rfl⟩ := Prod.mk.inj h
      simp [OtaOp.Erases]
      omega
    · obtain ⟨rfl, rfl⟩ := Prod.mk.inj h
      simp [OtaOp.Erases]
      omega

theorem firmwareRollback_ops (s : Ota) (authorized : Bool) (c : Rollback) :
    ∀ op ∈ (s.firmwareRollbackPostHandler authorized c).ops, ¬ op.Erases := by
  unfold firmwareRollbackPostHandler
  rcases c.other with _ | other <;> rcases c.appDesc with _ | version <;> simp only
  case some.some => split_ifs <;> simp [OtaOp.Erases]
  all_goals split_ifs <;> exact List.forall_mem_nil _

/-- A status request forgets the image that awaits its confirmation, or keeps it and says so. -/
theorem statusGet_cases {q : StatusQuery} (h : s.statusGetHandler q = (s', r)) :
    r.ops = [] ∧
    ((s' = s.otaClearPending ∧ ∀ st, r.http = some (.status st) → st.otaPending = false) ∨
    s' = s ∧ ∃ p, s.pendingPartition = some p ∧ 0 < otaConfirmExpiryMs - (q.t - s.pendingSinceMs) ∧
      ∀ st, r.http = some (.status st) → st.otaPendingPartition = p.label ∧
        st.otaConfirmRemainingMs = otaConfirmExpiryMs - (q.t - s.pendingSinceMs)) := by
  unfold statusGetHandler at h
  cases hpart : s.pendingPartition with
  | none =>
    simp [hpart] at h
    obtain ⟨rfl, rfl⟩ := h
    refine ⟨rfl, .inl ⟨rfl, ?_⟩⟩
    intro st hst
    cases hfits : q.fits <;> simp [hfits] at hst
    rw [← hst]
    rfl
  | some p =>
    by_cases hleft : otaConfirmExpiryMs - (q.t - s.pendingSinceMs) ≤ 0
    · simp only [hpart, Option.isSome_some, if_true, hleft] at h
      obtain ⟨rfl, rfl⟩ := Prod.mk.inj h
      refine ⟨rfl, .inl ⟨rfl, ?_⟩⟩
      intro st hst
      cases hfits : q.fits <;> simp [hfits] at hst
      rw [← hst]
      rfl
    · simp only [hpart, Option.isSome_some, if_true, hleft, if_false] at h
      obtain ⟨rfl, rfl⟩ := Prod.mk.inj h
      refine ⟨rfl, .inr ⟨rfl, p, rfl, not_le.1 hleft, ?_⟩⟩
      intro st hst
      cases hfits : q.fits <;> simp [hfits] at hst
      rw [← hst]
      exact ⟨rfl, rfl⟩

/-- **One step.**  It leaves the image that awaits its confirmation alone, or forgets it, or is an
upload that went through. -/
theorem step_moves {c : OtaCall} (h : s.step c = (s', r)) : Moves s c r s' := by
  cases c with
  | upload authorized contentLen u =>
    unfold step firmwareUpdatePostHandler at h
    cases authorized with
    | false =>
      obtain ⟨rfl, rfl⟩ := Prod.mk.inj h
      exact .kept rfl rfl rfl (by simp [OtaCall.Supersedes])
    | true =>
      rcases firmwareReceive_cases h with ⟨⟨slots, rfl⟩, hops⟩ | ⟨hnone, hidle⟩ | ⟨p, _, _, rfl, hc⟩
      · exact .kept rfl rfl rfl (OtaCall.not_supersedes hops nofun nofun)
      · exact .forgotten (fun _ => hidle) hnone
      · exact .validated p rfl ⟨contentLen, u, rfl, rfl, hc⟩ rfl
  | confirm authorized c =>
    obtain ⟨rfl | rfl, hops, -⟩ := firmwareConfirm_cases h
    · exact .kept rfl rfl rfl (OtaCall.not_supersedes hops nofun nofun)
    · exact .forgotten id rfl
  | cancel authorized =>
    cases authorized with
    | false =>
      obtain ⟨rfl, rfl⟩ := Prod.mk.inj h
      exact .kept rfl rfl rfl (by simp [OtaCall.Supersedes])
    | true =>
      obtain ⟨rfl, rfl⟩ := Prod.mk.inj h
      exact .forgotten id rfl
  | rollback authorized c =>
    obtain ⟨rfl, rfl⟩ := Prod.mk.inj h
    exact .kept rfl rfl rfl
      (OtaCall.not_supersedes (firmwareRollback_ops s authorized c) nofun nofun)
  | status q =>
    obtain ⟨hops, ⟨rfl, -⟩ | ⟨rfl, -⟩⟩ := statusGet_cases h
    · exact .forgotten id rfl
    · exact .kept rfl rfl rfl (by simp [OtaCall.Supersedes, hops])
  | reboot =>
    obtain ⟨rfl, rfl⟩ := Prod.mk.inj h
    exact .forgotten (fun _ => rfl) rfl
  | markValid err running w =>
    unfold step markValid at h
    cases running with
    | none =>
      obtain ⟨rfl, rfl⟩ := Prod.mk.inj h
      exact .kept rfl rfl rfl (by simp [OtaCall.Supersedes])
    | some p =>
      simp only at h
      split_ifs at h <;> obtain ⟨rfl, rfl⟩ := Prod.mk.inj h <;>
        exact .kept rfl rfl rfl (by simp [OtaCall.Supersedes, OtaOp.Erases])

end Ota

end GdoBlaq
