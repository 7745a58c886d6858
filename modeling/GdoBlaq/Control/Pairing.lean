import GdoBlaq.Control.Effect

/-!
# The confirmed protocol

The namespace `gdo_rolling`: what a SYNCED event saves and what the next boot seeds the driver
with.  A Security+ 2.0 confirmation is to be sticky, which depends on reading it back.

## Main results

* `gdoEventHandler_saves` : the event handler saves a protocol only when it is SYNCED.
* `pairing` : the control machine with this namespace.
* `v2_sticky_iff` : a stored Security+ 2.0 stays stored, and every boot that can read it asks for
  it, if and only if no SYNCED event of another protocol fails to read it and then writes.
-/

namespace GdoBlaq

open Firmware

/-! ### The namespace -/

/-- The number under which a protocol is stored. -/
def Protocol.code : Protocol → ℕ
  | .none => 0
  | .secPlusV1 => 1
  | .secPlusV2 => 2
  | .secPlusV1WithSmartPanel => 3
  | .max => 4

/-- The protocol of a stored number with `protocol > 0 && protocol < GDO_PROTOCOL_MAX`. -/
def Protocol.ofCode : ℕ → Option Protocol
  | 1 => some .secPlusV1
  | 2 => some .secPlusV2
  | 3 => some .secPlusV1WithSmartPanel
  | _ => none

/-- The namespace `gdo_rolling`, key by key. -/
structure RollingNvs where
  clientId : Option ℕ := none
  rollingCode : Option ℕ := none
  protocol : Option ℕ := none
  deriving DecidableEq

/-- Which reads of the namespace fail at a boot although the key may be there. -/
structure RollingReads where
  openFails : Bool := false
  clientIdFails : Bool := false
  rollingCodeFails : Bool := false
  protocolFails : Bool := false
  deriving DecidableEq

/-- What a boot hands to the driver. -/
inductive Seed where
  /-- `gdo_set_protocol` -/
  | protocol (p : Protocol)
  /-- `gdo_set_client_id` -/
  | clientId (id : ℕ)
  /-- `gdo_set_rolling_code` -/
  | rollingCode (code : ℕ)
  deriving DecidableEq, Repr

/-- `gdo_load_persisted_rolling_state`: `s_protocol_pinned` and what the driver is seeded with;
`pin` is what `gdo_set_protocol` answers. -/
def gdoLoadPersistedRollingState (n : RollingNvs) (r : RollingReads) (pin : EspErr) :
    Bool × List Seed :=
  if r.openFails then (false, [])
  else
    let protocol := orKeep ((nvsGet r.protocolFails n.protocol).map Protocol.ofCode) none
    let clientId := (orKeep ((nvsGet r.clientIdFails n.clientId).map some) none).map Seed.clientId
    let rollingCode :=
      (orKeep ((nvsGet r.rollingCodeFails n.rollingCode).map some) none).map Seed.rollingCode
    (protocol.isSome && pin = .ok,
      (protocol.map Seed.protocol).toList ++ clientId.toList ++ rollingCode.toList)

/-- What the storage answers to `gdo_save_rolling_state`, and which of the two values reached it
although an error was returned. -/
structure RollingWrite where
  openErr : EspErr := .ok
  clientErr : EspErr := .ok
  codeErr : EspErr := .ok
  commitErr : EspErr := .ok
  clientStored : Bool := false
  codeStored : Bool := false
  deriving DecidableEq

/-- `gdo_save_rolling_state` -/
def gdoSaveRollingState (n : RollingNvs) (clientId rollingCode : ℕ) (w : RollingWrite) :
    RollingNvs :=
  if w.openErr ≠ .ok then n
  else
    let done := w.clientErr = .ok ∧ w.codeErr = .ok ∧ w.commitErr = .ok
    { n with
      clientId := if done ∨ w.clientStored then some clientId else n.clientId
      rollingCode :=
        if done ∨ w.clientErr = .ok ∧ w.codeStored then some rollingCode else n.rollingCode }

/-- The value read back says that V2 is confirmed. -/
def v2Persisted (n : RollingNvs) (readFails : Bool) : Bool :=
  match nvsGet readFails n.protocol with
  | .ok persisted => persisted = Protocol.secPlusV2.code
  | .error _ => false

/-- `gdo_save_synced_protocol`; `readFails` is the failure of the `nvs_get_u8` in it. -/
def gdoSaveSyncedProtocol (n : RollingNvs) (protocol : Protocol) (readFails : Bool)
    (w : NvsWrite) : RollingNvs :=
  if w.openErr ≠ .ok then n
  else if protocol ≠ .secPlusV2 ∧ v2Persisted n readFails then n
  else if w.stores then { n with protocol := some protocol.code } else n

/-! ### With the event handler -/

/-- The firmware with the namespace `gdo_rolling`. -/
structure Paired where
  world : World := {}
  rolling : RollingNvs := {}
  /-- `s_protocol_pinned` -/
  protocolPinned : Bool := false

/-- A step of the control machine, with what the namespace and the driver answer in it. -/
structure PairedAction where
  action : Action
  readFails : Bool := false
  protocolWrite : NvsWrite := {}
  rollingWrite : RollingWrite := {}
  reads : RollingReads := {}
  pin : EspErr := .ok
  deriving DecidableEq

/-- The answer of the step, and what a boot seeds the driver with. -/
structure PairedReply where
  reply : Reply := {}
  seeds : List Seed := []
  deriving DecidableEq, Repr

namespace Paired

/-- One output of the event handler, as far as it saves something. -/
def save (a : PairedAction) (n : RollingNvs) : Out → RollingNvs
  | .saveSyncedProtocol protocol => gdoSaveSyncedProtocol n protocol a.readFails a.protocolWrite
  | .saveRollingState clientId rollingCode =>
    gdoSaveRollingState n clientId rollingCode a.rollingWrite
  | _ => n

/-- Only the event handler saves, and only a boot loads. -/
def step (s : Paired) (a : PairedAction) : Option (Paired × PairedReply) :=
  match s.world.step a.action with
  | none => none
  | some (world, reply) =>
    match a.action.call with
    | .event _ _ _ =>
      some ({ s with world := world, rolling := reply.out.foldl (save a) s.rolling },
        { reply := reply })
    | .reboot _ _ =>
      let (pinned, seeds) := gdoLoadPersistedRollingState s.rolling a.reads a.pin
      some (⟨world, s.rolling, pinned⟩, ⟨reply, seeds⟩)
    | _ => some ({ s with world := world }, { reply := reply })

end Paired

/-- The firmware with its pairing as a machine. -/
def pairing : Machine Paired PairedAction PairedReply := ⟨Paired.step⟩

/-- A step of a run, with the states around it. -/
abbrev PairedStep := LTS.Edge Paired (PairedAction × PairedReply)

/-- Security+ 2.0 is stored. -/
def RollingNvs.ConfirmedV2 (n : RollingNvs) : Prop := n.protocol = some Protocol.secPlusV2.code

instance (n : RollingNvs) : Decidable n.ConfirmedV2 :=
  inferInstanceAs (Decidable (n.protocol = some Protocol.secPlusV2.code))

/-- If the step is a boot that can read the stored protocol, it asks the driver for V2. -/
def AsksForV2 (e : PairedStep) : Prop :=
  e.label.1.action.call.isReboot = true → e.label.1.reads.openFails = false →
    e.label.1.reads.protocolFails = false → Seed.protocol .secPlusV2 ∈ e.label.2.seeds

/-- The step is a SYNCED event of another protocol in which the stored protocol cannot be read but
the new one is written. -/
def Clobbers (e : PairedStep) : Prop :=
  ∃ status rolling, e.label.1.action.call = .event status .synced rolling ∧
    status.synced = true ∧ status.protocol ≠ .secPlusV2 ∧ e.label.1.readFails = true ∧
    e.label.1.protocolWrite.stores = true

/-! ### What the event handler saves -/

section Saves

variable {s : Firmware} {now : ℤ}

/-- The protocols that a list of outputs saves. -/
def savedProtocols (out : List Out) : List Protocol :=
  out.filterMap fun
    | .saveSyncedProtocol protocol => some protocol
    | _ => none

@[simp] theorem savedProtocols_nil : savedProtocols [] = [] := rfl

@[simp] theorem savedProtocols_append (out out' : List Out) :
    savedProtocols (out ++ out') = savedProtocols out ++ savedProtocols out' :=
  List.filterMap_append

@[simp] theorem savedProtocols_notify (n : Notify) (out : List Out) :
    savedProtocols (.notify n :: out) = savedProtocols out := rfl

@[simp] theorem savedProtocols_save (protocol : Protocol) (out : List Out) :
    savedProtocols (.saveSyncedProtocol protocol :: out) = protocol :: savedProtocols out := rfl

@[simp] theorem savedProtocols_rolling (clientId rollingCode : ℕ) (out : List Out) :
    savedProtocols (.saveRollingState clientId rollingCode :: out) = savedProtocols out := rfl

@[simp] theorem setLastDoorState_saves (d : DoorState) :
    savedProtocols (setLastDoorState s now d).2 = [] := rfl

@[simp] theorem targetOfMoving_saves (d : DoorState) : savedProtocols (targetOfMoving d) = [] := by
  cases d <;> rfl

@[simp] theorem targetOfDriver_saves (doorTarget : ℤ) :
    savedProtocols (targetOfDriver doorTarget) = [] := by
  unfold targetOfDriver
  split_ifs <;> rfl

@[simp] theorem protocolTarget_saves (status : GdoStatus) (inferred : DoorState) :
    savedProtocols (protocolTarget s status inferred) = [] := by
  unfold protocolTarget
  split
  · exact targetOfMoving_saves _
  · exact targetOfMoving_saves _
  · split_ifs
    · exact targetOfMoving_saves _
    · exact targetOfDriver_saves _
  · rfl

@[simp] theorem jumpNotice_saves (lastDoor inferred : DoorState) :
    savedProtocols (jumpNotice lastDoor inferred) = [] := by
  unfold jumpNotice
  split_ifs <;> rfl

@[simp] theorem targetOfResolved_saves (status : GdoStatus) (inferred : DoorState) (raw : ℕ) :
    savedProtocols (targetOfResolved status inferred raw) = [] := by
  unfold targetOfResolved
  split
  · rfl
  · rfl
  · split_ifs <;> rfl
  · rfl

@[simp] theorem resolveDoor_saves (status : GdoStatus) (inferred : DoorState) (raw : ℕ) :
    savedProtocols (resolveDoor s now status inferred raw).2 = [] := by
  unfold resolveDoor
  split_ifs <;> simp

@[simp] theorem processDoorPosition_saves (status : GdoStatus) :
    savedProtocols (processDoorPosition s now status).2 = [] := by
  unfold processDoorPosition
  split_ifs <;> simp

theorem gdoEventSynced_saves (status : GdoStatus) (rolling : EspErr) :
    savedProtocols (gdoEventSynced s now status rolling).2 =
      if status.synced = true then [status.protocol] else [] := by
  unfold gdoEventSynced
  cases hsync : status.synced with
  | false => cases rolling <;> rfl
  | true =>
    simp only [Bool.not_true, Bool.false_eq_true, ite_false]
    split_ifs <;> simp

theorem gdoEventMotor_saves (status : GdoStatus) :
    savedProtocols (gdoEventMotor s now status).2 = [] := by
  unfold gdoEventMotor
  split_ifs <;> rfl

/-- **The event handler saves a protocol** when it is told of a sync, the one of the status. -/
theorem gdoEventHandler_saves (status : GdoStatus) (event : GdoEvent) (rolling : EspErr) :
    savedProtocols (gdoEventHandler s now status event rolling).2 =
      if event = .synced ∧ status.synced = true then [status.protocol] else [] := by
  unfold gdoEventHandler
  cases event with
  | synced => simp [gdoEventSwitch, gdoEventSynced_saves]
  | doorPosition => simp [gdoEventSwitch]
  | motor => simp [gdoEventSwitch, gdoEventMotor_saves]
  | _ => rfl

end Saves

/-! ### Runs -/

section Runs

variable {n : RollingNvs} {s s' : Paired} {es : List PairedStep} {e : PairedStep}

theorem gdoSaveRollingState_protocol (clientId rollingCode : ℕ) (w : RollingWrite) :
    (gdoSaveRollingState n clientId rollingCode w).protocol = n.protocol := by
  unfold gdoSaveRollingState
  split_ifs <;> rfl

/-- What a save makes of the stored protocol depends on nothing else in the namespace. -/
def protocolAfter (a : PairedAction) (stored : Option ℕ) (protocol : Protocol) : Option ℕ :=
  (gdoSaveSyncedProtocol { protocol := stored } protocol a.readFails a.protocolWrite).protocol

theorem gdoSaveSyncedProtocol_protocol (a : PairedAction) (protocol : Protocol) :
    (gdoSaveSyncedProtocol n protocol a.readFails a.protocolWrite).protocol =
      protocolAfter a n.protocol protocol := by
  unfold protocolAfter gdoSaveSyncedProtocol v2Persisted
  split_ifs <;> rfl

theorem save_foldl_protocol (a : PairedAction) (out : List Out) :
    (out.foldl (Paired.save a) n).protocol =
      (savedProtocols out).foldl (protocolAfter a) n.protocol := by
  induction out generalizing n with
  | nil => rfl
  | cons o out ih =>
    rw [List.foldl_cons, ih]
    cases o with
    | saveSyncedProtocol protocol =>
      rw [savedProtocols_save, List.foldl_cons, ← gdoSaveSyncedProtocol_protocol]
      rfl
    | saveRollingState clientId rollingCode =>
      exact congrArg (fun stored => (savedProtocols out).foldl (protocolAfter a) stored)
        (gdoSaveRollingState_protocol clientId rollingCode a.rollingWrite)
    | _ => rfl

theorem v2Persisted_of_confirmed (h : n.ConfirmedV2) (readFails : Bool) :
    v2Persisted n readFails = !readFails := by
  unfold v2Persisted nvsGet
  rw [h]
  cases readFails <;> rfl

/-- **The sticky rule.**  Over a confirmed V2, a save keeps it unless it is of another protocol, the
stored value cannot be read back, and the write goes through. -/
theorem protocolAfter_confirmed_iff (a : PairedAction) (protocol : Protocol) :
    protocolAfter a (some Protocol.secPlusV2.code) protocol = some Protocol.secPlusV2.code ↔
      ¬ (protocol ≠ .secPlusV2 ∧ a.readFails = true ∧ a.protocolWrite.stores = true) := by
  have hcode : protocol.code = Protocol.secPlusV2.code ↔ protocol = .secPlusV2 := by
    cases protocol <;> simp [Protocol.code]
  have hpersisted : ∀ readFails,
      v2Persisted { protocol := some Protocol.secPlusV2.code } readFails = !readFails :=
    fun readFails => v2Persisted_of_confirmed (by rfl) readFails
  unfold protocolAfter gdoSaveSyncedProtocol
  by_cases hopen : a.protocolWrite.openErr = .ok
  · by_cases hp : protocol = .secPlusV2
    · subst hp
      simp [hopen]
    · cases hread : a.readFails with
      | false => simp [hopen, hp, hpersisted]
      | true => cases hstores : a.protocolWrite.stores <;> simp [hopen, hp, hpersisted, hcode]
  · have hlost : a.protocolWrite.stores = false := by simp [NvsWrite.stores, hopen]
    simp [hopen, hlost]

theorem clobbers_iff {status : GdoStatus} {event : GdoEvent} {rolling : EspErr}
    (hcall : e.label.1.action.call = .event status event rolling) :
    Clobbers e ↔ (event = .synced ∧ status.synced = true) ∧ status.protocol ≠ .secPlusV2 ∧
      e.label.1.readFails = true ∧ e.label.1.protocolWrite.stores = true := by
  unfold Clobbers
  rw [hcall]
  constructor
  · rintro ⟨_, _, heq, hsync, hp, hread, hstores⟩
    cases heq
    exact ⟨⟨rfl, hsync⟩, hp, hread, hstores⟩
  · rintro ⟨⟨rfl, hsync⟩, hp, hread, hstores⟩
    exact ⟨status, rolling, rfl, hsync, hp, hread, hstores⟩

/-- What a step makes of the namespace: the event handler saves to it, a boot loads from it, and no
other step knows it. -/
theorem pairing_step (hst : pairing.toLTS.step e.src e.label e.dst) :
    (∃ status event rolling, e.label.1.action.call = .event status event rolling ∧
      e.dst.rolling = (gdoEventHandler e.src.world.fw e.label.1.action.t status event
        rolling).2.foldl (Paired.save e.label.1) e.src.rolling) ∨
    (∃ reads setenvOk, e.label.1.action.call = .reboot reads setenvOk ∧
      e.dst.rolling = e.src.rolling ∧ e.label.2.seeds =
        (gdoLoadPersistedRollingState e.src.rolling e.label.1.reads e.label.1.pin).2) ∨
    ((∀ status event rolling, e.label.1.action.call ≠ .event status event rolling) ∧
      e.label.1.action.call.isReboot = false ∧ e.dst.rolling = e.src.rolling) := by
  have hstep : e.src.step e.label.1 = some (e.dst, e.label.2) := hst
  unfold Paired.step at hstep
  cases hworld : e.src.world.step e.label.1.action with
  | none => simp [hworld] at hstep
  | some x =>
    obtain ⟨world, reply⟩ := x
    simp only [hworld] at hstep
    cases hcall : e.label.1.action.call with
    | event status event rolling =>
      simp only [hcall, Option.some.injEq, Prod.mk.injEq] at hstep
      have hout : reply.out = (gdoEventHandler e.src.world.fw e.label.1.action.t status event
          rolling).2 :=
        congrArg (·.out) (World.eq_of_step hworld hcall rfl).2
      exact .inl ⟨_, _, _, rfl, by rw [← hstep.1, ← hout]⟩
    | reboot reads setenvOk =>
      simp only [hcall, Option.some.injEq, Prod.mk.injEq] at hstep
      exact .inr (.inl ⟨_, _, rfl, by rw [← hstep.1], by rw [← hstep.2]⟩)
    | _ =>
      simp only [hcall, Option.some.injEq, Prod.mk.injEq] at hstep
      exact .inr (.inr ⟨by simp, rfl, by rw [← hstep.1]⟩)

theorem confirmed_step_iff (hst : pairing.toLTS.step e.src e.label e.dst)
    (h : e.src.rolling.ConfirmedV2) : e.dst.rolling.ConfirmedV2 ↔ ¬ Clobbers e := by
  rcases pairing_step hst with ⟨status, event, rolling, hcall, hdst⟩ | ⟨_, _, hcall, hdst, -⟩ |
    ⟨hcall, -, hdst⟩
  · unfold RollingNvs.ConfirmedV2 at h ⊢
    rw [clobbers_iff hcall, hdst, save_foldl_protocol, gdoEventHandler_saves, h]
    split_ifs with hsync
    · rw [List.foldl_cons, List.foldl_nil, protocolAfter_confirmed_iff]
      exact not_congr (and_iff_right hsync).symm
    · exact iff_of_true rfl fun hclobber => hsync hclobber.1
  · refine iff_of_true (hdst ▸ h) ?_
    rintro ⟨_, _, hevent, -⟩
    rw [hcall] at hevent
    cases hevent
  · refine iff_of_true (hdst ▸ h) ?_
    rintro ⟨_, _, hevent, -⟩
    exact hcall _ _ _ hevent

theorem asksForV2_of_confirmed (hst : pairing.toLTS.step e.src e.label e.dst)
    (h : e.src.rolling.ConfirmedV2) : AsksForV2 e := by
  intro hboot hopen hread
  rcases pairing_step hst with ⟨_, _, _, hcall, -⟩ | ⟨_, _, hcall, -, hseeds⟩ | ⟨-, hnot, -⟩
  · simp [hcall, Call.isReboot] at hboot
  · unfold RollingNvs.ConfirmedV2 at h
    rw [hseeds]
    simp [gdoLoadPersistedRollingState, hopen, hread, nvsGet, h, orKeep, Except.map,
      Protocol.ofCode, Protocol.code]
  · rw [hboot] at hnot
    cases hnot

/-- **A confirmed Security+ 2.0 stays confirmed**, and every boot that can read it asks the driver
for it, if and only if in no SYNCED event of another protocol the read of the stored one fails and
the write goes through. -/
theorem v2_sticky_iff (hrun : pairing.toLTS.Trace s es s') (h : s.rolling.ConfirmedV2) :
    (∀ e ∈ es, e.dst.rolling.ConfirmedV2 ∧ AsksForV2 e) ↔ ∀ e ∈ es, ¬ Clobbers e := by
  have hkept : (∀ e ∈ es, e.dst.rolling.ConfirmedV2) ↔ ∀ e ∈ es, ¬ Clobbers e :=
    hrun.forall_dst_iff (I := fun s => s.rolling.ConfirmedV2) h fun e _ hst hsrc =>
      confirmed_step_iff hst hsrc
  constructor
  · intro hall
    exact hkept.1 fun e he => (hall e he).1
  · intro hnone e he
    have hsrc : e.src.rolling.ConfirmedV2 :=
      (hrun.invariant_mem (I := fun s => s.rolling.ConfirmedV2) h
        (fun a ha hst hsrc => (confirmed_step_iff hst hsrc).2 (hnone a ha)) he).1
    exact ⟨hkept.2 hnone e he, asksForV2_of_confirmed (hrun.step_of_mem he) hsrc⟩

/-- A sync of Security+ 1.0, as noise can fake one. -/
def falseSync : GdoStatus := { GdoStatus.idle .closed 10000 10000 with protocol := .secPlusV1 }

/-- A paired device that has confirmed V2. -/
def confirmed : Paired := { rolling := { protocol := some Protocol.secPlusV2.code } }

/-- A false sync, another whose write fails, and a boot that can read the namespace. -/
def falseSyncs (readFails : Bool) : List PairedAction :=
  [{ action := ⟨1, .event falseSync .synced .ok⟩, readFails := readFails },
    { action := ⟨2, .event falseSync .synced .ok⟩, readFails := true,
      protocolWrite := { setErr := .fail } },
    { action := ⟨3, .reboot {} true⟩ }]

theorem v2_sticky_falseSyncs :
    let es := pairing.edges confirmed (falseSyncs false)
    (∃ e ∈ es, e.label.1.action.call = .reboot {} true) ∧
      ∀ e ∈ es, e.dst.rolling.ConfirmedV2 ∧ AsksForV2 e := by
  refine ⟨by decide +kernel,
    (v2_sticky_iff (pairing.trace_edges confirmed (falseSyncs false)) rfl).2 fun e he => ?_⟩
  have hmem := pairing.action_mem he
  simp only [falseSyncs, List.mem_cons, List.not_mem_nil, or_false] at hmem
  rintro ⟨status, rolling, hcall, -, -, hread, hstores⟩
  rcases hmem with h | h | h
  · rw [h] at hread
    cases hread
  · rw [h] at hstores
    cases hstores
  · rw [h] at hcall
    cases hcall

/-- **A false sync whose read fails overwrites a confirmed V2**, and the next boot pins the driver
to Security+ 1.0. -/
theorem false_sync_clobbers :
    (∃ e ∈ pairing.edges confirmed (falseSyncs true), ¬ e.dst.rolling.ConfirmedV2) ∧
      ∃ e ∈ pairing.edges confirmed (falseSyncs true), e.label.1.action.call = .reboot {} true ∧
        e.label.1.reads = {} ∧ e.label.2.seeds = [.protocol .secPlusV1] := by
  decide +kernel

end Runs

end GdoBlaq
