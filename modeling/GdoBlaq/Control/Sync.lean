import GdoBlaq.Control.Commands
import GdoBlaq.Control.Invariant
import GdoBlaq.Control.Pairing
import Mathlib.Algebra.BigOperators.Intervals

/-!
# Syncs that fail

A SYNCED event either tells of a sync or of an attempt that failed.  A failure makes the firmware
move the rolling code forward, by more the more failures there were in a row, and try again; when
they have gone on for too long it reports a pairing fault.  The variables that this is decided on
are a summary of the *streak*: the failures since the last sync or boot.

## Main results

* `Link.Tells.trace` : the variables of the link tell the streak in every state of a run.
* `sync_streak` : what is reported and what the driver is told, in terms of the streak alone.
* `rolling_code_catches_up` : how far a streak moves the rolling code.
-/

namespace GdoBlaq

open Firmware

/-! ### Streaks -/

/-- The streak after a step: the times of the failures in a row, oldest first. -/
def streakAfter (streak : List ℤ) (e : Step) : List ℤ :=
  match e.label.1.call with
  | .event status .synced _ => if status.synced then [] else streak ++ [e.label.1.t]
  | .reboot _ _ => []
  | _ => streak

/-- The streak at the end of a run. -/
def syncStreak (es : List Step) : List ℤ := es.foldl streakAfter []

@[simp] theorem syncStreak_nil : syncStreak [] = [] := rfl

@[simp] theorem syncStreak_snoc (es : List Step) (e : Step) :
    syncStreak (es ++ [e]) = streakAfter (syncStreak es) e := by
  simp [syncStreak]

/-- The time from the first failure of the streak to its last. -/
def streakLength (streak : List ℤ) : ℤ := streak.getLast?.getD 0 - streak.head?.getD 0

/-- The variables of the link tell the streak: how many failures, as far as 32 bits can, and, unless
there are too many for these, since when and whether they have gone on for longer than
`GDO_PAIRING_FAULT_TIMEOUT_MS`. -/
structure Link.Tells (k : Link) (streak : List ℤ) : Prop where
  count : k.syncRetryCount = streak.length % 2 ^ 32
  first : streak.length < 2 ^ 32 → k.syncFirstFailureMs = streak.head?.getD 0
  fault : streak.length < 2 ^ 32 →
    (k.gdoPairingFault = true ↔ gdoPairingFaultTimeoutMs < streakLength streak)

section Streaks

variable {k k' : Link} {streak : List ℤ} {t : ℤ}

@[simp] theorem streakLength_nil : streakLength [] = 0 := rfl

@[simp] theorem streakLength_snoc (streak : List ℤ) (t : ℤ) :
    streakLength (streak ++ [t]) = t - streak.head?.getD t := by
  unfold streakLength
  rw [List.getLast?_concat]
  cases streak <;> simp

theorem Link.Tells.congr (hi : k.Tells streak) (hcount : k'.syncRetryCount = k.syncRetryCount)
    (hfirst : k'.syncFirstFailureMs = k.syncFirstFailureMs)
    (hfault : k'.gdoPairingFault = k.gdoPairingFault) : k'.Tells streak :=
  ⟨hcount.trans hi.count, fun hfew => hfirst.trans (hi.first hfew), hfault ▸ hi.fault⟩

@[simp] theorem boot_link (n : Nvs) (reads : NvsReads) (setenvOk : Bool) :
    (boot n reads setenvOk).link = {} := by
  obtain ⟨_, _, _, _, _, _, h⟩ := boot_eq (n := n) reads setenvOk
  rw [h]

theorem Link.tells_nil (hcount : k.syncRetryCount = 0) (hfirst : k.syncFirstFailureMs = 0)
    (hfault : k.gdoPairingFault = false) : k.Tells [] :=
  ⟨hcount, fun _ => hfirst, fun _ => by simp [hfault, gdoPairingFaultTimeoutMs]⟩

/-- One failure more, at a time that is not before the last. -/
theorem Link.Tells.syncFailed (hi : k.Tells streak) (hlast : ∀ s ∈ streak, s ≤ t) :
    (k.syncFailed t).Tells (streak ++ [t]) := by
  have hfirst : streak.length < 2 ^ 32 →
      (if k.syncRetryCount = 0 then t else k.syncFirstFailureMs) = streak.head?.getD t := by
    intro hfew
    rw [hi.count, Nat.mod_eq_of_lt hfew]
    cases streak with
    | nil => simp
    | cons s rest => simp [hi.first hfew]
  constructor
  · simp only [Link.syncFailed, hi.count, List.length_append, List.length_singleton, u32]
    omega
  · intro hfew
    simp only [Link.syncFailed, hfirst (by simp at hfew; omega)]
    cases streak <;> simp
  · intro hfew
    have hless : streak.length < 2 ^ 32 := by simp at hfew; omega
    simp only [Link.syncFailed, hfirst hless, Bool.or_eq_true, decide_eq_true_eq, hi.fault hless,
      streakLength_snoc]
    refine ⟨?_, Or.inr⟩
    rintro (hold | hnew)
    · -- a fault of the shorter streak is one of the longer
      cases streak with
      | nil => simp [gdoPairingFaultTimeoutMs] at hold
      | cons s rest =>
        have hle := hlast _ (List.getLast_mem (List.cons_ne_nil s rest))
        simp only [streakLength, List.getLast?_eq_some_getLast (List.cons_ne_nil s rest),
          List.head?_cons, Option.getD_some] at hold ⊢
        omega
    · exact hnew

end Streaks

/-! ### Outputs that are pushes -/

section Notifies

variable {s : Firmware} {now : ℤ}

/-- All that `process_door_position` does to the outside are pushes towards HomeKit. -/
theorem processDoorPosition_notifies (status : GdoStatus) :
    ∀ o ∈ (processDoorPosition s now status).2, ∃ n, o = .notify n := by
  have hmoving : ∀ d, ∀ o ∈ targetOfMoving d, ∃ n, o = .notify n := by
    intro d
    cases d <;> simp [targetOfMoving]
  have hprotocol : ∀ d, ∀ o ∈ protocolTarget s status d, ∃ n, o = .notify n := by
    intro d
    unfold protocolTarget targetOfDriver
    split
    · exact hmoving d
    · exact hmoving d
    · split_ifs
      · exact hmoving _
      all_goals simp
    · simp
  have hresolved : ∀ d raw, ∀ o ∈ targetOfResolved status d raw, ∃ n, o = .notify n := by
    intro d raw
    unfold targetOfResolved
    split
    · simp
    · simp
    · split_ifs <;> simp
    · simp
  have hjump : ∀ d d', ∀ o ∈ jumpNotice d d', ∃ n, o = .notify n := by
    intro d d'
    unfold jumpNotice
    split_ifs <;> simp
  intro o
  unfold processDoorPosition resolveDoor
  dsimp only
  split_ifs
  · simp
  · simp only [setLastDoorState, List.mem_append, List.mem_singleton]
    rintro ((ho | ((ho | rfl) | ho)) | rfl)
    · exact hprotocol _ o ho
    · exact hjump _ _ o ho
    · exact ⟨_, rfl⟩
    · exact hresolved _ _ o ho
    · exact ⟨_, rfl⟩
  · simp only [List.append_nil, List.mem_append, List.mem_singleton]
    rintro (ho | rfl)
    · exact hprotocol _ o ho
    · exact ⟨_, rfl⟩

end Notifies

/-! ### Rolling codes -/

/-- The rolling codes that the driver is told. -/
def rollingCodes (out : List Out) : List ℕ :=
  out.filterMap fun
    | .setRollingCode code => some code
    | _ => none

section RollingCodes

variable {s : Firmware} {now fresh : ℤ} {w w' : World} {c : Call} {r : Reply}

@[simp] theorem rollingCodes_nil : rollingCodes [] = [] := rfl

@[simp] theorem rollingCodes_append (out out' : List Out) :
    rollingCodes (out ++ out') = rollingCodes out ++ rollingCodes out' := List.filterMap_append

@[simp] theorem rollingCodes_notify (n : Notify) (out : List Out) :
    rollingCodes (.notify n :: out) = rollingCodes out := rfl

@[simp] theorem rollingCodes_sync (out : List Out) :
    rollingCodes (.sync :: out) = rollingCodes out := rfl

@[simp] theorem rollingCodes_saveProtocol (protocol : Protocol) (out : List Out) :
    rollingCodes (.saveSyncedProtocol protocol :: out) = rollingCodes out := rfl

@[simp] theorem rollingCodes_saveRolling (clientId rollingCode : ℕ) (out : List Out) :
    rollingCodes (.saveRollingState clientId rollingCode :: out) = rollingCodes out := rfl

theorem rollingCodes_of_notifies {out : List Out} (h : ∀ o ∈ out, ∃ n, o = .notify n) :
    rollingCodes out = [] := by
  rw [rollingCodes, List.filterMap_eq_nil_iff]
  intro o ho
  obtain ⟨n, rfl⟩ := h o ho
  rfl

@[simp] theorem setLastDoorState_codes (d : DoorState) :
    rollingCodes (setLastDoorState s now d).2 = [] := rfl

@[simp] theorem processDoorPosition_codes (status : GdoStatus) :
    rollingCodes (processDoorPosition s now status).2 = [] :=
  rollingCodes_of_notifies (processDoorPosition_notifies status)

theorem gdoEventHandler_codes (status : GdoStatus) (event : GdoEvent) (rolling : EspErr) :
    rollingCodes (gdoEventHandler s now status event rolling).2 =
      if event = .synced ∧ status.synced = false then
        [u32 (status.rollingCode + rollingCodeJump (u32 (s.link.syncRetryCount + 1)))] else [] := by
  have hcount : (identifyProtocol s.link status event).syncRetryCount = s.link.syncRetryCount := by
    unfold identifyProtocol
    split_ifs <;> rfl
  unfold gdoEventHandler
  cases event with
  | synced =>
    cases hsync : status.synced with
    | false =>
      cases rolling <;>
        simp [gdoEventSwitch, gdoEventSynced, hsync, Link.syncFailed, hcount, rollingCodes]
    | true =>
      simp only [gdoEventSwitch, gdoEventSynced, hsync, Bool.not_true, Bool.false_eq_true, if_false]
      split_ifs <;> simp_all
  | motor =>
    simp only [gdoEventSwitch, gdoEventMotor]
    split_ifs <;> simp_all
  | obstruction => simp [gdoEventSwitch, gdoEventObstruction]
  | _ => simp [gdoEventSwitch]

@[simp] theorem correctLastDoor_codes (d : DoorState) :
    rollingCodes (correctLastDoor s fresh d).2 = [] := by
  unfold correctLastDoor
  split_ifs <;> simp

@[simp] theorem correctTarget_codes (status : GdoStatus) (d : DoorState) :
    rollingCodes (correctTarget status d) = [] := by
  unfold correctTarget
  split <;> (try split_ifs) <;> rfl

end RollingCodes

/-! ### The link in a step -/

section Steps

variable {s : Firmware} {now fresh : ℤ} {w w' : World} {c : Call} {r : Reply} {e : Step}
  {es : List Step} {streak : List ℤ} {status : GdoStatus} {rolling : EspErr}

@[simp] theorem setLastDoorState_link (d : DoorState) :
    (setLastDoorState s now d).1.link = s.link := by
  unfold setLastDoorState
  dsimp only
  split_ifs <;> rfl

@[simp] theorem processDoorPosition_link (status : GdoStatus) :
    (processDoorPosition s now status).1.link = s.link := by
  unfold processDoorPosition resolveDoor
  dsimp only
  split_ifs <;> simp

@[simp] theorem gdoEventMotor_link (status : GdoStatus) :
    (gdoEventMotor s now status).1.link = s.link := by
  unfold gdoEventMotor
  dsimp only
  split_ifs <;> simp

@[simp] theorem gdoEventObstruction_link (status : GdoStatus) :
    (gdoEventObstruction s status).1.link = s.link := by
  unfold gdoEventObstruction
  dsimp only
  split_ifs <;> rfl

@[simp] theorem correctLastDoor_link (d : DoorState) :
    (correctLastDoor s fresh d).1.link = s.link := by
  unfold correctLastDoor
  split_ifs <;> simp

@[simp] theorem watchdogTransition_link (status recovery : Option GdoStatus) :
    (watchdogTransition s now fresh status recovery).1.link = s.link := by
  unfold watchdogTransition
  split_ifs
  · rfl
  · cases status with
    | none => rfl
    | some status =>
      simp only
      split_ifs
      · rfl
      · cases resolvedState status <;> simp

theorem Effect.link (h : Effect w c w' r) (hperf : w.perform c = some (w', r))
    (hc : c.isReboot = false) (hevent : ∀ status event rolling, c ≠ .event status event rolling) :
    w'.fw.link = w.fw.link := by
  cases h with
  | news hcall =>
    cases c with
    | event status event rolling => exact absurd rfl (hevent status event rolling)
    | watchdogTransition status recovery =>
      simp only [World.perform] at hperf
      split_ifs at hperf
      obtain ⟨hfw, -⟩ := Prod.mk.inj (Option.some.inj hperf)
      have := congrArg (fun w => w.fw.link) hfw
      simpa using this.symm
    | _ => simp [Call.isNews] at hcall
  | rebooted => simp [Call.isReboot] at hc
  | _ => rfl

theorem gdoEventHandler_syncFailed (hsync : status.synced = false) :
    (gdoEventHandler s now status .synced rolling).1.link =
        (identifyProtocol s.link status .synced).syncFailed now ∧
      (gdoEventHandler s now status .synced rolling).2 =
        .setRollingCode
            (u32 (status.rollingCode + rollingCodeJump (u32 (s.link.syncRetryCount + 1)))) ::
          (if rolling = .ok then [.sync] else []) := by
  have hcount : (identifyProtocol s.link status .synced).syncRetryCount =
      s.link.syncRetryCount := by
    unfold identifyProtocol
    split_ifs <;> rfl
  simp [gdoEventHandler, gdoEventSwitch, gdoEventSynced, hsync, Link.syncFailed, hcount]

theorem identifyProtocol_tells {k : Link} {event : GdoEvent} (hi : k.Tells streak) :
    (identifyProtocol k status event).Tells streak := by
  unfold identifyProtocol
  split_ifs
  · exact hi.congr rfl rfl rfl
  · exact hi

theorem gdoEventHandler_tells {event : GdoEvent} (hi : s.link.Tells streak)
    (hfail : event = .synced → status.synced = true) :
    (gdoEventHandler s now status event rolling).1.link.Tells
      (if event = .synced then [] else streak) := by
  have hid : (identifyProtocol s.link status event).Tells streak := identifyProtocol_tells hi
  unfold gdoEventHandler
  cases event with
  | synced =>
    simp only [gdoEventSwitch, gdoEventSynced, hfail rfl, Bool.not_true, Bool.false_eq_true,
      ite_false, processDoorPosition_link, if_true]
    exact Link.tells_nil rfl rfl rfl
  | button =>
    by_cases hpress : status.button = .pressed <;> simpa [gdoEventSwitch, hpress, bump] using hid
  | _ => simpa [gdoEventSwitch] using hid

theorem streakAfter_of_call (h : ∀ status rolling, e.label.1.call ≠ .event status .synced rolling)
    (hc : e.label.1.call.isReboot = false) : streakAfter streak e = streak := by
  unfold streakAfter
  split
  · rename_i hcall
    exact absurd hcall (h _ _)
  · rename_i hcall
    simp [hcall, Call.isReboot] at hc
  · rfl

/-- **The variables tell the streak, and time does not go back within it**: one step. -/
theorem Link.Tells.step (hi : e.src.fw.link.Tells streak) (htime : ∀ s ∈ streak, s ≤ e.src.clock)
    (hst : control.toLTS.step e.src e.label e.dst) :
    e.dst.fw.link.Tells (streakAfter streak e) ∧ ∀ s ∈ streakAfter streak e, s ≤ e.dst.clock := by
  have hperf := World.perform_of_step hst
  rcases World.step_cases hst with ⟨hc, hclock, heff⟩ | ⟨_, _, hcall, -, hdst⟩
  swap
  · rw [streakAfter, hcall, hdst]
    exact ⟨by simpa [World.boot] using Link.tells_nil rfl rfl rfl, by simp⟩
  have hnow : e.dst.clock = e.label.1.t := (heff.counters hc).2.2.1
  have hlate : ∀ s ∈ streak, s ≤ e.label.1.t := fun s hs => (htime s hs).trans hclock
  by_cases hevent : ∃ status event rolling, e.label.1.call = .event status event rolling
  · obtain ⟨status, event, rolling, hcall⟩ := hevent
    obtain ⟨hdst, -⟩ := World.eq_of_step hst hcall rfl
    have hfw : e.dst.fw =
        (gdoEventHandler e.src.fw e.label.1.t status event rolling).1 := congrArg (·.fw) hdst
    rw [hfw, hnow]
    by_cases hfail : event = .synced ∧ status.synced = false
    · obtain ⟨rfl, hsync⟩ := hfail
      have hafter : streakAfter streak e = streak ++ [e.label.1.t] := by
        simp [streakAfter, hcall, hsync]
      rw [hafter, (gdoEventHandler_syncFailed hsync).1]
      refine ⟨(identifyProtocol_tells hi).syncFailed hlate, ?_⟩
      intro s hs
      rcases List.mem_append.1 hs with hs | hs
      · exact hlate s hs
      · exact (List.mem_singleton.1 hs).le
    · have hafter : streakAfter streak e = if event = .synced then [] else streak := by
        unfold streakAfter
        rw [hcall]
        cases event <;> simp_all
      rw [hafter]
      refine ⟨gdoEventHandler_tells hi (by simpa using fun h => by simpa [h] using hfail), ?_⟩
      split_ifs
      · simp
      · exact hlate
  · simp only [not_exists] at hevent
    rw [streakAfter_of_call (fun status rolling => hevent status _ rolling) hc, hnow,
      heff.link hperf hc hevent]
    exact ⟨hi, hlate⟩

end Steps

/-! ### Runs -/

section Runs

variable {w : World} {es : List Step} {e : Step}

/-- **The variables tell the streak** in every state of a run. -/
theorem Link.Tells.trace {n : Nvs} {reads : NvsReads} {setenvOk : Bool} {t₀ : ℤ}
    (hrun : control.toLTS.Trace (World.boot n reads setenvOk t₀) es w) :
    w.fw.link.Tells (syncStreak es) ∧ ∀ s ∈ syncStreak es, s ≤ w.clock := by
  refine hrun.history (I := fun es w => w.fw.link.Tells (syncStreak es) ∧
    ∀ s ∈ syncStreak es, s ≤ w.clock)
    ⟨by simpa [World.boot] using Link.tells_nil rfl rfl rfl, by simp⟩ ?_
  rintro before e _ hst ⟨htells, htime⟩
  rw [syncStreak_snoc]
  exact htells.step htime hst

theorem rollingCodeJump_succ {k : ℕ} (hk : k + 1 < 2 ^ 32) :
    rollingCodeJump (k + 1) = 100 * 2 ^ min k 4 := by
  have hshift : (if 4 < k + 1 then 4 else u32 ((k + 1 : ℕ) - 1)) = min k 4 := by
    unfold u32
    split_ifs
    · omega
    · omega
  have hpow : 2 ^ min k 4 ≤ 2 ^ 4 := Nat.pow_le_pow_right (by norm_num) (min_le_right k 4)
  simp only [rollingCodeJump]
  rw [hshift, Nat.shiftLeft_eq, u32]
  omega

/-- The failed syncs of the streak after a step: the code that each one reported, and the one that
the driver was told. -/
def toldAfter (told : List (ℕ × ℕ)) (e : Step) : List (ℕ × ℕ) :=
  match e.label.1.call with
  | .event status .synced _ =>
    if status.synced then []
    else told ++ (rollingCodes e.label.2.out).map fun code => (status.rollingCode, code)
  | .reboot _ _ => []
  | _ => told

/-- The codes of the streak at the end of a run. -/
def streakCodes (es : List Step) : List (ℕ × ℕ) := es.foldl toldAfter []

/-- How far `k` failures in a row move the code. -/
def catchUp (k : ℕ) : ℕ := ∑ i ∈ Finset.range k, 100 * 2 ^ min i 4

theorem catchUp_eq (k : ℕ) :
    catchUp k = if k ≤ 4 then 100 * (2 ^ k - 1) else 1500 + 1600 * (k - 4) := by
  induction k with
  | zero => rfl
  | succ k ih =>
    rw [catchUp, Finset.sum_range_succ, ← catchUp, ih]
    rcases Nat.lt_trichotomy k 4 with hk | rfl | hk
    · have hpow : 1 ≤ 2 ^ k := Nat.one_le_two_pow
      rw [if_pos (by omega), if_pos (by omega), min_eq_left (by omega), pow_succ]
      omega
    · rfl
    · rw [if_neg (by omega), if_neg (by omega), min_eq_right (by omega)]
      omega

/-- Where every pair rises by its share and starts no lower than the one before it ended, the last
one ends at least the sum of the shares above the start. -/
theorem le_of_rises {share : ℕ → ℕ} {told : List (ℕ × ℕ)} {first last : ℕ × ℕ}
    (hchain : told.IsChain fun p q => p.2 ≤ q.1)
    (hrises : ∀ i p, told[i]? = some p → p.1 + share i ≤ p.2)
    (hfirst : told.head? = some first) (hlast : told.getLast? = some last) :
    first.1 + ∑ i ∈ Finset.range told.length, share i ≤ last.2 := by
  induction told using List.reverseRecOn generalizing last with
  | nil => cases hfirst
  | append_singleton told p ih =>
    obtain rfl : p = last := by simpa using hlast
    have hp : p.1 + share told.length ≤ p.2 := hrises told.length p (by simp)
    rw [List.length_append, List.length_singleton, Finset.sum_range_succ]
    cases hbefore : told.getLast? with
    | none =>
      obtain rfl := List.getLast?_eq_none_iff.1 hbefore
      obtain rfl : p = first := by simpa using hfirst
      simpa using hp
    | some q =>
      have hne : told ≠ [] := by
        rintro rfl
        cases hbefore
      obtain ⟨hfront, -, hlink⟩ := List.isChain_append.1 hchain
      have hq := ih hfront (fun i x hx => hrises i x (by
        rw [List.getElem?_append_left (List.getElem?_eq_some_iff.1 hx).1, hx]))
        (by rwa [List.head?_append_of_ne_nil _ hne] at hfirst) hbefore
      have hle : q.2 ≤ p.1 := hlink q hbefore p rfl
      omega

theorem length_lt_of_rises {told : List (ℕ × ℕ)} (hchain : told.IsChain fun p q => p.2 ≤ q.1)
    (hroom : ∀ p ∈ told, p.1 < 2 ^ 32)
    (hrises : ∀ i p, told[i]? = some p → i + 1 < 2 ^ 32 → p.1 + 100 ≤ p.2) :
    told.length < 2 ^ 32 := by
  have hfrom : ∀ i (hi : i < told.length), i < 2 ^ 32 → 100 * i ≤ told[i].1 := by
    intro i
    induction i with
    | zero => simp
    | succ i ih =>
      intro hi hfew
      have hbefore := ih (Nat.lt_of_succ_lt hi) (Nat.lt_of_succ_lt hfew)
      have hrise := hrises i _ (List.getElem?_eq_getElem (Nat.lt_of_succ_lt hi)) hfew
      have hnext := hchain.getElem i hi
      omega
  by_contra hmany
  have hi : 2 ^ 26 < told.length := by omega
  have hlarge := hfrom (2 ^ 26) hi (by norm_num)
  have hsmall := hroom _ (List.getElem_mem hi)
  omega

@[simp] theorem streakCodes_snoc (es : List Step) (e : Step) :
    streakCodes (es ++ [e]) = toldAfter (streakCodes es) e := by
  simp [streakCodes]

/-- The codes belong to the streak, and each failure that 32 bits can count moves the reported code by
its share. -/
structure ToldOf (told : List (ℕ × ℕ)) (streak : List ℤ) : Prop where
  length : told.length = streak.length
  rise : ∀ i p, told[i]? = some p → i + 1 < 2 ^ 32 → p.2 = u32 (p.1 + 100 * 2 ^ min i 4)

theorem rollingCodes_of_syncFailed {status : GdoStatus} {rolling : EspErr}
    (hst : control.toLTS.step e.src e.label e.dst)
    (hcall : e.label.1.call = .event status .synced rolling) (hsync : status.synced = false) :
    rollingCodes e.label.2.out =
      [u32 (status.rollingCode + rollingCodeJump (u32 (e.src.fw.link.syncRetryCount + 1)))] := by
  obtain ⟨-, hr⟩ := World.eq_of_step hst hcall rfl
  rw [hr]
  refine (gdoEventHandler_codes status .synced rolling).trans ?_
  rw [if_pos ⟨rfl, hsync⟩]
  rfl

theorem ToldOf.step {told : List (ℕ × ℕ)} {streak : List ℤ} (hi : ToldOf told streak)
    (htells : e.src.fw.link.Tells streak) (hst : control.toLTS.step e.src e.label e.dst) :
    ToldOf (toldAfter told e) (streakAfter streak e) := by
  unfold toldAfter streakAfter
  split
  · rename_i status rolling hcall
    cases hsync : status.synced with
    | true => exact ⟨rfl, by simp⟩
    | false =>
      rw [rollingCodes_of_syncFailed hst hcall hsync, List.map_singleton]
      refine ⟨by simp [hi.length], ?_⟩
      intro i p hp hfew
      rcases Nat.lt_trichotomy i told.length with hlt | rfl | hgt
      · rw [if_neg (by simp), List.getElem?_append_left hlt] at hp
        exact hi.rise i p hp hfew
      · rw [if_neg (by simp), List.getElem?_concat_length] at hp
        obtain rfl := Option.some.inj hp
        have hcount : u32 (e.src.fw.link.syncRetryCount + 1) = told.length + 1 := by
          rw [htells.count, hi.length, u32]
          rw [hi.length] at hfew
          omega
        rw [hcount, rollingCodeJump_succ hfew]
        push_cast
        rfl
      · rw [if_neg (by simp), List.getElem?_eq_none (by simp; omega)] at hp
        cases hp
  · exact ⟨rfl, by simp⟩
  · exact hi

theorem ToldOf.trace {n : Nvs} {reads : NvsReads} {setenvOk : Bool} {t₀ : ℤ}
    (hrun : control.toLTS.Trace (World.boot n reads setenvOk t₀) es w) :
    ToldOf (streakCodes es) (syncStreak es) := by
  refine (hrun.history (I := fun es w => (w.fw.link.Tells (syncStreak es) ∧
    ∀ s ∈ syncStreak es, s ≤ w.clock) ∧ ToldOf (streakCodes es) (syncStreak es))
    ⟨Link.Tells.trace (.nil _), ⟨rfl, by simp [streakCodes]⟩⟩ ?_).2
  intro before e _ hst ⟨⟨htells, htime⟩, htold⟩
  rw [syncStreak_snoc, streakCodes_snoc]
  exact ⟨htells.step htime hst, htold.step htells hst⟩

/-- **A streak catches up.**  As long as the driver reports at least the code that it was last told
and no code reaches the end of its range, `k` failures in a row have moved the rolling code at least
`catchUp k` forward. -/
theorem rolling_code_catches_up {n : Nvs} {reads : NvsReads} {setenvOk : Bool} {t₀ : ℤ}
    (hrun : control.toLTS.Trace (World.boot n reads setenvOk t₀) es w) {first last : ℕ × ℕ}
    (hkept : (streakCodes es).IsChain fun p q => p.2 ≤ q.1)
    (hroom : ∀ p ∈ streakCodes es, p.1 + 1600 < 2 ^ 32)
    (hfirst : (streakCodes es).head? = some first) (hlast : (streakCodes es).getLast? = some last) :
    first.1 + catchUp (syncStreak es).length ≤ last.2 := by
  have htold := ToldOf.trace hrun
  have hrises : ∀ i p, (streakCodes es)[i]? = some p → i + 1 < 2 ^ 32 →
      p.1 + 100 * 2 ^ min i 4 ≤ p.2 := by
    intro i p hp hfew
    have hshare : 2 ^ min i 4 ≤ 2 ^ 4 := Nat.pow_le_pow_right (by norm_num) (min_le_right i 4)
    have hcap := hroom p (List.mem_of_getElem? hp)
    have hrise := htold.rise i p hp hfew
    unfold u32 at hrise
    zify at hrise hshare hcap ⊢
    omega
  have hfew : (streakCodes es).length < 2 ^ 32 := by
    refine length_lt_of_rises hkept (fun p hp => (hroom p hp).trans_le' le_self_add) ?_
    intro i p hp hi
    have hone : 1 ≤ 2 ^ min i 4 := Nat.one_le_two_pow
    exact (Nat.add_le_add_left (by omega) _).trans (hrises i p hp hi)
  rw [← htold.length]
  refine le_of_rises hkept (fun i p hp => hrises i p hp ?_) hfirst hlast
  exact lt_of_le_of_lt (List.getElem?_eq_some_iff.1 hp).1 hfew

/-- Six attempts that fail, after which the driver was told 4700 more than the first one reported,
and that have gone on for a quarter of an hour and a second. -/
def failingSyncs : List Action :=
  [(0, 10), (1000, 110), (2000, 310), (3000, 710), (4000, 1510), (901000, 3110)].map
    fun (t, code) => ⟨t, .event { GdoStatus.idle .closed 0 0 with
      synced := false, rollingCode := code } .synced .ok⟩

theorem rolling_code_catches_up_failing :
    10 + catchUp (syncStreak (control.edges (World.boot {} {} true 0) failingSyncs)).length ≤
      4710 := by
  have hfirst : (streakCodes (control.edges (World.boot {} {} true 0) failingSyncs)).head? =
      some (10, 110) := by
    decide +kernel
  have hlast : (streakCodes (control.edges (World.boot {} {} true 0) failingSyncs)).getLast? =
      some (3110, 4710) := by
    decide +kernel
  exact rolling_code_catches_up (control.trace_edges _ _) (by decide +kernel) (by decide +kernel)
    hfirst hlast

end Runs

end GdoBlaq
