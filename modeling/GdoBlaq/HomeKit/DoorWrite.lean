import GdoBlaq.Control.Invariant
import GdoBlaq.HomeKit.Home

/-!
# Writes to Target Door State

`gdo_svc_set` asks the door control first and queues the target after that, so a write can fail
although the command is on its way.

## Main results

* `failed_write_acts_iff` : a failed write has a physical effect exactly if only its target was
  refused.
* `refused_target_opens` : an open that is carried out and reported as failed.
-/

namespace GdoBlaq

open Firmware

/-- What a write callback returns. -/
inductive HapResult where
  | success
  | fail
  deriving DecidableEq, Repr

/-- `gdo_svc_set` for a batch of writes to Target Door State: its turns, and `ret`.  Before each
turn other tasks may make some steps. -/
def Home.gdoSvcSet (s : Home) (ret : HapResult) :
    List (List HomeCall × DoorWrite) → Option (List HomeStep × HapResult)
  | [] => some ([], ret)
  | (others, d) :: batch => do
    let s := home.last s others
    let (s', r) ← s.svcTurn d
    let ret := if r.status = some .success then ret else .fail
    let (turns, ret) ← s'.gdoSvcSet ret batch
    some (⟨s, (.doorWrite d, r), s'⟩ :: turns, ret)

/-- A command that the driver took. -/
def Out.Sent : Out → Prop
  | .request _ _ _ err | .retry _ _ err => err = .ok
  | _ => False

instance : DecidablePred Out.Sent
  | .request _ _ _ err | .retry _ _ err => inferInstanceAs (Decidable (err = .ok))
  | .notify _ | .sync | .setRollingCode _ | .saveSyncedProtocol _ | .saveRollingState _ _ =>
    .isFalse id

/-- Between the two states a command was transmitted, or the warning of a close was started. -/
def ActsOnDoor (w : World) (r : Reply) (w' : World) : Prop :=
  (∃ o ∈ r.out, o.Sent) ∨ ∃ tid v, w.tasks tid = none ∧ w'.tasks tid = some v

/-- A close of a door that is closed. -/
def DoorWrite.Needless (d : DoorWrite) (s : Firmware) : Prop :=
  TargetState.ofValue d.value = some .closed ∧ alreadyClosed s d.status = true

section

variable {w w' : World} {r : Reply} {d : DoorWrite} {tgt : TargetState}

theorem not_actsOnDoor (hout : ∀ o ∈ r.out, ¬ o.Sent) (htasks : w'.tasks = w.tasks) :
    ¬ ActsOnDoor w r w' := by
  rintro (⟨o, ho, hsent⟩ | ⟨tid, v, hnone, hsome⟩)
  · exact hout o ho hsent
  · rw [htasks, hnone] at hsome
    cases hsome

/-- **What a request does.**  It acts on the door exactly if it is accepted and is no close of a
closed door. -/
theorem request_actsOnDoor_iff (hfresh : ∀ i, w.nextTask ≤ i → w.tasks i = none)
    (htgt : TargetState.ofValue d.value = some tgt)
    (hst : w.step ⟨d.t, d.call tgt⟩ = some (w', r)) :
    ActsOnDoor w r w' ↔ r.err = .ok ∧ ¬ d.Needless w.fw := by
  replace hst := World.perform_of_step hst
  unfold DoorWrite.Needless
  cases tgt with
  | opened =>
    obtain ⟨rfl, rfl⟩ := Prod.mk.inj (Option.some.inj hst)
    have hneeded : ¬ (TargetState.ofValue d.value = some .closed ∧
      alreadyClosed w.fw d.status = true) := by
      simp [htgt]
    by_cases herr : d.err = .ok
    · exact iff_of_true (.inl ⟨_, List.mem_singleton_self _, herr⟩) ⟨herr, hneeded⟩
    · refine iff_of_false (not_actsOnDoor ?_ rfl) fun hyes => herr hyes.1
      rintro o ho
      obtain rfl := List.mem_singleton.1 ho
      exact herr
  | closed =>
    simp only [DoorWrite.call, World.perform] at hst
    rw [htgt]
    rcases gdoControlClose_cases (s := (w.tick d.t).fw) d.status d.start with
      ⟨err, he, hclosed⟩ | he | ⟨-, hclosed, he⟩
    · rw [he] at hst
      obtain ⟨rfl, rfl⟩ := Prod.mk.inj (Option.some.inj hst)
      refine iff_of_false (not_actsOnDoor (by simp) rfl) ?_
      rintro ⟨herr, hneeded⟩
      exact hneeded ⟨rfl, (hclosed herr).2⟩
    · rw [he] at hst
      obtain ⟨rfl, rfl⟩ := Prod.mk.inj (Option.some.inj hst)
      exact iff_of_false (not_actsOnDoor (by simp) rfl) (by simp)
    · rw [he] at hst
      obtain ⟨rfl, rfl⟩ := Prod.mk.inj (Option.some.inj hst)
      refine iff_of_true (.inr ⟨w.nextTask, _, hfresh _ le_rfl, Function.update_self ..⟩) ⟨rfl, ?_⟩
      rintro ⟨-, hthere⟩
      simp [World.tick] at hclosed
      simp [hclosed] at hthere

end

section

variable {s s' : Home} {d : DoorWrite} {r : HomeReply}

/-- **One turn.**  A failed write has acted on the door exactly if its target was refused; a write
that succeeded has acted, unless there was nothing to do, and its target is the one accepted
last. -/
theorem Home.Turned.actsOnDoor_iff (h : Home.Turned s d s' r)
    (hfresh : ∀ i, s.world.nextTask ≤ i → s.world.tasks i = none) :
    (r.status ≠ some .success →
      (ActsOnDoor s.world r.control s'.world ↔
        (∃ tgt, r.pushes = [(.targetDoor tgt, .refused)]) ∧ ¬ d.Needless s.world.fw)) ∧
    (r.status = some .success →
      (¬ ActsOnDoor s.world r.control s'.world → d.Needless s.world.fw) ∧
        ∃ tgt, TargetState.ofValue d.value = some tgt ∧ s'.hub.lastTarget = some tgt) := by
  cases h with
  | invalid => exact ⟨fun _ => iff_of_false (not_actsOnDoor (by simp) rfl) (by simp), by simp⟩
  | declined htgt hst herr =>
    have hno := mt (request_actsOnDoor_iff hfresh htgt hst).1 fun hyes => herr hyes.1
    exact ⟨fun _ => iff_of_false hno (by simp), by simp⟩
  | @accepted tgt w r h p htgt hst herr hpush =>
    have hacts := request_actsOnDoor_iff hfresh htgt hst
    simp only [herr, true_and] at hacts
    refine ⟨?_, fun hok => ⟨?_, tgt, htgt, ?_⟩⟩
    · intro hfailed
      obtain rfl : p = .refused := by
        by_contra hp
        simp [hp] at hfailed
      rw [hacts]
      exact (and_iff_right ⟨tgt, rfl⟩).symm
    · intro hno
      exact not_not.1 (mt hacts.2 hno)
    · have hdel := (s.hub.drain d.wait.dequeues).notify_delivered
        (.targetDoor tgt) d.wait.mutexTaken
      rw [hpush] at hdel
      cases hdel with
      | same hold => exact hold.symm
      | queued => rfl
      | refused => simp at hok
      | half hn => cases hn
      | hidden hn => cases hn

theorem Bookkeeping.last (hi : Bookkeeping s.world) (others : List HomeCall) :
    Bookkeeping (home.last s others).world := by
  obtain ⟨_, hrun⟩ := home_trace_world (home.trace_edges s others)
  exact hi.trace hrun

theorem gdoSvcSet_turns (hbook : Bookkeeping s.world) {batch : List (List HomeCall × DoorWrite)}
    {ret ret' : HapResult} {turns : List HomeStep}
    (hset : s.gdoSvcSet ret batch = some (turns, ret')) :
    (∀ e ∈ turns, ∃ d, e.label.1 = .doorWrite d ∧ Home.Turned e.src d e.dst e.label.2 ∧
      Bookkeeping e.src.world) ∧
    (ret' = .fail ↔ ret = .fail ∨ ∃ e ∈ turns, e.label.2.status ≠ some .success) := by
  induction batch generalizing s ret turns with
  | nil =>
    obtain ⟨rfl, rfl⟩ := Prod.mk.inj (Option.some.inj hset)
    simp
  | cons head batch ih =>
    obtain ⟨others, d⟩ := head
    simp only [Home.gdoSvcSet, Option.bind_eq_bind, Option.bind_eq_some_iff] at hset
    obtain ⟨⟨s', r⟩, hturn, ⟨rest, ret''⟩, hrest, he⟩ := hset
    obtain ⟨rfl, rfl⟩ := Prod.mk.inj (Option.some.inj he)
    have hturned := Home.svcTurn_turned hturn
    have hsrc := hbook.last others
    obtain ⟨_, hworld⟩ := hturned.trace_world
    obtain ⟨hturns, hret⟩ := ih (hsrc.trace hworld) hrest
    refine ⟨List.forall_mem_cons.2 ⟨⟨d, rfl, hturned, hsrc⟩, hturns⟩, ?_⟩
    rw [hret, List.exists_mem_cons_iff]
    by_cases hok : r.status = some .success
    · simp [hok]
    · simp [hok]

/-- **When a failed write has had an effect.**  From every state of a run, for every batch of writes
to Target Door State and whatever fails: a write that is reported as failed has transmitted a
command or started a warning exactly if it was more than a close of a closed door, was accepted, and
only its target was refused; a write that succeeded has done so, unless it was such a close, and its
target is accepted; and the batch fails exactly if one of its writes did. -/
theorem failed_write_acts_iff {n : Nvs} {reads : NvsReads} {setenvOk : Bool} {t₀ : ℤ} {q m : Bool}
    {es turns : List HomeStep} (hrun : home.toLTS.Trace (Home.boot n reads setenvOk t₀ q m) es s)
    {batch : List (List HomeCall × DoorWrite)} {ret : HapResult}
    (hset : s.gdoSvcSet .success batch = some (turns, ret)) :
    (∀ e ∈ turns, ∃ d, e.label.1 = .doorWrite d ∧
      (e.label.2.status ≠ some .success →
        (ActsOnDoor e.src.world e.label.2.control e.dst.world ↔
          (∃ tgt, e.label.2.pushes = [(.targetDoor tgt, .refused)]) ∧
            ¬ d.Needless e.src.world.fw)) ∧
      (e.label.2.status = some .success →
        (¬ ActsOnDoor e.src.world e.label.2.control e.dst.world → d.Needless e.src.world.fw) ∧
          ∃ tgt, TargetState.ofValue d.value = some tgt ∧ e.dst.hub.lastTarget = some tgt)) ∧
    (ret = .fail ↔ ∃ e ∈ turns, e.label.2.status ≠ some .success) := by
  obtain ⟨_, hworld⟩ := home_trace_world hrun
  have hbook : Bookkeeping s.world :=
    Bookkeeping.trace hworld (Sound.boot n reads setenvOk t₀ 0).book
  obtain ⟨hturns, hret⟩ := gdoSvcSet_turns hbook hset
  refine ⟨?_, by simpa using hret⟩
  intro e he
  obtain ⟨d, hcall, hturned, hsrc⟩ := hturns e he
  exact ⟨d, hcall, hturned.actsOnDoor_iff hsrc.fresh⟩

/-- An open that the driver takes, and whose target finds the mutex held. -/
def refusedOpen : DoorWrite := { value := 0, t := 1000, wait := { mutexTaken := false } }

theorem failed_write_acts_iff_refused :
    ∃ turns ret, (home.last (Home.boot {} {} true 0 true true) homeServed).gdoSvcSet .success
        [([], refusedOpen)] = some (turns, ret) ∧
      (∀ e ∈ turns, ∃ d, e.label.1 = .doorWrite d ∧
        (e.label.2.status ≠ some .success →
          (ActsOnDoor e.src.world e.label.2.control e.dst.world ↔
            (∃ tgt, e.label.2.pushes = [(.targetDoor tgt, .refused)]) ∧
              ¬ d.Needless e.src.world.fw)) ∧
        (e.label.2.status = some .success →
          (¬ ActsOnDoor e.src.world e.label.2.control e.dst.world → d.Needless e.src.world.fw) ∧
            ∃ tgt, TargetState.ofValue d.value = some tgt ∧ e.dst.hub.lastTarget = some tgt)) ∧
      (ret = .fail ↔ ∃ e ∈ turns, e.label.2.status ≠ some .success) := by
  have hsome : ((home.last (Home.boot {} {} true 0 true true) homeServed).gdoSvcSet .success
      [([], refusedOpen)]).isSome = true := by decide +kernel
  obtain ⟨⟨turns, ret⟩, hset⟩ := Option.isSome_iff_exists.1 hsome
  exact ⟨turns, ret, hset, failed_write_acts_iff (home.trace_edges _ homeServed) hset⟩

/-- **The command is on its way and the write has failed.** -/
theorem refused_target_opens :
    ∃ es s e, home.toLTS.Trace (Home.boot {} {} true 0 true true) es s ∧
      s.gdoSvcSet .success [([], refusedOpen)] = some ([e], .fail) ∧
      e.label.2.status = some .commErr ∧
      e.label.2.control.out = [.request .control .doorOpen 1 .ok] :=
  ⟨_, _, _, home.trace_edges _ homeServed, rfl, by decide +kernel, by decide +kernel⟩

end

end GdoBlaq
