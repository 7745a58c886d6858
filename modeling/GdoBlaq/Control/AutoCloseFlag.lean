import GdoBlaq.Control.Progress
import GdoBlaq.Control.Cancellation

/-!
# The auto-close flag

`s_auto_close_triggered` goes up when an auto-close warning starts.  Once the warning has sent its
command, only the door leaving OPEN or the watchdog giving the command up takes the flag down again,
and while it is up no automatic close is started.  So somebody has to watch the command: the warning
before it is sent, the retry budget afterwards.

## Main results

* `World.KeepsCommand` : what a step must not do for the command to stay watched.
* `auto_close_never_stuck_iff` : the flag is watched in every state of a run exactly if every step
  of the run keeps to that.
* `unsynced_tick_sticks` : a run in which one tick of an unsynced driver drops the command.
-/

namespace GdoBlaq

open Firmware

namespace World

/-- An auto-close warning is under way. -/
def AutoAsleep (w : World) : Prop := ∃ tid v, w.tasks tid = some v ∧ v.kind = .auto

/-- An auto-close warning is under way whose end is not this very step. -/
def AutoAsleepBesides (w : World) (c : Call) : Prop :=
  ∃ tid v, w.tasks tid = some v ∧ v.kind = .auto ∧ c.completes ≠ some (.auto, tid)

/-- The auto-close flag is down, or a warning or the retry budget will see to it. -/
def Unstuck (w : World) : Prop :=
  w.fw.autoCloseTriggered = true → w.AutoAsleep ∨ w.budget.Live w.fw.doorCommandId

/-- The step issues a door request and leaves the auto-close flag as it is. -/
def Requests (w : World) : Call → Prop
  | .controlOpen _ => True
  | .userCloseTask tid status _ _ =>
    ∃ v, w.warningOver tid .user = some v ∧
      Stamp.read 32 v.generation = Stamp.read 32 w.fw.closeGeneration ∧ clearToClose status = true
  | .autoCloseComplete tid status err =>
    (w.warningOver tid .auto).isSome = true ∧ autoCloseValid w.fw status = true ∧ err = .ok
  | .schedCloseComplete tid status _ =>
    (w.warningOver tid .sched).isSome = true ∧ schedCloseValid w.fw status = true
  | _ => False

/-- While the flag is up and no auto-close warning is left to take it down, a new request gets a
number that is not 0 and not that of a request given up before, and the retry stage finds the
request pending, and gives it up only at a door that it reads as OPEN. -/
def KeepsCommand (w : World) (c : Call) : Prop :=
  w.fw.autoCloseTriggered = true → ¬ w.AutoAsleepBesides c →
    (w.Requests c → w.budget.Live (w.fw.doorCommandId + 1)) ∧
    ∀ now status, w.phase = .retry now → c = .watchdogRetry (some status) →
      requestPending w.fw status = true ∧
        (status.door = .opened ∨ ¬ w.budget.Exhausted w.fw.doorCommandId (!status.toggleOnly) now
          gdoMotorEngageTimeoutMs)

end World

section

variable {w w' : World} {r : Reply} {c : Call}

theorem World.Unstuck.mono (hi : w.Unstuck)
    (hflag : w'.fw.autoCloseTriggered = true → w.fw.autoCloseTriggered = true)
    (htasks : ∀ tid v, w.tasks tid = some v → v.kind = .auto → w'.tasks tid = some v)
    (hid : w'.fw.doorCommandId = w.fw.doorCommandId) (hbudget : w'.budget = w.budget) :
    w'.Unstuck := by
  intro hup
  rw [hid, hbudget]
  refine (hi (hflag hup)).imp_left ?_
  rintro ⟨tid, v, hv, hk⟩
  exact ⟨tid, v, htasks tid v hv hk, hk⟩

theorem News.flag {s s' : Firmware} {now : ℤ} (h : News s now s')
    (hup : s'.autoCloseTriggered = true) : s.autoCloseTriggered = true := by
  cases h with
  | door _ _ _ d since cont trig hd ht =>
    cases ht with
    | arrived | left => simp at hup
    | away => exact hup
  | _ => exact hup

theorem WatchdogMove.budget_eq {p : Phase} {b : RetryBudget} {out : List Out}
    (h : WatchdogMove w c p b out) (hboot : c.isReboot = false)
    (hretry : ∀ status, c ≠ .watchdogRetry (some status)) : b = w.budget := by
  cases h with
  | waited | sending | reverted => exact absurd rfl (hretry _)
  | rebooted => simp [Call.isReboot] at hboot
  | _ => rfl

theorem finish_keeps_auto {tid : ℕ} {v : Warning} {kind : WarningKind}
    (htask : w.warningOver tid kind = some v) (hk : kind ≠ .auto) {i : ℕ} {u : Warning}
    (hu : w.tasks i = some u) (hauto : u.kind = .auto) :
    Function.update w.tasks tid none i = some u := by
  obtain ⟨hv, hkind, -⟩ := warningOver_eq_some htask
  refine update_none_eq_some.2 ⟨?_, hu⟩
  rintro rfl
  obtain rfl : v = u := Option.some.inj (hv.symm.trans hu)
  exact hk (hkind.symm.trans hauto)

theorem spawn_keeps (hbook : Bookkeeping w) (u : Warning) {i : ℕ} {v : Warning}
    (hv : w.tasks i = some v) : Function.update w.tasks w.nextTask (some u) i = some v := by
  refine update_some_eq_some.2 (.inr ⟨?_, hv⟩)
  rintro rfl
  simp [hbook.fresh _ le_rfl] at hv

theorem World.Unstuck.other (hi : w.Unstuck) (hbook : Bookkeeping w) (hboot : c.isReboot = false)
    (h : w.perform c = some (w', r)) (hreq : ¬ w.Requests c)
    (hretry : ∀ status, c ≠ .watchdogRetry (some status)) : w'.Unstuck := by
  have hbudget := (World.perform_watchdog h).budget_eq hboot hretry
  have hkept := fun (tid : ℕ) (v : Warning) (hv : w.tasks tid = some v) (_ : v.kind = .auto) => hv
  cases World.perform_effect h with
  | news _ hnews => exact hi.mono hnews.flag hkept hnews.frame.commandId hbudget
  | idle | set | setFailed | closeNotCreated | schedNotReserved | schedNotStarted =>
    exact hi.mono id hkept rfl hbudget
  | closeArmed | schedArmed =>
    exact hi.mono id (fun _ _ hv _ => spawn_keeps hbook _ hv) rfl hbudget
  | userDropped htask | schedCancelled htask =>
    exact hi.mono id (fun _ _ => finish_keeps_auto htask (by simp)) rfl hbudget
  | autoArmed => exact fun _ => .inl ⟨_, _, Function.update_self .., rfl⟩
  | autoNotStarted | autoCancelled | autoRefused => exact fun hup => by simp at hup
  | opened => exact absurd trivial hreq
  | userSent htask hgen hclear => exact absurd ⟨_, htask, hgen, hclear⟩ hreq
  | autoSent htask hvalid => exact absurd ⟨by simp [htask], hvalid, rfl⟩ hreq
  | schedSent htask hvalid => exact absurd ⟨by simp [htask], hvalid⟩ hreq
  | restarted => exact absurd rfl (hretry _)
  | rebooted => simp [Call.isReboot] at hboot

theorem autoAsleep_finish {tid : ℕ} {v : Warning} {kind : WarningKind}
    (htask : w.warningOver tid kind = some v) (hc : c.completes = some (kind, tid))
    (htasks : w'.tasks = Function.update w.tasks tid none) :
    w'.AutoAsleep ↔ w.AutoAsleepBesides c := by
  obtain ⟨hv, hkind, -⟩ := warningOver_eq_some htask
  unfold World.AutoAsleep World.AutoAsleepBesides
  refine exists_congr fun i => exists_congr ?_
  intro u
  rw [htasks, hc, update_none_eq_some]
  constructor
  · rintro ⟨⟨hne, hu⟩, hauto⟩
    exact ⟨hu, hauto, by simp [Ne.symm hne]⟩
  · rintro ⟨hu, hauto, hne⟩
    refine ⟨⟨?_, hu⟩, hauto⟩
    rintro rfl
    obtain rfl : v = u := Option.some.inj (hv.symm.trans hu)
    exact hne (by rw [← hkind, hauto])

theorem userCloseTask_sends {s : Firmware} {generation : ℕ} {status : Option GdoStatus}
    (hgen : Stamp.read 32 generation = Stamp.read 32 s.closeGeneration)
    (hclear : clearToClose status = true) (err : EspErr) (again : Option GdoStatus) :
    (userCloseTask s generation status err again).1.doorCommandId = s.doorCommandId + 1 := by
  unfold userCloseTask
  split_ifs <;> simp_all [sendDoorRequest]

/-- What a request does: a new number, and no auto-close warning left but the others. -/
theorem World.perform_requests (h : w.perform c = some (w', r)) (hreq : w.Requests c) :
    w'.fw.autoCloseTriggered = w.fw.autoCloseTriggered ∧
      w'.fw.doorCommandId = w.fw.doorCommandId + 1 ∧ w'.budget = w.budget ∧
      (w'.AutoAsleep ↔ w.AutoAsleepBesides c) := by
  have hnone : c.completes = none → (w.AutoAsleep ↔ w.AutoAsleepBesides c) := by
    intro hc
    simp [World.AutoAsleep, World.AutoAsleepBesides, hc]
  cases World.perform_effect h with
  | opened => exact ⟨rfl, rfl, rfl, hnone rfl⟩
  | userSent htask => exact ⟨rfl, rfl, rfl, autoAsleep_finish htask rfl rfl⟩
  | autoSent htask => exact ⟨rfl, rfl, rfl, autoAsleep_finish htask rfl rfl⟩
  | schedSent htask => exact ⟨rfl, rfl, rfl, autoAsleep_finish htask rfl rfl⟩
  | @userDropped tid _ status again err _ _ =>
    obtain ⟨v, hv, hgen, hclear⟩ := hreq
    simp only [World.perform, hv] at h
    have hid := congrArg (fun x => x.1.fw.doorCommandId) (Option.some.inj h)
    have hsent := userCloseTask_sends hgen hclear err again
    simp only [World.finish, hsent] at hid
    omega
  | autoCancelled _ hvalid | schedCancelled _ hvalid => simp [World.Requests, hvalid] at hreq
  | autoRefused herr => exact absurd hreq.2.2 herr
  | idle hcall _ hout =>
    cases c with
    | controlOpen err =>
      obtain ⟨-, rfl⟩ := Prod.mk.inj (Option.some.inj h)
      simp at hout
    | userCloseTask | autoCloseComplete | schedCloseComplete => simp [Call.completes] at hcall
    | _ => exact hreq.elim
  | news hcall | set hcall | setFailed hcall =>
    cases c <;> simp_all [Call.isNews, Call.isSetter, World.Requests]
  | _ => exact hreq.elim

/-- The retry stage keeps the flag watched exactly if it goes on watching the request, or gives it
up at an open door. -/
theorem World.Unstuck.retry_iff (hi : w.Unstuck) {status : GdoStatus}
    (h : w.perform (.watchdogRetry (some status)) = some (w', r)) :
    w'.Unstuck ↔ w.KeepsCommand (.watchdogRetry (some status)) := by
  have hbesides : w.AutoAsleepBesides (.watchdogRetry (some status)) ↔ w.AutoAsleep := by
    simp [World.AutoAsleep, World.AutoAsleepBesides, Call.completes]
  simp only [World.perform] at h
  split at h
  swap
  · cases h
  rename_i now hphase
  rcases hdec : retryDecision w.fw w.budget now status with ⟨b, action⟩
  simp only [hdec] at h
  have hkeeps : w.KeepsCommand (.watchdogRetry (some status)) ↔
      (w.fw.autoCloseTriggered = true → ¬ w.AutoAsleep → requestPending w.fw status = true ∧
        (status.door = .opened ∨ ¬ w.budget.Exhausted w.fw.doorCommandId (!status.toggleOnly) now
          gdoMotorEngageTimeoutMs)) := by
    simp [World.KeepsCommand, hbesides, hphase, World.Requests]
  have hkept : w'.fw.doorCommandId = w.fw.doorCommandId ∧ w'.tasks = w.tasks ∧ w'.budget = b ∧
      (w'.fw.autoCloseTriggered = true ↔
        w.fw.autoCloseTriggered = true ∧ ¬ (action = .revert ∧ status.door = .opened)) := by
    cases action with
    | wait | send =>
      obtain ⟨rfl, -⟩ := Prod.mk.inj (Option.some.inj h)
      simp
    | revert =>
      obtain ⟨rfl, -⟩ := Prod.mk.inj (Option.some.inj h)
      by_cases hrestart : status.door = .opened ∧ w.fw.autoCloseTriggered = true
      · simp [retryRevert, hrestart]
      · simp only [retryRevert, hrestart, ite_false, true_and]
        exact ⟨fun hup => ⟨hup, fun hd => hrestart ⟨hd, hup⟩⟩, fun hup => hup.1⟩
  obtain ⟨hid, htasks, hbudget, hflag⟩ := hkept
  rw [hkeeps, World.Unstuck, World.AutoAsleep, htasks, ← World.AutoAsleep, hid, hbudget, hflag]
  by_cases hup : w.fw.autoCloseTriggered = true
  swap
  · simp [hup]
  by_cases hasleep : w.AutoAsleep
  · simp [hasleep]
  -- nobody but the budget is left
  obtain ⟨hlive, hrevert, -⟩ := retryBudgetStep_live ((hi hup).resolve_left hasleep) hdec
  rw [hlive, hrevert]
  simp only [hup, hasleep, true_and, false_or, not_false_eq_true, forall_true_left]
  by_cases hpending : requestPending w.fw status = true
  · by_cases hopen : status.door = .opened <;> simp [hpending, hopen]
  · simp [hpending]

/-- **One step** keeps the flag watched exactly if it keeps the command. -/
theorem World.Unstuck.step_iff {a : Action} (hi : w.Unstuck) (hbook : Bookkeeping w)
    (h : w.step a = some (w', r)) : w'.Unstuck ↔ (w.tick a.t).KeepsCommand a.call := by
  rcases World.step_cases h with ⟨hboot, hclock, -⟩ | ⟨reads, setenvOk, hcall, -, rfl⟩
  · have hi' : (w.tick a.t).Unstuck := hi
    replace h := World.perform_of_step h
    by_cases hreq : (w.tick a.t).Requests a.call
    · obtain ⟨hflag, hid, hbudget, hasleep⟩ := World.perform_requests h hreq
      have hretry : ∀ status, a.call ≠ .watchdogRetry (some status) := by
        rintro status hcall
        simp [hcall, World.Requests] at hreq
      rw [World.Unstuck, hflag, hid, hbudget, hasleep]
      simp only [World.KeepsCommand, hreq, hretry, forall_true_left, false_implies, implies_true,
        and_true]
      exact forall_congr' fun _ => or_iff_not_imp_left
    · by_cases hretry : ∃ status, a.call = .watchdogRetry (some status)
      · obtain ⟨status, hcall⟩ := hretry
        rw [hcall] at h ⊢
        exact hi'.retry_iff h
      · have hother := hi'.other (hbook.tick hclock) hboot h hreq
          fun status hc => hretry ⟨status, hc⟩
        refine iff_of_true hother fun _ _ => ⟨fun hc => absurd hc hreq, ?_⟩
        exact fun _ status _ hc => absurd ⟨status, hc⟩ hretry
  · refine iff_of_true ?_ ?_
    · intro hup
      simp [World.boot] at hup
    · simp [World.KeepsCommand, hcall, World.Requests]

end

section Runs

variable {w : World} {es : List Step}

/-- **When auto-close cannot get stuck.**  In a run from a boot, the flag is watched in every state
exactly if every step keeps the command; and a request that is watched and found pending for longer
than the timeout is repeated or given up. -/
theorem auto_close_never_stuck_iff {n : Nvs} {reads : NvsReads} {setenvOk : Bool} {t₀ : ℤ}
    (hrun : control.toLTS.Trace (World.boot n reads setenvOk t₀) es w) :
    ((∀ e ∈ es, e.dst.Unstuck) ↔
      ∀ e ∈ es, (e.src.tick e.label.1.t).KeepsCommand e.label.1.call) ∧
    ∀ e ∈ es, ∀ now status, e.label.1.call = .watchdogRetry (some status) →
      e.src.phase = .retry now → e.src.budget.Live e.src.fw.doorCommandId →
      requestPending e.src.fw status = true →
      Stamp.read 32 e.src.budget.commandId = Stamp.read 32 e.src.fw.doorCommandId →
      (gdoMotorEngageTimeoutMs : ℤ) < now - e.src.budget.startedMs →
      (retryDecision e.src.fw e.src.budget now status).2 ≠ .wait := by
  constructor
  · have hboot : (World.boot n reads setenvOk t₀).Unstuck := fun hup => by simp [World.boot] at hup
    refine hrun.forall_dst_iff hboot ?_
    intro e he hst hi
    obtain ⟨pre, post, rfl⟩ := List.append_of_mem he
    have hbook := Bookkeeping.trace (LTS.Trace.at_edge_iff.1 hrun).1 (Sound.boot ..).book
    exact hi.step_iff hbook hst
  · intro e he now status hcall hphase hlive hpending hsame htime
    exact (retryBudgetStep_live hlive rfl).2.2 hpending hsame htime

/-- The auto-close of `autoCloseRun` sends its command at 67001 ms, which the opener accepts; the
watchdog's tick at 72 s finds `st`. -/
def acceptedCloseRun (st : GdoStatus) : List Action :=
  autoCloseRun ++ [⟨67001, .autoCloseComplete 0 (some (.idle .opened 0 0)) .ok⟩] ++
    watchdogTick 72000 st

theorem auto_close_never_stuck_iff_accepted :
    let es := control.edges (World.boot autoCloseNvs {} true 0)
      (acceptedCloseRun (.idle .opened 0 10000))
    ((∀ e ∈ es, e.dst.Unstuck) ↔
      ∀ e ∈ es, (e.src.tick e.label.1.t).KeepsCommand e.label.1.call) ∧
    ∀ e ∈ es, ∀ now status, e.label.1.call = .watchdogRetry (some status) →
      e.src.phase = .retry now → e.src.budget.Live e.src.fw.doorCommandId →
      requestPending e.src.fw status = true →
      Stamp.read 32 e.src.budget.commandId = Stamp.read 32 e.src.fw.doorCommandId →
      (gdoMotorEngageTimeoutMs : ℤ) < now - e.src.budget.startedMs →
      (retryDecision e.src.fw e.src.budget now status).2 ≠ .wait :=
  auto_close_never_stuck_iff (control.trace_edges _ _)

/-- **One tick of an unsynced driver is enough.**  The door stays open, the command of the
auto-close has been sent, and the watchdog's iteration ends with the flag up, no warning and the
budget done. -/
theorem unsynced_tick_sticks :
    ∃ es w, control.toLTS.Trace (World.boot autoCloseNvs {} true 0) es w ∧
      w.phase = .delay ∧ w.fw.lastDoor = .opened ∧ ¬ w.Unstuck := by
  let st : GdoStatus := { GdoStatus.idle .opened 0 10000 with synced := false }
  have hrun := control.trace_edges (World.boot autoCloseNvs {} true 0) (acceptedCloseRun st)
  have hbook := Bookkeeping.trace hrun (Sound.boot autoCloseNvs {} true 0 0).book
  have hnone : (control.last (World.boot autoCloseNvs {} true 0) (acceptedCloseRun st)).sleeping =
      [] := by
    decide +kernel
  refine ⟨_, _, hrun, by decide +kernel, by decide +kernel, ?_⟩
  intro hi
  rcases hi (by decide +kernel) with ⟨tid, v, hv, -⟩ | hlive
  · have hv := hbook.mem_sleeping.2 ⟨tid, hv⟩
    rw [hnone] at hv
    cases hv
  · exact absurd hlive (by decide +kernel)

end Runs

end GdoBlaq
