import GdoBlaq.Web.Httpd

/-!
# Restarting the web server

Three tasks meet here: `wait_for_network_and_start_task`, which makes the first start, the event
loop, which calls `diag_webserver_restart` on every new address, and `diag_restart_task`.  They
share `s_server` and three flags without a lock, so each goes on by single steps.

## Main results

* `lifecycle` : the machine of the three tasks.
* `restart_follows_call_iff` : there is never more than one restart task, and every call is followed
  by a pass, exactly unless it sets `s_restart_again` too late.
* `event_lost` : a run with such a call.
* `no_overlap_iff` : the first start and a restart are never on the server at once, exactly while no
  event gets past the guard before the first start has succeeded.
* `restart_during_first_start` : a run with such an event.
-/

namespace GdoBlaq

/-! ### Data -/

/-- Where `wait_for_network_and_start_task` is. -/
inductive WaitPc where
  /-- It waits for an address. -/
  | network
  /-- Before `init_admin_credentials`. -/
  | credentials
  /-- In `start_httpd_server`. -/
  | start (pc : StartPc)
  /-- `vTaskDelay(pdMS_TO_TICKS(5000))` -/
  | delay
  /-- Before `s_server_started_once = true`. -/
  | mark
  | done
  deriving DecidableEq, Repr

/-- Where a `diag_restart_task` is. -/
inductive RestartPc where
  /-- Before `s_restart_again = false`, at the beginning of a pass. -/
  | clearAgain
  /-- Before the test of `s_server`, and `httpd_stop`. -/
  | stop
  /-- Before `s_server = nullptr`. -/
  | clear
  /-- In `start_httpd_server`. -/
  | start (pc : StartPc)
  /-- Before the test of `s_restart_again`. -/
  | test
  /-- Before `s_restart_task_running = false`, the last thing that the task does. -/
  | release
  deriving DecidableEq, Repr

/-- Between entering and leaving the part that works on the server. -/
def RestartPc.InSection : RestartPc → Prop
  | .stop | .clear | .start _ => True
  | _ => False

/-- Where `diag_webserver_restart` is, in the event loop. -/
inductive CallPc where
  /-- It is not being called. -/
  | idle
  /-- Past its first guard, before the test of `s_restart_task_running`. -/
  | test
  /-- Before `s_restart_again = true`. -/
  | again
  /-- Before `s_restart_task_running = true`. -/
  | claim
  /-- Before `xTaskCreate`. -/
  | create
  deriving DecidableEq, Repr

/-- How far `start_httpd_server` is from its return, at most. -/
def StartPc.left : StartPc → ℕ
  | .start => 20
  | .register us => us.length + 3
  | .stop => 2
  | .clear => 1

theorem StartPc.left_pos (pc : StartPc) : 0 < pc.left := by
  cases pc <;> simp [StartPc.left]

/-- The steps of a restart task to the end of its pass, at most. -/
def RestartPc.left : RestartPc → ℕ
  | .stop => 22
  | .clear => 21
  | .start pc => pc.left
  | _ => 0

/-- The steps of a restart task that will make one more pass to the beginning of that, at most. -/
def RestartPc.leftToBegin : RestartPc → ℕ
  | .stop => 23
  | .clear => 22
  | .start pc => pc.left + 1
  | .test => 1
  | _ => 0

/-- What the tasks share, and where each is. -/
structure Lifecycle where
  httpd : Httpd := {}
  /-- `s_server_started_once` -/
  startedOnce : Bool := false
  /-- `s_restart_task_running` -/
  taskRunning : Bool := false
  /-- `s_restart_again` -/
  again : Bool := false
  wait : WaitPc := .network
  restarts : List RestartPc := []
  call : CallPc := .idle
  deriving DecidableEq, Repr

/-- A step of one of the tasks. -/
inductive LifecycleCall where
  /-- The first start: `ready` says whether there is an address, or the credentials could be read;
  `answer` is what a function of the server answers. -/
  | wait (ready : Bool) (answer : EspErr)
  /-- The restart task with this number. -/
  | restart (k : ℕ) (answer : EspErr)
  /-- `IP_EVENT_STA_GOT_IP`, and the first guard of `diag_webserver_restart`. -/
  | event
  /-- `diag_webserver_restart` goes on. -/
  | call (created : Bool)
  deriving DecidableEq, Repr

/-- The step is one of a restart task. -/
def LifecycleCall.isRestart : LifecycleCall → Bool
  | .restart _ _ => true
  | _ => false

namespace Lifecycle

/-! ### Steps -/

/-- The guard of `diag_webserver_restart`. -/
def passesGuard (s : Lifecycle) : Bool := s.httpd.sServer.isSome || s.startedOnce

/-- `wait_for_network_and_start_task` -/
def waitStep (s : Lifecycle) (ready : Bool) (answer : EspErr) : Option Lifecycle :=
  match s.wait with
  | .network => some { s with wait := if ready then .credentials else .network }
  | .credentials => some { s with wait := if ready then .start .start else .delay }
  | .start pc =>
    match s.httpd.startStep answer pc with
    | (h, .inl pc) => some { s with httpd := h, wait := .start pc }
    | (h, .inr ok) => some { s with httpd := h, wait := if ok then .mark else .delay }
  | .delay => some { s with wait := .credentials }
  | .mark => some { s with startedOnce := true, wait := .done }
  | .done => none

/-- The restart task with the number `k`, at `pc`. -/
def restartStep (s : Lifecycle) (k : ℕ) (answer : EspErr) : RestartPc → Lifecycle
  | .clearAgain => { s with again := false, restarts := s.restarts.set k .stop }
  | .stop =>
    if s.httpd.sServer.isSome then
      { s with httpd := s.httpd.httpdStop, restarts := s.restarts.set k .clear }
    else { s with restarts := s.restarts.set k (.start .start) }
  | .clear => { s with httpd := s.httpd.clear, restarts := s.restarts.set k (.start .start) }
  | .start pc =>
    match s.httpd.startStep answer pc with
    | (h, .inl pc) => { s with httpd := h, restarts := s.restarts.set k (.start pc) }
    -- whether it succeeded is only logged
    | (h, .inr _) => { s with httpd := h, restarts := s.restarts.set k .test }
  | .test => { s with restarts := s.restarts.set k (if s.again then .clearAgain else .release) }
  | .release => { s with taskRunning := false, restarts := s.restarts.eraseIdx k }

/-- `diag_webserver_restart`, after its first guard. -/
def callStep (s : Lifecycle) (created : Bool) : Option Lifecycle :=
  match s.call with
  | .idle => none
  | .test => some { s with call := if s.taskRunning then .again else .claim }
  | .again => some { s with again := true, call := .idle }
  | .claim => some { s with taskRunning := true, call := .create }
  | .create =>
    if created then some { s with restarts := s.restarts ++ [.clearAgain], call := .idle }
    else some { s with taskRunning := false, call := .idle }

def step (s : Lifecycle) : LifecycleCall → Option Lifecycle
  | .wait ready answer => s.waitStep ready answer
  | .restart k answer => (s.restarts[k]?).map (s.restartStep k answer)
  | .event =>
    if s.call ≠ .idle then none
    else if s.passesGuard then some { s with call := .test }
    else some s
  | .call created => s.callStep created

end Lifecycle

/-- The three tasks as a machine. -/
def lifecycle : Machine Lifecycle LifecycleCall Unit := ⟨fun s a => (s.step a).map fun s => (s, ())⟩

/-- A step of a run. -/
abbrev LifecycleStep := LTS.Edge Lifecycle (LifecycleCall × Unit)

namespace Lifecycle

section

variable {s s' : Lifecycle} {c : LifecycleCall} {ready created : Bool} {answer : EspErr}

/-! ### What a step does -/

theorem waitStep_frame (h : s.waitStep ready answer = some s') :
    s'.taskRunning = s.taskRunning ∧ s'.again = s.again ∧ s'.restarts = s.restarts ∧
      s'.call = s.call := by
  unfold waitStep at h
  split at h
  case h_3 =>
    split at h <;> cases h <;> exact ⟨rfl, rfl, rfl, rfl⟩
  all_goals cases h
  all_goals exact ⟨rfl, rfl, rfl, rfl⟩

/-- `diag_webserver_restart` leaves the server and the first start alone. -/
theorem callStep_frame (h : s.callStep created = some s') :
    s'.httpd = s.httpd ∧ s'.startedOnce = s.startedOnce ∧ s'.wait = s.wait := by
  unfold callStep at h
  split at h
  case h_5 =>
    split_ifs at h <;> cases h <;> exact ⟨rfl, rfl, rfl⟩
  all_goals cases h
  all_goals exact ⟨rfl, rfl, rfl⟩

theorem restartStep_frame (s : Lifecycle) (k : ℕ) (answer : EspErr) (pc : RestartPc) :
    (s.restartStep k answer pc).startedOnce = s.startedOnce ∧
      (s.restartStep k answer pc).wait = s.wait ∧ (s.restartStep k answer pc).call = s.call := by
  unfold restartStep
  split
  case h_2 => split_ifs <;> exact ⟨rfl, rfl, rfl⟩
  case h_4 => split <;> exact ⟨rfl, rfl, rfl⟩
  all_goals exact ⟨rfl, rfl, rfl⟩

/-- Where a restart task that is not at its end goes from `pc`. -/
inductive Next (s : Lifecycle) : RestartPc → RestartPc → Prop
  | begins : Next s .clearAgain .stop
  | stopped : Next s .stop .clear
  | absent : Next s .stop (.start .start)
  | cleared : Next s .clear (.start .start)
  | starts {pc pc' : StartPc} (hleft : pc'.left < pc.left) : Next s (.start pc) (.start pc')
  | ends {pc : StartPc} : Next s (.start pc) .test
  | repeats (hagain : s.again = true) : Next s .test .clearAgain
  | leaves (hagain : s.again = false) : Next s .test .release

/-- All that a step can be. -/
inductive Moves (s : Lifecycle) : LifecycleCall → Lifecycle → Prop
  | wait {ready : Bool} {answer : EspErr} {s' : Lifecycle}
      (hst : s.waitStep ready answer = some s') : Moves s (.wait ready answer) s'
  | restart {k : ℕ} {answer : EspErr} {pc : RestartPc} (hpc : s.restarts[k]? = some pc) :
      Moves s (.restart k answer) (s.restartStep k answer pc)
  | guarded (hidle : s.call = .idle) (hguard : s.passesGuard = true) :
      Moves s .event { s with call := .test }
  | ignored (hidle : s.call = .idle) (hguard : s.passesGuard = false) : Moves s .event s
  | call {created : Bool} {s' : Lifecycle} (hst : s.callStep created = some s') :
      Moves s (.call created) s'

theorem step_moves {u : Unit} (h : lifecycle.step s c = some (s', u)) : Moves s c s' := by
  obtain ⟨s'', hst, he⟩ := Option.map_eq_some_iff.1 h
  obtain ⟨rfl, -⟩ := Prod.mk.inj he
  cases c with
  | wait => exact .wait hst
  | restart k answer =>
    obtain ⟨pc, hpc, rfl⟩ := Option.map_eq_some_iff.1 hst
    exact .restart hpc
  | event =>
    simp only [step] at hst
    split_ifs at hst with hidle hguard
    · cases hst
      exact .guarded (not_not.1 hidle) hguard
    · cases hst
      exact .ignored (not_not.1 hidle) (by simpa using hguard)
  | call => exact .call hst

/-- `start_httpd_server` gets on. -/
theorem startStep_left {h h' : Httpd} {pc pc' : StartPc}
    (hst : h.startStep answer pc = (h', .inl pc')) : pc'.left < pc.left := by
  cases pc with
  | start =>
    obtain ⟨-, he⟩ := Prod.mk.inj hst
    obtain rfl := Sum.inl.inj he
    split_ifs <;> decide
  | register us =>
    cases us with
    | nil => exact absurd (Prod.mk.inj hst).2 nofun
    | cons u us =>
      have he := (Prod.mk.inj hst).2
      split_ifs at he <;> obtain rfl := Sum.inl.inj he <;> simp [StartPc.left]
  | stop =>
    obtain rfl := Sum.inl.inj (Prod.mk.inj hst).2
    decide
  | clear => exact absurd (Prod.mk.inj hst).2 nofun

theorem restartStep_next (s : Lifecycle) (k : ℕ) (answer : EspErr) {pc : RestartPc}
    (hpc : pc ≠ .release) :
    ∃ pc', Next s pc pc' ∧ (s.restartStep k answer pc).restarts = s.restarts.set k pc' ∧
      (s.restartStep k answer pc).taskRunning = s.taskRunning ∧
      (pc ≠ .clearAgain → (s.restartStep k answer pc).again = s.again) := by
  cases pc with
  | clearAgain => exact ⟨_, .begins, rfl, rfl, fun h => absurd rfl h⟩
  | stop =>
    by_cases hserver : s.httpd.sServer.isSome = true
    · exact ⟨_, .stopped, by simp [restartStep, hserver], by simp [restartStep, hserver],
        by simp [restartStep, hserver]⟩
    · exact ⟨_, .absent, by simp [restartStep, hserver], by simp [restartStep, hserver],
        by simp [restartStep, hserver]⟩
  | clear => exact ⟨_, .cleared, rfl, rfl, fun _ => rfl⟩
  | start pc =>
    rcases hst : s.httpd.startStep answer pc with ⟨h, pc' | ok⟩
    · exact ⟨_, .starts (startStep_left hst), by simp [restartStep, hst],
        by simp [restartStep, hst], by simp [restartStep, hst]⟩
    · exact ⟨_, .ends, by simp [restartStep, hst], by simp [restartStep, hst],
        by simp [restartStep, hst]⟩
  | test =>
    cases hagain : s.again with
    | true => exact ⟨_, .repeats hagain, by simp [restartStep, hagain], rfl, fun _ => hagain⟩
    | false => exact ⟨_, .leaves hagain, by simp [restartStep, hagain], rfl, fun _ => hagain⟩
  | release => exact absurd rfl hpc

/-! ### One restart task -/

/-- There is at most one restart task, and `s_restart_task_running` tells of it and of one that is
about to be created. -/
structure OneTask (s : Lifecycle) : Prop where
  one : s.restarts.length ≤ 1
  running : s.taskRunning = true ↔ s.restarts ≠ [] ∨ s.call = .create
  create : s.call = .create → s.restarts = []
  claim : s.call = .claim → s.restarts = []

theorem OneTask.eq_singleton (hi : s.OneTask) {k : ℕ} {pc : RestartPc}
    (hpc : s.restarts[k]? = some pc) : k = 0 ∧ s.restarts = [pc] := by
  have hone := hi.one
  rcases hr : s.restarts with _ | ⟨x, _ | ⟨y, xs⟩⟩
  · simp [hr] at hpc
  · cases k with
    | zero => exact ⟨rfl, by simpa [hr] using hpc⟩
    | succ k => simp [hr] at hpc
  · simp [hr] at hone

theorem OneTask.restart {k : ℕ} {pc : RestartPc} (hi : s.OneTask) (hpc : s.restarts[k]? = some pc) :
    (s.restartStep k answer pc).OneTask := by
  obtain ⟨rfl, hone⟩ := hi.eq_singleton hpc
  obtain ⟨-, -, hcall⟩ := restartStep_frame s 0 answer pc
  have hcreate : s.call ≠ .create := fun h => by simp [hi.create h] at hone
  have hclaim : s.call ≠ .claim := fun h => by simp [hi.claim h] at hone
  by_cases hrelease : pc = .release
  · subst hrelease
    refine ⟨by simp [restartStep, hone], ?_, fun h => absurd (hcall ▸ h) hcreate,
      fun h => absurd (hcall ▸ h) hclaim⟩
    simp [restartStep, hone, hcreate]
  · obtain ⟨pc', -, hrestarts, hrunning, -⟩ := restartStep_next s 0 answer hrelease
    refine ⟨by simp [hrestarts, hone], ?_, fun h => absurd (hcall ▸ h) hcreate,
      fun h => absurd (hcall ▸ h) hclaim⟩
    rw [hrunning, hi.running]
    simp [hrestarts, hone]

theorem OneTask.call (hi : s.OneTask) (hst : s.callStep created = some s') : s'.OneTask := by
  have hrunning := hi.running
  unfold callStep at hst
  split at hst <;> rename_i hcall
  · cases hst
  · obtain rfl := Option.some.inj hst
    rw [hcall] at hrunning
    cases hbusy : s.taskRunning with
    | true => exact ⟨hi.one, by simpa [hbusy] using hrunning, nofun, nofun⟩
    | false =>
      have hnone : s.restarts = [] := by simpa [hbusy] using hrunning
      exact ⟨hi.one, by simp [hnone], nofun, fun _ => hnone⟩
  · obtain rfl := Option.some.inj hst
    exact ⟨hi.one, by simpa [hcall] using hrunning, nofun, nofun⟩
  · obtain rfl := Option.some.inj hst
    exact ⟨hi.one, by simp, fun _ => hi.claim hcall, nofun⟩
  · have hnone := hi.create hcall
    split_ifs at hst <;> obtain rfl := Option.some.inj hst
    · refine ⟨by simp [hnone], ?_, nofun, nofun⟩
      rw [hrunning]
      simp [hnone, hcall]
    · exact ⟨hi.one, by simp [hnone], nofun, nofun⟩

theorem OneTask.moves (hi : s.OneTask) (h : Moves s c s') : s'.OneTask := by
  cases h with
  | wait hst =>
    obtain ⟨hrunning, -, hrestarts, hcall⟩ := waitStep_frame hst
    exact ⟨hrestarts ▸ hi.one, by rw [hrunning, hrestarts, hcall]; exact hi.running,
      by rw [hrestarts, hcall]; exact hi.create, by rw [hrestarts, hcall]; exact hi.claim⟩
  | restart hpc => exact hi.restart hpc
  | guarded hidle =>
    refine ⟨hi.one, ?_, nofun, nofun⟩
    have hrunning := hi.running
    simpa [hidle] using hrunning
  | ignored => exact hi
  | call hst => exact hi.call hst

/-- What is not a step of the restart task leaves it alone, and does not clear
`s_restart_again`. -/
theorem OneTask.other (hi : s.OneTask) (hne : s.restarts ≠ []) (h : Moves s c s') :
    (∃ k answer, c = .restart k answer) ∨
      c.isRestart = false ∧ s'.restarts = s.restarts ∧ (s.again = true → s'.again = true) := by
  cases h with
  | wait hst =>
    obtain ⟨-, hagain, hrestarts, -⟩ := waitStep_frame hst
    exact .inr ⟨rfl, hrestarts, fun h => hagain ▸ h⟩
  | restart => exact .inl ⟨_, _, rfl⟩
  | guarded | ignored => exact .inr ⟨rfl, rfl, id⟩
  | call hst =>
    unfold callStep at hst
    split at hst <;> rename_i hcall
    case h_1 => cases hst
    case h_5 => exact absurd (hi.create hcall) hne
    all_goals obtain rfl := Option.some.inj hst
    all_goals exact .inr ⟨rfl, rfl, fun h => by first | exact h | rfl⟩

/-! ### Passes -/

/-- A pass is due: the restart task is before one, or will find `s_restart_again` set. -/
structure Due (s : Lifecycle) : Prop extends OneTask s where
  due : ∃ pc, s.restarts = [pc] ∧ (pc = .clearAgain ∨ s.again = true ∧ pc ≠ .release)

/-- The restart task is in a pass. -/
structure InPass (s : Lifecycle) : Prop extends OneTask s where
  inPass : ∃ pc, s.restarts = [pc] ∧ pc.InSection

theorem OneTask.next (hi : s.OneTask) {k : ℕ} {pc : RestartPc} (hpc : s.restarts = [pc])
    (hne : pc ≠ .release) (h : Moves s (.restart k answer) s') :
    ∃ pc', Next s pc pc' ∧ s'.restarts = [pc'] ∧ (pc ≠ .clearAgain → s'.again = s.again) := by
  cases h with
  | restart hk =>
    obtain ⟨rfl, hone⟩ := hi.eq_singleton hk
    obtain rfl := List.singleton_inj.1 (hpc.symm.trans hone)
    obtain ⟨pc', hnext, hrestarts, -, hagain⟩ := restartStep_next s 0 answer hne
    exact ⟨pc', hnext, by rw [hrestarts, hpc]; rfl, hagain⟩

/-- A due pass gets closer, or begins. -/
theorem Due.moves (hi : s.Due) (h : Moves s c s') :
    ((c.isRestart = true ∧ s.restarts = [.clearAgain] ∧ s'.restarts = [.stop]) ∧ s'.InPass) ∨
      (s'.Due ∧ (s'.restarts.map RestartPc.leftToBegin).sum + (if c.isRestart then 1 else 0) ≤
        (s.restarts.map RestartPc.leftToBegin).sum) := by
  obtain ⟨pc, hpc, hdue⟩ := hi.due
  have hone := hi.toOneTask.moves h
  rcases hi.toOneTask.other (by simp [hpc]) h with ⟨k, answer, rfl⟩ | ⟨hother, hrestarts, hagain⟩
  · have hne : pc ≠ .release := by
      rcases hdue with rfl | ⟨-, hne⟩
      · nofun
      · exact hne
    obtain ⟨pc', hnext, hpc', hagain⟩ := hi.toOneTask.next hpc hne h
    have hset : pc ≠ .clearAgain → s'.again = true := by
      intro hpc
      exact (hagain hpc).trans (hdue.resolve_left hpc).1
    cases hnext with
    | begins => exact .inl ⟨⟨rfl, hpc, hpc'⟩, hone, _, hpc', trivial⟩
    | leaves hno => simp [hno] at hdue
    | repeats => exact .inr ⟨⟨hone, _, hpc', .inl rfl⟩, by
        simp [hpc, hpc', LifecycleCall.isRestart, RestartPc.leftToBegin]⟩
    | stopped | absent | cleared =>
      exact .inr ⟨⟨hone, _, hpc', .inr ⟨hset nofun, nofun⟩⟩, by
        simp [hpc, hpc', LifecycleCall.isRestart, RestartPc.leftToBegin, StartPc.left]⟩
    | @ends pc =>
      refine .inr ⟨⟨hone, _, hpc', .inr ⟨hset nofun, nofun⟩⟩, ?_⟩
      have hpos := pc.left_pos
      simp only [hpc, hpc', LifecycleCall.isRestart, RestartPc.leftToBegin, List.map_cons,
        List.map_nil, List.sum_singleton, if_true]
      omega
    | starts hleft =>
      refine .inr ⟨⟨hone, _, hpc', .inr ⟨hset nofun, nofun⟩⟩, ?_⟩
      simp only [hpc, hpc', LifecycleCall.isRestart, RestartPc.leftToBegin, List.map_cons,
        List.map_nil, List.sum_singleton, if_true]
      omega
  · refine .inr ⟨⟨hone, pc, hrestarts.trans hpc, hdue.imp_right fun h => ⟨hagain h.1, h.2⟩⟩, ?_⟩
    simp [hrestarts, hother]

theorem InPass.moves (hi : s.InPass) (h : Moves s c s') :
    (c.isRestart = true ∧ (∃ pc, s.restarts = [.start pc]) ∧ s'.restarts = [.test]) ∨
      (s'.InPass ∧ (s'.restarts.map RestartPc.left).sum + (if c.isRestart then 1 else 0) ≤
        (s.restarts.map RestartPc.left).sum) := by
  obtain ⟨pc, hpc, hsection⟩ := hi.inPass
  have hone := hi.toOneTask.moves h
  rcases hi.toOneTask.other (by simp [hpc]) h with ⟨k, answer, rfl⟩ | ⟨hother, hrestarts, -⟩
  · obtain ⟨pc', hnext, hpc', -⟩ := hi.toOneTask.next hpc (by rintro rfl; exact hsection) h
    cases hnext with
    | ends => exact .inl ⟨rfl, ⟨_, hpc⟩, hpc'⟩
    | begins | repeats | leaves => exact absurd hsection id
    | stopped | absent | cleared =>
      exact .inr ⟨⟨hone, _, hpc', trivial⟩, by
        simp [hpc, hpc', LifecycleCall.isRestart, RestartPc.left, StartPc.left]⟩
    | starts hleft =>
      refine .inr ⟨⟨hone, _, hpc', trivial⟩, ?_⟩
      simp only [hpc, hpc', LifecycleCall.isRestart, RestartPc.left, List.map_cons, List.map_nil,
        List.sum_singleton, if_true]
      omega
  · exact .inr ⟨⟨hone, pc, hrestarts.trans hpc, hsection⟩, by simp [hrestarts, hother]⟩

end

end Lifecycle

/-! ### Calls and the passes after them -/

/-- The restart task begins a pass. -/
def Begins (e : LifecycleStep) : Prop :=
  e.label.1.isRestart = true ∧ e.src.restarts = [.clearAgain] ∧ e.dst.restarts = [.stop]

/-- A pass is complete: `start_httpd_server` returns. -/
def Ends (e : LifecycleStep) : Prop :=
  e.label.1.isRestart = true ∧ (∃ pc, e.src.restarts = [.start pc]) ∧ e.dst.restarts = [.test]

/-- A pass begins in the steps, and is completed. -/
def HasPass (es : List LifecycleStep) : Prop :=
  ∃ before b mid d after, es = before ++ b :: (mid ++ d :: after) ∧ Begins b ∧
    (∀ x ∈ mid, x.src.InPass) ∧ Ends d

/-- Whatever happens after `s`, a complete pass is among it, or a restart task is there to make its
next step and has not made many. -/
def Followed (s : Lifecycle) : Prop :=
  ∃ n, ∀ es s', lifecycle.toLTS.Trace s es s' → HasPass es ∨
    (∃ k answer, (lifecycle.step s' (.restart k answer)).isSome) ∧
      es.countP (·.label.1.isRestart) ≤ n

/-- A call that got past the first guard returns, and did not fail to create its task. -/
def Called (e : LifecycleStep) : Prop :=
  ∃ created, e.label.1 = .call created ∧
    (e.src.call = .again ∨ e.src.call = .create ∧ created = true)

/-- The call sets `s_restart_again` when there is nobody left to test it. -/
def TooLate (e : LifecycleStep) : Prop :=
  e.src.call = .again ∧ (e.src.restarts = [] ∨ e.src.restarts = [.release])

section

variable {s s' : Lifecycle} {e : LifecycleStep} {es pre post : List LifecycleStep}

theorem restart_enabled {pc : RestartPc} (hpc : s.restarts = [pc]) :
    ∃ k answer, (lifecycle.step s (.restart k answer)).isSome :=
  ⟨0, .ok, by simp [lifecycle, Lifecycle.step, hpc]⟩

theorem Lifecycle.Due.followed (hi : s.Due) : Followed s := by
  refine ⟨(s.restarts.map RestartPc.leftToBegin).sum + 1 + 22, ?_⟩
  intro es s' hrun
  rcases hrun.progress (Q := fun e => Begins e ∧ e.dst.InPass) (p := (·.label.1.isRestart))
    (f := fun s => (s.restarts.map RestartPc.leftToBegin).sum) hi
    (fun e _ hst hdue => hdue.moves (Lifecycle.step_moves hst)) with
    ⟨before, b, rest, rfl, ⟨hbegins, hpass⟩, -, -, hcount⟩ | ⟨hdue, hcount⟩
  · obtain ⟨-, -, hrest⟩ := LTS.Trace.at_edge_iff.1 hrun
    rcases hrest.progress (Q := Ends) (p := (·.label.1.isRestart))
      (f := fun s => (s.restarts.map RestartPc.left).sum) hpass
      (fun e _ hst hpass => hpass.moves (Lifecycle.step_moves hst)) with
      ⟨mid, d, after, rfl, hends, hmid, -, -⟩ | ⟨hpass, hcount'⟩
    · exact .inl ⟨before, b, mid, d, after, rfl, hbegins, hmid, hends⟩
    · obtain ⟨pc, hpc, -⟩ := hpass.inPass
      have hleft : (b.dst.restarts.map RestartPc.left).sum = 22 := by
        rw [hbegins.2.2]
        rfl
      refine .inr ⟨restart_enabled hpc, ?_⟩
      rw [List.countP_append, List.countP_cons, if_pos hbegins.1]
      omega
  · obtain ⟨pc, hpc, -⟩ := hdue.due
    exact .inr ⟨restart_enabled hpc, by omega⟩

theorem not_hasPass (hes : ∀ e ∈ es, e.src.restarts = [.release]) : ¬ HasPass es := by
  rintro ⟨before, b, mid, d, after, rfl, ⟨-, hbegin, -⟩, -⟩
  have hend := hes b (by simp)
  exact nomatch List.singleton_inj.1 (hbegin.symm.trans hend)

theorem not_enabled (h : s.restarts = []) :
    ¬ ∃ k answer, (lifecycle.step s (.restart k answer)).isSome := by
  rintro ⟨k, answer, hsome⟩
  simp [lifecycle, Lifecycle.step, h] at hsome

theorem not_followed (h : s.restarts = [] ∨ s.restarts = [.release]) : ¬ Followed s := by
  rintro ⟨n, hall⟩
  rcases h with h | h
  · rcases hall [] s (.nil s) with hpass | ⟨hthere, -⟩
    · exact not_hasPass (List.forall_mem_nil _) hpass
    · exact not_enabled h hthere
  · -- the task makes its last step
    have hst : lifecycle.step s (.restart 0 .ok) = some (s.restartStep 0 .ok .release, ()) := by
      simp [lifecycle, Lifecycle.step, h]
    have hgone : (s.restartStep 0 .ok .release).restarts = [] := by
      simp [Lifecycle.restartStep, h]
    have hrun := LTS.Trace.single (A := lifecycle.toLTS) (l := (.restart 0 .ok, ())) hst
    rcases hall _ _ hrun with hpass | ⟨hthere, -⟩
    · refine not_hasPass ?_ hpass
      rw [List.forall_mem_singleton]
      exact h
    · exact not_enabled hgone hthere

/-- **A call** makes a pass due, unless it comes too late. -/
theorem Called.due (hcalled : Called e) (hi : e.src.OneTask)
    (hmoves : Lifecycle.Moves e.src e.label.1 e.dst) :
    TooLate e ∧ e.dst.restarts = e.src.restarts ∨ ¬ TooLate e ∧ e.dst.Due := by
  have hone := hi.moves hmoves
  obtain ⟨created, hc, hcall⟩ := hcalled
  rw [hc] at hmoves
  cases hmoves with
  | call hst =>
    rcases hcall with hagain | ⟨hcreate, rfl⟩
    · simp only [Lifecycle.callStep, hagain, Option.some.injEq] at hst
      have hrestarts : e.dst.restarts = e.src.restarts := by rw [← hst]
      have hset : e.dst.again = true := by rw [← hst]
      by_cases hlate : TooLate e
      · exact .inl ⟨hlate, hrestarts⟩
      · have hthere : e.src.restarts ≠ [] := fun h => hlate ⟨hagain, .inl h⟩
        obtain ⟨pc, hpc⟩ := List.length_eq_one_iff.1
          (Nat.le_antisymm hi.one (List.length_pos_iff.2 hthere))
        refine .inr ⟨hlate, hone, pc, hrestarts.trans hpc, .inr ⟨hset, ?_⟩⟩
        rintro rfl
        exact hlate ⟨hagain, .inr hpc⟩
    · simp only [Lifecycle.callStep, hcreate, if_true, Option.some.injEq] at hst
      refine .inr ⟨fun hlate => ?_, hone, .clearAgain, ?_, .inl rfl⟩
      · exact nomatch hcreate.symm.trans hlate.1
      · rw [← hst, hi.create hcreate]
        rfl

theorem event_passes (hst : lifecycle.toLTS.step e.src e.label e.dst)
    (hevent : e.label.1 = .event) (hstarted : e.src.startedOnce = true) : e.dst.call = .test := by
  have hmoves := Lifecycle.step_moves hst
  rw [hevent] at hmoves
  generalize e.dst = s' at hmoves
  cases hmoves with
  | guarded => rfl
  | ignored _ hguard => simp [Lifecycle.passesGuard, hstarted] at hguard

theorem Lifecycle.oneTask_empty : ({} : Lifecycle).OneTask :=
  ⟨Nat.zero_le 1, by decide, nofun, nofun⟩

/-- **No network event is lost, exactly** unless its call sets `s_restart_again` after the restart
task has tested it for the last time.  After the first start every event comes to such a call, and
there is never more than one restart task. -/
theorem restart_follows_call_iff (hrun : lifecycle.toLTS.Trace {} es s) :
    (∀ e ∈ es, Called e → (Followed e.dst ↔ ¬ TooLate e)) ∧
      (∀ e ∈ es, e.label.1 = .event → e.src.startedOnce = true → e.dst.call = .test) ∧
      ∀ e ∈ es, e.src.restarts.length ≤ 1 ∧ e.dst.restarts.length ≤ 1 := by
  have hone (e) (he : e ∈ es) : e.src.OneTask ∧ e.dst.OneTask :=
    hrun.invariant_mem Lifecycle.oneTask_empty
      (fun _ _ hst hi => hi.moves (Lifecycle.step_moves hst)) he
  refine ⟨?_, ?_, ?_⟩
  · intro e he hcalled
    rcases hcalled.due (hone e he).1 (Lifecycle.step_moves (hrun.step_of_mem he)) with
      ⟨hlate, hrestarts⟩ | ⟨hlate, hdue⟩
    · refine iff_of_false (not_followed ?_) (not_not.2 hlate)
      rw [hrestarts]
      exact hlate.2
    · exact iff_of_true hdue.followed hlate
  · intro e he
    exact event_passes (hrun.step_of_mem he)
  · intro e he
    exact ⟨(hone e he).1.one, (hone e he).2.one⟩

end

/-- The first start, without a failure. -/
def firstStartCalls : List LifecycleCall := List.replicate 21 (.wait true .ok)

/-- An event, and the restart task up to its last step. -/
def restartCalls : List LifecycleCall :=
  .event :: (List.replicate 3 (.call true) ++ List.replicate 22 (.restart 0 .ok))

/-- An event whose call finds the restart task at its last step. -/
def lateCalls : List LifecycleCall := [.event, .call true, .call true]

/-- The run in which an event is lost. -/
def lostCalls : List LifecycleCall := firstStartCalls ++ restartCalls ++ lateCalls

theorem restart_follows_call_iff_lost :
    let es := lifecycle.edges {} lostCalls
    (∀ e ∈ es, Called e → (Followed e.dst ↔ ¬ TooLate e)) ∧
      (∀ e ∈ es, e.label.1 = .event → e.src.startedOnce = true → e.dst.call = .test) ∧
      ∀ e ∈ es, e.src.restarts.length ≤ 1 ∧ e.dst.restarts.length ≤ 1 :=
  restart_follows_call_iff (lifecycle.trace_edges {} lostCalls)

/-- **A lost event.**  The server has been started and no creation of a task fails; the last event
comes when the restart task has made its last test, its call returns, and no pass follows. -/
theorem event_lost :
    let es := lifecycle.edges {} (firstStartCalls ++ restartCalls)
    let s := lifecycle.last {} (firstStartCalls ++ restartCalls)
    let es' := lifecycle.edges s lateCalls
    let s' := lifecycle.last s lateCalls
    lifecycle.toLTS.Trace {} (es ++ es') s' ∧ s.startedOnce = true ∧ s.restarts = [.release] ∧
      es'.map (·.label.1) = lateCalls ∧ (∃ e ∈ es', Called e ∧ e.dst = s') ∧ ¬ HasPass es' ∧
      ¬ Followed s' := by
  intro es s es' s'
  have hend : ∀ e ∈ es', e.src.restarts = [.release] := by decide +kernel
  refine ⟨(lifecycle.trace_edges {} _).append (lifecycle.trace_edges s lateCalls),
    by decide +kernel, by decide +kernel, by decide +kernel, ?_, not_hasPass hend,
    not_followed (.inr (by decide +kernel))⟩
  exact ⟨es'.get ⟨2, by decide +kernel⟩, List.get_mem _ _,
    ⟨true, by decide +kernel, .inl (by decide +kernel)⟩, by decide +kernel⟩

/-! ### The first start and a restart at once -/

/-- The first start and a restart task both work on the server. -/
def Overlap (s : Lifecycle) : Prop :=
  (∃ pc, s.wait = .start pc) ∧ ∃ pc ∈ s.restarts, pc.InSection

/-- An event gets past the guard before the first start has succeeded. -/
def EarlyEvent (e : LifecycleStep) : Prop :=
  e.label.1 = .event ∧ e.src.passesGuard = true ∧ e.src.wait ≠ .mark ∧ e.src.wait ≠ .done

/-- Unless another early event comes, the two are not on the server at once after this step. -/
def Separated (e : LifecycleStep) : Prop :=
  ∀ es s, lifecycle.toLTS.Trace e.dst es s → (∀ x ∈ es, ¬ EarlyEvent x) → ¬ Overlap s

/-- A step of a restart task during the first start does not touch the server. -/
def LeavesFirstStart (e : LifecycleStep) : Prop :=
  (∃ pc, e.src.wait = .start pc) → e.label.1.isRestart = true → e.dst.httpd = e.src.httpd

namespace Lifecycle

/-- The first start has succeeded, or there have been no calls. -/
def Calm (s : Lifecycle) : Prop :=
  (s.wait = .mark ∨ s.wait = .done) ∨ s.restarts = [] ∧ s.call = .idle ∧ s.taskRunning = false

section

variable {s s' : Lifecycle} {c : LifecycleCall} {es : List LifecycleStep}

theorem Calm.not_overlap (hi : s.Calm) : ¬ Overlap s := by
  rintro ⟨⟨pc, hwait⟩, pc', hpc', -⟩
  rcases hi with (h | h) | ⟨hnone, -⟩
  · exact nomatch h.symm.trans hwait
  · exact nomatch h.symm.trans hwait
  · simp [hnone] at hpc'

theorem started_moves (h : Moves s c s') (hi : s.wait = .mark ∨ s.wait = .done) :
    s'.wait = .mark ∨ s'.wait = .done := by
  cases h with
  | wait hst =>
    rcases hi with hwait | hwait
    · simp only [waitStep, hwait, Option.some.injEq] at hst
      exact .inr (by rw [← hst])
    · simp [waitStep, hwait] at hst
  | @restart k answer pc hpc =>
    rw [(restartStep_frame s k answer pc).2.1]
    exact hi
  | guarded | ignored => exact hi
  | call hst => exact (callStep_frame hst).2.2 ▸ hi

theorem Calm.moves (hi : s.Calm) (h : Moves s c s') (hearly : ¬ EarlyEvent ⟨s, (c, ()), s'⟩) :
    s'.Calm := by
  rcases hi with hstarted | ⟨hnone, hidle, hrunning⟩
  · exact .inl (started_moves h hstarted)
  · cases h with
    | wait hst =>
      obtain ⟨hrunning', -, hnone', hidle'⟩ := waitStep_frame hst
      exact .inr ⟨hnone'.trans hnone, hidle'.trans hidle, hrunning'.trans hrunning⟩
    | restart hpc => simp [hnone] at hpc
    | guarded _ hguard =>
      refine .inl ?_
      by_contra hwait
      rw [not_or] at hwait
      exact hearly ⟨rfl, hguard, hwait⟩
    | ignored => exact .inr ⟨hnone, hidle, hrunning⟩
    | call hst => simp [callStep, hidle] at hst

theorem Calm.trace (hi : s.Calm) (hrun : lifecycle.toLTS.Trace s es s')
    (hearly : ∀ e ∈ es, ¬ EarlyEvent e) : s'.Calm :=
  hrun.invariant hi fun e he hst hi => hi.moves (step_moves hst) (hearly e he)

theorem restart_enters (hcall : s.call = .test) (hnone : s.restarts = [])
    (hrunning : s.taskRunning = false) :
    ∃ cs : List LifecycleCall, .event ∉ cs ∧ (lifecycle.last s cs).restarts = [.stop] ∧
      (lifecycle.last s cs).wait = s.wait :=
  ⟨[.call true, .call true, .call true, .restart 0 .ok], by decide, by
    simp [Machine.last, lifecycle, step, callStep, restartStep, hcall, hnone, hrunning], by
    simp [Machine.last, lifecycle, step, callStep, restartStep, hcall, hnone, hrunning]⟩

theorem wait_enters (hmark : s.wait ≠ .mark) (hdone : s.wait ≠ .done) :
    ∃ cs : List LifecycleCall, .event ∉ cs ∧ (lifecycle.last s cs).restarts = s.restarts ∧
      ∃ pc, (lifecycle.last s cs).wait = .start pc := by
  cases hwait : s.wait with
  | network | delay =>
    exact ⟨[.wait true .ok, .wait true .ok], by decide, by
      simp [Machine.last, lifecycle, step, waitStep, hwait], .start, by
      simp [Machine.last, lifecycle, step, waitStep, hwait]⟩
  | credentials =>
    exact ⟨[.wait true .ok], by decide, by
      simp [Machine.last, lifecycle, step, waitStep, hwait], .start, by
      simp [Machine.last, lifecycle, step, waitStep, hwait]⟩
  | start pc => exact ⟨[], List.not_mem_nil, rfl, pc, hwait⟩
  | mark => exact absurd hwait hmark
  | done => exact absurd hwait hdone

theorem Calm.meets {u : Unit} (hi : s.Calm) (hst : lifecycle.step s c = some (s', u))
    (hearly : EarlyEvent ⟨s, (c, u), s'⟩) : ¬ Separated ⟨s, (c, u), s'⟩ := by
  obtain ⟨hc, hguard, hmark, hdone⟩ := hearly
  obtain rfl : c = .event := hc
  obtain ⟨hnone, hidle, hrunning⟩ := hi.resolve_left (not_or.2 ⟨hmark, hdone⟩)
  have hmoves := step_moves hst
  generalize hevent : LifecycleCall.event = c at hmoves
  cases hmoves with
  | guarded =>
    obtain ⟨cs, hcs, hstop, hwait⟩ :=
      restart_enters (s := { s with call := .test }) rfl hnone hrunning
    obtain ⟨cs', hcs', hstays, pc, hstart⟩ :=
      wait_enters (s := lifecycle.last { s with call := .test } cs) (by rwa [hwait])
        (by rwa [hwait])
    intro hsep
    refine hsep _ _ ((lifecycle.trace_edges _ cs).append (lifecycle.trace_edges _ cs')) ?_
      ⟨⟨pc, hstart⟩, .stop, by simp [hstays, hstop], trivial⟩
    rintro x hx ⟨hx', -⟩
    rcases List.mem_append.1 hx with hx | hx
    · exact hcs (hx' ▸ lifecycle.action_mem hx)
    · exact hcs' (hx' ▸ lifecycle.action_mem hx)
  | ignored _ hno => simp [hguard] at hno
  | wait | restart | call => cases hevent

theorem restartStep_httpd (s : Lifecycle) (k : ℕ) (answer : EspErr) {pc : RestartPc}
    (hpc : ¬ pc.InSection) : (s.restartStep k answer pc).httpd = s.httpd := by
  cases pc with
  | stop | clear | start => exact absurd trivial hpc
  | clearAgain | test | release => rfl

theorem httpd_moves (hno : ¬ Overlap s) (hwait : ∃ pc, s.wait = .start pc) (h : Moves s c s')
    (hrestart : c.isRestart = true) : s'.httpd = s.httpd := by
  cases h with
  | @restart k answer pc hpc =>
    refine s.restartStep_httpd k answer ?_
    intro hsection
    exact hno ⟨hwait, pc, List.mem_of_getElem? hpc, hsection⟩
  | wait | guarded | ignored | call => cases hrestart

end

end Lifecycle

/-- **One at a time, exactly** while no event gets past the guard before the first start has
succeeded: then the two are never on the server at once, and no restart stops or replaces the
server under the first start; and after the first event that does, they can meet. -/
theorem no_overlap_iff {es : List LifecycleStep} {s : Lifecycle}
    (hrun : lifecycle.toLTS.Trace {} es s) :
    ((∀ e ∈ es, Separated e) ↔ ∀ e ∈ es, ¬ EarlyEvent e) ∧
      ((∀ e ∈ es, ¬ EarlyEvent e) →
        ∀ e ∈ es, ¬ Overlap e.src ∧ ¬ Overlap e.dst ∧ LeavesFirstStart e) := by
  have hcalm : ({} : Lifecycle).Calm := .inr ⟨rfl, rfl, rfl⟩
  refine ⟨?_, ?_⟩
  · refine hrun.forall_edge_iff hcalm ?_
    intro e he hst hi
    have hkeeps : ¬ EarlyEvent e → e.dst.Calm := hi.moves (Lifecycle.step_moves hst)
    refine ⟨⟨?_, ?_⟩, hkeeps⟩
    · intro hsep hearly
      exact hi.meets hst hearly hsep
    · intro hearly es' s' hrun' hno
      exact ((hkeeps hearly).trace hrun' hno).not_overlap
  · intro hearly e he
    obtain ⟨hsrc, hdst⟩ := hrun.invariant_mem hcalm
      (fun e he hst hi => hi.moves (Lifecycle.step_moves hst) (hearly e he)) he
    refine ⟨hsrc.not_overlap, hdst.not_overlap, ?_⟩
    intro hwait
    exact Lifecycle.httpd_moves hsrc.not_overlap hwait (Lifecycle.step_moves (hrun.step_of_mem he))

/-- The first start fails at `httpd_start` and then succeeds, and an event comes before and another
after it. -/
def separateCalls : List LifecycleCall :=
  [.event, .wait true .ok, .wait true .ok, .wait true .fail, .wait true .ok] ++ firstStartCalls ++
    restartCalls

theorem no_overlap_iff_separate :
    let es := lifecycle.edges {} separateCalls
    ((∀ e ∈ es, Separated e) ↔ ∀ e ∈ es, ¬ EarlyEvent e) ∧
      ((∀ e ∈ es, ¬ EarlyEvent e) →
        ∀ e ∈ es, ¬ Overlap e.src ∧ ¬ Overlap e.dst ∧ LeavesFirstStart e) :=
  no_overlap_iff (lifecycle.trace_edges {} separateCalls)

/-- An event during the registrations of the first start. -/
def earlyCalls : List LifecycleCall :=
  List.replicate 4 (.wait true .ok) ++ .event :: (List.replicate 3 (.call true) ++
    List.replicate 2 (.restart 0 .ok))

/-- **A restart during the first start.**  The event gets past the guard because `httpd_start` has
set `s_server`, and the restart task stops the server on which the first start is registering. -/
theorem restart_during_first_start :
    let es := lifecycle.edges {} earlyCalls
    lifecycle.toLTS.Trace {} es (lifecycle.last {} earlyCalls) ∧ es.length = earlyCalls.length ∧
      ∃ e ∈ es, Overlap e.src ∧ e.src.wait = .start (.register (httpdUris.drop 1)) ∧
        e.src.startedOnce = false ∧ e.label.1.isRestart = true ∧ e.src.httpd.running ≠ none ∧
        e.dst.httpd.running = none ∧ ¬ LeavesFirstStart e := by
  intro es
  let e := es.get ⟨9, by decide +kernel⟩
  have hwait : e.src.wait = .start (.register (httpdUris.drop 1)) := by decide +kernel
  have hrestart : e.label.1.isRestart = true := by decide +kernel
  have hrestarts : e.src.restarts = [.stop] := by decide +kernel
  have hrunning : e.src.httpd.running ≠ none := by decide +kernel
  have hstopped : e.dst.httpd.running = none := by decide +kernel
  refine ⟨lifecycle.trace_edges {} earlyCalls, by decide +kernel, e, List.get_mem _ _,
    ⟨⟨_, hwait⟩, .stop, by simp [hrestarts], trivial⟩, hwait, by decide +kernel, hrestart,
    hrunning, hstopped, ?_⟩
  intro hleaves
  exact hrunning ((congrArg Httpd.running (hleaves ⟨_, hwait⟩ hrestart)).symm.trans hstopped)

end GdoBlaq
