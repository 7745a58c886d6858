import GdoBlaq.Control.Warned
import Mathlib.Data.List.DropRight

/-!
# Retries of the standing request

The watchdog repeats a request that the opener did not act on.  The repetition goes out under the
id that stands at that moment and in the direction of the driver's `door_target`; neither is what
the retry budget was asked about five seconds earlier.

## Main results

* `Minted` : the standing id is that of the last request since the boot.
* `retry_repeats_request_iff` : a retry repeats the last request, which the driver had accepted, if
  and only if the driver's target is the end that this request asked for.
* `Budgeted`, `one_retry_per_request` : one retry for each id, as long as no retry goes out under a
  newer id than the one its budget was spent on.
* `stale_retry_closes`, `retried_twice` : runs in which either goes wrong.
-/

namespace GdoBlaq

open Firmware

/-! ### The commands of a run -/

/-- What the steps did to the outside, in order. -/
def outputs (es : List Step) : List Out := es.flatMap fun e => e.label.2.out

/-- The last door request of the steps. -/
def lastRequest (es : List Step) : Option Out :=
  ((outputs es).filter fun o => o.IsRequest).getLast?

/-- The steps since the last reboot, which starts the ids again. -/
def sinceBoot (es : List Step) : List Step := es.rtakeWhile fun e => !e.label.1.call.isReboot

/-- The output repeats a command under the id `k`. -/
def Out.Repeats (k : ℕ) : Out → Bool
  | .retry _ id _ => id = k
  | _ => false

/-- How often a command was repeated under the id `k`. -/
def repeats (es : List Step) (k : ℕ) : ℕ := (outputs es).countP (Out.Repeats k)

section Outputs

variable {w w' : World} {es : List Step} {e : Step} {c : Call} {r : Reply} {o : Out} {k : ℕ}

theorem outputs_snoc : outputs (es ++ [e]) = outputs es ++ e.label.2.out := by simp [outputs]

theorem repeats_snoc : repeats (es ++ [e]) k =
    repeats es k + e.label.2.out.countP (Out.Repeats k) := by
  simp [repeats, outputs_snoc]

theorem lastRequest_snoc_of_none (h : ∀ o ∈ e.label.2.out, ¬ o.IsRequest) :
    lastRequest (es ++ [e]) = lastRequest es := by
  have hnil : (e.label.2.out.filter fun o => o.IsRequest) = [] := by simpa using h
  simp [lastRequest, outputs_snoc, hnil]

theorem lastRequest_snoc_of_mem (h : (e.label.2.out.filter fun o => o.IsRequest) = [o]) :
    lastRequest (es ++ [e]) = some o := by
  simp [lastRequest, outputs_snoc, h]

theorem Silent.filter_isRequest {out : List Out} (h : Silent out) :
    (out.filter fun o => o.IsRequest) = [] := by
  simpa using h.not_isRequest

theorem Effect.request (h : Effect w c w' r) (hc : c.isReboot = false) :
    ((∀ o ∈ r.out, ¬ o.IsRequest) ∧ w'.fw.doorCommandId = w.fw.doorCommandId) ∨
      ∃ caller cmd err, (r.out.filter fun o => o.IsRequest) =
        [.request caller cmd w'.fw.doorCommandId err] := by
  cases h with
  | idle _ _ hout | restarted _ _ _ _ hout => exact .inl ⟨hout, rfl⟩
  | news _ hnews _ hout => exact .inl ⟨hout.not_isRequest, hnews.frame.commandId⟩
  | userDropped _ hout => exact .inl ⟨hout.not_isRequest, rfl⟩
  | opened err => exact .inr ⟨.control, .doorOpen, err, by simp⟩
  | @userSent _ _ _ _ err _ _ _ _ hout =>
    exact .inr ⟨.userClose, .doorClose, err, by simp [hout.filter_isRequest]⟩
  | autoSent => exact .inr ⟨.autoClose, .doorClose, .ok, by simp⟩
  | @autoRefused _ _ _ err => exact .inr ⟨.autoClose, .doorClose, err, by simp⟩
  | @schedSent _ _ _ err _ _ _ hout =>
    exact .inr ⟨.schedClose, .doorClose, err, by simp [hout.filter_isRequest]⟩
  | rebooted => simp [Call.isReboot] at hc
  | _ => exact .inl (by simp)

end Outputs

/-! ### What is repeated -/

section Direction

variable {w w' : World} {es before after : List Step} {e : Step} {k : ℕ} {cmd : DoorCommand}
  {err : EspErr}

/-- The standing id was minted by the last request. -/
def Minted (es : List Step) (w : World) : Prop :=
  w.fw.doorCommandId ≠ 0 → ∃ caller cmd err,
    lastRequest es = some (.request caller cmd w.fw.doorCommandId err)

theorem Minted.step (hi : Minted es e.src) (hst : control.toLTS.step e.src e.label e.dst) :
    Minted (es ++ [e]) e.dst := by
  rcases World.step_cases hst with ⟨hc, -, heff⟩ | ⟨reads, setenvOk, -, -, hboot⟩
  · rcases heff.request hc with ⟨hnone, hid⟩ | ⟨caller, cmd, err, hone⟩
    · intro hne
      rw [hid] at hne ⊢
      rw [lastRequest_snoc_of_none hnone]
      exact hi hne
    · exact fun _ => ⟨caller, cmd, err, lastRequest_snoc_of_mem hone⟩
  · intro hne
    simp [hboot, World.boot] at hne

theorem Minted.trace {n : Nvs} {reads : NvsReads} {setenvOk : Bool} {t₀ : ℤ}
    (hrun : control.toLTS.Trace (World.boot n reads setenvOk t₀) es w) : Minted es w := by
  refine hrun.history ?_ fun pre e _ hst hi => hi.step hst
  intro hne
  simp [World.boot] at hne

/-- The driver accepted the last request, and its target, in the last status that the retry reads,
is the end that this request asked for. -/
def TargetKept (es : List Step) (c : Call) : Prop :=
  ∃ caller cmd id, lastRequest es = some (.request caller cmd id .ok) ∧
    ∃ recheck request err, c = .watchdogResend recheck (some request) err ∧
      request.doorTarget = cmd.target

/-- **A retry repeats the pending request and nothing else, exactly** when the driver's target is
the end that the request asked for and the driver had accepted the request. -/
theorem retry_repeats_request_iff {n : Nvs} {reads : NvsReads} {setenvOk : Bool} {t₀ : ℤ}
    (hrun : control.toLTS.Trace (World.boot n reads setenvOk t₀) (before ++ e :: after) w)
    (hsent : .retry cmd k err ∈ e.label.2.out) :
    (∃ caller, lastRequest before = some (.request caller cmd k .ok)) ↔
      TargetKept before e.label.1.call := by
  obtain ⟨hbefore, hst, -⟩ := LTS.Trace.at_edge_iff.1 hrun
  obtain ⟨-, -, -, -, recheck, request, err', cmd', hcall, -, -, -, hid, -, -, htarget, hout⟩ :=
    World.step_retry hst hsent trivial
  rw [hout, List.mem_singleton] at hsent
  obtain ⟨rfl, rfl, rfl⟩ := Out.retry.inj hsent
  rw [commandOfTarget_eq_some] at htarget
  constructor
  · rintro ⟨caller, hlast⟩
    exact ⟨caller, cmd, _, hlast, recheck, request, err, hcall, htarget⟩
  · rintro ⟨caller, last, id, hlast, recheck', request', err', hcall', htarget'⟩
    rw [hcall'] at hcall
    obtain ⟨-, hrequest, -⟩ := Call.watchdogResend.inj hcall
    obtain rfl := Option.some.inj hrequest
    -- one target stands for one command
    have hcmd : cmd = last := by
      have := commandOfTarget_eq_some.2 htarget
      rw [commandOfTarget_eq_some.2 htarget'] at this
      exact (Option.some.inj this).symm
    have hne : e.src.fw.doorCommandId ≠ 0 := by
      intro hzero
      simp [hzero, Stamp.read] at hid
    obtain ⟨caller', cmd', err', hmint⟩ := Minted.trace hbefore hne
    rw [hlast] at hmint
    obtain ⟨-, -, rfl, -⟩ := Out.request.inj (Option.some.inj hmint)
    exact ⟨caller, hcmd ▸ hlast⟩

/-- The closed door of `openRetryRun`, whose Open is repeated. -/
def openRetry : Action :=
  ⟨15000, .watchdogResend (some (.idle .closed 10000 0)) (some (.idle .closed 10000 0)) .ok⟩

theorem retry_repeats_request_iff_open :
    let es := control.edges (World.boot {} {} true 0) openRetryRun
    (∃ caller, lastRequest es = some (.request caller .doorOpen 1 .ok)) ↔
      TargetKept es openRetry.call := by
  have hrun := control.trace_snoc (control.trace_edges (World.boot {} {} true 0) openRetryRun)
    openRetry (by decide +kernel)
  have hsent : .retry .doorOpen 1 .ok ∈ (control.edge
      (control.last (World.boot {} {} true 0) openRetryRun) openRetry).label.2.out := by
    decide +kernel
  exact retry_repeats_request_iff hrun hsent

/-- An open door for which the driver still has the target closed, and an Open at 2 s, which changes
nothing: the retry stage takes the stale target for a Close that is pending. -/
def staleTargetRun : List Action :=
  let st := GdoStatus.idle .opened 0 10000
  [⟨1000, .event st .doorPosition .ok⟩, ⟨2000, .controlOpen .ok⟩] ++ watchdogTick 5000 st ++
    [⟨15000, .watchdogTransition (some st) (some st)⟩, ⟨15000, .watchdogRetry (some st)⟩] ++
    List.replicate 10 ⟨20000, .watchdogWarningCycle⟩

/-- The end of the retry stage of `staleTargetRun`. -/
def staleRetry : Action :=
  ⟨20000, .watchdogResend (some (.idle .opened 0 10000)) (some (.idle .opened 0 10000)) .ok⟩

/-- **The watchdog closes a door whose last request was an Open.** -/
theorem stale_retry_closes :
    ∃ before e w, control.toLTS.Trace (World.boot {} {} true 0) (before ++ [e]) w ∧
      .retry .doorClose 1 .ok ∈ e.label.2.out ∧
      lastRequest before = some (.request .control .doorOpen 1 .ok) ∧
      ¬ ∃ caller, lastRequest before = some (.request caller .doorClose 1 .ok) := by
  have hrun := control.trace_snoc (control.trace_edges (World.boot {} {} true 0) staleTargetRun)
    staleRetry (by decide +kernel)
  have hlast : lastRequest (control.edges (World.boot {} {} true 0) staleTargetRun) =
      some (.request .control .doorOpen 1 .ok) := by decide +kernel
  refine ⟨_, _, _, hrun, by decide +kernel, hlast, ?_⟩
  rintro ⟨caller, hclose⟩
  simp [hlast] at hclose

end Direction

/-! ### How often -/

section Budget

variable {w w' : World} {es : List Step} {e : Step} {k : ℕ}

/-- The watchdog has decided to repeat a command and has not done so yet. -/
def Phase.isResend : Phase → Bool
  | .resend _ _ _ _ => true
  | _ => false

/-- If the recheck after the warning passes, no request was issued since the budget was asked. -/
def budgetKept (w : World) (c : Call) : Bool :=
  match w.phase, c with
  | .resend _ status generation _, .watchdogResend recheck _ _ =>
    retryStands w.fw generation status recheck = true → w.budget.commandId = w.fw.doorCommandId
  | _, _ => true

/-- After the steps `es`, the budget knows what was repeated. -/
structure Budgeted (es : List Step) (w : World) : Prop where
  le : w.budget.commandId ≤ w.fw.doorCommandId
  fresh : ∀ k, w.budget.commandId < k → repeats (sinceBoot es) k = 0
  once : ∀ k, repeats (sinceBoot es) k ≤ 1
  unspent : w.budget.attempts = 0 ∨ w.phase.isResend = true →
    repeats (sinceBoot es) w.budget.commandId = 0
  owed : w.phase.isResend = true → w.budget.attempts ≠ 0

theorem sinceBoot_snoc (hc : e.label.1.call.isReboot = false) :
    sinceBoot (es ++ [e]) = sinceBoot es ++ [e] :=
  List.rtakeWhile_concat_pos _ _ _ (by simp [hc])

theorem sinceBoot_reboot (hc : e.label.1.call.isReboot = true) : sinceBoot (es ++ [e]) = [] :=
  List.rtakeWhile_concat_neg _ _ _ (by simp [hc])

theorem repeats_since_snoc_of_none (hc : e.label.1.call.isReboot = false)
    (h : ∀ o ∈ e.label.2.out, ¬ o.IsRetry) :
    repeats (sinceBoot (es ++ [e])) k = repeats (sinceBoot es) k := by
  have hzero : e.label.2.out.countP (Out.Repeats k) = 0 := by
    refine List.countP_eq_zero.2 ?_
    intro o ho hrep
    have := h o ho
    cases o <;> simp_all [Out.Repeats, Out.IsRetry]
  rw [sinceBoot_snoc hc, repeats_snoc, hzero, Nat.add_zero]

theorem Budgeted.mono (hi : Budgeted es w) (hb : w'.budget = w.budget)
    (hid : w.fw.doorCommandId ≤ w'.fw.doorCommandId)
    (hphase : w'.phase.isResend = true → w.phase.isResend = true)
    (hrep : ∀ k, repeats (sinceBoot (es ++ [e])) k = repeats (sinceBoot es) k) :
    Budgeted (es ++ [e]) w' where
  le := hb ▸ hi.le.trans hid
  fresh k hk := (hrep k).trans (hi.fresh k (hb ▸ hk))
  once k := (hrep k).trans_le (hi.once k)
  unspent h := by
    rw [hrep, hb]
    rw [hb] at h
    exact hi.unspent (h.imp_right hphase)
  owed h := hb ▸ hi.owed (hphase h)

theorem Budgeted.decide (hi : Budgeted es w) {now : ℤ} {status : GdoStatus} {action : RetryAction}
    (hdec : retryDecision w.fw w.budget now status = (w'.budget, action))
    (hid : w'.fw.doorCommandId = w.fw.doorCommandId)
    (hphase : w'.phase.isResend = true → action = .send)
    (hrep : ∀ k, repeats (sinceBoot (es ++ [e])) k = repeats (sinceBoot es) k) :
    Budgeted (es ++ [e]) w' := by
  obtain ⟨htake, hsend⟩ := retryBudgetStep_spec hdec
  rcases htake with ⟨hne, hnew⟩ | ⟨hsame, hatt, hfirst⟩
  · -- the budget takes up an id that is newer than any it knew
    have hlt : w.budget.commandId < w.fw.doorCommandId := by
      refine lt_of_le_of_ne hi.le fun heq => hne ?_
      rw [heq]
    constructor
    · exact (hnew.trans hid.symm).le
    · exact fun k hk => (hrep k).trans (hi.fresh k (hlt.trans (hnew ▸ hk)))
    · exact fun k => (hrep k).trans_le (hi.once k)
    · exact fun _ => (hrep _).trans (hi.fresh _ (hnew ▸ hlt))
    · exact fun h => hsend (hphase h)
  · constructor
    · rw [hsame, hid]; exact hi.le
    · exact fun k hk => (hrep k).trans (hi.fresh k (hsame ▸ hk))
    · exact fun k => (hrep k).trans_le (hi.once k)
    · intro h
      rw [hrep, hsame]
      refine hi.unspent (.inl ?_)
      rcases h with hzero | hresend
      · omega
      · exact hfirst (hphase hresend)
    · exact fun h => hsend (hphase h)

/-- The repetition under the id that the budget was spent on. -/
theorem Budgeted.repeat (hi : Budgeted es w) {cmd : DoorCommand} {err : EspErr}
    (hc : e.label.1.call.isReboot = false) (hb : w'.budget = w.budget)
    (hid : w'.fw.doorCommandId = w.fw.doorCommandId)
    (hkept : w.budget.commandId = w.fw.doorCommandId) (hold : w.phase.isResend = true)
    (hphase : w'.phase.isResend = false)
    (hout : e.label.2.out = [.retry cmd w.fw.doorCommandId err]) : Budgeted (es ++ [e]) w' := by
  have hrep : ∀ k, repeats (sinceBoot (es ++ [e])) k =
      repeats (sinceBoot es) k + if w.fw.doorCommandId = k then 1 else 0 := by
    intro k
    rw [sinceBoot_snoc hc, repeats_snoc, hout]
    by_cases hk : w.fw.doorCommandId = k <;> simp [Out.Repeats, hk]
  constructor
  · rw [hb, hid]; exact hi.le
  · intro k hk
    rw [hb, hkept] at hk
    rw [hrep, hi.fresh k (hkept ▸ hk), if_neg hk.ne]
  · intro k
    have honce := hi.once k
    rw [hrep]
    split_ifs with hk
    · -- the id that is repeated is the one the budget was spent on
      have hzero := hi.unspent (.inr hold)
      rw [hkept, hk] at hzero
      omega
    · omega
  · rintro (hzero | hresend)
    · rw [hb] at hzero
      exact absurd hzero (hi.owed hold)
    · simp [hphase] at hresend
  · intro h
    simp [hphase] at h

theorem Budgeted.resend (hi : Budgeted es w) {now : ℤ} {status : GdoStatus}
    {generation elapsed : ℕ} {recheck request : Option GdoStatus} {err : EspErr}
    (hphase : w.phase = .resend now status generation elapsed)
    (hcall : e.label.1.call = .watchdogResend recheck request err)
    (hkept : budgetKept w e.label.1.call = true) (hb : w'.budget = w.budget)
    (hid : w'.fw.doorCommandId = w.fw.doorCommandId) (hphase' : w'.phase = .autoClose now)
    (hout : e.label.2.out = watchdogResend w.fw generation status recheck request err) :
    Budgeted (es ++ [e]) w' := by
  have hreboot : e.label.1.call.isReboot = false := by rw [hcall]; rfl
  rcases watchdogResend_cases (s := w.fw) generation status recheck request err with
    he | ⟨st, cmd, rfl, hstands, -, -, -, -, he⟩
  · refine hi.mono hb hid.ge (by simp [hphase', Phase.isResend]) ?_
    intro k
    exact repeats_since_snoc_of_none hreboot (by simp [hout, he])
  · simp only [hcall, budgetKept, hphase, decide_eq_true_eq] at hkept
    exact hi.repeat hreboot hb hid (hkept hstands) (by simp [hphase, Phase.isResend])
      (by simp [hphase', Phase.isResend]) (hout.trans he)

theorem Budgeted.step (hi : Budgeted es e.src) (hst : control.toLTS.step e.src e.label e.dst)
    (hkept : budgetKept e.src e.label.1.call = true) : Budgeted (es ++ [e]) e.dst := by
  have hmove := World.step_watchdog hst
  rcases World.step_cases hst with ⟨hc, -, heff⟩ | ⟨reads, setenvOk, hcall, -, hboot⟩
  swap
  · have hreboot : e.label.1.call.isReboot = true := by rw [hcall]; rfl
    constructor <;>
      simp [sinceBoot_reboot hreboot, repeats, outputs, hboot, World.boot, Phase.isResend]
  have hle : e.src.fw.doorCommandId ≤ e.dst.fw.doorCommandId := (heff.counters hc).2.1
  have hid : e.label.1.call.isWatchdog = true →
      e.dst.fw.doorCommandId = e.src.fw.doorCommandId := heff.commandId_of_isWatchdog
  have hnone : (∀ o ∈ e.label.2.out, ¬ o.IsRetry) → ∀ k,
      repeats (sinceBoot (es ++ [e])) k = repeats (sinceBoot es) k :=
    fun h k => repeats_since_snoc_of_none hc h
  generalize hcall : e.label.1.call = c, hp : e.dst.phase = p, hb : e.dst.budget = b,
    hout : e.label.2.out = out at hmove hid hnone
  cases hmove with
  | other _ _ hretry =>
    exact hi.mono hb hle (by simp [hp, World.tick]) (hnone hretry)
  | woke _ hretry | offered _ hretry =>
    exact hi.mono hb hle (by simp [hp, Phase.isResend]) (hnone hretry)
  | unread | schedDone => exact hi.mono hb hle (by simp [hp, Phase.isResend]) (hnone (by simp))
  | autoDone _ hdone =>
    exact hi.mono hb hle (by rcases hdone with h | h <;> simp [hp, h, Phase.isResend])
      (hnone (by simp))
  | beeped hphase =>
    have hphase : e.src.phase = _ := hphase
    exact hi.mono hb hle (by simp [hphase, Phase.isResend]) (hnone (by simp))
  | waited _ hdec =>
    exact hi.decide (hb ▸ hdec) (hid rfl) (by simp [hp, Phase.isResend]) (hnone (by simp))
  | sending _ hdec => exact hi.decide (hb ▸ hdec) (hid rfl) (fun _ => rfl) (hnone (by simp))
  | reverted _ hdec hretry =>
    exact hi.decide (hb ▸ hdec) (hid rfl) (by simp [hp, Phase.isResend]) (hnone hretry)
  | resent hphase => exact hi.resend hphase hcall hkept hb (hid rfl) hp hout
  | rebooted => simp [hcall, Call.isReboot] at hc

/-- **Each request has a single retry.**  In every run in which no retry goes out under a newer id
than the one the budget was asked about, each id is repeated at most once. -/
theorem one_retry_per_request {n : Nvs} {reads : NvsReads} {setenvOk : Bool} {t₀ : ℤ}
    (hrun : control.toLTS.Trace (World.boot n reads setenvOk t₀) es w)
    (hkept : ∀ e ∈ es, budgetKept e.src e.label.1.call = true) (k : ℕ) :
    repeats (sinceBoot es) k ≤ 1 := by
  have hbudget : Budgeted es w := by
    refine hrun.history ?_ fun pre e hpre hst hi => hi.step hst (hkept e (hpre.subset (by simp)))
    constructor <;> simp [sinceBoot, repeats, outputs, World.boot, Phase.isResend]
  exact hbudget.once k

theorem one_retry_per_request_open :
    let run := openRetryRun ++ [openRetry]
    repeats (sinceBoot (control.edges (World.boot {} {} true 0) run)) 1 ≤ 1 :=
  one_retry_per_request (control.trace_edges _ _) (by decide +kernel) 1

/-- An open door that obeys no Close.  The first one goes out at 7 s, and the retry stage decides at
22 s to repeat it; while that warning sounds, the warning of a second Close ends.  The retry goes
out under the second id, which later gets a retry of its own. -/
def secondCloseRun : List Action :=
  let idle := GdoStatus.idle .opened 0 0
  let st := GdoStatus.idle .opened 0 10000
  [⟨1000, .event idle .doorPosition .ok⟩, ⟨1000, .event idle .obstruction .ok⟩,
    ⟨2000, .controlClose (some idle) {}⟩] ++ List.replicate 10 ⟨7000, .warningCycle 0⟩ ++
    [⟨7001, .userCloseTask 0 (some idle) .ok (some st)⟩] ++ watchdogTick 10000 st ++
    [⟨20000, .controlClose (some st) {}⟩, ⟨22000, .watchdogTransition (some st) (some st)⟩,
      ⟨22000, .watchdogRetry (some st)⟩] ++
    List.replicate 10 ⟨25000, .warningCycle 1⟩ ++
    [⟨25001, .userCloseTask 1 (some st) .ok (some st)⟩] ++
    List.replicate 10 ⟨27000, .watchdogWarningCycle⟩ ++
    [⟨27001, .watchdogResend (some st) (some st) .ok⟩, ⟨27001, .watchdogAutoClose (some st) {}⟩,
      ⟨27001, .watchdogSched none (some st) {} {} {}⟩, ⟨27001, .watchdogReoffer⟩] ++
    watchdogTick 30000 st ++
    [⟨40000, .watchdogTransition (some st) (some st)⟩, ⟨40000, .watchdogRetry (some st)⟩] ++
    List.replicate 10 ⟨45000, .watchdogWarningCycle⟩ ++
    [⟨45001, .watchdogResend (some st) (some st) .ok⟩]

/-- **A request that is repeated twice.** -/
theorem retried_twice :
    ∃ es w, control.toLTS.Trace (World.boot {} {} true 0) es w ∧ repeats (sinceBoot es) 2 = 2 :=
  ⟨_, _, control.trace_edges _ secondCloseRun, by decide +kernel⟩

end Budget

end GdoBlaq
