import GdoBlaq.Control.Door
import GdoBlaq.Lts.Machine

/-!
# The wait for the protocol

The HomeKit task has to know whether the opener speaks Security+ 2.0 before the Learn tile can be
offered.  `gdo_wait_for_identified_protocol` reads a flag, else takes a semaphore for a bounded
time, reads the status and reads the flag once more; meanwhile the event handler sets the flag and
then gives the semaphore.  Every access to the flag or the semaphore is a step of its own.

## Main results

* `GateInv.step` : as long as the task waits, a protocol that was identified has not been missed.
* `learn_tile_gate` : what the task finds out, and when it gives up.
-/

namespace GdoBlaq

/-- `gdo_wait_for_identified_protocol(32000, &st)`, and `learn_supported` after it. -/
inductive GateTask where
  /-- It reads `s_gdo_protocol_identified`. -/
  | entered
  /-- `xSemaphoreTake`, up to the deadline. -/
  | taking (deadline : ℤ)
  /-- The time is over. -/
  | timedOut
  /-- `gdo_get_status` -/
  | reading
  /-- It reads `s_gdo_protocol_identified` again, with the protocol of the status. -/
  | checking (protocol : Protocol)
  /-- `protocol_known` and `learn_supported` -/
  | returned (known learn : Bool)
  deriving DecidableEq, Repr

/-- The flag and the semaphore, and the two tasks that use them. -/
structure ProtocolGate where
  /-- `s_gdo_protocol_identified` -/
  identified : Bool := false
  /-- `s_gdo_protocol_identified_sem`, which is binary. -/
  sem : Bool := false
  /-- `gdo_event_handler` has set the flag and gives the semaphore next. -/
  giving : Bool := false
  task : GateTask := .entered
  deriving DecidableEq, Repr

/-- The time that the HomeKit task waits for at most. -/
def protocolTimeoutMs : ℤ := 32000

/-- The accesses. -/
inductive GateCall where
  /-- `gdo_event_handler`, up to the flag. -/
  | event (status : GdoStatus) (event : GdoEvent)
  /-- `xSemaphoreGive` -/
  | give
  /-- `if (!s_gdo_protocol_identified && ...)` -/
  | enter
  /-- `xSemaphoreTake` gets the semaphore. -/
  | take
  /-- `xSemaphoreTake` gives up. -/
  | timeout
  /-- `gdo_get_status` after that, and `return false`. -/
  | leave
  /-- `gdo_get_status`; `none` is an error. -/
  | read (status : Option GdoStatus)
  /-- `return s_gdo_protocol_identified && ...` -/
  | check
  deriving DecidableEq

/-- An access, and its time. -/
structure GateAction where
  t : ℤ
  call : GateCall
  deriving DecidableEq

/-- What the head of `gdo_event_handler` takes for a proof of the protocol. -/
def proves (status : GdoStatus) (event : GdoEvent) : Bool :=
  (status.synced || event.protocolEvidence) && status.protocol.known

/-- A step; the driver reports an event after the one before it has been handled. -/
def ProtocolGate.step (g : ProtocolGate) (a : GateAction) : Option ProtocolGate :=
  match a.call with
  | .event status event =>
    if g.giving then none
    else if proves status event && !g.identified then
      some { g with identified := true, giving := true }
    else some g
  | .give => if g.giving then some { g with sem := true, giving := false } else none
  | .enter =>
    if g.task = .entered then
      some { g with task := if g.identified then .reading else .taking (a.t + protocolTimeoutMs) }
    else none
  | .take =>
    match g.task with
    | .taking _ => if g.sem then some { g with sem := false, task := .reading } else none
    | _ => none
  | .timeout =>
    match g.task with
    | .taking deadline =>
      if !g.sem ∧ deadline ≤ a.t then some { g with task := .timedOut } else none
    | _ => none
  | .leave => if g.task = .timedOut then some { g with task := .returned false false } else none
  | .read status =>
    if g.task = .reading then
      match status with
      | none => some { g with task := .returned false false }
      | some status => some { g with task := .checking status.protocol }
    else none
  | .check =>
    match g.task with
    | .checking protocol =>
      let known : Bool := g.identified && protocol.known
      some { g with task := .returned known (known && protocol = .secPlusV2) }
    | _ => none

/-- The gate as a machine. -/
def protocolGate : Machine ProtocolGate GateAction Unit :=
  ⟨fun g a => (g.step a).map fun g => (g, ())⟩

/-- A step of a run, with the gate around it. -/
abbrev GateStep := LTS.Edge ProtocolGate (GateAction × Unit)

/-- The head of `gdo_event_handler` is the one that is modelled with the rest of it. -/
theorem identifyProtocol_eq (k : Link) (status : GdoStatus) (event : GdoEvent) :
    (identifyProtocol k status event).gdoProtocolIdentified =
      (k.gdoProtocolIdentified || proves status event) := by
  unfold identifyProtocol proves
  by_cases hproof : ((status.synced || event.protocolEvidence) && status.protocol.known) = true
  · rw [if_pos hproof, hproof, Bool.or_true]
  · rw [if_neg hproof, Bool.eq_false_of_not_eq_true hproof, Bool.or_false]

/-! ### What holds in a run -/

/-- The step is the report of a proof of the protocol. -/
def GateStep.Proves (e : GateStep) : Prop :=
  ∃ status event, e.label.1.call = .event status event ∧ proves status event = true

/-- The status that was read reports the protocol. -/
def Reported (es : List GateStep) (protocol : Protocol) : Prop :=
  ∃ e ∈ es, ∃ status, e.label.1.call = .read (some status) ∧ status.protocol = protocol

/-- What the place of the task says about the steps so far. -/
def GateTask.Since (es : List GateStep) (identified : Bool) : GateTask → Prop
  | .entered => ∀ e ∈ es, ∀ status, e.label.1.call ≠ .read status
  | .taking deadline =>
    (∀ e ∈ es, ∀ status, e.label.1.call ≠ .read status) ∧
    ∃ e ∈ es, e.label.1.call = .enter ∧ deadline = e.label.1.t + protocolTimeoutMs
  | .timedOut => ∀ e ∈ es, ∀ status, e.label.1.call ≠ .read status
  | .reading => identified = true ∧ ∀ e ∈ es, ∀ status, e.label.1.call ≠ .read status
  | .checking protocol => identified = true ∧ ∀ p, Reported es p ↔ p = protocol
  | .returned known learn =>
    (known = true → identified = true) ∧
    (known = true ↔ ∃ p, Reported es p ∧ p.known = true) ∧ (learn = true ↔ Reported es .secPlusV2)

/-- The task waits for the semaphore, or will. -/
def GateTask.Waits : GateTask → Prop
  | .entered | .taking _ => True
  | _ => False

/-- The invariant. -/
structure GateInv (es : List GateStep) (g : ProtocolGate) : Prop where
  proof : g.identified = true → ∃ e ∈ es, e.Proves
  giving : g.giving = true → g.identified = true
  sem : g.sem = true → g.identified = true
  /-- The semaphore has been given only for the flag. -/
  given : (∃ e ∈ es, e.label.1.call = .give) → g.identified = true ∧ g.giving = false
  /-- No wake-up is lost. -/
  awake : g.identified = true → g.giving = true ∨ g.sem = true ∨ ¬ g.task.Waits
  since : g.task.Since es g.identified

section

variable {es : List GateStep} {e : GateStep} {g g' : ProtocolGate} {task : GateTask}
  {identified identified' : Bool} {p : Protocol}

theorem reported_snoc :
    Reported (es ++ [e]) p ↔
      Reported es p ∨ ∃ status, e.label.1.call = .read (some status) ∧ status.protocol = p := by
  simp only [Reported, List.mem_append, List.mem_singleton, or_and_right, exists_or,
    exists_eq_left]

theorem unread_snoc (h : ∀ x ∈ es, ∀ status, x.label.1.call ≠ .read status)
    (he : ∀ status, e.label.1.call ≠ .read status) :
    ∀ x ∈ es ++ [e], ∀ status, x.label.1.call ≠ .read status :=
  List.forall_mem_append.2 ⟨h, List.forall_mem_singleton.2 he⟩

theorem not_reported (h : ∀ x ∈ es, ∀ status, x.label.1.call ≠ .read status) : ¬ Reported es p :=
  fun ⟨x, hx, status, hcall, _⟩ => h x hx (some status) hcall

theorem GateTask.Since.snoc (h : task.Since es identified)
    (hid : identified = true → identified' = true)
    (he : ∀ status, e.label.1.call ≠ .read status) : task.Since (es ++ [e]) identified' := by
  have hreported (p : Protocol) : Reported (es ++ [e]) p ↔ Reported es p := by
    rw [reported_snoc, or_iff_left]
    exact fun ⟨status, hcall, _⟩ => he (some status) hcall
  cases task with
  | entered => exact unread_snoc h he
  | taking deadline =>
    obtain ⟨hunread, x, hx, henter⟩ := h
    exact ⟨unread_snoc hunread he, x, List.mem_append_left _ hx, henter⟩
  | timedOut => exact unread_snoc h he
  | reading => exact ⟨hid h.1, unread_snoc h.2 he⟩
  | checking protocol =>
    refine ⟨hid h.1, fun p => ?_⟩
    rw [hreported]
    exact h.2 p
  | returned known learn =>
    simp only [GateTask.Since, hreported]
    exact ⟨fun hk => hid (h.1 hk), h.2⟩

theorem GateInv.of_task (h : GateInv es g) (hid : g'.identified = g.identified)
    (hgiving : g'.giving = g.giving) (hsem : g'.sem = true → g.sem = true)
    (he : e.label.1.call ≠ .give)
    (hwaits : g'.task.Waits → g'.sem = g.sem ∧ g.task.Waits)
    (hsince : g'.task.Since (es ++ [e]) g.identified) : GateInv (es ++ [e]) g' where
  proof hi := by
    obtain ⟨x, hx, hproof⟩ := h.proof (hid ▸ hi)
    exact ⟨x, List.mem_append_left _ hx, hproof⟩
  giving hi := hid.trans (h.giving (hgiving ▸ hi))
  sem hi := hid.trans (h.sem (hsem hi))
  given := by
    rintro ⟨x, hx, hgive⟩
    rcases List.mem_append.1 hx with hx | hx
    · rw [hid, hgiving]
      exact h.given ⟨x, hx, hgive⟩
    · obtain rfl := List.mem_singleton.1 hx
      exact absurd hgive he
  awake hi := by
    by_cases hw : g'.task.Waits
    · obtain ⟨hsame, hbefore⟩ := hwaits hw
      rw [hgiving, hsame]
      rcases h.awake (hid ▸ hi) with hg | hs | hpast
      exacts [.inl hg, .inr (.inl hs), absurd hbefore hpast]
    · exact .inr (.inr hw)
  since := hid ▸ hsince

section Accesses

variable {t : ℤ} {u : Unit}

theorem GateInv.step_event (h : GateInv es g) {status : GdoStatus} {event : GdoEvent}
    (hst : g.step ⟨t, .event status event⟩ = some g') :
    GateInv (es ++ [⟨g, (⟨t, .event status event⟩, u), g'⟩]) g' := by
  simp only [ProtocolGate.step] at hst
  split_ifs at hst with hgiving hproof
  · -- the first proof: the semaphore is about to be given
    obtain rfl := Option.some.inj hst
    simp only [Bool.and_eq_true, Bool.not_eq_true'] at hproof
    have hnone : ¬ ∃ x ∈ es, x.label.1.call = .give := fun hgive => by
      rw [(h.given hgive).1] at hproof
      cases hproof.2
    refine ⟨fun _ => ⟨_, List.mem_append_right _ (List.mem_singleton_self _), status, event, rfl,
        hproof.1⟩, fun _ => rfl, fun _ => rfl, ?_, fun _ => .inl rfl,
      h.since.snoc (fun _ => rfl) (by simp)⟩
    rintro ⟨x, hx, hgive⟩
    rcases List.mem_append.1 hx with hx | hx
    · exact absurd ⟨x, hx, hgive⟩ hnone
    · obtain rfl := List.mem_singleton.1 hx
      cases hgive
  · obtain rfl := Option.some.inj hst
    exact h.of_task rfl rfl id (by simp) (fun hw => ⟨rfl, hw⟩) (h.since.snoc id (by simp))

theorem GateInv.step_give (h : GateInv es g) (hst : g.step ⟨t, .give⟩ = some g') :
    GateInv (es ++ [⟨g, (⟨t, .give⟩, u), g'⟩]) g' := by
  simp only [ProtocolGate.step] at hst
  split_ifs at hst with hgiving
  obtain rfl := Option.some.inj hst
  have hid := h.giving hgiving
  refine ⟨fun hi => ?_, fun hi => (by cases hi), fun _ => hid, fun _ => ⟨hid, rfl⟩,
    fun _ => .inr (.inl rfl), h.since.snoc id (by simp)⟩
  obtain ⟨x, hx, hproof⟩ := h.proof hi
  exact ⟨x, List.mem_append_left _ hx, hproof⟩

theorem GateInv.step_enter (h : GateInv es g) (hst : g.step ⟨t, .enter⟩ = some g') :
    GateInv (es ++ [⟨g, (⟨t, .enter⟩, u), g'⟩]) g' := by
  simp only [ProtocolGate.step] at hst
  split_ifs at hst with henter hid
  all_goals
    obtain rfl := Option.some.inj hst
    have hsince := h.since
    rw [henter] at hsince
  · exact h.of_task rfl rfl id (by simp) (fun hw => hw.elim) ⟨hid, unread_snoc hsince (by simp)⟩
  · exact h.of_task rfl rfl id (by simp) (fun _ => ⟨rfl, by rw [henter]; trivial⟩)
      ⟨unread_snoc hsince (by simp), _, List.mem_append_right _ (List.mem_singleton_self _), rfl,
        rfl⟩

theorem GateInv.step_take (h : GateInv es g) (hst : g.step ⟨t, .take⟩ = some g') :
    GateInv (es ++ [⟨g, (⟨t, .take⟩, u), g'⟩]) g' := by
  simp only [ProtocolGate.step] at hst
  cases htask : g.task with
  | taking deadline =>
    simp only [htask] at hst
    split_ifs at hst with hsem
    obtain rfl := Option.some.inj hst
    have hsince := h.since
    rw [htask] at hsince
    exact h.of_task rfl rfl (fun hs => (by cases hs)) (by simp) (fun hw => hw.elim)
      ⟨h.sem hsem, unread_snoc hsince.1 (by simp)⟩
  | _ => simp [htask] at hst

theorem GateInv.step_timeout (h : GateInv es g) (hst : g.step ⟨t, .timeout⟩ = some g') :
    GateInv (es ++ [⟨g, (⟨t, .timeout⟩, u), g'⟩]) g' := by
  simp only [ProtocolGate.step] at hst
  cases htask : g.task with
  | taking deadline =>
    simp only [htask] at hst
    split_ifs at hst with hlate
    obtain rfl := Option.some.inj hst
    have hsince := h.since
    rw [htask] at hsince
    exact h.of_task rfl rfl id (by simp) (fun hw => hw.elim) (unread_snoc hsince.1 (by simp))
  | _ => simp [htask] at hst

theorem GateInv.of_refused (h : GateInv es g) {call : GateCall} (hcall : call ≠ .give)
    (hunread : ∀ p, ¬ Reported
      (es ++ [⟨g, (⟨t, call⟩, u), { g with task := .returned false false }⟩]) p) :
    GateInv (es ++ [⟨g, (⟨t, call⟩, u), { g with task := .returned false false }⟩])
      { g with task := .returned false false } :=
  h.of_task rfl rfl id hcall (fun hw => hw.elim) ⟨by simp, by simp [hunread], by simp [hunread]⟩

theorem GateInv.step_leave (h : GateInv es g) (hst : g.step ⟨t, .leave⟩ = some g') :
    GateInv (es ++ [⟨g, (⟨t, .leave⟩, u), g'⟩]) g' := by
  simp only [ProtocolGate.step] at hst
  split_ifs at hst with htask
  obtain rfl := Option.some.inj hst
  have hsince := h.since
  rw [htask] at hsince
  exact h.of_refused (by simp) fun p => not_reported (unread_snoc hsince (by simp))

theorem GateInv.step_read (h : GateInv es g) {status : Option GdoStatus}
    (hst : g.step ⟨t, .read status⟩ = some g') :
    GateInv (es ++ [⟨g, (⟨t, .read status⟩, u), g'⟩]) g' := by
  simp only [ProtocolGate.step] at hst
  split_ifs at hst with htask
  have hsince := h.since
  rw [htask] at hsince
  cases status with
  | none =>
    obtain rfl := Option.some.inj hst
    refine h.of_refused (by simp) fun p => ?_
    rw [reported_snoc]
    simp [not_reported hsince.2]
  | some status =>
    obtain rfl := Option.some.inj hst
    refine h.of_task rfl rfl id (by simp) (fun hw => hw.elim) ⟨hsince.1, fun p => ?_⟩
    rw [reported_snoc]
    simp [not_reported hsince.2, eq_comm]

theorem GateInv.step_check (h : GateInv es g) (hst : g.step ⟨t, .check⟩ = some g') :
    GateInv (es ++ [⟨g, (⟨t, .check⟩, u), g'⟩]) g' := by
  simp only [ProtocolGate.step] at hst
  cases htask : g.task with
  | checking protocol =>
    simp only [htask] at hst
    obtain rfl := Option.some.inj hst
    have hsince := h.since
    rw [htask] at hsince
    obtain ⟨hid, hreported⟩ := hsince
    refine h.of_task rfl rfl id (by simp) (fun hw => hw.elim) ?_
    simp only [GateTask.Since, reported_snoc, hreported]
    refine ⟨fun _ => hid, ?_, ?_⟩
    · simp [hid]
    · cases protocol <;> simp [hid, Protocol.known]
  | _ => simp [htask] at hst

end Accesses

/-- **One access.** -/
theorem GateInv.step (h : GateInv es g) {a : GateAction} {u : Unit}
    (hst : protocolGate.step g a = some (g', u)) : GateInv (es ++ [⟨g, (a, u), g'⟩]) g' := by
  obtain ⟨g₁, hstep, he⟩ := Option.map_eq_some_iff.1 hst
  obtain rfl := (Prod.mk.inj he).1
  obtain ⟨t, call⟩ := a
  cases call with
  | event => exact h.step_event hstep
  | give => exact h.step_give hstep
  | enter => exact h.step_enter hstep
  | take => exact h.step_take hstep
  | timeout => exact h.step_timeout hstep
  | leave => exact h.step_leave hstep
  | read => exact h.step_read hstep
  | check => exact h.step_check hstep

end

end GdoBlaq
