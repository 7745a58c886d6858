import GdoBlaq.Driver
import GdoBlaq.Lts.Machine

/-!
# Starting the web server

`start_httpd_server` starts an instance on its port and registers the handlers one by one.  A start
that fails has to leave the port free, or no later one can have it.  What `httpd_start` and
`httpd_register_uri_handler` answer is an argument.

## Main results

* `startHttpdServer_run` : the single steps of a start that nothing interrupts do what it does.
* `no_orphan_iff` : the variable tells of every instance, and the next start succeeds, exactly
  unless the registration fails whose branch has no cleanup.
* `orphan_holds_port` : such a run, after which no start ever succeeds.
-/

namespace GdoBlaq

/-! ### Data -/

inductive HttpMethod where
  | get
  | post
  deriving DecidableEq, Repr

/-- `httpd_uri_t`, without its handler. -/
structure HttpdUri where
  uri : String
  method : HttpMethod
  deriving DecidableEq, Repr

/-- `pre_close_buzzer_uri` -/
def preCloseBuzzerUri : HttpdUri := ⟨"/settings/pre-close-buzzer", .post⟩

/-- What is registered before `pre_close_buzzer_uri`. -/
def httpdUrisBefore : List HttpdUri :=
  [⟨"/", .get⟩, ⟨"/status", .get⟩, ⟨"/logs", .get⟩, ⟨"/logs/download", .get⟩,
    ⟨"/favicon.ico", .get⟩, ⟨"/restart", .post⟩]

/-- What is registered after it. -/
def httpdUrisAfter : List HttpdUri :=
  [⟨"/settings/auto-close", .post⟩, ⟨"/settings/close-schedule", .post⟩,
    ⟨"/firmware/update", .post⟩, ⟨"/firmware/confirm", .post⟩, ⟨"/firmware/cancel", .post⟩,
    ⟨"/firmware/rollback", .post⟩, ⟨"/admin/change-password", .post⟩, ⟨"/activity", .get⟩,
    ⟨"/admin/set-password", .post⟩]

/-- The handlers, in the order in which they are registered. -/
def httpdUris : List HttpdUri := httpdUrisBefore ++ preCloseBuzzerUri :: httpdUrisAfter

/-- A running instance. -/
structure HttpdInstance where
  id : ℕ
  handlers : List HttpdUri := []
  deriving DecidableEq, Repr

/-- `s_server`, and the instance that holds the port. -/
structure Httpd where
  sServer : Option ℕ := none
  running : Option HttpdInstance := none
  /-- The handle of the next instance. -/
  next : ℕ := 0
  deriving DecidableEq, Repr

/-- What `httpd_start` and the registrations answer, if nothing else stands in the way. -/
structure StartAnswers where
  start : EspErr := .ok
  /-- The answers to the registrations in order; there are no errors behind them. -/
  register : List EspErr := []
  deriving DecidableEq, Repr

namespace Httpd

/-! ### The server's functions -/

/-- `httpd_start(&s_server, &config)`; it fails while another instance holds the port. -/
def httpdStart (h : Httpd) (answer : EspErr) : Httpd × EspErr :=
  if answer ≠ .ok then (h, answer)
  else if h.running.isSome then (h, .fail)
  else
    ({ sServer := some h.next, running := some { id := h.next }, next := h.next + 1 }, .ok)

/-- `httpd_stop(s_server)` -/
def httpdStop (h : Httpd) : Httpd :=
  if h.sServer.isSome ∧ h.running.map HttpdInstance.id = h.sServer then { h with running := none }
  else h

/-- `httpd_register_uri_handler(s_server, u)` -/
def httpdRegisterUriHandler (h : Httpd) (u : HttpdUri) (answer : EspErr) : Httpd × EspErr :=
  match h.running with
  | some inst =>
    if h.sServer ≠ some inst.id then (h, .invalidArg)
    else if answer ≠ .ok then (h, answer)
    else ({ h with running := some { inst with handlers := inst.handlers ++ [u] } }, .ok)
  | none => (h, .invalidArg)

/-- `s_server = nullptr` -/
def clear (h : Httpd) : Httpd := { h with sServer := none }

/-! ### `start_httpd_server` -/

/-- The registrations, each with the cleanup in its branch. -/
def registerAll : List HttpdUri → List EspErr → Httpd → Httpd × Bool
  | [], _, h => (h, true)
  | u :: us, answers, h =>
    let (h, err) := h.httpdRegisterUriHandler u (answers.headD .ok)
    if err = .ok then registerAll us answers.tail h
    -- this branch has no cleanup
    else if u = preCloseBuzzerUri then (h, false)
    else (h.httpdStop.clear, false)

/-- `start_httpd_server` -/
def startHttpdServer (h : Httpd) (a : StartAnswers) : Httpd × Bool :=
  let (h, err) := h.httpdStart a.start
  if err = .ok then registerAll httpdUris a.register h else (h.clear, false)

/-- One pass of the loop of `diag_restart_task`. -/
def restartPass (h : Httpd) (a : StartAnswers) : Httpd × Bool :=
  (if h.sServer.isSome then h.httpdStop.clear else h).startHttpdServer a

end Httpd

/-! ### Its single steps -/

/-- Where `start_httpd_server` is. -/
inductive StartPc where
  /-- Before `httpd_start`. -/
  | start
  /-- Before the registration of the first of these, or the end. -/
  | register (left : List HttpdUri)
  /-- Before `httpd_stop` in a branch of an error. -/
  | stop
  /-- Before `s_server = nullptr` in a branch of an error. -/
  | clear
  deriving DecidableEq, Repr

/-- One step, and where it leads: on, or out with a result. -/
def Httpd.startStep (h : Httpd) (answer : EspErr) : StartPc → Httpd × (StartPc ⊕ Bool)
  | .start =>
    let (h, err) := h.httpdStart answer
    (h, .inl (if err = .ok then .register httpdUris else .clear))
  | .register [] => (h, .inr true)
  | .register (u :: us) =>
    let (h, err) := h.httpdRegisterUriHandler u answer
    (h, if err = .ok then .inl (.register us)
      else if u = preCloseBuzzerUri then .inr false
      else .inl .stop)
  | .stop => (h.httpdStop, .inl .clear)
  | .clear => (h.clear, .inr false)

/-- Steps that nothing interrupts, up to the return. -/
inductive StartRun : Httpd → StartPc → List EspErr → Httpd × Bool → Prop
  | leave {h h' : Httpd} {pc : StartPc} {answer : EspErr} {ok : Bool}
      (hst : h.startStep answer pc = (h', .inr ok)) : StartRun h pc [answer] (h', ok)
  | go {h h' : Httpd} {pc pc' : StartPc} {answer : EspErr} {answers : List EspErr}
      {r : Httpd × Bool} (hst : h.startStep answer pc = (h', .inl pc'))
      (hrest : StartRun h' pc' answers r) : StartRun h pc (answer :: answers) r

namespace Httpd

theorem registerAll_run (us : List HttpdUri) (answers : List EspErr) (h : Httpd) :
    ∃ as, StartRun h (.register us) as (registerAll us answers h) := by
  induction us generalizing answers h with
  | nil => exact ⟨[.ok], .leave rfl⟩
  | cons u us ih =>
    rcases hreg : h.httpdRegisterUriHandler u (answers.headD .ok) with ⟨h', err⟩
    simp only [registerAll, hreg]
    have hstep : h.startStep (answers.headD .ok) (.register (u :: us)) =
        (h', if err = .ok then .inl (.register us)
          else if u = preCloseBuzzerUri then .inr false else .inl .stop) := by
      simp only [startStep, hreg]
    split_ifs with hok hbuzzer
    · obtain ⟨as, hrest⟩ := ih answers.tail h'
      rw [if_pos hok] at hstep
      exact ⟨_, .go hstep hrest⟩
    · rw [if_neg hok, if_pos hbuzzer] at hstep
      exact ⟨_, .leave hstep⟩
    · rw [if_neg hok, if_neg hbuzzer] at hstep
      exact ⟨[_, .ok, .ok], .go hstep (.go rfl (.leave rfl))⟩

/-- **A start that nothing interrupts**, step by step. -/
theorem startHttpdServer_run (h : Httpd) (a : StartAnswers) :
    ∃ as, StartRun h .start as (h.startHttpdServer a) := by
  rcases hstart : h.httpdStart a.start with ⟨h', err⟩
  have hstep : h.startStep a.start .start =
      (h', .inl (if err = .ok then .register httpdUris else .clear)) := by
    simp only [startStep, hstart]
  simp only [startHttpdServer, hstart]
  split_ifs with hok
  · obtain ⟨as, hrest⟩ := registerAll_run httpdUris a.register h'
    rw [if_pos hok] at hstep
    exact ⟨_, .go hstep hrest⟩
  · rw [if_neg hok] at hstep
    exact ⟨[_, .ok], .go hstep (.leave rfl)⟩

end Httpd

/-! ### What a start leaves -/

/-- Nothing stands in the way of a start. -/
def StartAnswers.AllOk (a : StartAnswers) : Prop :=
  a.start = .ok ∧ ∀ x ∈ a.register.take httpdUris.length, x = .ok

/-- The start gets as far as the registration of `pre_close_buzzer_uri`, and that fails. -/
def StartAnswers.BuzzerFails (a : StartAnswers) : Prop :=
  a.start = .ok ∧ (∀ x ∈ a.register.take httpdUrisBefore.length, x = .ok) ∧
    (a.register.drop httpdUrisBefore.length).headD .ok ≠ .ok

namespace Httpd

section Start

variable {h : Httpd} {a : StartAnswers} {us vs : List HttpdUri} {answers : List EspErr}
  {w : List HttpdUri} {i k : ℕ}

theorem registerAll_append (hok : ∀ x ∈ answers.take us.length, x = .ok) :
    registerAll (us ++ vs) answers ⟨some i, some ⟨i, w⟩, k⟩ =
      registerAll vs (answers.drop us.length) ⟨some i, some ⟨i, w ++ us⟩, k⟩ := by
  induction us generalizing answers w with
  | nil => simp
  | cons u us ih =>
    have hhead : answers.headD .ok = .ok := by
      cases answers with
      | nil => rfl
      | cons x xs => exact hok x (by simp)
    have htail : ∀ x ∈ answers.tail.take us.length, x = .ok := by
      intro x hx
      cases answers with
      | nil => simp at hx
      | cons y ys => exact hok x (by simpa using .inr hx)
    have hdrop : answers.tail.drop us.length = answers.drop (us.length + 1) := by
      cases answers <;> simp
    rw [List.cons_append, registerAll]
    simp only [httpdRegisterUriHandler, hhead, ne_eq, not_true_eq_false, if_false, if_true]
    rw [ih htail, hdrop]
    simp

theorem registerAll_cleans (hus : preCloseBuzzerUri ∉ us)
    (hfail : ¬ ∀ x ∈ answers.take us.length, x = .ok) :
    registerAll (us ++ vs) answers ⟨some i, some ⟨i, w⟩, k⟩ = (⟨none, none, k⟩, false) := by
  induction us generalizing answers w with
  | nil => simp at hfail
  | cons u us ih =>
    rw [List.mem_cons, not_or] at hus
    cases answers with
    | nil => simp at hfail
    | cons x answers =>
      rw [List.cons_append, registerAll]
      by_cases hx : x = .ok
      · have htail : ¬ ∀ y ∈ answers.take us.length, y = .ok := by
          intro hall
          refine hfail ?_
          rw [List.length_cons, List.take_succ_cons, List.forall_mem_cons]
          exact ⟨hx, hall⟩
        simp only [httpdRegisterUriHandler, List.headD_cons, hx, ne_eq, not_true_eq_false, if_false,
          if_true]
        exact ih hus.2 htail
      · simp [httpdRegisterUriHandler, hx, Ne.symm hus.1, httpdStop, clear]

/-- Registering the handlers behind `pre_close_buzzer_uri`. -/
theorem registerAll_after (answers : List EspErr) :
    ((∀ x ∈ answers.take httpdUrisAfter.length, x = .ok) ∧
      registerAll httpdUrisAfter answers ⟨some i, some ⟨i, w⟩, k⟩ =
        (⟨some i, some ⟨i, w ++ httpdUrisAfter⟩, k⟩, true)) ∨
    ((¬ ∀ x ∈ answers.take httpdUrisAfter.length, x = .ok) ∧
      registerAll httpdUrisAfter answers ⟨some i, some ⟨i, w⟩, k⟩ = (⟨none, none, k⟩, false)) := by
  rw [← List.append_nil httpdUrisAfter]
  by_cases hok : ∀ x ∈ answers.take httpdUrisAfter.length, x = .ok
  · exact .inl ⟨by simpa using hok, registerAll_append hok⟩
  · exact .inr ⟨by simpa using hok, registerAll_cleans (by decide) hok⟩

/-- **What a start leaves** on a free port: an instance without all of its handlers if the
registration without cleanup fails, one with all of them if nothing fails, and else none. -/
theorem startHttpdServer_cases (hfree : h.running = none) (a : StartAnswers) :
    (a.BuzzerFails ∧ h.startHttpdServer a =
      (⟨some h.next, some ⟨h.next, httpdUrisBefore⟩, h.next + 1⟩, false)) ∨
    (¬ a.BuzzerFails ∧ a.AllOk ∧ h.startHttpdServer a =
      (⟨some h.next, some ⟨h.next, httpdUris⟩, h.next + 1⟩, true)) ∨
    (¬ a.BuzzerFails ∧ ¬ a.AllOk ∧ ∃ k, h.startHttpdServer a = (⟨none, none, k⟩, false)) := by
  by_cases hstart : a.start = .ok
  · have hbegin : h.startHttpdServer a =
        registerAll httpdUris a.register ⟨some h.next, some ⟨h.next, []⟩, h.next + 1⟩ := by
      simp [startHttpdServer, httpdStart, hstart, hfree]
    rw [hbegin]
    by_cases hbefore : ∀ x ∈ a.register.take httpdUrisBefore.length, x = .ok
    · rw [httpdUris, registerAll_append hbefore, List.nil_append]
      have hall : a.AllOk ↔ (a.register.drop httpdUrisBefore.length).headD .ok = .ok ∧
          ∀ x ∈ (a.register.drop httpdUrisBefore.length).tail.take httpdUrisAfter.length,
            x = .ok := by
        have htake : a.register.take httpdUris.length = a.register.take httpdUrisBefore.length ++
            (a.register.drop httpdUrisBefore.length).take (httpdUrisAfter.length + 1) := by
          rw [← List.take_add]
          rfl
        rw [StartAnswers.AllOk, htake, List.forall_mem_append, and_iff_right hstart,
          and_iff_right hbefore]
        cases a.register.drop httpdUrisBefore.length <;> simp
      rw [registerAll]
      by_cases hbuzzer : (a.register.drop httpdUrisBefore.length).headD .ok = .ok
      · simp only [httpdRegisterUriHandler, hbuzzer, ne_eq, not_true_eq_false, if_false, if_true]
        have hno : ¬ a.BuzzerFails := fun hb => hb.2.2 hbuzzer
        rcases registerAll_after (i := h.next) (k := h.next + 1)
          (w := httpdUrisBefore ++ [preCloseBuzzerUri])
          (a.register.drop httpdUrisBefore.length).tail with ⟨hok, hrest⟩ | ⟨hfail, hrest⟩
        · refine .inr (.inl ⟨hno, hall.2 ⟨hbuzzer, hok⟩, ?_⟩)
          rw [hrest]
          simp
        · exact .inr (.inr ⟨hno, fun hok => hfail (hall.1 hok).2, _, hrest⟩)
      · refine .inl ⟨⟨hstart, hbefore, hbuzzer⟩, ?_⟩
        simp only [httpdRegisterUriHandler, hbuzzer, ne_eq, not_true_eq_false, not_false_eq_true,
          if_false, if_true]
    · refine .inr (.inr ⟨fun hb => hbefore hb.2.1, ?_, _, registerAll_cleans (by decide) hbefore⟩)
      intro hall
      refine hbefore fun x hx => hall.2 x (List.take_subset_take_left _ (by decide) hx)
  · refine .inr (.inr ⟨fun hb => hstart hb.1, fun hall => hstart hall.1, h.next, ?_⟩)
    simp [startHttpdServer, httpdStart, hstart, hfree, clear]

theorem startHttpdServer_inOrder {h' : Httpd} {ok : Bool} (hfree : h.running = none)
    (hrun : h.startHttpdServer a = (h', ok)) (hb : ¬ a.BuzzerFails) :
    h'.sServer = h'.running.map HttpdInstance.id ∧ (ok = false → h'.running = none) ∧
      (ok = true → h'.running.map HttpdInstance.handlers = some httpdUris) ∧
      (a.AllOk → ok = true) := by
  rcases startHttpdServer_cases hfree a with ⟨hyes, -⟩ | ⟨-, -, he⟩ | ⟨-, hnot, k, he⟩
  · exact absurd hyes hb
  · obtain ⟨rfl, rfl⟩ := Prod.mk.inj (hrun.symm.trans he)
    exact ⟨rfl, nofun, fun _ => rfl, fun _ => rfl⟩
  · obtain ⟨rfl, rfl⟩ := Prod.mk.inj (hrun.symm.trans he)
    exact ⟨rfl, fun _ => rfl, nofun, fun hall => absurd hall hnot⟩

theorem startHttpdServer_leaks {h' : Httpd} {ok : Bool} (hfree : h.running = none)
    (hrun : h.startHttpdServer a = (h', ok)) (hb : a.BuzzerFails) :
    ok = false ∧ h'.running ≠ none := by
  rcases startHttpdServer_cases hfree a with ⟨-, he⟩ | ⟨hno, -⟩ | ⟨hno, -⟩
  · obtain ⟨rfl, rfl⟩ := Prod.mk.inj (hrun.symm.trans he)
    exact ⟨rfl, nofun⟩
  · exact absurd hb hno
  · exact absurd hb hno

end Start

end Httpd

/-! ### First start and restarts -/

/-- What they share. -/
structure Diag where
  httpd : Httpd := {}
  /-- `s_server_started_once` -/
  startedOnce : Bool := false
  /-- There is a `diag_restart_task`. -/
  restarting : Bool := false
  deriving DecidableEq, Repr

inductive DiagCall where
  /-- One turn of the retry loop of `wait_for_network_and_start_task`; `credentials` is what
  `init_admin_credentials` answers. -/
  | firstStart (credentials : Bool) (a : StartAnswers)
  /-- `diag_webserver_restart` -/
  | restart (created : Bool)
  /-- One pass of the loop of `diag_restart_task`. -/
  | pass (a : StartAnswers)
  /-- The end of `diag_restart_task`. -/
  | leave
  deriving DecidableEq, Repr

/-- One operation, and what the start in it returned. -/
def Diag.step (s : Diag) : DiagCall → Option (Diag × Option Bool)
  | .firstStart credentials a =>
    -- the loop ended with the first start that succeeded
    if s.startedOnce then none
    else if !credentials then some (s, none)
    else
      let (h, ok) := s.httpd.startHttpdServer a
      some ({ s with httpd := h, startedOnce := ok }, some ok)
  | .restart created =>
    if s.httpd.sServer.isNone ∧ !s.startedOnce then some (s, none)
    else some ({ s with restarting := s.restarting || created }, none)
  | .pass a =>
    if s.restarting then
      let (h, ok) := s.httpd.restartPass a
      some ({ s with httpd := h }, some ok)
    else none
  | .leave => if s.restarting then some ({ s with restarting := false }, none) else none

/-- Starts and restarts, one after another, as a machine. -/
def diag : Machine Diag DiagCall (Option Bool) := ⟨Diag.step⟩

/-- An operation with the states around it. -/
abbrev DiagStep := LTS.Edge Diag (DiagCall × Option Bool)

/-- The operation starts the server with these answers. -/
def DiagCall.answers : DiagCall → Option StartAnswers
  | .firstStart true a | .pass a => some a
  | _ => none

/-- After the operation `s_server` tells whether there is an instance; a start that failed has left
none, one that succeeded has registered all handlers, and a turn of the retry loop succeeds if
nothing stands in its way. -/
structure NoOrphan (e : DiagStep) : Prop where
  known : e.dst.httpd.sServer = none ↔ e.dst.httpd.running = none
  failed : e.label.2 = some false → e.dst.httpd.running = none
  complete : e.label.2 = some true →
    e.dst.httpd.running.map HttpdInstance.handlers = some httpdUris
  retried : ∀ a, e.label.1 = .firstStart true a → a.AllOk → e.label.2 = some true

namespace Diag

/-- Between operations. -/
structure Sound (s : Diag) : Prop where
  handle : s.httpd.sServer = s.httpd.running.map HttpdInstance.id
  unstarted : s.startedOnce = false → s.httpd.running = none
  restarts : s.restarting = true → s.startedOnce = true

section

variable {s s' : Diag} {c : DiagCall} {r : Option Bool}

theorem Sound.known (hi : s.Sound) : s.httpd.sServer = none ↔ s.httpd.running = none := by
  rw [hi.handle, Option.map_eq_none_iff]

theorem Sound.stopped (hi : s.Sound) :
    (if s.httpd.sServer.isSome then s.httpd.httpdStop.clear else s.httpd).running = none := by
  have hhandle := hi.handle
  split_ifs with hserver
  · simp [Httpd.clear, Httpd.httpdStop, hserver, hhandle.symm]
  · rw [Option.not_isSome_iff_eq_none] at hserver
    exact hi.known.1 hserver

theorem noOrphan_start {h h' : Httpd} {a : StartAnswers} {ok : Bool} (hfree : h.running = none)
    (hrun : h.startHttpdServer a = (h', ok)) (hs' : s'.httpd = h') (hc : c.answers = some a) :
    NoOrphan ⟨s, (c, some ok), s'⟩ ↔ ∀ a ∈ c.answers, ¬ a.BuzzerFails := by
  rw [hc]
  simp only [Option.mem_def, Option.some.injEq, forall_eq']
  constructor
  · intro horphan hb
    obtain ⟨rfl, hrunning⟩ := Httpd.startHttpdServer_leaks hfree hrun hb
    exact hrunning (hs' ▸ horphan.failed rfl)
  · intro hb
    obtain ⟨hhandle, hfailed, hcomplete, hall⟩ := Httpd.startHttpdServer_inOrder hfree hrun hb
    refine ⟨?_, ?_, ?_, ?_⟩
    · show s'.httpd.sServer = none ↔ s'.httpd.running = none
      rw [hs', hhandle, Option.map_eq_none_iff]
    · intro hr
      show s'.httpd.running = none
      rw [hs']
      exact hfailed (Option.some.inj hr)
    · intro hr
      show s'.httpd.running.map _ = _
      rw [hs']
      exact hcomplete (Option.some.inj hr)
    · intro a' hcall hok
      obtain rfl : c = .firstStart true a' := hcall
      obtain rfl := Option.some.inj hc
      exact congrArg some (hall hok)

theorem step_idle (hs' : s'.Sound) (hc : c.answers = none) :
    (NoOrphan ⟨s, (c, none), s'⟩ ↔ ∀ a ∈ c.answers, ¬ a.BuzzerFails) ∧
      ((∀ a ∈ c.answers, ¬ a.BuzzerFails) → s'.Sound) := by
  refine ⟨iff_of_true ⟨hs'.known, nofun, nofun, ?_⟩ (by simp [hc]), fun _ => hs'⟩
  rintro a rfl
  exact absurd hc nofun

/-- **An operation** keeps all in order exactly unless the registration without cleanup fails. -/
theorem Sound.step (hi : s.Sound) (hst : s.step c = some (s', r)) :
    (NoOrphan ⟨s, (c, r), s'⟩ ↔ ∀ a ∈ c.answers, ¬ a.BuzzerFails) ∧
      ((∀ a ∈ c.answers, ¬ a.BuzzerFails) → s'.Sound) := by
  cases c with
  | firstStart credentials a =>
    simp only [Diag.step] at hst
    split_ifs at hst with hstarted hcred
    · obtain ⟨rfl, rfl⟩ := Prod.mk.inj (Option.some.inj hst)
      obtain rfl : credentials = false := by simpa using hcred
      exact step_idle hi rfl
    · obtain ⟨rfl, rfl⟩ := Prod.mk.inj (Option.some.inj hst)
      obtain rfl : credentials = true := by simpa using hcred
      have hfree := hi.unstarted (by simpa using hstarted)
      refine ⟨noOrphan_start hfree rfl rfl rfl, ?_⟩
      intro hb
      obtain ⟨hhandle, hfailed, -⟩ := Httpd.startHttpdServer_inOrder hfree rfl (hb a rfl)
      refine ⟨hhandle, hfailed, ?_⟩
      intro hrestarting
      exact absurd (hi.restarts hrestarting) hstarted
  | restart created =>
    simp only [Diag.step] at hst
    split_ifs at hst with hguard
    · obtain ⟨rfl, rfl⟩ := Prod.mk.inj (Option.some.inj hst)
      exact step_idle hi rfl
    · obtain ⟨rfl, rfl⟩ := Prod.mk.inj (Option.some.inj hst)
      refine step_idle ⟨hi.handle, hi.unstarted, ?_⟩ rfl
      intro _
      show s.startedOnce = true
      by_contra hno
      rw [Bool.not_eq_true] at hno
      have hnone := hi.known.2 (hi.unstarted hno)
      exact hguard (by simp [hnone, hno])
  | pass a =>
    simp only [Diag.step] at hst
    split_ifs at hst with hrestarting
    obtain ⟨rfl, rfl⟩ := Prod.mk.inj (Option.some.inj hst)
    refine ⟨noOrphan_start hi.stopped rfl rfl rfl, ?_⟩
    intro hb
    obtain ⟨hhandle, -⟩ := Httpd.startHttpdServer_inOrder hi.stopped rfl (hb a rfl)
    refine ⟨hhandle, ?_, hi.restarts⟩
    intro hunstarted
    exact absurd (hi.restarts hrestarting) (by simp [show s.startedOnce = false from hunstarted])
  | leave =>
    simp only [Diag.step] at hst
    split_ifs at hst with hrestarting
    obtain ⟨rfl, rfl⟩ := Prod.mk.inj (Option.some.inj hst)
    exact step_idle ⟨hi.handle, hi.unstarted, nofun⟩ rfl

/-- Nobody knows of the instance that holds the port, and nobody will stop it. -/
structure Orphaned (s : Diag) : Prop where
  unknown : s.httpd.sServer = none
  running : s.httpd.running.isSome
  unstarted : s.startedOnce = false
  idle : s.restarting = false

theorem Orphaned.step (hi : s.Orphaned) (hst : s.step c = some (s', r)) :
    s'.Orphaned ∧ r ≠ some true := by
  obtain ⟨hunknown, hrunning, hunstarted, hidle⟩ := hi
  cases c with
  | firstStart credentials a =>
    simp only [Diag.step, hunstarted, Bool.false_eq_true, if_false] at hst
    split_ifs at hst
    · obtain ⟨rfl, rfl⟩ := Prod.mk.inj (Option.some.inj hst)
      exact ⟨⟨hunknown, hrunning, hunstarted, hidle⟩, nofun⟩
    · have hfails : s.httpd.startHttpdServer a = (s.httpd.clear, false) := by
        unfold Httpd.startHttpdServer Httpd.httpdStart
        by_cases ha : a.start = .ok <;> simp [ha, hrunning]
      rw [hfails] at hst
      obtain ⟨rfl, rfl⟩ := Prod.mk.inj (Option.some.inj hst)
      exact ⟨⟨rfl, hrunning, rfl, hidle⟩, by simp⟩
  | restart created =>
    simp only [Diag.step, hunknown, hunstarted] at hst
    obtain ⟨rfl, rfl⟩ := Prod.mk.inj (Option.some.inj hst)
    exact ⟨⟨hunknown, hrunning, hunstarted, hidle⟩, nofun⟩
  | pass | leave =>
    simp [Diag.step, hidle] at hst

end

end Diag

/-- **No orphan, exactly** unless in some start the registration of `pre_close_buzzer_uri` is
reached and fails. -/
theorem no_orphan_iff {es : List DiagStep} {s : Diag} (hrun : diag.toLTS.Trace {} es s) :
    (∀ e ∈ es, NoOrphan e) ↔ ∀ e ∈ es, ∀ a ∈ e.label.1.answers, ¬ a.BuzzerFails :=
  hrun.forall_edge_iff (I := Diag.Sound) ⟨rfl, fun _ => rfl, nofun⟩ fun _ _ hst hi => hi.step hst

/-- Failures of the first start at three places, a start, and a restart with a pass that fails and
one that does not. -/
def diagCalls : List DiagCall :=
  [.firstStart false {}, .firstStart true { start := .noMem },
    .firstStart true { register := [.ok, .noMem] }, .firstStart true {}, .restart true,
    .pass { register := List.replicate 15 .ok ++ [.fail] }, .pass {}, .leave]

theorem no_orphan_iff_calls :
    (∀ e ∈ diag.edges {} diagCalls, NoOrphan e) ↔
      ∀ e ∈ diag.edges {} diagCalls, ∀ a ∈ e.label.1.answers, ¬ a.BuzzerFails :=
  no_orphan_iff (diag.trace_edges {} diagCalls)

/-- The registration without cleanup fails, and the retry loop makes its next turn. -/
def leakCalls : List DiagCall :=
  [.firstStart true { register := List.replicate 6 .ok ++ [.fail] }, .firstStart true {}]

/-- **An orphan holds the port.**  The failed start has left an instance running, the next turn of
the retry loop has forgotten its handle, and whatever comes then, no start succeeds. -/
theorem orphan_holds_port :
    let es := diag.edges {} leakCalls
    let s := diag.last {} leakCalls
    diag.toLTS.Trace {} es s ∧ es.map (·.label.2) = [some false, some false] ∧
      (∃ e ∈ es, ¬ NoOrphan e) ∧ s.httpd.sServer = none ∧ s.httpd.running ≠ none ∧
      ∀ es' s', diag.toLTS.Trace s es' s' → ∀ e ∈ es', e.label.2 ≠ some true := by
  intro es s
  have horphan : s.Orphaned := ⟨by decide, by decide, by decide, by decide⟩
  refine ⟨diag.trace_edges {} leakCalls, by decide, ?_, by decide, by decide, ?_⟩
  · refine ⟨es.get ⟨1, by decide⟩, List.get_mem _ _, ?_⟩
    intro hno
    exact absurd (hno.known.1 (by decide)) (by decide)
  · intro es' s' hrun e he
    have hsrc := (hrun.invariant_mem horphan (fun e _ hst hi => (Diag.Orphaned.step hi hst).1) he).1
    exact (hsrc.step (hrun.step_of_mem he)).2

end GdoBlaq
