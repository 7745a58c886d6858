import GdoBlaq.Lts.Machine
import Mathlib.Data.List.Infix
import Mathlib.Order.Bounds.Basic

/-!
# The number of HomeKit sessions

`hap_session_event_handler` counts the controllers that are connected, from the moment that it is
registered; `hap_start` may have let some in before.  One that was let in before and leaves is not
in the count, which is then set back from -1 to 0.  The event loop runs one handler at a time, but
the count may be read between its two accesses.

## Main results

* `FewestSince.snoc` : the fewest sessions of a run, one event later.
* `sessions_shown` : the count is the number of sessions above the fewest that there ever were.
-/

namespace GdoBlaq

/-- The events of the HAP core that the handler tells apart. -/
inductive HapEvent where
  | ctrlConnected
  | ctrlDisconnected
  | ctrlPaired
  | ctrlUnpaired
  | pairingStarted
  | pairingAborted
  /-- `default` -/
  | other
  deriving DecidableEq, Repr

/-- The count, and where the handler is. -/
structure Sessions where
  /-- `s_hap_connected_controllers`, which `homekit_get_connected_session_count` returns.  It is an
  `int`; being at least -1 and at most the number of sessions, it does not overflow as long as there
  are fewer than 2^31 of them. -/
  connectedControllers : ℤ := 0
  /-- The handler has found a negative count, and stores 0 next. -/
  storing : Bool := false
  deriving DecidableEq, Repr

/-- What the event loop does. -/
inductive SessionCall where
  /-- It calls the handler with an event, whose base is `HAP_EVENT` or another. -/
  | event (ofHap : Bool) (id : HapEvent)
  /-- `s_hap_connected_controllers.store(0)` -/
  | store
  deriving DecidableEq, Repr

/-- `hap_session_event_handler`, up to the store. -/
def Sessions.hapSessionEventHandler (s : Sessions) (ofHap : Bool) (id : HapEvent) : Sessions :=
  if !ofHap then s
  else
    match id with
    | .ctrlConnected => { s with connectedControllers := s.connectedControllers + 1 }
    | .ctrlDisconnected =>
      { connectedControllers := s.connectedControllers - 1
        storing := s.connectedControllers - 1 < 0 }
    | .ctrlPaired | .ctrlUnpaired | .pairingStarted | .pairingAborted | .other => s

/-- A step; the next event waits until the handler has returned. -/
def Sessions.step (s : Sessions) : SessionCall → Option Sessions
  | .event ofHap id => if s.storing then none else some (s.hapSessionEventHandler ofHap id)
  | .store => if s.storing then some { connectedControllers := 0, storing := false } else none

/-- The count as a machine. -/
def sessions : Machine Sessions SessionCall Unit := ⟨fun s c => (s.step c).map fun s => (s, ())⟩

/-- A step of a run, with the count around it. -/
abbrev SessionStep := LTS.Edge Sessions (SessionCall × Unit)

/-- By how much an event changes the number of sessions that there are. -/
def SessionCall.change : SessionCall → ℤ
  | .event true .ctrlConnected => 1
  | .event true .ctrlDisconnected => -1
  | _ => 0

/-- By how much it has changed in a run. -/
def netSessions (es : List SessionStep) : ℤ := (es.map fun e => e.label.1.change).sum

/-! ### The fewest sessions -/

/-- Of the numbers of sessions at the times of a run, `n₀` at its start, `m` is the least. -/
def FewestSince (n₀ : ℤ) (es : List SessionStep) (m : ℤ) : Prop :=
  IsLeast {k | ∃ pre, pre <+: es ∧ k = n₀ + netSessions pre} m

section

variable {n₀ m : ℤ} {es pre : List SessionStep} {e : SessionStep} {s s' : Sessions}

theorem netSessions_snoc (es : List SessionStep) (e : SessionStep) :
    netSessions (es ++ [e]) = netSessions es + e.label.1.change := by
  simp [netSessions]

/-- **One event more.** -/
theorem FewestSince.snoc (h : FewestSince n₀ es m) (e : SessionStep) :
    FewestSince n₀ (es ++ [e]) (min m (n₀ + netSessions (es ++ [e]))) := by
  obtain ⟨⟨pre, hpre, hm⟩, hleast⟩ := h
  constructor
  · rcases min_choice m (n₀ + netSessions (es ++ [e])) with hmin | hmin
    · exact ⟨pre, hpre.trans (List.prefix_append _ _), hmin.trans hm⟩
    · exact ⟨es ++ [e], List.prefix_rfl, hmin⟩
  · rintro k ⟨pre, hpre, rfl⟩
    rcases List.prefix_concat_iff.1 hpre with rfl | hpre
    · exact min_le_right _ _
    · exact (min_le_left _ _).trans (hleast ⟨pre, hpre, rfl⟩)

/-- What the count is, in a run. -/
structure CountsAbove (n₀ : ℤ) (es : List SessionStep) (s : Sessions) : Prop where
  fewest : FewestSince n₀ es (n₀ + netSessions es - max 0 s.connectedControllers)
  returned : s.storing = false → 0 ≤ s.connectedControllers
  storing : s.storing = true → s.connectedControllers = -1

/-- **One step**, of the event loop or of the handler. -/
theorem CountsAbove.step (h : CountsAbove n₀ es s) {c : SessionCall} {u : Unit}
    (hst : sessions.step s c = some (s', u)) :
    CountsAbove n₀ (es ++ [⟨s, (c, u), s'⟩]) s' := by
  have hsnoc := h.fewest.snoc ⟨s, (c, u), s'⟩
  have hnet := netSessions_snoc es ⟨s, (c, u), s'⟩
  obtain ⟨s₁, hstep, he⟩ := Option.map_eq_some_iff.1 hst
  obtain rfl := (Prod.mk.inj he).1
  rw [hnet] at hsnoc
  cases c with
  | store =>
    simp only [Sessions.step] at hstep
    split_ifs at hstep with hstoring
    obtain rfl := Option.some.inj hstep
    have hcount := h.storing hstoring
    refine ⟨?_, fun _ => le_rfl, fun hs => by cases hs⟩
    rw [hnet]
    simpa [SessionCall.change, hcount] using hsnoc
  | event ofHap id =>
    simp only [Sessions.step] at hstep
    split_ifs at hstep with hstoring
    obtain rfl := Option.some.inj hstep
    have hcount := h.returned (by simpa using hstoring)
    -- an event that does not change the number of sessions changes nothing
    have hidle (hsame : s.hapSessionEventHandler ofHap id = s)
        (hchange : (SessionCall.event ofHap id).change = 0) :
        CountsAbove n₀ (es ++ [⟨s, (.event ofHap id, u), s.hapSessionEventHandler ofHap id⟩])
          (s.hapSessionEventHandler ofHap id) := by
      rw [hsame] at hnet hsnoc ⊢
      refine ⟨?_, h.returned, h.storing⟩
      rw [hnet]
      simp only [hchange, add_zero] at hsnoc ⊢
      rwa [min_eq_left (by omega)] at hsnoc
    cases ofHap with
    | false => exact hidle rfl rfl
    | true =>
      cases id with
      | ctrlConnected =>
        refine ⟨?_, fun _ => Int.add_nonneg hcount (by decide), fun hs => absurd hs hstoring⟩
        rw [hnet]
        simp only [SessionCall.change, Sessions.hapSessionEventHandler, Bool.not_true,
          Bool.false_eq_true, if_false] at hsnoc ⊢
        convert hsnoc using 1
        omega
      | ctrlDisconnected =>
        refine ⟨?_, ?_, ?_⟩
        · rw [hnet]
          simp only [SessionCall.change, Sessions.hapSessionEventHandler, Bool.not_true,
            Bool.false_eq_true, if_false] at hsnoc ⊢
          convert hsnoc using 1
          omega
        · exact fun hs => not_lt.1 (of_decide_eq_false hs)
        · intro hs
          have hneg : s.connectedControllers - 1 < 0 := of_decide_eq_true hs
          show s.connectedControllers - 1 = -1
          omega
      | ctrlPaired | ctrlUnpaired | pairingStarted | pairingAborted | other => exact hidle rfl rfl

theorem countsAbove_of_trace (n₀ : ℤ) (hrun : sessions.toLTS.Trace {} es s) :
    CountsAbove n₀ es s := by
  have hstart : CountsAbove n₀ [] {} := by
    refine ⟨⟨⟨[], List.prefix_rfl, by simp⟩, ?_⟩, fun _ => le_rfl, fun hs => by cases hs⟩
    rintro k ⟨pre, hpre, rfl⟩
    obtain rfl := List.prefix_nil.1 hpre
    simp
  exact hrun.history hstart fun pre e _ hst hi => hi.step hst

/-- **What the count is worth.**  In every run the count, or 0 while it is -1 for a moment, is the
number of sessions that there are, less the fewest that there ever were since the handler has been
registered, whatever number `n₀` there was then.  So it is never too high, and it is right exactly
from the first time on that no controller was connected. -/
theorem sessions_shown (n₀ : ℤ) (hrun : sessions.toLTS.Trace {} es s)
    (hreal : ∀ pre, pre <+: es → 0 ≤ n₀ + netSessions pre) :
    FewestSince n₀ es (n₀ + netSessions es - max 0 s.connectedControllers) ∧
    (s.storing = true → s.connectedControllers = -1) ∧
    (s.storing = false → 0 ≤ s.connectedControllers) ∧
    s.connectedControllers ≤ n₀ + netSessions es ∧
    (max 0 s.connectedControllers = n₀ + netSessions es ↔
      ∃ pre, pre <+: es ∧ n₀ + netSessions pre = 0) := by
  obtain ⟨hfewest, hreturned, hstoring⟩ := countsAbove_of_trace n₀ hrun
  obtain ⟨⟨pre, hpre, heq⟩, hleast⟩ := hfewest
  have hpos := hreal pre hpre
  refine ⟨⟨⟨pre, hpre, heq⟩, hleast⟩, hstoring, hreturned, by omega, ?_⟩
  constructor
  · exact fun hexact => ⟨pre, hpre, by omega⟩
  · rintro ⟨pre', hpre', hzero⟩
    have hle := hleast ⟨pre', hpre', rfl⟩
    omega

end

/-- One session is there at the registration and ends, and another one begins. -/
def lateRegistration : List SessionCall :=
  [.event true .ctrlDisconnected, .store, .event true .ctrlConnected]

theorem sessions_shown_late :
    (sessions.last {} lateRegistration).connectedControllers = 1 ∧
    (max 0 (sessions.last {} lateRegistration).connectedControllers =
        1 + netSessions (sessions.edges {} lateRegistration) ↔
      ∃ pre, pre <+: sessions.edges {} lateRegistration ∧ 1 + netSessions pre = 0) := by
  refine ⟨rfl, (sessions_shown 1 (sessions.trace_edges {} lateRegistration) ?_).2.2.2.2⟩
  intro pre hpre
  have hall : ∀ pre ∈ (sessions.edges {} lateRegistration).inits, 0 ≤ 1 + netSessions pre := by
    decide +kernel
  exact hall pre ((List.mem_inits _ _).2 hpre)

end GdoBlaq
