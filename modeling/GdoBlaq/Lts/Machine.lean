import GdoBlaq.Lts.Trace

/-!
# Executable machines

A machine is a labelled transition system that can be run: an action is refused, or it moves the
state and gives an answer.  A step of the system is labelled with the action and its answer.

## Main results

* `Machine.trace_edges` : running a list of actions as far as it goes gives a trace.
* `Machine.labels_eq` : two runs over the same actions give the same answers if every step answers
  alike from related states and leads to related states.
-/

/-- A deterministic machine over states `S` that takes actions `A` and answers with `R`. -/
structure Machine (S : Type*) (A : Type*) (R : Type*) where
  /-- The new state and the answer, or `none` if the action is refused. -/
  step : S → A → Option (S × R)

namespace Machine

variable {S A R : Type*} (M : Machine S A R)

/-- The labelled transition system of a machine. -/
def toLTS : LTS S (A × R) where
  step s l s' := M.step s l.1 = some (s', l.2)

/-- The steps of a run over a list of actions, up to the first refusal. -/
def edges : S → List A → List (LTS.Edge S (A × R))
  | _, [] => []
  | s, a :: as =>
    match M.step s a with
    | none => []
    | some (s', r) => ⟨s, (a, r), s'⟩ :: edges s' as

/-- Where a run over a list of actions ends, at the latest at the first refusal. -/
def last : S → List A → S
  | s, [] => s
  | s, a :: as =>
    match M.step s a with
    | none => s
    | some (s', _) => last s' as

/-- Running actions gives a trace. -/
theorem trace_edges (s : S) (as : List A) : M.toLTS.Trace s (M.edges s as) (M.last s as) := by
  induction as generalizing s with
  | nil => exact .nil s
  | cons a as ih =>
    unfold edges last
    cases h : M.step s a with
    | none => exact .nil s
    | some x => exact .cons (l := (a, x.2)) h (ih x.1)

theorem action_mem {s : S} {as : List A} {e : LTS.Edge S (A × R)} (he : e ∈ M.edges s as) :
    e.label.1 ∈ as := by
  induction as generalizing s with
  | nil => cases he
  | cons a as ih =>
    unfold edges at he
    cases h : M.step s a with
    | none => simp [h] at he
    | some x =>
      rw [h] at he
      rcases List.mem_cons.1 he with rfl | he
      · exact List.mem_cons_self
      · exact List.mem_cons_of_mem _ (ih he)

/-- **Two runs.**  States that answer alike to every action of the first run, and are related again
after it, give the same answers throughout. -/
theorem labels_eq {I : S → S → Prop} {s t : S} {as : List A} (h : I s t)
    (hrefused : ∀ s t a, I s t → M.step s a = none → M.step t a = none)
    (hstep : ∀ e ∈ M.edges s as, ∀ t, I e.src t →
      ∃ t', M.step t e.label.1 = some (t', e.label.2) ∧ I e.dst t') :
    (M.edges t as).map LTS.Edge.label = (M.edges s as).map LTS.Edge.label := by
  induction as generalizing s t with
  | nil => rfl
  | cons a as ih =>
    cases hs : M.step s a with
    | none => simp [edges, hs, hrefused s t a h hs]
    | some x =>
      have hedges : M.edges s (a :: as) = ⟨s, (a, x.2), x.1⟩ :: M.edges x.1 as := by
        simp [edges, hs]
      rw [hedges] at hstep ⊢
      obtain ⟨t', ht, hrel⟩ := hstep _ List.mem_cons_self t h
      have htail := ih hrel fun e he => hstep e (List.mem_cons_of_mem _ he)
      simp only at ht
      simp [edges, ht, htail]

/-- The step of an action; one that stays where it is if the action is refused. -/
def edge [Inhabited R] (s : S) (a : A) : LTS.Edge S (A × R) :=
  match M.step s a with
  | some (s', r) => ⟨s, (a, r), s'⟩
  | none => ⟨s, (a, default), s⟩

@[simp] theorem edge_src [Inhabited R] (s : S) (a : A) : (M.edge s a).src = s := by
  unfold edge; split <;> rfl

@[simp] theorem edge_action [Inhabited R] (s : S) (a : A) : (M.edge s a).label.1 = a := by
  unfold edge; split <;> rfl

theorem step_edge [Inhabited R] {s : S} {a : A} (h : (M.step s a).isSome = true) :
    M.toLTS.step (M.edge s a).src (M.edge s a).label (M.edge s a).dst := by
  obtain ⟨⟨s', r⟩, hstep⟩ := Option.isSome_iff_exists.1 h
  simp only [edge, hstep]
  exact hstep

theorem trace_cons [Inhabited R] {s s' : S} {a : A} {es : List (LTS.Edge S (A × R))}
    (h : (M.step s a).isSome = true) (hrun : M.toLTS.Trace (M.edge s a).dst es s') :
    M.toLTS.Trace s (M.edge s a :: es) s' :=
  LTS.Trace.cons_iff.2 ⟨M.edge_src s a, M.step_edge h, hrun⟩

theorem trace_snoc [Inhabited R] {s s' : S} {es : List (LTS.Edge S (A × R))}
    (hrun : M.toLTS.Trace s es s') (a : A) (h : (M.step s' a).isSome = true) :
    M.toLTS.Trace s (es ++ [M.edge s' a]) (M.edge s' a).dst :=
  hrun.append (M.trace_cons h (.nil _))

end Machine
