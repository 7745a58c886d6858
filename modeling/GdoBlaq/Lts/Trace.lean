import Mathlib.Order.Basic
import Mathlib.Order.Monotone.Basic
import Mathlib.Data.List.Induction
import Mathlib.Tactic.Common
import Mathlib.Tactic.Linarith
import Mathlib.Tactic.Ring

/-!
# Labelled transition systems and traces of their steps

A *trace* is the list of the steps of a finite run, each step kept with the state before it and
the state after it, so that a statement about a run ("between these two steps nothing of that
kind happened") is a statement about the members of a list.

## Main results

* `LTS.Trace.invariant` : a property of the first state that every step of the trace keeps holds
  before and after every step.  The steps may be assumed to satisfy a side condition.
* `LTS.Trace.forall_edge_iff`, `LTS.Trace.forall_dst_iff` : where every step has, or keeps, a
  property exactly under a condition of its own, all steps or states have the property if and only
  if all steps meet their condition.
* `LTS.Trace.history` : the same for a property of the steps so far and the state they led to.
* `LTS.Trace.exists_rise` : a property that is false at the start and true at the end became
  true at some step and has held ever since.
* `LTS.Trace.exists_first` : the same for the step where it first became true.
* `LTS.Trace.measure_eq_count` : a measure that steps of one kind raise counts them.
* `LTS.Trace.progress` : a goal is reached, or not too many steps of one kind have been made.
* `LTS.Trace.count_of_loop` : a loop that counts to its bound makes all its turns and no more.
* `LTS.Trace.const_of_mono` : a measure that no step decreases and whose first and last values
  agree is constant along the trace.
-/

/-- A labelled transition system with states `S` and labels `L`. -/
structure LTS (S : Type*) (L : Type*) where
  /-- `step s l s'` : the system can move from `s` to `s'` under the label `l`. -/
  step : S → L → S → Prop

namespace LTS

/-- One step of a run, with the states around it. -/
structure Edge (S : Type*) (L : Type*) where
  /-- The state before the step. -/
  src : S
  /-- What happened. -/
  label : L
  /-- The state after the step. -/
  dst : S

variable {S L : Type*} {A : LTS S L}

/-- `A.Trace s es s'` : performing the steps `es` in order leads from `s` to `s'`. -/
inductive Trace (A : LTS S L) : S → List (Edge S L) → S → Prop
  | nil (s : S) : Trace A s [] s
  | cons {s s' s'' : S} {l : L} {es : List (Edge S L)} (hst : A.step s l s')
      (htr : Trace A s' es s'') : Trace A s (⟨s, l, s'⟩ :: es) s''

namespace Trace

variable {s s' s'' : S} {es es' : List (Edge S L)} {e : Edge S L}

theorem single {l : L} (hst : A.step s l s') : A.Trace s [⟨s, l, s'⟩] s' :=
  cons hst (nil s')

theorem nil_iff : A.Trace s [] s' ↔ s = s' := by
  constructor
  · intro h; cases h; rfl
  · rintro rfl; exact nil s

theorem cons_iff :
    A.Trace s (e :: es) s' ↔ e.src = s ∧ A.step e.src e.label e.dst ∧ A.Trace e.dst es s' := by
  constructor
  · intro h; cases h with | cons hst htr => exact ⟨rfl, hst, htr⟩
  · rintro ⟨rfl, hst, htr⟩; exact cons hst htr

theorem append (h : A.Trace s es s') (h' : A.Trace s' es' s'') : A.Trace s (es ++ es') s'' := by
  induction h with
  | nil => exact h'
  | cons hst _ ih => exact cons hst (ih h')

theorem append_iff : A.Trace s (es ++ es') s'' ↔ ∃ m, A.Trace s es m ∧ A.Trace m es' s'' := by
  constructor
  · intro h
    induction es generalizing s with
    | nil => exact ⟨s, nil s, h⟩
    | cons e es ih =>
      obtain ⟨rfl, hst, htr⟩ := cons_iff.1 h
      obtain ⟨m, h₁, h₂⟩ := ih htr
      exact ⟨m, cons_iff.2 ⟨rfl, hst, h₁⟩, h₂⟩
  · rintro ⟨m, h₁, h₂⟩; exact h₁.append h₂

theorem at_edge_iff : A.Trace s (es ++ e :: es') s' ↔
    A.Trace s es e.src ∧ A.step e.src e.label e.dst ∧ A.Trace e.dst es' s' := by
  rw [append_iff]
  constructor
  · rintro ⟨m, h₁, h₂⟩
    obtain ⟨rfl, hst, htr⟩ := cons_iff.1 h₂
    exact ⟨h₁, hst, htr⟩
  · rintro ⟨h₁, hst, htr⟩
    exact ⟨e.src, h₁, cons_iff.2 ⟨rfl, hst, htr⟩⟩

theorem snoc_iff : A.Trace s (es ++ [e]) s' ↔
    A.Trace s es e.src ∧ A.step e.src e.label e.dst ∧ e.dst = s' := by
  rw [at_edge_iff, nil_iff]

theorem step_of_mem (h : A.Trace s es s') (he : e ∈ es) : A.step e.src e.label e.dst := by
  obtain ⟨pre, post, rfl⟩ := List.append_of_mem he
  exact (at_edge_iff.1 h).2.1

/-- **Invariants.**  A property of the first state that every step of the trace keeps holds at
the last state. -/
theorem invariant {I : S → Prop} (h : A.Trace s es s') (h₀ : I s)
    (hstep : ∀ e ∈ es, A.step e.src e.label e.dst → I e.src → I e.dst) : I s' := by
  induction h with
  | nil => exact h₀
  | cons hst _ ih =>
    exact ih (hstep _ List.mem_cons_self hst h₀)
      fun e he => hstep e (List.mem_cons_of_mem _ he)

theorem invariant_mem {I : S → Prop} (h : A.Trace s es s') (h₀ : I s)
    (hstep : ∀ e ∈ es, A.step e.src e.label e.dst → I e.src → I e.dst) (he : e ∈ es) :
    I e.src ∧ I e.dst := by
  obtain ⟨pre, post, rfl⟩ := List.append_of_mem he
  obtain ⟨hpre, hst, -⟩ := at_edge_iff.1 h
  have hsrc : I e.src := hpre.invariant h₀ fun a ha => hstep a (List.mem_append_left _ ha)
  exact ⟨hsrc, hstep e he hst hsrc⟩

/-- **Exact conditions.**  If a step from a state with the invariant has the property exactly under
its condition, and keeps the invariant under the condition, all steps have the property if and only
if all meet their conditions. -/
theorem forall_edge_iff {I : S → Prop} {P Q : Edge S L → Prop} (h : A.Trace s es s') (h₀ : I s)
    (hstep : ∀ e ∈ es, A.step e.src e.label e.dst → I e.src →
      (Q e ↔ P e) ∧ (P e → I e.dst)) :
    (∀ e ∈ es, Q e) ↔ ∀ e ∈ es, P e := by
  induction h with
  | nil => simp
  | @cons s m s'' l es hst htr ih =>
    obtain ⟨hhead, hkeeps⟩ := hstep _ List.mem_cons_self hst h₀
    rw [List.forall_mem_cons, List.forall_mem_cons, hhead]
    refine and_congr_right ?_
    intro hP
    exact ih (hkeeps hP) fun e he => hstep e (List.mem_cons_of_mem _ he)

/-- If every step from a state with the property keeps it exactly under its condition, the property
holds throughout if and only if every step meets its condition. -/
theorem forall_dst_iff {I : S → Prop} {P : Edge S L → Prop} (h : A.Trace s es s') (h₀ : I s)
    (hstep : ∀ e ∈ es, A.step e.src e.label e.dst → I e.src → (I e.dst ↔ P e)) :
    (∀ e ∈ es, I e.dst) ↔ ∀ e ∈ es, P e :=
  h.forall_edge_iff h₀ fun e he hst hi => ⟨hstep e he hst hi, (hstep e he hst hi).2⟩

/-- **Invariants of the history.**  What every step carries over from the steps before it holds
of the whole trace. -/
theorem history {I : List (Edge S L) → S → Prop} (h : A.Trace s es s') (h₀ : I [] s)
    (hstep : ∀ pre e, pre ++ [e] <+: es → A.step e.src e.label e.dst → I pre e.src →
      I (pre ++ [e]) e.dst) : I es s' := by
  induction es using List.reverseRecOn generalizing s' with
  | nil => obtain rfl := nil_iff.1 h; exact h₀
  | append_singleton es e ih =>
    obtain ⟨htr, hst, rfl⟩ := snoc_iff.1 h
    exact hstep es e List.prefix_rfl hst
      (ih htr fun pre a hpre => hstep pre a (hpre.trans (List.prefix_append _ _)))

/-- **The last rise.**  A property that does not hold at the first state and holds at the last
one became true at some step and has held before and after every step since. -/
theorem exists_rise {P : S → Prop} (h : A.Trace s es s') (h₀ : ¬ P s) (h₁ : P s') :
    ∃ pre e post, es = pre ++ e :: post ∧ ¬ P e.src ∧ P e.dst ∧
      ∀ a ∈ post, P a.src ∧ P a.dst := by
  induction es using List.reverseRecOn generalizing s' with
  | nil => obtain rfl := nil_iff.1 h; exact absurd h₁ h₀
  | append_singleton es e ih =>
    obtain ⟨htr, -, rfl⟩ := snoc_iff.1 h
    by_cases hsrc : P e.src
    · obtain ⟨pre, r, post, rfl, hr, hr', hpost⟩ := ih htr hsrc
      refine ⟨pre, r, post ++ [e], by simp, hr, hr', ?_⟩
      intro a ha
      rcases List.mem_append.1 ha with ha | ha
      · exact hpost a ha
      · obtain rfl := List.mem_singleton.1 ha
        exact ⟨hsrc, h₁⟩
    · exact ⟨es, e, [], rfl, hsrc, h₁, by simp⟩

/-- **The first rise.**  A property that does not hold at the first state and holds at the last one
became true at some step, before which it never held. -/
theorem exists_first {P : S → Prop} (h : A.Trace s es s') (h₀ : ¬ P s) (h₁ : P s') :
    ∃ pre e post, es = pre ++ e :: post ∧ ¬ P e.src ∧ P e.dst ∧
      ∀ a ∈ pre, ¬ P a.src ∧ ¬ P a.dst := by
  induction h with
  | nil => exact absurd h₁ h₀
  | @cons s m s'' l es hst htr ih =>
    by_cases hm : P m
    · exact ⟨[], _, es, rfl, h₀, hm, by simp⟩
    · obtain ⟨pre, e, post, rfl, he, he', hpre⟩ := ih hm h₁
      refine ⟨⟨s, l, m⟩ :: pre, e, post, rfl, he, he', ?_⟩
      intro a ha
      rcases List.mem_cons.1 ha with rfl | ha
      · exact ⟨h₀, hm⟩
      · exact hpre a ha

/-- A measure that the steps of one kind raise by `k` and that no other step moves counts these
steps. -/
theorem measure_eq_count {f : S → ℕ} {p : Edge S L → Bool} {k : ℕ} (h : A.Trace s es s')
    (hstep : ∀ e ∈ es, f e.dst = f e.src + if p e then k else 0) :
    f s' = f s + es.countP p * k := by
  induction h with
  | nil => simp
  | @cons s m s'' l es hst htr ih =>
    have hhead := hstep _ List.mem_cons_self
    have htail := ih fun e he => hstep e (List.mem_cons_of_mem _ he)
    simp only at hhead
    rw [htail, hhead, List.countP_cons]
    split_ifs <;> ring

/-- **Progress.**  As long as the goal is not reached every step keeps an invariant, none raises a
measure and the steps of one kind lower it.  Then the goal is reached in some step, with the
invariant up to it, or it has kept till the end, and there were no more steps of the kind than the
measure allows. -/
theorem progress {I : S → Prop} {Q : Edge S L → Prop} {f : S → ℕ} {p : Edge S L → Bool}
    (h : A.Trace s es s') (h₀ : I s)
    (hstep : ∀ e ∈ es, A.step e.src e.label e.dst → I e.src →
      Q e ∨ (I e.dst ∧ f e.dst + (if p e then 1 else 0) ≤ f e.src)) :
    (∃ pre e post, es = pre ++ e :: post ∧ Q e ∧ (∀ a ∈ pre, I a.src) ∧ I e.src ∧
      pre.countP p ≤ f s) ∨
    (I s' ∧ f s' + es.countP p ≤ f s) := by
  induction h with
  | nil s => exact .inr ⟨h₀, by simp⟩
  | @cons s m s'' l es hst htr ih =>
    rcases hstep _ List.mem_cons_self hst h₀ with hQ | ⟨hm, hle⟩
    · exact .inl ⟨[], _, es, rfl, hQ, by simp, h₀, by simp⟩
    · simp only at hle
      rcases ih hm fun e he => hstep e (List.mem_cons_of_mem _ he) with
        ⟨pre, e, post, rfl, hQ, hpre, hsrc, hcount⟩ | ⟨hend, hcount⟩
      · refine .inl ⟨⟨s, l, m⟩ :: pre, e, post, rfl, hQ, ?_, hsrc, ?_⟩
        · rw [List.forall_mem_cons]
          exact ⟨h₀, hpre⟩
        · rw [List.countP_cons]
          omega
      · refine .inr ⟨hend, ?_⟩
        rw [List.countP_cons]
        omega

/-- **A loop that has ended made all its turns.**  A measure starts at zero, the turns of a loop
raise it by `k` each and are made only while it is below `d`, a multiple of `k`, and no other step
moves it.  Once it has reached `d` there were `d / k` turns. -/
theorem count_of_loop {f : S → ℕ} {p : Edge S L → Bool} {k d : ℕ} (h : A.Trace s es s')
    (hstep : ∀ e ∈ es, f e.dst = f e.src + if p e then k else 0)
    (hguard : ∀ e ∈ es, p e = true → f e.src < d) (hpos : 0 < k) (hdvd : k ∣ d)
    (h₀ : f s = 0) (hover : d ≤ f s') : es.countP p * k = d := by
  have hcount : f s' = es.countP p * k := by
    rw [h.measure_eq_count hstep, h₀, Nat.zero_add]
  -- the last turn started below `d`
  have hlt : f s' < d + k := by
    refine h.invariant (I := fun s => f s < d + k) (by omega) ?_
    intro e he _ hsrc
    show f e.dst < d + k
    rw [hstep e he]
    split_ifs with hturn
    · have := hguard e he hturn
      omega
    · exact hsrc
  obtain ⟨q, rfl⟩ := hdvd
  rw [hcount] at hover hlt
  have hle : q ≤ es.countP p := Nat.le_of_mul_le_mul_left (by linarith) hpos
  have hge : es.countP p < q + 1 := Nat.lt_of_mul_lt_mul_left (a := k) (by linarith)
  rw [show es.countP p = q by omega, Nat.mul_comm]

section Measure

variable {α : Type*}

theorem le_of_mono [Preorder α] {f : S → α} (h : A.Trace s es s')
    (hmono : ∀ e ∈ es, f e.src ≤ f e.dst) : f s ≤ f s' := by
  induction h with
  | nil => exact le_rfl
  | cons _ _ ih =>
    exact (hmono _ List.mem_cons_self).trans (ih fun e he => hmono e (List.mem_cons_of_mem _ he))

/-- **Sandwich.**  A measure that no step decreases and that is the same at both ends of the
trace is constant along it. -/
theorem const_of_mono [PartialOrder α] {f : S → α} (h : A.Trace s es s')
    (hmono : ∀ e ∈ es, f e.src ≤ f e.dst) (heq : f s = f s') (he : e ∈ es) :
    f e.src = f s ∧ f e.dst = f s := by
  obtain ⟨pre, post, rfl⟩ := List.append_of_mem he
  obtain ⟨hpre, -, hpost⟩ := at_edge_iff.1 h
  have h₁ : f s ≤ f e.src := hpre.le_of_mono fun a ha => hmono a (List.mem_append_left _ ha)
  have h₂ : f e.src ≤ f e.dst := hmono e he
  have h₃ : f e.dst ≤ f s' := hpost.le_of_mono fun a ha =>
    hmono a (List.mem_append_right _ (List.mem_cons_of_mem _ ha))
  exact ⟨le_antisymm (h₂.trans (h₃.trans heq.ge)) h₁, le_antisymm (h₃.trans heq.ge) (h₁.trans h₂)⟩

/-- A measure that no step decreases is at the end where it was at the start exactly if no step
moved it. -/
theorem eq_iff_of_mono [PartialOrder α] {f : S → α} (h : A.Trace s es s')
    (hmono : ∀ e ∈ es, f e.src ≤ f e.dst) : f s' = f s ↔ ∀ e ∈ es, f e.dst = f e.src := by
  constructor
  · intro heq e he
    obtain ⟨hsrc, hdst⟩ := h.const_of_mono hmono heq.symm he
    exact hdst.trans hsrc.symm
  · intro hconst
    exact h.invariant (I := fun x => f x = f s) rfl fun e he _ hsrc => (hconst e he).trans hsrc

end Measure

end Trace

end LTS
