import GdoBlaq.Lts.Trace

/-!
# Systems that follow a transducer

A *transducer* reads events one after the other, and emits outputs.  It is a specification of what
a system does to the outside: the steps of the system are read as events, a relation says which
state of the transducer stands for which state of the system, and if every step keeps the relation
and shows what the transducer emits, every run shows what the transducer emits on the events of the
run.

## Main results

* `Transducer.last_append`, `Transducer.output_append` : reading events in two portions.
* `LTS.Trace.follows` : from steps to runs.
-/

/-- A transducer with states `T`, events `E` and outputs `O`. -/
structure Transducer (T : Type*) (E : Type*) (O : Type*) where
  /-- The state after an event. -/
  next : T → E → T
  /-- What an event makes it emit. -/
  emits : T → E → List O

namespace Transducer

variable {T E O : Type*} (M : Transducer T E O)

/-- The state after the events. -/
def last : T → List E → T
  | t, [] => t
  | t, x :: xs => last (M.next t x) xs

/-- All that is emitted while the events are read. -/
def output : T → List E → List O
  | _, [] => []
  | t, x :: xs => M.emits t x ++ output (M.next t x) xs

@[simp] theorem last_nil (t : T) : M.last t [] = t := rfl

@[simp] theorem last_cons (t : T) (x : E) (xs : List E) :
    M.last t (x :: xs) = M.last (M.next t x) xs := rfl

@[simp] theorem output_nil (t : T) : M.output t [] = [] := rfl

@[simp] theorem output_cons (t : T) (x : E) (xs : List E) :
    M.output t (x :: xs) = M.emits t x ++ M.output (M.next t x) xs := rfl

@[simp] theorem last_append (t : T) (xs ys : List E) :
    M.last t (xs ++ ys) = M.last (M.last t xs) ys := by
  induction xs generalizing t with
  | nil => rfl
  | cons x xs ih => exact ih (M.next t x)

@[simp] theorem output_append (t : T) (xs ys : List E) :
    M.output t (xs ++ ys) = M.output t xs ++ M.output (M.last t xs) ys := by
  induction xs generalizing t with
  | nil => rfl
  | cons x xs ih => simp [ih]

end Transducer

namespace LTS.Trace

variable {S L T E O : Type*} {A : LTS S L} {s s' : S} {es : List (Edge S L)}

/-- **From steps to runs.**  If every step from related states leads to related states and shows
what the transducer emits on the events of the step, so does the run. -/
theorem follows (M : Transducer T E O) {R : T → S → Prop} {events : Edge S L → List E}
    {shows : Edge S L → List O} {t : T} (h : A.Trace s es s') (h₀ : R t s)
    (hstep : ∀ e ∈ es, A.step e.src e.label e.dst → ∀ t, R t e.src →
      R (M.last t (events e)) e.dst ∧ shows e = M.output t (events e)) :
    R (M.last t (es.flatMap events)) s' ∧ es.flatMap shows = M.output t (es.flatMap events) := by
  induction h generalizing t with
  | nil => exact ⟨h₀, rfl⟩
  | @cons s m s'' l es hst _ ih =>
    obtain ⟨hrel, hshows⟩ := hstep _ List.mem_cons_self hst t h₀
    obtain ⟨hlast, houtput⟩ := ih hrel fun e he => hstep e (List.mem_cons_of_mem _ he)
    rw [List.flatMap_cons, List.flatMap_cons, M.last_append, M.output_append, hshows, houtput]
    exact ⟨hlast, rfl⟩

end LTS.Trace
