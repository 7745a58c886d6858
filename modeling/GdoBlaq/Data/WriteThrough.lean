import Mathlib.Data.List.Basic

/-!
# A value in force and its copy in a storage

An edit is written to the storage and taken over if the write succeeded.  A write that fails may
have changed the storage all the same, and a restart takes over what the storage holds.

## Main results

* `WriteThrough.stored_run` : the storage has had every edit that was written.
* `WriteThrough.active_run` : until a restart, the value in force has had those acknowledged.
* `WriteThrough.synced_run` : the two agree unless a failed write left its edit behind.
-/

/-- The value in force and the one in the storage. -/
structure WriteThrough (α : Type*) where
  active : α
  stored : α

namespace WriteThrough

/-- What happens to the two values. -/
inductive Event (ε : Type*) where
  | acknowledged (edit : ε)
  | leftBehind (edit : ε)
  | restarted

variable {α ε : Type*}

/-- The edits that were acknowledged. -/
def acknowledged : Event ε → List ε
  | .acknowledged edit => [edit]
  | .leftBehind _ => []
  | .restarted => []

/-- The edits that reached the storage. -/
def written : Event ε → List ε
  | .acknowledged edit => [edit]
  | .leftBehind edit => [edit]
  | .restarted => []

variable (apply : ε → α → α)

/-- The edits one after the other. -/
def replay (edits : List ε) (a : α) : α := edits.foldl (fun a edit => apply edit a) a

/-- The two values after an event. -/
def next (c : WriteThrough α) : Event ε → WriteThrough α
  | .acknowledged edit => ⟨apply edit c.active, apply edit c.stored⟩
  | .leftBehind edit => ⟨c.active, apply edit c.stored⟩
  | .restarted => ⟨c.stored, c.stored⟩

/-- The two values after the events. -/
def run (c : WriteThrough α) (xs : List (Event ε)) : WriteThrough α := xs.foldl (next apply) c

variable {apply} {c : WriteThrough α} {xs ys : List (Event ε)}

theorem replay_append (edits edits' : List ε) (a : α) :
    replay apply (edits ++ edits') a = replay apply edits' (replay apply edits a) :=
  List.foldl_append

theorem run_append : run apply c (xs ++ ys) = run apply (run apply c xs) ys := List.foldl_append

/-- **The storage** has had every edit that was written, acknowledged or not. -/
theorem stored_run : (run apply c xs).stored = replay apply (xs.flatMap written) c.stored := by
  induction xs generalizing c with
  | nil => rfl
  | cons x xs ih =>
    rw [List.flatMap_cons, replay_append]
    cases x <;> exact ih

/-- **The value in force** has had the edits that were acknowledged, if there was no restart. -/
theorem active_run (h : Event.restarted ∉ xs) :
    (run apply c xs).active = replay apply (xs.flatMap acknowledged) c.active := by
  induction xs generalizing c with
  | nil => rfl
  | cons x xs ih =>
    obtain ⟨hx, hxs⟩ := List.ne_and_not_mem_of_not_mem_cons h
    rw [List.flatMap_cons, replay_append]
    cases x with
    | acknowledged edit | leftBehind edit => exact ih hxs
    | restarted => exact absurd rfl hx

theorem written_eq_acknowledged (h : ∀ edit, Event.leftBehind edit ∉ xs) :
    xs.flatMap written = xs.flatMap acknowledged := by
  refine List.flatMap_congr fun x hx => ?_
  cases x with
  | acknowledged edit | restarted => rfl
  | leftBehind edit => exact absurd hx (h edit)

/-- The two values agree if nothing was left behind since they did. -/
theorem synced_run (hc : c.active = c.stored) (h : ∀ edit, Event.leftBehind edit ∉ xs) :
    (run apply c xs).active = (run apply c xs).stored := by
  induction xs generalizing c with
  | nil => exact hc
  | cons x xs ih =>
    have htail : ∀ edit, Event.leftBehind edit ∉ xs := fun edit hmem => h edit (.tail _ hmem)
    cases x with
    | acknowledged edit => exact ih (congrArg (apply edit) hc) htail
    | leftBehind edit => exact absurd List.mem_cons_self (h edit)
    | restarted => exact ih rfl htail

end WriteThrough
