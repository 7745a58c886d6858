import Mathlib.Data.List.Basic
import Mathlib.Data.List.Chain
import Mathlib.Logic.Function.Basic
import Mathlib.Tactic.Common

/-!
# Keyed updates in a queue

Updates of a table of values, each for one key, wait in one first-in first-out queue.  The *view* of
a key is the value that the table will show for it once the queue has been worked off: a producer
that remembers what it sent last remembers the view.

## Main results

* `Channel.view_send_self`, `Channel.view_send_of_ne` : an update changes the view of its own key.
* `Channel.view_receive` : taking the next update out of the queue and into the table changes no
  view.
* `Channel.view_write` : a value written past the queue shows only if no update of its key waits.
* `Channel.view_of_queue_nil` : with nothing in the queue the view is the table.
* `Channel.Sent` : what a producer that skips repetitions has sent, and its `.push` and `.receive`.
* `Channel.Plays` : the table shows what was sent for a key, in order and without a gap.
-/

/-- A table of values and a queue of updates to it. -/
structure Channel (κ : Type*) (β : Type*) where
  /-- The updates that wait, oldest first. -/
  queue : List (κ × β)
  /-- The table. -/
  values : κ → β

namespace Channel

variable {κ β : Type*} (c : Channel κ β) {c' : Channel κ β} {k k' : κ} {v : β}

/-- Queue an update. -/
def send (k : κ) (v : β) : Channel κ β := { c with queue := c.queue ++ [(k, v)] }

/-- Drop the oldest update, if there is one. -/
def discard : Option (Channel κ β) :=
  match c.queue with
  | [] => none
  | _ :: queue => some { c with queue := queue }

@[simp] theorem send_queue : (c.send k v).queue = c.queue ++ [(k, v)] := rfl

@[simp] theorem send_values : (c.send k v).values = c.values := rfl

theorem discard_eq_some (h : c.discard = some c') :
    (∃ u, c.queue = u :: c'.queue) ∧ c'.values = c.values := by
  unfold discard at h
  split at h
  · cases h
  · rename_i u queue hq
    obtain rfl := Option.some.inj h
    exact ⟨⟨u, hq⟩, rfl⟩

theorem length_discard (h : c.discard = some c') : c'.queue.length ≤ c.queue.length := by
  obtain ⟨⟨u, hq⟩, -⟩ := discard_eq_some c h
  rw [hq]
  exact Nat.le_succ _

variable [DecidableEq κ]

/-- Carry out the oldest update, if there is one. -/
def receive : Option (Channel κ β) :=
  match c.queue with
  | [] => none
  | (k, v) :: queue => some ⟨queue, Function.update c.values k v⟩

/-- Change the table past the queue. -/
def write (k : κ) (v : β) : Channel κ β := { c with values := Function.update c.values k v }

/-- The updates of one key that wait. -/
def pending (k : κ) : List β := c.queue.filterMap fun u => if u.1 = k then some u.2 else none

/-- What the table will show for a key: its waiting updates applied in order to the present
value. -/
def view (k : κ) : β := (c.pending k).foldl (fun _ v => v) (c.values k)

@[simp] theorem write_queue : (c.write k v).queue = c.queue := rfl

@[simp] theorem write_pending : (c.write k v).pending k' = c.pending k' := rfl

@[simp] theorem pending_send_self : (c.send k v).pending k = c.pending k ++ [v] := by
  simp [pending]

theorem pending_send_of_ne (h : k' ≠ k) : (c.send k v).pending k' = c.pending k' := by
  simp [pending, Ne.symm h]

/-- **A sent update will show.** -/
@[simp] theorem view_send_self : (c.send k v).view k = v := by
  simp [view]

/-- **It touches no other key.** -/
theorem view_send_of_ne (h : k' ≠ k) : (c.send k v).view k' = c.view k' := by
  rw [view, view, pending_send_of_ne c h, send_values]

variable {c}

theorem receive_eq_some (h : c.receive = some c') :
    ∃ k v, c.queue = (k, v) :: c'.queue ∧ c'.values = Function.update c.values k v := by
  unfold receive at h
  split at h
  · cases h
  · rename_i k v queue hq
    obtain rfl := Option.some.inj h
    exact ⟨k, v, hq, rfl⟩

theorem length_receive (h : c.receive = some c') : c'.queue.length ≤ c.queue.length := by
  obtain ⟨k, v, hq, -⟩ := receive_eq_some h
  rw [hq]
  exact Nat.le_succ _

/-- **Carrying out an update changes no view.** -/
theorem view_receive (h : c.receive = some c') (k : κ) : c'.view k = c.view k := by
  obtain ⟨i, v, hq, hv⟩ := receive_eq_some h
  by_cases hk : i = k
  · subst hk
    simp [view, pending, hq, hv]
  · simp [view, pending, hq, hv, hk, Ne.symm hk]

theorem pending_receive (h : c.receive = some c') (k : κ) : c'.pending k <:+ c.pending k := by
  obtain ⟨i, v, hq, -⟩ := receive_eq_some h
  unfold pending
  rw [hq, List.filterMap_cons]
  split
  · exact List.suffix_rfl
  · exact List.suffix_cons _ _

theorem pending_discard (h : c.discard = some c') (k : κ) : c'.pending k <:+ c.pending k := by
  obtain ⟨⟨u, hq⟩, -⟩ := c.discard_eq_some h
  unfold pending
  rw [hq, List.filterMap_cons]
  split
  · exact List.suffix_rfl
  · exact List.suffix_cons _ _

theorem view_discard (h : c.discard = some c') (hk : ∀ u, c.queue.head? = some u → u.1 ≠ k) :
    c'.view k = c.view k := by
  obtain ⟨⟨u, hq⟩, hv⟩ := c.discard_eq_some h
  have hne : u.1 ≠ k := hk u (by simp [hq])
  simp [view, pending, hq, hv, hne]

/-- **A value written past the queue** shows if no update of its key waits. -/
theorem view_write : (c.write k v).view k = if c.pending k = [] then v else c.view k := by
  unfold view
  rw [write_pending]
  cases c.pending k with
  | nil => simp [write]
  | cons x xs => simp

theorem view_write_of_ne (h : k' ≠ k) : (c.write k v).view k' = c.view k' := by
  rw [view, view, write_pending]
  simp [write, h]

/-- **With nothing in the queue** the view is the table. -/
theorem view_of_queue_nil (h : c.queue = []) (k : κ) : c.view k = c.values k := by
  simp [view, pending, h]

/-! ### Producers that skip repetitions -/

/-- A producer of updates keeps its last one in a cache and skips an update equal to it.  So far it
has sent `sent`, no two in a row the same, and `waiting` is the tail of it that is still in the
queue. -/
structure Sent {α : Type*} (enc : α → β) (sentinel cache : α) (sent : List α) (waiting : List β) :
    Prop where
  chain : sent.IsChain (· ≠ ·)
  last : cache = sent.getLast?.getD sentinel
  waiting : waiting <:+ sent.map enc

section Sent

variable {α : Type*} {enc : α → β} {sentinel cache new : α} {sent : List α} {waiting : List β}

theorem Sent.nil (enc : α → β) (sentinel : α) : Sent enc sentinel sentinel [] [] :=
  ⟨.nil, rfl, List.suffix_rfl⟩

/-- An update that differs from the cache is sent. -/
theorem Sent.push (h : Sent enc sentinel cache sent waiting) (hnew : new ≠ cache) :
    Sent enc sentinel new (sent ++ [new]) (waiting ++ [enc new]) where
  chain := by
    refine h.chain.append (.singleton new) ?_
    intro x hx y hy
    obtain rfl : new = y := by simpa using hy
    have hcache : cache = x := by rw [h.last, hx, Option.getD_some]
    exact hcache ▸ hnew.symm
  last := by simp
  waiting := by
    obtain ⟨done, hdone⟩ := h.waiting
    exact ⟨done, by rw [List.map_append, ← hdone]; simp⟩

/-- Some of what waits is carried out. -/
theorem Sent.receive (h : Sent enc sentinel cache sent waiting) {waiting' : List β}
    (hless : waiting' <:+ waiting) : Sent enc sentinel cache sent waiting' :=
  ⟨h.chain, h.last, hless.trans h.waiting⟩

end Sent

/-! ### What a key shows -/

/-- Of the values `sent` for a key, which showed `first` before, those up to the present one have
been carried out, and the rest waits. -/
def Plays (c : Channel κ β) (k : κ) (first : β) (sent : List β) : Prop :=
  c.values k :: c.pending k <:+ first :: sent

section Plays

variable {first : β} {sent : List β}

theorem Plays.start (h : c.queue = []) (k : κ) : c.Plays k (c.values k) [] := by
  simp [Plays, pending, h]

theorem Plays.congr (h : c.Plays k first sent) (hvalue : c'.values k = c.values k)
    (hpending : c'.pending k = c.pending k) : c'.Plays k first sent := by
  rwa [Plays, hvalue, hpending]

theorem Plays.send (h : c.Plays k first sent) (v : β) :
    (c.send k v).Plays k first (sent ++ [v]) := by
  obtain ⟨done, hdone⟩ := h
  exact ⟨done, by rw [send_values, pending_send_self, ← List.cons_append, ← List.append_assoc,
    hdone, List.cons_append]⟩

/-- The consumer carries out the oldest update, of whatever key. -/
theorem Plays.receive (h : c.Plays k first sent) (hc : c.receive = some c') :
    c'.Plays k first sent := by
  obtain ⟨i, v, hq, hv⟩ := receive_eq_some hc
  by_cases hk : i = k
  · subst hk
    have hpending : c.pending i = v :: c'.pending i := by simp [pending, hq]
    refine List.IsSuffix.trans ?_ h
    rw [hpending, hv, Function.update_self]
    exact List.suffix_cons _ _
  · exact h.congr (by rw [hv, Function.update_of_ne (Ne.symm hk)]) (by simp [pending, hq, hk])

theorem Plays.discard (h : c.Plays k first sent) (hc : c.discard = some c')
    (hk : ∀ u, c.queue.head? = some u → u.1 ≠ k) : c'.Plays k first sent := by
  obtain ⟨⟨u, hq⟩, hv⟩ := c.discard_eq_some hc
  exact h.congr (by rw [hv]) (by simp [pending, hq, hk u (by simp [hq])])

end Plays

end Channel
