import Mathlib.Data.List.DropRight
import Mathlib.Data.Nat.ModEq
import Mathlib.Tactic.Common

/-!
# Rings

A ring of `cap` slots into which a stream is written, one slot after another and from the first
again after the last.  It holds the end of the stream, as much of it as there are slots.

## Main results

* `Ring.Holds.push` : writing the next element into its slot.
* `Ring.Holds.read` : reading the slots in order gives the end of the stream.
-/

namespace Ring

variable {α : Type*} {cap : ℕ} {slot slot' : ℕ → α} {s : List α}

/-- The slots hold the last `cap` elements of the stream. -/
def Holds (cap : ℕ) (slot : ℕ → α) (s : List α) : Prop :=
  ∀ k (h : k < s.length), s.length ≤ k + cap → slot (k % cap) = s[k]

theorem Holds.nil : Holds cap slot [] := fun _ h => absurd h (Nat.not_lt_zero _)

theorem mod_ne {k n : ℕ} (hlt : k < n) (hle : n < k + cap) : k % cap ≠ n % cap := by
  intro heq
  have hdvd : cap ∣ n - k := (Nat.modEq_iff_dvd' hlt.le).1 heq
  have hzero := Nat.eq_zero_of_dvd_of_lt hdvd (by omega)
  omega

/-- **One element more.** -/
theorem Holds.push (h : Holds cap slot s) (hcap : 0 < cap) {a : α}
    (hnew : slot' (s.length % cap) = a)
    (hold : ∀ k < cap, k ≠ s.length % cap → slot' k = slot k) : Holds cap slot' (s ++ [a]) := by
  intro k hk hle
  simp only [List.length_append, List.length_singleton] at hk hle
  rcases Nat.lt_succ_iff_lt_or_eq.1 hk with hlt | rfl
  · rw [hold _ (Nat.mod_lt _ hcap) (mod_ne hlt (by omega)), h k hlt (by omega),
      List.getElem_append_left hlt]
  · rw [hnew, List.getElem_append_right le_rfl]
    simp

/-- **The slots in order.** -/
theorem Holds.read (h : Holds cap slot s) {want : ℕ} (hcap : want ≤ cap)
    (hlength : want ≤ s.length) :
    (List.range want).map (fun i => slot ((s.length - want + i) % cap)) = s.rtake want := by
  refine List.ext_getElem (by simp [List.rtake]; omega) fun i hi _ => ?_
  simp only [List.length_map, List.length_range] at hi
  rw [List.getElem_map, List.getElem_range, h _ (by omega) (by omega)]
  simp [List.rtake]

end Ring
