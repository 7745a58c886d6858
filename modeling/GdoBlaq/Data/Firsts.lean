import Mathlib.Data.List.Pairwise
import Mathlib.Data.List.Nodup
import Mathlib.Order.Nat
import Mathlib.Tactic.Common

/-!
# The first element of every key

Of a list whose elements have keys, the elements whose key no earlier one has.  A loop that looks
for the key in what it has kept, and stops at a number of elements, keeps the first ones of these.
If the list is ordered, every element left out is no better than one that was kept.

## Main results

* `Firsts.foldl_keep` : what the loop keeps.
* `Firsts.take_covers` : an element has a better one with its key, or only better ones are kept.
-/

namespace Firsts

variable {α κ β : Type*} [DecidableEq κ] (key : α → κ)

/-- The elements whose key no earlier one has. -/
def firsts : List α → List α
  | [] => []
  | a :: l => a :: (firsts l).filter fun b => key b ≠ key a

/-- One turn of the loop: a new key is kept, unless there are `n` already. -/
def keep (n : ℕ) (kept : List α) (a : α) : List α :=
  if (kept.any fun b => key b = key a) ∨ n ≤ kept.length then kept else kept ++ [a]

theorem firsts_sublist (l : List α) : (firsts key l).Sublist l := by
  induction l with
  | nil => exact .slnil
  | cons a l ih => exact (List.filter_sublist.trans ih).cons_cons a

theorem nodup_firsts (l : List α) : ((firsts key l).map key).Nodup := by
  induction l with
  | nil => exact List.nodup_nil
  | cons a l ih =>
    rw [firsts, List.map_cons, List.nodup_cons]
    refine ⟨?_, ih.sublist (List.filter_sublist.map key)⟩
    rintro hmem
    obtain ⟨b, hb, hkey⟩ := List.mem_map.1 hmem
    exact of_decide_eq_true (List.mem_filter.1 hb).2 hkey

theorem exists_first {r : α → α → Prop} {l : List α} (hrefl : ∀ a, r a a) (hl : l.Pairwise r)
    {a : α} (ha : a ∈ l) : ∃ b ∈ firsts key l, key b = key a ∧ r b a := by
  induction l with
  | nil => cases ha
  | cons c l ih =>
    obtain ⟨hc, hl⟩ := List.pairwise_cons.1 hl
    rcases List.mem_cons.1 ha with rfl | ha
    · exact ⟨a, List.mem_cons_self, rfl, hrefl a⟩
    · obtain ⟨b, hb, hkey, hba⟩ := ih hl ha
      by_cases hsame : key b = key c
      · exact ⟨c, List.mem_cons_self, hsame ▸ hkey, hc a ha⟩
      · exact ⟨b, List.mem_cons_of_mem _ (List.mem_filter.2 ⟨hb, decide_eq_true hsame⟩), hkey, hba⟩

/-- **What the loop keeps**: the first ones of the elements that are first. -/
theorem foldl_keep {n : ℕ} {kept : List α} (hkept : kept.length ≤ n) (l : List α) :
    l.foldl (keep key n) kept =
      (kept ++ (firsts key l).filter fun b => key b ∉ kept.map key).take n := by
  induction l generalizing kept with
  | nil => simp [firsts, List.take_of_length_le hkept]
  | cons a l ih =>
    rw [List.foldl_cons, keep, firsts]
    split_ifs with hskip
    · rw [ih hkept]
      rcases hskip with hdup | hfull
      · -- the key is there already, so the first one of it in `a :: l` counts no more
        have hmem : key a ∈ kept.map key := by
          obtain ⟨b, hb, hkey⟩ := List.any_eq_true.1 hdup
          exact List.mem_map.2 ⟨b, hb, of_decide_eq_true hkey⟩
        rw [List.filter_cons_of_neg (by simpa using hmem), List.filter_filter]
        congr 2
        refine List.filter_congr fun b _ => ?_
        have hne : key b ∉ kept.map key → key b ≠ key a := fun hb he => hb (he ▸ hmem)
        by_cases hb : key b ∈ kept.map key
        · simp only [hb, not_true_eq_false, decide_false, Bool.false_and]
        · simp only [hb, hne hb, not_false_eq_true, ne_eq, decide_true, Bool.and_self]
      · obtain rfl : kept.length = n := le_antisymm hkept hfull
        rw [List.take_left, List.take_left]
    · obtain ⟨hnew, hroom⟩ := not_or.1 hskip
      have hmem : key a ∉ kept.map key := by
        intro hmem
        obtain ⟨b, hb, hkey⟩ := List.mem_map.1 hmem
        exact hnew (List.any_eq_true.2 ⟨b, hb, decide_eq_true hkey⟩)
      rw [ih (by rw [List.length_append]; simp; omega),
        List.filter_cons_of_pos (by simpa using hmem), List.filter_filter, List.append_assoc,
        List.singleton_append]
      congr 3
      refine List.filter_congr fun b _ => ?_
      simp [Bool.and_comm]

/-- **What is kept of an ordered list.**  Every element has one with its key among the first `n`
that is no worse, or there are `n` and none of them is worse. -/
theorem take_covers [Preorder β] {f : α → β} {l : List α}
    (hl : l.Pairwise fun a b => f b ≤ f a) (n : ℕ) {a : α} (ha : a ∈ l) :
    (∃ b ∈ (firsts key l).take n, key b = key a ∧ f a ≤ f b) ∨
      ((firsts key l).take n).length = n ∧ ∀ b ∈ (firsts key l).take n, f a ≤ f b := by
  obtain ⟨b, hb, hkey, hle⟩ := exists_first key (fun a => le_refl (f a)) hl ha
  rw [← List.take_append_drop n (firsts key l), List.mem_append] at hb
  rcases hb with hb | hb
  · exact .inl ⟨b, hb, hkey, hle⟩
  · have hlong : n < (firsts key l).length := by
      by_contra hshort
      rw [List.drop_of_length_le (not_lt.1 hshort)] at hb
      cases hb
    have hsorted := hl.sublist (firsts_sublist key l)
    rw [← List.take_append_drop n (firsts key l), List.pairwise_append] at hsorted
    refine .inr ⟨List.length_take_of_le hlong.le, ?_⟩
    intro c hc
    exact hle.trans (hsorted.2.2 c hc b hb)

end Firsts
