import Mathlib.Data.List.Destutter

/-!
# Lists without repetitions next to each other

`List.destutter (· ≠ ·)` drops every element that repeats the one before it.  What is read off the
elements one by one survives that, as long as no two neighbours are the same where there is
something to read; and the last thing that can be read survives it in any case.

## Main results

* `List.filterMap_destutter` : what is read off the elements.
* `List.getLast?_filterMap_destutter` : what is read off them last.
* `List.isChain_of_filter` : neighbours, where elements of no concern may come between them.
-/

namespace List

variable {α β : Type*} [DecidableEq α] {f : α → Option β}

theorem filterMap_destutter' {a : α} {l : List α}
    (h : (a :: l).IsChain fun x y => x = y → f x = none) :
    (l.destutter' (· ≠ ·) a).filterMap f = (a :: l).filterMap f := by
  induction l generalizing a with
  | nil => rfl
  | cons b l ih =>
    obtain ⟨hab, htail⟩ := isChain_cons_cons.1 h
    by_cases heq : a = b
    · subst heq
      rw [destutter'_cons_neg l (by simp), ih htail]
      exact (filterMap_cons_none (hab rfl)).symm
    · rw [destutter'_cons_pos l heq, filterMap_cons, filterMap_cons, ih htail]

/-- **Nothing that can be read is dropped** if no neighbours are the same where there is something
to read. -/
theorem filterMap_destutter {l : List α} (h : l.IsChain fun x y => x = y → f x = none) :
    (l.destutter (· ≠ ·)).filterMap f = l.filterMap f := by
  cases l with
  | nil => rfl
  | cons a l => exact filterMap_destutter' h

theorem getLast?_filterMap_destutter' {a : α} {l : List α} :
    ((l.destutter' (· ≠ ·) a).filterMap f).getLast? = ((a :: l).filterMap f).getLast? := by
  induction l generalizing a with
  | nil => rfl
  | cons b l ih =>
    by_cases heq : a = b
    · subst heq
      rw [destutter'_cons_neg l (by simp), ih]
      cases hf : f a <;> simp [hf]
    · rw [destutter'_cons_pos l heq]
      cases hf : f a with
      | none => rw [filterMap_cons_none hf, filterMap_cons_none hf, ih]
      | some x =>
        rw [filterMap_cons_some hf, filterMap_cons_some hf, getLast?_cons, getLast?_cons, ih]

/-- **The last thing to read** is not dropped. -/
theorem getLast?_filterMap_destutter {l : List α} :
    ((l.destutter (· ≠ ·)).filterMap f).getLast? = (l.filterMap f).getLast? := by
  cases l with
  | nil => rfl
  | cons a l => exact getLast?_filterMap_destutter'

omit [DecidableEq α] in
/-- What holds of the neighbours in the part of a list that is of concern holds of all neighbours,
if it holds wherever one of the two is of no concern. -/
theorem isChain_of_filter {R : α → α → Prop} {p : α → Bool} {l : List α}
    (hout : ∀ a b, p a = false → R a b ∧ R b a) (h : (l.filter p).IsChain R) : l.IsChain R := by
  induction l with
  | nil => exact .nil
  | cons a l ih =>
    cases ha : p a with
    | false =>
      rw [filter_cons_of_neg (by simp [ha])] at h
      exact (ih h).cons fun b _ => (hout a b ha).1
    | true =>
      rw [filter_cons_of_pos ha] at h
      refine (ih h.tail).cons fun b hb => ?_
      cases hpb : p b with
      | false => exact (hout b a hpb).2
      | true =>
        refine h.rel_head? ?_
        cases l with
        | nil => simp at hb
        | cons c l =>
          obtain rfl : c = b := by simpa using hb
          simp [hpb]

end List
