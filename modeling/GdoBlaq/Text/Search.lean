import Mathlib.Data.List.Infix
import Mathlib.Tactic.Common

/-!
# Searching a text

A search goes through the ends of a text from the longest on and stops at the first one that passes
a test.

## Main results

* `Search.find_eq_some_iff` : what is found, and that nothing comes before it.
* `Search.find_eq_none_iff` : when nothing is found.
* `Search.find_isSome_iff_infix` : a word is found where it occurs.
-/

namespace Search

variable {α : Type*} {p : List α → Bool} {s t : List α}

/-- `t` is an end of `s` that passes the test, and no longer end of `s` does. -/
structure FirstAt (p : List α → Bool) (s t : List α) : Prop where
  test : p t = true
  suffix : t <:+ s
  first : ∀ t', t' <:+ s → p t' = true → t'.length ≤ t.length

theorem FirstAt.eq {t' : List α} (h : FirstAt p s t) (h' : FirstAt p s t') : t = t' := by
  have hlength : t.length = t'.length :=
    le_antisymm (h'.first t h.suffix h.test) (h.first t' h'.suffix h'.test)
  exact (List.suffix_of_suffix_length_le h.suffix h'.suffix hlength.le).eq_of_length hlength

theorem FirstAt.here (h : p s = true) : FirstAt p s s :=
  ⟨h, List.suffix_rfl, fun _ hsuffix _ => hsuffix.length_le⟩

theorem FirstAt.cons {c : α} (h : FirstAt p s t) (hc : p (c :: s) = false) :
    FirstAt p (c :: s) t := by
  refine ⟨h.test, h.suffix.trans (List.suffix_cons c s), fun t' hsuffix htest => ?_⟩
  rcases List.suffix_cons_iff.1 hsuffix with rfl | hsuffix
  · rw [hc] at htest
    cases htest
  · exact h.first t' hsuffix htest

theorem find_eq_none_iff : s.tails.find? p = none ↔ ∀ t, t <:+ s → p t = false := by
  simp [List.find?_eq_none]

/-- **The search finds the first end that passes.** -/
theorem firstAt_of_find (h : s.tails.find? p = some t) : FirstAt p s t := by
  induction s with
  | nil =>
    have htest := List.find?_some h
    obtain rfl : t = [] := by simpa using List.mem_of_find?_eq_some h
    exact .here htest
  | cons c s ih =>
    rw [List.tails_cons, List.find?_cons] at h
    cases hc : p (c :: s) with
    | true =>
      obtain rfl : c :: s = t := by simpa [hc] using h
      exact .here hc
    | false =>
      rw [hc] at h
      exact (ih h).cons hc

theorem find_eq_some_iff : s.tails.find? p = some t ↔ FirstAt p s t := by
  refine ⟨firstAt_of_find, fun h => ?_⟩
  cases hfind : s.tails.find? p with
  | none =>
    have hfails := find_eq_none_iff.1 hfind t h.suffix
    rw [h.test] at hfails
    cases hfails
  | some t' => rw [(firstAt_of_find hfind).eq h]

/-- The search for a word finds it if it occurs in the text. -/
theorem find_isSome_iff_infix [DecidableEq α] {w : List α} :
    (s.tails.find? (w.isPrefixOf ·)).isSome = true ↔ w <:+: s := by
  rw [List.find?_isSome, List.infix_iff_prefix_suffix]
  constructor
  · rintro ⟨t, hmem, hword⟩
    exact ⟨t, List.isPrefixOf_iff_prefix.1 hword, (List.mem_tails t s).1 hmem⟩
  · rintro ⟨t, hword, hsuffix⟩
    exact ⟨t, (List.mem_tails t s).2 hsuffix, List.isPrefixOf_iff_prefix.2 hword⟩

end Search
