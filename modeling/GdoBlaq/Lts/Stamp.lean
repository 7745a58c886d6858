import GdoBlaq.Lts.Trace
import Mathlib.Data.Nat.ModEq

/-!
# Epoch stamps

A common way to let many events cancel a delayed action without touching the action: keep one
counter that every cancelling event increments, stamp the action with the counter's value when it
is started, and let it happen only if the counter still reads the same.  Fixed-width counters
wrap, so "reads the same" is equality modulo the width.

## Main results

* `Stamp.eq_of_reads_eq` : two values of a wrapping counter that read the same and are less than
  one full turn apart are equal.
* `LTS.Trace.quiet_of_stamp` : if a counter that no step decreases reads the same at both ends of
  a trace and made less than a full turn, no step of the trace moved it.
-/

/-- What a counter of `w` bits reads after `n` increments from zero. -/
def Stamp.read (w n : ℕ) : ℕ := n % 2 ^ w

namespace Stamp

variable {w a b : ℕ}

/-- Stamps that read the same are equal when the counter made less than a full turn between. -/
theorem eq_of_reads_eq (hle : a ≤ b) (hlt : b < a + 2 ^ w) (h : read w a = read w b) : a = b := by
  have hdvd : 2 ^ w ∣ b - a := (Nat.modEq_iff_dvd' hle).1 h
  have hzero : b - a = 0 := Nat.eq_zero_of_dvd_of_lt hdvd (by omega)
  omega

theorem read_succ_ne (hw : w ≠ 0) : read w (a + 1) ≠ read w a := by
  intro h
  have hturn : 1 < 2 ^ w := Nat.one_lt_two_pow hw
  have heq := eq_of_reads_eq (Nat.le_succ a) (by omega) h.symm
  omega

end Stamp

namespace LTS.Trace

variable {S L : Type*} {A : LTS S L} {s s' : S} {es : List (Edge S L)} {e : Edge S L}

/-- **A stamp that still reads the same was never passed.**  No step of a trace moved a counter
that no step decreases, reads the same at both ends and made less than a full turn. -/
theorem quiet_of_stamp {f : S → ℕ} {w : ℕ} (h : A.Trace s es s')
    (hmono : ∀ e ∈ es, f e.src ≤ f e.dst) (hturn : f s' < f s + 2 ^ w)
    (hread : Stamp.read w (f s) = Stamp.read w (f s')) (he : e ∈ es) :
    f e.src = f s ∧ f e.dst = f s :=
  h.const_of_mono hmono (Stamp.eq_of_reads_eq (h.le_of_mono hmono) hturn hread) he

end LTS.Trace
