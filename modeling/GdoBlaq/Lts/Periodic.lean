import Mathlib.Data.Int.ModEq
import Mathlib.Order.Bounds.Basic

/-!
# Recurring instants

An alarm at a fixed phase `p` of a period `P` rings at every instant `t` with `t % P = p`.  A
clock that shows `L` is in the turn that the greatest such instant up to `L` began.

## Main results

* `Periodic.isGreatest_iff` : that instant is `start P p L`.
* `Periodic.start_add` : what the time since then says about `L`.
-/

namespace Periodic

variable {P p L t : ℤ}

/-- The instants at phase `p` of the period `P` up to `L`. -/
def upTo (P p L : ℤ) : Set ℤ := {t | t ≤ L ∧ t % P = p}

/-- The time since the last instant at phase `p`. -/
def since (P p L : ℤ) : ℤ := (L - p) % P

/-- The last instant at phase `p`. -/
def start (P p L : ℤ) : ℤ := L - since P p L

theorem start_add (P p L : ℤ) : start P p L + since P p L = L := Int.sub_add_cancel L _

theorem since_nonneg (hP : 0 < P) : 0 ≤ since P p L := Int.emod_nonneg _ hP.ne'

theorem since_lt (hP : 0 < P) : since P p L < P := Int.emod_lt_of_pos _ hP

theorem start_eq (P p L : ℤ) : start P p L = p + P * ((L - p) / P) := by
  have h := Int.emod_add_mul_ediv (L - p) P
  simp only [start, since]
  omega

theorem start_emod (h₀ : 0 ≤ p) (h₁ : p < P) : start P p L % P = p := by
  rw [start_eq, Int.add_mul_emod_self_left]
  exact Int.emod_eq_of_lt h₀ h₁

theorem eq_of_emod_eq {t₁ t₂ : ℤ} (h : t₁ % P = t₂ % P) (hle : t₁ ≤ t₂) (hlt : t₂ < t₁ + P) :
    t₁ = t₂ := by
  have hdvd : P ∣ t₂ - t₁ := Int.ModEq.dvd h
  have hzero : t₂ - t₁ = 0 :=
    Int.eq_zero_of_dvd_of_nonneg_of_lt (by omega) (by omega) hdvd
  omega

theorem start_isGreatest (h₀ : 0 ≤ p) (h₁ : p < P) : IsGreatest (upTo P p L) (start P p L) := by
  have hP : 0 < P := by omega
  have hsum := start_add P p L
  have hnonneg := since_nonneg (p := p) (L := L) hP
  have hlt := since_lt (p := p) (L := L) hP
  refine ⟨⟨by omega, start_emod h₀ h₁⟩, ?_⟩
  rintro t ⟨hle, hphase⟩
  by_contra hafter
  have heq : start P p L = t :=
    eq_of_emod_eq ((start_emod h₀ h₁).trans hphase.symm) (by omega) (by omega)
  omega

/-- **The last recurrence of an alarm up to now.** -/
theorem isGreatest_iff (h₀ : 0 ≤ p) (h₁ : p < P) :
    IsGreatest (upTo P p L) t ↔ t = start P p L := by
  constructor
  · intro h
    exact h.unique (start_isGreatest h₀ h₁)
  · rintro rfl
    exact start_isGreatest h₀ h₁

end Periodic
