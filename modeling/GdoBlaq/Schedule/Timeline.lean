import GdoBlaq.CloseSchedule
import GdoBlaq.Lts.Periodic

/-!
# The firing rule on one timeline

`close_schedule_should_fire` works with a difference of minutes modulo a day, a second comparison
for the day, and a duration rounded up to whole minutes.  Here these are read on one line of
local milliseconds: a window starts at the last instant whose time of day is the scheduled minute,
is five minutes long, and belongs to the day that instant is on.

## Main results

* `isGreatest_starts` : the code's minute difference says where that instant is.
* `windowDay_eq` : the code's day is the day of that instant.
* `shouldFire_iff` : when the rule fires.
* `closeSchedule_timeline` : the firing rule in these terms.
-/

namespace GdoBlaq

namespace Timeline

open Periodic (upTo since isGreatest_iff)

/-- A day in milliseconds. -/
def dayMs : ℤ := 86400000

/-- The local instant of the millisecond `r` of a minute. -/
def instant (today : ℤ) (nowMin : ℕ) (r : ℤ) : ℤ := today * dayMs + nowMin * 60000 + r

/-- The instants up to `L` whose local time of day is the scheduled minute. -/
def starts (schedMin : ℕ) (L : ℤ) : Set ℤ := upTo dayMs (schedMin * 60000) L

variable {today r start d last : ℤ} {nowMin schedMin : ℕ}

theorem since_eq (hn : nowMin < 1440) (hs : schedMin < 1440) (h₀ : 0 ≤ r) (h₁ : r < 60000) :
    since dayMs (schedMin * 60000) (instant today nowMin r) =
      ((nowMin + 1440 - schedMin) % 1440 : ℕ) * 60000 + r := by
  simp only [since, instant, dayMs]
  omega

/-- What a start is: the minute difference and the millisecond of the minute before now. -/
theorem isGreatest_starts (hn : nowMin < 1440) (hs : schedMin < 1440) (h₀ : 0 ≤ r)
    (h₁ : r < 60000) :
    IsGreatest (starts schedMin (instant today nowMin r)) start ↔
      start = instant today nowMin r - ((nowMin + 1440 - schedMin) % 1440 : ℕ) * 60000 - r := by
  have hsched : (schedMin * 60000 : ℤ) < dayMs := by
    simp only [dayMs]
    omega
  rw [starts, isGreatest_iff (by omega) hsched, Periodic.start, since_eq hn hs h₀ h₁,
    Int.sub_sub]

/-- The code's day is the day of the start. -/
theorem windowDay_eq (hn : nowMin < 1440) (hs : schedMin < 1440) (h₀ : 0 ≤ r) (h₁ : r < 60000)
    (hstart : IsGreatest (starts schedMin (instant today nowMin r)) start) :
    closeScheduleWindowDay nowMin today schedMin = start / dayMs := by
  have heq := (isGreatest_starts hn hs h₀ h₁).1 hstart
  simp only [instant, dayMs] at heq ⊢
  simp only [closeScheduleWindowDay]
  split_ifs with hle
  · omega
  · omega

/-- The rule fires inside the window when the door has been open for the whole minutes of it that
have begun, and the day of the start is not the one it fired on last. -/
theorem shouldFire_iff (hn : nowMin < 1440) (hs : schedMin < 1440) (h₀ : 0 ≤ r) (h₁ : r < 60000)
    (hstart : IsGreatest (starts schedMin (instant today nowMin r)) start) :
    closeScheduleShouldFire true d nowMin today schedMin last = true ↔
      instant today nowMin r - start < 300000 ∧
        ((instant today nowMin r - start) / 60000 + 1) * 60000 ≤ d ∧ last ≠ start / dayMs := by
  have heq := (isGreatest_starts hn hs h₀ h₁).1 hstart
  have hminutes : (instant today nowMin r - start) / 60000 =
      ((nowMin + 1440 - schedMin) % 1440 : ℕ) := by omega
  have hwindow : instant today nowMin r - start < 300000 ↔
      (nowMin + 1440 - schedMin) % 1440 < closeScheduleWindowMin := by
    simp only [closeScheduleWindowMin]
    omega
  rw [closeScheduleShouldFire_iff, windowDay_eq hn hs h₀ h₁ hstart, hminutes, hwindow]
  simp only [true_and, hn, hs]

/-- **The firing rule on the timeline.**  At every local instant there is one last start of the
window; the code's day is the day of it; the rule fires exactly inside the window, for a door open
for the minutes of it that have begun, once a day.  So it never fires for a door that opened at or
after the start, always for one that opened a minute before it, and never without a clock. -/
theorem closeSchedule_timeline (hn : nowMin < 1440) (hs : schedMin < 1440) (h₀ : 0 ≤ r)
    (h₁ : r < 60000) :
    ∃ start, IsGreatest (starts schedMin (instant today nowMin r)) start ∧
      closeScheduleWindowDay nowMin today schedMin = start / dayMs ∧
      (closeScheduleShouldFire true d nowMin today schedMin last = true ↔
        instant today nowMin r - start < 300000 ∧
          ((instant today nowMin r - start) / 60000 + 1) * 60000 ≤ d ∧ last ≠ start / dayMs) ∧
      (start ≤ instant today nowMin r - d →
        closeScheduleShouldFire true d nowMin today schedMin last = false) ∧
      (instant today nowMin r - start < 300000 → instant today nowMin r - d ≤ start - 60000 →
        last ≠ start / dayMs →
          closeScheduleShouldFire true d nowMin today schedMin last = true) ∧
      closeScheduleShouldFire false d nowMin today schedMin last = false := by
  obtain ⟨start, hstart⟩ : ∃ t, IsGreatest (starts schedMin (instant today nowMin r)) t :=
    ⟨_, (isGreatest_starts hn hs h₀ h₁).2 rfl⟩
  have hfire := @shouldFire_iff today r start d last nowMin schedMin hn hs h₀ h₁ hstart
  refine ⟨start, hstart, windowDay_eq hn hs h₀ h₁ hstart, hfire, ?_, ?_, ?_⟩
  · intro hafter
    rw [Bool.eq_false_iff]
    intro hfires
    have hopen := (hfire.1 hfires).2.1
    omega
  · intro hwindow hbefore hday
    exact hfire.2 ⟨hwindow, by omega, hday⟩
  · simp [closeScheduleShouldFire]

/-- The window of 23:58 at one minute past midnight, for a door open since before it. -/
theorem closeSchedule_timeline_midnight :
    ∃ start, IsGreatest (starts 1438 (instant 20001 1 0)) start ∧
      closeScheduleWindowDay 1 20001 1438 = start / dayMs ∧
      (closeScheduleShouldFire true 240000 1 20001 1438 0 = true ↔
        instant 20001 1 0 - start < 300000 ∧
          ((instant 20001 1 0 - start) / 60000 + 1) * 60000 ≤ 240000 ∧ 0 ≠ start / dayMs) ∧
      (start ≤ instant 20001 1 0 - 240000 →
        closeScheduleShouldFire true 240000 1 20001 1438 0 = false) ∧
      (instant 20001 1 0 - start < 300000 → instant 20001 1 0 - 240000 ≤ start - 60000 →
        0 ≠ start / dayMs → closeScheduleShouldFire true 240000 1 20001 1438 0 = true) ∧
      closeScheduleShouldFire false 240000 1 20001 1438 0 = false :=
  closeSchedule_timeline (by decide) (by decide) (by decide) (by decide)

end Timeline

end GdoBlaq
