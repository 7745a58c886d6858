import GdoBlaq.Control.Automatic
import GdoBlaq.Schedule.Gregorian

/-!
# Local day numbers

`close_schedule_days_from_civil` numbers the days so that the once-per-night rule can compare
them.  It works in `int` and `unsigned`; here it is also written out with every operation checked
against the range of its type, in the order C evaluates them.

## Main results

* `daysFromCivil_eq` : the code's number is the count of days, from 1970-01-01 on.
* `checked_eq_some` : no operation leaves its type for a million years either way.
* `closeSchedule_days` : the day after has the next number, and no two dates have the same.
-/

namespace GdoBlaq

namespace CivilDays

open Gregorian

/-! ### The operations of C -/

/-- The result of an `int` operation, `none` when it overflows. -/
def intOp (x : ℤ) : Option ℤ := if -2147483648 ≤ x ∧ x < 2147483648 then some x else none

/-- The result of an `unsigned` operation, or of a conversion to `unsigned`, `none` when it
wraps. -/
def unsignedOp (x : ℤ) : Option ℤ := if 0 ≤ x ∧ x < 4294967296 then some x else none

theorem intOp_eq {x : ℤ} (hlo : -2147483648 ≤ x) (hhi : x < 2147483648) : intOp x = some x :=
  if_pos ⟨hlo, hhi⟩

theorem unsignedOp_eq {x : ℤ} (hlo : 0 ≤ x) (hhi : x < 4294967296) : unsignedOp x = some x :=
  if_pos ⟨hlo, hhi⟩

/-- `year >= 0 ? year : year - 399` -/
def eraYear (year : ℤ) : Option ℤ := if 0 ≤ year then some year else intOp (year - 399)

/-- `doy`, the day of the year from March on. -/
def checkedDoy (month day : ℤ) : Option ℤ := do
  let month ← intOp (month + if 2 < month then -3 else 9)
  let month ← unsignedOp month
  let doy ← unsignedOp (153 * month)
  let doy ← unsignedOp (doy + 2)
  let day ← unsignedOp day
  let doy ← unsignedOp (doy / 5 + day)
  unsignedOp (doy - 1)

/-- `doe`, the day of the era. -/
def checkedDoe (yoe doy : ℤ) : Option ℤ := do
  let doe ← unsignedOp (yoe * 365)
  let doe ← unsignedOp (doe + yoe / 4)
  let doe ← unsignedOp (doe - yoe / 100)
  unsignedOp (doe + doy)

/-- `close_schedule_days_from_civil` with every operation checked. -/
def checked (year month day : ℤ) : Option ℤ := do
  let year ← intOp (year - if month ≤ 2 then 1 else 0)
  let shifted ← eraYear year
  let era ← intOp (shifted.tdiv 400)
  let start ← intOp (era * 400)
  let yoe ← intOp (year - start)
  let yoe ← unsignedOp yoe
  let doy ← checkedDoy month day
  let doe ← checkedDoe yoe doy
  let doe ← intOp doe
  let days ← intOp (era * 146097)
  let days ← intOp (days + doe)
  intOp (days - 719468)

/-! ### The number of a date -/

theorem era_eq (year : ℤ) : (if 0 ≤ year then year else year - 399).tdiv 400 = year / 400 := by
  split_ifs with hyear
  · exact Int.tdiv_eq_ediv_of_nonneg hyear
  · -- the division of the language rounds to zero; taking off 399 makes it round down
    have hneg : year - 399 = -(399 - year) := by omega
    rw [hneg, Int.neg_tdiv, Int.tdiv_eq_ediv_of_nonneg (by omega)]
    omega

theorem u32_eq {x : ℤ} (hlo : 0 ≤ x) (hhi : x < 4294967296) : (u32 x : ℤ) = x := by
  unfold u32
  rw [Int.emod_eq_of_lt hlo hhi, Int.toNat_of_nonneg hlo]

theorem month_eq (d : Civil) : d.month + (if 2 < d.month then -3 else 9) = d.marchMonth := by
  unfold Civil.marchMonth
  split_ifs <;> omega

theorem year_eq (d : Civil) : (if d.month ≤ 2 then d.year - 1 else d.year) = d.marchYear := rfl

theorem day_le (d : Civil) : 1 ≤ d.day ∧ d.day ≤ 31 := by
  have hday := d.day_mem
  have hlength : monthLength d.year d.month ≤ 31 := by
    unfold monthLength
    split_ifs <;> decide
  omega

/-- **The code's number is the count of days**, with 1970-01-01 as day zero. -/
theorem daysFromCivil_eq (d : Civil) :
    closeScheduleDaysFromCivil d.year d.month d.day = d.number - 719468 := by
  have hmonth := d.marchMonth_mem
  have hday := day_le d
  have hyoe : (u32 (d.marchYear - d.marchYear / 400 * 400) : ℤ) = d.marchYear % 400 := by
    rw [u32_eq (by omega) (by omega)]
    omega
  have hmonths : (u32 (153 * u32 d.marchMonth + 2) : ℤ) = 153 * d.marchMonth + 2 := by
    rw [u32_eq (x := d.marchMonth) (by omega) (by omega), u32_eq (by omega) (by omega)]
  have hdoy : (u32 ((u32 (153 * u32 d.marchMonth + 2) / 5 : ℕ) + u32 d.day - 1) : ℤ) =
      Civil.monthStart d.marchMonth + d.day - 1 := by
    rw [u32_eq (x := d.day) (by omega) (by omega)]
    rw [Int.natCast_ediv, Nat.cast_ofNat, hmonths, ← Civil.monthStart]
    rw [u32_eq (by unfold Civil.monthStart; omega) (by unfold Civil.monthStart; omega)]
  have hdoe : (u32 (d.marchYear % 400 * 365 + d.marchYear % 400 / 4 - d.marchYear % 400 / 100 +
      (Civil.monthStart d.marchMonth + d.day - 1)) : ℤ) =
      d.marchYear % 400 * 365 + d.marchYear % 400 / 4 - d.marchYear % 400 / 100 +
        (Civil.monthStart d.marchMonth + d.day - 1) := by
    rw [u32_eq (by unfold Civil.monthStart; omega) (by unfold Civil.monthStart; omega)]
  unfold closeScheduleDaysFromCivil
  simp only [era_eq, month_eq]
  simp only [year_eq]
  rw [hdoy]
  push_cast
  rw [hyoe, hdoe, Civil.number, Civil.daysBefore]
  omega

theorem eraYear_eq {year : ℤ} (hlo : -1000002 ≤ year) (hhi : year ≤ 1000001) :
    eraYear year = some (if 0 ≤ year then year else year - 399) := by
  unfold eraYear
  split_ifs
  · rfl
  · exact intOp_eq (by omega) (by omega)

theorem checkedDoy_eq (d : Civil) :
    checkedDoy d.month d.day = some (Civil.monthStart d.marchMonth + d.day - 1) := by
  have hmonth := d.marchMonth_mem
  have hday := day_le d
  unfold checkedDoy
  rw [month_eq, Civil.monthStart]
  simp (disch := omega) only [intOp_eq, unsignedOp_eq, Option.bind_eq_bind, Option.bind_some]

theorem checkedDoe_eq {yoe doy : ℤ} (hyoe : 0 ≤ yoe ∧ yoe < 400) (hdoy : 0 ≤ doy ∧ doy < 400) :
    checkedDoe yoe doy = some (yoe * 365 + yoe / 4 - yoe / 100 + doy) := by
  unfold checkedDoe
  simp (disch := omega) only [unsignedOp_eq, Option.bind_eq_bind, Option.bind_some]

/-- **No operation overflows or wraps** within a million years and some of the year 0. -/
theorem checked_eq_some (d : Civil) (hlo : -1000001 ≤ d.year) (hhi : d.year ≤ 1000001) :
    checked d.year d.month d.day = some (closeScheduleDaysFromCivil d.year d.month d.day) := by
  have hmonth := d.marchMonth_mem
  have hday := day_le d
  have hyear : -1000002 ≤ d.marchYear ∧ d.marchYear ≤ 1000001 := by
    unfold Civil.marchYear
    split_ifs <;> omega
  have hstep : d.year - (if d.month ≤ 2 then 1 else 0) = d.marchYear := by
    unfold Civil.marchYear
    split_ifs <;> omega
  have hyoe : d.marchYear - d.marchYear / 400 * 400 = d.marchYear % 400 := by omega
  have hdoy : 0 ≤ Civil.monthStart d.marchMonth + d.day - 1 ∧
      Civil.monthStart d.marchMonth + d.day - 1 < 400 := by
    unfold Civil.monthStart
    omega
  have hdoe := checkedDoe_eq (show 0 ≤ d.marchYear % 400 ∧ d.marchYear % 400 < 400 by omega) hdoy
  rw [daysFromCivil_eq, Civil.number, Civil.daysBefore]
  unfold checked
  rw [hstep, checkedDoy_eq]
  -- from here on each operation is one rewrite, whose bounds are linear in the year
  generalize d.marchYear = year at *
  simp only [Option.bind_eq_bind]
  rw [intOp_eq (by omega) (by omega), Option.bind_some, eraYear_eq hyear.1 hyear.2,
    Option.bind_some, era_eq, intOp_eq (by omega) (by omega), Option.bind_some,
    intOp_eq (by omega) (by omega), Option.bind_some, hyoe, intOp_eq (by omega) (by omega),
    Option.bind_some, unsignedOp_eq (by omega) (by omega), Option.bind_some, Option.bind_some,
    hdoe, Option.bind_some, intOp_eq (by omega) (by omega), Option.bind_some,
    intOp_eq (by omega) (by omega), Option.bind_some, intOp_eq (by omega) (by omega),
    Option.bind_some, intOp_eq (by omega) (by omega)]
  congr 1
  omega

/-- The years the code is asked about. -/
def InYears (d : Civil) : Prop := -1000000 ≤ d.year ∧ d.year ≤ 1000000

theorem inYears_next {d : Civil} (h : InYears d) :
    -1000000 ≤ d.next.year ∧ d.next.year ≤ 1000001 := by
  obtain ⟨hlo, hhi⟩ := h
  unfold Civil.next
  split_ifs <;> simp only <;> omega

instance (d : Civil) : Decidable (InYears d) := inferInstanceAs (Decidable (_ ∧ _))

/-- The code's number of a date. -/
def dayNumber (d : Civil) : ℤ := closeScheduleDaysFromCivil d.year d.month d.day

theorem dayNumber_next (d : Civil) : dayNumber d.next = dayNumber d + 1 := by
  unfold dayNumber
  rw [daysFromCivil_eq, daysFromCivil_eq, d.number_next]
  omega

theorem dayNumber_injective : Function.Injective dayNumber := by
  intro d e h
  unfold dayNumber at h
  rw [daysFromCivil_eq, daysFromCivil_eq] at h
  exact Civil.number_injective (by omega)

theorem dayNumber_bounds {d : Civil} (h : InYears d) :
    -400000000 ≤ dayNumber d ∧ dayNumber d ≤ 400000000 := by
  obtain ⟨hlo, hhi⟩ := h
  have hmonth := d.marchMonth_mem
  have hday := day_le d
  have hyear : d.year - 1 ≤ d.marchYear ∧ d.marchYear ≤ d.year := by
    unfold Civil.marchYear
    split_ifs <;> omega
  unfold dayNumber
  rw [daysFromCivil_eq, Civil.number, Civil.daysBefore, Civil.monthStart]
  omega

theorem localNow_eq (d : Civil) (hour min : ℕ) :
    clockSyncLocalNow (some ⟨d.year - 1900, d.month - 1, d.day, hour, min⟩) =
      some (hour * 60 + min, dayNumber d) := by
  simp [clockSyncLocalNow, dayNumber]

/-- **The code's day numbers count days.**  From each date to the day after, over month ends and
leap days, the number goes up by one, from 0 on 1970-01-01; no operation overflows or wraps; two
dates have one number only if they are one date; and where the clock reads such a date, the
`today - 1` of a window that began before midnight is the number of the day before. -/
theorem closeSchedule_days {d : Civil} (hd : InYears d) (e : Civil) (hour min schedMin : ℕ) :
    dayNumber d.next = dayNumber d + 1 ∧ closeScheduleDaysFromCivil 1970 1 1 = 0 ∧
      checked d.year d.month d.day = some (dayNumber d) ∧
      checked d.next.year d.next.month d.next.day = some (dayNumber d.next) ∧
      (dayNumber d = dayNumber e → d = e) ∧
      ∃ yesterday : Civil, yesterday.next = d ∧
        ∃ nowMin today, clockSyncLocalNow (some ⟨d.year - 1900, d.month - 1, d.day, hour, min⟩) =
            some (nowMin, today) ∧
          closeScheduleWindowDay nowMin today schedMin =
            dayNumber (if schedMin ≤ nowMin then d else yesterday) ∧
          intOp (today - 1) = some (dayNumber yesterday) := by
  have hnext := inYears_next hd
  have hchecked : checked d.year d.month d.day = some (dayNumber d) :=
    checked_eq_some d (by have := hd.1; omega) (by have := hd.2; omega)
  -- every date is the day after another, which is the one the window began on
  obtain ⟨yesterday, hyesterday⟩ := Civil.next_surjective d
  have hbefore : dayNumber d - 1 = dayNumber yesterday := by
    rw [← hyesterday, dayNumber_next]
    omega
  refine ⟨dayNumber_next d, rfl, hchecked, checked_eq_some d.next (by omega) hnext.2,
    fun h => dayNumber_injective h, yesterday, hyesterday, _, _, localNow_eq d hour min, ?_, ?_⟩
  · unfold closeScheduleWindowDay
    split_ifs
    · rfl
    · exact hbefore
  · have hrange := dayNumber_bounds hd
    rw [intOp_eq (by omega) (by omega), hbefore]

/-- The first of March after a leap day, one minute past midnight in a window of 23:58. -/
theorem closeSchedule_days_leap :
    let d : Civil := ⟨2024, 3, 1, by decide, by decide⟩
    let e : Civil := ⟨2024, 2, 29, by decide, by decide⟩
    dayNumber d.next = dayNumber d + 1 ∧ closeScheduleDaysFromCivil 1970 1 1 = 0 ∧
      checked d.year d.month d.day = some (dayNumber d) ∧
      checked d.next.year d.next.month d.next.day = some (dayNumber d.next) ∧
      (dayNumber d = dayNumber e → d = e) ∧
      ∃ yesterday : Civil, yesterday.next = d ∧
        ∃ nowMin today, clockSyncLocalNow (some ⟨d.year - 1900, d.month - 1, d.day, 0, 1⟩) =
            some (nowMin, today) ∧
          closeScheduleWindowDay nowMin today 1438 =
            dayNumber (if 1438 ≤ nowMin then d else yesterday) ∧
          intOp (today - 1) = some (dayNumber yesterday) :=
  closeSchedule_days (by decide) _ 0 1 1438

end CivilDays

end GdoBlaq
