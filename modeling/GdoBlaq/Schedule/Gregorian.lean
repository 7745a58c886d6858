import Mathlib.Data.Int.Notation
import Mathlib.Tactic.Common
import Mathlib.Tactic.IntervalCases

/-!
# The Gregorian calendar

Dates of the proleptic calendar, the day after a date, and the count of days.  Years run from
March to February in the count, so that a leap day comes last.

## Main results

* `Civil.number_next` : the count goes up by one from day to day.
* `Civil.number_injective` : no two dates have the same number.
-/

namespace Gregorian

/-- A leap year. -/
def IsLeap (year : ℤ) : Prop := year % 4 = 0 ∧ (year % 100 ≠ 0 ∨ year % 400 = 0)

instance : DecidablePred IsLeap := fun _ => inferInstanceAs (Decidable (_ ∧ _))

/-- The days of a month. -/
def monthLength (year month : ℤ) : ℤ :=
  if month = 2 then if IsLeap year then 29 else 28
  else if month = 4 ∨ month = 6 ∨ month = 9 ∨ month = 11 then 30
  else 31

theorem monthLength_pos (year month : ℤ) : 1 ≤ monthLength year month := by
  unfold monthLength
  split_ifs <;> decide

/-- A date. -/
@[ext]
structure Civil where
  year : ℤ
  month : ℤ
  day : ℤ
  month_mem : 1 ≤ month ∧ month ≤ 12
  day_mem : 1 ≤ day ∧ day ≤ monthLength year month

namespace Civil

/-- The day after. -/
def next (d : Civil) : Civil :=
  if hday : d.day < monthLength d.year d.month then
    ⟨d.year, d.month, d.day + 1, d.month_mem, by have := d.day_mem; omega⟩
  else if hmonth : d.month < 12 then
    ⟨d.year, d.month + 1, 1, by have := d.month_mem; omega, le_rfl, monthLength_pos _ _⟩
  else ⟨d.year + 1, 1, 1, by omega, le_rfl, monthLength_pos _ _⟩

theorem next_surjective : Function.Surjective next := by
  intro d
  have hm := d.month_mem
  have hd := d.day_mem
  by_cases hday : 1 < d.day
  · refine ⟨⟨d.year, d.month, d.day - 1, hm, by omega⟩, ?_⟩
    unfold next
    rw [dif_pos (show d.day - 1 < monthLength d.year d.month by omega)]
    ext <;> simp
  · have hone : d.day = 1 := by omega
    by_cases hmonth : 1 < d.month
    · refine ⟨⟨d.year, d.month - 1, monthLength d.year (d.month - 1), by omega,
        monthLength_pos _ _, le_rfl⟩, ?_⟩
      unfold next
      rw [dif_neg (lt_irrefl _), dif_pos (show d.month - 1 < 12 by omega)]
      ext <;> simp [hone]
    · refine ⟨⟨d.year - 1, 12, 31, by omega, by decide, by simp [monthLength]⟩, ?_⟩
      unfold next
      rw [dif_neg (by simp [monthLength]), dif_neg (lt_irrefl _)]
      ext
      · simp
      · show 1 = d.month
        omega
      · exact hone.symm

/-! ### The count of days -/

/-- The year from March on. -/
def marchYear (d : Civil) : ℤ := if d.month ≤ 2 then d.year - 1 else d.year

/-- The months since March. -/
def marchMonth (d : Civil) : ℤ := if d.month ≤ 2 then d.month + 9 else d.month - 3

/-- The days of the years before a year. -/
def daysBefore (year : ℤ) : ℤ := year * 365 + year / 4 - year / 100 + year / 400

/-- The days from the first of March to the beginning of a month. -/
def monthStart (month : ℤ) : ℤ := (153 * month + 2) / 5

/-- The number of a date: the days since the first of March of the year 0. -/
def number (d : Civil) : ℤ := daysBefore d.marchYear + monthStart d.marchMonth + d.day - 1

theorem daysBefore_succ (year : ℤ) :
    daysBefore (year + 1) = daysBefore year + if IsLeap (year + 1) then 366 else 365 := by
  unfold daysBefore
  by_cases hleap : IsLeap (year + 1)
  · rw [if_pos hleap]
    unfold IsLeap at hleap
    omega
  · rw [if_neg hleap]
    unfold IsLeap at hleap
    omega

theorem daysBefore_mono {a b : ℤ} (h : a ≤ b) : daysBefore a ≤ daysBefore b := by
  unfold daysBefore
  omega

theorem monthStart_mono {a b : ℤ} (h : a ≤ b) : monthStart a ≤ monthStart b := by
  unfold monthStart
  omega

theorem monthStart_succ (d : Civil) :
    (d.month ≠ 2 → monthStart (d.marchMonth + 1) =
      monthStart d.marchMonth + monthLength d.year d.month) ∧
    (d.month = 2 → daysBefore (d.marchYear + 1) =
      daysBefore d.marchYear + monthStart d.marchMonth + monthLength d.year d.month) := by
  obtain ⟨year, month, day, ⟨hlo, hhi⟩, -⟩ := d
  constructor
  · intro hfeb
    simp only [marchMonth, monthStart, monthLength] at hfeb ⊢
    interval_cases month <;> simp_all
  · intro hfeb
    simp only at hfeb
    subst hfeb
    have hyear := daysBefore_succ (year - 1)
    rw [Int.sub_add_cancel] at hyear
    simp only [marchYear, marchMonth, monthStart, monthLength, le_refl, if_true,
      Int.sub_add_cancel, hyear]
    split_ifs <;> omega

/-- **From day to day the number goes up by one.** -/
theorem number_next (d : Civil) : d.next.number = d.number + 1 := by
  have hstart := monthStart_succ d
  obtain ⟨year, month, day, ⟨hlo, hhi⟩, hday⟩ := d
  simp only [marchMonth, marchYear] at hstart hday
  unfold next
  split_ifs with hnext hyear
  · simp only [number, marchYear, marchMonth]
    omega
  · -- the last day of a month; after February the count begins a new year
    have hlast : day = monthLength year month := le_antisymm hday.2 (not_lt.1 hnext)
    simp only [number, marchYear, marchMonth] at hstart ⊢
    by_cases hfeb : month = 2
    · have := hstart.2 hfeb
      subst hfeb
      simp only [monthStart] at this ⊢
      norm_num at this ⊢
      omega
    · have := hstart.1 hfeb
      split_ifs at this ⊢ <;> first | omega | (simp only [monthStart] at this ⊢; omega)
  · have hlast : day = monthLength year month := le_antisymm hday.2 (not_lt.1 hnext)
    have hdec : month = 12 := by
      simp only at hyear
      omega
    subst hdec
    simp only [number, marchYear, marchMonth, monthStart, hlast, monthLength]
    norm_num
    omega

theorem marchMonth_mem (d : Civil) : 0 ≤ d.marchMonth ∧ d.marchMonth ≤ 11 := by
  have := d.month_mem
  unfold marchMonth
  split_ifs <;> omega

theorem number_lt_month (d : Civil) (hlast : d.marchMonth < 11) :
    d.number < daysBefore d.marchYear + monthStart (d.marchMonth + 1) := by
  have hfeb : d.month ≠ 2 := by
    intro hfeb
    simp [marchMonth, hfeb] at hlast
  rw [(monthStart_succ d).1 hfeb, number]
  have := d.day_mem
  omega

theorem number_lt_year (d : Civil) : d.number < daysBefore (d.marchYear + 1) := by
  by_cases hfeb : d.month = 2
  · rw [(monthStart_succ d).2 hfeb, number]
    have := d.day_mem
    omega
  · have hmem := d.month_mem
    have hlast : d.marchMonth < 11 := by
      unfold marchMonth
      split_ifs <;> omega
    have hmonth := number_lt_month d hlast
    have hend : monthStart (d.marchMonth + 1) ≤ 337 := monthStart_mono (show _ ≤ 11 by omega)
    have hyear := daysBefore_succ d.marchYear
    split_ifs at hyear <;> omega

theorem le_number (d : Civil) : daysBefore d.marchYear + monthStart d.marchMonth ≤ d.number := by
  have := d.day_mem
  unfold number
  omega

theorem number_lt_of_marchYear_lt {d e : Civil} (h : d.marchYear < e.marchYear) :
    d.number < e.number :=
  calc d.number < daysBefore (d.marchYear + 1) := number_lt_year d
    _ ≤ daysBefore e.marchYear := daysBefore_mono h
    _ ≤ daysBefore e.marchYear + monthStart e.marchMonth :=
        Int.le_add_of_nonneg_right (monthStart_mono (marchMonth_mem e).1)
    _ ≤ e.number := le_number e

theorem number_lt_of_marchMonth_lt {d e : Civil} (hyear : d.marchYear = e.marchYear)
    (h : d.marchMonth < e.marchMonth) : d.number < e.number :=
  calc d.number < daysBefore d.marchYear + monthStart (d.marchMonth + 1) :=
        number_lt_month d (lt_of_lt_of_le h (marchMonth_mem e).2)
    _ ≤ daysBefore e.marchYear + monthStart e.marchMonth := by
        rw [hyear]
        exact Int.add_le_add_left (monthStart_mono h) _
    _ ≤ e.number := le_number e

theorem ext_march {d e : Civil} (hyear : d.marchYear = e.marchYear)
    (hmonth : d.marchMonth = e.marchMonth) (hday : d.day = e.day) : d = e := by
  have hd := d.month_mem
  have he := e.month_mem
  simp only [marchYear, marchMonth] at hyear hmonth
  ext
  · split_ifs at hyear hmonth <;> omega
  · split_ifs at hmonth <;> omega
  · exact hday

/-- **No two dates have the same number.** -/
theorem number_injective : Function.Injective number := by
  intro d e h
  have hyear : d.marchYear = e.marchYear := by
    rcases lt_trichotomy d.marchYear e.marchYear with hlt | heq | hlt
    · exact absurd h (number_lt_of_marchYear_lt hlt).ne
    · exact heq
    · exact absurd h.symm (number_lt_of_marchYear_lt hlt).ne
  have hmonth : d.marchMonth = e.marchMonth := by
    rcases lt_trichotomy d.marchMonth e.marchMonth with hlt | heq | hlt
    · exact absurd h (number_lt_of_marchMonth_lt hyear hlt).ne
    · exact heq
    · exact absurd h.symm (number_lt_of_marchMonth_lt hyear.symm hlt).ne
  refine ext_march hyear hmonth ?_
  simp only [number, hyear, hmonth] at h
  omega

end Civil

end Gregorian
