import Mathlib.Data.Int.Notation
import Mathlib.Data.Nat.Notation
import Mathlib.Tactic.Common

/-!
# The scheduled close: day numbers, the firing rule, and the timezone validator

The pure logic of `close_schedule.h` that the scheduler and the settings use.  C strings are the
lists of their bytes before the terminating NUL; a `const char *` cursor into one is the suffix
it points at, and reading through the cursor at the end gives the NUL.
-/

namespace GdoBlaq

/-- The bytes of a C string before its NUL. -/
abbrev CStr := List UInt8

/-- `*s` -/
def peek (s : CStr) : UInt8 := s.headD 0

/-- The byte of an ASCII character. -/
def byte (c : Char) : UInt8 := c.toNat.toUInt8

/-- The bytes of a string literal. -/
def lit (s : String) : CStr := s.toList.map byte

/-- A fixed `char[n]` holding `s` and zeros after it. -/
def charArray (n : ℕ) (s : CStr) : Vector UInt8 n := Vector.ofFn fun i => s.getD i 0

/-- The C string in a `char[n]`: what comes before the first NUL. -/
def cstr {n : ℕ} (a : Vector UInt8 n) : CStr := a.toList.takeWhile (· ≠ 0)

/-- `memchr(a, '\0', n)` -/
def hasNul {n : ℕ} (a : Vector UInt8 n) : Bool := a.toList.contains 0

/-- `strcpy(dst, src)` into a `char[n]` that has room: the bytes after the NUL stay. -/
def strcpy {n : ℕ} (dst : Vector UInt8 n) (src : CStr) : Vector UInt8 n :=
  Vector.ofFn fun i => if i < src.length then src.getD i 0 else if i = src.length then 0 else dst[i]

/-! ### Constants and data -/

/-- `CLOSE_SCHEDULE_WINDOW_MIN` -/
def closeScheduleWindowMin : ℕ := 5

/-- `CLOSE_SCHEDULE_DEFAULT_MIN` -/
def closeScheduleDefaultMin : ℕ := 23 * 60

/-- `CLOSE_SCHEDULE_DEFAULT_TZ`, `"UTC0"` -/
def closeScheduleDefaultTz : CStr := [byte 'U', byte 'T', byte 'C', byte '0']

/-- `CLOSE_SCHEDULE_TZ_MAX_LEN` -/
def closeScheduleTzMaxLen : ℕ := 63

/-- `gdo_close_schedule_t` -/
structure CloseSchedule where
  enabled : Bool
  /-- `uint16_t minute`: minutes after local midnight. -/
  minute : ℕ
  /-- `char tz[64]` -/
  tz : Vector UInt8 64
  deriving DecidableEq

/-! ### Days and the firing rule -/

/-- The value of an `unsigned` expression whose exact result is `x`. -/
def u32 (x : ℤ) : ℕ := (x % 4294967296).toNat

/-- `close_schedule_days_from_civil`: days since 1970-01-01 of a civil date. -/
def closeScheduleDaysFromCivil (year month day : ℤ) : ℤ :=
  let year := if month ≤ 2 then year - 1 else year
  let era := (if 0 ≤ year then year else year - 399).tdiv 400
  let yoe := u32 (year - era * 400)
  let doy := u32 ((u32 (153 * u32 (month + if 2 < month then -3 else 9) + 2) / 5 : ℕ) + u32 day - 1)
  let doe := u32 ((yoe : ℤ) * 365 + (yoe / 4 : ℕ) - (yoe / 100 : ℕ) + doy)
  era * 146097 + doe - 719468

/-- `close_schedule_window_day`: the local day on which the window that contains `nowMin`
started. -/
def closeScheduleWindowDay (nowMin : ℕ) (today : ℤ) (schedMin : ℕ) : ℤ :=
  if schedMin ≤ nowMin then today else today - 1

/-- `close_schedule_should_fire` -/
def closeScheduleShouldFire (clockSynced : Bool) (doorOpenForMs : ℤ) (nowMin : ℕ) (today : ℤ)
    (schedMin : ℕ) (lastFiredDay : ℤ) : Bool :=
  if !clockSynced || doorOpenForMs ≤ 0 then false
  else if 1440 ≤ nowMin ∨ 1440 ≤ schedMin then false
  else
    let since := (nowMin + 1440 - schedMin) % 1440
    if closeScheduleWindowMin ≤ since then false
    else if doorOpenForMs < ((since : ℤ) + 1) * 60000 then false
    else lastFiredDay ≠ closeScheduleWindowDay nowMin today schedMin

/-! ### The timezone validator

Every scanner returns the advanced cursor, or `none` where the source returns `false`. -/

/-- `c >= '0' && c <= '9'` -/
def isDigit (c : UInt8) : Bool := byte '0' ≤ c ∧ c ≤ byte '9'

/-- `c >= 'A' && c <= 'Z' || c >= 'a' && c <= 'z'` -/
def isAlpha (c : UInt8) : Bool := (byte 'A' ≤ c ∧ c ≤ byte 'Z') ∨ (byte 'a' ≤ c ∧ c ≤ byte 'z')

/-- The digit loop: at most `left` more digits, with the value and the count so far. -/
def closeScheduleTzDigitsLoop : ℕ → ℕ → ℕ → CStr → ℕ × ℕ × CStr
  | left + 1, value, n, c :: s =>
    if isDigit c then
      closeScheduleTzDigitsLoop left (value * 10 + (c.toNat - (byte '0').toNat)) (n + 1) s
    else (value, n, c :: s)
  | _, value, n, s => (value, n, s)

/-- `close_schedule_tz_digits` -/
def closeScheduleTzDigits (s : CStr) (minDigits maxDigits lo hi : ℕ) : Option CStr :=
  let (value, n, s) := closeScheduleTzDigitsLoop maxDigits 0 0 s
  if n < minDigits ∨ value < lo ∨ hi < value then none else some s

/-- The characters of a bracketed zone name. -/
def isTzNameChar (c : UInt8) : Bool := isAlpha c || isDigit c || c = byte '+' || c = byte '-'

/-- `close_schedule_tz_name` -/
def closeScheduleTzName (s : CStr) : Option CStr :=
  if peek s = byte '<' then
    let name := s.tail.takeWhile isTzNameChar
    let rest := s.tail.dropWhile isTzNameChar
    if peek rest ≠ byte '>' then none
    else if name.length < 3 ∨ 10 < name.length then none
    else some rest.tail
  else
    let name := s.takeWhile isAlpha
    if name.length < 3 ∨ 10 < name.length then none else some (s.dropWhile isAlpha)

/-- `close_schedule_tz_time` -/
def closeScheduleTzTime (s : CStr) (signOk : Bool) (maxHours : ℕ) : Option CStr := do
  let s := if signOk && (peek s = byte '+' || peek s = byte '-') then s.tail else s
  let s ← closeScheduleTzDigits s 1 3 0 maxHours
  if peek s = byte ':' then
    let s ← closeScheduleTzDigits s.tail 1 2 0 59
    if peek s = byte ':' then closeScheduleTzDigits s.tail 1 2 0 59 else some s
  else some s

/-- `*s++ != c` as a failure. -/
def expect (s : CStr) (c : UInt8) : Option CStr := if peek s = c then some s.tail else none

/-- `close_schedule_tz_rule` -/
def closeScheduleTzRule (s : CStr) : Option CStr := do
  let s ←
    if peek s = byte 'M' then do
      let s ← closeScheduleTzDigits s.tail 1 2 1 12
      let s ← expect s (byte '.')
      let s ← closeScheduleTzDigits s 1 1 1 5
      let s ← expect s (byte '.')
      closeScheduleTzDigits s 1 1 0 6
    else if peek s = byte 'J' then closeScheduleTzDigits s.tail 1 3 1 365
    else closeScheduleTzDigits s 1 3 0 365
  if peek s = byte '/' then closeScheduleTzTime s.tail false 167 else some s

/-- The part of `close_schedule_tz_valid` after the daylight-saving name. -/
def closeScheduleTzDst (s : CStr) : Option CStr := do
  let s ← if peek s ≠ byte ',' ∧ peek s ≠ 0 then closeScheduleTzTime s true 24 else some s
  if peek s = 0 then some s
  else do
    let s ← expect s (byte ',')
    let s ← closeScheduleTzRule s
    let s ← expect s (byte ',')
    closeScheduleTzRule s

/-- `close_schedule_tz_valid` -/
def closeScheduleTzValid (tz : CStr) : Bool :=
  if tz.length = 0 ∨ closeScheduleTzMaxLen < tz.length then false
  else
    match (do
      let s ← closeScheduleTzName tz
      let s ← closeScheduleTzTime s true 24
      if peek s = 0 then some s
      else do
        let s ← closeScheduleTzName s
        closeScheduleTzDst s) with
    | some s => peek s = 0
    | none => false

/-- A zone that passes the validator fits into `tz`. -/
theorem length_of_closeScheduleTzValid {tz : CStr} (h : closeScheduleTzValid tz = true) :
    tz.length ≤ 63 := by
  by_contra hlong
  have hbad : tz.length = 0 ∨ closeScheduleTzMaxLen < tz.length := by
    simp only [closeScheduleTzMaxLen]
    omega
  rw [closeScheduleTzValid, if_pos hbad] at h
  cases h

/-! ### Facts about the firing rule -/

section Fire

variable {synced : Bool} {openFor : ℤ} {nowMin : ℕ} {today : ℤ} {schedMin : ℕ} {last : ℤ}

theorem closeScheduleShouldFire_iff :
    closeScheduleShouldFire synced openFor nowMin today schedMin last = true ↔
      synced = true ∧ nowMin < 1440 ∧ schedMin < 1440 ∧
        (nowMin + 1440 - schedMin) % 1440 < closeScheduleWindowMin ∧
        ((((nowMin + 1440 - schedMin) % 1440 : ℕ) : ℤ) + 1) * 60000 ≤ openFor ∧
        last ≠ closeScheduleWindowDay nowMin today schedMin := by
  simp only [closeScheduleShouldFire]
  split_ifs with h₁ h₂ h₃ h₄
  · simp only [Bool.or_eq_true, Bool.not_eq_true', decide_eq_true_eq] at h₁
    simp only [false_iff]
    rintro ⟨hs, -, -, -, ho, -⟩
    rcases h₁ with h₁ | h₁
    · simp [hs] at h₁
    · omega
  · simp only [false_iff]
    rintro ⟨-, hn, hm, -⟩
    omega
  · simp only [false_iff]
    rintro ⟨-, -, -, hw, -⟩
    omega
  · simp only [false_iff]
    rintro ⟨-, -, -, -, ho, -⟩
    omega
  · simp only [Bool.or_eq_true, Bool.not_eq_true', decide_eq_true_eq, not_or] at h₁
    simp only [decide_eq_true_eq]
    constructor
    · intro hl
      exact ⟨by simpa using h₁.1, by omega, by omega, by omega, by omega, hl⟩
    · exact fun h => h.2.2.2.2.2

end Fire

end GdoBlaq
