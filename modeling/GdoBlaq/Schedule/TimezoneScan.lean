import GdoBlaq.Schedule.TimezoneGrammar
import GdoBlaq.Text.Memory

/-!
# What the timezone validator reads

The scanners of `close_schedule.h` once more, now with the cursor as an index and every `*s` a
checked access to the string and its NUL.  None of them reads anything behind the NUL, and they do
what the scanners over suffixes do.

## Main results

* `TimezoneScan.valid_eq` : the validator over indices.
* `closeScheduleTzValid_grammar` : it reads nothing behind the NUL and accepts exactly the grammar.
-/

namespace GdoBlaq

namespace TimezoneScan

open Memory (read skipWhile strlen Checked Tracks)

variable (tz : CStr)

/-! ### The scanners over indices -/

/-- The loop of `close_schedule_tz_digits`: the value, the number of digits and the index. -/
def digitsLoop : ℕ → ℕ → ℕ → ℕ → Checked (ℕ × ℕ × ℕ)
  | 0, value, n, i => do
    let _ ← read 0 tz i
    pure (value, n, i)
  | left + 1, value, n, i => do
    let c ← read 0 tz i
    if isDigit c then
      digitsLoop left (value * 10 + (c.toNat - (byte '0').toNat)) (n + 1) (i + 1)
    else pure (value, n, i)

/-- `close_schedule_tz_digits` -/
def digits (minDigits maxDigits lo hi i : ℕ) : Checked ℕ := do
  let (value, n, i) ← digitsLoop tz maxDigits 0 0 i
  if n < minDigits ∨ value < lo ∨ hi < value then failure else pure i

/-- The loop of a name: the index behind it. -/
def run (p : UInt8 → Bool) (i : ℕ) : Checked ℕ :=
  OptionT.lift (skipWhile 0 tz p (tz.length + 1) i)

/-- `close_schedule_tz_name` -/
def name (i : ℕ) : Checked ℕ := do
  let c ← read 0 tz i
  if c = byte '<' then do
    let j ← run tz isTzNameChar (i + 1)
    let c ← read 0 tz j
    if c ≠ byte '>' then failure
    else if j - (i + 1) < 3 ∨ 10 < j - (i + 1) then failure
    else pure (j + 1)
  else do
    let j ← run tz isAlpha i
    if j - i < 3 ∨ 10 < j - i then failure else pure j

/-- `[:M[:S]]` -/
def minutes (i : ℕ) : Checked ℕ := do
  let c ← read 0 tz i
  if c = byte ':' then do
    let i ← digits tz 1 2 0 59 (i + 1)
    let c ← read 0 tz i
    if c = byte ':' then digits tz 1 2 0 59 (i + 1) else pure i
  else pure i

/-- The sign of a time, if it may have one. -/
def sign (signOk : Bool) (i : ℕ) : Checked ℕ := do
  let c ← read 0 tz i
  if signOk && (c = byte '+' || c = byte '-') then pure (i + 1) else pure i

/-- `close_schedule_tz_time` -/
def time (signOk : Bool) (maxHours i : ℕ) : Checked ℕ := do
  let i ← sign tz signOk i
  let i ← digits tz 1 3 0 maxHours i
  minutes tz i

/-- `*s++ != c` as a failure. -/
def expectAt (c : UInt8) (i : ℕ) : Checked ℕ := do
  let d ← read 0 tz i
  if d = c then pure (i + 1) else failure

/-- The first half of `close_schedule_tz_rule`. -/
def date (i : ℕ) : Checked ℕ := do
  let c ← read 0 tz i
  if c = byte 'M' then do
    let i ← digits tz 1 2 1 12 (i + 1)
    let i ← expectAt tz (byte '.') i
    let i ← digits tz 1 1 1 5 i
    let i ← expectAt tz (byte '.') i
    digits tz 1 1 0 6 i
  else do
    let c ← read 0 tz i
    if c = byte 'J' then digits tz 1 3 1 365 (i + 1) else digits tz 1 3 0 365 i

/-- `close_schedule_tz_rule` -/
def rule (i : ℕ) : Checked ℕ := do
  let i ← date tz i
  let c ← read 0 tz i
  if c = byte '/' then time tz false 167 (i + 1) else pure i

/-- The offset of daylight saving, if there is one. -/
def dstOff (i : ℕ) : Checked ℕ := do
  let c ← read 0 tz i
  if c ≠ byte ',' ∧ c ≠ 0 then time tz true 24 i else pure i

/-- The part of `close_schedule_tz_valid` behind the daylight-saving name. -/
def dst (i : ℕ) : Checked ℕ := do
  let i ← dstOff tz i
  let c ← read 0 tz i
  if c = 0 then pure i
  else do
    let i ← expectAt tz (byte ',') i
    let i ← rule tz i
    let i ← expectAt tz (byte ',') i
    rule tz i

/-- `close_schedule_tz_valid` after the test of the length; where it returns before its end there
is a NUL at the index. -/
def scan : Checked ℕ := do
  let i ← name tz 0
  let i ← time tz true 24 i
  let c ← read 0 tz i
  if c = 0 then pure i
  else do
    let i ← name tz i
    dst tz i

/-- `close_schedule_tz_valid`; there is no answer if it makes a bad access. -/
def valid : Option Bool := do
  let n ← strlen 0 tz
  if n = 0 ∨ closeScheduleTzMaxLen < n then pure false
  else
    let last ← (scan tz >>= read 0 tz).run
    pure (decide (last = some 0))

/-! ### What they do -/

variable {tz}

theorem digitsLoop_run (left value n : ℕ) {i : ℕ} (hi : i ≤ tz.length) :
    ∃ j ≤ tz.length, (closeScheduleTzDigitsLoop left value n (tz.drop i)).2.2 = tz.drop j ∧
      (digitsLoop tz left value n i).run =
        some (some ((closeScheduleTzDigitsLoop left value n (tz.drop i)).1,
          (closeScheduleTzDigitsLoop left value n (tz.drop i)).2.1, j)) := by
  induction left generalizing value n i with
  | zero => exact ⟨i, hi, by simp [closeScheduleTzDigitsLoop], by
      rw [digitsLoop, Memory.run_read hi]; simp [closeScheduleTzDigitsLoop]⟩
  | succ left ih =>
    rw [digitsLoop, Memory.run_read hi]
    cases hs : tz.drop i with
    | nil => exact ⟨i, hi, by simp [closeScheduleTzDigitsLoop, hs], by
        simp [closeScheduleTzDigitsLoop, show isDigit 0 = false by decide]⟩
    | cons c s =>
      obtain ⟨hlt, htail⟩ := Memory.drop_eq_cons hs
      by_cases hc : isDigit c = true
      · obtain ⟨j, hj, hrest, hrun⟩ := ih (value * 10 + (c.toNat - (byte '0').toNat)) (n + 1) hlt
        rw [htail] at hrest hrun
        exact ⟨j, hj, by simpa [closeScheduleTzDigitsLoop, hc] using hrest, by
          simpa [closeScheduleTzDigitsLoop, hc] using hrun⟩
      · exact ⟨i, hi, by simp [closeScheduleTzDigitsLoop, hc, hs], by
          simp [closeScheduleTzDigitsLoop, hc]⟩

theorem digits_tracks (m n lo hi : ℕ) :
    Tracks tz (digits tz m n lo hi) fun s => closeScheduleTzDigits s m n lo hi := by
  intro i hi'
  obtain ⟨j, hj, hrest, hrun⟩ := digitsLoop_run n 0 0 hi'
  simp only [closeScheduleTzDigits]
  split_ifs with hbad
  · exact .fail (by simp [digits, hrun, hbad, Option.elimM])
  · exact .stop (by simp [digits, hrun, hbad, Option.elimM]) hj hrest.symm

theorem run_run {p : UInt8 → Bool} (hp : p 0 = false) {i : ℕ} (hi : i ≤ tz.length) :
    (run tz p i).run = some (some (i + ((tz.drop i).takeWhile p).length)) := by
  rw [run, OptionT.run_lift, Memory.skipWhile_eq hp hi (by omega)]
  rfl

theorem expectAt_tracks {c : UInt8} (hc : c ≠ 0) :
    Tracks tz (expectAt tz c) fun s => expect s c :=
  Tracks.step (P := fun d => d = c) (z := 0) hc.symm .pure .fail

theorem minutes_tracks : Tracks tz (minutes tz) fun s =>
    if peek s = byte ':' then do
      let s ← closeScheduleTzDigits s.tail 1 2 0 59
      if peek s = byte ':' then closeScheduleTzDigits s.tail 1 2 0 59 else some s
    else some s := by
  have hsecond := Tracks.step (s := tz) (P := fun d => d = byte ':') (z := 0) (by decide)
    (digits_tracks 1 2 0 59) .pure
  exact Tracks.step (P := fun d => d = byte ':') (z := 0) (by decide)
    ((digits_tracks 1 2 0 59).bind hsecond) .pure

theorem time_tracks (signOk : Bool) (maxHours : ℕ) :
    Tracks tz (time tz signOk maxHours) fun s => closeScheduleTzTime s signOk maxHours := by
  have hsign := Tracks.step (s := tz) (z := 0)
    (P := fun c => (signOk && (c = byte '+' || c = byte '-')) = true)
    (by simp [show (0 : UInt8) ≠ byte '+' by decide, show (0 : UInt8) ≠ byte '-' by decide])
    .pure .pure
  refine (hsign.bind ((digits_tracks 1 3 0 maxHours).bind minutes_tracks)).congr ?_
  intro s
  show closeScheduleTzTime s signOk maxHours = Option.bind
    (if (signOk && (peek s = byte '+' || peek s = byte '-')) = true then _ else _) _
  unfold closeScheduleTzTime
  split_ifs <;> rfl

theorem run_le {p : UInt8 → Bool} {i : ℕ} (hi : i ≤ tz.length) :
    i + ((tz.drop i).takeWhile p).length ≤ tz.length := by
  have hprefix := (List.takeWhile_prefix p (l := tz.drop i)).length_le
  rw [List.length_drop] at hprefix
  omega

theorem name_tracks : Tracks tz (name tz) closeScheduleTzName := by
  intro i hi
  rw [name, closeScheduleTzName]
  refine Memory.Follows.choice (P := fun c => c = byte '<') hi ?_ ?_
  · intro hopen
    have hlt : i < tz.length := by
      refine Memory.lt_of_headD_ne (z := 0) hi ?_
      rw [hopen]
      decide
    refine .after (run_run (p := isTzNameChar) (by decide) hlt) ?_
    have hle := run_le (p := isTzNameChar) hlt
    rw [List.tail_drop, ← Memory.drop_run]
    refine Memory.Follows.choice (P := fun c => c ≠ byte '>') hle (fun _ => .fail rfl) ?_
    intro hclose
    have hlt' := Memory.lt_of_headD_ne (z := 0) hle fun h => hclose (by rw [h]; decide)
    rw [Nat.add_sub_cancel_left]
    split_ifs with hlen
    · exact .fail rfl
    · exact .stop rfl hlt' (by rw [List.tail_drop])
  · intro _
    refine .after (run_run (p := isAlpha) (by decide) hi) ?_
    simp only [Nat.add_sub_cancel_left]
    split_ifs with hlen
    · exact .fail rfl
    · exact .stop rfl (run_le hi) (Memory.drop_run ..)

theorem rule_tracks : Tracks tz (rule tz) closeScheduleTzRule := by
  have hdot : Tracks tz (expectAt tz (byte '.')) fun s => expect s (byte '.') :=
    expectAt_tracks (by decide)
  have hmonth := (digits_tracks 1 2 1 12).bind (hdot.bind ((digits_tracks 1 1 1 5).bind
    (hdot.bind (digits_tracks 1 1 0 6))))
  have hday := Tracks.step (s := tz) (P := fun c => c = byte 'J') (z := 0) (by decide)
    (digits_tracks 1 3 1 365) (digits_tracks 1 3 0 365)
  have hdate := Tracks.step (P := fun c => c = byte 'M') (z := 0) (by decide) hmonth hday
  have htime := Tracks.step (s := tz) (P := fun c => c = byte '/') (z := 0) (by decide)
    (time_tracks false 167) .pure
  exact (hdate.bind htime).congr Timezone.closeScheduleTzRule_eq

theorem dst_tracks : Tracks tz (dst tz) closeScheduleTzDst := by
  have hoff := Tracks.test (s := tz) (P := fun c => c ≠ byte ',' ∧ c ≠ 0) (z := 0)
    (time_tracks true 24) .pure
  have hcomma : Tracks tz (expectAt tz (byte ',')) fun s => expect s (byte ',') :=
    expectAt_tracks (by decide)
  have hrules := Tracks.test (P := fun c => c = 0) (z := 0) (.pure : Tracks tz _ _)
    (hcomma.bind (rule_tracks.bind (hcomma.bind rule_tracks)))
  exact (hoff.bind hrules).congr Timezone.closeScheduleTzDst_eq

theorem scan_follows : Memory.Follows tz (scan tz) (do
    let s ← closeScheduleTzName tz
    let s ← closeScheduleTzTime s true 24
    if peek s = 0 then some s
    else do
      let s ← closeScheduleTzName s
      closeScheduleTzDst s) := by
  have hdst := Tracks.test (P := fun c => c = 0) (z := 0) (.pure : Tracks tz _ _)
    (name_tracks.bind dst_tracks)
  exact (name_tracks.bind ((time_tracks true 24).bind hdst)) 0 (Nat.zero_le _)

/-- The validator reads nothing behind the NUL, and answers as the one over suffixes. -/
theorem valid_eq (htz : 0 ∉ tz) : valid tz = some (closeScheduleTzValid tz) := by
  have hlen : strlen 0 tz = some tz.length := Memory.strlen_eq htz
  obtain ⟨r, hr, hdrop, hle⟩ : Memory.Follows tz (scan tz) _ := scan_follows
  rw [valid, hlen, closeScheduleTzValid]
  show (if tz.length = 0 ∨ closeScheduleTzMaxLen < tz.length then some false else _) = _
  split_ifs with hbad
  · rfl
  · rw [← hdrop]
    cases r with
    | none => simp [hr, Option.elimM]
    | some i =>
      have hread := Memory.load_eq (z := 0) (hle i rfl)
      simp [hr, Option.elimM, Memory.read, hread, peek]

end TimezoneScan

/-- **The timezone validator accepts exactly its grammar**, and reads nothing behind the NUL. -/
theorem closeScheduleTzValid_grammar {tz : CStr} (htz : 0 ∉ tz) :
    TimezoneScan.valid tz = some (closeScheduleTzValid tz) ∧
      (closeScheduleTzValid tz = true ↔
        (1 ≤ tz.length ∧ tz.length ≤ 63) ∧ tz ∈ Timezone.zone) :=
  ⟨TimezoneScan.valid_eq htz, Timezone.closeScheduleTzValid_iff htz⟩

/-- A zone with rules. -/
theorem closeScheduleTzValid_grammar_pacific :
    TimezoneScan.valid (lit "PST8PDT,M3.2.0,M11.1.0") =
        some (closeScheduleTzValid (lit "PST8PDT,M3.2.0,M11.1.0")) ∧
      (closeScheduleTzValid (lit "PST8PDT,M3.2.0,M11.1.0") = true ↔
        (1 ≤ (lit "PST8PDT,M3.2.0,M11.1.0").length ∧
          (lit "PST8PDT,M3.2.0,M11.1.0").length ≤ 63) ∧
        lit "PST8PDT,M3.2.0,M11.1.0" ∈ Timezone.zone) :=
  closeScheduleTzValid_grammar (by decide)

end GdoBlaq
