import GdoBlaq.Web.Form
import GdoBlaq.Text.Reads

/-!
# The timezone validator and its grammar

`closeScheduleTzValid` reads the zone that the settings page stores with a schedule. A reader that
takes as many digits or letters as there are has to stop where the grammar's word does, so every
piece of the scanner is a reader of a language with the characters it stops before.

## Main results

* `closeScheduleTzValid_iff` : the validator accepts the words of `zone` with at most 63 bytes
-/

namespace GdoBlaq

namespace Timezone

open Scan Language

/-! ### The grammar -/

/-- Between `m` and `n` digits with a value between `lo` and `hi`. -/
def digits (m n lo hi : ℕ) : Language UInt8 :=
  {w | (∀ c ∈ w, isDigit c = true) ∧ (m ≤ w.length ∧ w.length ≤ n) ∧
    lo ≤ digitsValue w ∧ digitsValue w ≤ hi}

/-- Three to ten characters of a class. -/
def run (p : UInt8 → Bool) : Language UInt8 :=
  {w | (∀ c ∈ w, p c = true) ∧ 3 ≤ w.length ∧ w.length ≤ 10}

/-- The one word of the character `c`. -/
def mark (c : Char) : Language UInt8 := {[byte c]}

/-- A zone's name, of letters alone or in brackets. -/
def name : Language UInt8 := mark '<' * (run isTzNameChar * mark '>') + run isAlpha

/-- `H[:M[:S]]` -/
def hms (maxHours : ℕ) : Language UInt8 :=
  digits 1 3 0 maxHours * (1 + mark ':' * (digits 1 2 0 59 * (1 + mark ':' * digits 1 2 0 59)))

/-- `[+-]H[:M[:S]]`, an offset from UTC. -/
def off : Language UInt8 := (1 + mark '+' + mark '-') * hms 24

/-- `Mm.w.d`, `Jn` or `n`, and `/H[:M[:S]]` if the change is not at two o'clock. -/
def rule : Language UInt8 :=
  (mark 'M' * (digits 1 2 1 12 * (mark '.' * (digits 1 1 1 5 * (mark '.' * digits 1 1 0 6)))) +
      mark 'J' * digits 1 3 1 365 + digits 1 3 0 365) * (1 + mark '/' * hms 167)

/-- A zone without daylight saving, one that leaves its changes to the library, and one with
rules. -/
def zone : Language UInt8 :=
  name * off + name * off * name * (1 + off) +
    name * off * name * (1 + off) * mark ',' * rule * mark ',' * rule

/-! ### How words begin -/

section Begin

/-- A digit or a sign. -/
def isOffChar (c : UInt8) : Bool := isDigit c || (c = byte '+' || c = byte '-')

/-- A digit or the mark of another number. -/
def isTimeChar (c : UInt8) : Bool := isDigit c || c = byte ':'

theorem begins_mark (c : Char) (L : Language UInt8) : Begins (· = byte c) (mark c * L) :=
  (Begins.char (byte c)).mul

theorem begins_of_forall {p : UInt8 → Bool} {L : Language UInt8}
    (h : ∀ w ∈ L, (∀ c ∈ w, p c = true) ∧ 0 < w.length) : Begins p L := by
  intro w hw
  obtain ⟨hall, hlen⟩ := h w hw
  cases w with
  | nil => simp at hlen
  | cons c w => exact ⟨c, rfl, hall c (by simp)⟩

theorem begins_digits {m n lo hi : ℕ} (hm : 0 < m) : Begins isDigit (digits m n lo hi) :=
  begins_of_forall fun _ hw => ⟨hw.1, hm.trans_le hw.2.1.1⟩

theorem begins_hms (maxHours : ℕ) : Begins isDigit (hms maxHours) := (begins_digits one_pos).mul

theorem begins_off : Begins isOffChar off := by
  have hsign : Begins (fun c => c = byte '+' || c = byte '-') (mark '+' + mark '-') :=
    (Begins.char _).add (Begins.char _)
  rw [off, add_assoc]
  exact hsign.one_add_mul (begins_hms 24)

theorem begins_name : Begins (fun c => c = byte '<' || isAlpha c) name :=
  (begins_mark '<' _).add (begins_of_forall fun _ hw => ⟨hw.1, by have := hw.2.1; omega⟩)

theorem isDigit_range {c : UInt8} (h : isDigit c = true) : 48 ≤ c.toNat ∧ c.toNat ≤ 57 := by
  simpa [isDigit, byte, UInt8.le_iff_toNat_le] using h

theorem not_isAlpha_of_isOffChar {c : UInt8} (h : isOffChar c = true) : isAlpha c = false := by
  simp only [isOffChar, Bool.or_eq_true, decide_eq_true_eq] at h
  rcases h with h | rfl | rfl
  · have := isDigit_range h
    simp only [isAlpha, byte, decide_eq_false_iff_not, UInt8.le_iff_toNat_le]
    simp
    omega
  · decide
  · decide

theorem not_isTimeChar_of_name {c : UInt8} (h : (decide (c = byte '<') || isAlpha c) = true) :
    isTimeChar c = false := by
  by_contra htime
  simp only [isTimeChar, Bool.not_eq_false, Bool.or_eq_true, decide_eq_true_eq] at htime h
  rcases htime with hdigit | rfl
  · rcases h with rfl | halpha
    · exact absurd hdigit (by decide)
    · have hoff : isOffChar c = true := by simp [isOffChar, hdigit]
      simp [not_isAlpha_of_isOffChar hoff] at halpha
  · exact absurd h (by decide)

end Begin

/-! ### The scanners -/

/-- The digit loop takes the longest run of at most `left` digits. -/
theorem digitsLoop_eq (left value n : ℕ) (s : CStr) :
    closeScheduleTzDigitsLoop left value n s =
      (((s.take left).takeWhile isDigit).foldl
          (fun v c => v * 10 + (c.toNat - (byte '0').toNat)) value,
        n + ((s.take left).takeWhile isDigit).length,
        s.drop ((s.take left).takeWhile isDigit).length) := by
  induction s generalizing left value n with
  | nil => cases left <;> simp [closeScheduleTzDigitsLoop]
  | cons c s ih =>
    cases left with
    | zero => simp [closeScheduleTzDigitsLoop]
    | succ left =>
      by_cases hc : isDigit c = true
      · simp only [closeScheduleTzDigitsLoop, hc, if_true, ih]
        simp [hc, Nat.add_assoc, Nat.add_comm 1]
      · simp [closeScheduleTzDigitsLoop, hc]

theorem digits_eq (s : CStr) (m n lo hi : ℕ) :
    closeScheduleTzDigits s m n lo hi =
      if m ≤ ((s.take n).takeWhile isDigit).length ∧
          lo ≤ digitsValue ((s.take n).takeWhile isDigit) ∧
          digitsValue ((s.take n).takeWhile isDigit) ≤ hi then
        some (s.drop ((s.take n).takeWhile isDigit).length) else none := by
  simp only [closeScheduleTzDigits, digitsLoop_eq, Nat.zero_add]
  rw [← digitsValue]
  generalize (s.take n).takeWhile isDigit = w
  by_cases hok : m ≤ w.length ∧ lo ≤ digitsValue w ∧ digitsValue w ≤ hi
  · rw [if_pos hok, if_neg (by omega)]
  · rw [if_neg hok, if_pos (by omega)]

theorem digits_reads (m n lo hi : ℕ) :
    Reads (fun s => closeScheduleTzDigits s m n lo hi) (digits m n lo hi) isDigit := by
  refine (Reads.spanUpTo isDigit
    (fun w => m ≤ w.length ∧ lo ≤ digitsValue w ∧ digitsValue w ≤ hi) n).congr ?_ ?_
  · intro s
    exact digits_eq s m n lo hi
  · intro w
    show _ ∧ _ ↔ _ ∧ _
    tauto

theorem run_reads (p : UInt8 → Bool) :
    Reads (fun s => if (s.takeWhile p).length < 3 ∨ 10 < (s.takeWhile p).length then none
      else some (s.dropWhile p)) (run p) p := by
  refine (Reads.span p fun w => 3 ≤ w.length ∧ w.length ≤ 10).congr ?_ fun _ => Iff.rfl
  intro s
  by_cases hlen : 3 ≤ (s.takeWhile p).length ∧ (s.takeWhile p).length ≤ 10
  · rw [if_pos hlen, if_neg (by omega)]
  · rw [if_neg hlen, if_pos (by omega)]

theorem expect_reads {c : Char} (hc : byte c ≠ 0) :
    Reads (fun s => expect s (byte c)) (mark c) fun _ => false :=
  .char hc

theorem name_reads : Reads closeScheduleTzName name isAlpha := by
  have hbracket := (run_reads isTzNameChar).bind (expect_reads (c := '>') (by decide)) ?_
  · refine (hbracket.markOr (z := 0) (c := byte '<') (r := isAlpha) (by decide)
      (run_reads isAlpha) (fun _ h => by cases h) (fun _ h => h) ?_).congr ?_ fun _ => Iff.rfl
    · intro w hw t _
      have hbegin : Begins isAlpha (run isAlpha) :=
        begins_of_forall fun _ hw => ⟨hw.1, by have := hw.2.1; omega⟩
      refine hbegin.before ?_ hw
      intro c hc
      simp only [decide_eq_false_iff_not]
      rintro rfl
      exact absurd hc (by decide)
    · intro s
      show closeScheduleTzName s = if peek s = byte '<' then _ else _
      simp only [closeScheduleTzName, expect]
      split_ifs with hopen hclose hlen hlen hlen
      all_goals simp_all
  · rintro _ rfl t -
    exact before_cons.2 (by decide)

theorem before_opt_mark {c : Char} {L : Language UInt8} {p q : UInt8 → Bool}
    (hc : p (byte c) = false) (hle : ∀ d, p d = true → q d = true) {w t : CStr}
    (hw : w ∈ 1 + mark c * L) (ht : Before q t) : Before p (w ++ t) := by
  refine (begins_mark c L).before_opt ?_ hw (ht.mono hle)
  intro d hd
  obtain rfl : d = byte c := of_decide_eq_true hd
  exact hc

theorem hms_reads (maxHours : ℕ) :
    Reads (fun s => closeScheduleTzTime s false maxHours) (hms maxHours) isTimeChar := by
  have hsecond := (digits_reads 1 2 0 59).opt (z := 0) (c := byte ':') (by decide)
  have hminute := ((digits_reads 1 2 0 59).bind hsecond
    fun w hw t ht => before_opt_mark (by decide) (fun d hd => by simp [hd]) hw ht).opt
      (z := 0) (c := byte ':') (by decide)
  refine (((digits_reads 1 3 0 maxHours).bind hminute
    fun w hw t ht => before_opt_mark (by decide) (fun d hd => by simp [hd]) hw ht).mono
      ?_).congr (fun _ => rfl) fun _ => Iff.rfl
  intro d hd
  simpa [isTimeChar, or_assoc] using hd

theorem sign_reads :
    Reads (fun s => some (if peek s = byte '+' || peek s = byte '-' then s.tail else s))
      (1 + mark '+' + mark '-') fun c => c = byte '-' || c = byte '+' := by
  have hminus := (Reads.skip (α := UInt8)).opt (z := 0) (c := byte '-') (by decide)
  refine ((Reads.skip (α := UInt8)).markOr (z := 0) (c := byte '+')
    (r := fun c => c = byte '-' || c = byte '+') (by decide) hminus (fun d hd => by cases hd)
    (fun d hd => by simp_all) ?_).congr ?_ ?_
  · intro w hw t ht
    exact before_opt_mark (by decide) (fun d hd => by simp_all) hw ht
  · intro s
    show _ = if peek s = byte '+' then _ else if peek s = byte '-' then _ else _
    split_ifs with h₁ h₂ h₃ <;> simp_all
  · intro w
    simp only [mark, mem_add, mul_one]
    tauto

theorem off_reads : Reads (fun s => closeScheduleTzTime s true 24) off isTimeChar := by
  refine (sign_reads.bind (hms_reads 24) ?_).congr ?_ fun _ => Iff.rfl
  · intro w hw t _
    refine (begins_hms 24).before ?_ hw
    intro c hc
    have := isDigit_range hc
    simp only [Bool.or_eq_false_iff, decide_eq_false_iff_not]
    constructor
    · rintro rfl
      exact absurd hc (by decide)
    · rintro rfl
      exact absurd hc (by decide)
  · intro s
    simp [closeScheduleTzTime]

/-- The first half of `close_schedule_tz_rule`. -/
def ruleDate (s : CStr) : Option CStr :=
  if peek s = byte 'M' then do
    let s ← closeScheduleTzDigits s.tail 1 2 1 12
    let s ← expect s (byte '.')
    let s ← closeScheduleTzDigits s 1 1 1 5
    let s ← expect s (byte '.')
    closeScheduleTzDigits s 1 1 0 6
  else if peek s = byte 'J' then closeScheduleTzDigits s.tail 1 3 1 365
  else closeScheduleTzDigits s 1 3 0 365

theorem closeScheduleTzRule_eq (s : CStr) :
    closeScheduleTzRule s = (ruleDate s).bind fun s =>
      if peek s = byte '/' then closeScheduleTzTime s.tail false 167 else some s := by
  unfold closeScheduleTzRule ruleDate
  split_ifs <;> simp [Option.bind_assoc]

/-- The date of a rule. -/
theorem ruleDate_reads :
    Reads ruleDate
      (mark 'M' * (digits 1 2 1 12 * (mark '.' * (digits 1 1 1 5 *
          (mark '.' * digits 1 1 0 6)))) +
        (mark 'J' * digits 1 3 1 365 + digits 1 3 0 365)) isDigit := by
  have hdot {L : Language UInt8} : ∀ w ∈ mark '.' * L, ∀ t, Before isDigit t →
      Before isDigit (w ++ t) := by
    intro w hw t _
    refine (begins_mark '.' L).before ?_ hw
    intro d hd
    obtain rfl : d = byte '.' := of_decide_eq_true hd
    decide
  have hday := (expect_reads (c := '.') (by decide)).bind (digits_reads 1 1 0 6)
    fun _ _ _ _ _ _ => rfl
  have hweek := (expect_reads (c := '.') (by decide)).bind ((digits_reads 1 1 1 5).bind hday hdot)
    fun _ _ _ _ _ _ => rfl
  have hmonth := (digits_reads 1 2 1 12).bind hweek hdot
  have hnumber {c : UInt8} (hc : isDigit c = false) : ∀ w ∈ digits 1 3 0 365, ∀ t,
      Before (· = c) (w ++ t) := by
    intro w hw t
    refine (begins_digits one_pos).before ?_ hw
    intro d hd
    simp only [decide_eq_false_iff_not]
    rintro rfl
    simp [hd] at hc
  have hjulian := (digits_reads 1 3 1 365).markOr (z := 0) (c := byte 'J') (r := isDigit)
    (by decide) (digits_reads 1 3 0 365) (fun _ h => h) (fun _ h => h)
    fun w hw t _ => hnumber (by decide) w hw t
  refine hmonth.markOr (z := 0) (c := byte 'M') (by decide) hjulian (fun _ h => h)
    (fun _ h => h) ?_
  intro w hw t _
  rcases (mem_add ..).1 hw with hw | hw
  · obtain ⟨_, rfl, v, -, rfl⟩ := mem_mul.1 hw
    exact before_cons.2 (by decide)
  · exact hnumber (by decide) w hw t

/-- What may not follow a rule. -/
def isRuleChar (c : UInt8) : Bool := isTimeChar c || c = byte '/'

theorem rule_reads : Reads closeScheduleTzRule rule isRuleChar := by
  refine (ruleDate_reads.bind ((hms_reads 167).opt (z := 0) (c := byte '/') (by decide))
    ?_).congr closeScheduleTzRule_eq ?_
  · intro w hw t ht
    exact before_opt_mark (by decide) (fun d hd => by simp [isTimeChar, hd]) hw ht
  · intro w
    simp only [rule, add_assoc, mark]

/-! ### The validator -/

/-- The end of `close_schedule_tz_valid`. -/
def dstRules (s : CStr) : Option CStr :=
  if peek s = 0 then some s
  else do
    let s ← expect s (byte ',')
    let s ← closeScheduleTzRule s
    let s ← expect s (byte ',')
    closeScheduleTzRule s

theorem closeScheduleTzDst_eq (s : CStr) :
    closeScheduleTzDst s =
      (if peek s ≠ byte ',' ∧ peek s ≠ 0 then closeScheduleTzTime s true 24
        else some s).bind dstRules := by
  unfold closeScheduleTzDst dstRules
  split_ifs <;> rfl

theorem dstRules_accepts :
    Accepts 0 dstRules (1 + mark ',' * (rule * (mark ',' * rule))) := by
  have hcomma := expect_reads (c := ',') (by decide)
  have hlast := Accepts.of_reads (z := 0) (hcomma.bind rule_reads fun _ _ _ _ _ _ => rfl)
  have hrules := Accepts.bind hcomma (Accepts.bind rule_reads hlast ?_) fun _ _ _ _ => rfl
  · exact hrules.orEnd
  · intro w hw
    obtain ⟨_, rfl, v, -, rfl⟩ := mem_mul.1 hw
    exact before_cons.2 (by decide)

theorem dstOff_reads :
    Reads (fun s => if peek s ≠ byte ',' ∧ peek s ≠ 0 then closeScheduleTzTime s true 24
      else some s) (off + 1) fun c => c ≠ byte ',' := by
  refine Reads.cond (off_reads.mono ?_) (Reads.skip.mono fun _ h => by cases h) ?_ ?_
  · intro c hc
    simp only [ne_eq, decide_eq_true_eq]
    rintro rfl
    exact absurd hc (by decide)
  · intro w hw t _
    obtain ⟨c, hc, hoff⟩ := begins_off w hw
    cases w with
    | nil => cases hc
    | cons d w =>
      obtain rfl : d = c := Option.some.inj hc
      constructor
      · rintro rfl
        exact absurd hoff (by decide)
      · rintro rfl
        exact absurd hoff (by decide)
  · rintro w rfl t ht ⟨hcomma, hend⟩
    cases t with
    | nil => exact hend rfl
    | cons d t =>
      have hd : d = byte ',' := by simpa using ht
      exact hcomma hd

theorem dst_accepts :
    Accepts 0 closeScheduleTzDst ((off + 1) * (1 + mark ',' * (rule * (mark ',' * rule)))) := by
  refine (Accepts.bind dstOff_reads dstRules_accepts ?_).congr
    (fun s _ => closeScheduleTzDst_eq s) rfl
  intro w hw
  simpa using (begins_mark ',' _).before_opt (t := []) (by simp) hw (before_nil _)

theorem before_off_add_one_mul {w : CStr} {L : Language UInt8}
    (hw : w ∈ (off + 1) * (1 + mark ',' * L)) : Before isAlpha w := by
  obtain ⟨u, hu, v, hv, rfl⟩ := mem_mul.1 hw
  have hrules : Before isAlpha v := by
    simpa using before_opt_mark (t := []) (by decide) (fun _ h => h) hv (before_nil isAlpha)
  rw [add_comm] at hu
  exact begins_off.before_opt (fun c hc => not_isAlpha_of_isOffChar hc) hu hrules

theorem zone_eq : zone =
    name * (off * (1 + name * ((off + 1) * (1 + mark ',' * (rule * (mark ',' * rule)))))) := by
  simp only [zone, mul_add, add_mul, mul_one, one_mul, mul_assoc, add_assoc]
  ac_rfl

theorem zone_accepts :
    Accepts 0 (fun s => do
      let s ← closeScheduleTzName s
      let s ← closeScheduleTzTime s true 24
      if peek s = 0 then some s
      else do
        let s ← closeScheduleTzName s
        closeScheduleTzDst s) zone := by
  have hdst := (Accepts.bind name_reads dst_accepts fun w hw => before_off_add_one_mul hw).orEnd
  have hoff := Accepts.bind off_reads hdst ?_
  · refine (Accepts.bind name_reads hoff ?_).congr (fun _ _ => rfl) zone_eq
    intro w hw
    simpa using (begins_off.mul).before (t := []) (fun c hc => not_isAlpha_of_isOffChar hc) hw
  · intro w hw
    simpa using begins_name.mul.before_opt (t := []) (fun c hc => not_isTimeChar_of_name hc) hw
      (before_nil _)

/-- **The timezone validator accepts exactly its grammar.** -/
theorem closeScheduleTzValid_iff {tz : CStr} (htz : 0 ∉ tz) :
    closeScheduleTzValid tz = true ↔ (1 ≤ tz.length ∧ tz.length ≤ 63) ∧ tz ∈ zone := by
  rw [← zone_accepts tz htz, closeScheduleTzValid]
  split_ifs with hlen
  · simp only [closeScheduleTzMaxLen] at hlen
    simp only [false_iff]
    omega
  · simp only [closeScheduleTzMaxLen] at hlen
    rw [and_iff_right (show 1 ≤ tz.length ∧ tz.length ≤ 63 by omega)]
    split
    · rename_i t ht
      simp only [ht, Option.some.injEq, exists_eq_left', decide_eq_true_eq]
      rfl
    · rename_i hnone
      simp only [hnone, reduceCtorEq, false_and, exists_false, Bool.false_eq_true]

/-! ### The characters of a zone -/

/-- Letters, digits and the marks of a zone. -/
def isZoneChar (c : UInt8) : Bool :=
  isTzNameChar c || (c = byte '<' || c = byte '>' || c = byte ':' || c = byte ',' || c = byte '.' ||
    c = byte '/')

theorem within_mark {c : Char} (hc : isZoneChar (byte c) = true) : Within isZoneChar (mark c) := by
  rintro w rfl
  simpa using hc

theorem within_digits {m n lo hi : ℕ} : Within isZoneChar (digits m n lo hi) := by
  intro w hw c hc
  simp [isZoneChar, isTzNameChar, hw.1 c hc]

theorem within_run {p : UInt8 → Bool} (hp : ∀ c, p c = true → isZoneChar c = true) :
    Within isZoneChar (run p) :=
  fun _ hw c hc => hp c (hw.1 c hc)

theorem within_name : Within isZoneChar name :=
  ((within_mark (by decide)).mul ((within_run fun c hc => by simp [isZoneChar, hc]).mul
    (within_mark (by decide)))).add
    (within_run fun c hc => by simp [isZoneChar, isTzNameChar, hc])

theorem within_hms (maxHours : ℕ) : Within isZoneChar (hms maxHours) :=
  within_digits.mul (Within.one.add ((within_mark (by decide)).mul (within_digits.mul
    (Within.one.add ((within_mark (by decide)).mul within_digits)))))

theorem within_off : Within isZoneChar off :=
  ((Within.one.add (within_mark (by decide))).add (within_mark (by decide))).mul (within_hms 24)

theorem within_rule : Within isZoneChar rule := by
  have hmark (c : Char) (hc : isZoneChar (byte c) = true) := within_mark hc
  have hweek : Within isZoneChar (mark 'M' * (digits 1 2 1 12 * (mark '.' *
      (digits 1 1 1 5 * (mark '.' * digits 1 1 0 6))))) :=
    (hmark 'M' (by decide)).mul (within_digits.mul ((hmark '.' (by decide)).mul
      (within_digits.mul ((hmark '.' (by decide)).mul within_digits))))
  have hday : Within isZoneChar (mark 'J' * digits 1 3 1 365) :=
    (hmark 'J' (by decide)).mul within_digits
  exact ((hweek.add hday).add within_digits).mul
    (Within.one.add ((hmark '/' (by decide)).mul (within_hms 167)))

/-- **The characters of a zone.** -/
theorem within_zone : Within isZoneChar zone := by
  have hcomma : Within isZoneChar (mark ',') := within_mark (by decide)
  have hdst := ((within_name.mul within_off).mul within_name).mul (Within.one.add within_off)
  exact ((within_name.mul within_off).add hdst).add
    (((hdst.mul hcomma).mul within_rule).mul hcomma |>.mul within_rule)

end Timezone

end GdoBlaq
