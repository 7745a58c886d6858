import GdoBlaq.Schedule.TimezoneGrammar
import GdoBlaq.Text.Search
import GdoBlaq.Web.FormLookup
import GdoBlaq.Web.SettingsPages

/-!
# The settings forms

`close_schedule_parse_form` looks a parameter up by its whole name and decodes its value.  The
handlers of the other two pages take the same kind of body, but search it for `enabled=1` and for
`minutes=`, wherever these stand, and let `strtoul` read on from there.  Here both readings are
compared, byte by byte of what a field holds.

## Main results

* `wantsEnabled_iff` and `strstr_enabled_iff` : what the flag is in either reading.
* `strtoul_eq_iff` : the texts that `strtoul` reads as a given number of minutes.
* `settingsForms_iff` : on which bodies the handlers do what the form asks for.
-/

namespace GdoBlaq

open FormLookup

namespace SettingsForms

/-! ### What a form asks for -/

/-- `enabled` as `close_schedule_parse_form` reads it. -/
def wantsEnabled (body : CStr) : Bool := formGetParam body (lit "enabled") 4 = some (lit "1")

/-- The value of a decimal numeral. -/
def numeral (v : CStr) : Option ℕ :=
  if v ≠ [] ∧ v.all isDigit then some (digitsValue v) else none

/-- The minutes that a form asks for: 60 without the parameter, else its first value, if that is a
numeral from 1 to 1440. -/
def wantsMinutes (body : CStr) : Option ℕ :=
  match lookup body (lit "minutes") with
  | none => some 60
  | some v => (numeral v).filter fun k => 1 ≤ k ∧ k ≤ 1440

/-- What `auto_close_settings_post_handler` does once the form is read. -/
def saveAutoClose (s : Firmware) (n : Nvs) (enabled : Bool) (minutes : ℕ)
    (timeoutWrite enabledWrite : NvsWrite) : Firmware × Nvs × HttpReply :=
  let (s, n, err) := gdoSetAutoCloseTimeoutMs s n (minutes * 60000) timeoutWrite
  if err ≠ .ok then (s, n, .serverError)
  else
    let (s, n, err) := gdoSetAutoCloseEnabled s n enabled enabledWrite
    (s, n, if err ≠ .ok then .serverError else .text "OK")

/-- What `pre_close_buzzer_post_handler` does once the form is read. -/
def saveBuzzer (s : Firmware) (n : Nvs) (enabled : Bool) (write : NvsWrite) :
    Firmware × Nvs × HttpReply :=
  let (s, n, err) := gdoSetPreCloseBuzzer s n enabled write
  (s, n, if err ≠ .ok then .serverError else .text "OK")

/-- The buzzer page saves the flag that the form asks for. -/
def BuzzerAsAsked (s : Firmware) (n : Nvs) (req : FormRequest) (body : CStr) : Prop :=
  ∀ write, preCloseBuzzerPostHandler s n true req write = saveBuzzer s n (wantsEnabled body) write

/-- The auto-close page turns down a form without a number of minutes in the range, and saves the
minutes and the flag that any other form asks for. -/
structure AutoCloseAsAsked (s : Firmware) (n : Nvs) (req : FormRequest) (body : CStr) : Prop where
  refused : wantsMinutes body = none → ∀ timeoutWrite enabledWrite,
    autoCloseSettingsPostHandler s n true req timeoutWrite enabledWrite =
      (s, n, .error 400 "Minutes must be between 1 and 1440")
  saved : ∀ minutes, wantsMinutes body = some minutes → ∀ timeoutWrite enabledWrite,
    autoCloseSettingsPostHandler s n true req timeoutWrite enabledWrite =
      saveAutoClose s n (wantsEnabled body) minutes timeoutWrite enabledWrite

/-! ### When both readings agree -/

/-- The first field with the key, as it stands in the body behind the equals sign. -/
def firstRaw (body key : CStr) : Option CStr :=
  ((segments body).find? (hasKey key)).map (·.drop (key.length + 1))

/-- The text `r` goes on with the numeral of `k`: there may be blanks and a sign before the digits,
and anything but one more digit behind them.  With a minus sign, the number is counted down from
2³². -/
def ReadsAs (r : CStr) (k : ℕ) : Prop :=
  ∃ blanks sign digits rest, r = blanks ++ (sign ++ (digits ++ rest)) ∧
    (∀ c ∈ blanks, isSpace c = true) ∧ (∀ c ∈ digits, isDigit c = true) ∧
    Scan.Before isDigit rest ∧
    ((sign = [] ∨ sign = [byte '+']) ∧ digitsValue digits = k ∨
      sign = [byte '-'] ∧ digitsValue digits + k = 4294967296)

/-- The first field `enabled` is `1` as it stands; or some field contains `enabled=1` just when the
first field `enabled` is an encoded `1`. -/
def EnabledRead (body : CStr) : Prop :=
  firstRaw body (lit "enabled") = some (lit "1") ∨
    ((∃ seg ∈ segments body, lit "enabled=1" <:+: seg) ↔
      firstRaw body (lit "enabled") = some (lit "%31"))

/-- What follows the first `minutes=` in the body goes on with the numeral that the form asks for,
and with no numeral in the range if the form asks for none. -/
def MinutesRead (body : CStr) : Prop :=
  ∀ r, Search.FirstAt ((lit "minutes=").isPrefixOf ·) body (lit "minutes=" ++ r) →
    match firstRaw body (lit "minutes") with
    | none => ReadsAs r 60
    | some raw => ∀ k, 1 ≤ k → k ≤ 1440 →
      (ReadsAs r k ↔ numeral (Percent.decode formParseHexval raw) = some k)

/-! ### The flag -/

section Flag

theorem lookup_eq (body key : CStr) :
    lookup body key = (firstRaw body key).map (Percent.decode formParseHexval) := by
  rw [lookup, firstRaw, Option.map_map]
  rfl

theorem hexval_spec {c : UInt8} {v : ℕ} (h : formParseHexval c = some v) :
    v < 16 ∧ (v < 10 → c.toNat = 48 + v) := by
  unfold formParseHexval at h
  simp only [byte, UInt8.le_iff_toNat_le] at h
  split_ifs at h with hdigit hlower hupper
  all_goals
    cases h
    simp at *
    omega

theorem value_eq_one {x y : UInt8} :
    Percent.value formParseHexval x y = some (byte '1') ↔ x = byte '3' ∧ y = byte '1' := by
  constructor
  · intro h
    unfold Percent.value at h
    split at h
    · rename_i hi lo hx hy
      obtain ⟨hhi, hxval⟩ := hexval_spec hx
      obtain ⟨hlo, hyval⟩ := hexval_spec hy
      have hbyte := congrArg UInt8.toNat (Option.some.inj h)
      simp [byte] at hbyte
      have hthree : hi = 3 := by omega
      have hone : lo = 1 := by omega
      subst hthree hone
      exact ⟨UInt8.toNat_inj.1 (hxval (by decide)), UInt8.toNat_inj.1 (hyval (by decide))⟩
    · cases h
  · rintro ⟨rfl, rfl⟩
    decide

theorem plain_eq_one {c : UInt8} : Percent.plain c = byte '1' ↔ c = byte '1' := by
  unfold Percent.plain
  split_ifs with hplus
  · subst hplus
    decide
  · exact Iff.rfl

theorem decode_eq_nil {w : CStr} : Percent.decode formParseHexval w = [] ↔ w = [] := by
  match w with
  | [] | [_] | [_, _] => simp [Percent.decode]
  | c :: x :: y :: t =>
    rw [Percent.decode]
    split <;> simp

/-- There are two ways to write the value `1`. -/
theorem decode_eq_one {w : CStr} :
    Percent.decode formParseHexval w = lit "1" ↔ w = lit "1" ∨ w = lit "%31" := by
  have hone : lit "1" = [byte '1'] := rfl
  have hescaped : lit "%31" = [37, byte '3', byte '1'] := rfl
  rw [hone, hescaped]
  -- one byte comes of one byte as it stands, or of one escape with nothing behind it
  match w with
  | [] => simp [Percent.decode]
  | [c] => simp [Percent.decode, plain_eq_one]
  | [c, d] => simp [Percent.decode]
  | c :: x :: y :: t =>
    rw [Percent.decode]
    split
    · rename_i b hb
      have hpercent : c = 37 := by
        by_contra hc
        simp [hc] at hb
      rw [if_pos hpercent] at hb
      have hvalue : b = byte '1' ↔ x = byte '3' ∧ y = byte '1' := by
        rw [← value_eq_one, hb, Option.some.injEq]
      simp [decode_eq_nil, hpercent, hvalue, and_assoc]
    · rename_i hb
      have hno : ¬ (c = 37 ∧ x = byte '3' ∧ y = byte '1') := by
        rintro ⟨rfl, hxy⟩
        rw [if_pos rfl, value_eq_one.2 hxy] at hb
        cases hb
      simp only [List.cons.injEq, decode_eq_nil]
      simp
      tauto

/-- **The flag that a form asks for.** -/
theorem wantsEnabled_iff (body : CStr) :
    wantsEnabled body = true ↔
      firstRaw body (lit "enabled") = some (lit "1") ∨
        firstRaw body (lit "enabled") = some (lit "%31") := by
  rw [wantsEnabled, decide_eq_true_eq, formGetParam_eq (by decide) (by decide), lookup_eq]
  cases firstRaw body (lit "enabled") with
  | none => simp
  | some raw =>
    simp only [Option.map_some, Option.bind_some, fitting_eq_some, Option.some.injEq,
      ← decode_eq_one]
    constructor
    · exact fun h => h.2
    · intro h
      rw [h]
      decide

theorem prefix_upToAmp_iff {w : CStr} (hw : byte '&' ∉ w) (s : CStr) :
    w <+: upToAmp s ↔ w <+: s := by
  induction s generalizing w with
  | nil => rfl
  | cons c s ih =>
    cases w with
    | nil => simp
    | cons d w =>
      obtain ⟨hd, hrest⟩ := not_or.1 (List.mem_cons.not.1 hw)
      by_cases hc : c = byte '&'
      · have hne : d ≠ c := by
          rintro rfl
          exact hd hc.symm
        simp [upToAmp, hc, List.cons_prefix_cons, hc ▸ hne]
      · rw [upToAmp_cons hc, List.cons_prefix_cons, List.cons_prefix_cons, ih hrest]

/-- **What does not reach over an ampersand is found in a field.** -/
theorem infix_iff_segment {w : CStr} (hne : w ≠ []) (hw : byte '&' ∉ w) (body : CStr) :
    w <:+: body ↔ ∃ seg ∈ segments body, w <:+: seg := by
  induction body with
  | nil => simp [segments, hne]
  | cons c s ih =>
    obtain ⟨rest, hrest⟩ := segments_eq s
    rw [List.infix_cons_iff, ih, segments_cons]
    by_cases hc : c = byte '&'
    · -- the field that ends here is empty
      have hfront : ¬ w <+: c :: s := by
        rw [← prefix_upToAmp_iff hw]
        simp [upToAmp, hc, hne]
      simp [hc, hne, hc ▸ hfront]
    · have hfront : w <+: c :: s ↔ w <+: c :: upToAmp s := by
        rw [← upToAmp_cons hc, prefix_upToAmp_iff hw]
      simp only [hc, if_false, hrest, List.modifyHead_cons, List.exists_mem_cons_iff, hfront,
        List.infix_cons_iff]
      tauto

/-- **The flag that the handlers take.** -/
theorem strstr_enabled_iff (body : CStr) :
    (strstr body (lit "enabled=1")).isSome = true ↔
      ∃ seg ∈ segments body, lit "enabled=1" <:+: seg := by
  rw [strstr, Search.find_isSome_iff_infix, infix_iff_segment (by decide) (by decide)]

theorem segment_of_firstRaw {body key raw : CStr} (h : firstRaw body key = some raw) :
    key ++ byte '=' :: raw ∈ segments body := by
  obtain ⟨seg, hfind, hraw⟩ := Option.map_eq_some_iff.1 h
  obtain ⟨t, rfl⟩ := hasKey_iff.1 (List.find?_some hfind)
  rw [← List.drop_drop, List.drop_left] at hraw
  obtain rfl : t = raw := hraw
  exact List.mem_of_find?_eq_some hfind

theorem enabledRead_iff (body : CStr) :
    EnabledRead body ↔ (strstr body (lit "enabled=1")).isSome = wantsEnabled body := by
  rw [Bool.eq_iff_iff, strstr_enabled_iff, wantsEnabled_iff, EnabledRead]
  by_cases hone : firstRaw body (lit "enabled") = some (lit "1")
  · have hfound : ∃ seg ∈ segments body, lit "enabled=1" <:+: seg :=
      ⟨_, segment_of_firstRaw hone, List.infix_rfl⟩
    simp [hone, hfound]
  · simp only [hone, false_or]

end Flag

/-! ### The minutes -/

section Minutes

theorem isDigit_front {c : UInt8} (h : isDigit c = true) :
    isSpace c = false ∧ c ≠ byte '-' ∧ c ≠ byte '+' := by
  have hrange := Timezone.isDigit_range h
  refine ⟨?_, ?_, ?_⟩
  · simp only [isSpace, byte, decide_eq_false_iff_not, UInt8.le_iff_toNat_le]
    rintro (rfl | hblank)
    · simp at hrange
    · simp at hblank
      omega
  · rintro rfl
    simp [byte] at hrange
  · rintro rfl
    simp [byte] at hrange

theorem strtoul_blanks {blanks s : CStr} (hblanks : ∀ c ∈ blanks, isSpace c = true)
    (hs : Scan.Before isSpace s) : strtoul (blanks ++ s) = strtoul s := by
  have hs' : s.dropWhile isSpace = s := hs.dropWhile_append (w := []) (by simp)
  simp only [strtoul, hs.dropWhile_append hblanks, hs']

/-- What `strtoul` makes of digits. -/
def clamped (negative : Bool) (value : ℕ) : ℕ :=
  if 4294967296 ≤ value then 4294967295
  else if negative then (4294967296 - value) % 4294967296
  else value

theorem strtoul_minus {digits rest : CStr} (hdigits : ∀ c ∈ digits, isDigit c = true)
    (hrest : Scan.Before isDigit rest) :
    strtoul (byte '-' :: (digits ++ rest)) = clamped true (digitsValue digits) := by
  have hspace : isSpace (byte '-') = false := by decide
  simp [strtoul, clamped, hspace, peek, hrest.takeWhile_append hdigits]

theorem strtoul_plus {digits rest : CStr} (hdigits : ∀ c ∈ digits, isDigit c = true)
    (hrest : Scan.Before isDigit rest) :
    strtoul (byte '+' :: (digits ++ rest)) = clamped false (digitsValue digits) := by
  have hspace : isSpace (byte '+') = false := by decide
  have hminus : byte '+' ≠ byte '-' := by decide
  simp [strtoul, clamped, hspace, hminus, peek, hrest.takeWhile_append hdigits]

theorem strtoul_digits {d : UInt8} {digits rest : CStr}
    (hdigits : ∀ c ∈ d :: digits, isDigit c = true) (hrest : Scan.Before isDigit rest) :
    strtoul (d :: digits ++ rest) = clamped false (digitsValue (d :: digits)) := by
  obtain ⟨hspace, hminus, hplus⟩ := isDigit_front (hdigits d List.mem_cons_self)
  have htake := hrest.takeWhile_append hdigits
  rw [List.cons_append] at htake ⊢
  simp [strtoul, clamped, hspace, hminus, hplus, peek, htake]

theorem strtoul_other {s : CStr} (hspace : Scan.Before isSpace s) (hdigit : Scan.Before isDigit s)
    (hminus : Scan.Before (· = byte '-') s) (hplus : Scan.Before (· = byte '+') s) :
    strtoul s = clamped false (digitsValue []) := by
  cases s with
  | nil => decide
  | cons c s =>
    rw [Scan.before_cons] at hspace hdigit hminus hplus
    rw [decide_eq_false_iff_not] at hminus hplus
    simp [strtoul, clamped, hspace, hminus, hplus, peek, hdigit]

theorem digits_split (s : CStr) :
    ∃ digits rest, s = digits ++ rest ∧ (∀ c ∈ digits, isDigit c = true) ∧
      Scan.Before isDigit rest :=
  ⟨s.takeWhile isDigit, s.dropWhile isDigit, List.takeWhile_append_dropWhile.symm,
    fun _ hc => List.mem_takeWhile_imp hc, Scan.before_dropWhile isDigit s⟩

/-- How `strtoul` takes a text apart, and what it makes of it. -/
theorem strtoul_split (s : CStr) :
    ∃ blanks sign digits rest, s = blanks ++ (sign ++ (digits ++ rest)) ∧
      (∀ c ∈ blanks, isSpace c = true) ∧ (∀ c ∈ digits, isDigit c = true) ∧
      Scan.Before isDigit rest ∧
      ((sign = [] ∨ sign = [byte '+']) ∧ strtoul s = clamped false (digitsValue digits) ∨
        sign = [byte '-'] ∧ strtoul s = clamped true (digitsValue digits)) := by
  have hspace := Scan.before_dropWhile isSpace s
  have hblanks : ∀ c ∈ s.takeWhile isSpace, isSpace c = true :=
    fun _ hc => List.mem_takeWhile_imp hc
  rw [← List.takeWhile_append_dropWhile (p := isSpace) (l := s), strtoul_blanks hblanks hspace]
  -- behind the blanks there is a sign, a digit, or something that ends the numeral at once
  generalize s.dropWhile isSpace = t at *
  cases t with
  | nil => exact ⟨_, [], [], [], rfl, hblanks, by simp, by simp, .inl ⟨.inl rfl, by decide⟩⟩
  | cons c t =>
    by_cases hminus : c = byte '-'
    · obtain ⟨digits, rest, rfl, hdigits, hrest⟩ := digits_split t
      exact ⟨_, [c], digits, rest, rfl, hblanks, hdigits, hrest,
        .inr ⟨by rw [hminus], by rw [hminus, strtoul_minus hdigits hrest]⟩⟩
    by_cases hplus : c = byte '+'
    · obtain ⟨digits, rest, rfl, hdigits, hrest⟩ := digits_split t
      exact ⟨_, [c], digits, rest, rfl, hblanks, hdigits, hrest,
        .inl ⟨.inr (by rw [hplus]), by rw [hplus, strtoul_plus hdigits hrest]⟩⟩
    cases hdigit : isDigit c with
    | true =>
      obtain ⟨digits, rest, rfl, hdigits, hrest⟩ := digits_split t
      have hall : ∀ d ∈ c :: digits, isDigit d = true :=
        List.forall_mem_cons.2 ⟨hdigit, hdigits⟩
      exact ⟨_, [], c :: digits, rest, rfl, hblanks, hall, hrest,
        .inl ⟨.inl rfl, strtoul_digits hall hrest⟩⟩
    | false =>
      have hrest : Scan.Before isDigit (c :: t) := Scan.before_cons.2 hdigit
      exact ⟨_, [], [], c :: t, rfl, hblanks, by simp, hrest,
        .inl ⟨.inl rfl, strtoul_other hspace hrest (by simp [hminus]) (by simp [hplus])⟩⟩

variable {k : ℕ}

theorem clamped_eq_iff (hpos : 1 ≤ k) (hle : k ≤ 1440) (value : ℕ) :
    (clamped false value = k ↔ value = k) ∧
      (clamped true value = k ↔ value + k = 4294967296) := by
  simp only [clamped, Bool.false_eq_true, if_false, if_true]
  constructor
  · split_ifs <;> omega
  · split_ifs with hlarge
    · omega
    · obtain rfl | hpositive := Nat.eq_zero_or_pos value
      · omega
      · rw [Nat.mod_eq_of_lt (by omega)]
        omega

theorem digits_ne_nil {digits : CStr} (hpos : 1 ≤ k) (hle : k ≤ 1440)
    (h : digitsValue digits = k ∨ digitsValue digits + k = 4294967296) : digits ≠ [] := by
  rintro rfl
  rw [show digitsValue [] = 0 from rfl] at h
  omega

/-- **What `strtoul` reads as a number of minutes.** -/
theorem strtoul_eq_iff (hpos : 1 ≤ k) (hle : k ≤ 1440) (s : CStr) :
    strtoul s = k ↔ ReadsAs s k := by
  constructor
  · intro h
    obtain ⟨blanks, sign, digits, rest, hs, hblanks, hdigits, hrest, hcase⟩ := strtoul_split s
    refine ⟨blanks, sign, digits, rest, hs, hblanks, hdigits, hrest, ?_⟩
    obtain ⟨hplus, hminus⟩ := clamped_eq_iff hpos hle (digitsValue digits)
    rcases hcase with ⟨hsign, hvalue⟩ | ⟨hsign, hvalue⟩
    · exact .inl ⟨hsign, hplus.1 (hvalue ▸ h)⟩
    · exact .inr ⟨hsign, hminus.1 (hvalue ▸ h)⟩
  · rintro ⟨blanks, sign, digits, rest, rfl, hblanks, hdigits, hrest, hcase⟩
    obtain ⟨hplus, hminus⟩ := clamped_eq_iff hpos hle (digitsValue digits)
    rcases hcase with ⟨rfl | rfl, hvalue⟩ | ⟨rfl, hvalue⟩
    · have hne := digits_ne_nil hpos hle (.inl hvalue)
      obtain ⟨d, ds, rfl⟩ := List.exists_cons_of_ne_nil hne
      have hfront : Scan.Before isSpace (d :: ds ++ rest) :=
        Scan.before_cons.2 (isDigit_front (hdigits d List.mem_cons_self)).1
      exact (strtoul_blanks hblanks hfront).trans
        ((strtoul_digits hdigits hrest).trans (hplus.2 hvalue))
    · have hfront : Scan.Before isSpace (byte '+' :: (digits ++ rest)) :=
        Scan.before_cons.2 (by decide)
      exact (strtoul_blanks hblanks hfront).trans
        ((strtoul_plus hdigits hrest).trans (hplus.2 hvalue))
    · have hfront : Scan.Before isSpace (byte '-' :: (digits ++ rest)) :=
        Scan.before_cons.2 (by decide)
      exact (strtoul_blanks hblanks hfront).trans
        ((strtoul_minus hdigits hrest).trans (hminus.2 hvalue))

theorem wantsMinutes_eq_some_iff {body : CStr} :
    wantsMinutes body = some k ↔
      match firstRaw body (lit "minutes") with
      | none => k = 60
      | some raw => numeral (Percent.decode formParseHexval raw) = some k ∧ 1 ≤ k ∧ k ≤ 1440 := by
  rw [wantsMinutes, lookup_eq]
  cases firstRaw body (lit "minutes") with
  | none => simp [eq_comm]
  | some raw => simp [Option.filter_eq_some_iff]

theorem wantsMinutes_range {body : CStr} (h : wantsMinutes body = some k) : 1 ≤ k ∧ k ≤ 1440 := by
  rw [wantsMinutes_eq_some_iff] at h
  split at h
  · omega
  · exact h.2

/-- A body with a parameter `minutes` mentions `minutes=`. -/
theorem firstRaw_of_not_found {body : CStr} (h : strstr body (lit "minutes=") = none) :
    firstRaw body (lit "minutes") = none := by
  cases hraw : firstRaw body (lit "minutes") with
  | none => rfl
  | some raw =>
    have hinfix : lit "minutes=" <:+: body :=
      (infix_iff_segment (by decide) (by decide) body).2
        ⟨_, segment_of_firstRaw hraw, (List.prefix_append (lit "minutes=") raw).isInfix⟩
    rw [← Search.find_isSome_iff_infix] at hinfix
    rw [strstr] at h
    simp [h] at hinfix

/-- What the handler reads, behind the first `minutes=`. -/
theorem formMinutes_of_firstAt {body r : CStr}
    (h : Search.FirstAt ((lit "minutes=").isPrefixOf ·) body (lit "minutes=" ++ r)) :
    formMinutes body = strtoul r := by
  have hfind : strstr body (lit "minutes=") = some (lit "minutes=" ++ r) :=
    Search.find_eq_some_iff.2 h
  rw [formMinutes, hfind]
  exact congrArg strtoul List.drop_left

/-- The handler reads the minutes that the form asks for, and none of the others, just when the
condition holds. -/
theorem minutesRead_iff (body : CStr) :
    MinutesRead body ↔
      ∀ k, 1 ≤ k → k ≤ 1440 → (formMinutes body = k ↔ wantsMinutes body = some k) := by
  cases hfind : strstr body (lit "minutes=") with
  | none =>
    -- no mention, so no parameter either, and both sides take the default
    have hraw := firstRaw_of_not_found hfind
    constructor
    · intro _ k _ _
      rw [formMinutes, hfind, wantsMinutes_eq_some_iff, hraw]
      exact eq_comm
    · intro _ r hr
      rw [strstr, Search.find_eq_some_iff.2 hr] at hfind
      cases hfind
  | some m =>
    have hm := Search.firstAt_of_find hfind
    obtain ⟨r, rfl⟩ := List.isPrefixOf_iff_prefix.1 hm.test
    -- there is one first mention, so the condition is about this `r`
    have hunique : ∀ r', Search.FirstAt ((lit "minutes=").isPrefixOf ·) body
        (lit "minutes=" ++ r') → r' = r := fun r' hr' => List.append_cancel_left (hr'.eq hm)
    rw [formMinutes_of_firstAt hm]
    simp only [wantsMinutes_eq_some_iff]
    cases hraw : firstRaw body (lit "minutes") with
    | none =>
      simp only [MinutesRead, hraw]
      constructor
      · intro h k _ _
        rw [(strtoul_eq_iff (by decide) (by decide) r).2 (h r hm)]
        exact eq_comm
      · intro h r' hr'
        rw [hunique r' hr']
        exact (strtoul_eq_iff (by decide) (by decide) r).1 ((h 60 (by decide) (by decide)).2 rfl)
    | some raw =>
      simp only [MinutesRead, hraw]
      constructor
      · intro h k hpos hle
        rw [strtoul_eq_iff hpos hle, h r hm k hpos hle]
        simp [hpos, hle]
      · intro h r' hr' k hpos hle
        rw [hunique r' hr', ← strtoul_eq_iff hpos hle, h k hpos hle]
        simp [hpos, hle]

end Minutes

/-! ### The handlers -/

section Handlers

variable {s : Firmware} {n : Nvs} {req : FormRequest} {body : CStr}

theorem preCloseBuzzerPostHandler_of_read (hread : readForm 32 "Bad body length" req = .ok body)
    (write : NvsWrite) :
    preCloseBuzzerPostHandler s n true req write =
      saveBuzzer s n (strstr body (lit "enabled=1")).isSome write := by
  simp [preCloseBuzzerPostHandler, hread, saveBuzzer]

theorem autoCloseSettingsPostHandler_of_read
    (hread : readForm 64 "Bad request body" req = .ok body) (timeoutWrite enabledWrite : NvsWrite) :
    autoCloseSettingsPostHandler s n true req timeoutWrite enabledWrite =
      if formMinutes body = 0 ∨ 1440 < formMinutes body then
        (s, n, .error 400 "Minutes must be between 1 and 1440")
      else
        saveAutoClose s n (strstr body (lit "enabled=1")).isSome (formMinutes body) timeoutWrite
          enabledWrite := by
  by_cases hrange : formMinutes body = 0 ∨ 1440 < formMinutes body
  · simp [autoCloseSettingsPostHandler, autoCloseForm, hread, hrange]
  · simp [autoCloseSettingsPostHandler, autoCloseForm, hread, hrange, saveAutoClose]

/-- **What is saved is in force and stored.** -/
theorem saveBuzzer_spec (enabled : Bool) {write : NvsWrite} (hwrite : write.err = .ok) :
    (saveBuzzer s n enabled write).1.buzzerEnabled = enabled ∧
      (saveBuzzer s n enabled write).2.1.warnBuzzer = some enabled.toNat ∧
      (saveBuzzer s n enabled write).2.2 = .text "OK" := by
  simp [saveBuzzer, gdoSetPreCloseBuzzer, saveSetting, hwrite, write.stores_of_err hwrite]

/-- **What is saved is in force and stored.** -/
theorem saveAutoClose_spec (enabled : Bool) (minutes : ℕ) (hpos : 1 ≤ minutes)
    (hle : minutes ≤ 1440) {timeoutWrite enabledWrite : NvsWrite}
    (htimeout : timeoutWrite.err = .ok) (henabled : enabledWrite.err = .ok) :
    let r := saveAutoClose s n enabled minutes timeoutWrite enabledWrite
    r.1.autoCloseTimeoutMs = minutes * 60000 ∧ r.1.autoCloseEnabled = enabled ∧
      r.2.1.autoCloseMs = some (minutes * 60000) ∧ r.2.1.autoCloseEn = some enabled.toNat ∧
      r.2.2 = .text "OK" := by
  have hrange : TimeoutInRange (minutes * 60000) := by
    constructor <;> omega
  simp [saveAutoClose, gdoSetAutoCloseTimeoutMs_of_inRange hrange, htimeout,
    gdoSetAutoCloseEnabled, saveSetting, henabled, enabledWrite.stores_of_err henabled,
    Firmware.bump]

theorem buzzerAsAsked_iff (hread : readForm 32 "Bad body length" req = .ok body) :
    BuzzerAsAsked s n req body ↔
      (strstr body (lit "enabled=1")).isSome = wantsEnabled body := by
  simp only [BuzzerAsAsked, preCloseBuzzerPostHandler_of_read hread]
  constructor
  · intro h
    have hcode := saveBuzzer_spec (s := s) (n := n) (strstr body (lit "enabled=1")).isSome
      (show ({} : NvsWrite).err = .ok by decide)
    have hasked := saveBuzzer_spec (s := s) (n := n) (wantsEnabled body)
      (show ({} : NvsWrite).err = .ok by decide)
    rw [h {}] at hcode
    exact hcode.1.symm.trans hasked.1
  · intro h write
    rw [h]

theorem refuses_iff (hread : readForm 64 "Bad request body" req = .ok body) :
    (∀ timeoutWrite enabledWrite,
      autoCloseSettingsPostHandler s n true req timeoutWrite enabledWrite =
        (s, n, .error 400 "Minutes must be between 1 and 1440")) ↔
    formMinutes body = 0 ∨ 1440 < formMinutes body := by
  have hok : ({} : NvsWrite).err = .ok := by decide
  simp only [autoCloseSettingsPostHandler_of_read hread]
  constructor
  · intro h
    by_contra hin
    -- a save that succeeds is not answered with an error
    have hcode := h {} {}
    rw [if_neg hin] at hcode
    have hreply := (saveAutoClose_spec (s := s) (n := n) (strstr body (lit "enabled=1")).isSome
      (formMinutes body) (by omega) (by omega) hok hok).2.2.2.2
    rw [hcode] at hreply
    cases hreply
  · intro hout _ _
    rw [if_pos hout]

theorem saves_iff (hread : readForm 64 "Bad request body" req = .ok body) {enabled : Bool}
    {minutes : ℕ} (hpos : 1 ≤ minutes) (hle : minutes ≤ 1440) :
    (∀ timeoutWrite enabledWrite,
      autoCloseSettingsPostHandler s n true req timeoutWrite enabledWrite =
        saveAutoClose s n enabled minutes timeoutWrite enabledWrite) ↔
    formMinutes body = minutes ∧ (strstr body (lit "enabled=1")).isSome = enabled := by
  have hok : ({} : NvsWrite).err = .ok := by decide
  simp only [autoCloseSettingsPostHandler_of_read hread]
  constructor
  · intro h
    -- two saves that succeed leave the same behind only if they are given the same
    have hcode := h {} {}
    have hasked := saveAutoClose_spec (s := s) (n := n) enabled minutes hpos hle hok hok
    rw [← hcode] at hasked
    split_ifs at hasked with hout
    · cases hasked.2.2.2.2
    · have htaken := saveAutoClose_spec (s := s) (n := n) (strstr body (lit "enabled=1")).isSome
        (formMinutes body) (by omega) (by omega) hok hok
      have hms := htaken.1.symm.trans hasked.1
      exact ⟨by omega, htaken.2.1.symm.trans hasked.2.1⟩
  · rintro ⟨hminutes, hflag⟩ _ _
    rw [if_neg (by omega), hminutes, hflag]

/-- The auto-close page does what is asked just when it takes the minutes that the form asks for,
and for a form that asks for some, the flag too. -/
theorem autoCloseAsAsked_iff (hread : readForm 64 "Bad request body" req = .ok body) :
    AutoCloseAsAsked s n req body ↔
      (∀ k, 1 ≤ k → k ≤ 1440 → (formMinutes body = k ↔ wantsMinutes body = some k)) ∧
        (wantsMinutes body ≠ none →
          (strstr body (lit "enabled=1")).isSome = wantsEnabled body) := by
  cases hwants : wantsMinutes body with
  | none =>
    constructor
    · intro h
      have hout := (refuses_iff hread).1 (h.refused hwants)
      refine ⟨fun k hpos hle => ⟨by omega, ?_⟩, fun h => absurd rfl h⟩
      rintro ⟨⟩
    · rintro ⟨hminutes, -⟩
      have hout : formMinutes body = 0 ∨ 1440 < formMinutes body := by
        by_contra hin
        cases (hminutes (formMinutes body) (by omega) (by omega)).1 rfl
      refine ⟨fun _ => (refuses_iff hread).2 hout, fun minutes hsome => ?_⟩
      rw [hwants] at hsome
      cases hsome
  | some minutes =>
    obtain ⟨hpos, hle⟩ := wantsMinutes_range hwants
    constructor
    · intro h
      obtain ⟨hminutes, hflag⟩ := (saves_iff hread hpos hle).1 (h.saved minutes hwants)
      refine ⟨fun k _ _ => ?_, fun _ => hflag⟩
      rw [hminutes, Option.some.injEq]
    · rintro ⟨hminutes, hflag⟩
      have htaken := (saves_iff (s := s) (n := n) hread hpos hle).2
        ⟨(hminutes minutes hpos hle).2 rfl, hflag (Option.some_ne_none minutes)⟩
      refine ⟨fun hnone => ?_, fun minutes' hsome => ?_⟩
      · rw [hwants] at hnone
        cases hnone
      · obtain rfl : minutes = minutes' := Option.some.inj (hwants.symm.trans hsome)
        exact htaken

/-- **The two pages do what a form asks for just when they happen to read it so.**  The buzzer page
takes the right flag if and only if `EnabledRead` holds of the body; the auto-close page accepts and
saves what it should if and only if `MinutesRead` does, and, where the minutes are accepted,
`EnabledRead` too. -/
theorem settingsForms_iff (s : Firmware) (n : Nvs) (req : FormRequest) (body : CStr) :
    (readForm 32 "Bad body length" req = .ok body →
      (BuzzerAsAsked s n req body ↔ EnabledRead body)) ∧
    (readForm 64 "Bad request body" req = .ok body →
      (AutoCloseAsAsked s n req body ↔
        MinutesRead body ∧ (wantsMinutes body ≠ none → EnabledRead body))) := by
  constructor
  · intro hread
    rw [buzzerAsAsked_iff hread, enabledRead_iff]
  · intro hread
    rw [autoCloseAsAsked_iff hread, minutesRead_iff, enabledRead_iff]

/-- The body as the page writes it. -/
def pageBody : CStr := lit "enabled=1&minutes=45"

/-- A request with the body, received in one piece. -/
def formRequest (body : CStr) : FormRequest := ⟨BitVec.ofNat 32 body.length, [body]⟩

/-- A form as the page writes it is read as it should be. -/
theorem settingsForms_page :
    BuzzerAsAsked {} {} (formRequest pageBody) pageBody ∧
      AutoCloseAsAsked {} {} (formRequest pageBody) pageBody := by
  have hflag : EnabledRead pageBody := .inl (by decide +kernel)
  have hminutes : MinutesRead pageBody := by
    have hread : formMinutes pageBody = 45 := by decide +kernel
    have hwants : wantsMinutes pageBody = some 45 := by decide +kernel
    refine (minutesRead_iff pageBody).2 fun k _ _ => ?_
    rw [hread, hwants, Option.some.injEq]
  obtain ⟨hbuzzer, hauto⟩ := settingsForms_iff {} {} (formRequest pageBody) pageBody
  exact ⟨(hbuzzer (by decide +kernel)).2 hflag,
    (hauto (by decide +kernel)).2 ⟨hminutes, fun _ => hflag⟩⟩

/-- A form that turns a setting off, with one more parameter. -/
def strayFlag : CStr := lit "enabled=0&auto_enabled=1"

/-- A form with 1,440 for the minutes, as a browser encodes it. -/
def strayMinutes : CStr := lit "enabled=1&minutes=1%2C440"

/-- **Forms that are misread.**  The name of another parameter ends in `enabled`, and a form that
turns the buzzer and auto-close off turns them on.  The minutes are no numeral, and the door is to
close after one minute. -/
theorem stray_forms :
    (wantsEnabled strayFlag = false ∧
      (preCloseBuzzerPostHandler {} {} true (formRequest strayFlag) {}).2.1.warnBuzzer = some 1 ∧
      ¬ BuzzerAsAsked {} {} (formRequest strayFlag) strayFlag ∧
      (autoCloseSettingsPostHandler {} {} true (formRequest strayFlag) {} {}).2.1.autoCloseEn =
        some 1 ∧
      ¬ AutoCloseAsAsked {} {} (formRequest strayFlag) strayFlag) ∧
    (wantsMinutes strayMinutes = none ∧
      (autoCloseSettingsPostHandler {} {} true (formRequest strayMinutes) {} {}).2.1.autoCloseMs =
        some 60000 ∧
      ¬ AutoCloseAsAsked {} {} (formRequest strayMinutes) strayMinutes) := by
  have hshort : readForm 32 "Bad body length" (formRequest strayFlag) = .ok strayFlag := by
    decide +kernel
  have hflag : readForm 64 "Bad request body" (formRequest strayFlag) = .ok strayFlag := by
    decide +kernel
  have hminutes : readForm 64 "Bad request body" (formRequest strayMinutes) = .ok strayMinutes := by
    decide +kernel
  have hoff : wantsEnabled strayFlag = false := by decide +kernel
  have hfound : (strstr strayFlag (lit "enabled=1")).isSome = true := by decide +kernel
  have hsixty : formMinutes strayFlag = 60 ∧ wantsMinutes strayFlag = some 60 := by decide +kernel
  have hone : formMinutes strayMinutes = 1 ∧ wantsMinutes strayMinutes = none := by decide +kernel
  have hok : ({} : NvsWrite).err = .ok := by decide
  refine ⟨⟨hoff, ?_, ?_, ?_, ?_⟩, hone.2, ?_, ?_⟩
  · rw [preCloseBuzzerPostHandler_of_read hshort, hfound]
    exact (saveBuzzer_spec true hok).2.1
  · rw [buzzerAsAsked_iff hshort, hfound, hoff]
    decide
  · rw [autoCloseSettingsPostHandler_of_read hflag, hfound, hsixty.1, if_neg (by decide)]
    exact (saveAutoClose_spec true 60 (by decide) (by decide) hok hok).2.2.2.1
  · rw [autoCloseAsAsked_iff hflag, hfound, hoff, hsixty.2]
    rintro ⟨-, hsame⟩
    exact absurd (hsame (Option.some_ne_none 60)) (by decide)
  · rw [autoCloseSettingsPostHandler_of_read hminutes, hone.1, if_neg (by decide)]
    exact (saveAutoClose_spec _ 1 (by decide) (by decide) hok hok).2.2.1
  · rw [autoCloseAsAsked_iff hminutes, hone.1, hone.2]
    rintro ⟨hsame, -⟩
    exact absurd ((hsame 1 (by decide) (by decide)).1 rfl) (Option.some_ne_none 1).symm

end Handlers

end SettingsForms

end GdoBlaq
