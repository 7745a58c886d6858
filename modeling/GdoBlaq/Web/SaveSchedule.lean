import GdoBlaq.Web.FormLookup
import GdoBlaq.Web.SettingsPages
import Mathlib.Data.List.GetD
import Mathlib.Data.List.TakeWhile

/-!
# Saving a schedule from the dashboard

The page writes the schedule as a form with `encodeURIComponent`, and shows the one of `/status`,
whose time is printed as `%02u:%02u`.

## Main results

* `saveSchedule_roundtrip` : what the page writes for a valid schedule fits the handler's buffer,
  and is read back and saved as that schedule.
-/

namespace GdoBlaq

open FormLookup

/-! ### The page -/

/-- The characters that `encodeURIComponent` keeps besides letters and digits. -/
def uriMarks : CStr :=
  [byte '-', byte '_', byte '.', byte '!', byte '~', byte '*', 39, byte '(', byte ')']

/-- An upper-case hexadecimal digit. -/
def hexDigit (n : ℕ) : UInt8 := if n < 10 then (48 + n).toUInt8 else (55 + n).toUInt8

/-- `encodeURIComponent` on the bytes of a string. -/
def encodeURIComponent : Percent.Coding formParseHexval where
  escapes c := !(isAlnum c || uriMarks.contains c)
  digit := hexDigit
  hex_digit := by decide
  percent := by decide
  plus := by decide

/-- The page's forms: its keys are letters, which `encodeURIComponent` would not change. -/
def pageForm : FormCoding where
  key := encodeURIComponent
  value := encodeURIComponent
  key_amp := by decide
  key_eq := by decide
  key_alnum c hc := by simp [encodeURIComponent, hc]
  value_amp := by decide

/-- The body that `saveSchedule` posts. -/
def saveScheduleBody (enabled : Bool) (time tz : CStr) : CStr :=
  lit "enabled=" ++ lit (if enabled then "1" else "0") ++
    lit "&time=" ++ encodeURIComponent.encode time ++
    lit "&tz=" ++ encodeURIComponent.encode tz

/-- `%02u` -/
def fmt02u (n : ℕ) : CStr :=
  let digits := (Nat.toDigits 10 n).map byte
  List.replicate (2 - digits.length) (byte '0') ++ digits

/-- `close_schedule_time` of `/status`, `%02u:%02u`. -/
def closeScheduleTime (minute : ℕ) : CStr :=
  fmt02u (minute / 60) ++ byte ':' :: fmt02u (minute % 60)

/-! ### Reading it back -/

section

variable {minute : ℕ} {tz : CStr}

theorem fmt02u_eq {n : ℕ} (hn : n < 60) :
    fmt02u n = [(48 + n / 10).toUInt8, (48 + n % 10).toUInt8] := by
  revert n
  decide +kernel

theorem fmt02u_digits {n : ℕ} (hn : n < 60) :
    isDigit (48 + n / 10).toUInt8 = true ∧ isDigit (48 + n % 10).toUInt8 = true ∧
      digitsValue [(48 + n / 10).toUInt8, (48 + n % 10).toUInt8] = n := by
  revert n
  decide +kernel

theorem parseHhmm_closeScheduleTime (hminute : minute < 1440) :
    closeScheduleParseHhmm (closeScheduleTime minute) = some minute := by
  have hh : minute / 60 < 24 := by omega
  have hm : minute % 60 < 60 := Nat.mod_lt _ (by decide)
  obtain ⟨hh₁, hh₀, hhours⟩ := fmt02u_digits (hh.trans (by decide))
  obtain ⟨hm₁, hm₀, hminutes⟩ := fmt02u_digits hm
  rw [closeScheduleTime, fmt02u_eq (hh.trans (by decide)), fmt02u_eq hm]
  simp only [List.cons_append, List.nil_append, closeScheduleParseHhmm, hh₁, hh₀, hm₁, hm₀,
    hhours, hminutes]
  simp only [ne_eq, not_true, if_false, Bool.not_true, Bool.or_self, Bool.false_eq_true]
  rw [if_neg (by omega), Nat.div_add_mod']

theorem closeScheduleTime_fits (hminute : minute < 1440) :
    (closeScheduleTime minute).length = 5 ∧ 0 ∉ closeScheduleTime minute := by
  have hh : minute / 60 < 60 := by omega
  have hm : minute % 60 < 60 := Nat.mod_lt _ (by decide)
  obtain ⟨hh₁, hh₀, -⟩ := fmt02u_digits hh
  obtain ⟨hm₁, hm₀, -⟩ := fmt02u_digits hm
  have hne {c : UInt8} (hc : isDigit c = true) : 0 ≠ c := by
    rintro rfl
    exact absurd hc (by decide)
  rw [closeScheduleTime, fmt02u_eq hh, fmt02u_eq hm]
  refine ⟨rfl, ?_⟩
  simp only [List.cons_append, List.nil_append, List.mem_cons, List.not_mem_nil, not_or, or_false]
  exact ⟨hne hh₁, hne hh₀, by decide, hne hm₁, hne hm₀⟩

theorem saveScheduleBody_eq (enabled : Bool) (time tz : CStr) :
    saveScheduleBody enabled time tz =
      pageForm.body [(lit "enabled", lit (if enabled then "1" else "0")), (lit "time", time),
        (lit "tz", tz)] := by
  have hflag : encodeURIComponent.encode (lit (if enabled then "1" else "0")) =
      lit (if enabled then "1" else "0") := by
    cases enabled <;> decide
  have hkeys : encodeURIComponent.encode (lit "enabled") = lit "enabled" ∧
      encodeURIComponent.encode (lit "time") = lit "time" ∧
      encodeURIComponent.encode (lit "tz") = lit "tz" := by decide
  simp only [FormCoding.body, List.map_cons, List.map_nil, FormCoding.field, pageForm, hkeys, hflag,
    saveScheduleBody, List.intercalate_cons_cons, List.intercalate_singleton]
  have hlits : lit "enabled=" = lit "enabled" ++ [byte '='] ∧
      lit "&time=" = byte '&' :: lit "time" ++ [byte '='] ∧
      lit "&tz=" = byte '&' :: lit "tz" ++ [byte '='] := by decide
  simp only [hlits, List.append_assoc, List.cons_append, List.nil_append]

theorem saveScheduleBody_length (enabled : Bool) (hminute : minute < 1440)
    (htz : tz.length ≤ 63) :
    (saveScheduleBody enabled (closeScheduleTime minute) tz).length < 256 := by
  have htime := encodeURIComponent.length_encode_le (closeScheduleTime minute)
  have hzone := encodeURIComponent.length_encode_le tz
  rw [(closeScheduleTime_fits hminute).1] at htime
  have hlits : (lit "enabled=").length = 8 ∧ (lit (if enabled then "1" else "0")).length = 1 ∧
      (lit "&time=").length = 6 ∧ (lit "&tz=").length = 4 := by
    cases enabled <;> decide
  simp only [saveScheduleBody, List.length_append, hlits]
  omega

theorem saveScheduleBody_pos (enabled : Bool) (time tz : CStr) :
    0 < (saveScheduleBody enabled time tz).length := by
  simp only [saveScheduleBody, List.length_append, show (lit "enabled=").length = 8 by decide]
  omega

theorem nul_not_mem_saveScheduleBody (enabled : Bool) (hminute : minute < 1440) (hnul : 0 ∉ tz) :
    0 ∉ saveScheduleBody enabled (closeScheduleTime minute) tz := by
  rw [saveScheduleBody_eq]
  refine pageForm.nul_not_mem_body ?_
  have hkeys : 0 ∉ lit "enabled" ∧ 0 ∉ lit "time" ∧ 0 ∉ lit "tz" := by decide
  have hflag : 0 ∉ lit (if enabled then "1" else "0") := by cases enabled <;> decide
  simp [hkeys, hflag, (closeScheduleTime_fits hminute).2, hnul]

theorem saveScheduleBody_param (enabled : Bool) (time tz : CStr) {key : CStr} {v : CStr} {n : ℕ}
    (hkey : ∀ c ∈ key, isAlnum c = true) (hfind :
      ([(lit "enabled", lit (if enabled then "1" else "0")), (lit "time", time),
        (lit "tz", tz)].find? (·.1 = key)).map Prod.snd = some v) (hv : 0 ∉ v)
    (hlen : v.length < n) : formGetParam (saveScheduleBody enabled time tz) key n = some v := by
  have hamp : byte '&' ∉ key := fun h => absurd (hkey _ h) (by decide)
  rw [saveScheduleBody_eq, formGetParam_eq hamp (by omega), pageForm.lookup_body hkey, hfind]
  exact if_pos ⟨hv, hlen⟩

theorem charArray_eq_strcpy (n : ℕ) (s : CStr) : charArray n s = strcpy (charArray n []) s := by
  refine Vector.ext ?_
  intro i hi
  simp only [charArray, strcpy, Vector.getElem_ofFn, Fin.getElem_fin, List.getD_nil]
  split_ifs with hlt heq
  · rfl
  · exact List.getD_eq_default _ _ (by omega)
  · exact List.getD_eq_default _ _ (by omega)

theorem entered_wellFormed (enabled : Bool) (hminute : minute < 1440) (hnul : 0 ∉ tz)
    (htz : closeScheduleTzValid tz = true) :
    cstr (charArray 64 tz) = tz ∧
      (⟨enabled, minute, charArray 64 tz⟩ : CloseSchedule).wellFormed = true := by
  obtain ⟨hcstr, hend⟩ := cstr_strcpy (charArray 64 []) htz hnul
  rw [← charArray_eq_strcpy] at hcstr hend
  exact ⟨hcstr, by simp [CloseSchedule.wellFormed, hminute, hend, hcstr, htz]⟩

theorem parseForm_saveScheduleBody (enabled : Bool) (hminute : minute < 1440) (hnul : 0 ∉ tz)
    (htz : closeScheduleTzValid tz = true) :
    closeScheduleParseForm (saveScheduleBody enabled (closeScheduleTime minute) tz) =
      .ok ⟨enabled, minute, charArray 64 tz⟩ := by
  have hlen := length_of_closeScheduleTzValid htz
  have hflag : formGetParam (saveScheduleBody enabled (closeScheduleTime minute) tz)
      (lit "enabled") 4 = some (lit (if enabled then "1" else "0")) :=
    saveScheduleBody_param enabled _ tz (List.all_eq_true.1 (by decide)) (by simp)
      (by cases enabled <;> decide)
      (by cases enabled <;> decide)
  have htime : formGetParam (saveScheduleBody enabled (closeScheduleTime minute) tz)
      (lit "time") 8 = some (closeScheduleTime minute) := by
    obtain ⟨hfive, hclean⟩ := closeScheduleTime_fits hminute
    exact saveScheduleBody_param enabled _ tz (List.all_eq_true.1 (by decide))
      (by simp [show lit "enabled" ≠ lit "time" by decide]) hclean (by omega)
  have hzone : formGetParam (saveScheduleBody enabled (closeScheduleTime minute) tz)
      (lit "tz") 64 = some tz :=
    saveScheduleBody_param enabled _ tz (List.all_eq_true.1 (by decide))
      (by simp [show lit "enabled" ≠ lit "tz" by decide, show lit "time" ≠ lit "tz" by decide])
      hnul (by omega)
  rw [closeScheduleParseForm, hflag, htime, hzone, Option.bind_some,
    parseHhmm_closeScheduleTime hminute]
  simp only [htz, if_true]
  cases enabled <;> rfl

theorem readForm_of_recv {size : ℕ} (badLength : String) {body : CStr} {chunks : List (List UInt8)}
    (hsize : size < 2147483648) (hpos : 0 < body.length) (hlen : body.length < size)
    (hnul : 0 ∉ body) (hrecv : recvBody body.length chunks = some body) :
    readForm size badLength ⟨BitVec.ofNat 32 body.length, chunks⟩ = .ok body := by
  have hint : (BitVec.ofNat 32 body.length).toInt = body.length := by
    rw [BitVec.toInt_ofNat', Int.bmod_eq_of_le (by omega) (by omega)]
  have hcstring : cstring body = body := by
    rw [cstring, List.takeWhile_eq_self_iff]
    intro c hc
    rw [decide_eq_true_eq]
    rintro rfl
    exact hnul hc
  have hfits : ¬ ((body.length : ℤ) ≤ 0 ∨ (size : ℤ) ≤ body.length) := by omega
  simp only [readForm, hint]
  rw [if_neg hfits, Int.toNat_natCast, hrecv]
  simp only [hcstring]

/-- **Saving a schedule from the dashboard.**  What the page writes for a valid schedule, in
particular for the one that it was shown, is shorter than the handler's buffer and is read back as
that schedule; and when the handler, having received it in whatever pieces, says `OK`, that
schedule is in force and stored. -/
theorem saveSchedule_roundtrip (enabled : Bool) (hminute : minute < 1440) (hnul : 0 ∉ tz)
    (htz : closeScheduleTzValid tz = true) :
    (saveScheduleBody enabled (closeScheduleTime minute) tz).length < 256 ∧
      closeScheduleParseForm (saveScheduleBody enabled (closeScheduleTime minute) tz) =
        .ok ⟨enabled, minute, charArray 64 tz⟩ ∧
      cstr (charArray 64 tz) = tz ∧
      ∀ s n chunks write applied restored,
        recvBody (saveScheduleBody enabled (closeScheduleTime minute) tz).length chunks =
          some (saveScheduleBody enabled (closeScheduleTime minute) tz) →
        ∀ s' n', closeSchedulePostHandler s n true
            ⟨BitVec.ofNat 32 (saveScheduleBody enabled (closeScheduleTime minute) tz).length,
              chunks⟩ write applied restored = (s', n', .text "OK") →
          s'.closeSchedule = ⟨enabled, minute, charArray 64 tz⟩ ∧
            ∃ day, n'.schedBlob = some (.of ⟨enabled, minute, charArray 64 tz⟩ day) := by
  obtain ⟨hcstr, hvalid⟩ := entered_wellFormed enabled hminute hnul htz
  have hparse := parseForm_saveScheduleBody enabled hminute hnul htz
  have hlen := saveScheduleBody_length enabled hminute (length_of_closeScheduleTzValid htz)
  refine ⟨hlen, hparse, hcstr, ?_⟩
  intro s n chunks write applied restored hrecv s' n' hok
  have hread := readForm_of_recv "Bad request body" (by decide)
    (saveScheduleBody_pos enabled _ tz) hlen (nul_not_mem_saveScheduleBody enabled hminute hnul)
    hrecv
  simp only [closeSchedulePostHandler, Bool.not_true, Bool.false_eq_true, if_false] at hok
  rw [show (256 : ℤ) = (256 : ℕ) from rfl, hread] at hok
  simp only [hparse] at hok
  rcases gdoSetCloseSchedule_cases (s := s) (n := n) (w := write)
    (some ⟨enabled, minute, charArray 64 tz⟩) applied restored with
    ⟨zone, n₁, err, herr, -, heq⟩ | ⟨c, hc, -, heq⟩
  · rw [heq] at hok
    simp [herr] at hok
  · obtain rfl := Option.some.inj hc
    rw [heq] at hok
    obtain ⟨rfl, hrest⟩ := Prod.mk.inj hok
    obtain ⟨rfl, -⟩ := Prod.mk.inj hrest
    exact ⟨rfl, _, rfl⟩

/-- A zone whose name is in brackets, with signs in it. -/
theorem saveSchedule_roundtrip_brackets :
    (saveScheduleBody true (closeScheduleTime 1385) (lit "<+0530>-5:30")).length < 256 ∧
      closeScheduleParseForm (saveScheduleBody true (closeScheduleTime 1385)
        (lit "<+0530>-5:30")) = .ok ⟨true, 1385, charArray 64 (lit "<+0530>-5:30")⟩ :=
  have h := @saveSchedule_roundtrip 1385 (lit "<+0530>-5:30") true (by decide) (by decide)
    (by decide +kernel)
  ⟨h.1, h.2.1⟩

end

end GdoBlaq
