import GdoBlaq.Web.FormLookup
import GdoBlaq.Text.Memory

/-!
# What form lookup reads and writes

`form_get_param` once more, with the cursor as an index, every read of the body and the key and
every write of the buffer checked.

## Main results

* `FormMemory.getParam_eq` : no access is bad, and the answer and the buffer are as by splitting
  and decoding.
* `formGetParam_lookup` : the same in full, and what it means for encoded pairs.
-/

namespace GdoBlaq

namespace FormMemory

open Memory (load store strlen strchr sameUpTo written)
open FormLookup

section

variable (body : CStr) {n : ℕ}

/-- One character of a value: the decoded byte and the index behind it. -/
def decodeAt (c : UInt8) (p : ℕ) : Option (UInt8 × ℕ) := do
  let plain := if c = byte '+' then byte ' ' else c
  if c = byte '%' then
    let h ← load 0 body (p + 1)
    match formParseHexval h with
    | none => some (plain, p + 1)
    | some hi =>
      let l ← load 0 body (p + 2)
      match formParseHexval l with
      | none => some (plain, p + 1)
      | some lo => some ((hi * 16 + lo).toUInt8, p + 3)
  else some (plain, p + 1)

/-- The copying loop, from the index `p` of the body to the index `o` of the buffer. -/
def copy : ℕ → ℕ → ℕ → Vector UInt8 n → Option (Bool × Vector UInt8 n)
  | 0, _, _, _ => none
  | fuel + 1, p, o, out => do
    let c ← load 0 body p
    if c = 0 ∨ c = byte '&' then
      let out ← store out o 0
      some (true, out)
    else
      let (c, p) ← decodeAt body c p
      if c = 0 then some (false, out)
      else if n ≤ o + 1 then some (false, out)
      else
        let out ← store out o c
        copy fuel p (o + 1) out

/-- `strncmp(p, key, klen) == 0 && p[klen] == '='` -/
def atField (key : CStr) (klen p : ℕ) : Option Bool := do
  let same ← sameUpTo 0 body key klen p 0
  if same then
    let d ← load 0 body (p + klen)
    some (decide (d = byte '='))
  else some false

/-- The outer loop, at the beginning of a field. -/
def search (key : CStr) (klen : ℕ) : ℕ → ℕ → Vector UInt8 n → Option (Bool × Vector UInt8 n)
  | 0, _, _ => none
  | fuel + 1, p, out => do
    let c ← load 0 body p
    if c = 0 then some (false, out)
    else
      let found ← atField body key klen p
      if found then copy body (body.length + 1) (p + klen + 1) 0 out
      else
        match ← strchr 0 body (byte '&') (body.length + 1) p with
        | none => some (false, out)
        | some amp => search key klen fuel (amp + 1) out

/-- `form_get_param`; there is no result if it makes a bad access. -/
def getParam (key : CStr) (out : Vector UInt8 n) : Option (Bool × Vector UInt8 n) :=
  if n = 0 then some (false, out)
  else do
    let klen ← strlen 0 key
    search body key klen (body.length + 1) 0 out

end

/-! ### The copying loop -/

section Copy

variable {body : CStr} {n : ℕ}

theorem cons_of_hexval {s : CStr} {v : ℕ} (h : formParseHexval (peek s) = some v) :
    ∃ x t, s = x :: t := by
  cases s with
  | nil => cases h
  | cons x t => exact ⟨x, t, rfl⟩

/-- One character is decoded with no bad access, and as the loop over suffixes does it. -/
theorem decodeAt_spec {p : ℕ} {c : UInt8} {s : CStr} (hs : body.drop p = c :: s)
    (hamp : c ≠ byte '&') :
    ∃ b q, decodeAt body c p = some (b, q) ∧ p < q ∧ q ≤ body.length ∧
      ∀ room, formDecode room 0 (c :: s) =
        if b = 0 then none
        else if room ≤ 1 then none
        else (formDecode (room - 1) 0 (body.drop q)).map (b :: ·) := by
  obtain ⟨hlt, hrest⟩ := Memory.drop_eq_cons hs
  -- without an escape the character stands for itself
  have hplain (hesc : (if c = byte '%' then percentEscape s else none) = none) (room : ℕ) :
      formDecode room 0 (c :: s) =
        if (if c = byte '+' then byte ' ' else c) = 0 then none
        else if room ≤ 1 then none
        else (formDecode (room - 1) 0 (body.drop (p + 1))).map
          ((if c = byte '+' then byte ' ' else c) :: ·) := by
    rw [formDecode, if_neg hamp, hesc, hrest]
    rfl
  by_cases hpercent : c = byte '%'
  · have hload : load 0 body (p + 1) = some (peek s) := by rw [Memory.load_eq hlt, hrest]; rfl
    cases hh : formParseHexval (peek s) with
    | none =>
      refine ⟨_, p + 1, by simp [decodeAt, hpercent, hload, hh], by omega, hlt, hplain ?_⟩
      simp [percentEscape, hh]
    | some hi =>
      obtain ⟨x, u, rfl⟩ := cons_of_hexval hh
      obtain ⟨hlt', hrest'⟩ := Memory.drop_eq_cons hrest
      have hload' : load 0 body (p + 2) = some (peek u) := by
        rw [Memory.load_eq hlt', hrest']
        rfl
      cases hl : formParseHexval (peek u) with
      | none =>
        refine ⟨_, p + 1, by simp [decodeAt, hpercent, hload, hh, hload', hl], by omega, hlt,
          hplain ?_⟩
        simp [percentEscape, hl]
      | some lo =>
        obtain ⟨y, t, rfl⟩ := cons_of_hexval hl
        obtain ⟨hlt'', hrest''⟩ := Memory.drop_eq_cons hrest'
        refine ⟨(hi * 16 + lo).toUInt8, p + 3, by simp [decodeAt, hpercent, hload, hh, hload', hl],
          by omega, hlt'', ?_⟩
        intro room
        have hesc : percentEscape (x :: y :: t) = some (hi * 16 + lo).toUInt8 := by
          simp only [percentEscape, List.tail_cons, hh, hl]
        rw [formDecode, if_neg hamp, if_pos hpercent, hesc, hrest'']
        rfl
  · refine ⟨_, p + 1, by simp [decodeAt, hpercent], by omega, hlt, hplain ?_⟩
    rw [if_neg hpercent]

/-- **The copying loop makes no bad access**, and does what the one over suffixes does. -/
theorem copy_eq (hbody : 0 ∉ body) {fuel p o : ℕ} (hp : p ≤ body.length)
    (hfuel : body.length < p + fuel) (ho : o < n) (out : Vector UInt8 n) :
    ∃ out', copy body fuel p o out = some ((formDecode (n - o) 0 (body.drop p)).isSome, out') ∧
      ∀ v ∈ formDecode (n - o) 0 (body.drop p), out' = written 0 out o v := by
  induction fuel generalizing p o out with
  | zero => omega
  | succ fuel ih =>
    obtain ⟨stopped, hstored⟩ := Memory.store_inside out 0 ho
    rw [copy, Memory.load_eq hp]
    cases hs : body.drop p with
    | nil =>
      exact ⟨stopped, by simp [hstored, formDecode], by
        simpa [formDecode] using Memory.written_nil hstored⟩
    | cons c s =>
      have hc : c ≠ 0 := by
        rintro rfl
        exact hbody (List.mem_of_mem_drop (hs ▸ List.mem_cons_self))
      by_cases hamp : c = byte '&'
      · exact ⟨stopped, by simp [hstored, formDecode, hamp], by
          simpa [formDecode, hamp] using Memory.written_nil hstored⟩
      · obtain ⟨b, q, hdecode, hlt, hq, hstep⟩ := decodeAt_spec hs hamp
        rw [hstep]
        by_cases hb : b = 0
        · exact ⟨out, by simp [hc, hamp, hdecode, hb], by simp [hb]⟩
        by_cases hroom : n ≤ o + 1
        · exact ⟨out, by simp [hc, hamp, hdecode, hb, hroom, show n - o ≤ 1 by omega],
            by simp [hb, show n - o ≤ 1 by omega]⟩
        obtain ⟨put, hput⟩ := Memory.store_inside out b ho
        obtain ⟨out', hrun, hval⟩ := ih hq (by omega) (show o + 1 < n by omega) put
        rw [show n - (o + 1) = n - o - 1 by omega] at hrun hval
        refine ⟨out', ?_, ?_⟩
        · simp [hc, hamp, hdecode, hb, hroom, hput, hrun, show ¬ n - o ≤ 1 by omega]
        · intro v hv
          rw [if_neg hb, if_neg (by omega)] at hv
          obtain ⟨v', hv', rfl⟩ := Option.map_eq_some_iff.1 hv
          rw [hval v' hv', Memory.written_cons hput]

end Copy

/-! ### The search -/

section Search

variable {body key : CStr} {n : ℕ}

theorem formScan_false (s : CStr) :
    formScan key n false s =
      match s.dropWhile (· ≠ byte '&') with
      | [] => none
      | _ :: rest => formScan key n true rest := by
  induction s with
  | nil => rfl
  | cons c s ih =>
    by_cases hc : c = byte '&'
    · simp [formScan, hc]
    · rw [List.dropWhile_cons_of_pos (by simpa using hc), ← ih, formScan]
      simp [hc]

theorem atField_eq (hkey : 0 ∉ key) {p : ℕ} (hp : p ≤ body.length) :
    atField body key key.length p = some (atKey key (body.drop p)) := by
  rw [atField, Memory.sameUpTo_eq hkey hp (Nat.zero_add _), List.drop_zero, atKey]
  by_cases hsame : key.isPrefixOf (body.drop p) = true
  · have hle : p + key.length ≤ body.length := by
      have hlen := (List.isPrefixOf_iff_prefix.1 hsame).length_le
      rw [List.length_drop] at hlen
      omega
    simp [hsame, Memory.load_eq hle, List.drop_drop, peek]
  · simp [hsame]

/-- **The search makes no bad access**, and does what the one over suffixes does. -/
theorem search_eq (hbody : 0 ∉ body) (hkey : 0 ∉ key) (hn : 0 < n) {fuel p : ℕ}
    (hp : p ≤ body.length) (hfuel : body.length < p + fuel) (out : Vector UInt8 n) :
    ∃ out', search body key key.length fuel p out =
        some ((formScan key n true (body.drop p)).isSome, out') ∧
      ∀ v ∈ formScan key n true (body.drop p), out' = written 0 out 0 v := by
  induction fuel generalizing p with
  | zero => omega
  | succ fuel ih =>
    rw [search, Memory.load_eq hp]
    cases hs : body.drop p with
    | nil => exact ⟨out, by simp [formScan], by simp [formScan]⟩
    | cons c s =>
      have hc : c ≠ 0 := by
        rintro rfl
        exact hbody (List.mem_of_mem_drop (hs ▸ List.mem_cons_self))
      have hfound := atField_eq hkey hp
      rw [hs] at hfound
      rw [formScan, Bool.true_and]
      by_cases hat : atKey key (c :: s) = true
      · obtain ⟨t, ht⟩ := atKey_iff.1 hat
        have hbehind : p + key.length + 1 ≤ body.length := by
          have hlen := congrArg List.length (hs.trans ht)
          simp only [List.length_drop, List.length_append, List.length_cons] at hlen
          omega
        obtain ⟨out', hrun, hval⟩ := copy_eq hbody hbehind
          (show body.length < p + key.length + 1 + (body.length + 1) by omega) hn out
        have hdrop : body.drop (p + key.length + 1) = (c :: s).drop (key.length + 1) := by
          rw [← hs, List.drop_drop, Nat.add_assoc]
        rw [hdrop, Nat.sub_zero] at hrun hval
        refine ⟨out', ?_, ?_⟩
        · simpa [hc, hfound, hat] using hrun
        · simpa [hat] using hval
      · have hnext : formScan key n (c = byte '&') s = formScan key n false (c :: s) := by
          rw [formScan, Bool.false_and]
          rfl
        rw [if_neg hat, hnext, formScan_false]
        rcases Memory.strchr_cases (z := 0) (c := byte '&') (by decide) hbody hp
          (show body.length < p + (body.length + 1) by omega) with
          ⟨hnone, hrest⟩ | ⟨j, hj, hle, hlt, hrest⟩
        · rw [hs] at hrest
          rw [hrest]
          exact ⟨out, by simp [hfound, hat, hnone], by simp⟩
        · rw [hs] at hrest
          rw [hrest]
          obtain ⟨out', hrun, hval⟩ := ih hlt (by omega)
          exact ⟨out', by simpa [hc, hfound, hat, hj] using hrun, hval⟩

/-- The whole function. -/
theorem getParam_eq (hbody : 0 ∉ body) (hkey : 0 ∉ key) (out : Vector UInt8 n) :
    ∃ out', getParam body key out = some ((formGetParam body key n).isSome, out') ∧
      ∀ v ∈ formGetParam body key n, out' = strcpy out v := by
  have hstrcpy (v : CStr) : strcpy out v = written 0 out 0 v := by
    simp only [strcpy, written, Nat.not_lt_zero, if_false, Nat.zero_add, Nat.sub_zero]
    rfl
  rw [getParam, formGetParam, Memory.strlen_eq hkey]
  by_cases hn : n = 0
  · exact ⟨out, by simp [hn], by simp [hn]⟩
  · obtain ⟨out', hrun, hval⟩ := search_eq hbody hkey (by omega) (Nat.zero_le _)
      (show body.length < 0 + (body.length + 1) by omega) out
    rw [List.drop_zero] at hrun hval
    refine ⟨out', by simpa [hn] using hrun, ?_⟩
    intro v hv
    rw [hstrcpy]
    exact hval v (by simpa [hn] using hv)

end Search

end FormMemory

/-- **Form lookup is splitting and decoding.**  For a body, a key and a buffer of at least one byte:
no access is bad; the answer is `true` exactly if a field has the key and the decoded value of the
first such field is a C string that fits, and then the buffer holds it.  So of encoded pairs the
value of the first pair with the key is found whenever it fits. -/
theorem formGetParam_lookup {body key : CStr} {n : ℕ} (hbody : 0 ∉ body) (hkey : 0 ∉ key)
    (hamp : byte '&' ∉ key) (hn : 1 ≤ n) (out : Vector UInt8 n) :
    (∃ found out', FormMemory.getParam body key out = some (found, out') ∧
      (found = true ↔ ∃ v ∈ FormLookup.lookup body key, 0 ∉ v ∧ v.length < n) ∧
      ∀ v ∈ FormLookup.lookup body key, found = true → out' = strcpy out v) ∧
    ∀ (k : FormLookup.FormCoding) (ps : List (CStr × CStr)) (v : CStr),
      (∀ c ∈ key, FormLookup.isAlnum c = true) → (∀ p ∈ ps, 0 ∉ p.1 ∧ 0 ∉ p.2) →
      (ps.find? (·.1 = key)).map Prod.snd = some v → v.length < n →
        FormMemory.getParam (k.body ps) key out = some (true, strcpy out v) := by
  constructor
  · obtain ⟨out', hrun, hval⟩ := FormMemory.getParam_eq hbody hkey out
    rw [FormLookup.formGetParam_eq hamp hn] at hrun hval
    refine ⟨_, out', hrun, ?_, ?_⟩
    · rw [Option.isSome_iff_exists]
      constructor
      · rintro ⟨w, hw⟩
        obtain ⟨v, hv, hfit⟩ := Option.bind_eq_some_iff.1 hw
        exact ⟨v, hv, (FormLookup.fitting_eq_some.1 hfit).1⟩
      · rintro ⟨v, hv, hfits⟩
        exact ⟨v, Option.bind_eq_some_iff.2 ⟨v, hv, FormLookup.fitting_eq_some.2 ⟨hfits, rfl⟩⟩⟩
    · intro v hv hfound
      obtain ⟨w, hw⟩ := Option.isSome_iff_exists.1 hfound
      obtain ⟨v', hv', hfit⟩ := Option.bind_eq_some_iff.1 hw
      obtain rfl := Option.some.inj (hv.symm.trans hv')
      obtain ⟨-, rfl⟩ := FormLookup.fitting_eq_some.1 hfit
      exact hval _ hw
  · intro k ps v halnum hps hfind hlen
    obtain ⟨out', hrun, hval⟩ := FormMemory.getParam_eq (k.nul_not_mem_body hps) hkey out
    have hv : 0 ∉ v := by
      obtain ⟨p, hp, rfl⟩ := Option.map_eq_some_iff.1 hfind
      exact (hps p (List.mem_of_find?_eq_some hp)).2
    have hget : formGetParam (k.body ps) key n = some v := by
      rw [FormLookup.formGetParam_eq hamp hn, k.lookup_body halnum, hfind]
      exact if_pos ⟨hv, hlen⟩
    rw [hget] at hrun hval
    rw [hrun, hval v rfl]
    rfl

/-- A value with an escape, in the midst of a body. -/
theorem formGetParam_lookup_tz :
    let body := lit "a=1&tz=PST8PDT%2CM3.2.0&b=2"
    ∃ found out', FormMemory.getParam body (lit "tz") (charArray 16 []) = some (found, out') ∧
      (found = true ↔ ∃ v ∈ FormLookup.lookup body (lit "tz"), 0 ∉ v ∧ v.length < 16) ∧
      ∀ v ∈ FormLookup.lookup body (lit "tz"), found = true → out' = strcpy (charArray 16 []) v :=
  (formGetParam_lookup (by decide) (by decide) (by decide) (by decide) _).1

end GdoBlaq
