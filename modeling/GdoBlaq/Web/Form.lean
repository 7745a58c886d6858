import GdoBlaq.CloseSchedule

/-!
# Request bodies

The receive loop of the handlers and the parsers of `form_parse.h` and `close_schedule.h`.  A
pointer into a C string is the suffix it points at.
-/

namespace GdoBlaq

/-- What a buffer that holds `bytes` and a NUL is as a C string. -/
def cstring (bytes : List UInt8) : CStr := bytes.takeWhile (· ≠ 0)

/-! ### The C library -/

/-- `strstr(s, needle)` -/
def strstr (s needle : CStr) : Option CStr := s.tails.find? (needle.isPrefixOf ·)

/-- `isspace` -/
def isSpace (c : UInt8) : Bool := c = byte ' ' ∨ (9 ≤ c ∧ c ≤ 13)

/-- The value of a run of digits. -/
def digitsValue (digits : CStr) : ℕ :=
  digits.foldl (fun v c => v * 10 + (c.toNat - (byte '0').toNat)) 0

/-- `strtoul(s, nullptr, 10)`; an `unsigned long` has 32 bits. -/
def strtoul (s : CStr) : ℕ :=
  let s := s.dropWhile isSpace
  let digits := if peek s = byte '-' ∨ peek s = byte '+' then s.tail else s
  let value := digitsValue (digits.takeWhile isDigit)
  if 4294967296 ≤ value then 4294967295
  else if peek s = byte '-' then (4294967296 - value) % 4294967296
  else value

/-! ### The receive loop -/

/-- The loop that reads `n` bytes of a body, where every call of `httpd_req_recv` gives the next of
`chunks` as far as there is room; nothing at all is an error. -/
def recvBody : ℕ → List (List UInt8) → Option (List UInt8)
  | 0, _ => some []
  | _ + 1, [] => none
  | n + 1, c :: chunks =>
    let got := c.take (n + 1)
    if got.length = 0 then none
    else (recvBody (n + 1 - got.length) chunks).map (got ++ ·)

theorem recvBody_length {n : ℕ} {chunks : List (List UInt8)} {body : List UInt8}
    (h : recvBody n chunks = some body) : body.length = n := by
  induction chunks generalizing n body with
  | nil =>
    cases n with
    | zero => obtain rfl := Option.some.inj h; rfl
    | succ n => cases h
  | cons c chunks ih =>
    cases n with
    | zero => obtain rfl := Option.some.inj h; rfl
    | succ n =>
      simp only [recvBody] at h
      split_ifs at h with hnone
      obtain ⟨rest, hrest, rfl⟩ := Option.map_eq_some_iff.1 h
      have hle : (c.take (n + 1)).length ≤ n + 1 := List.length_take_le _ _
      rw [List.length_append, ih hrest]
      omega

/-! ### Forms -/

/-- `form_parse_hexval`, with `none` for -1. -/
def formParseHexval (c : UInt8) : Option ℕ :=
  if byte '0' ≤ c ∧ c ≤ byte '9' then some (c.toNat - (byte '0').toNat)
  else if byte 'a' ≤ c ∧ c ≤ byte 'f' then some (c.toNat - (byte 'a').toNat + 10)
  else if byte 'A' ≤ c ∧ c ≤ byte 'F' then some (c.toNat - (byte 'A').toNat + 10)
  else none

/-- The byte of an escape whose `%` is followed by `s`. -/
def percentEscape (s : CStr) : Option UInt8 :=
  match formParseHexval (peek s), formParseHexval (peek s.tail) with
  | some hi, some lo => some (hi * 16 + lo).toUInt8
  | _, _ => none

/-- The decoding loop of `form_get_param`: `room` is what is left of the buffer, `skip` the number
of characters of an escape that are still to be passed over. -/
def formDecode : ℕ → ℕ → CStr → Option CStr
  | _, _, [] => some []
  | room, skip + 1, _ :: s => formDecode room skip s
  | room, 0, c :: s =>
    if c = byte '&' then some []
    else
      let escape := if c = byte '%' then percentEscape s else none
      let decoded := escape.getD (if c = byte '+' then byte ' ' else c)
      if decoded = 0 then none
      else if room ≤ 1 then none
      else (formDecode (room - 1) (if escape.isSome then 2 else 0) s).map (decoded :: ·)

/-- The cursor stands at `key` and an equals sign. -/
def atKey (key s : CStr) : Bool := key.isPrefixOf s ∧ peek (s.drop key.length) = byte '='

/-- The loop of `form_get_param`, character by character; `start` says that a field begins here. -/
def formScan (key : CStr) (outLen : ℕ) : Bool → CStr → Option CStr
  | _, [] => none
  | start, c :: s =>
    if start && atKey key (c :: s) then formDecode outLen 0 ((c :: s).drop (key.length + 1))
    else formScan key outLen (c = byte '&') s

/-- `form_get_param`: what it copies into `out`, or `none` where it returns `false`. -/
def formGetParam (body key : CStr) (outLen : ℕ) : Option CStr :=
  if outLen = 0 then none else formScan key outLen true body

/-- `close_schedule_parse_hhmm` -/
def closeScheduleParseHhmm : CStr → Option ℕ
  | [h₁, h₀, colon, m₁, m₀] =>
    if colon ≠ byte ':' then none
    else if !isDigit h₁ || !isDigit h₀ || !isDigit m₁ || !isDigit m₀ then none
    else
      let h := digitsValue [h₁, h₀]
      let m := digitsValue [m₁, m₀]
      if 23 < h ∨ 59 < m then none else some (h * 60 + m)
  | _ => none

/-- `close_schedule_form_result_t`, with the schedule where it is `CLOSE_SCHEDULE_FORM_OK`. -/
inductive CloseScheduleForm where
  | ok (schedule : CloseSchedule)
  | badTime
  | badTz
  deriving DecidableEq

/-- `close_schedule_parse_form` -/
def closeScheduleParseForm (body : CStr) : CloseScheduleForm :=
  let enabled := formGetParam body (lit "enabled") 4 = some (lit "1")
  match (formGetParam body (lit "time") 8).bind closeScheduleParseHhmm with
  | none => .badTime
  | some minute =>
    match formGetParam body (lit "tz") 64 with
    | none => .badTz
    | some tz =>
      if closeScheduleTzValid tz then .ok ⟨enabled, minute, charArray 64 tz⟩ else .badTz

example : closeScheduleParseForm (lit "enabled=1&time=23%3A05&tz=PST8PDT%2CM3.2.0%2CM11.1.0") =
    .ok ⟨true, 1385, charArray 64 (lit "PST8PDT,M3.2.0,M11.1.0")⟩ := by
  decide +kernel

end GdoBlaq
