import GdoBlaq.Control.Setters
import GdoBlaq.Schedule.TimezoneGrammar
import GdoBlaq.Text.JsonValue
import GdoBlaq.Text.Printf
import GdoBlaq.Web.JsonEscape
import GdoBlaq.Web.Refusal

/-!
# The text of `/status`

What `status_get_handler` prints, byte by byte, and what the dashboard reads in it.  Strings whose
bytes anyone can choose go through `escape_json_version`; the others are copied as they are.

## Main results

* `escapeJsonVersion_spec` : no version is cut short.
* `statusFormat_pieces`, `render_status` : what is printed is a flat object.
* `plain_tz` : a timezone that the validator accepts needs no escapes.
* `status_faithful` : the body is `{}` or an object with the timezone and the versions as they are.
-/

namespace GdoBlaq

namespace StatusText

open Memory (store written)
open Provisioning (backslash hex04 bytes)
open Printf (Arg Piece)

/-! ### The device -/

/-- The loop of `escape_json_version` with `left` turns and the memory from `input[i]` on to come;
there is no result if it reads or writes outside its bounds. -/
def escapeJsonVersionLoop {n : ℕ} (capacity : ℕ) :
    ℕ → List UInt8 → ℕ → Vector UInt8 n → Option (Vector UInt8 n)
  | 0, _, used, output => store output used 0
  | _ + 1, [], _, _ => none
  | left + 1, c :: input, used, output =>
    if c = 0 ∨ capacity ≤ used + 7 then store output used 0
    else if c = 34 ∨ c = backslash then do
      let output ← store output used backslash
      let output ← store output (used + 1) c
      escapeJsonVersionLoop capacity left input (used + 2) output
    else if c < 32 ∨ 127 ≤ c then do
      -- `snprintf` ends what it writes with a NUL
      let text := [backslash, byte 'u'] ++ hex04 c
      let output ← Memory.copy output used (text.take (capacity - used - 1) ++ [0])
      escapeJsonVersionLoop capacity left input (used + text.length) output
    else do
      let output ← store output used c
      escapeJsonVersionLoop capacity left input (used + 1) output

/-- `escape_json_version` -/
def escapeJsonVersion {n : ℕ} (input : List UInt8) (output : Vector UInt8 n) (capacity : ℕ) :
    Option (Vector UInt8 n) :=
  escapeJsonVersionLoop capacity 32 input 0 output

/-- An array as the argument of a `%s`; there is no result if it holds no NUL. -/
def stringIn {n : ℕ} (a : Vector UInt8 n) : Option CStr := if hasNul a then some (cstr a) else none

/-- A character that needs no escape in a JSON string. -/
def isPlain (c : UInt8) : Bool := c ≠ 34 ∧ c ≠ backslash ∧ 32 ≤ c.toNat

/-- A text that needs no escapes in a JSON string. -/
def Plain (t : CStr) : Prop := t.all isPlain = true

instance (t : CStr) : Decidable (Plain t) := inferInstanceAs (Decidable (t.all isPlain = true))

/-- What gdolib calls its states: texts that need no escapes, or `NULL`. -/
structure GdoNames where
  door : DoorState → Option (Subtype Plain)
  light : LightState → Option (Subtype Plain)
  lock : LockState → Option (Subtype Plain)
  obstruction : ObstructionState → Option (Subtype Plain)
  motion : MotionState → Option (Subtype Plain)
  protocol : Protocol → Option (Subtype Plain)

/-- `safe_str` of a name of gdolib. -/
def safeStr (s : Option (Subtype Plain)) : CStr := (s.map Subtype.val).getD (lit "null")

/-- `esp_reset_reason_t`; all other reasons are one. -/
inductive ResetReason where
  | powerOn
  | ext
  | sw
  | panic
  | intWdt
  | taskWdt
  | wdt
  | deepSleep
  | brownout
  | sdio
  | other
  deriving DecidableEq, Repr

/-- `reset_reason_to_string` -/
def resetReasonToString : ResetReason → String
  | .powerOn => "Power-on"
  | .ext => "External pin"
  | .sw => "Software (esp_restart)"
  | .panic => "Panic/exception"
  | .intWdt => "Interrupt watchdog"
  | .taskWdt => "Task watchdog"
  | .wdt => "Other watchdog"
  | .deepSleep => "Deep sleep wake"
  | .brownout => "Brownout"
  | .sdio => "SDIO"
  | .other => "Unknown"

/-- `%02u`, and the two digits of `strftime` -/
def twoDigits (n : ℕ) : CStr := Printf.pad 48 2 (Printf.decimal n)

/-- `ip_str`: the address of the station, if it has one. -/
def ipStr (ip : Option (UInt8 × UInt8 × UInt8 × UInt8)) : CStr :=
  match ip with
  | none => lit "unknown"
  | some (a, b, c, d) =>
    (Printf.decimal a.toNat ++ byte '.' :: Printf.decimal b.toNat ++
      byte '.' :: Printf.decimal c.toNat ++ byte '.' :: Printf.decimal d.toNat).take 15

/-- `clock_sync_format_local` into `local_time[24]`: there is no result if `strftime` has no room,
which leaves the array as it was. -/
def clockSyncFormatLocal (clock : Option Tm) : Option CStr :=
  match clock with
  | none => some (lit "unsynced")
  | some tm =>
    let text := Printf.decimal (tm.year + 1900).toNat ++ byte '-' :: twoDigits (tm.mon + 1).toNat ++
      byte '-' :: twoDigits tm.mday.toNat ++ byte ' ' :: twoDigits tm.hour ++
      byte ':' :: twoDigits tm.min
    if text.length < 24 then some text else none

/-- All that a status request reads besides the variables; what it prints for the address, the
reset reason and the local time is worked out from the last three. -/
structure StatusReads where
  input : StatusInput
  ip : Option (UInt8 × UInt8 × UInt8 × UInt8)
  resetReason : ResetReason
  /-- `localtime_r`, once the clock is set. -/
  clock : Option Tm

/-- The format of `status_get_handler`. -/
def statusFormat : CStr :=
  List.flatMap lit [
    "\x7b",
    "\"door\":\"%s\",",
    "\"light\":\"%s\",",
    "\"lock\":\"%s\",",
    "\"obstruction\":\"%s\",",
    "\"motion\":\"%s\",",
    "\"protocol\":\"%s\",",
    "\"gdo_synced\":%s,",
    "\"uptime_s\":%lld,",
    "\"free_heap\":%u,",
    "\"min_free_heap\":%u,",
    "\"wifi_rssi\":%d,",
    "\"wifi_rssi_pct\":%d,",
    "\"wifi_connected\":%s,",
    "\"ip_address\":\"%s\",",
    "\"hap_sessions\":%d,",
    "\"last_reset_reason\":\"%s\",",
    "\"log_buffer_used\":%u,",
    "\"log_buffer_capacity\":%u,",
    "\"auto_close_enabled\":%s,",
    "\"auto_close_minutes\":%u,",
    "\"pre_close_buzzer\":%s,",
    "\"auto_close_remaining_s\":%lld,",
    "\"close_schedule_enabled\":%s,",
    "\"close_schedule_time\":\"%02u:%02u\",",
    "\"timezone\":\"%s\",",
    "\"clock_synced\":%s,",
    "\"local_time\":\"%s\",",
    "\"rx_error_count\":%u,",
    "\"long_obstruction_count\":%u,",
    "\"openings\":%u,",
    "\"battery\":\"%s\",",
    "\"running_partition\":\"%s\",",
    "\"fw_version\":\"%s\",",
    "\"other_partition\":\"%s\",",
    "\"other_fw_version\":\"%s\",",
    "\"ota_pending\":%s,\"ota_pending_version\":\"%s\",\"ota_pending_partition\":\"%s\",",
    "\"ota_confirm_remaining_ms\":%lld,\"ota_rollback_eligible\":%s,",
    "\"password_set\":%s,",
    "\"pairing_fault\":%s",
    "\x7d"]

/-- `b ? "true" : "false"` -/
def trueOrFalse (b : Bool) : CStr := lit (if b then "true" else "false")

/-- The arguments of `status_get_handler` behind its format. -/
def statusArgs (g : GdoNames) (b : StatusBody) (q : StatusReads) (tz localTime runningVersionJson
    otherVersionJson pendingVersionJson : CStr) : List Arg := [
  .str (safeStr (g.door b.door)),
  .str (safeStr (g.light b.light)),
  .str (safeStr (g.lock b.lock)),
  .str (safeStr (g.obstruction b.obstruction)),
  .str (safeStr (g.motion b.motion)),
  .str (safeStr (g.protocol b.protocol)),
  .str (trueOrFalse b.gdoSynced),
  .int b.uptimeS,
  .uint b.freeHeap,
  .uint b.minFreeHeap,
  .int b.wifiRssi,
  .int b.wifiRssiPct,
  .str (trueOrFalse b.wifiConnected),
  .str (ipStr q.ip),
  .int b.hapSessions,
  .str (lit (resetReasonToString q.resetReason)),
  .uint b.logBufferUsed,
  .uint b.logBufferCapacity,
  .str (trueOrFalse b.autoCloseEnabled),
  .uint b.autoCloseMinutes,
  .str (trueOrFalse b.preCloseBuzzer),
  .int b.autoCloseRemainingS,
  .str (trueOrFalse b.closeScheduleEnabled),
  .uint b.closeScheduleTime.1,
  .uint b.closeScheduleTime.2,
  .str tz,
  .str (trueOrFalse b.clockSynced),
  .str localTime,
  .uint b.rxErrorCount,
  .uint b.longObstructionCount,
  .uint b.openings,
  .str (lit b.battery),
  .str (lit b.slots.runningPartition),
  .str runningVersionJson,
  .str (lit b.slots.otherPartition),
  .str otherVersionJson,
  .str (trueOrFalse b.slots.otaPending),
  .str pendingVersionJson,
  .str (lit b.slots.otaPendingPartition),
  .int b.slots.otaConfirmRemainingMs,
  .str (trueOrFalse b.slots.otaRollbackEligible),
  .str (trueOrFalse b.passwordSet),
  .str (trueOrFalse b.pairingFault)]

/-- The memory that is printed as the version of an image. -/
def versionField (unknown : String) (desc : Option AppVersion) : List UInt8 :=
  match desc with
  | some version => version.toList
  | none => lit unknown ++ [0]

/-- The description of the image in the other slot, if there is one. -/
def otherDesc (q : StatusQuery) : Option AppVersion := if q.other.isSome then q.otherDesc else none

/-- `s_ota_pending_version` -/
def pendingField (s : Ota) : AppVersion := charArray 32 s.pendingVersion

/-- The end of `status_get_handler`, after `snprintf` into `buf[2560]` would have written `buf`. -/
def sentBody (buf : CStr) : CStr :=
  if 0 < buf.length ∧ buf.length < 2560 then buf else lit "\x7b\x7d"

/-- `status_get_handler`: the state it leaves and the body it sends.  The three buffers of the
versions hold anything at first; there is no result if a version or a string is read or written
outside its bounds. -/
def statusGetHandler (g : GdoNames) (s : Server) (q : StatusReads)
    (running other pending : Vector UInt8 200) : Option (Server × CStr) := do
  let (ota, reply) := s.ota.statusGetHandler { q.input.slots with fits := true }
  match reply.http with
  | some (.status slots) =>
    let b := s.statusBody q.input slots
    let localTime ← clockSyncFormatLocal q.clock
    let running ← escapeJsonVersion (versionField "unknown" q.input.slots.runningDesc) running 200
    let other ← escapeJsonVersion (versionField "none" (otherDesc q.input.slots)) other 200
    let pending ← escapeJsonVersion (pendingField ota).toList pending 200
    let tz ← stringIn s.fw.closeSchedule.tz
    let runningJson ← stringIn running
    let otherJson ← stringIn other
    let pendingJson ← stringIn pending
    let buf ← Printf.render (Printf.pieces none statusFormat)
      (statusArgs g b q tz localTime runningJson otherJson pendingJson)
    some ({ s with ota }, sentBody buf)
  | _ => none

/-! ### Versions -/

/-- What is written for a byte of a version. -/
def versionEscaped (c : UInt8) : List UInt8 :=
  if c = 34 ∨ c = backslash then [backslash, c]
  else if c < 32 ∨ 127 ≤ c then [backslash, byte 'u'] ++ hex04 c
  else [c]

/-- The bytes of a field of 32 up to its first NUL. -/
def fieldBytes (input : List UInt8) (left : ℕ) : CStr := (input.take left).takeWhile (· ≠ 0)

theorem length_versionEscaped (c : UInt8) : (versionEscaped c).length ≤ 6 := by
  unfold versionEscaped hex04
  split_ifs <;> simp

/-- **No version is cut short**: with six bytes for each byte to come the test of the capacity never
ends the loop. -/
theorem escapeJsonVersionLoop_spec {n : ℕ} (left : ℕ) {input : List UInt8}
    (hinput : left ≤ input.length ∨ 0 ∈ input) {used : ℕ} (hroom : used + 6 * left + 1 < n)
    (output : Vector UInt8 n) :
    escapeJsonVersionLoop n left input used output =
      some (written 0 output used ((fieldBytes input left).flatMap versionEscaped)) := by
  induction left generalizing input used output with
  | zero =>
    obtain ⟨output', hstore⟩ := Memory.store_inside output 0 (show used < n by omega)
    rw [escapeJsonVersionLoop, hstore, Memory.written_nil hstore]
    rfl
  | succ left ih =>
    cases input with
    | nil => simp at hinput
    | cons c input =>
      rw [escapeJsonVersionLoop]
      by_cases hc : c = 0
      · obtain ⟨output', hstore⟩ := Memory.store_inside output 0 (show used < n by omega)
        rw [if_pos (.inl hc), hstore, Memory.written_nil hstore]
        simp [fieldBytes, hc]
      · have hinput' : left ≤ input.length ∨ 0 ∈ input := by
          simpa [Ne.symm hc] using hinput
        have hfield : fieldBytes (c :: input) (left + 1) = c :: fieldBytes input left := by
          simp [fieldBytes, hc]
        -- a byte that is not NUL; there is room for the longest thing it can be written as
        rw [if_neg (not_or.2 ⟨hc, by omega⟩), hfield, List.flatMap_cons, versionEscaped]
        split_ifs with hmark hcode
        · obtain ⟨first, hfirst⟩ := Memory.store_inside output backslash (show used < n by omega)
          obtain ⟨second, hsecond⟩ := Memory.store_inside first c (show used + 1 < n by omega)
          simp only [hfirst, hsecond, Option.bind_eq_bind, Option.bind_some]
          rw [ih hinput' (by omega), Memory.written_cons hsecond, Memory.written_cons hfirst]
          rfl
        · have htake : ([backslash, byte 'u'] ++ hex04 c).take (n - used - 1) =
              [backslash, byte 'u'] ++ hex04 c :=
            List.take_of_length_le (show 6 ≤ n - used - 1 by omega)
          obtain ⟨output', hcopy, hwritten⟩ := Memory.copy_end_inside (z := 0) (o := used)
            ([backslash, byte 'u'] ++ hex04 c) output (show used + 6 < n by omega)
          have hrest := ih hinput' (show used + 6 + 6 * left + 1 < n by omega) output'
          simp only [htake, hcopy, Option.bind_eq_bind, Option.bind_some]
          exact hrest.trans (congrArg some (hwritten _))
        · obtain ⟨output', hstore⟩ := Memory.store_inside output c (show used < n by omega)
          simp only [hstore, Option.bind_eq_bind, Option.bind_some]
          rw [ih hinput' (by omega), Memory.written_cons hstore]
          rfl

/-- The code points of some bytes, in UTF-8. -/
def codePoints (v : CStr) : List UInt8 := v.flatMap fun c => bytes.spell c.toNat

theorem spells_versionEscaped (c : UInt8) :
    bytes.Spells (versionEscaped c) (bytes.spell c.toNat) := by
  unfold versionEscaped
  split_ifs with hmark hcode
  · rcases hmark with rfl | rfl
    · exact .escape (l := 34) rfl (by decide)
    · exact .escape (l := 92) rfl (by decide)
  · have hspells := Provisioning.spells_hex04 bytes c
    rwa [Provisioning.map_ascii] at hspells
  · rw [not_or] at hmark hcode
    have hlow : 32 ≤ c.toNat := not_lt.1 hcode.1
    have hhigh : c.toNat < 127 := not_le.1 hcode.2
    rw [bytes.spell_ascii (show c.toNat < 128 by omega),
      show bytes.ascii c.toNat = c from UInt8.ofNat_toNat]
    exact .plain (fun h => hmark.1 (UInt8.toNat_inj.1 h)) (fun h => hmark.2 (UInt8.toNat_inj.1 h))
      hlow

theorem versionEscaped_visible (c : UInt8) : ∀ b ∈ versionEscaped c, 32 ≤ b.toNat := by
  unfold versionEscaped
  split_ifs with hmark hcode
  · refine Provisioning.forall_mem_pair (by decide) ?_
    rcases hmark with rfl | rfl <;> decide
  · exact fun b hb => (Provisioning.hex04_ascii c b hb).1
  · rw [List.forall_mem_singleton]
    exact not_lt.1 (not_or.1 hcode).1

theorem stringIn_eq {n : ℕ} {a : Vector UInt8 n} (h : (cstr a).length < n) :
    stringIn a = some (cstr a) := by
  refine if_pos ?_
  by_contra hnul
  have hall : cstr a = a.toList := by
    refine List.takeWhile_eq_self_iff.2 ?_
    intro c hc
    rw [decide_eq_true_eq]
    rintro rfl
    exact hnul (by simpa [hasNul] using hc)
  rw [hall, Vector.length_toList] at h
  exact lt_irrefl n h

/-- **A version is written whole**: its buffer holds all of it, escaped. -/
theorem escapeJsonVersion_spec {input : List UInt8} (hinput : 32 ≤ input.length ∨ 0 ∈ input)
    (output : Vector UInt8 200) :
    ∃ output', escapeJsonVersion input output 200 = some output' ∧
      stringIn output' = some ((fieldBytes input 32).flatMap versionEscaped) := by
  refine ⟨_, escapeJsonVersionLoop_spec 32 hinput (by decide) output, ?_⟩
  have hlength (v : CStr) : (v.flatMap versionEscaped).length ≤ v.length * 6 := by
    induction v with
    | nil => rfl
    | cons c v ih =>
      have hc := length_versionEscaped c
      rw [List.flatMap_cons, List.length_append, List.length_cons]
      omega
  have hfield : (fieldBytes input 32).length ≤ 32 :=
    (List.takeWhile_sublist _).length_le.trans (List.length_take_le _ _)
  have hroom : ((fieldBytes input 32).flatMap versionEscaped).length < 200 := by
    have hall := hlength (fieldBytes input 32)
    omega
  have hnul : 0 ∉ (fieldBytes input 32).flatMap versionEscaped := by
    intro hmem
    obtain ⟨c, -, hmem⟩ := List.mem_flatMap.1 hmem
    exact absurd (versionEscaped_visible c 0 hmem) (by decide)
  have hcstr := Memory.takeWhile_written output hnul hroom
  rw [stringIn_eq (show (cstr _).length < 200 by rw [cstr, hcstr]; exact hroom), cstr, hcstr]

theorem spells_version (v : CStr) : bytes.Spells (v.flatMap versionEscaped) (codePoints v) :=
  .flatMap fun c _ => spells_versionEscaped c

/-! ### The object -/

/-- What a member's value is. -/
inductive Kind where
  | string
  | bool
  | int
  | uint
  | time
  deriving DecidableEq

/-- The part of the format for a value. -/
def Kind.pieces : Kind → List Piece
  | .string => [.byte 34, .conversion false 0 115, .byte 34]
  | .bool => [.conversion false 0 115]
  | .int => [.conversion false 0 100]
  | .uint => [.conversion false 0 117]
  | .time => [.byte 34, .conversion true 2 117, .byte 58, .conversion true 2 117, .byte 34]

/-- The part of the format for a member. -/
def memberPieces (m : String × Kind) : List Piece :=
  (34 :: (lit m.1 ++ [34, 58])).map .byte ++ m.2.pieces

/-- The part of the format behind a member. -/
def tailPieces : List (String × Kind) → List Piece
  | [] => [.byte 125]
  | m :: ms => [.byte 44] ++ (memberPieces m ++ tailPieces ms)

/-- The members behind `door`. -/
def statusMembers : List (String × Kind) := [
    ("light", .string), ("lock", .string), ("obstruction", .string),
    ("motion", .string), ("protocol", .string), ("gdo_synced", .bool),
    ("uptime_s", .int), ("free_heap", .uint), ("min_free_heap", .uint),
    ("wifi_rssi", .int), ("wifi_rssi_pct", .int), ("wifi_connected", .bool),
    ("ip_address", .string), ("hap_sessions", .int), ("last_reset_reason", .string),
    ("log_buffer_used", .uint), ("log_buffer_capacity", .uint),
    ("auto_close_enabled", .bool), ("auto_close_minutes", .uint),
    ("pre_close_buzzer", .bool), ("auto_close_remaining_s", .int),
    ("close_schedule_enabled", .bool), ("close_schedule_time", .time), ("timezone", .string),
    ("clock_synced", .bool), ("local_time", .string), ("rx_error_count", .uint),
    ("long_obstruction_count", .uint), ("openings", .uint), ("battery", .string),
    ("running_partition", .string), ("fw_version", .string), ("other_partition", .string),
    ("other_fw_version", .string), ("ota_pending", .bool), ("ota_pending_version", .string),
    ("ota_pending_partition", .string), ("ota_confirm_remaining_ms", .int),
    ("ota_rollback_eligible", .bool), ("password_set", .bool),
    ("pairing_fault", .bool)]

/-- **The format is one of a flat object.** -/
theorem statusFormat_pieces :
    Printf.pieces none statusFormat =
      [.byte 123] ++ (memberPieces ("door", .string) ++ tailPieces statusMembers) := by
  decide +kernel

/-- A value as it is printed; a string is what is put between the quotation marks, and what that
stands for. -/
inductive Printed where
  | string (t v : CStr)
  | bool (b : Bool)
  | int (n : ℤ)
  | uint (n : ℕ)
  | time (hour minute : ℕ)

namespace Printed

def kind : Printed → Kind
  | string _ _ => .string
  | bool _ => .bool
  | int _ => .int
  | uint _ => .uint
  | time _ _ => .time

/-- The arguments for a value. -/
def args : Printed → List Arg
  | string t _ => [.str t]
  | bool b => [.str (trueOrFalse b)]
  | int n => [.int n]
  | uint n => [.uint n]
  | time hour minute => [.uint hour, .uint minute]

/-- The text of a value. -/
def text : Printed → CStr
  | string t _ => 34 :: (t ++ [34])
  | bool b => trueOrFalse b
  | int n => bytes.integer n
  | uint n => bytes.decimal n
  | time hour minute => 34 :: (twoDigits hour ++ 58 :: twoDigits minute ++ [34])

/-- What the text of a value stands for. -/
def value : Printed → Json.Value UInt8
  | string _ v => .string v
  | bool b => .bool b
  | int n => .number (bytes.integer n)
  | uint n => .number (bytes.decimal n)
  | time hour minute => .string (twoDigits hour ++ 58 :: twoDigits minute)

/-- The text of a string stands for it. -/
def Faithful : Printed → Prop
  | string t v => bytes.Spells t v
  | _ => True

/-- A member with this value. -/
def field (p : Printed) (name : String) : Json.Units.Field UInt8 := ⟨lit name, p.text, p.value⟩

theorem prints (p : Printed) : Printf.Prints p.kind.pieces p.args p.text := by
  cases p with
  | string t v =>
    have hstring : Printf.Prints [.conversion false 0 115] [.str t] t :=
      .conversion (Printf.convert_str t)
    exact (Printf.Prints.bytes [34]).append (hstring.append (.bytes [34]))
  | bool b => exact .conversion (Printf.convert_str _)
  | int n => exact .conversion (Printf.convert_int n)
  | uint n => exact .conversion (Printf.convert_uint n)
  | time hour minute =>
    have hdigits (n : ℕ) : Printf.Prints [.conversion true 2 117] [.uint n] (twoDigits n) :=
      .conversion rfl
    have hall := (Printf.Prints.bytes [34]).append ((hdigits hour).append
      ((Printf.Prints.bytes [58]).append ((hdigits minute).append (.bytes [34]))))
    simpa [text, args, kind, Kind.pieces] using hall

theorem prints_member {p : Printed} {m : String × Kind} (h : p.kind = m.2) :
    Printf.Prints (memberPieces m) p.args (bytes.member (p.field m.1)) := by
  have hall := (Printf.Prints.bytes (34 :: (lit m.1 ++ [34, 58]))).append p.prints
  have htext : bytes.member (p.field m.1) = 34 :: (lit m.1 ++ [34, 58]) ++ p.text := by
    show 34 :: (lit m.1 ++ 34 :: 58 :: p.text) = _
    simp
  rw [htext, memberPieces, ← h]
  exact hall

end Printed

/-- The members of an object, with the values in their order. -/
def fields (ms : List (String × Kind)) (ps : List Printed) : List (Json.Units.Field UInt8) :=
  List.zipWith (fun m p => p.field m.1) ms ps

theorem prints_tail {ms : List (String × Kind)} {ps : List Printed}
    (h : ps.map Printed.kind = ms.map Prod.snd) :
    Printf.Prints (tailPieces ms) (ps.flatMap Printed.args) (bytes.flatTail (fields ms ps)) := by
  induction ms generalizing ps with
  | nil =>
    obtain rfl := List.map_eq_nil_iff.1 h
    exact .bytes [125]
  | cons m ms ih =>
    cases ps with
    | nil => simp at h
    | cons p ps =>
      simp only [List.map_cons, List.cons.injEq] at h
      exact (Printf.Prints.bytes [44]).append ((Printed.prints_member h.1).append (ih h.2))

/-- The values behind that of `door`, with the bytes of the three versions. -/
def statusValues (g : GdoNames) (b : StatusBody) (q : StatusReads)
    (tz localTime running other pending : CStr) : List Printed :=
  let plain (t : CStr) : Printed := .string t t
  let version (v : CStr) : Printed := .string (v.flatMap versionEscaped) (codePoints v)
  [plain (safeStr (g.light b.light)), plain (safeStr (g.lock b.lock)),
    plain (safeStr (g.obstruction b.obstruction)), plain (safeStr (g.motion b.motion)),
    plain (safeStr (g.protocol b.protocol)), .bool b.gdoSynced, .int b.uptimeS, .uint b.freeHeap,
    .uint b.minFreeHeap, .int b.wifiRssi, .int b.wifiRssiPct, .bool b.wifiConnected,
    plain (ipStr q.ip), .int b.hapSessions, plain (lit (resetReasonToString q.resetReason)),
    .uint b.logBufferUsed, .uint b.logBufferCapacity, .bool b.autoCloseEnabled,
    .uint b.autoCloseMinutes, .bool b.preCloseBuzzer, .int b.autoCloseRemainingS,
    .bool b.closeScheduleEnabled, .time b.closeScheduleTime.1 b.closeScheduleTime.2, plain tz,
    .bool b.clockSynced, plain localTime, .uint b.rxErrorCount, .uint b.longObstructionCount,
    .uint b.openings, plain (lit b.battery), plain (lit b.slots.runningPartition),
    version running, plain (lit b.slots.otherPartition), version other, .bool b.slots.otaPending,
    version pending, plain (lit b.slots.otaPendingPartition), .int b.slots.otaConfirmRemainingMs,
    .bool b.slots.otaRollbackEligible, .bool b.passwordSet, .bool b.pairingFault]

section Values

variable (g : GdoNames) (b : StatusBody) (q : StatusReads)
  (tz localTime running other pending : CStr)

/-- The object that is printed. -/
def statusObject : List (CStr × Json.Value UInt8) :=
  ((Printed.string (safeStr (g.door b.door)) (safeStr (g.door b.door))).field "door" ::
    fields statusMembers (statusValues g b q tz localTime running other pending)).map
      fun f => (f.name, f.value)

theorem names_nodup :
    ((statusObject g b q tz localTime running other pending).map Prod.fst).Nodup := by
  have hnames : (statusObject g b q tz localTime running other pending).map Prod.fst =
      ("door" :: statusMembers.map Prod.fst).map lit := rfl
  rw [hnames]
  decide +kernel

theorem statusValues_kind :
    (statusValues g b q tz localTime running other pending).map Printed.kind =
      statusMembers.map Prod.snd := rfl

/-- **What `snprintf` prints** is the object, whatever the strings hold. -/
theorem render_status :
    Printf.render (Printf.pieces none statusFormat)
        (statusArgs g b q tz localTime (running.flatMap versionEscaped)
          (other.flatMap versionEscaped) (pending.flatMap versionEscaped)) =
      some (bytes.flat
        ((Printed.string (safeStr (g.door b.door)) (safeStr (g.door b.door))).field "door")
        (fields statusMembers (statusValues g b q tz localTime running other pending))) := by
  have hmember := Printed.prints_member
    (p := .string (safeStr (g.door b.door)) (safeStr (g.door b.door))) (m := ("door", .string)) rfl
  have htail := prints_tail (statusValues_kind g b q tz localTime running other pending)
  rw [statusFormat_pieces]
  exact Printf.render_of_prints ((Printf.Prints.bytes [123]).append (hmember.append htail))

end Values

/-! ### Plain texts -/

theorem plain_iff {t : CStr} : Plain t ↔ ∀ c ∈ t, c ≠ 34 ∧ c ≠ backslash ∧ 32 ≤ c.toNat := by
  simp [Plain, isPlain]

theorem Plain.append {t t' : CStr} (h : Plain t) (h' : Plain t') : Plain (t ++ t') := by
  rw [plain_iff] at h h' ⊢
  exact List.forall_mem_append.2 ⟨h, h'⟩

theorem Plain.cons {c : UInt8} {t : CStr} (hc : Plain [c]) (h : Plain t) : Plain (c :: t) :=
  hc.append h

theorem Plain.take {t : CStr} (h : Plain t) (n : ℕ) : Plain (t.take n) :=
  plain_iff.2 fun c hc => plain_iff.1 h c (List.mem_of_mem_take hc)

theorem Plain.spells {t : CStr} (h : Plain t) : bytes.Spells t t := by
  refine .of_forall ?_
  intro c hc
  obtain ⟨hquote, hmark, hcontrol⟩ := plain_iff.1 h c hc
  exact ⟨fun heq => hquote (UInt8.toNat_inj.1 heq), fun heq => hmark (UInt8.toNat_inj.1 heq),
    hcontrol⟩

theorem plain_of_isDigit {t : CStr} (h : ∀ c ∈ t, bytes.isDigit c = true) : Plain t := by
  rw [plain_iff]
  intro c hc
  have hrange : 48 ≤ c.toNat ∧ c.toNat ≤ 57 := of_decide_eq_true (h c hc)
  refine ⟨?_, ?_, by omega⟩
  · rintro rfl
    exact absurd hrange.1 (by decide)
  · rintro rfl
    exact absurd hrange.2 (by decide)

theorem plain_decimal (n : ℕ) : Plain (Printf.decimal n) := by
  obtain ⟨a, ds, hdecimal, ha, hds, -⟩ := bytes.decimal_cons n
  show Plain (bytes.decimal n)
  rw [hdecimal]
  exact plain_of_isDigit (List.forall_mem_cons.2 ⟨ha, hds⟩)

theorem plain_twoDigits (n : ℕ) : Plain (twoDigits n) := by
  refine Plain.append (plain_iff.2 ?_) (plain_decimal n)
  intro c hc
  obtain rfl := List.eq_of_mem_replicate hc
  decide

theorem plain_safeStr (s : Option (Subtype Plain)) : Plain (safeStr s) := by
  cases s with
  | none => exact (by decide : Plain (lit "null"))
  | some t => exact t.2

theorem plain_resetReason (r : ResetReason) : Plain (lit (resetReasonToString r)) := by
  cases r <;> decide

theorem plain_ipStr (ip : Option (UInt8 × UInt8 × UInt8 × UInt8)) : Plain (ipStr ip) := by
  match ip with
  | none => exact (by decide : Plain (lit "unknown"))
  | some (a, b, c, d) =>
    have hdot : Plain [byte '.'] := by decide
    exact Plain.take (((plain_decimal _).append (.cons hdot (plain_decimal _))).append
      (.cons hdot (plain_decimal _)) |>.append (.cons hdot (plain_decimal _))) 15

theorem plain_of_isZoneChar {t : CStr} (h : ∀ c ∈ t, Timezone.isZoneChar c = true) : Plain t := by
  have hcontrol : ∀ n < 32, Timezone.isZoneChar (UInt8.ofNat n) = false := by decide
  rw [plain_iff]
  intro c hc
  have hzone := h c hc
  refine ⟨?_, ?_, ?_⟩
  · rintro rfl
    exact absurd hzone (by decide)
  · rintro rfl
    exact absurd hzone (by decide)
  · by_contra hlt
    have hfalse := hcontrol c.toNat (not_le.1 hlt)
    rw [UInt8.ofNat_toNat, hzone] at hfalse
    cases hfalse

/-- **The timezone of a well-formed schedule** needs no escapes. -/
theorem plain_tz {c : CloseSchedule} (h : c.wellFormed = true) : Plain (cstr c.tz) := by
  have hnul : 0 ∉ cstr c.tz := fun hmem => by simpa using List.mem_takeWhile_imp hmem
  have hzone := ((Timezone.closeScheduleTzValid_iff hnul).1
    (CloseSchedule.tzValid_of_wellFormed h)).2
  exact plain_of_isZoneChar (Timezone.within_zone _ hzone)

/-- What `localtime_r` gives. -/
structure TmInRange (tm : Tm) : Prop where
  year : 0 ≤ tm.year + 1900 ∧ tm.year + 1900 < 10000000000
  mon : 0 ≤ tm.mon ∧ tm.mon ≤ 11
  mday : 1 ≤ tm.mday ∧ tm.mday ≤ 31
  hour : tm.hour ≤ 23
  min : tm.min ≤ 59

theorem length_twoDigits {n : ℕ} (hn : n < 100) : (twoDigits n).length = 2 := by
  have hdigits : (Printf.decimal n).length ≤ 2 := by
    rw [Printf.decimal, List.length_map, Nat.length_toDigits_le_iff (by decide) (by decide)]
    omega
  rw [twoDigits, Printf.pad, List.length_append, List.length_replicate]
  omega

theorem plain_localTime {clock : Option Tm} {t : CStr} (h : clockSyncFormatLocal clock = some t) :
    Plain t := by
  cases clock with
  | none =>
    obtain rfl := Option.some.inj h
    decide
  | some tm =>
    simp only [clockSyncFormatLocal] at h
    split_ifs at h
    obtain rfl := Option.some.inj h
    have hmark {c : Char} (hc : Plain [byte c]) (n : ℕ) : Plain (byte c :: twoDigits n) :=
      hc.append (plain_twoDigits n)
    exact ((((plain_decimal _).append (hmark (by decide) _)).append (hmark (by decide) _)).append
      (hmark (by decide) _)).append (hmark (by decide) _)

theorem localTime_isSome {clock : Option Tm} (h : ∀ tm ∈ clock, TmInRange tm) :
    ∃ t, clockSyncFormatLocal clock = some t := by
  cases clock with
  | none => exact ⟨_, rfl⟩
  | some tm =>
    obtain ⟨hyear, hmon, hmday, hhour, hmin⟩ := h tm rfl
    have hdigits : (Printf.decimal (tm.year + 1900).toNat).length ≤ 10 := by
      rw [Printf.decimal, List.length_map, Nat.length_toDigits_le_iff (by decide) (by decide)]
      omega
    refine ⟨_, if_pos ?_⟩
    simp only [List.length_append, List.length_cons]
    rw [length_twoDigits (show (tm.mon + 1).toNat < 100 by omega),
      length_twoDigits (show tm.mday.toNat < 100 by omega),
      length_twoDigits (show tm.hour < 100 by omega), length_twoDigits (show tm.min < 100 by omega)]
    omega

/-- The names of the partitions and of the battery's state need no escapes. -/
structure PlainLabels (q : StatusReads) (s : Server) : Prop where
  battery : Plain (lit q.input.battery)
  running : ∀ p ∈ q.input.slots.running, Plain (lit p.label)
  other : ∀ p ∈ q.input.slots.other, Plain (lit p.label)
  pending : ∀ p ∈ s.ota.pendingPartition, Plain (lit p.label)

theorem plain_label {p : Option EspPartition} (h : ∀ x ∈ p, Plain (lit x.label)) {unknown : String}
    (hunknown : Plain (lit unknown)) :
    Plain (lit ((p.map EspPartition.label).getD unknown)) := by
  cases p with
  | none => exact hunknown
  | some p => exact h p rfl

theorem slots_plain {q : StatusReads} {s : Server} (h : PlainLabels q s) :
    ∃ ota slots, s.ota.statusGetHandler { q.input.slots with fits := true } =
        (ota, { http := some (.status slots) }) ∧ Plain (lit slots.runningPartition) ∧
      Plain (lit slots.otherPartition) ∧ Plain (lit slots.otaPendingPartition) := by
  refine ⟨(s.ota.statusGetHandler { q.input.slots with fits := true }).1, _, rfl,
    plain_label h.running (by decide), ?_, ?_⟩
  · show Plain (lit (if _ then _ else _))
    split_ifs
    · exact plain_label h.other (by decide)
    · decide
  · refine plain_label
      (p := (s.ota.statusGetHandler { q.input.slots with fits := true }).1.pendingPartition) ?_
      (by decide)
    rcases statusGetHandler_ota s.ota { q.input.slots with fits := true } with hsame | ⟨hclear, -⟩
    · rw [hsame]
      exact h.pending
    · rw [hclear]
      rintro p ⟨⟩

/-! ### The body -/

theorem Printed.valid {p : Printed} (h : p.Faithful) {name : String} (hname : Plain (lit name)) :
    bytes.Valid (p.field name) where
  name := hname.spells
  text := by
    cases p with
    | string t v => exact Json.Units.reads_string h
    | bool b =>
      have htrue := Json.Units.reads_bool (u := bytes) true
      have hfalse := Json.Units.reads_bool (u := bytes) false
      cases b
      · exact hfalse
      · exact htrue
    | int n => exact Json.Units.reads_integer n
    | uint n => exact Json.Units.reads_decimal n
    | time hour minute =>
      exact Json.Units.reads_string (Plain.spells ((plain_twoDigits hour).append
        (.cons (by decide) (plain_twoDigits minute))))

theorem plain_names : ∀ m ∈ statusMembers, Plain (lit m.1) := by
  have hall : (statusMembers.all fun m => (lit m.1).all isPlain) = true := by decide +kernel
  exact List.all_eq_true.1 hall

theorem valid_fields {ms : List (String × Kind)} {ps : List Printed}
    (hms : ∀ m ∈ ms, Plain (lit m.1)) (hps : ∀ p ∈ ps, p.Faithful) :
    ∀ f ∈ fields ms ps, bytes.Valid f := by
  induction ms generalizing ps with
  | nil => exact fun f hf => by cases hf
  | cons m ms ih =>
    cases ps with
    | nil => exact fun f hf => by cases hf
    | cons p ps =>
      rw [List.forall_mem_cons] at hms hps
      exact List.forall_mem_cons.2 ⟨Printed.valid hps.1 hms.1, ih hms.2 hps.2⟩

theorem faithful_statusValues (g : GdoNames) {b : StatusBody} (q : StatusReads)
    {tz localTime : CStr} (running other pending : CStr) (hbattery : Plain (lit b.battery))
    (hrunning : Plain (lit b.slots.runningPartition))
    (hother : Plain (lit b.slots.otherPartition))
    (hpending : Plain (lit b.slots.otaPendingPartition)) (htz : Plain tz)
    (htime : Plain localTime) :
    ∀ p ∈ statusValues g b q tz localTime running other pending, p.Faithful := by
  have hplain {t : CStr} (h : Plain t) : (Printed.string t t).Faithful := h.spells
  have hversion (v : CStr) : (Printed.string (v.flatMap versionEscaped) (codePoints v)).Faithful :=
    spells_version v
  simp only [statusValues, List.forall_mem_cons]
  refine ⟨hplain (plain_safeStr _), hplain (plain_safeStr _), hplain (plain_safeStr _),
    hplain (plain_safeStr _), hplain (plain_safeStr _), trivial, trivial, trivial, trivial,
    trivial, trivial, trivial, hplain (plain_ipStr _), trivial, hplain (plain_resetReason _),
    trivial, trivial, trivial, trivial, trivial, trivial, trivial, trivial, hplain htz, trivial,
    hplain htime, trivial, trivial, trivial, hplain hbattery, hplain hrunning, hversion _,
    hplain hother, hversion _, trivial, hversion _, hplain hpending, trivial, trivial, trivial,
    trivial, ?_⟩
  exact fun p hp => by cases hp

theorem lookup_of_getElem? {ms : List (CStr × Json.Value UInt8)} (hnames : (ms.map Prod.fst).Nodup)
    {i : ℕ} {name : CStr} {v : Json.Value UInt8} (h : ms[i]? = some (name, v)) :
    ms.lookup name = some v := by
  induction ms generalizing i with
  | nil => simp at h
  | cons m ms ih =>
    rw [List.map_cons, List.nodup_cons] at hnames
    cases i with
    | zero =>
      obtain rfl : m = (name, v) := by simpa using h
      exact List.lookup_cons_self
    | succ i =>
      have hrest := ih hnames.2 (i := i) (by simpa using h)
      have hmem : (name, v) ∈ ms := List.mem_of_getElem? (i := i) (by simpa using h)
      have hne : (name == m.1) = false := by
        rw [beq_eq_false_iff_ne]
        intro heq
        exact hnames.1 (heq ▸ List.mem_map_of_mem (f := Prod.fst) hmem)
      rw [List.lookup_cons, hne]
      exact hrest

/-- **What is printed is the object**, read back. -/
theorem status_printed (g : GdoNames) {b : StatusBody} (q : StatusReads)
    {tz localTime : CStr} (running other pending : CStr) (hbattery : Plain (lit b.battery))
    (hrunning : Plain (lit b.slots.runningPartition))
    (hother : Plain (lit b.slots.otherPartition))
    (hpending : Plain (lit b.slots.otaPendingPartition)) (htz : Plain tz)
    (htime : Plain localTime) :
    ∃ buf, Printf.render (Printf.pieces none statusFormat)
        (statusArgs g b q tz localTime (running.flatMap versionEscaped)
          (other.flatMap versionEscaped) (pending.flatMap versionEscaped)) = some buf ∧
      bytes.parse buf = some (.object (statusObject g b q tz localTime running other pending)) := by
  have hdoor : (Printed.string (safeStr (g.door b.door)) (safeStr (g.door b.door))).Faithful :=
    (plain_safeStr _).spells
  have hvalues := faithful_statusValues g q running other pending hbattery hrunning hother hpending
    htz htime
  exact ⟨_, render_status .., Json.Units.parse_flat (List.forall_mem_cons.2
    ⟨Printed.valid hdoor (by decide), valid_fields plain_names hvalues⟩)⟩

/-! ### Versions, whole -/

theorem versionField_spec {unknown : String}
    (hunknown : fieldBytes (lit unknown ++ [0]) 32 = lit unknown) (desc : Option AppVersion) :
    (32 ≤ (versionField unknown desc).length ∨ 0 ∈ versionField unknown desc) ∧
      fieldBytes (versionField unknown desc) 32 = versionOr unknown desc := by
  cases desc with
  | none => exact ⟨.inr (by simp [versionField]), hunknown⟩
  | some v =>
    refine ⟨.inl (by simp [versionField]), ?_⟩
    show (v.toList.take 32).takeWhile _ = cstr v
    rw [List.take_of_length_le (by simp)]
    rfl

theorem version_written (field : AppVersion) (output : Vector UInt8 200) :
    ∃ output', escapeJsonVersion field.toList output 200 = some output' ∧
      stringIn output' = some ((cstr field).flatMap versionEscaped) := by
  have hfield := (versionField_spec (by decide : _ = lit "unknown") (some field)).2
  obtain ⟨output', hrun, hstring⟩ :=
    escapeJsonVersion_spec (.inl (by simp) : 32 ≤ field.toList.length ∨ 0 ∈ field.toList) output
  exact ⟨output', hrun, by rw [hstring]; exact congrArg (some <| ·.flatMap versionEscaped) hfield⟩

theorem hasNul_of_wellFormed {c : CloseSchedule} (h : c.wellFormed = true) :
    hasNul c.tz = true := by
  simp only [CloseSchedule.wellFormed, decide_eq_true_eq] at h
  exact h.2.1

/-- **`/status` is JSON, and faithful.**  In every state that the settings can reach, and whatever
the versions of the images hold, the body is `{}` or one object, in which the timezone is that of
the schedule and each version is that of its image, up to its NUL. -/
theorem status_faithful {n : Nvs} {reads : NvsReads} {setenvOk : Bool} {t₀ : ℤ} {es : List Step}
    {w : World} (hrun : control.toLTS.Trace (World.boot n reads setenvOk t₀) es w) (g : GdoNames)
    {s : Server} (hfw : s.fw = w.fw) {q : StatusReads} (hlabels : PlainLabels q s)
    (hclock : ∀ tm ∈ q.clock, TmInRange tm) (running other pending : Vector UInt8 200) :
    ∃ s' body, statusGetHandler g s q running other pending = some (s', body) ∧
      (body = lit "\x7b\x7d" ∨ ∃ ms, bytes.parse body = some (.object ms) ∧
        (ms.map Prod.fst).Nodup ∧
        ms.lookup (lit "timezone") = some (.string (cstr w.fw.closeSchedule.tz)) ∧
        ms.lookup (lit "fw_version") =
          some (.string (codePoints (versionOr "unknown" q.input.slots.runningDesc))) ∧
        ms.lookup (lit "other_fw_version") =
          some (.string (codePoints (versionOr "none" (otherDesc q.input.slots)))) ∧
        ms.lookup (lit "ota_pending_version") =
          some (.string (codePoints (cstr (pendingField s'.ota))))) := by
  have hform : s.fw.closeSchedule.wellFormed = true := by
    rw [hfw]
    exact hrun.invariant (I := fun w => w.fw.closeSchedule.wellFormed = true)
      (boot_schedule reads setenvOk).1 fun e _ hst => wellFormed_step hst
  -- none of the strings that are copied into arrays first is cut short
  obtain ⟨ota, slots, hslots, hrunning, hother, hpending⟩ := slots_plain hlabels
  obtain ⟨localTime, htime⟩ := localTime_isSome hclock
  obtain ⟨hin₁, hfield₁⟩ := versionField_spec (by decide : _ = lit "unknown")
    q.input.slots.runningDesc
  obtain ⟨hin₂, hfield₂⟩ := versionField_spec (by decide : _ = lit "none") (otherDesc q.input.slots)
  obtain ⟨running', hrun₁, hstr₁⟩ := escapeJsonVersion_spec hin₁ running
  obtain ⟨other', hrun₂, hstr₂⟩ := escapeJsonVersion_spec hin₂ other
  obtain ⟨pending', hrun₃, hstr₃⟩ := version_written (pendingField ota) pending
  rw [hfield₁] at hstr₁
  rw [hfield₂] at hstr₂
  have htz : stringIn s.fw.closeSchedule.tz = some (cstr s.fw.closeSchedule.tz) :=
    if_pos (hasNul_of_wellFormed hform)
  obtain ⟨buf, hrender, hparse⟩ := status_printed g (b := s.statusBody q.input slots) q
    (versionOr "unknown" q.input.slots.runningDesc) (versionOr "none" (otherDesc q.input.slots))
    (cstr (pendingField ota)) hlabels.battery hrunning hother hpending (plain_tz hform)
    (plain_localTime htime)
  refine ⟨{ s with ota }, sentBody buf, ?_, ?_⟩
  · simp only [statusGetHandler, hslots, htime, hrun₁, hrun₂, hrun₃, htz, hstr₁, hstr₂, hstr₃,
      hrender, Option.bind_eq_bind, Option.bind_some]
  · -- the object is sent if it fits its buffer, and else the empty one
    rw [sentBody]
    split_ifs
    · have hnames := names_nodup g (s.statusBody q.input slots) q (cstr s.fw.closeSchedule.tz)
        localTime (versionOr "unknown" q.input.slots.runningDesc)
        (versionOr "none" (otherDesc q.input.slots)) (cstr (pendingField ota))
      refine .inr ⟨_, hparse, hnames, ?_, lookup_of_getElem? hnames (i := 32) rfl,
        lookup_of_getElem? hnames (i := 34) rfl, lookup_of_getElem? hnames (i := 36) rfl⟩
      rw [← hfw]
      exact lookup_of_getElem? hnames (i := 24) rfl
    · exact .inl rfl

/-- A version of 32 quotation marks, without a NUL. -/
def quotedStatus : StatusReads where
  input := { lateStatus with
    slots := { lateStatus.slots with runningDesc := some (Vector.replicate 32 34) } }
  ip := some (192, 168, 1, 20)
  resetReason := .powerOn
  clock := none

/-- A library without names. -/
def unnamed : GdoNames :=
  ⟨fun _ => none, fun _ => none, fun _ => none, fun _ => none, fun _ => none, fun _ => none⟩

/-- A server after a boot. -/
def bootedServer (activity : ActivityHistory) : Server where
  fw := (World.boot {} {} true 0).fw
  nvs := {}
  admin := Admin.boot {}
  ota := Ota.boot fun _ => none
  log := someLog 65
  activity := activity

theorem status_faithful_quotes :
    ∃ s' body, statusGetHandler unnamed (bootedServer {}) quotedStatus (Vector.replicate 200 0)
        (Vector.replicate 200 0) (Vector.replicate 200 0) = some (s', body) ∧
      (body = lit "\x7b\x7d" ∨ ∃ ms, bytes.parse body = some (.object ms) ∧
        ms.lookup (lit "fw_version") = some (.string (List.replicate 32 34))) := by
  have hrun : control.toLTS.Trace (World.boot {} {} true 0) [] (World.boot {} {} true 0) :=
    LTS.Trace.nil_iff.2 rfl
  have hlabels : PlainLabels quotedStatus (bootedServer {}) :=
    ⟨by decide, by rintro p ⟨⟩, by rintro p ⟨⟩, by rintro p ⟨⟩⟩
  obtain ⟨s', body, hsent, hbody⟩ := status_faithful hrun unnamed rfl hlabels (by rintro tm ⟨⟩)
    (Vector.replicate 200 0) (Vector.replicate 200 0) (Vector.replicate 200 0)
  refine ⟨s', body, hsent, ?_⟩
  rcases hbody with hempty | ⟨ms, hparse, -, -, hversion, -⟩
  · exact .inl hempty
  · exact .inr ⟨ms, hparse, hversion⟩

end StatusText

end GdoBlaq
