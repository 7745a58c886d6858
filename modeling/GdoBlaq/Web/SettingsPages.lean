import GdoBlaq.Control.LegalRange
import GdoBlaq.Web.Form
import GdoBlaq.Web.Ota

/-!
# The settings pages

The three handlers that save settings.  The auto-close page saves two settings with one request,
one after the other.

## Main results

* `autoCloseSettingsPostHandler_cases` : a request is turned down before anything is saved, or its
  two settings are saved in turn.
* `refused_changes_nothing_iff` : when a request that is answered with an error has changed nothing.
-/

namespace GdoBlaq

open Firmware

/-- The reply is an error. -/
def HttpReply.IsError : HttpReply → Prop
  | .unauthorized | .error _ _ | .serverError => True
  | _ => False

instance : DecidablePred HttpReply.IsError
  | .unauthorized | .error _ _ | .serverError => .isTrue trivial
  | .text _ | .image _ _ _ | .status _ | .empty => .isFalse id

/-- The body of a request as it is announced and received. -/
structure FormRequest where
  /-- `content_len`, a `size_t`. -/
  contentLen : BitVec 32
  chunks : List (List UInt8)
  deriving DecidableEq

/-- The head of the handlers: the body as a C string in a buffer of `size` bytes, or the answer to
a request whose body does not fit or cannot be read. -/
def readForm (size : ℤ) (badLength : String) (req : FormRequest) : Except HttpReply CStr :=
  let len := req.contentLen.toInt
  if len ≤ 0 ∨ size ≤ len then .error (.error 400 badLength)
  else match recvBody len.toNat req.chunks with
    | some body => .ok (cstring body)
    | none => .error (.error 400 "Failed to read body")

/-- The number of minutes that an auto-close request asks for. -/
def formMinutes (buf : CStr) : ℕ :=
  match strstr buf (lit "minutes=") with
  | some m => strtoul (m.drop (lit "minutes=").length)
  | none => 60

/-- The first half of `auto_close_settings_post_handler`: what is to be saved. -/
def autoCloseForm (req : FormRequest) : Except HttpReply (Bool × ℕ) :=
  match readForm 64 "Bad request body" req with
  | .error reply => .error reply
  | .ok buf =>
    let minutes := formMinutes buf
    if minutes = 0 ∨ 1440 < minutes then
      .error (.error 400 "Minutes must be between 1 and 1440")
    else .ok ((strstr buf (lit "enabled=1")).isSome, minutes)

/-- `auto_close_settings_post_handler` -/
def autoCloseSettingsPostHandler (s : Firmware) (n : Nvs) (authorized : Bool) (req : FormRequest)
    (timeoutWrite enabledWrite : NvsWrite) : Firmware × Nvs × HttpReply :=
  if !authorized then (s, n, .unauthorized)
  else match autoCloseForm req with
    | .error reply => (s, n, reply)
    | .ok (enabled, minutes) =>
      let (s, n, err) := gdoSetAutoCloseTimeoutMs s n (minutes * 60000) timeoutWrite
      if err ≠ .ok then (s, n, .serverError)
      else
        let (s, n, err) := gdoSetAutoCloseEnabled s n enabled enabledWrite
        (s, n, if err ≠ .ok then .serverError else .text "OK")

/-- `pre_close_buzzer_post_handler` -/
def preCloseBuzzerPostHandler (s : Firmware) (n : Nvs) (authorized : Bool) (req : FormRequest)
    (write : NvsWrite) : Firmware × Nvs × HttpReply :=
  if !authorized then (s, n, .unauthorized)
  else match readForm 32 "Bad body length" req with
    | .error reply => (s, n, reply)
    | .ok buf =>
      let (s, n, err) := gdoSetPreCloseBuzzer s n (strstr buf (lit "enabled=1")).isSome write
      (s, n, if err ≠ .ok then .serverError else .text "OK")

/-- `close_schedule_post_handler` -/
def closeSchedulePostHandler (s : Firmware) (n : Nvs) (authorized : Bool) (req : FormRequest)
    (write : NvsWrite) (applied restored : Bool) : Firmware × Nvs × HttpReply :=
  if !authorized then (s, n, .unauthorized)
  else match readForm 256 "Bad request body" req with
    | .error reply => (s, n, reply)
    | .ok buf =>
      match closeScheduleParseForm buf with
      | .badTime => (s, n, .error 400 "Time must be HH:MM (00:00-23:59)")
      | .badTz =>
        (s, n, .error 400 ("Timezone must be a POSIX TZ string with a UTC offset, e.g. " ++
          "EST5EDT,M3.2.0,M11.1.0 (not a name like EST or America/New_York)"))
      | .ok schedule =>
        let (s, n, err) := gdoSetCloseSchedule s n (some schedule) write applied restored
        (s, n, if err ≠ .ok then .serverError else .text "OK")

/-! ### A refused request -/

/-- The auto-close settings, what is stored of them, and the generation. -/
def autoCloseState (s : Firmware) (n : Nvs) : ℕ × Bool × Option ℕ × Option ℕ × ℕ :=
  (s.autoCloseTimeoutMs, s.autoCloseEnabled, n.autoCloseMs, n.autoCloseEn, s.closeGeneration)

section Refused

variable {s : Firmware} {n : Nvs} {req : FormRequest} {timeoutWrite enabledWrite : NvsWrite}

theorem autoCloseForm_ok {enabled : Bool} {minutes : ℕ}
    (h : autoCloseForm req = .ok (enabled, minutes)) : TimeoutInRange (minutes * 60000) := by
  unfold autoCloseForm at h
  split at h
  · cases h
  · simp only at h
    split_ifs at h with hrange
    cases h
    constructor <;> omega

theorem gdoSetAutoCloseTimeoutMs_of_inRange {ms : ℕ} (h : TimeoutInRange ms) (w : NvsWrite) :
    gdoSetAutoCloseTimeoutMs s n ms w =
      if w.err = .ok then
        ({ s.bump with autoCloseTimeoutMs := ms }, { n with autoCloseMs := some ms }, .ok)
      else (s, if w.stores then { n with autoCloseMs := some ms } else n, w.err) := by
  have hrange : ¬ (ms < 60000 ∨ 86400000 < ms) := by
    unfold TimeoutInRange at h
    omega
  by_cases hok : w.err = .ok
  · simp [gdoSetAutoCloseTimeoutMs, saveSetting, hrange, hok, w.stores_of_err hok]
  · simp [gdoSetAutoCloseTimeoutMs, saveSetting, hrange, hok]

theorem gdoSetAutoCloseEnabled_spec (enabled : Bool) (w : NvsWrite) :
    ∃ s' n', gdoSetAutoCloseEnabled s n enabled w = (s', n', w.err) ∧
      s.closeGeneration ≤ s'.closeGeneration := by
  unfold gdoSetAutoCloseEnabled
  rcases saveSetting_cases (s := s) (n := n) (w := w) { n with autoCloseEn := some enabled.toNat }
    (fun s => { s with autoCloseEnabled := enabled }) with ⟨n', -, -, he⟩ | ⟨hok, he⟩
  · exact ⟨s, n', he, le_rfl⟩
  · exact ⟨_, _, hok ▸ he, Nat.le_succ s.closeGeneration⟩

/-- **What an accepted request does.**  The timeout is saved first; only if that succeeds, and the
generation has grown, is the flag saved too. -/
theorem autoCloseSettingsPostHandler_cases {enabled : Bool} {minutes : ℕ}
    (hform : autoCloseForm req = .ok (enabled, minutes)) :
    (timeoutWrite.err ≠ .ok ∧
      autoCloseSettingsPostHandler s n true req timeoutWrite enabledWrite =
        (s, if timeoutWrite.stores then { n with autoCloseMs := some (minutes * 60000) } else n,
          .serverError)) ∨
    ∃ s' n', timeoutWrite.err = .ok ∧ s.closeGeneration < s'.closeGeneration ∧
      autoCloseSettingsPostHandler s n true req timeoutWrite enabledWrite =
        (s', n', if enabledWrite.err ≠ .ok then .serverError else .text "OK") := by
  have hsave := gdoSetAutoCloseTimeoutMs_of_inRange (s := s) (n := n) (autoCloseForm_ok hform)
    timeoutWrite
  by_cases htimeout : timeoutWrite.err = .ok
  · rw [if_pos htimeout] at hsave
    generalize hs : ({ s.bump with autoCloseTimeoutMs := minutes * 60000 } : Firmware) = s₁ at hsave
    generalize ({ n with autoCloseMs := some (minutes * 60000) } : Nvs) = n₁ at hsave
    have hbump : s.closeGeneration < s₁.closeGeneration := by
      rw [← hs]
      exact Nat.lt_succ_self s.closeGeneration
    obtain ⟨s', n', he, hgen⟩ :=
      gdoSetAutoCloseEnabled_spec (s := s₁) (n := n₁) enabled enabledWrite
    refine .inr ⟨s', n', htimeout, hbump.trans_le hgen, ?_⟩
    simp [autoCloseSettingsPostHandler, hform, hsave, he]
  · rw [if_neg htimeout] at hsave
    exact .inl ⟨htimeout, by simp [autoCloseSettingsPostHandler, hform, hsave, htimeout]⟩

/-- **A request that is turned down changes nothing, unless the second save fails.**  A request
answered with an error leaves the auto-close settings, their stored values and the generation as
they were, if and only if, should it be accepted, not only its first save succeeds, and a failed
first save leaves nothing new behind. -/
theorem refused_changes_nothing_iff (s : Firmware) (n : Nvs) (authorized : Bool)
    (req : FormRequest) (timeoutWrite enabledWrite : NvsWrite) :
    ((autoCloseSettingsPostHandler s n authorized req timeoutWrite enabledWrite).2.2.IsError →
      autoCloseState
          (autoCloseSettingsPostHandler s n authorized req timeoutWrite enabledWrite).1
          (autoCloseSettingsPostHandler s n authorized req timeoutWrite enabledWrite).2.1 =
        autoCloseState s n) ↔
    ∀ enabled minutes, authorized = true → autoCloseForm req = .ok (enabled, minutes) →
      (timeoutWrite.err = .ok → enabledWrite.err = .ok) ∧
        (timeoutWrite.err ≠ .ok → timeoutWrite.stores = true →
          n.autoCloseMs = some (minutes * 60000)) := by
  cases authorized with
  | false => simp [autoCloseSettingsPostHandler]
  | true =>
    cases hform : autoCloseForm req with
    | error reply => simp [autoCloseSettingsPostHandler, hform]
    | ok x =>
      obtain ⟨enabled, minutes⟩ := x
      rcases @autoCloseSettingsPostHandler_cases s n req timeoutWrite enabledWrite enabled minutes
        hform with ⟨herr, he⟩ | ⟨s', n', hok, hgen, he⟩
      · rw [he]
        have hstored : autoCloseState s
            (if timeoutWrite.stores then { n with autoCloseMs := some (minutes * 60000) } else n) =
              autoCloseState s n ↔
            (timeoutWrite.stores = true → n.autoCloseMs = some (minutes * 60000)) := by
          cases timeoutWrite.stores with
          | false => simp
          | true => simp [autoCloseState, eq_comm]
        simp [hstored, herr, HttpReply.IsError]
      · have hchanged : autoCloseState s' n' ≠ autoCloseState s n := by
          intro heq
          simp only [autoCloseState, Prod.mk.injEq] at heq
          omega
        by_cases henabled : enabledWrite.err = .ok
        · simp [he, hok, henabled, HttpReply.IsError]
        · simp [he, hok, henabled, hchanged, HttpReply.IsError]

/-- A form that turns auto-close off, with a timeout of one minute. -/
def offForm : FormRequest := ⟨19, [lit "enabled=0&minutes=1"]⟩

/-- **The second save fails**: the request is answered with an error, and the door now closes after
one minute, with auto-close still on. -/
theorem half_saved :
    let r := autoCloseSettingsPostHandler { autoCloseEnabled := true } {} true offForm {}
      { setErr := .fail }
    r.2.2 = .serverError ∧ r.1.autoCloseTimeoutMs = 60000 ∧ r.1.autoCloseEnabled = true ∧
      ¬ (r.2.2.IsError → autoCloseState r.1 r.2.1 =
        autoCloseState { autoCloseEnabled := true } {}) := by
  have hform : autoCloseForm offForm = .ok (false, 1) := by decide +kernel
  simp only [autoCloseSettingsPostHandler, hform]
  decide +kernel

end Refused

end GdoBlaq
