import GdoBlaq.CloseSchedule
import GdoBlaq.Data.Ring
import Mathlib.Data.List.Basic
import Mathlib.Data.List.Chain
import Mathlib.Tactic.Common

/-!
# The log and the activity history

`log_ring_buffer.cpp` keeps the bytes that were logged last, `activity_history.cpp` the last 32
events.  A lock that is not free in time is an input.

## Main results

* `LogRing.kept_put` : how full the log is after one more byte.
* `LogRing.logRing_keeps_last` : the log is the end of what was appended.
* `LogRing.SameFill.ringVprintf` : it depends on how much was logged, not on what.
* `ActivityHistory.activityHistory_keeps_last` : the history is the end of the list of kept events.
-/

namespace GdoBlaq

/-! ### The log -/

/-- The variables of `log_ring_buffer.cpp`.  Without a buffer the capacity is zero. -/
structure LogRing where
  /-- The bytes of `s_buf`. -/
  buf : List UInt8
  writePos : ℕ := 0
  wrapped : Bool := false
  writePos_lt : buf ≠ [] → writePos < buf.length

namespace LogRing

/-- `log_ring_buffer_capacity` -/
def capacity (r : LogRing) : ℕ := r.buf.length

/-- The loop of `ring_vprintf`, one byte. -/
def put (r : LogRing) (c : UInt8) : LogRing :=
  if hroom : r.writePos + 1 < r.buf.length then
    ⟨r.buf.set r.writePos c, r.writePos + 1, r.wrapped, fun _ => by rwa [List.length_set]⟩
  else ⟨r.buf.set r.writePos c, 0, true, List.length_pos_of_ne_nil⟩

/-- `ring_vprintf` of a line as it is formatted, whose first 255 bytes fit its own buffer. -/
def ringVprintf (r : LogRing) (line : List UInt8) (taken : Bool) : LogRing :=
  if line ≠ [] ∧ r.buf ≠ [] ∧ taken = true then (line.take 255).foldl put r else r

/-- How many bytes have been logged, as far as they are kept. -/
def kept (r : LogRing) : ℕ := if r.wrapped then r.capacity else r.writePos

/-- `log_ring_buffer_used` -/
def used (r : LogRing) (taken : Bool) : ℕ := if r.buf ≠ [] ∧ taken = true then r.kept else 0

/-- `log_ring_buffer_read` -/
def read (r : LogRing) (outSize : ℕ) (taken : Bool) : List UInt8 :=
  if r.buf = [] ∨ outSize = 0 ∨ taken = false then []
  else
    let want := min r.kept outSize
    let skip := r.kept - want
    let chronoStart := if r.wrapped then r.writePos else 0
    (List.range want).map fun i => r.buf.getD ((chronoStart + skip + i) % r.capacity) 0

variable {r r' : LogRing}

@[simp] theorem capacity_put (c : UInt8) : (r.put c).capacity = r.capacity := by
  unfold put capacity
  split_ifs <;> exact List.length_set

theorem put_ne_nil (h : r.buf ≠ []) (c : UInt8) : (r.put c).buf ≠ [] := by
  have hlength : (r.put c).buf.length = r.buf.length := capacity_put c
  rw [← List.length_pos_iff, hlength]
  exact List.length_pos_of_ne_nil h

/-- **How full the log is** after one more byte. -/
theorem kept_put (h : r.buf ≠ []) (c : UInt8) :
    (r.put c).kept = min (r.kept + 1) r.capacity := by
  have hlt := r.writePos_lt h
  have hcap := capacity_put (r := r) c
  unfold kept
  rw [hcap]
  unfold put capacity at *
  cases hwrapped : r.wrapped with
  | true => split_ifs <;> simp_all
  | false =>
    split_ifs with hroom <;> simp_all
    omega

/-- Two logs of one size are equally full. -/
structure SameFill (r r' : LogRing) : Prop where
  capacity : r.capacity = r'.capacity
  kept : r.kept = r'.kept

theorem SameFill.buf_ne_nil (h : r.SameFill r') : r.buf ≠ [] ↔ r'.buf ≠ [] := by
  have hlength : r.buf.length = r'.buf.length := h.capacity
  rw [← List.length_pos_iff, ← List.length_pos_iff, hlength]

theorem SameFill.used_eq (h : r.SameFill r') (taken : Bool) : r.used taken = r'.used taken := by
  unfold used
  simp only [h.buf_ne_nil, h.kept]

theorem SameFill.put (h : r.SameFill r') (hne : r.buf ≠ []) (c : UInt8) :
    (r.put c).SameFill (r'.put c) := by
  refine ⟨by rw [capacity_put, capacity_put, h.capacity], ?_⟩
  rw [kept_put hne, kept_put (h.buf_ne_nil.1 hne), h.kept, h.capacity]

theorem SameFill.foldl_put (h : r.SameFill r') (hne : r.buf ≠ []) (line : List UInt8) :
    (line.foldl LogRing.put r).SameFill (line.foldl LogRing.put r') := by
  induction line generalizing r r' with
  | nil => exact h
  | cons c line ih =>
    exact ih (h.put hne c) (put_ne_nil hne c)

/-- The same line fills two logs equally. -/
theorem SameFill.ringVprintf (h : r.SameFill r') (line : List UInt8) (taken : Bool) :
    (r.ringVprintf line taken).SameFill (r'.ringVprintf line taken) := by
  unfold LogRing.ringVprintf
  simp only [h.buf_ne_nil]
  split_ifs with hlogs
  · exact h.foldl_put (h.buf_ne_nil.2 hlogs.2.1) _
  · exact h

/-- The log after `log_ring_buffer_init`: nothing has been written to the allocated bytes. -/
def logRingBufferInit (buf : List UInt8) : LogRing := ⟨buf, 0, false, List.length_pos_of_ne_nil⟩

/-- The bytes `s` have been logged. -/
structure Logged (r : LogRing) (s : List UInt8) : Prop where
  holds : Ring.Holds r.capacity (fun k => r.buf.getD k 0) s
  writePos : r.writePos = s.length % r.capacity
  wrapped : r.wrapped = true ↔ r.capacity ≤ s.length

theorem logged_init {buf : List UInt8} (h : buf ≠ []) : (logRingBufferInit buf).Logged [] where
  holds := Ring.Holds.nil
  writePos := (Nat.zero_mod _).symm
  wrapped := by
    have hpos := List.length_pos_of_ne_nil h
    simp only [logRingBufferInit, capacity, List.length_nil, Nat.le_zero]
    constructor
    · intro hwrapped
      cases hwrapped
    · intro hzero
      omega

theorem buf_put (c : UInt8) : (r.put c).buf = r.buf.set r.writePos c := by
  unfold put
  split_ifs <;> rfl

theorem writePos_put {n : ℕ} (hne : r.buf ≠ []) (h : r.writePos = n % r.capacity) (c : UInt8) :
    (r.put c).writePos = (n + 1) % r.capacity := by
  have hcap : 0 < r.capacity := List.length_pos_of_ne_nil hne
  have hlt := r.writePos_lt hne
  have hnext : (n + 1) % r.capacity = (r.writePos + 1) % r.capacity := by
    rw [h, Nat.mod_add_mod]
  unfold put
  split_ifs with hroom
  · exact (hnext.trans (Nat.mod_eq_of_lt hroom)).symm
  · have hfull : r.writePos + 1 = r.capacity := by
      unfold capacity
      omega
    rw [hnext, hfull, Nat.mod_self]

theorem wrapped_put (c : UInt8) :
    (r.put c).wrapped = (r.wrapped || decide (r.capacity ≤ r.writePos + 1)) := by
  unfold put capacity
  split_ifs with hroom
  · simp [not_le.2 hroom]
  · simp [not_lt.1 hroom]

/-- **One byte more.** -/
theorem Logged.put {s : List UInt8} (h : r.Logged s) (hne : r.buf ≠ []) (c : UInt8) :
    (r.put c).Logged (s ++ [c]) := by
  have hcap : 0 < r.capacity := List.length_pos_of_ne_nil hne
  have hlt : r.writePos < r.buf.length := r.writePos_lt hne
  refine ⟨?_, ?_, ?_⟩
  · rw [capacity_put, buf_put]
    refine h.holds.push hcap ?_ fun k hk hkne => ?_
    · rw [← h.writePos]
      simp [hlt]
    · rw [← h.writePos] at hkne
      simp [List.getD_eq_getElem?_getD, List.getElem?_set_ne (Ne.symm hkne)]
  · rw [capacity_put, List.length_append, writePos_put hne h.writePos, List.length_singleton]
  · have hpos := h.writePos
    have hwrapped := h.wrapped
    rw [capacity_put, wrapped_put, List.length_append, List.length_singleton]
    by_cases hshort : s.length < r.capacity
    · rw [Nat.mod_eq_of_lt hshort] at hpos
      grind
    · grind

theorem capacity_foldl_put (line : List UInt8) :
    (line.foldl LogRing.put r).capacity = r.capacity := by
  induction line generalizing r with
  | nil => rfl
  | cons c line ih => exact ih.trans (capacity_put c)

theorem Logged.foldl_put {s : List UInt8} (h : r.Logged s) (hne : r.buf ≠ [])
    (line : List UInt8) : (line.foldl LogRing.put r).Logged (s ++ line) := by
  induction line generalizing r s with
  | nil => rwa [List.append_nil]
  | cons c line ih =>
    rw [List.append_cons]
    exact ih (h.put hne c) (put_ne_nil hne c)

theorem capacity_ringVprintf (line : List UInt8) (taken : Bool) :
    (r.ringVprintf line taken).capacity = r.capacity := by
  unfold LogRing.ringVprintf
  split_ifs
  · exact capacity_foldl_put _
  · rfl

theorem buf_ne_nil_iff : r.buf ≠ [] ↔ r.capacity ≠ 0 :=
  List.length_eq_zero_iff.not.symm

/-- **One line more.** -/
theorem Logged.ringVprintf {s : List UInt8} (h : r.Logged s) (hne : r.buf ≠ [])
    (line : List UInt8) (taken : Bool) :
    (r.ringVprintf line taken).Logged (s ++ if taken then line.take 255 else []) := by
  unfold LogRing.ringVprintf
  cases taken with
  | false => simpa using h
  | true =>
    by_cases hline : line = []
    · simpa [hline] using h
    · simpa [hline, hne] using h.foldl_put hne (line.take 255)

/-- `ring_vprintf` line after line, each with the answer of its lock. -/
def logLines (r : LogRing) (lines : List (List UInt8 × Bool)) : LogRing :=
  lines.foldl (fun r line => r.ringVprintf line.1 line.2) r

/-- The bytes that the lines appended: up to 255 of each that got the lock. -/
def appended (lines : List (List UInt8 × Bool)) : List UInt8 :=
  lines.flatMap fun line => if line.2 then line.1.take 255 else []

theorem capacity_logLines (lines : List (List UInt8 × Bool)) :
    (r.logLines lines).capacity = r.capacity := by
  induction lines generalizing r with
  | nil => rfl
  | cons line lines ih => exact ih.trans (capacity_ringVprintf line.1 line.2)

theorem Logged.logLines {s : List UInt8} (h : r.Logged s) (hne : r.buf ≠ [])
    (lines : List (List UInt8 × Bool)) : (r.logLines lines).Logged (s ++ appended lines) := by
  induction lines generalizing r s with
  | nil => simpa [LogRing.logLines, appended] using h
  | cons line lines ih =>
    have hkeeps : (r.ringVprintf line.1 line.2).buf ≠ [] := by
      rw [buf_ne_nil_iff, capacity_ringVprintf]
      exact buf_ne_nil_iff.1 hne
    have hrest := ih (h.ringVprintf hne line.1 line.2) hkeeps
    rw [List.append_assoc] at hrest
    exact hrest

theorem Logged.kept {s : List UInt8} (h : r.Logged s) : r.kept = min s.length r.capacity := by
  have hpos := h.writePos
  unfold LogRing.kept
  cases hwrapped : r.wrapped with
  | true =>
    have hlong := h.wrapped.1 hwrapped
    simp [hlong]
  | false =>
    have hshort : s.length < r.capacity := by
      rw [← not_le, ← h.wrapped, hwrapped]
      decide
    rw [Nat.mod_eq_of_lt hshort] at hpos
    simp [hpos, hshort.le]

/-- **Reading gives the end of what was logged.** -/
theorem Logged.read {s : List UInt8} (h : r.Logged s) (hne : r.buf ≠ []) (outSize : ℕ) :
    r.read outSize true = s.rtake (min (min s.length r.capacity) outSize) := by
  by_cases hzero : outSize = 0
  · simp [LogRing.read, hzero]
  have hpos := h.writePos
  rw [← h.holds.read (by omega) (by omega)]
  unfold LogRing.read
  rw [if_neg (by simp [hne, hzero]), h.kept]
  refine List.map_congr_left fun i hi => ?_
  rw [List.mem_range] at hi
  congr 1
  cases hwrapped : r.wrapped with
  | true =>
    have hlong := h.wrapped.1 hwrapped
    simp only [if_true, min_eq_right hlong] at hi ⊢
    calc (r.writePos + (r.capacity - min r.capacity outSize) + i) % r.capacity
        = (s.length + (r.capacity - min r.capacity outSize) + i) % r.capacity := by
          rw [hpos, Nat.add_assoc, Nat.mod_add_mod, Nat.add_assoc]
      _ = (r.capacity + (s.length - min r.capacity outSize + i)) % r.capacity := by
          congr 1
          omega
      _ = (s.length - min r.capacity outSize + i) % r.capacity := Nat.add_mod_left _ _
  | false =>
    have hshort : s.length < r.capacity := by
      rw [← not_le, ← h.wrapped, hwrapped]
      decide
    simp [min_eq_left hshort.le]

/-- The log after these lines. -/
def logOf (buf : List UInt8) (lines : List (List UInt8 × Bool)) : LogRing :=
  (logRingBufferInit buf).logLines lines

/-- **The log keeps the bytes that were appended last.**  For every capacity and every sequence of
lines, each with what its wait for the lock came to, `log_ring_buffer_used` is the number of bytes
appended, up to the capacity, and `log_ring_buffer_read` the last of them in their order, as many
as were asked for.  A reader that does not get the lock reads nothing. -/
theorem logRing_keeps_last {buf : List UInt8} (h : buf ≠ [])
    (lines : List (List UInt8 × Bool)) :
    (logOf buf lines).writePos < buf.length ∧
      (logOf buf lines).used true = min (appended lines).length buf.length ∧
      (∀ outSize, (logOf buf lines).read outSize true =
        (appended lines).rtake (min (min (appended lines).length buf.length) outSize)) ∧
      (logOf buf lines).used false = 0 ∧ ∀ outSize, (logOf buf lines).read outSize false = [] := by
  have hlogged : (logOf buf lines).Logged (appended lines) := (logged_init h).logLines h lines
  have hcapacity : (logOf buf lines).capacity = buf.length := capacity_logLines lines
  have hne : (logOf buf lines).buf ≠ [] := by
    rw [buf_ne_nil_iff, hcapacity]
    exact (List.length_pos_of_ne_nil h).ne'
  refine ⟨?_, ?_, ?_, ?_, ?_⟩
  · rw [← hcapacity]
    exact (logOf buf lines).writePos_lt hne
  · rw [used, if_pos ⟨hne, rfl⟩, hlogged.kept, hcapacity]
  · intro outSize
    rw [hlogged.read hne, hcapacity]
  · exact if_neg fun hlock => Bool.false_ne_true hlock.2
  · intro outSize
    exact if_pos (.inr (.inr rfl))

/-- Three lines in a buffer of four bytes, one of which did not get the lock. -/
theorem logRing_keeps_last_four :
    (logOf [0, 0, 0, 0] [([1, 2, 3], true), ([9], false), ([4, 5], true)]).writePos < 4 ∧
      (logOf [0, 0, 0, 0] [([1, 2, 3], true), ([9], false), ([4, 5], true)]).used true =
        min (appended [([1, 2, 3], true), ([9], false), ([4, 5], true)]).length 4 ∧
      (∀ outSize,
        (logOf [0, 0, 0, 0] [([1, 2, 3], true), ([9], false), ([4, 5], true)]).read outSize true =
          (appended [([1, 2, 3], true), ([9], false), ([4, 5], true)]).rtake
            (min (min (appended [([1, 2, 3], true), ([9], false), ([4, 5], true)]).length 4)
              outSize)) ∧
      (logOf [0, 0, 0, 0] [([1, 2, 3], true), ([9], false), ([4, 5], true)]).used false = 0 ∧
      ∀ outSize,
        (logOf [0, 0, 0, 0] [([1, 2, 3], true), ([9], false), ([4, 5], true)]).read outSize false =
          [] :=
  logRing_keeps_last (by decide) _

end LogRing

/-! ### The activity history -/

/-- `activity_entry_t`, its texts as C strings. -/
structure ActivityEntry where
  id : ℕ := 0
  uptimeMs : ℤ := 0
  unixTime : ℤ := 0
  source : CStr := []
  message : CStr := []
  deriving DecidableEq

/-- `ACTIVITY_HISTORY_CAPACITY` -/
def activityHistoryCapacity : ℕ := 32

/-- The variables of `activity_history.cpp`. -/
structure ActivityHistory where
  ring : Vector ActivityEntry 32 := .replicate 32 {}
  next : Fin 32 := 0
  count : ℕ := 0
  /-- `s_activity_sequence`, a `uint32_t`. -/
  sequence : BitVec 32 := 0

/-- A call of `activity_record`, with the times it reads. -/
structure ActivityNote where
  source : Option CStr
  message : Option CStr
  uptimeMs : ℤ
  wall : ℤ
  deriving DecidableEq

namespace ActivityHistory

/-- `activity_record` -/
def activityRecord (h : ActivityHistory) (note : ActivityNote) : ActivityHistory :=
  match note.source, note.message with
  | some source, some message =>
    if message = [] then h
    else
      let unixTime := if 1704067200 ≤ note.wall then note.wall else 0
      let entry : ActivityEntry :=
        { uptimeMs := note.uptimeMs, unixTime
          source := source.take 23, message := message.take 127 }
      let previous := h.ring.get (h.next + 31)
      if h.count ≠ 0 ∧ previous.source = entry.source ∧ previous.message = entry.message then h
      else
        let sequence := h.sequence + 1
        { ring := h.ring.set h.next.val { entry with id := sequence.toNat } h.next.isLt
          next := h.next + 1
          count := if h.count < activityHistoryCapacity then h.count + 1 else h.count
          sequence }
  | _, _ => h

/-- `activity_read` -/
def activityRead (h : ActivityHistory) (capacity : ℕ) : List ActivityEntry :=
  let count := min capacity h.count
  let start := (h.next.val + activityHistoryCapacity - count) % activityHistoryCapacity
  (List.range count).map fun i => h.ring.get (Fin.ofNat 32 (start + i))

/-! The history beside the list of all events that were kept. -/

/-- The texts of an event are those of the one kept before it. -/
def repeats (kept : List ActivityEntry) (source message : CStr) : Bool :=
  kept.getLast?.any fun e => e.source = source.take 23 ∧ e.message = message.take 127

/-- The list of kept events after one more call. -/
def keep (kept : List ActivityEntry) (note : ActivityNote) : List ActivityEntry :=
  match note.source, note.message with
  | some source, some message =>
    if message = [] ∨ repeats kept source message = true then kept
    else
      kept ++ [{
        id := kept.length + 1
        uptimeMs := note.uptimeMs
        unixTime := if 1704067200 ≤ note.wall then note.wall else 0
        source := source.take 23
        message := message.take 127 }]
  | _, _ => kept

/-- All events kept, the oldest first. -/
def keptEvents (notes : List ActivityNote) : List ActivityEntry := notes.foldl keep []

/-- An event with its id as `s_activity_sequence` counts it. -/
def numbered (e : ActivityEntry) : ActivityEntry := { e with id := e.id % 2 ^ 32 }

/-- The history holds the end of the list. -/
structure Keeps (h : ActivityHistory) (kept : List ActivityEntry) : Prop where
  holds : Ring.Holds 32 (fun k => h.ring.get (Fin.ofNat 32 k)) (kept.map numbered)
  next : h.next.val = kept.length % 32
  count : h.count = min kept.length 32
  sequence : h.sequence.toNat = kept.length % 2 ^ 32

theorem keeps_empty : Keeps {} [] := ⟨Ring.Holds.nil, rfl, rfl, rfl⟩

variable {h : ActivityHistory} {kept : List ActivityEntry}

/-- **The slot before the next one** is that of the event kept last. -/
theorem Keeps.previous (hkeeps : Keeps h kept) (source message : CStr) :
    (h.count ≠ 0 ∧ (h.ring.get (h.next + 31)).source = source.take 23 ∧
      (h.ring.get (h.next + 31)).message = message.take 127) ↔
        repeats kept source message = true := by
  unfold repeats
  rcases List.eq_nil_or_concat' kept with rfl | ⟨init, last, rfl⟩
  · simp [hkeeps.count]
  · have hlast := hkeeps.holds init.length (by simp) (by simp)
    have hslot : Fin.ofNat 32 (init.length % 32) = h.next + 31 := by
      have hnext := hkeeps.next
      rw [List.length_append, List.length_singleton] at hnext
      have hval : (31 : Fin 32).val = 31 := rfl
      refine Fin.ext ?_
      rw [Fin.val_add, hnext, Fin.val_ofNat, hval]
      omega
    simp only [hslot] at hlast
    simp [hkeeps.count, hlast, numbered]

/-- Writing an event into the next slot. -/
theorem Keeps.write (hkeeps : Keeps h kept) {e : ActivityEntry} (hid : e.id = kept.length + 1) :
    Keeps
      { ring := h.ring.set h.next.val { e with id := (h.sequence + 1).toNat } h.next.isLt
        next := h.next + 1
        count := if h.count < activityHistoryCapacity then h.count + 1 else h.count
        sequence := h.sequence + 1 } (kept ++ [e]) := by
  have hnext := hkeeps.next
  have hcount := hkeeps.count
  have hone : (1 : Fin 32).val = 1 := rfl
  have hsequence : (h.sequence + 1).toNat = (kept.length + 1) % 2 ^ 32 := by
    rw [BitVec.toNat_add, hkeeps.sequence]
    exact Nat.mod_add_mod ..
  refine ⟨?_, ?_, ?_, ?_⟩
  · rw [List.map_append, List.map_singleton]
    refine hkeeps.holds.push (by decide) ?_ fun k hk hne => ?_
    · have hslot : Fin.ofNat 32 ((kept.map numbered).length % 32) = h.next := by
        refine Fin.ext ?_
        rw [List.length_map, Fin.val_ofNat, hnext, Nat.mod_mod]
      simp only [hslot, numbered, hid, hsequence]
      exact Vector.getElem_set_self _
    · have hother : h.next.val ≠ (Fin.ofNat 32 k).val := by
        rw [List.length_map] at hne
        rw [hnext, Fin.val_ofNat, Nat.mod_eq_of_lt hk]
        exact Ne.symm hne
      exact Vector.getElem_set_ne h.next.isLt (Fin.isLt _) hother
  · rw [Fin.val_add, hnext, List.length_append, List.length_singleton, hone]
    omega
  · rw [List.length_append, List.length_singleton]
    unfold activityHistoryCapacity
    simp only
    split_ifs <;> omega
  · rw [hsequence, List.length_append, List.length_singleton]

/-- **One call more.** -/
theorem Keeps.activityRecord (hkeeps : Keeps h kept) (note : ActivityNote) :
    Keeps (h.activityRecord note) (keep kept note) := by
  cases hsource : note.source with
  | none =>
    have hkeep : keep kept note = kept := by simp [keep, hsource]
    have hrecord : h.activityRecord note = h := by
      simp [ActivityHistory.activityRecord, hsource]
    rwa [hkeep, hrecord]
  | some source =>
    cases hmessage : note.message with
    | none =>
      have hkeep : keep kept note = kept := by simp [keep, hsource, hmessage]
      have hrecord : h.activityRecord note = h := by
        simp [ActivityHistory.activityRecord, hsource, hmessage]
      rwa [hkeep, hrecord]
    | some message =>
      have hprevious := hkeeps.previous source message
      unfold ActivityHistory.activityRecord
      unfold keep
      simp only [hsource, hmessage]
      by_cases hempty : message = []
      · rwa [if_pos hempty, if_pos (.inl hempty)]
      · rw [if_neg hempty]
        by_cases hrepeats : repeats kept source message = true
        · rwa [if_pos (hprevious.2 hrepeats), if_pos (.inr hrepeats)]
        · have hnew : ¬ (message = [] ∨ repeats kept source message = true) :=
            not_or.2 ⟨hempty, hrepeats⟩
          rw [if_neg (hprevious.not.2 hrepeats), if_neg hnew]
          exact hkeeps.write (e := ⟨kept.length + 1, _, _, _, _⟩) rfl

/-- **All calls.** -/
theorem Keeps.foldl_activityRecord (hkeeps : Keeps h kept) (notes : List ActivityNote) :
    Keeps (notes.foldl ActivityHistory.activityRecord h) (notes.foldl keep kept) := by
  induction notes generalizing h kept with
  | nil => exact hkeeps
  | cons note notes ih => exact ih (hkeeps.activityRecord note)

/-- **Reading gives the end of the list.** -/
theorem Keeps.activityRead (hkeeps : Keeps h kept) (capacity : ℕ) :
    h.activityRead capacity = (kept.rtake (min capacity (min kept.length 32))).map numbered := by
  have hnext := hkeeps.next
  have hread : (kept.rtake (min capacity (min kept.length 32))).map numbered =
      (kept.map numbered).rtake (min capacity (min kept.length 32)) := by
    rw [List.rtake, List.rtake, List.length_map, List.map_drop]
  rw [hread, ← hkeeps.holds.read (by omega) (by rw [List.length_map]; omega), List.length_map]
  unfold ActivityHistory.activityRead activityHistoryCapacity
  rw [hkeeps.count]
  refine List.map_congr_left fun i _ => congrArg h.ring.get (Fin.ext ?_)
  simp only [Fin.val_ofNat]
  omega

/-- In the list the ids count the events, and no event repeats the one before it. -/
structure Ordered (kept : List ActivityEntry) : Prop where
  last_id : ∀ e ∈ kept.getLast?, e.id = kept.length
  ids : kept.IsChain fun e e' => e'.id = e.id + 1
  differ : kept.IsChain fun e e' => ¬ (e.source = e'.source ∧ e.message = e'.message)
  id_le : ∀ e ∈ kept, e.id ≤ kept.length

theorem ordered_nil : Ordered [] := ⟨by simp, .nil, .nil, by simp⟩

theorem Ordered.snoc (hordered : Ordered kept) {e : ActivityEntry} (hid : e.id = kept.length + 1)
    (hdiffer : ∀ e' ∈ kept.getLast?, ¬ (e'.source = e.source ∧ e'.message = e.message)) :
    Ordered (kept ++ [e]) where
  last_id := by simp [hid]
  ids := hordered.ids.append (.singleton e) fun e' he' e'' he'' => by
    obtain rfl : e = e'' := by simpa using he''
    rw [hid, hordered.last_id e' he']
  differ := hordered.differ.append (.singleton e) fun e' he' e'' he'' => by
    obtain rfl : e = e'' := by simpa using he''
    exact hdiffer e' he'
  id_le := by
    intro e' he'
    rw [List.length_append, List.length_singleton]
    rcases List.mem_append.1 he' with hbefore | hnew
    · exact Nat.le_succ_of_le (hordered.id_le e' hbefore)
    · rw [List.mem_singleton.1 hnew, hid]

theorem Ordered.keep (hordered : Ordered kept) (note : ActivityNote) :
    Ordered (keep kept note) := by
  unfold ActivityHistory.keep
  split
  · split
    case isTrue => exact hordered
    case isFalse hkeeps =>
      rw [not_or] at hkeeps
      refine hordered.snoc rfl fun e' he' hsame => hkeeps.2 ?_
      rw [repeats, Option.any_eq_true]
      exact ⟨e', he', by simpa using hsame⟩
  · exact hordered

theorem ordered_keptEvents (notes : List ActivityNote) : Ordered (keptEvents notes) := by
  have hall : ∀ kept, Ordered kept → Ordered (notes.foldl ActivityHistory.keep kept) := by
    induction notes with
    | nil => exact fun kept hordered => hordered
    | cons note notes ih => exact fun kept hordered => ih _ (hordered.keep note)
  exact hall [] ordered_nil

theorem Ordered.numbered_eq (hordered : Ordered kept) (hfew : kept.length < 2 ^ 32)
    {e : ActivityEntry} (he : e ∈ kept) : numbered e = e := by
  rw [numbered, Nat.mod_eq_of_lt (lt_of_le_of_lt (hordered.id_le e he) hfew)]

/-- **The history is the end of the list of kept events.**  For every sequence of calls that keeps
fewer than 2^32 events, and every capacity, `activity_read` returns the last of them in their
order, up to the capacity and up to 32; their ids go up by one, and none repeats the one before
it. -/
theorem activityHistory_keeps_last {notes : List ActivityNote}
    (hfew : (keptEvents notes).length < 2 ^ 32) (capacity : ℕ) :
    let h := notes.foldl ActivityHistory.activityRecord {}
    h.activityRead capacity =
        (keptEvents notes).rtake (min capacity (min 32 (keptEvents notes).length)) ∧
      (h.activityRead capacity).IsChain (fun e e' => e'.id = e.id + 1) ∧
      (h.activityRead capacity).IsChain
        fun e e' => ¬ (e.source = e'.source ∧ e.message = e'.message) := by
  intro h
  have hkeeps : Keeps h (keptEvents notes) := keeps_empty.foldl_activityRecord notes
  have hordered := ordered_keptEvents notes
  have hnumbered : ∀ k, ((keptEvents notes).rtake k).map numbered = (keptEvents notes).rtake k :=
    fun k => (List.map_congr_left fun e he =>
      hordered.numbered_eq hfew (List.mem_of_mem_drop he)).trans (List.map_id _)
  have hread := hkeeps.activityRead capacity
  rw [min_comm (keptEvents notes).length, hnumbered] at hread
  rw [hread]
  exact ⟨rfl, hordered.ids.drop _, hordered.differ.drop _⟩

/-- Two messages, one of them twice and one without a text, and room for one. -/
theorem activityHistory_keeps_last_one :
    let notes : List ActivityNote :=
      [⟨some (lit "door"), some (lit "open"), 1000, 0⟩,
        ⟨some (lit "door"), some (lit "open"), 2000, 0⟩, ⟨some (lit "door"), none, 3000, 0⟩,
        ⟨some (lit "door"), some (lit "closed"), 4000, 0⟩]
    let h := notes.foldl ActivityHistory.activityRecord {}
    h.activityRead 1 =
        (keptEvents notes).rtake (min 1 (min 32 (keptEvents notes).length)) ∧
      (h.activityRead 1).IsChain (fun e e' => e'.id = e.id + 1) ∧
      (h.activityRead 1).IsChain
        fun e e' => ¬ (e.source = e'.source ∧ e.message = e'.message) :=
  activityHistory_keeps_last (by decide) 1

end ActivityHistory

end GdoBlaq
