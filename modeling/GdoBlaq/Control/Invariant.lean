import GdoBlaq.Control.Effect

/-!
# Invariants of the warnings under way

What holds of the sleeping warnings in every state of a run: their records are not ahead of the
counters, the user's slot belongs to the newest user close, and the one slot of each automatic
close is that of its only warning.

The auto-close slot is guarded by time alone: two auto-close warnings cannot overlap because a
warning is over before a whole timeout has passed again.  Those invariants are conditional on
`World.Calm`.

## Main results

* `Bookkeeping`, `UserSlot`, `SchedSlot`, `AutoSlot` and their `.step` lemmas.
* `Sound.trace` : all of them hold in every state of a run.
-/

namespace GdoBlaq

open Firmware

/-! ### Sleeping warnings -/

namespace World

/-- The warnings under way. -/
def sleeping (w : World) : List Warning := (List.range w.nextTask).filterMap w.tasks

/-- No sleeping warning has seen a full turn of the generation counter. -/
def NoWrap (w : World) : Prop := ∀ v ∈ w.sleeping, w.fw.closeGeneration < v.generation + 2 ^ 32

/-- No sleeping user close has seen a full turn of the generation counter. -/
def NoUserTurn (w : World) : Prop :=
  ∀ v ∈ w.sleeping, v.kind = .user → w.fw.closeGeneration < v.generation + 2 ^ 32

theorem NoWrap.user {w : World} (h : w.NoWrap) : w.NoUserTurn := fun v hv _ => h v hv

/-- Every sleeping warning was started less than a minute ago. -/
def Young (w : World) : Prop := ∀ v ∈ w.sleeping, w.clock < v.startMs + 60000

instance (w : World) : Decidable w.NoWrap := inferInstanceAs (Decidable (∀ _ ∈ _, _))

instance (w : World) : Decidable w.NoUserTurn := inferInstanceAs (Decidable (∀ _ ∈ _, _))

instance (w : World) : Decidable w.Young := inferInstanceAs (Decidable (∀ _ ∈ _, _))

/-- The step does not start an auto-close warning while another one sleeps. -/
def autoClear (w : World) : Call → Bool
  | .watchdogAutoClose current _ =>
    autoCloseStillDue w.fw w.clock current = true → ∀ v ∈ w.sleeping, v.kind ≠ .auto
  | _ => true

/-- The conditions under which auto-close warnings do not overlap: they are short, and the timeout
in force is at least a minute. -/
structure Calm (w : World) : Prop where
  noWrap : w.NoWrap
  young : w.Young
  timeout : 60000 ≤ w.fw.autoCloseTimeoutMs

instance (w : World) : Decidable w.Calm :=
  decidable_of_iff (w.NoWrap ∧ w.Young ∧ 60000 ≤ w.fw.autoCloseTimeoutMs)
    ⟨fun h => ⟨h.1, h.2.1, h.2.2⟩, fun h => ⟨h.1, h.2, h.3⟩⟩

end World

/-! ### Task tables -/

section Tasks

variable {f : ℕ → Option Warning} {i j : ℕ} {u v : Warning}

theorem update_none_eq_some :
    Function.update f i none j = some v ↔ j ≠ i ∧ f j = some v := by
  by_cases h : j = i
  · subst h; simp
  · simp [h]

theorem update_some_eq_some :
    Function.update f i (some u) j = some v ↔ (j = i ∧ u = v) ∨ (j ≠ i ∧ f j = some v) := by
  by_cases h : j = i
  · subst h; simp
  · simp [h]

/-- Every warning of the kind in the table `g` was in the table `f`. -/
def NoNew (kind : WarningKind) (f g : ℕ → Option Warning) : Prop :=
  ∀ i v, g i = some v → v.kind = kind → f i = some v

variable {kind : WarningKind}

theorem NoNew.refl (kind : WarningKind) (f : ℕ → Option Warning) : NoNew kind f f :=
  fun _ _ h _ => h

theorem NoNew.finish (kind : WarningKind) (i : ℕ) : NoNew kind f (Function.update f i none) :=
  fun _ _ h _ => (update_none_eq_some.1 h).2

theorem NoNew.spawn (hu : u.kind ≠ kind) (i : ℕ) :
    NoNew kind f (Function.update f i (some u)) := by
  intro j v h hk
  rcases update_some_eq_some.1 h with ⟨-, rfl⟩ | ⟨-, h⟩
  · exact absurd hk hu
  · exact h

theorem NoNew.spawned (hfree : f i = none) : NoNew kind (Function.update f i (some u)) f := by
  intro j v h _
  refine update_some_eq_some.2 (.inr ⟨?_, h⟩)
  rintro rfl
  rw [hfree] at h
  cases h

theorem NoNew.finished (hu : f i = some u) (hk : u.kind ≠ kind) :
    NoNew kind (Function.update f i none) f := by
  intro j v h hv
  refine update_none_eq_some.2 ⟨?_, h⟩
  rintro rfl
  rw [hu] at h
  exact hk (Option.some.inj h ▸ hv)

theorem spawned_only (hnone : ∀ i v, f i = some v → v.kind ≠ kind)
    (h : Function.update f i (some u) j = some v) (hk : v.kind = kind) : j = i ∧ v = u := by
  rcases update_some_eq_some.1 h with ⟨rfl, rfl⟩ | ⟨-, h⟩
  · exact ⟨rfl, rfl⟩
  · exact absurd hk (hnone j v h)

end Tasks

/-! ### Counters and records -/

section Counters

variable {s s' : Firmware} {w w' : World} {c : Call} {r : Reply} {a : Action} {now : ℤ}

/-- The driver's news leave the slots of the pending closes, the settings and the command id
alone, and do not move the generation back. -/
structure News.Frame (s s' : Firmware) : Prop where
  generation : s.closeGeneration ≤ s'.closeGeneration
  commandId : s'.doorCommandId = s.doorCommandId
  userPending : s'.userClosePending = s.userClosePending
  userGeneration : s'.userClosePendingGeneration = s.userClosePendingGeneration
  autoGeneration : s'.autoCloseGeneration = s.autoCloseGeneration
  autoCommandId : s'.autoCloseCommandId = s.autoCloseCommandId
  schedGeneration : s'.schedCloseGeneration = s.schedCloseGeneration
  schedCommandId : s'.schedCloseCommandId = s.schedCloseCommandId
  schedPending : s'.schedClosePending = s.schedClosePending
  timeout : s'.autoCloseTimeoutMs = s.autoCloseTimeoutMs
  enabled : s'.autoCloseEnabled = s.autoCloseEnabled
  schedule : s'.closeSchedule = s.closeSchedule
  lastDay : s'.closeScheduleLastDay = s.closeScheduleLastDay

theorem News.frame (h : News s now s') : News.Frame s s' := by
  cases h with
  | view => constructor <;> rfl
  | door | obstruction | button => constructor <;> first | rfl | exact Nat.le_succ _

/-- Unless it is a reboot, an effect moves neither counter back, keeps the time and does not reuse
a task number. -/
theorem Effect.counters (h : Effect w c w' r) (hc : c.isReboot = false) :
    w.fw.closeGeneration ≤ w'.fw.closeGeneration ∧ w.fw.doorCommandId ≤ w'.fw.doorCommandId ∧
      w'.clock = w.clock ∧ w.nextTask ≤ w'.nextTask := by
  cases h with
  | news _ hnews =>
    exact ⟨hnews.frame.generation, hnews.frame.commandId.ge, rfl, le_rfl⟩
  | rebooted => simp [Call.isReboot] at hc
  | _ => simp

/-- Records of sleeping warnings are not ahead of the state. -/
structure Bookkeeping (w : World) : Prop where
  fresh : ∀ i, w.nextTask ≤ i → w.tasks i = none
  started : ∀ i v, w.tasks i = some v → v.startMs ≤ w.clock
  generation : ∀ i v, w.tasks i = some v → v.generation ≤ w.fw.closeGeneration
  commandId : ∀ i v, w.tasks i = some v → v.commandId ≤ w.fw.doorCommandId

theorem Bookkeeping.mem_sleeping (hi : Bookkeeping w) {v : Warning} :
    v ∈ w.sleeping ↔ ∃ i, w.tasks i = some v := by
  simp only [World.sleeping, List.mem_filterMap, List.mem_range]
  constructor
  · rintro ⟨i, -, h⟩; exact ⟨i, h⟩
  · rintro ⟨i, h⟩
    refine ⟨i, ?_, h⟩
    by_contra hlt
    simp [hi.fresh i (by omega)] at h

theorem Bookkeeping.none_of_autoClear (hi : Bookkeeping w) {current : Option GdoStatus}
    {start : TaskStart} (hclear : w.autoClear (.watchdogAutoClose current start) = true)
    (hdue : autoCloseStillDue w.fw w.clock current = true) :
    ∀ i v, w.tasks i = some v → v.kind ≠ .auto :=
  fun i v hv => of_decide_eq_true hclear hdue v (hi.mem_sleeping.2 ⟨i, hv⟩)

theorem Bookkeeping.mono (hi : Bookkeeping w)
    (htasks : ∀ i v, w'.tasks i = some v → w.tasks i = some v) (hnext : w.nextTask ≤ w'.nextTask)
    (hclock : w.clock ≤ w'.clock) (hgen : w.fw.closeGeneration ≤ w'.fw.closeGeneration)
    (hid : w.fw.doorCommandId ≤ w'.fw.doorCommandId) : Bookkeeping w' where
  fresh i h := by
    cases hv : w'.tasks i with
    | none => rfl
    | some v => exact absurd (htasks i v hv) (by simp [hi.fresh i (hnext.trans h)])
  started i v h := (hi.started i v (htasks i v h)).trans hclock
  generation i v h := (hi.generation i v (htasks i v h)).trans hgen
  commandId i v h := (hi.commandId i v (htasks i v h)).trans hid

theorem Bookkeeping.spawn (hi : Bookkeeping w) {u : Warning}
    (htasks : w'.tasks = Function.update w.tasks w.nextTask (some u))
    (hnext : w'.nextTask = w.nextTask + 1) (hclock : w'.clock = w.clock)
    (hgen : w.fw.closeGeneration ≤ w'.fw.closeGeneration)
    (hid : w.fw.doorCommandId ≤ w'.fw.doorCommandId) (hstart : u.startMs = w.clock)
    (hugen : u.generation ≤ w'.fw.closeGeneration) (huid : u.commandId ≤ w'.fw.doorCommandId) :
    Bookkeeping w' where
  fresh i h := by
    rw [htasks, Function.update_of_ne (by omega)]
    exact hi.fresh i (by omega)
  started i v h := by
    rw [htasks, update_some_eq_some] at h
    rcases h with ⟨-, rfl⟩ | ⟨-, h⟩
    · exact (hstart.trans hclock.symm).le
    · exact (hi.started i v h).trans hclock.ge
  generation i v h := by
    rw [htasks, update_some_eq_some] at h
    rcases h with ⟨-, rfl⟩ | ⟨-, h⟩
    · exact hugen
    · exact (hi.generation i v h).trans hgen
  commandId i v h := by
    rw [htasks, update_some_eq_some] at h
    rcases h with ⟨-, rfl⟩ | ⟨-, h⟩
    · exact huid
    · exact (hi.commandId i v h).trans hid

theorem Bookkeeping.effect (hi : Bookkeeping w) (hc : c.isReboot = false)
    (h : Effect w c w' r) : Bookkeeping w' := by
  have hsame : ∀ i v, w.tasks i = some v → w.tasks i = some v := fun _ _ hv => hv
  have hless : ∀ tid i v, Function.update w.tasks tid none i = some v → w.tasks i = some v :=
    fun tid i v hv => (update_none_eq_some.1 hv).2
  cases h with
  | news _ hnews =>
    exact hi.mono hsame le_rfl le_rfl hnews.frame.generation hnews.frame.commandId.ge
  | idle | set | setFailed | opened | closeNotCreated | autoNotStarted | restarted
  | schedNotReserved | schedNotStarted => exact hi.mono hsame le_rfl le_rfl (by simp) (by simp)
  | userSent | userDropped | autoCancelled | autoSent | autoRefused | schedCancelled | schedSent =>
    exact hi.mono (hless _) le_rfl le_rfl (by simp) (by simp)
  | closeArmed | autoArmed | schedArmed =>
    exact hi.spawn rfl rfl rfl (by simp) (by simp) rfl (by simp) (by simp)
  | rebooted => simp [Call.isReboot] at hc

end Counters

/-! ### The user's slot -/

section UserSlot

variable {w w' : World} {c : Call} {r : Reply}

/-- `s_user_close_pending_generation` is the newest user close; the flag is up while its task
sleeps, and no two user closes have one generation. -/
structure UserSlot (w : World) : Prop where
  slot_le : w.fw.userClosePendingGeneration ≤ w.fw.closeGeneration
  le_slot : ∀ i v, w.tasks i = some v → v.kind = .user →
    v.generation ≤ w.fw.userClosePendingGeneration
  unique : ∀ i j u v, w.tasks i = some u → w.tasks j = some v → u.kind = .user → v.kind = .user →
    u.generation = v.generation → i = j
  pending : ∀ i v, w.tasks i = some v → v.kind = .user →
    v.generation = w.fw.userClosePendingGeneration → w.fw.userClosePending = true

theorem UserSlot.mono (hi : UserSlot w)
    (hold : NoNew .user w.tasks w'.tasks)
    (hpend : w'.fw.userClosePending = w.fw.userClosePending)
    (hslot : w'.fw.userClosePendingGeneration = w.fw.userClosePendingGeneration)
    (hgen : w.fw.closeGeneration ≤ w'.fw.closeGeneration) : UserSlot w' := by
  constructor
  · exact hslot ▸ hi.slot_le.trans hgen
  · exact fun i v h hk => hslot ▸ hi.le_slot i v (hold i v h hk) hk
  · exact fun i j u v h h' hk hk' => hi.unique i j u v (hold i u h hk) (hold j v h' hk') hk hk'
  · exact fun i v h hk he => hpend ▸ hi.pending i v (hold i v h hk) hk (hslot ▸ he)

theorem UserSlot.finish (hi : UserSlot w) {tid : ℕ} {v : Warning} (htask : w.tasks tid = some v)
    (hkind : v.kind = .user) (hwrap : w.fw.closeGeneration < v.generation + 2 ^ 32)
    (htasks : w'.tasks = Function.update w.tasks tid none)
    (hpend : w'.fw.userClosePending = w.fw.userClosePendingAfter v.generation)
    (hslot : w'.fw.userClosePendingGeneration = w.fw.userClosePendingGeneration)
    (hgen : w'.fw.closeGeneration = w.fw.closeGeneration) : UserSlot w' := by
  have hold : ∀ i u, w'.tasks i = some u → i ≠ tid ∧ w.tasks i = some u := by
    intro i u h
    rwa [htasks, update_none_eq_some] at h
  constructor
  · rw [hslot, hgen]; exact hi.slot_le
  · intro i u h hk
    rw [hslot]
    exact hi.le_slot i u (hold i u h).2 hk
  · exact fun i j u u' h h' => hi.unique i j u u' (hold i u h).2 (hold j u' h').2
  · intro i u h hk he
    obtain ⟨hne, hu⟩ := hold i u h
    rw [hslot] at he
    have hold_pending := hi.pending i u hu hk he
    -- the slot would be this task's only if the two generations were one
    have hother : Stamp.read 32 w.fw.userClosePendingGeneration ≠ Stamp.read 32 v.generation := by
      intro hread
      have hle := hi.le_slot tid v htask hkind
      have heq := Stamp.eq_of_reads_eq hle (hi.slot_le.trans_lt hwrap) hread.symm
      exact hne (hi.unique i tid u v hu htask hk hkind (he.trans heq.symm))
    rw [hpend]
    simp [userClosePendingAfter, hold_pending, hother]

theorem UserSlot.effect (hi : UserSlot w) (hbook : Bookkeeping w) (hturn : w.NoUserTurn)
    (hc : c.isReboot = false) (h : Effect w c w' r) : UserSlot w' := by
  cases h with
  | news _ hnews =>
    exact hi.mono (.refl _ _) hnews.frame.userPending hnews.frame.userGeneration
      hnews.frame.generation
  | idle | set | setFailed | opened | autoNotStarted | restarted | schedNotReserved
  | schedNotStarted => exact hi.mono (.refl _ _) rfl rfl (by simp)
  | autoCancelled | autoSent | autoRefused | schedCancelled | schedSent =>
    exact hi.mono (.finish _ _) rfl rfl le_rfl
  | autoArmed | schedArmed => exact hi.mono (.spawn (by simp) _) rfl rfl le_rfl
  | closeNotCreated =>
    constructor
    · exact le_rfl
    · exact fun i v hv _ => (hbook.generation i v hv).trans (Nat.le_succ _)
    · exact hi.unique
    · intro i v hv _ he
      have hle := hbook.generation i v hv
      simp only at he
      omega
  | closeArmed =>
    constructor
    · exact le_rfl
    · intro i v hv _
      rcases update_some_eq_some.1 hv with ⟨-, rfl⟩ | ⟨-, hv⟩
      · exact le_rfl
      · exact (hbook.generation i v hv).trans (Nat.le_succ _)
    · intro i j u v hu hv hk hk' he
      rcases update_some_eq_some.1 hu with ⟨rfl, rfl⟩ | ⟨-, hu⟩
      · rcases update_some_eq_some.1 hv with ⟨rfl, -⟩ | ⟨-, hv⟩
        · rfl
        · have hle := hbook.generation j v hv
          simp only at he
          omega
      · rcases update_some_eq_some.1 hv with ⟨rfl, rfl⟩ | ⟨-, hv⟩
        · have hle := hbook.generation i u hu
          simp only at he
          omega
        · exact hi.unique i j u v hu hv hk hk' he
    · intros; rfl
  | userSent htask | userDropped htask =>
    obtain ⟨hv, hkind, -, -⟩ := warningOver_eq_some htask
    exact hi.finish hv hkind (hturn _ (hbook.mem_sleeping.2 ⟨_, hv⟩) hkind) rfl rfl rfl rfl
  | rebooted => simp [Call.isReboot] at hc

end UserSlot

/-! ### The slots of the automatic closes -/

section AutomaticSlots

variable {w w' : World} {c : Call} {r : Reply}

/-- A scheduled-close warning owns the slot of its kind, and the pending flag is up for it. -/
structure SchedSlot (w : World) : Prop where
  pending : ∀ i v, w.tasks i = some v → v.kind = .sched → w.fw.schedClosePending = true
  generation : ∀ i v, w.tasks i = some v → v.kind = .sched →
    v.generation = w.fw.schedCloseGeneration
  commandId : ∀ i v, w.tasks i = some v → v.kind = .sched → v.commandId = w.fw.schedCloseCommandId
  unique : ∀ i j u v, w.tasks i = some u → w.tasks j = some v → u.kind = .sched →
    v.kind = .sched → i = j

theorem SchedSlot.mono (hi : SchedSlot w)
    (hold : NoNew .sched w.tasks w'.tasks)
    (hpend : w'.fw.schedClosePending = w.fw.schedClosePending)
    (hgen : w'.fw.schedCloseGeneration = w.fw.schedCloseGeneration)
    (hid : w'.fw.schedCloseCommandId = w.fw.schedCloseCommandId) : SchedSlot w' := by
  constructor
  · exact fun i v h hk => hpend ▸ hi.pending i v (hold i v h hk) hk
  · exact fun i v h hk => hgen ▸ hi.generation i v (hold i v h hk) hk
  · exact fun i v h hk => hid ▸ hi.commandId i v (hold i v h hk) hk
  · exact fun i j u v h h' hk hk' => hi.unique i j u v (hold i u h hk) (hold j v h' hk') hk hk'

theorem SchedSlot.of_none (h : ∀ i v, w.tasks i = some v → v.kind ≠ .sched) : SchedSlot w where
  pending i v hv hk := absurd hk (h i v hv)
  generation i v hv hk := absurd hk (h i v hv)
  commandId i v hv hk := absurd hk (h i v hv)
  unique i _ u _ hu _ hk _ := absurd hk (h i u hu)

theorem SchedSlot.none_of_not_pending (hi : SchedSlot w) (h : w.fw.schedClosePending = false) :
    ∀ i v, w.tasks i = some v → v.kind ≠ .sched := by
  intro i v hv hk
  simp [hi.pending i v hv hk] at h

theorem SchedSlot.none_of_finish (hi : SchedSlot w) {tid : ℕ} {v : Warning}
    (htask : w.tasks tid = some v) (hkind : v.kind = .sched) :
    ∀ i u, Function.update w.tasks tid none i = some u → u.kind ≠ .sched := by
  intro i u hu hk
  obtain ⟨hne, hu⟩ := update_none_eq_some.1 hu
  exact hne (hi.unique i tid u v hu htask hk hkind)

theorem SchedSlot.effect (hi : SchedSlot w) (hc : c.isReboot = false) (h : Effect w c w' r) :
    SchedSlot w' := by
  cases h with
  | news _ hnews =>
    exact hi.mono (.refl _ _) hnews.frame.schedPending hnews.frame.schedGeneration
      hnews.frame.schedCommandId
  | idle | set | setFailed | opened | closeNotCreated | autoNotStarted | restarted
  | schedNotReserved => exact hi.mono (.refl _ _) rfl rfl rfl
  | userSent | userDropped | autoCancelled | autoSent | autoRefused =>
    exact hi.mono (.finish _ _) rfl rfl rfl
  | closeArmed | autoArmed => exact hi.mono (.spawn (by simp) _) rfl rfl rfl
  | schedNotStarted hdue =>
    obtain ⟨_, _, _, -, -, -, -, hpend, -⟩ := schedCloseDue_eq_some hdue
    exact .of_none (hi.none_of_not_pending hpend)
  | schedArmed hdue =>
    obtain ⟨_, _, _, -, -, -, -, hpend, -⟩ := schedCloseDue_eq_some hdue
    have hnone := hi.none_of_not_pending hpend
    constructor
    · intros; rfl
    · intro i v hv hk
      obtain ⟨-, rfl⟩ := spawned_only hnone hv hk
      rfl
    · intro i v hv hk
      obtain ⟨-, rfl⟩ := spawned_only hnone hv hk
      rfl
    · intro i j u v hu hv hk hk'
      exact (spawned_only hnone hu hk).1.trans (spawned_only hnone hv hk').1.symm
  | schedCancelled htask | schedSent htask =>
    obtain ⟨hv, hkind, -, -⟩ := warningOver_eq_some htask
    exact .of_none (hi.none_of_finish hv hkind)
  | rebooted => simp [Call.isReboot] at hc

/-- An auto-close warning owns the slot of its kind, and while it sleeps the countdown cannot have
been running since before it. -/
structure AutoSlot (w : World) : Prop where
  generation : ∀ i v, w.tasks i = some v → v.kind = .auto → v.generation = w.fw.autoCloseGeneration
  commandId : ∀ i v, w.tasks i = some v → v.kind = .auto → v.commandId = w.fw.autoCloseCommandId
  unique : ∀ i j u v, w.tasks i = some u → w.tasks j = some v → u.kind = .auto →
    v.kind = .auto → i = j
  since : ∀ i v, w.tasks i = some v → v.kind = .auto →
    w.fw.autoCloseTriggered = true ∨ w.fw.doorOpenSinceMs = 0 ∨ v.startMs ≤ w.fw.doorOpenSinceMs

/-- The same slot, no new auto-close warning, and a countdown that has not moved back before any
warning that sleeps. -/
theorem AutoSlot.mono (hi : AutoSlot w)
    (hold : NoNew .auto w.tasks w'.tasks)
    (hgen : w'.fw.autoCloseGeneration = w.fw.autoCloseGeneration)
    (hid : w'.fw.autoCloseCommandId = w.fw.autoCloseCommandId)
    (hsince : ∀ i v, w.tasks i = some v → v.kind = .auto →
      (w.fw.autoCloseTriggered = true ∨ w.fw.doorOpenSinceMs = 0 ∨
        v.startMs ≤ w.fw.doorOpenSinceMs) →
      w'.fw.autoCloseTriggered = true ∨ w'.fw.doorOpenSinceMs = 0 ∨
        v.startMs ≤ w'.fw.doorOpenSinceMs) : AutoSlot w' := by
  constructor
  · exact fun i v h hk => hgen ▸ hi.generation i v (hold i v h hk) hk
  · exact fun i v h hk => hid ▸ hi.commandId i v (hold i v h hk) hk
  · exact fun i j u v h h' hk hk' => hi.unique i j u v (hold i u h hk) (hold j v h' hk') hk hk'
  · exact fun i v h hk =>
      hsince i v (hold i v h hk) hk (hi.since i v (hold i v h hk) hk)

theorem AutoSlot.of_none (h : ∀ i v, w.tasks i = some v → v.kind ≠ .auto) : AutoSlot w where
  generation i v hv hk := absurd hk (h i v hv)
  commandId i v hv hk := absurd hk (h i v hv)
  unique i _ u _ hu _ hk _ := absurd hk (h i u hu)
  since i v hv hk := absurd hk (h i v hv)

theorem AutoSlot.none_of_finish (hi : AutoSlot w) {tid : ℕ} {v : Warning}
    (htask : w.tasks tid = some v) (hkind : v.kind = .auto) :
    ∀ i u, Function.update w.tasks tid none i = some u → u.kind ≠ .auto := by
  intro i u hu hk
  obtain ⟨hne, hu⟩ := update_none_eq_some.1 hu
  exact hne (hi.unique i tid u v hu htask hk hkind)

/-- **Auto-close warnings do not overlap.**  A countdown that has run out for a whole timeout was
not restarted by a warning that still sleeps. -/
theorem AutoSlot.none_of_due (hi : AutoSlot w) (hbook : Bookkeeping w) {current : Option GdoStatus}
    (hcalm : w.Calm) (hdue : autoCloseStillDue w.fw w.clock current = true) :
    ∀ i v, w.tasks i = some v → v.kind ≠ .auto := by
  intro i v hv hk
  obtain ⟨-, -, htrig, -, hne, hle⟩ := autoCloseStillDue_iff.1 hdue
  have hstart : v.startMs ≤ w.fw.doorOpenSinceMs := by
    rcases hi.since i v hv hk with h | h | h
    · simp [htrig] at h
    · exact absurd h hne
    · exact h
  have hyoung := hcalm.young v (hbook.mem_sleeping.2 ⟨i, hv⟩)
  have htimeout := hcalm.timeout
  omega

theorem AutoSlot.autoClear (hi : AutoSlot w) (hbook : Bookkeeping w) (hcalm : w.Calm) (c : Call) :
    w.autoClear c = true := by
  unfold World.autoClear
  split
  · refine decide_eq_true ?_
    intro hdue v hv
    obtain ⟨i, hi'⟩ := hbook.mem_sleeping.1 hv
    exact hi.none_of_due hbook hcalm hdue i v hi'
  · rfl

theorem AutoSlot.effect (hi : AutoSlot w) (hbook : Bookkeeping w) (hclear : w.autoClear c = true)
    (hc : c.isReboot = false) (h : Effect w c w' r) : AutoSlot w' := by
  cases h with
  | news _ hnews =>
    refine hi.mono (.refl _ _) hnews.frame.autoGeneration hnews.frame.autoCommandId ?_
    intro i v hv _ hsince
    cases hnews with
    | door _ _ _ d since cont trig hd ht =>
      cases ht with
      -- the countdown starts now, after the start of any warning that sleeps
      | arrived => exact .inr (.inr (hbook.started i v hv))
      | left => exact .inr (.inl rfl)
      | away => exact hsince
    | _ => exact hsince
  | idle | set | setFailed | opened | closeNotCreated | schedNotReserved | schedNotStarted =>
    exact hi.mono (.refl _ _) rfl rfl fun _ _ _ _ h => h
  | userSent | userDropped | schedCancelled | schedSent =>
    exact hi.mono (.finish _ _) rfl rfl fun _ _ _ _ h => h
  | restarted =>
    exact hi.mono (.refl _ _) rfl rfl fun i v hv _ _ => .inr (.inr (hbook.started i v hv))
  | closeArmed | schedArmed => exact hi.mono (.spawn (by simp) _) rfl rfl fun _ _ _ _ h => h
  | autoCancelled htask | autoSent htask | autoRefused _ htask =>
    obtain ⟨hv, hkind, -, -⟩ := warningOver_eq_some htask
    exact .of_none (hi.none_of_finish hv hkind)
  | autoNotStarted hdue => exact .of_none (hbook.none_of_autoClear hclear hdue)
  | autoArmed hdue =>
    have hnone := hbook.none_of_autoClear hclear hdue
    constructor
    · intro i v hv hk
      obtain ⟨-, rfl⟩ := spawned_only hnone hv hk
      rfl
    · intro i v hv hk
      obtain ⟨-, rfl⟩ := spawned_only hnone hv hk
      rfl
    · intro i j u v hu hv hk hk'
      exact (spawned_only hnone hu hk).1.trans (spawned_only hnone hv hk').1.symm
    · intros; exact .inl rfl
  | rebooted => simp [Call.isReboot] at hc

/-- Whatever the timing, the auto-close slot holds the generation of the youngest auto-close
warning, which no sleeping one is ahead of. -/
structure AutoOrder (w : World) : Prop where
  slot_le : w.fw.autoCloseGeneration ≤ w.fw.closeGeneration
  le_slot : ∀ i v, w.tasks i = some v → v.kind = .auto → v.generation ≤ w.fw.autoCloseGeneration

theorem AutoOrder.mono (hi : AutoOrder w) (hold : NoNew .auto w.tasks w'.tasks)
    (hslot : w'.fw.autoCloseGeneration = w.fw.autoCloseGeneration)
    (hgen : w.fw.closeGeneration ≤ w'.fw.closeGeneration) : AutoOrder w' where
  slot_le := hslot ▸ hi.slot_le.trans hgen
  le_slot i v hv hk := hslot ▸ hi.le_slot i v (hold i v hv hk) hk

theorem AutoOrder.effect (hi : AutoOrder w) (hbook : Bookkeeping w) (hc : c.isReboot = false)
    (h : Effect w c w' r) : AutoOrder w' := by
  cases h with
  | news _ hnews => exact hi.mono (.refl _ _) hnews.frame.autoGeneration hnews.frame.generation
  | idle | set | setFailed | opened | closeNotCreated | restarted | schedNotReserved
  | schedNotStarted => exact hi.mono (.refl _ _) rfl (by simp)
  | userSent | userDropped | autoCancelled | autoSent | autoRefused | schedCancelled | schedSent =>
    exact hi.mono (.finish _ _) rfl le_rfl
  | closeArmed | schedArmed => exact hi.mono (.spawn (by simp) _) rfl (by simp)
  | autoNotStarted => exact ⟨le_rfl, fun i v hv _ => hbook.generation i v hv⟩
  | autoArmed =>
    refine ⟨le_rfl, ?_⟩
    intro i v hv _
    rcases update_some_eq_some.1 hv with ⟨-, rfl⟩ | ⟨-, hv⟩
    · exact le_rfl
    · exact hbook.generation i v hv
  | rebooted => simp [Call.isReboot] at hc

end AutomaticSlots

/-! ### Command ids -/

section Ids

variable {w w' : World} {c : Call} {r : Reply}

/-- The ids taken, counting the one that the standing user close will take. -/
def World.idsDue (w : World) : ℕ :=
  w.fw.doorCommandId +
    if w.fw.userClosePending ∧ w.fw.userClosePendingGeneration = w.fw.closeGeneration then 1 else 0

/-- How far the command id can have moved since an automatic close was armed: once for every bump
of the generation, once or twice for closes armed before, and, for an auto-close, once for every
millisecond, since scheduled closes that end and start again take time. -/
structure Ids (w : World) : Prop where
  sched : ∀ i v, w.tasks i = some v → v.kind = .sched →
    w.idsDue + v.generation ≤ v.commandId + w.fw.closeGeneration + 2
  schedAuto : ∀ i j v u, w.tasks i = some v → v.kind = .sched → w.tasks j = some u →
    u.kind = .auto → w.idsDue + v.generation ≤ v.commandId + w.fw.closeGeneration + 1
  auto : ∀ i v, w.tasks i = some v → v.kind = .auto →
    (w.idsDue : ℤ) + v.generation ≤ v.commandId + w.fw.closeGeneration + 1 + (w.clock - v.startMs)
  autoSched : ∀ i j v u, w.tasks i = some v → v.kind = .auto → w.tasks j = some u →
    u.kind = .sched →
    (w.idsDue : ℤ) + v.generation ≤ v.commandId + w.fw.closeGeneration + 1 + (u.startMs - v.startMs)

theorem World.le_idsDue : w.fw.doorCommandId ≤ w.idsDue := Nat.le_add_right _ _

theorem World.idsDue_le : w.idsDue ≤ w.fw.doorCommandId + 1 := by
  unfold World.idsDue
  split_ifs <;> omega

theorem World.idsDue_of_lt (h : w.fw.userClosePendingGeneration < w.fw.closeGeneration) :
    w.idsDue = w.fw.doorCommandId := by
  simp [World.idsDue, h.ne]

theorem Ids.mono (hi : Ids w)
    (hauto : NoNew .auto w.tasks w'.tasks) (hsched : NoNew .sched w.tasks w'.tasks)
    (hclock : w.clock ≤ w'.clock)
    (hids : w'.idsDue + w.fw.closeGeneration ≤ w.idsDue + w'.fw.closeGeneration) : Ids w' := by
  constructor
  · intro i v h hk
    have := hi.sched i v (hsched i v h hk) hk
    omega
  · intro i j v u h hk h' hk'
    have := hi.schedAuto i j v u (hsched i v h hk) hk (hauto j u h' hk') hk'
    omega
  · intro i v h hk
    have := hi.auto i v (hauto i v h hk) hk
    omega
  · intro i j v u h hk h' hk'
    have := hi.autoSched i j v u (hauto i v h hk) hk (hsched j u h' hk') hk'
    omega

/-- An auto-close is armed when no other automatic close is under way, and starts from the present
ids. -/
theorem Ids.of_auto_armed {tid : ℕ} {u : Warning}
    (htasks : w'.tasks = Function.update w.tasks tid (some u)) (hu : u.kind = .auto)
    (hstart : u.startMs = w'.clock) (hgen : u.generation = w'.fw.closeGeneration)
    (hid : u.commandId = w'.fw.doorCommandId)
    (hnosched : ∀ i v, w.tasks i = some v → v.kind ≠ .sched)
    (hnoauto : ∀ i v, w.tasks i = some v → v.kind ≠ .auto) : Ids w' := by
  have hids : ∀ i v, w'.tasks i = some v → v.kind ≠ .sched := by
    intro i v hv hk
    rw [htasks] at hv
    exact hnosched i v (NoNew.spawn (by simp [hu]) tid i v hv hk) hk
  constructor
  · exact fun i v hv hk => absurd hk (hids i v hv)
  · exact fun i j v x hv hk => absurd hk (hids i v hv)
  · intro i v hv hk
    rw [htasks] at hv
    obtain ⟨-, rfl⟩ := spawned_only hnoauto hv hk
    have := w'.idsDue_le
    omega
  · exact fun i j v x hv hk hx hk' => absurd hk' (hids j x hx)

/-- A scheduled close is armed when no other one is under way, and starts from the present ids; an
auto-close under way has had its milliseconds by then. -/
theorem Ids.of_sched_armed (hi : Ids w) {tid : ℕ} {u : Warning}
    (htasks : w'.tasks = Function.update w.tasks tid (some u)) (hu : u.kind = .sched)
    (hstart : u.startMs = w.clock) (hgen : u.generation = w'.fw.closeGeneration)
    (hid : u.commandId = w'.fw.doorCommandId) (hclock : w'.clock = w.clock)
    (hdue : w'.idsDue = w.idsDue) (hkept : w'.fw.closeGeneration = w.fw.closeGeneration)
    (hnosched : ∀ i v, w.tasks i = some v → v.kind ≠ .sched) : Ids w' := by
  have hnew : ∀ i v, w'.tasks i = some v → v.kind = .sched → v = u := by
    intro i v hv hk
    rw [htasks] at hv
    exact (spawned_only hnosched hv hk).2
  have hold : NoNew .auto w.tasks w'.tasks := by
    rw [htasks]
    exact .spawn (by simp [hu]) tid
  have hle := w'.idsDue_le
  constructor
  · intro i v hv hk
    obtain rfl := hnew i v hv hk
    omega
  · intro i j v x hv hk _ _
    obtain rfl := hnew i v hv hk
    omega
  · intro i v hv hk
    have := hi.auto i v (hold i v hv hk) hk
    rw [hdue, hkept, hclock]
    exact this
  · intro i j v x hv hk hx hk'
    obtain rfl := hnew j x hx hk'
    have := hi.auto i v (hold i v hv hk) hk
    rw [hdue, hkept, hstart]
    exact this

theorem Ids.of_auto_made (hi : Ids w) {tid : ℕ} {v : Warning} (hv : w.tasks tid = some v)
    (hkind : v.kind = .auto) (htasks : w'.tasks = Function.update w.tasks tid none)
    (hdue : w'.idsDue = w.idsDue + 1) (hkept : w'.fw.closeGeneration = w.fw.closeGeneration)
    (hnoauto : ∀ i u, w'.tasks i = some u → u.kind ≠ .auto) : Ids w' := by
  constructor
  · intro i u hu hk
    rw [htasks] at hu
    have := hi.schedAuto i _ u _ (update_none_eq_some.1 hu).2 hk hv hkind
    omega
  · exact fun i j u x hu hk hx hk' => absurd hk' (hnoauto j x hx)
  · exact fun i u hu hk => absurd hk (hnoauto i u hu)
  · exact fun i j u x hu hk => absurd hk (hnoauto i u hu)

theorem Ids.of_sched_made (hi : Ids w) {tid : ℕ} {v : Warning} (hv : w.tasks tid = some v)
    (hkind : v.kind = .sched) (hlt : v.startMs < w.clock)
    (htasks : w'.tasks = Function.update w.tasks tid none) (hclock : w'.clock = w.clock)
    (hdue : w'.idsDue = w.idsDue + 1) (hkept : w'.fw.closeGeneration = w.fw.closeGeneration)
    (hnosched : ∀ i u, w'.tasks i = some u → u.kind ≠ .sched) : Ids w' := by
  constructor
  · exact fun i u hu hk => absurd hk (hnosched i u hu)
  · exact fun i j u x hu hk => absurd hk (hnosched i u hu)
  · intro i u hu hk
    rw [htasks] at hu
    have := hi.autoSched i _ u _ (update_none_eq_some.1 hu).2 hk hv hkind
    omega
  · exact fun i j u x hu hk hx hk' => absurd hk' (hnosched j x hx)

theorem Ids.effect (hi : Ids w) (hbook : Bookkeeping w) (huser : UserSlot w) (hsched : SchedSlot w)
    (hauto : AutoSlot w) (hcalm : w.Calm) (hc : c.isReboot = false) (h : Effect w c w' r) :
    Ids w' := by
  have hle := w.le_idsDue
  have hle' := w.idsDue_le
  have hslot := huser.slot_le
  cases h with
  | news _ hnews =>
    refine hi.mono (.refl _ _) (.refl _ _) le_rfl ?_
    cases hnews with
    | view => exact le_rfl
    | door | obstruction | button =>
      rw [World.idsDue_of_lt (by simpa using Nat.lt_succ_of_le hslot)]
      simp only
      omega
  | set | opened | closeNotCreated =>
    refine hi.mono (.refl _ _) (.refl _ _) le_rfl ?_
    simp only [World.idsDue, Bool.false_eq_true, false_and, ite_false] at hle hle' ⊢
    split_ifs at hle hle' ⊢ <;> omega
  | idle | setFailed | autoNotStarted | restarted | schedNotReserved | schedNotStarted =>
    exact hi.mono (.refl _ _) (.refl _ _) le_rfl le_rfl
  | autoCancelled | schedCancelled => exact hi.mono (.finish _ _) (.finish _ _) le_rfl le_rfl
  | closeArmed =>
    -- one bump of the generation pays for the id that is now due
    refine hi.mono (.spawn (by simp) _) (.spawn (by simp) _) le_rfl ?_
    simp only [World.idsDue, and_self, ite_true] at hle ⊢
    omega
  | userDropped htask =>
    refine hi.mono (.finish _ _) (.finish _ _) le_rfl ?_
    simp only [World.idsDue, userClosePendingAfter, Bool.and_eq_true] at hle ⊢
    split_ifs <;> grind
  | userSent htask hgen =>
    -- the close that was due is the one that is sent, so the count does not move
    obtain ⟨hv, hkind, -, -⟩ := warningOver_eq_some htask
    have heq := Stamp.eq_of_reads_eq (hbook.generation _ _ hv)
      (hcalm.noWrap _ (hbook.mem_sleeping.2 ⟨_, hv⟩)) hgen
    have hcur : w.fw.userClosePendingGeneration = w.fw.closeGeneration :=
      le_antisymm hslot (heq ▸ huser.le_slot _ _ hv hkind)
    have hpend := huser.pending _ _ hv hkind (heq.trans hcur.symm)
    refine hi.mono (.finish _ _) (.finish _ _) le_rfl ?_
    simp [World.idsDue, userClosePendingAfter, hpend, hcur, heq]
  | autoArmed hdue =>
    obtain ⟨-, -, -, hpend, -, -⟩ := autoCloseStillDue_iff.1 hdue
    exact .of_auto_armed rfl rfl rfl rfl rfl (hsched.none_of_not_pending hpend)
      (hauto.none_of_due hbook hcalm hdue)
  | schedArmed hdue =>
    obtain ⟨_, _, _, -, -, -, -, hpend, -⟩ := schedCloseDue_eq_some hdue
    exact hi.of_sched_armed rfl rfl rfl rfl rfl rfl rfl rfl (hsched.none_of_not_pending hpend)
  | autoSent htask | autoRefused _ htask =>
    obtain ⟨hv, hkind, -, -⟩ := warningOver_eq_some htask
    exact hi.of_auto_made hv hkind rfl (Nat.add_right_comm _ _ _) rfl
      (hauto.none_of_finish hv hkind)
  | schedSent htask =>
    obtain ⟨hv, hkind, -, hlt⟩ := warningOver_eq_some htask
    exact hi.of_sched_made hv hkind hlt rfl rfl (Nat.add_right_comm _ _ _) rfl
      (hsched.none_of_finish hv hkind)
  | rebooted => simp [Call.isReboot] at hc

end Ids

/-! ### All of them -/

section Sound

variable {w w' : World} {r : Reply} {a : Action}

/-- What holds in every state of a run whose warnings are short. -/
structure Sound (w : World) : Prop where
  book : Bookkeeping w
  user : UserSlot w
  sched : SchedSlot w
  auto : AutoSlot w
  ids : Ids w

theorem Sound.boot (n : Nvs) (reads : NvsReads) (setenvOk : Bool) (t : ℤ) (next : ℕ) :
    Sound { World.boot n reads setenvOk t with nextTask := next } := by
  have htasks : ∀ i v, (World.boot n reads setenvOk t).tasks i ≠ some v := by simp [World.boot]
  constructor
  · exact ⟨fun _ _ => rfl, fun i v h => absurd h (htasks i v), fun i v h => absurd h (htasks i v),
      fun i v h => absurd h (htasks i v)⟩
  · exact ⟨by simp [World.boot], fun i v h => absurd h (htasks i v),
      fun i _ v _ h => absurd h (htasks i v), fun i v h => absurd h (htasks i v)⟩
  · exact .of_none fun i v h => absurd h (htasks i v)
  · exact .of_none fun i v h => absurd h (htasks i v)
  · exact ⟨fun i v h => absurd h (htasks i v), fun i _ v _ h => absurd h (htasks i v),
      fun i v h => absurd h (htasks i v), fun i _ v _ h => absurd h (htasks i v)⟩

theorem AutoOrder.boot (n : Nvs) (reads : NvsReads) (setenvOk : Bool) (t : ℤ) (next : ℕ) :
    AutoOrder { World.boot n reads setenvOk t with nextTask := next } := by
  exact ⟨by simp [World.boot], by simp [World.boot]⟩

theorem Bookkeeping.tick (hi : Bookkeeping w) {t : ℤ} (h : w.clock ≤ t) : Bookkeeping (w.tick t) :=
  hi.mono (fun _ _ hv => hv) le_rfl h le_rfl le_rfl

theorem SchedSlot.tick (hi : SchedSlot w) (t : ℤ) : SchedSlot (w.tick t) :=
  hi.mono (.refl _ _) rfl rfl rfl

theorem UserSlot.tick (hi : UserSlot w) (t : ℤ) : UserSlot (w.tick t) :=
  hi.mono (.refl _ _) rfl rfl le_rfl

theorem Sound.tick (hi : Sound w) {t : ℤ} (h : w.clock ≤ t) : Sound (w.tick t) where
  book := hi.book.tick h
  user := hi.user.tick t
  sched := hi.sched.tick t
  auto := hi.auto.mono (.refl _ _) rfl rfl fun _ _ _ _ h => h
  ids := hi.ids.mono (.refl _ _) (.refl _ _) h le_rfl

/-- The step is made in a calm state, unless it is a reboot. -/
def CalmAt (w : World) (a : Action) : Prop := a.call.isReboot = false → (w.tick a.t).Calm

instance (w : World) (a : Action) : Decidable (CalmAt w a) :=
  inferInstanceAs (Decidable (_ → _))

theorem Sound.step (hi : Sound w) (hcalm : CalmAt w a) (h : w.step a = some (w', r)) :
    Sound w' := by
  rcases World.step_cases h with ⟨hc, hclock, heff⟩ | ⟨reads, setenvOk, -, -, rfl⟩
  · obtain ⟨hbook, huser, hsched, hauto, hids⟩ := hi.tick hclock
    have hcalm := hcalm hc
    exact ⟨hbook.effect hc heff, huser.effect hbook hcalm.noWrap.user hc heff,
      hsched.effect hc heff, hauto.effect hbook (hauto.autoClear hbook hcalm _) hc heff,
      hids.effect hbook huser hsched hauto hcalm hc heff⟩
  · exact Sound.boot w.nvs reads setenvOk a.t w.nextTask

/-- The records of the warnings, and the slot of the scheduled close, need no condition. -/
theorem Bookkeeping.step (hi : Bookkeeping w) (h : w.step a = some (w', r)) : Bookkeeping w' := by
  rcases World.step_cases h with ⟨hc, hclock, heff⟩ | ⟨reads, setenvOk, -, -, rfl⟩
  · exact (hi.tick hclock).effect hc heff
  · exact (Sound.boot w.nvs reads setenvOk a.t w.nextTask).book

theorem SchedSlot.step (hi : SchedSlot w) (h : w.step a = some (w', r)) : SchedSlot w' := by
  rcases World.step_cases h with ⟨hc, -, heff⟩ | ⟨reads, setenvOk, -, -, rfl⟩
  · exact (hi.tick a.t).effect hc heff
  · exact (Sound.boot w.nvs reads setenvOk a.t w.nextTask).sched

/-- The user's slot needs that no user close sleeps through a full turn. -/
theorem UserSlot.step (hi : UserSlot w) (hbook : Bookkeeping w) (hturn : w.NoUserTurn)
    (h : w.step a = some (w', r)) : UserSlot w' := by
  rcases World.step_cases h with ⟨hc, hclock, heff⟩ | ⟨reads, setenvOk, -, -, rfl⟩
  · exact (hi.tick a.t).effect (hbook.tick hclock) hturn hc heff
  · exact (Sound.boot w.nvs reads setenvOk a.t w.nextTask).user

theorem AutoOrder.step (hi : AutoOrder w) (hbook : Bookkeeping w) (h : w.step a = some (w', r)) :
    AutoOrder w' := by
  rcases World.step_cases h with ⟨hc, hclock, heff⟩ | ⟨reads, setenvOk, -, -, rfl⟩
  · have htick : AutoOrder (w.tick a.t) := hi.mono (.refl _ _) rfl le_rfl
    exact htick.effect (hbook.tick hclock) hc heff
  · exact AutoOrder.boot w.nvs reads setenvOk a.t w.nextTask

theorem Bookkeeping.trace {es : List Step} (h : control.toLTS.Trace w es w') (hi : Bookkeeping w) :
    Bookkeeping w' :=
  h.invariant hi fun _ _ hst hsrc => hsrc.step hst

theorem SchedSlot.trace {es : List Step} (h : control.toLTS.Trace w es w') (hi : SchedSlot w) :
    SchedSlot w' :=
  h.invariant hi fun _ _ hst hsrc => hsrc.step hst

theorem Bookkeeping.invariant {es : List Step} {I : World → Prop} (hbook : Bookkeeping w)
    (h : control.toLTS.Trace w es w') (hi : I w)
    (hstep : ∀ e ∈ es, control.toLTS.step e.src e.label e.dst → Bookkeeping e.src → I e.src →
      I e.dst) : I w' :=
  (h.invariant (I := fun w => Bookkeeping w ∧ I w) ⟨hbook, hi⟩
    fun e he hst hsrc => ⟨hsrc.1.step hst, hstep e he hst hsrc.1 hsrc.2⟩).2

theorem AutoOrder.trace {es : List Step} (h : control.toLTS.Trace w es w') (hi : AutoOrder w)
    (hbook : Bookkeeping w) : AutoOrder w' :=
  hbook.invariant h hi fun _ _ hst hbook hsrc => hsrc.step hbook hst

theorem UserSlot.trace {es : List Step} (h : control.toLTS.Trace w es w') (hi : UserSlot w)
    (hbook : Bookkeeping w) (hturn : ∀ e ∈ es, e.src.NoUserTurn) : UserSlot w' :=
  hbook.invariant h hi fun e he hst hbook hsrc => hsrc.step hbook (hturn e he) hst

/-- **The invariants hold in every state of a run.** -/
theorem Sound.trace {es : List Step} (h : control.toLTS.Trace w es w') (hi : Sound w)
    (hcalm : ∀ e ∈ es, CalmAt e.src e.label.1) : Sound w' :=
  h.invariant hi fun e he hst hsrc => hsrc.step (hcalm e he) hst

end Sound

end GdoBlaq
