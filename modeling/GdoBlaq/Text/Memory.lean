import Mathlib.Data.Nat.Notation
import Mathlib.Data.List.TakeWhile
import Mathlib.Data.Vector.Basic
import Mathlib.Tactic.Common

/-!
# Accesses to C strings and buffers

A scanner in C moves an index over a string that ends at a `z`; the rest of the memory behind it
must not be read, and a buffer must not be written beyond its size.  `load` and `store` are the
accesses with these limits: outside them there is no result.

A computation in `Checked` has no result at all if it made a bad access, and otherwise succeeds or
fails.  `Tracks` says that a scanner over indices makes no bad access and does on the suffix at its
index what a function on lists does.

## Main results

* `Memory.Tracks.bind`, `Memory.Tracks.test` : a sequence, and a choice by the symbol at the index.
* `Memory.skipWhile_eq` : a loop over a class of symbols.
* `Memory.takeWhile_written` : the string that a loop has put at the front of a buffer.
-/

namespace Memory

variable {α : Type}

/-- `s[i]` of a string `s` and the `z` that ends it. -/
def load (z : α) (s : List α) (i : ℕ) : Option α := (s ++ [z])[i]?

/-- `v[i] = a` in a buffer of `n` symbols. -/
def store {n : ℕ} (v : Vector α n) (i : ℕ) (a : α) : Option (Vector α n) :=
  if h : i < n then some (v.set i a) else none

/-- `memcpy(v + i, s, length(s))` into a buffer of `n` symbols. -/
def copy {n : ℕ} (v : Vector α n) (i : ℕ) : List α → Option (Vector α n)
  | [] => some v
  | a :: s => (store v i a).bind fun v => copy v (i + 1) s

/-- A computation over checked accesses; `failure` is a failure without a bad access. -/
abbrev Checked := OptionT Option

variable {z : α} {s : List α} {i : ℕ}

theorem load_eq (hi : i ≤ s.length) : load z s i = some ((s.drop i).headD z) := by
  unfold load
  rcases hi.lt_or_eq with hlt | rfl
  · simp [List.getElem?_append_left hlt, List.getElem?_eq_getElem hlt, List.head?_drop]
  · simp

theorem drop_eq_cons {c : α} {t : List α} (hs : s.drop i = c :: t) :
    i < s.length ∧ s.drop (i + 1) = t := by
  constructor
  · have hlen := congrArg List.length hs
    simp only [List.length_drop, List.length_cons] at hlen
    omega
  · rw [← List.tail_drop, hs, List.tail_cons]

theorem lt_of_headD_ne (hi : i ≤ s.length) (h : (s.drop i).headD z ≠ z) : i < s.length := by
  rcases hi.lt_or_eq with hlt | rfl
  · exact hlt
  · simp at h

/-- `s[i]`, in a computation. -/
def read (z : α) (s : List α) (i : ℕ) : Checked α := OptionT.lift (load z s i)

theorem run_read {β : Type} (hi : i ≤ s.length) (k : α → Checked β) :
    (read z s i >>= k).run = (k ((s.drop i).headD z)).run := by
  rw [read, OptionT.run_bind_lift, load_eq hi]
  rfl

/-! ### Scanners -/

/-- The outcome `x` of a scanner over indices of `s` is no bad access, and stands for `y`. -/
def Follows (s : List α) (x : Checked ℕ) (y : Option (List α)) : Prop :=
  ∃ r : Option ℕ, x.run = some r ∧ r.map s.drop = y ∧ ∀ j ∈ r, j ≤ s.length

/-- On the string `s`, the scanner `f` over indices does what `g` does to the suffix at its
index. -/
def Tracks (s : List α) (f : ℕ → Checked ℕ) (g : List α → Option (List α)) : Prop :=
  ∀ i ≤ s.length, Follows s (f i) (g (s.drop i))

theorem Follows.fail {x : Checked ℕ} (h : x.run = some none) : Follows s x none :=
  ⟨none, h, rfl, by simp⟩

theorem Follows.stop {x : Checked ℕ} {j : ℕ} {t : List α} (h : x.run = some (some j))
    (hj : j ≤ s.length) (ht : s.drop j = t) : Follows s x (some t) :=
  ⟨some j, h, by rw [Option.map_some, ht], by simpa using hj⟩

theorem Follows.after {x : Checked ℕ} {k : ℕ → Checked ℕ} {j : ℕ} {y : Option (List α)}
    (h : x.run = some (some j)) (hk : Follows s (k j) y) : Follows s (x >>= k) y := by
  obtain ⟨r, hr, hrest⟩ := hk
  exact ⟨r, by simp [h, hr, Option.elimM], hrest⟩

theorem Follows.choice {P : α → Prop} [DecidablePred P] {x x' : Checked ℕ}
    {y y' : Option (List α)} (hi : i ≤ s.length)
    (h : P ((s.drop i).headD z) → Follows s x y)
    (h' : ¬ P ((s.drop i).headD z) → Follows s x' y') :
    Follows s (read z s i >>= fun c => if P c then x else x')
      (if P ((s.drop i).headD z) then y else y') := by
  by_cases htest : P ((s.drop i).headD z)
  · obtain ⟨r, hr, hdrop, hle⟩ := h htest
    exact ⟨r, by rw [run_read hi, if_pos htest, hr], by rw [if_pos htest, hdrop], hle⟩
  · obtain ⟨r, hr, hdrop, hle⟩ := h' htest
    exact ⟨r, by rw [run_read hi, if_neg htest, hr], by rw [if_neg htest, hdrop], hle⟩

namespace Tracks

variable {f f' : ℕ → Checked ℕ} {g g' : List α → Option (List α)}

theorem pure : Tracks s Pure.pure some := fun _ hi => .stop rfl hi rfl

theorem congr (h : Tracks s f g) (hg : ∀ t, g' t = g t) : Tracks s f g' := by
  obtain rfl : g' = g := funext hg
  exact h

theorem fail : Tracks s (fun _ => failure) fun _ => none := fun _ _ => .fail rfl

theorem bind (hf : Tracks s f g) (hf' : Tracks s f' g') :
    Tracks s (fun i => f i >>= f') fun t => (g t).bind g' := by
  intro i hi
  obtain ⟨r, hr, hdrop, hle⟩ := hf i hi
  show Follows s (f i >>= f') ((g (s.drop i)).bind g')
  cases r with
  | none =>
    rw [← hdrop]
    exact .fail (by simp [hr, Option.elimM])
  | some j =>
    rw [← hdrop]
    exact .after hr (hf' j (hle j rfl))

section Choice

variable {P : α → Prop} [DecidablePred P]

/-- A choice by the symbol at the index. -/
theorem test (hf : Tracks s f g) (hf' : Tracks s f' g') :
    Tracks s (fun i => read z s i >>= fun c => if P c then f i else f' i)
      fun t => if P (t.headD z) then g t else g' t :=
  fun i hi => .choice hi (fun _ => hf i hi) fun _ => hf' i hi

theorem step (hP : ¬ P z) (hf : Tracks s f g) (hf' : Tracks s f' g') :
    Tracks s (fun i => read z s i >>= fun c => if P c then f (i + 1) else f' i)
      fun t => if P (t.headD z) then g t.tail else g' t := by
  intro i hi
  refine .choice hi ?_ fun _ => hf' i hi
  intro htest
  have hlt : i < s.length := by
    refine lt_of_headD_ne (z := z) hi ?_
    intro heq
    exact hP (heq ▸ htest)
  rw [List.tail_drop]
  exact hf (i + 1) hlt

end Choice

end Tracks

/-! ### Loops -/

/-- `while (p(s[i])) i++;` -/
def skipWhile (z : α) (s : List α) (p : α → Bool) : ℕ → ℕ → Option ℕ
  | 0, _ => none
  | fuel + 1, i =>
    match load z s i with
    | none => none
    | some c => if p c then skipWhile z s p fuel (i + 1) else some i

/-- The loop ends behind the run of the class, and reads nothing beyond the end. -/
theorem skipWhile_eq {p : α → Bool} {fuel : ℕ} (hp : p z = false) (hi : i ≤ s.length)
    (hfuel : s.length < i + fuel) :
    skipWhile z s p fuel i = some (i + ((s.drop i).takeWhile p).length) := by
  induction fuel generalizing i with
  | zero => omega
  | succ fuel ih =>
    rw [skipWhile, load_eq hi]
    cases hs : s.drop i with
    | nil => simp [hp]
    | cons c t =>
      obtain ⟨hlt, htail⟩ := drop_eq_cons hs
      by_cases hc : p c = true
      · simp [hc, ih hlt (by omega), htail]
        omega
      · simp [hc]

theorem drop_run (p : α → Bool) (s : List α) (i : ℕ) :
    s.drop (i + ((s.drop i).takeWhile p).length) = (s.drop i).dropWhile p := by
  rw [← List.drop_drop]
  generalize s.drop i = t
  calc t.drop (t.takeWhile p).length
      = (t.takeWhile p ++ t.dropWhile p).drop (t.takeWhile p).length := by
        rw [List.takeWhile_append_dropWhile]
    _ = t.dropWhile p := List.drop_left

/-- `strlen(s)` -/
def strlen [DecidableEq α] (z : α) (s : List α) : Option ℕ :=
  skipWhile z s (· ≠ z) (s.length + 1) 0

theorem strlen_eq [DecidableEq α] (hs : z ∉ s) : strlen z s = some s.length := by
  have hall : s.takeWhile (· ≠ z) = s := by
    rw [List.takeWhile_eq_self_iff]
    intro c hc
    simp only [ne_eq, decide_eq_true_eq]
    rintro rfl
    exact hs hc
  rw [strlen, skipWhile_eq (by simp) (Nat.zero_le _) (by omega), List.drop_zero, hall,
    Nat.zero_add]

/-- `strncmp(s + i, t + j, left) == 0`: the comparison ends at a difference, at a `z` that both
have, or after `left` symbols. -/
def sameUpTo [DecidableEq α] (z : α) (s t : List α) : ℕ → ℕ → ℕ → Option Bool
  | 0, _, _ => some true
  | left + 1, i, j => do
    let a ← load z s i
    let b ← load z t j
    if a ≠ b then some false
    else if a = z then some true
    else sameUpTo z s t left (i + 1) (j + 1)

theorem sameUpTo_eq [DecidableEq α] {t : List α} (ht : z ∉ t) {left j : ℕ} (hi : i ≤ s.length)
    (hj : j + left = t.length) :
    sameUpTo z s t left i j = some ((t.drop j).isPrefixOf (s.drop i)) := by
  induction left generalizing i j with
  | zero =>
    have hdone : t.drop j = [] := List.drop_eq_nil_of_le (by omega)
    rw [sameUpTo, hdone]
    rfl
  | succ left ih =>
    cases htj : t.drop j with
    | nil => simp only [List.drop_eq_nil_iff] at htj; omega
    | cons b u =>
      obtain ⟨hjt, hu⟩ := drop_eq_cons htj
      have hb : b ≠ z := by
        rintro rfl
        exact ht (List.mem_of_mem_drop (htj ▸ List.mem_cons_self))
      rw [sameUpTo, load_eq hi, load_eq hjt.le, htj]
      show (if (s.drop i).headD z ≠ b then some false else _) = _
      cases hs : s.drop i with
      | nil => simp [hb.symm]
      | cons a rest =>
        obtain ⟨hlt, htail⟩ := drop_eq_cons hs
        by_cases hab : a = b
        · simp [hab, hb, ih hlt (show j + 1 + left = t.length by omega), htail, hu]
        · have hba : (b == a) = false := by simpa using Ne.symm hab
          simp [hab, List.isPrefixOf_cons_cons, hba]

/-- `strchr(s + i, c)` for a symbol other than `z`: where it is, if it is there. -/
def strchr [DecidableEq α] (z : α) (s : List α) (c : α) : ℕ → ℕ → Option (Option ℕ)
  | 0, _ => none
  | fuel + 1, i => do
    let d ← load z s i
    if d = c then some (some i) else if d = z then some none else strchr z s c fuel (i + 1)

/-- What `strchr` finds in a string: nothing, or the first place. -/
theorem strchr_cases [DecidableEq α] {c : α} (hc : c ≠ z) (hs : z ∉ s) {fuel : ℕ}
    (hi : i ≤ s.length) (hfuel : s.length < i + fuel) :
    (strchr z s c fuel i = some none ∧ (s.drop i).dropWhile (· ≠ c) = []) ∨
    ∃ j, strchr z s c fuel i = some (some j) ∧ i ≤ j ∧ j < s.length ∧
      (s.drop i).dropWhile (· ≠ c) = c :: s.drop (j + 1) := by
  induction fuel generalizing i with
  | zero => omega
  | succ fuel ih =>
    rw [strchr, load_eq hi]
    cases ht : s.drop i with
    | nil => exact .inl ⟨by simp [hc.symm], rfl⟩
    | cons d t =>
      obtain ⟨hlt, htail⟩ := drop_eq_cons ht
      have hd : d ≠ z := fun h => hs (h ▸ List.mem_of_mem_drop (ht ▸ List.mem_cons_self))
      by_cases hdc : d = c
      · exact .inr ⟨i, by simp [hdc], le_rfl, hlt, by simp [hdc, htail]⟩
      · rcases ih hlt (by omega) with ⟨hnone, hrest⟩ | ⟨j, hj, hle, hlt', hrest⟩
        · rw [htail] at hrest
          exact .inl ⟨by simpa [hdc, hd] using hnone, by simpa [hdc] using hrest⟩
        · rw [htail] at hrest
          exact .inr ⟨j, by simpa [hdc, hd] using hj, by omega, hlt', by simpa [hdc] using hrest⟩

/-! ### Buffers -/

section Buffer

variable {n o : ℕ} {out out' : Vector α n} {a : α} {v : List α}

/-- A buffer with the symbols `v` at `o` and a `z` behind them. -/
def written (z : α) (out : Vector α n) (o : ℕ) (v : List α) : Vector α n :=
  Vector.ofFn fun i =>
    if i.val < o then out.get i
    else if i.val < o + v.length then v.getD (i.val - o) z
    else if i.val = o + v.length then z else out.get i

@[simp] theorem get_mk {i : ℕ} (out : Vector α n) (hi : i < n) : out.get ⟨i, hi⟩ = out[i] := rfl

theorem store_inside (out : Vector α n) (a : α) (ho : o < n) :
    ∃ out', store out o a = some out' :=
  ⟨_, dif_pos ho⟩

theorem written_nil (h : store out o z = some out') : out' = written z out o [] := by
  unfold store at h
  split_ifs at h with ho
  obtain rfl := Option.some.inj h
  refine Vector.ext ?_
  intro i hi
  simp only [written, Vector.getElem_ofFn, get_mk, Vector.getElem_set, List.length_nil,
    Nat.add_zero]
  split_ifs with h₁ h₂ h₃ <;> first | rfl | omega

theorem written_cons (h : store out o a = some out') :
    written z out' (o + 1) v = written z out o (a :: v) := by
  unfold store at h
  split_ifs at h with ho
  obtain rfl := Option.some.inj h
  refine Vector.ext ?_
  intro i hi
  simp only [written, Vector.getElem_ofFn, get_mk, Vector.getElem_set, List.length_cons]
  rcases lt_trichotomy i o with hio | rfl | hio
  · simp [hio, show i < o + 1 by omega, show o ≠ i by omega]
  · simp
  · have hsub : i - o = i - (o + 1) + 1 := by omega
    simp only [hsub, List.getD_cons_succ, show ¬ i < o by omega, show ¬ i < o + 1 by omega,
      show o ≠ i by omega, if_false, Nat.add_assoc, Nat.add_comm 1]

theorem written_store (h : store out o a = some out') :
    written z out' o v = written z out o v := by
  unfold store at h
  split_ifs at h with ho
  obtain rfl := Option.some.inj h
  refine Vector.ext ?_
  intro i hi
  simp only [written, Vector.getElem_ofFn, get_mk, Vector.getElem_set]
  split_ifs <;> first | rfl | omega

theorem copy_inside (v : List α) (out : Vector α n) (ho : o + v.length ≤ n) :
    ∃ out', copy out o v = some out' ∧
      ∀ w, written z out' (o + v.length) w = written z out o (v ++ w) := by
  induction v generalizing o out with
  | nil => exact ⟨out, rfl, fun w => rfl⟩
  | cons a v ih =>
    rw [List.length_cons] at ho
    obtain ⟨put, hput⟩ := store_inside out a (show o < n by omega)
    obtain ⟨out', hcopy, hwritten⟩ := ih put (show o + 1 + v.length ≤ n by omega)
    refine ⟨out', by rw [copy, hput, Option.bind_some, hcopy], ?_⟩
    intro w
    rw [List.length_cons, List.cons_append, ← written_cons hput, ← hwritten]
    congr 1
    omega

/-- The same of a copy with a `z` behind it, which is written over. -/
theorem copy_end_inside (v : List α) (out : Vector α n) (ho : o + v.length < n) :
    ∃ out', copy out o (v ++ [z]) = some out' ∧
      ∀ w, written z out' (o + v.length) w = written z out o (v ++ w) := by
  induction v generalizing o out with
  | nil =>
    obtain ⟨out', hstore⟩ := store_inside out z ho
    refine ⟨out', ?_, fun w => written_store hstore⟩
    show (store out o z).bind some = _
    rw [show store out o z = some out' from hstore, Option.bind_some]
  | cons a v ih =>
    rw [List.length_cons] at ho
    obtain ⟨put, hput⟩ := store_inside out a (show o < n by omega)
    obtain ⟨out', hcopy, hwritten⟩ := ih put (show o + 1 + v.length < n by omega)
    refine ⟨out', by rw [List.cons_append, copy, hput, Option.bind_some, hcopy], ?_⟩
    intro w
    rw [List.length_cons, List.cons_append, ← written_cons hput, ← hwritten]
    congr 1
    omega

/-- The string at the front of the buffer. -/
theorem takeWhile_written [DecidableEq α] (out : Vector α n) (hv : z ∉ v) (hlen : v.length < n) :
    (written z out 0 v).toList.takeWhile (· ≠ z) = v := by
  have hsplit : (written z out 0 v).toList =
      v ++ z :: (written z out 0 v).toList.drop (v.length + 1) := by
    refine List.ext_getElem (by simp; omega) ?_
    intro i h₁ h₂
    rcases lt_trichotomy i v.length with hi | rfl | hi
    · simp [written, List.getElem_append_left, hi]
    · simp [written]
    · obtain ⟨k, rfl⟩ := Nat.exists_eq_add_of_lt hi
      simp [written, List.getElem_append_right, Nat.add_assoc, Nat.add_comm 1]
  rw [hsplit, List.takeWhile_append_of_pos]
  · simp
  · intro c hc
    rw [decide_eq_true_eq]
    rintro rfl
    exact hv hc

end Buffer

end Memory
