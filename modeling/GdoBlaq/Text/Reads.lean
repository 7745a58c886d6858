import Mathlib.Computability.Language
import Mathlib.Data.List.TakeWhile
import Mathlib.Tactic.Common

/-!
# Greedy readers and the languages they read

A hand-written scanner is a function from an input to what is left of it, or to a failure.  It
commits to the longest match at every part, so it agrees with a grammar only where what follows a
part cannot be taken for more of it.  `Reads f L p` says which words `f` reads, and which symbols
must not follow them; each way to put scanners together has its rule.

The end of an input is a symbol `z` that the input does not contain.

## Main results

* `Scan.Reads.bind`, `Scan.Reads.cond`, `Scan.Reads.markOr`, `Scan.Reads.opt` : a sequence, a
  choice by looking ahead, a choice by a mark, an optional part behind one.
* `Scan.Reads.span`, `Scan.Reads.spanUpTo` : runs of a class of symbols, with or without a bound.
* `Scan.Accepts.bind`, `Scan.Accepts.orEnd` : the same for scanners that go on to the end.
-/

namespace Scan

variable {α : Type*}

/-! ### What comes next -/

/-- The input ends, or goes on with no symbol of the class `p`. -/
def Before (p : α → Bool) (t : List α) : Prop := ∀ c ∈ t.head?, p c = false

/-- No word of `L` is empty, and each begins with a symbol of the class `b`. -/
def Begins (b : α → Bool) (L : Language α) : Prop := ∀ w ∈ L, ∃ c ∈ w.head?, b c = true

/-- The words of `L` are over the class `b`. -/
def Within (b : α → Bool) (L : Language α) : Prop := ∀ w ∈ L, ∀ c ∈ w, b c = true

section Next

variable {p q b b' : α → Bool} {L K : Language α} {c : α} {w t : List α}

@[simp] theorem before_nil (p : α → Bool) : Before p [] := by simp [Before]

@[simp] theorem before_cons : Before p (c :: t) ↔ p c = false := by simp [Before]

theorem Before.mono (h : Before q t) (hle : ∀ c, p c = true → q c = true) : Before p t := by
  intro c hc
  by_contra hp
  exact absurd (h c hc) (by simp [hle c (by simpa using hp)])

theorem Before.takeWhile_append (ht : Before p t) (hw : ∀ c ∈ w, p c = true) :
    (w ++ t).takeWhile p = w := by
  rw [List.takeWhile_append_of_pos hw]
  cases t with
  | nil => simp
  | cons c t => simp [before_cons.1 ht]

theorem Before.dropWhile_append (ht : Before p t) (hw : ∀ c ∈ w, p c = true) :
    (w ++ t).dropWhile p = t := by
  rw [List.dropWhile_append_of_pos hw]
  cases t with
  | nil => simp
  | cons c t => simp [before_cons.1 ht]

theorem before_dropWhile (p : α → Bool) (s : List α) : Before p (s.dropWhile p) := by
  induction s with
  | nil => simp
  | cons c s ih =>
    cases hc : p c with
    | true => rwa [List.dropWhile_cons_of_pos hc]
    | false =>
      rw [List.dropWhile_cons_of_neg (by simp [hc])]
      exact before_cons.2 hc

theorem headD_eq_iff {z : α} (hc : c ≠ z) {s : List α} :
    s.headD z = c ↔ ∃ t, s = c :: t := by
  cases s with
  | nil => simp [hc.symm]
  | cons d s => simp

theorem headD_ne_iff [DecidableEq α] {z : α} (hc : c ≠ z) :
    t.headD z ≠ c ↔ Before (· = c) t := by
  cases t with
  | nil => simp [hc.symm]
  | cons d t => simp

namespace Within

theorem one : Within b 1 := by
  rintro w rfl c hc
  cases hc

theorem mul (h : Within b L) (h' : Within b K) : Within b (L * K) := by
  intro w hw
  obtain ⟨u, hu, v, hv, rfl⟩ := Language.mem_mul.1 hw
  exact List.forall_mem_append.2 ⟨h u hu, h' v hv⟩

theorem add (h : Within b L) (h' : Within b K) : Within b (L + K) := by
  intro w hw
  exact ((Language.mem_add ..).1 hw).elim (h w) (h' w)

theorem mono (h : Within p L) (hle : ∀ c, p c = true → q c = true) : Within q L :=
  fun w hw c hc => hle c (h w hw c hc)

end Within

namespace Begins

theorem mul (h : Begins b L) : Begins b (L * K) := by
  intro w hw
  obtain ⟨u, hu, v, -, rfl⟩ := Language.mem_mul.1 hw
  obtain ⟨c, hc, hb⟩ := h u hu
  refine ⟨c, ?_, hb⟩
  cases u with
  | nil => cases hc
  | cons d u => exact hc

theorem add (h : Begins b L) (h' : Begins b' K) : Begins (fun c => b c || b' c) (L + K) := by
  intro w hw
  rcases (Language.mem_add ..).1 hw with hw | hw
  · obtain ⟨c, hc, hb⟩ := h w hw
    exact ⟨c, hc, by simp [hb]⟩
  · obtain ⟨c, hc, hb⟩ := h' w hw
    exact ⟨c, hc, by simp [hb]⟩

theorem one_add_mul (h : Begins b L) (h' : Begins b' K) :
    Begins (fun c => b' c || b c) ((1 + L) * K) := by
  rw [add_mul, one_mul]
  exact h'.add h.mul

theorem char [DecidableEq α] (c : α) : Begins (· = c) ({[c]} : Language α) := by
  rintro w rfl
  exact ⟨c, rfl, by simp⟩

theorem before (h : Begins b L) (hdisj : ∀ c, b c = true → p c = false) (hw : w ∈ L) :
    Before p (w ++ t) := by
  obtain ⟨c, hc, hb⟩ := h w hw
  cases w with
  | nil => cases hc
  | cons d w =>
    obtain rfl : d = c := Option.some.inj hc
    simpa using hdisj d hb

theorem before_opt (h : Begins b L) (hdisj : ∀ c, b c = true → p c = false) (hw : w ∈ 1 + L)
    (ht : Before p t) : Before p (w ++ t) := by
  rcases (Language.mem_add ..).1 hw with rfl | hw
  · exact ht
  · exact h.before hdisj hw

end Begins

end Next

/-! ### Scanners -/

/-- `f` takes off a word of `L`, and does take `w` off if no symbol of the class `p` comes after
it. -/
structure Reads (f : List α → Option (List α)) (L : Language α) (p : α → Bool) : Prop where
  sound : ∀ {s t}, f s = some t → ∃ w ∈ L, w ++ t = s
  complete : ∀ {w t}, w ∈ L → Before p t → f (w ++ t) = some t

namespace Reads

variable {f g : List α → Option (List α)} {L K : Language α} {p q r b : α → Bool}

theorem mono (h : Reads f L p) (hle : ∀ c, p c = true → q c = true) : Reads f L q :=
  ⟨h.sound, fun hw ht => h.complete hw (ht.mono hle)⟩

theorem congr (h : Reads f L p) (hg : ∀ s, g s = f s) (hK : ∀ w, w ∈ K ↔ w ∈ L) :
    Reads g K p := by
  obtain rfl : g = f := funext hg
  obtain rfl : K = L := Set.ext hK
  exact h

theorem skip : Reads (some : List α → Option (List α)) 1 fun _ => false := by
  constructor
  · rintro s t ⟨⟩
    exact ⟨[], rfl, rfl⟩
  · rintro w t rfl -
    rfl

/-- One after the other: what the second one reads, and what comes after it, may follow the
first. -/
theorem bind (hf : Reads f L p) (hg : Reads g K q)
    (hnext : ∀ k ∈ K, ∀ t, Before q t → Before p (k ++ t)) :
    Reads (fun s => (f s).bind g) (L * K) q := by
  constructor
  · intro s t h
    obtain ⟨m, hm, ht⟩ := Option.bind_eq_some_iff.1 h
    obtain ⟨w, hw, rfl⟩ := hf.sound hm
    obtain ⟨k, hk, rfl⟩ := hg.sound ht
    exact ⟨w ++ k, Language.mem_mul.2 ⟨w, hw, k, hk, rfl⟩, List.append_assoc ..⟩
  · intro w t hw ht
    obtain ⟨v, hv, k, hk, rfl⟩ := Language.mem_mul.1 hw
    rw [List.append_assoc, hf.complete hv (hnext k hk t ht)]
    exact hg.complete hk ht

/-- A choice by looking ahead. -/
theorem cond {test : List α → Prop} [DecidablePred test] (hf : Reads f L r) (hg : Reads g K r)
    (hL : ∀ w ∈ L, ∀ t, Before r t → test (w ++ t))
    (hK : ∀ w ∈ K, ∀ t, Before r t → ¬ test (w ++ t)) :
    Reads (fun s => if test s then f s else g s) (L + K) r := by
  constructor
  · intro s t h
    split_ifs at h with htest
    · obtain ⟨w, hw, rfl⟩ := hf.sound h
      exact ⟨w, (Language.mem_add ..).2 (.inl hw), rfl⟩
    · obtain ⟨w, hw, rfl⟩ := hg.sound h
      exact ⟨w, (Language.mem_add ..).2 (.inr hw), rfl⟩
  · intro w t hw ht
    rcases (Language.mem_add ..).1 hw with hw | hw
    · simp only [hL w hw t ht, if_true]
      exact hf.complete hw ht
    · simp only [hK w hw t ht, if_false]
      exact hg.complete hw ht

section Runs

variable (p : α → Bool) (ok : List α → Prop) [DecidablePred ok]

/-- The longest run of a class, if it passes a test. -/
theorem span :
    Reads (fun s => if ok (s.takeWhile p) then some (s.dropWhile p) else none)
      {w | (∀ c ∈ w, p c = true) ∧ ok w} p := by
  constructor
  · intro s t h
    split_ifs at h with hok
    cases h
    exact ⟨s.takeWhile p, ⟨fun c hc => List.mem_takeWhile_imp hc, hok⟩,
      List.takeWhile_append_dropWhile⟩
  · rintro w t ⟨hw, hok⟩ ht
    simp only [ht.takeWhile_append hw, ht.dropWhile_append hw, hok, if_true]

/-- The longest run of a class of at most `n` symbols, if it passes a test. -/
theorem spanUpTo (n : ℕ) :
    Reads (fun s => if ok ((s.take n).takeWhile p) then
        some (s.drop ((s.take n).takeWhile p).length) else none)
      {w | (∀ c ∈ w, p c = true) ∧ w.length ≤ n ∧ ok w} p := by
  constructor
  · intro s t h
    split_ifs at h with hok
    cases h
    have hprefix : (s.take n).takeWhile p <+: s :=
      (List.takeWhile_prefix p).trans (List.take_prefix n s)
    refine ⟨_, ⟨fun c hc => List.mem_takeWhile_imp hc, ?_, hok⟩, ?_⟩
    · exact ((List.takeWhile_prefix p).length_le).trans (List.length_take_le n s)
    · conv_rhs => rw [← List.take_append_drop ((s.take n).takeWhile p).length s]
      rw [← List.prefix_iff_eq_take.1 hprefix]
  · rintro w t ⟨hw, hlen, hok⟩ ht
    have htake : ((w ++ t).take n).takeWhile p = w := by
      rw [List.take_append, List.take_of_length_le hlen, List.takeWhile_append_of_pos hw]
      cases t with
      | nil => simp
      | cons c t =>
        cases n - w.length with
        | zero => simp
        | succ m => simp [before_cons.1 ht]
    simp only [htake, hok, if_true, List.drop_left]

end Runs

section Marks

variable [DecidableEq α] {z c : α}

theorem char (hc : c ≠ z) :
    Reads (fun s => if s.headD z = c then some s.tail else none) {[c]} fun _ => false := by
  constructor
  · intro s t h
    split_ifs at h with hhead
    cases h
    obtain ⟨t, rfl⟩ := (headD_eq_iff hc).1 hhead
    exact ⟨[c], rfl, rfl⟩
  · rintro w t rfl -
    simp

/-- A part behind a mark, or what stands there without the mark. -/
theorem markOr (hc : c ≠ z) (hf : Reads f L p) (hg : Reads g K q)
    (hp : ∀ c, p c = true → r c = true) (hq : ∀ c, q c = true → r c = true)
    (hK : ∀ w ∈ K, ∀ t, Before r t → Before (· = c) (w ++ t)) :
    Reads (fun s => if s.headD z = c then f s.tail else g s) ({[c]} * L + K) r := by
  constructor
  · intro s t h
    split_ifs at h with hhead
    · obtain ⟨m, rfl⟩ := (headD_eq_iff hc).1 hhead
      obtain ⟨w, hw, rfl⟩ := hf.sound h
      have hmem : c :: w ∈ {[c]} * L := Language.mem_mul.2 ⟨[c], rfl, w, hw, rfl⟩
      exact ⟨c :: w, (Language.mem_add ..).2 (.inl hmem), rfl⟩
    · obtain ⟨w, hw, rfl⟩ := hg.sound h
      exact ⟨w, (Language.mem_add ..).2 (.inr hw), rfl⟩
  · intro w t hw ht
    rcases (Language.mem_add ..).1 hw with hw | hw
    · obtain ⟨_, rfl, v, hv, rfl⟩ := Language.mem_mul.1 hw
      simpa using hf.complete hv (ht.mono hp)
    · have hhead : (w ++ t).headD z ≠ c := (headD_ne_iff hc).2 (hK w hw t ht)
      simp only [hhead, if_false]
      exact hg.complete hw (ht.mono hq)

/-- An optional part behind a mark. -/
theorem opt (hc : c ≠ z) (hf : Reads f L p) :
    Reads (fun s => if s.headD z = c then f s.tail else some s) (1 + {[c]} * L)
      fun d => p d || decide (d = c) := by
  rw [add_comm]
  refine markOr hc hf skip (fun d hd => by simp [hd]) (fun d hd => by cases hd) ?_
  rintro w rfl t ht
  exact ht.mono fun d hd => by simp [hd]

end Marks

end Reads

/-! ### To the end -/

section End

variable {z : α} {f g : List α → Option (List α)} {L K : Language α} {p : α → Bool}

/-- Of the inputs without `z`, `f` gets to the end of exactly those in `L`. -/
def Accepts (z : α) (f : List α → Option (List α)) (L : Language α) : Prop :=
  ∀ s, z ∉ s → ((∃ t, f s = some t ∧ t.headD z = z) ↔ s ∈ L)

theorem eq_nil_of_headD {s : List α} (hs : z ∉ s) (h : s.headD z = z) : s = [] := by
  cases s with
  | nil => rfl
  | cons c s =>
    obtain rfl : c = z := h
    simp at hs

namespace Accepts

theorem of_reads (hf : Reads f L p) : Accepts z f L := by
  intro s hs
  constructor
  · rintro ⟨t, ht, hnul⟩
    obtain ⟨w, hw, rfl⟩ := hf.sound ht
    obtain rfl := eq_nil_of_headD (fun hmem => hs (List.mem_append_right w hmem)) hnul
    simpa using hw
  · intro hmem
    exact ⟨[], by simpa using hf.complete hmem (before_nil p), rfl⟩

theorem congr (h : Accepts z f L) (hg : ∀ s, z ∉ s → g s = f s) (hK : K = L) :
    Accepts z g K := by
  intro s hs
  rw [hg s hs, hK]
  exact h s hs

theorem bind (hf : Reads f L p) (hg : Accepts z g K) (hnext : ∀ k ∈ K, Before p k) :
    Accepts z (fun s => (f s).bind g) (L * K) := by
  intro s hs
  constructor
  · rintro ⟨t, ht, hnul⟩
    obtain ⟨m, hm, hmt⟩ := Option.bind_eq_some_iff.1 ht
    obtain ⟨w, hw, rfl⟩ := hf.sound hm
    have hclean : z ∉ m := fun hmem => hs (List.mem_append_right w hmem)
    exact Language.mem_mul.2 ⟨w, hw, m, (hg m hclean).1 ⟨t, hmt, hnul⟩, rfl⟩
  · intro hmem
    obtain ⟨w, hw, k, hk, rfl⟩ := Language.mem_mul.1 hmem
    have hnul : z ∉ k := fun hmem => hs (List.mem_append_right w hmem)
    obtain ⟨t, ht, hend⟩ := (hg k hnul).2 hk
    exact ⟨t, by simp [hf.complete hw (hnext k hk), ht], hend⟩

/-- The scanner may stop here, if the input does. -/
theorem orEnd [DecidableEq α] (hg : Accepts z g K) :
    Accepts z (fun s => if s.headD z = z then some s else g s) (1 + K) := by
  intro s hs
  by_cases hend : s.headD z = z
  · obtain rfl := eq_nil_of_headD hs hend
    simp [Language.mem_add, Language.mem_one]
  · have hne : s ∉ (1 : Language α) := by
      rintro rfl
      exact hend rfl
    simp only [hend, if_false, Language.mem_add, hne, false_or]
    exact hg s hs

end Accepts

end End

end Scan
