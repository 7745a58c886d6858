import GdoBlaq.Text.Json
import Mathlib.Data.Int.Notation

/-!
# JSON values

The reader of whole JSON texts, over the code units of `Json.lean`, and what it makes of a flat
object: one whose members are given as texts that are values of their own.

A number is kept as it is written.

## Main results

* `Json.Units.value_number` : a decimal number is read up to its end.
* `Json.Units.parse_flat` : a flat object is read as the object of its members.
-/

namespace Json

/-- JSON values. -/
inductive Value (α : Type) where
  | null
  | bool (b : Bool)
  | number (text : List α)
  | string (s : List α)
  | array (vs : List (Value α))
  | object (ms : List (List α × Value α))

namespace Units

variable {α : Type} (u : Units α)

/-! ### The reader -/

/-- A text without the white space in front of it. -/
def skip (s : List α) : List α := s.dropWhile fun a => u.code a ∈ [32, 9, 10, 13]

/-- The text behind a mark, and white space in front of the mark. -/
def mark (n : ℕ) (s : List α) : Option (List α) :=
  match u.skip s with
  | [] => none
  | a :: s => if u.code a = n then some s else none

/-- The text behind a word. -/
def word (w : List ℕ) (s : List α) : Option (List α) :=
  if (s.take w.length).map u.code = w then some (s.drop w.length) else none

/-- A decimal digit. -/
def isDigit (a : α) : Bool := 48 ≤ u.code a ∧ u.code a ≤ 57

/-- The text behind one digit or more. -/
def digits (s : List α) : Option (List α) :=
  match s with
  | [] => none
  | a :: s => if u.isDigit a then some (s.dropWhile u.isDigit) else none

/-- The text behind the exponent of a number, if it has one. -/
def exponent (s : List α) : Option (List α) :=
  match s with
  | [] => some []
  | e :: t =>
    if u.code e = 101 ∨ u.code e = 69 then
      match t with
      | [] => none
      | a :: t' => u.digits (if u.code a = 43 ∨ u.code a = 45 then t' else t)
    else some s

/-- The text behind the fraction and the exponent of a number. -/
def fraction (s : List α) : Option (List α) :=
  match s with
  | [] => some []
  | a :: t => if u.code a = 46 then (u.digits t).bind u.exponent else u.exponent s

/-- The text behind a number without a sign: no digit follows a leading zero. -/
def unsigned (s : List α) : Option (List α) :=
  match s with
  | [] => none
  | a :: t => if u.code a = 48 then u.fraction t else (u.digits s).bind u.fraction

/-- The text behind a number. -/
def number (s : List α) : Option (List α) :=
  match s with
  | [] => none
  | a :: t => if u.code a = 45 then u.unsigned t else u.unsigned s

/-- The members of an object up to its closing brace. -/
def members (value : List α → Option (Value α × List α)) :
    ℕ → List α → Option (List (List α × Value α) × List α)
  | 0, _ => none
  | fuel + 1, s => do
    let s ← u.mark 34 s
    let (name, s) ← u.string s
    let s ← u.mark 58 s
    let (v, s) ← value s
    match u.mark 44 s with
    | some s => (members value fuel s).map (Prod.map ((name, v) :: ·) id)
    | none => (u.mark 125 s).map fun s => ([(name, v)], s)

/-- The elements of an array up to its closing bracket. -/
def elements (value : List α → Option (Value α × List α)) :
    ℕ → List α → Option (List (Value α) × List α)
  | 0, _ => none
  | fuel + 1, s => do
    let (v, s) ← value s
    match u.mark 44 s with
    | some s => (elements value fuel s).map (Prod.map (v :: ·) id)
    | none => (u.mark 93 s).map fun s => ([v], s)

/-- A value that is neither a string, an object nor an array. -/
def scalar (s : List α) : Option (Value α × List α) :=
  match u.word [116, 114, 117, 101] s with
  | some t => some (.bool true, t)
  | none =>
    match u.word [102, 97, 108, 115, 101] s with
    | some t => some (.bool false, t)
    | none =>
      match u.word [110, 117, 108, 108] s with
      | some t => some (.null, t)
      | none => (u.number s).map fun t => (.number (s.take (s.length - t.length)), t)

/-- What a text begins with as a value, and the text behind. -/
def value : ℕ → List α → Option (Value α × List α)
  | 0, _ => none
  | fuel + 1, s =>
    match u.mark 34 s with
    | some s => (u.string s).map (Prod.map .string id)
    | none =>
      match u.mark 123 s with
      | some s =>
        match u.mark 125 s with
        | some s => some (.object [], s)
        | none => (u.members (value fuel) fuel s).map (Prod.map .object id)
      | none =>
        match u.mark 91 s with
        | some s =>
          match u.mark 93 s with
          | some s => some (.array [], s)
          | none => (u.elements (value fuel) fuel s).map (Prod.map .array id)
        | none => u.scalar (u.skip s)

/-- A text that is one value. -/
def parse (s : List α) : Option (Value α) :=
  match u.value (s.length + 1) s with
  | some (v, rest) => if u.skip rest = [] then some v else none
  | none => none

/-! ### The writer -/

/-- A number in decimal. -/
def decimal (n : ℕ) : List α := (Nat.toDigits 10 n).map fun c => u.ascii c.toNat

/-- An integer in decimal. -/
def integer (n : ℤ) : List α :=
  if n < 0 then u.ascii 45 :: u.decimal n.natAbs else u.decimal n.natAbs

/-- A member of an object: its name, which needs no escapes, the text behind the colon and the value
of that text. -/
structure Field (α : Type) where
  name : List α
  text : List α
  value : Value α

/-- A member, written. -/
def member (f : Field α) : List α :=
  u.ascii 34 :: (f.name ++ u.ascii 34 :: u.ascii 58 :: f.text)

/-- What follows a member: the others, and the closing brace. -/
def flatTail : List (Field α) → List α
  | [] => [u.ascii 125]
  | f :: fs => u.ascii 44 :: (u.member f ++ flatTail fs)

/-- An object of the member `f` and others. -/
def flat (f : Field α) (fs : List (Field α)) : List α :=
  u.ascii 123 :: (u.member f ++ u.flatTail fs)

/-- A text ends, or goes on with a comma or a closing brace. -/
def Ends (s : List α) : Prop := ∀ a ∈ s.head?, u.code a = 44 ∨ u.code a = 125

/-- Where it ends, a text is read as a value. -/
def Reads (t : List α) (v : Value α) : Prop :=
  ∀ fuel s, u.Ends s → u.value (fuel + 1) (t ++ s) = some (v, s)

/-- A member with a plain name, whose text stands for its value. -/
structure Valid (f : Field α) : Prop where
  name : u.Spells f.name f.name
  text : u.Reads f.text f.value

variable {u}

/-! ### Marks -/

theorem skip_cons {a : α} (ha : u.code a ∉ [32, 9, 10, 13]) (s : List α) :
    u.skip (a :: s) = a :: s := by
  rw [skip, List.dropWhile_cons_of_neg]
  simpa using ha

theorem mark_cons {a : α} (ha : u.code a ∉ [32, 9, 10, 13]) (n : ℕ) (s : List α) :
    u.mark n (a :: s) = if u.code a = n then some s else none := by
  rw [mark, skip_cons ha]

theorem mark_ascii {n : ℕ} (hn : n < 128) (hblank : n ∉ [32, 9, 10, 13]) (s : List α) :
    u.mark n (u.ascii n :: s) = some s := by
  rw [mark_cons (by rwa [u.code_ascii hn]), if_pos (u.code_ascii hn)]

theorem mark_ascii_ne {m n : ℕ} (hm : m < 128) (hblank : m ∉ [32, 9, 10, 13]) (hne : m ≠ n)
    (s : List α) : u.mark n (u.ascii m :: s) = none := by
  rw [mark_cons (by rwa [u.code_ascii hm]), if_neg (by rwa [u.code_ascii hm])]

theorem word_ne {a : α} {c : ℕ} (ha : u.code a ≠ c) (w : List ℕ) (s : List α) :
    u.word (c :: w) (a :: s) = none := by
  simp [word, ha]

theorem word_append (w : List ℕ) (hw : ∀ c ∈ w, c < 128) (s : List α) :
    u.word w (w.map u.ascii ++ s) = some s := by
  have hcodes : (w.map u.ascii).map u.code = w := by
    rw [List.map_map]
    exact (List.map_congr_left fun c hc => u.code_ascii (hw c hc)).trans (List.map_id w)
  rw [word, List.take_left' (by simp), if_pos hcodes, List.drop_left' (by simp)]

/-! ### Values -/

theorem value_scalar {a : α} (hblank : u.code a ∉ [32, 9, 10, 13])
    (hmark : u.code a ∉ [34, 123, 91]) (fuel : ℕ) (s : List α) :
    u.value (fuel + 1) (a :: s) = u.scalar (a :: s) := by
  simp only [List.mem_cons, List.not_mem_nil, or_false, not_or] at hmark
  rw [value, mark_cons hblank, mark_cons hblank, mark_cons hblank, if_neg hmark.1,
    if_neg hmark.2.1, if_neg hmark.2.2, skip_cons hblank]

/-- **A string.** -/
theorem reads_string {t v : List α} (h : u.Spells t v) :
    u.Reads (u.ascii 34 :: (t ++ [u.ascii 34])) (.string v) := by
  intro fuel s _
  rw [List.cons_append, List.append_assoc, value, mark_ascii (by decide) (by decide)]
  show (u.string (t ++ u.ascii 34 :: s)).map _ = _
  rw [h.close (u.code_ascii (by decide))]
  rfl

/-- **The truth values.** -/
theorem reads_bool (b : Bool) :
    u.Reads ((if b then [116, 114, 117, 101] else [102, 97, 108, 115, 101]).map u.ascii)
      (.bool b) := by
  intro fuel s _
  cases b with
  | true =>
    show u.value (fuel + 1) ([116, 114, 117, 101].map u.ascii ++ s) = _
    have hhead : u.code (u.ascii 116) = 116 := u.code_ascii (by decide)
    have hword := word_append (u := u) [116, 114, 117, 101] (by decide) s
    refine (value_scalar (by rw [hhead]; decide) (by rw [hhead]; decide) fuel _).trans ?_
    show u.scalar ([116, 114, 117, 101].map u.ascii ++ s) = _
    simp only [scalar, hword]
  | false =>
    show u.value (fuel + 1) ([102, 97, 108, 115, 101].map u.ascii ++ s) = _
    have hhead : u.code (u.ascii 102) = 102 := u.code_ascii (by decide)
    have hword := word_append (u := u) [102, 97, 108, 115, 101] (by decide) s
    have hnot : u.word [116, 114, 117, 101] ([102, 97, 108, 115, 101].map u.ascii ++ s) = none :=
      word_ne (by rw [hhead]; decide) _ _
    refine (value_scalar (by rw [hhead]; decide) (by rw [hhead]; decide) fuel _).trans ?_
    show u.scalar ([102, 97, 108, 115, 101].map u.ascii ++ s) = _
    simp only [scalar, hnot, hword]

/-! ### Numbers -/

theorem fraction_of_ends {s : List α} (hs : u.Ends s) : u.fraction s = some s := by
  cases s with
  | nil => rfl
  | cons a s =>
    have ha := hs a rfl
    simp only [fraction, exponent]
    rw [if_neg (by omega), if_neg (by omega)]

theorem dropWhile_of_ends {ds s : List α} (hds : ∀ d ∈ ds, u.isDigit d = true) (hs : u.Ends s) :
    (ds ++ s).dropWhile u.isDigit = s := by
  rw [List.dropWhile_append_of_pos hds]
  cases s with
  | nil => rfl
  | cons a s =>
    have ha := hs a rfl
    refine List.dropWhile_cons_of_neg ?_
    simp only [isDigit, decide_eq_true_eq]
    omega

theorem code_digitChar {d : ℕ} (hd : d < 10) : u.code (u.ascii d.digitChar.toNat) = 48 + d := by
  have hchar : ∀ d < 10, d.digitChar.toNat = 48 + d := by decide
  rw [hchar d hd, u.code_ascii (by omega)]

theorem decimal_cons (n : ℕ) :
    ∃ a ds, u.decimal n = a :: ds ∧ u.isDigit a = true ∧ (∀ d ∈ ds, u.isDigit d = true) ∧
      (u.code a = 48 → ds = []) ∧ (0 < n → u.code a ≠ 48) := by
  induction n using Nat.strongRecOn with
  | ind n ih =>
    have hdigit {d : ℕ} (hd : d < 10) : u.isDigit (u.ascii d.digitChar.toNat) = true := by
      simp only [isDigit, code_digitChar hd, decide_eq_true_eq]
      omega
    rcases Nat.lt_or_ge n 10 with hn | hn
    · refine ⟨_, [], by rw [decimal, Nat.toDigits_of_lt_base hn]; rfl, hdigit hn, by simp,
        fun _ => rfl, ?_⟩
      intro hpos
      rw [code_digitChar hn]
      omega
    · obtain ⟨a, ds, hdecimal, ha, hds, -, hne⟩ := ih (n / 10) (by omega)
      have hhead := hne (by omega)
      refine ⟨a, ds ++ [u.ascii (n % 10).digitChar.toNat], ?_, ha, ?_, ?_, fun _ => hhead⟩
      · rw [decimal, Nat.toDigits_of_base_le (by decide) hn, List.map_append, ← decimal, hdecimal]
        rfl
      · simp only [List.forall_mem_append, List.forall_mem_singleton]
        exact ⟨hds, hdigit (by omega)⟩
      · exact fun h => absurd h hhead

theorem unsigned_decimal (n : ℕ) {s : List α} (hs : u.Ends s) :
    u.unsigned (u.decimal n ++ s) = some s := by
  obtain ⟨a, ds, hdecimal, ha, hds, hzero, -⟩ := u.decimal_cons n
  rw [hdecimal, List.cons_append, unsigned]
  split_ifs with h
  · rw [hzero h, List.nil_append, fraction_of_ends hs]
  · rw [digits, if_pos ha, dropWhile_of_ends hds hs, Option.bind_some, fraction_of_ends hs]

theorem reads_number {a : α} {t : List α} (ha : u.isDigit a = true ∨ u.code a = 45)
    (h : ∀ s, u.Ends s → u.number (a :: t ++ s) = some s) :
    u.Reads (a :: t) (.number (a :: t)) := by
  have hcode : 45 ≤ u.code a ∧ u.code a ≤ 57 := by
    rcases ha with ha | ha
    · simp only [isDigit, decide_eq_true_eq] at ha
      omega
    · omega
  intro fuel s hs
  have htake : (a :: t ++ s).take ((a :: t ++ s).length - s.length) = a :: t := by
    rw [List.length_append, Nat.add_sub_cancel, List.take_left]
  rw [List.cons_append, value_scalar (by simp; omega) (by simp; omega), scalar,
    word_ne (by omega), word_ne (by omega), word_ne (by omega), ← List.cons_append, h s hs]
  exact congrArg (fun x => some (Value.number x, s)) htake

/-- **A number in decimal.** -/
theorem reads_decimal (n : ℕ) : u.Reads (u.decimal n) (.number (u.decimal n)) := by
  obtain ⟨a, ds, hdecimal, ha, -⟩ := u.decimal_cons n
  have hsign : ¬ u.code a = 45 := by
    simp only [isDigit, decide_eq_true_eq] at ha
    omega
  rw [hdecimal]
  refine reads_number (.inl ha) ?_
  intro s hs
  rw [List.cons_append, number, if_neg hsign, ← List.cons_append, ← hdecimal,
    unsigned_decimal n hs]

/-- **An integer in decimal.** -/
theorem reads_integer (n : ℤ) : u.Reads (u.integer n) (.number (u.integer n)) := by
  unfold integer
  split_ifs with hn
  · have hsign : u.code (u.ascii 45) = 45 := u.code_ascii (by decide)
    refine reads_number (.inr hsign) ?_
    intro s hs
    rw [List.cons_append, number, if_pos hsign, unsigned_decimal _ hs]
  · exact reads_decimal n.natAbs

/-! ### Objects -/

theorem ends_flatTail (fs : List (Field α)) (s : List α) : u.Ends (u.flatTail fs ++ s) := by
  intro a ha
  cases fs with
  | nil =>
    obtain rfl : u.ascii 125 = a := by simpa [flatTail] using ha
    exact .inr (u.code_ascii (by decide))
  | cons f fs =>
    obtain rfl : u.ascii 44 = a := by simpa [flatTail] using ha
    exact .inl (u.code_ascii (by decide))

theorem members_member {f : Field α} (h : u.Valid f) (fuel depth : ℕ) {s : List α}
    (hs : u.Ends s) :
    u.members (u.value (depth + 1)) (fuel + 1) (u.member f ++ s) =
      match u.mark 44 s with
      | some s =>
        (u.members (u.value (depth + 1)) fuel s).map (Prod.map ((f.name, f.value) :: ·) id)
      | none => (u.mark 125 s).map fun s => ([(f.name, f.value)], s) := by
  have hname := h.name.close (u.code_ascii (n := 34) (by decide)) (u.ascii 58 :: (f.text ++ s))
  have htext : u.member f ++ s =
      u.ascii 34 :: (f.name ++ u.ascii 34 :: u.ascii 58 :: (f.text ++ s)) := by
    simp [member]
  rw [htext, members, mark_ascii (by decide) (by decide)]
  simp only [Option.bind_eq_bind, Option.bind_some, hname]
  rw [mark_ascii (by decide) (by decide), Option.bind_some, h.text depth s hs]
  rfl

theorem members_flat {f : Field α} {fs : List (Field α)} (h : ∀ g ∈ f :: fs, u.Valid g)
    {k : ℕ} (hfuel : fs.length < k) (depth : ℕ) (s : List α) :
    u.members (u.value (depth + 1)) k (u.member f ++ (u.flatTail fs ++ s)) =
      some ((f :: fs).map fun g => (g.name, g.value), s) := by
  induction fs generalizing f k with
  | nil =>
    obtain ⟨fuel, rfl⟩ : ∃ fuel, k = fuel + 1 := ⟨k - 1, by simp at hfuel; omega⟩
    rw [members_member (h f (by simp)) fuel depth (ends_flatTail [] s)]
    show (match u.mark 44 (u.ascii 125 :: s) with | some s => _ | none => _) = _
    rw [mark_ascii_ne (by decide) (by decide) (by decide)]
    show (u.mark 125 (u.ascii 125 :: s)).map _ = _
    rw [mark_ascii (by decide) (by decide)]
    rfl
  | cons g fs ih =>
    obtain ⟨fuel, rfl⟩ : ∃ fuel, k = fuel + 1 := ⟨k - 1, by omega⟩
    rw [List.length_cons] at hfuel
    have hrest := ih (f := g) (k := fuel) (fun x hx => h x (List.mem_cons_of_mem _ hx)) (by omega)
    have htail : u.flatTail (g :: fs) ++ s =
        u.ascii 44 :: (u.member g ++ (u.flatTail fs ++ s)) := by
      simp [flatTail]
    rw [members_member (h f (by simp)) fuel depth (ends_flatTail (g :: fs) s), htail,
      mark_ascii (by decide) (by decide)]
    show (u.members _ fuel (u.member g ++ (u.flatTail fs ++ s))).map _ = _
    rw [hrest]
    rfl

theorem length_flatTail (fs : List (Field α)) : fs.length < (u.flatTail fs).length := by
  induction fs with
  | nil => exact Nat.one_pos
  | cons f fs ih =>
    rw [flatTail, List.length_cons, List.length_cons, List.length_append]
    omega

/-- **A flat object** is read as the object of its members. -/
theorem parse_flat {f : Field α} {fs : List (Field α)} (h : ∀ g ∈ f :: fs, u.Valid g) :
    u.parse (u.flat f fs) = some (.object ((f :: fs).map fun g => (g.name, g.value))) := by
  have hfuel : fs.length < (u.flat f fs).length := by
    have hlength := length_flatTail (u := u) fs
    rw [flat, List.length_cons, List.length_append]
    omega
  have hmembers := members_flat h hfuel (u.member f ++ u.flatTail fs).length []
  have hopen : u.mark 125 (u.member f ++ u.flatTail fs) = none :=
    mark_ascii_ne (by decide) (by decide) (by decide) _
  have hobject : u.value ((u.flat f fs).length + 1) (u.flat f fs) =
      some (.object ((f :: fs).map fun g => (g.name, g.value)), []) := by
    rw [value, flat, mark_ascii_ne (by decide) (by decide) (by decide),
      mark_ascii (by decide) (by decide)]
    show (match u.mark 125 (u.member f ++ u.flatTail fs) with | some s => _ | none => _) = _
    rw [hopen]
    rw [List.append_nil] at hmembers
    show (u.members _ _ (u.member f ++ u.flatTail fs)).map _ = _
    exact congrArg (Option.map (Prod.map Value.object id)) hmembers
  rw [parse, hobject]
  rfl

end Units

end Json
