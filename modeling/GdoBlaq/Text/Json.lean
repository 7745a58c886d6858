import Mathlib.Data.Nat.Notation
import Mathlib.Tactic.Common

/-!
# JSON strings

A JSON text is a list of code units.  A unit below 128 is an ASCII character; the others only occur
in strings, where they stand for themselves.  `Units` says how the code points of escapes are
written, so one reader serves for texts of characters and for texts of bytes in UTF-8.

## Main results

* `Json.Units.Spells.flatMap` : a text written piece by piece is read piece by piece.
* `Json.Units.unquote_of_spells` : such a text between quotation marks is a string.
-/

namespace Json

/-- The code units of texts. -/
structure Units (α : Type) where
  code : α → ℕ
  /-- The unit of an ASCII character. -/
  ascii : ℕ → α
  /-- How a code point is written. -/
  spell : ℕ → List α
  code_ascii : ∀ {n : ℕ}, n < 128 → code (ascii n) = n
  ascii_code : ∀ {a : α}, code a < 128 → ascii (code a) = a
  spell_ascii : ∀ {n : ℕ}, n < 128 → spell n = [ascii n]

theorem toNat_ofNat_ascii {n : ℕ} (hn : n < 128) : (Char.ofNat n).toNat = n := by
  have hvalid : n.isValidChar := .inl (by omega)
  rw [Char.ofNat, dif_pos hvalid]
  rfl

/-- Characters. -/
def chars : Units Char where
  code := Char.toNat
  ascii := Char.ofNat
  spell n := [Char.ofNat n]
  code_ascii := toNat_ofNat_ascii
  ascii_code _ := Char.ofNat_toNat _
  spell_ascii _ := rfl

/-- The number of a hexadecimal digit. -/
def hexDigit (n : ℕ) : Option ℕ :=
  if 48 ≤ n ∧ n ≤ 57 then some (n - 48)
  else if 65 ≤ n ∧ n ≤ 70 then some (n - 55)
  else if 97 ≤ n ∧ n ≤ 102 then some (n - 87)
  else none

/-- The code point of a letter behind a backslash. -/
def letter (n : ℕ) : Option ℕ :=
  [(34, 34), (92, 92), (47, 47), (98, 8), (102, 12), (110, 10), (114, 13), (116, 9)].lookup n

/-- The code point of two surrogates. -/
def surrogates (n l : ℕ) : Option ℕ :=
  if n < 0xdc00 ∧ 0xdc00 ≤ l ∧ l < 0xe000 then
    some (0x10000 + (n - 0xd800) * 0x400 + (l - 0xdc00))
  else none

theorem hexDigit_digitChar {d : ℕ} (hd : d < 16) : hexDigit d.digitChar.toNat = some d := by
  revert d
  decide

theorem le_digitChar {d : ℕ} (hd : d < 16) : 48 ≤ d.digitChar.toNat := by
  revert d
  decide

theorem digitChar_lt {d : ℕ} (hd : d < 16) : d.digitChar.toNat < 128 := by
  revert d
  decide

namespace Units

variable {α : Type} (u : Units α)

/-- The number of four hexadecimal digits. -/
def hex4 (a b c d : α) : Option ℕ := do
  let a ← hexDigit (u.code a)
  let b ← hexDigit (u.code b)
  let c ← hexDigit (u.code c)
  let d ← hexDigit (u.code d)
  some (((a * 16 + b) * 16 + c) * 16 + d)

/-- What a text begins with as a string, up to its closing quotation mark, and the text behind. -/
def string : List α → Option (List α × List α)
  | [] => none
  | q :: s =>
    if u.code q = 34 then some ([], s)
    else if u.code q = 92 then
      match s with
      | [] => none
      | e :: s =>
        if u.code e = 117 then
          match s with
          | a :: b :: c :: d :: s =>
            match u.hex4 a b c d with
            | none => none
            | some n =>
              if n < 0xd800 ∨ 0xe000 ≤ n then (string s).map (Prod.map (u.spell n ++ ·) id)
              else
                -- a code point beyond the basic plane takes a second escape
                match s with
                | m :: e :: a :: b :: c :: d :: s =>
                  if u.code m = 92 ∧ u.code e = 117 then
                    match (u.hex4 a b c d).bind (surrogates n) with
                    | some n => (string s).map (Prod.map (u.spell n ++ ·) id)
                    | none => none
                  else none
                | _ => none
          | _ => none
        else
          match letter (u.code e) with
          | some n => (string s).map (Prod.map (u.spell n ++ ·) id)
          | none => none
    else if u.code q < 32 then none
    else (string s).map (Prod.map (q :: ·) id)

/-- What stands between two quotation marks. -/
def unquote (t : List α) : Option (List α) :=
  match u.string (t ++ [u.ascii 34]) with
  | some (v, []) => some v
  | _ => none

/-- In front of any text, `t` stands for `v`. -/
def Spells (t v : List α) : Prop :=
  ∀ s, u.string (t ++ s) = (u.string s).map (Prod.map (v ++ ·) id)

variable {u}

theorem string_close {q : α} (hq : u.code q = 34) (s : List α) :
    u.string (q :: s) = some ([], s) := by
  rw [string.eq_def]
  simp [hq]

namespace Spells

variable {t t' v v' : List α}

theorem nil : u.Spells [] [] := by
  intro s
  show u.string s = _
  cases u.string s <;> rfl

theorem append (h : u.Spells t v) (h' : u.Spells t' v') : u.Spells (t ++ t') (v ++ v') := by
  intro s
  rw [List.append_assoc, h, h', Option.map_map]
  refine congrArg (Option.map · _) (funext ?_)
  rintro ⟨w, rest⟩
  simp

/-- **Piece by piece** a text is written and read. -/
theorem flatMap {β : Type} {f g : β → List α} {s : List β} (h : ∀ a ∈ s, u.Spells (f a) (g a)) :
    u.Spells (s.flatMap f) (s.flatMap g) := by
  induction s with
  | nil => exact nil
  | cons a s ih =>
    rw [List.flatMap_cons, List.flatMap_cons]
    exact (h a (by simp)).append (ih fun b hb => h b (by simp [hb]))

theorem plain {a : α} (hquote : u.code a ≠ 34) (hmark : u.code a ≠ 92) (ha : 32 ≤ u.code a) :
    u.Spells [a] [a] := by
  intro s
  rw [List.singleton_append, string.eq_def]
  simp [hquote, hmark, show ¬ u.code a < 32 by omega]

theorem of_forall (h : ∀ a ∈ t, u.code a ≠ 34 ∧ u.code a ≠ 92 ∧ 32 ≤ u.code a) :
    u.Spells t t := by
  have hall := flatMap (u := u) (f := fun a => [a]) (g := fun a => [a]) (s := t) fun a ha =>
    plain (h a ha).1 (h a ha).2.1 (h a ha).2.2
  simpa using hall

theorem escape {l n : ℕ} (hl : letter l = some n) (hl' : l < 117) :
    u.Spells [u.ascii 92, u.ascii l] (u.spell n) := by
  intro s
  have hmark : u.code (u.ascii 92) = 92 := u.code_ascii (by decide)
  have hletter : u.code (u.ascii l) = l := u.code_ascii (by omega)
  show u.string (u.ascii 92 :: u.ascii l :: s) = _
  rw [string.eq_def]
  simp [hmark, hletter, hl, show l ≠ 117 by omega]

/-- A backslash, a `u` and the four digits of a small number. -/
theorem hex {n : ℕ} (hn : n < 256) :
    u.Spells [u.ascii 92, u.ascii 117, u.ascii 48, u.ascii 48, u.ascii (n / 16).digitChar.toNat,
      u.ascii (n % 16).digitChar.toNat] (u.spell n) := by
  intro s
  have hmark : u.code (u.ascii 92) = 92 := u.code_ascii (by decide)
  have hletter : u.code (u.ascii 117) = 117 := u.code_ascii (by decide)
  have hzero : hexDigit (u.code (u.ascii 48)) = some 0 := by
    rw [u.code_ascii (by decide)]
    rfl
  have hhigh : hexDigit (u.code (u.ascii (n / 16).digitChar.toNat)) = some (n / 16) := by
    rw [u.code_ascii (digitChar_lt (by omega)), hexDigit_digitChar (by omega)]
  have hlow : hexDigit (u.code (u.ascii (n % 16).digitChar.toNat)) = some (n % 16) := by
    rw [u.code_ascii (digitChar_lt (by omega)), hexDigit_digitChar (by omega)]
  have hnumber : u.hex4 (u.ascii 48) (u.ascii 48) (u.ascii (n / 16).digitChar.toNat)
      (u.ascii (n % 16).digitChar.toNat) = some n := by
    simp only [hex4, hzero, hhigh, hlow, Option.bind_eq_bind, Option.bind_some, Option.some.injEq]
    omega
  show u.string (u.ascii 92 :: u.ascii 117 :: u.ascii 48 :: u.ascii 48 :: _ :: _ :: s) = _
  rw [string.eq_def]
  simp [hmark, hletter, hnumber, show n < 0xd800 by omega]

theorem close (h : u.Spells t v) {q : α} (hq : u.code q = 34) (s : List α) :
    u.string (t ++ q :: s) = some (v, s) := by
  rw [h, string_close hq]
  simp

end Spells

/-- **A text between quotation marks** is a string. -/
theorem unquote_of_spells {t v : List α} (h : u.Spells t v) : u.unquote t = some v := by
  rw [unquote, h.close (u.code_ascii (by decide))]

end Units

end Json
