import Mathlib.Data.Nat.Notation
import Mathlib.Tactic.Common

/-!
# Percent-encoding

The bytes of a set are written as a percent sign and two hexadecimal digits, all others as they
are.  A reader of forms takes a plus sign for a space and keeps a percent sign that is not
followed by two digits.  Which bytes are digits, and what they stand for, is a parameter.

## Main results

* `Percent.decode_encode` : reading gives back what was written, whatever is escaped besides the
  percent and the plus sign.
* `Percent.Coding.not_mem_encode` : which bytes do not occur in what is written.
-/

namespace Percent

/-- What the values `hi` and `lo` of two digits stand for. -/
def value (hex : UInt8 → Option ℕ) (h l : UInt8) : Option UInt8 :=
  match hex h, hex l with
  | some hi, some lo => some (hi * 16 + lo).toUInt8
  | _, _ => none

/-- A byte outside an escape: `'+'` is a space. -/
def plain (c : UInt8) : UInt8 := if c = 43 then 32 else c

/-- The reader, from left to right; 37 is `'%'`. -/
def decode (hex : UInt8 → Option ℕ) : List UInt8 → List UInt8
  | [] => []
  | [c] => [plain c]
  | [c, d] => [plain c, plain d]
  | c :: h :: l :: s =>
    match if c = 37 then value hex h l else none with
    | some b => b :: decode hex s
    | none => plain c :: decode hex (h :: l :: s)

/-- A way to write bytes. -/
structure Coding (hex : UInt8 → Option ℕ) where
  /-- The bytes that are escaped. -/
  escapes : UInt8 → Bool
  digit : ℕ → UInt8
  hex_digit : ∀ n < 16, hex (digit n) = some n
  percent : escapes 37 = true
  plus : escapes 43 = true

variable {hex : UInt8 → Option ℕ}

/-- One byte, written. -/
def Coding.byte (k : Coding hex) (c : UInt8) : List UInt8 :=
  if k.escapes c then [37, k.digit (c.toNat / 16), k.digit (c.toNat % 16)] else [c]

/-- The writer. -/
def Coding.encode (k : Coding hex) (s : List UInt8) : List UInt8 := s.flatMap k.byte

theorem decode_cons_plain {c : UInt8} {s : List UInt8}
    (h : ∀ x y t, s = x :: y :: t → (if c = 37 then value hex x y else none) = none) :
    decode hex (c :: s) = plain c :: decode hex s := by
  match s with
  | [] => rfl
  | [d] => rfl
  | x :: y :: t => rw [decode, h x y t rfl]

theorem decode_escape {h l b : UInt8} (s : List UInt8) (hb : value hex h l = some b) :
    decode hex (37 :: h :: l :: s) = b :: decode hex s := by
  rw [decode, if_pos rfl, hb]

namespace Coding

variable (k : Coding hex) {s : List UInt8}

@[simp] theorem encode_nil : k.encode [] = [] := rfl

@[simp] theorem encode_cons (c : UInt8) (s : List UInt8) :
    k.encode (c :: s) = k.byte c ++ k.encode s := rfl

theorem decode_byte_append (c : UInt8) (s : List UInt8) :
    decode hex (k.byte c ++ s) = c :: decode hex s := by
  unfold byte
  split_ifs with hesc
  · refine decode_escape s ?_
    have hlt := c.toNat_lt
    rw [value, k.hex_digit _ (by omega), k.hex_digit _ (by omega)]
    simp [Nat.div_add_mod']
  · have hpercent : c ≠ 37 := by
      rintro rfl
      exact hesc k.percent
    have hplus : c ≠ 43 := by
      rintro rfl
      exact hesc k.plus
    show decode hex (c :: s) = _
    rw [decode_cons_plain (by simp [hpercent]), plain, if_neg hplus]

/-- **What is written is read back.** -/
theorem decode_encode (s : List UInt8) : decode hex (k.encode s) = s := by
  induction s with
  | nil => rfl
  | cons c s ih => rw [encode_cons, decode_byte_append, ih]

/-- A byte other than a digit and the percent sign does not occur in what is written, if it is
escaped wherever it occurs in what is to be written. -/
theorem not_mem_encode {a : UInt8} (hdigit : hex a = none) (hpercent : a ≠ 37)
    (h : a ∈ s → k.escapes a = true) : a ∉ k.encode s := by
  have hne (n : ℕ) (hn : n < 16) : a ≠ k.digit n := by
    rintro rfl
    simp [k.hex_digit n hn] at hdigit
  simp only [encode, List.mem_flatMap, not_exists, not_and]
  intro c hc
  have hlt := c.toNat_lt
  unfold byte
  split_ifs with hesc
  · simp [hpercent, hne (c.toNat / 16) (by omega), hne (c.toNat % 16) (by omega)]
  · rw [List.mem_singleton]
    rintro rfl
    exact hesc (h hc)

theorem encode_of_forall (h : ∀ c ∈ s, k.escapes c = false) : k.encode s = s := by
  induction s with
  | nil => rfl
  | cons c s ih =>
    rw [encode_cons, byte, h c (by simp), ih fun d hd => h d (by simp [hd])]
    rfl

theorem encode_eq_iff {t : List UInt8} (ht : ∀ c ∈ t, k.escapes c = false) :
    k.encode s = t ↔ s = t := by
  constructor
  · intro h
    have hs := k.decode_encode s
    have hplain := k.decode_encode t
    rw [h] at hs
    rw [k.encode_of_forall ht] at hplain
    exact hs.symm.trans hplain
  · rintro rfl
    exact k.encode_of_forall ht

theorem length_encode_le (s : List UInt8) : (k.encode s).length ≤ 3 * s.length := by
  induction s with
  | nil => simp
  | cons c s ih =>
    have hbyte : (k.byte c).length ≤ 3 := by
      unfold byte
      split_ifs <;> simp
    rw [encode_cons, List.length_append, List.length_cons]
    omega

end Coding

end Percent
