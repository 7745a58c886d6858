import Mathlib.Data.Int.Notation
import Mathlib.Data.Nat.Notation
import Mathlib.Tactic.Common

/-!
# Formatted output

The part of `printf` that prints strings and integers.  A format is taken apart into the bytes that
are copied and the conversions that take an argument; length modifiers say nothing here, where an
argument is a number and not a word.

## Main results

* `Printf.Prints.append` : formats one after the other take their arguments one after the other.
* `Printf.render_of_prints` : what a whole format prints.
-/

namespace Printf

/-- A piece of a format: a byte, or a conversion with its `0` flag, its width and its letter. -/
inductive Piece where
  | byte (b : UInt8)
  | conversion (zero : Bool) (width : ℕ) (letter : UInt8)
  deriving DecidableEq

/-- An argument. -/
inductive Arg where
  | str (s : List UInt8)
  | int (n : ℤ)
  | uint (n : ℕ)

/-- The pieces of a format; inside a conversion, its flag and its width so far are given. -/
def pieces : Option (Bool × ℕ) → List UInt8 → List Piece
  | _, [] => []
  | none, b :: s => if b = 37 then pieces (some (false, 0)) s else .byte b :: pieces none s
  | some (zero, width), b :: s =>
    if b = 108 then pieces (some (zero, width)) s
    else if b = 48 ∧ width = 0 then pieces (some (true, 0)) s
    else if 48 ≤ b ∧ b ≤ 57 then pieces (some (zero, width * 10 + (b.toNat - 48))) s
    else .conversion zero width b :: pieces none s

/-- A number in decimal. -/
def decimal (n : ℕ) : List UInt8 := (Nat.toDigits 10 n).map fun c => UInt8.ofNat c.toNat

/-- A text at the right end of a field. -/
def pad (fill : UInt8) (width : ℕ) (s : List UInt8) : List UInt8 :=
  List.replicate (width - s.length) fill ++ s

/-- One conversion; there is no result if it does not go with its argument. -/
def convert (zero : Bool) (width : ℕ) (letter : UInt8) : Arg → Option (List UInt8)
  | .str s => if letter = 115 then some (pad 32 width s) else none
  | .int n =>
    let sign := if n < 0 then [45] else []
    if letter ≠ 100 then none
    else if zero then some (sign ++ pad 48 (width - sign.length) (decimal n.natAbs))
    else some (pad 32 width (sign ++ decimal n.natAbs))
  | .uint n => if letter = 117 then some (pad (if zero then 48 else 32) width (decimal n)) else none

/-- What is printed. -/
def render : List Piece → List Arg → Option (List UInt8)
  | [], _ => some []
  | .byte b :: ps, args => (render ps args).map (b :: ·)
  | .conversion _ _ _ :: _, [] => none
  | .conversion zero width letter :: ps, arg :: args => do
    let s ← convert zero width letter arg
    let rest ← render ps args
    some (s ++ rest)

/-- In front of any format, with arguments in front of its own, `ps` prints `s`. -/
def Prints (ps : List Piece) (args : List Arg) (s : List UInt8) : Prop :=
  ∀ qs args', render (ps ++ qs) (args ++ args') = (render qs args').map (s ++ ·)

@[simp] theorem pad_zero (fill : UInt8) (s : List UInt8) : pad fill 0 s = s := by
  simp [pad]

theorem convert_str (s : List UInt8) : convert false 0 115 (.str s) = some s := by
  simp [convert]

theorem convert_uint (n : ℕ) : convert false 0 117 (.uint n) = some (decimal n) := by
  simp [convert]

theorem convert_int (n : ℤ) :
    convert false 0 100 (.int n) =
      some (if n < 0 then 45 :: decimal n.natAbs else decimal n.natAbs) := by
  by_cases hn : n < 0 <;> simp [convert, hn]

namespace Prints

variable {ps ps' : List Piece} {args args' : List Arg} {s s' : List UInt8}

theorem nil : Prints [] [] [] := by
  intro qs args'
  show render qs args' = _
  cases render qs args' <;> rfl

theorem append (h : Prints ps args s) (h' : Prints ps' args' s') :
    Prints (ps ++ ps') (args ++ args') (s ++ s') := by
  intro qs rest
  rw [List.append_assoc, List.append_assoc, h, h', Option.map_map]
  refine congrArg (Option.map · _) (funext ?_)
  intro t
  simp

theorem bytes (s : List UInt8) : Prints (s.map .byte) [] s := by
  induction s with
  | nil => exact nil
  | cons b s ih =>
    intro qs args'
    rw [List.map_cons, List.cons_append, List.nil_append, render, ← List.nil_append args', ih,
      Option.map_map]
    rfl

theorem conversion {zero : Bool} {width : ℕ} {letter : UInt8} {arg : Arg}
    (h : convert zero width letter arg = some s) :
    Prints [.conversion zero width letter] [arg] s := by
  intro qs args'
  rw [List.singleton_append, List.singleton_append, render, h]
  cases render qs args' <;> rfl

end Prints

/-- **What a whole format prints.** -/
theorem render_of_prints {ps : List Piece} {args : List Arg} {s : List UInt8}
    (h : Prints ps args s) : render ps args = some s := by
  have hall := h [] []
  rw [List.append_nil, List.append_nil] at hall
  rw [hall, render, Option.map_some, List.append_nil]

end Printf
