import Mathlib.Data.Nat.Notation
import Mathlib.Tactic.Common

/-!
# Escapes of a mark and a letter

Some symbols of a text are written as a mark and a letter that stands for them, all others as they
are.  A reader may know more letters than a writer uses; it fails at a letter it does not know, and
at a mark with nothing behind it.

## Main results

* `Escape.Coding.decode_encode` : reading gives back what was written.
* `Escape.Coding.length_encode` : what is written has one symbol more for each that is escaped.
-/

namespace Escape

/-- A way to write symbols. -/
structure Coding (α : Type) where
  mark : α
  /-- The letter that is written for a symbol. -/
  letter : α → Option α
  /-- The symbol that a letter is read as. -/
  symbol : α → Option α
  letter_mark : (letter mark).isSome
  symbol_letter : ∀ {a l : α}, letter a = some l → symbol l = some a

namespace Coding

variable {α : Type} (k : Coding α)

/-- One symbol, written. -/
def written (a : α) : List α :=
  match k.letter a with
  | some l => [k.mark, l]
  | none => [a]

/-- The writer. -/
def encode (s : List α) : List α := s.flatMap k.written

/-- The reader. -/
def decode [DecidableEq α] : List α → Option (List α)
  | [] => some []
  | [a] => if a = k.mark then none else some [a]
  | a :: b :: s =>
    if a = k.mark then
      match k.symbol b with
      | some c => (decode s).map (c :: ·)
      | none => none
    else (decode (b :: s)).map (a :: ·)

@[simp] theorem encode_nil : k.encode [] = [] := rfl

@[simp] theorem encode_cons (a : α) (s : List α) : k.encode (a :: s) = k.written a ++ k.encode s :=
  rfl

theorem encode_append (s t : List α) : k.encode (s ++ t) = k.encode s ++ k.encode t :=
  List.flatMap_append

theorem encode_of_forall {s : List α} (h : ∀ a ∈ s, k.letter a = none) : k.encode s = s := by
  induction s with
  | nil => rfl
  | cons a s ih =>
    rw [encode_cons, written, h a (by simp), ih fun b hb => h b (by simp [hb])]
    rfl

/-- **What is written is longer** by one for each symbol that is escaped. -/
theorem length_encode (s : List α) :
    (k.encode s).length = s.length + s.countP fun a => (k.letter a).isSome := by
  induction s with
  | nil => rfl
  | cons a s ih =>
    rw [encode_cons, List.length_append, ih, List.length_cons, List.countP_cons, written]
    cases k.letter a <;> simp <;> omega

variable [DecidableEq α]

theorem decode_cons {a : α} (ha : a ≠ k.mark) (s : List α) :
    k.decode (a :: s) = (k.decode s).map (a :: ·) := by
  cases s with
  | nil => simp [decode, ha]
  | cons b s => rw [decode, if_neg ha]

theorem decode_written_append (a : α) (s : List α) :
    k.decode (k.written a ++ s) = (k.decode s).map (a :: ·) := by
  unfold written
  cases hletter : k.letter a with
  | some l =>
    show k.decode (k.mark :: l :: s) = _
    rw [decode, if_pos rfl, k.symbol_letter hletter]
  | none =>
    have ha : a ≠ k.mark := by
      rintro rfl
      have hmark := k.letter_mark
      rw [hletter] at hmark
      simp at hmark
    exact k.decode_cons ha s

/-- **What is written is read back.** -/
theorem decode_encode (s : List α) : k.decode (k.encode s) = some s := by
  induction s with
  | nil => rfl
  | cons a s ih => rw [encode_cons, decode_written_append, ih, Option.map_some]

end Coding

end Escape
