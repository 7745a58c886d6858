import GdoBlaq.Web.Origin
import GdoBlaq.Schedule.TimezoneGrammar

/-!
# Hosts of the local link

`request_host_is_local` takes a `Host` header apart with `strchr`, a one-pass scan for addresses
and a comparison of the end.  Here it is said which texts name this device: a bracketed address, an
address of four numbers, or a name that ends in `.local`.

## Main results

* `ipv4Loop_iff` : the scan accepts the words of four numbers.
* `hostLen_eq` : the host part is the text up to the first colon, without a dot at its end.
* `requestHostIsLocal_iff` : which headers the code lets pass.
* `requestHostIsLocal_local_iff` : on which headers these are the local ones.
-/

namespace GdoBlaq

namespace LocalHost

open Timezone (mark)

/-! ### What a local host is -/

/-- `:` and a port. -/
def IsPort (s : CStr) : Prop :=
  ∃ port, s = byte ':' :: port ∧ port ≠ [] ∧ ∀ c ∈ port, isDigit c = true

/-- A literal in brackets, alone or with a port. -/
def IsBracketed (host : CStr) : Prop :=
  ∃ literal rest, host = byte '[' :: literal ++ byte ']' :: rest ∧ byte ']' ∉ literal ∧
    (rest = [] ∨ IsPort rest)

/-- A text without one `c` at its end. -/
def trimEnd (c : UInt8) (s : CStr) : CStr := if s.getLast? = some c then s.dropLast else s

/-- The part before the first colon, without one dot at its end. -/
def hostPart (host : CStr) : CStr := trimEnd (byte '.') (host.takeWhile (· ≠ byte ':'))

/-- `n + 1` numbers from 0 to 255, of one to three digits, with dots between them. -/
def dotted : ℕ → Language UInt8
  | 0 => Timezone.digits 1 3 0 255
  | n + 1 => Timezone.digits 1 3 0 255 * (mark '.' * dotted n)

/-- A name under `.local`, in letters of either case. -/
def EndsInLocal (s : CStr) : Prop :=
  ∃ name suffix, s = name ++ suffix ∧ name ≠ [] ∧ suffix.map toLower = lit ".local"

/-- A host of the local link. -/
def IsLocal (host : CStr) : Prop :=
  if peek host = byte '[' then IsBracketed host
  else hostPart host ∈ dotted 3 ∨ EndsInLocal (hostPart host)

/-! ### The address scan -/

/-- One more digit. -/
def nextValue (value : ℕ) (c : UInt8) : ℕ := value * 10 + (c.toNat - (byte '0').toNat)

theorem le_foldl_nextValue (value : ℕ) (w : CStr) : value ≤ w.foldl nextValue value := by
  induction w generalizing value with
  | nil => exact le_rfl
  | cons c w ih =>
    have hstep : value ≤ nextValue value c := by
      unfold nextValue
      omega
    exact hstep.trans (ih _)

theorem ipv4Loop_run {w : CStr} (hw : ∀ c ∈ w, isDigit c = true) (groups : ℕ) {digits value : ℕ}
    (hdigits : digits ≤ 3) (hvalue : value ≤ 255) (s : CStr) :
    requestOriginIpv4Loop groups digits value (w ++ s) =
      (decide (digits + w.length ≤ 3 ∧ w.foldl nextValue value ≤ 255) &&
        requestOriginIpv4Loop groups (digits + w.length) (w.foldl nextValue value) s) := by
  induction w generalizing digits value with
  | nil => simp [hdigits, hvalue]
  | cons c w ih =>
    have hc : isDigit c = true := hw c List.mem_cons_self
    have hlength : digits + (c :: w).length = digits + 1 + w.length := by
      rw [List.length_cons]
      omega
    rw [List.cons_append, requestOriginIpv4Loop, if_pos hc, hlength, List.foldl_cons]
    simp only
    change (if 3 < digits + 1 then false else if 255 < nextValue value c then false else _) = _
    by_cases hmany : 3 < digits + 1
    · rw [if_pos hmany]
      simp [show ¬ digits + 1 + w.length ≤ 3 by omega]
    · rw [if_neg hmany]
      by_cases hlarge : 255 < nextValue value c
      · have hgrows := le_foldl_nextValue (nextValue value c) w
        rw [if_pos hlarge]
        simp [show ¬ w.foldl nextValue (nextValue value c) ≤ 255 by omega]
      · rw [if_neg hlarge]
        exact ih (fun d hd => hw d (List.mem_cons_of_mem _ hd)) (not_lt.1 hmany)
          (not_lt.1 hlarge)

theorem ipv4Loop_next (groups digits value : ℕ) {s : CStr} (hs : Scan.Before isDigit s) :
    requestOriginIpv4Loop groups digits value s = true ↔
      0 < digits ∧ (s = [] ∧ groups = 3 ∨
        ∃ t, s = byte '.' :: t ∧ requestOriginIpv4Loop (groups + 1) 0 0 t = true) := by
  cases s with
  | nil => simp [requestOriginIpv4Loop, and_comm]
  | cons c s =>
    rw [Scan.before_cons] at hs
    rw [requestOriginIpv4Loop, hs]
    simp only [Bool.false_eq_true, if_false]
    by_cases hdot : c = byte '.'
    · subst hdot
      cases digits with
      | zero => simp
      | succ n => simp
    · simp [hdot]

theorem ipv4Loop_many {groups : ℕ} (h : 3 < groups) (digits value : ℕ) (s : CStr) :
    requestOriginIpv4Loop groups digits value s = false := by
  induction s generalizing groups digits value with
  | nil => simp [requestOriginIpv4Loop, h.ne']
  | cons c s ih =>
    unfold requestOriginIpv4Loop
    simp only [ih h, ih (Nat.lt_succ_of_lt h), ite_self]

theorem mem_digits_mul {L : Language UInt8} {s : CStr} :
    s ∈ Timezone.digits 1 3 0 255 * (mark '.' * L) ↔
      s.takeWhile isDigit ∈ Timezone.digits 1 3 0 255 ∧
        ∃ t, s.dropWhile isDigit = byte '.' :: t ∧ t ∈ L := by
  have hdot : isDigit (byte '.') = false := by decide
  constructor
  · intro h
    obtain ⟨w, hw, u, hu, rfl⟩ := Language.mem_mul.1 h
    obtain ⟨_, rfl, t, ht, rfl⟩ := Language.mem_mul.1 hu
    rw [List.takeWhile_append_of_pos hw.1, List.dropWhile_append_of_pos hw.1]
    simp [hdot, hw, ht]
  · rintro ⟨hw, t, ht, hmem⟩
    rw [← List.takeWhile_append_dropWhile (p := isDigit) (l := s), ht]
    exact Language.mem_mul.2 ⟨_, hw, _, Language.mem_mul.2 ⟨_, rfl, t, hmem, rfl⟩, rfl⟩

theorem mem_digits {w : CStr} (hw : ∀ c ∈ w, isDigit c = true) :
    w ∈ Timezone.digits 1 3 0 255 ↔ 0 < w.length ∧ w.length ≤ 3 ∧ w.foldl nextValue 0 ≤ 255 := by
  have hvalue : digitsValue w = w.foldl nextValue 0 := rfl
  rw [← hvalue]
  constructor
  · rintro ⟨-, ⟨hlo, hhi⟩, -, hmax⟩
    exact ⟨hlo, hhi, hmax⟩
  · rintro ⟨hlo, hhi, hmax⟩
    exact ⟨hw, ⟨hlo, hhi⟩, Nat.zero_le _, hmax⟩

theorem ipv4Loop_number (groups : ℕ) (s : CStr) :
    requestOriginIpv4Loop groups 0 0 s = true ↔
      s.takeWhile isDigit ∈ Timezone.digits 1 3 0 255 ∧
        (s.dropWhile isDigit = [] ∧ groups = 3 ∨
          ∃ t, s.dropWhile isDigit = byte '.' :: t ∧
            requestOriginIpv4Loop (groups + 1) 0 0 t = true) := by
  have hrun : ∀ c ∈ s.takeWhile isDigit, isDigit c = true := fun c hc =>
    List.mem_takeWhile_imp hc
  conv_lhs => rw [← List.takeWhile_append_dropWhile (p := isDigit) (l := s)]
  rw [ipv4Loop_run hrun groups (by omega) (by omega), Bool.and_eq_true, decide_eq_true_eq,
    ipv4Loop_next _ _ _ (Scan.before_dropWhile isDigit s), mem_digits hrun]
  simp only [Nat.zero_add]
  tauto

/-- **The scan accepts the words of four numbers**: behind any number of dots, what is left must be
the numbers that are left. -/
theorem ipv4Loop_iff {groups n : ℕ} (h : groups + n = 3) (s : CStr) :
    requestOriginIpv4Loop groups 0 0 s = true ↔ s ∈ dotted n := by
  rw [ipv4Loop_number]
  induction n generalizing groups s with
  | zero =>
    obtain rfl : groups = 3 := h
    have hmany : ∀ t, requestOriginIpv4Loop 4 0 0 t = false := fun t =>
      ipv4Loop_many (by decide) 0 0 t
    simp only [hmany, Bool.false_eq_true, and_false, exists_false, or_false, and_true]
    constructor
    · rintro ⟨hnumber, hend⟩
      rwa [← List.takeWhile_append_dropWhile (p := isDigit) (l := s), hend, List.append_nil]
    · intro hmem
      have hall : s.takeWhile isDigit = s := List.takeWhile_eq_self_iff.2 hmem.1
      have hend : s.dropWhile isDigit = [] := List.dropWhile_eq_nil_iff.2 hmem.1
      rw [hall]
      exact ⟨hmem, hend⟩
  | succ n ih =>
    rw [dotted, mem_digits_mul]
    refine and_congr_right fun _ => ?_
    have hmore : groups ≠ 3 := by omega
    simp only [hmore, and_false, false_or]
    refine exists_congr fun t => and_congr_right fun _ => ?_
    rw [ipv4Loop_number, ih (by omega)]

/-! ### The host part and its end -/

theorem idxOf_eq (c : UInt8) (s : CStr) : s.idxOf c = (s.takeWhile (· ≠ c)).length := by
  induction s with
  | nil => rfl
  | cons d s ih =>
    by_cases hd : d = c
    · simp [hd]
    · rw [List.idxOf_cons_ne s hd, ih, List.takeWhile_cons_of_pos (by simpa using hd),
        List.length_cons]

theorem trimEnd_isPrefix (c : UInt8) (s : CStr) : trimEnd c s <+: s := by
  unfold trimEnd
  split_ifs
  · exact List.dropLast_prefix s
  · exact List.prefix_rfl

theorem length_trimEnd {name s : CStr} (hfront : name <+: s) (c : UInt8) :
    (if name.length ≠ 0 ∧ s.getD (name.length - 1) 0 = c then name.length - 1 else name.length) =
      (trimEnd c name).length := by
  obtain ⟨rest, rfl⟩ := hfront
  unfold trimEnd
  rcases List.eq_nil_or_concat' name with rfl | ⟨init, last, rfl⟩
  · simp
  · have hlast : ((init ++ [last]) ++ rest).getD ((init ++ [last]).length - 1) 0 = last := by
      simp
    rw [hlast, List.getLast?_concat]
    by_cases hend : last = c
    · simp [hend]
    · simp [hend]

/-- **The host part** is what the length says. -/
theorem hostLen_eq {host : CStr} (h : peek host ≠ byte '[') :
    requestOriginHostLen host = (hostPart host).length ∧ hostPart host <+: host := by
  have hfront : host.takeWhile (· ≠ byte ':') <+: host := List.takeWhile_prefix _
  refine ⟨?_, (trimEnd_isPrefix _ _).trans hfront⟩
  unfold requestOriginHostLen
  rw [if_neg (fun hopen => h hopen.2), idxOf_eq]
  exact length_trimEnd hfront (byte '.')

theorem ieq_iff {a b : CStr} {n : ℕ} (ha : n ≤ a.length) (hb : n ≤ b.length) :
    requestOriginIeq a b n = true ↔ (a.take n).map toLower = (b.take n).map toLower := by
  induction n generalizing a b with
  | zero => simp [requestOriginIeq]
  | succ n ih =>
    cases a with
    | nil => simp at ha
    | cons x a =>
      cases b with
      | nil => simp at hb
      | cons y b =>
        simp only [List.length_cons, Nat.add_le_add_iff_right] at ha hb
        by_cases hxy : toLower x = toLower y
        · simp [requestOriginIeq, peek, hxy, ih ha hb]
        · simp [requestOriginIeq, peek, hxy]

theorem endsInLocal_iff {host name : CStr} (hfront : name <+: host) :
    (decide ((lit ".local").length < name.length) &&
        requestOriginIeq (host.drop (name.length - (lit ".local").length)) (lit ".local")
          (lit ".local").length) = true ↔ EndsInLocal name := by
  have hlower : (lit ".local").map toLower = lit ".local" := by decide
  obtain ⟨rest, rfl⟩ := hfront
  rw [Bool.and_eq_true, decide_eq_true_eq]
  constructor
  · rintro ⟨hlong, heq⟩
    have hleft : (lit ".local").length ≤
        ((name ++ rest).drop (name.length - (lit ".local").length)).length := by
      rw [List.length_drop, List.length_append]
      omega
    rw [ieq_iff hleft le_rfl, List.take_length, hlower, List.drop_append_of_le_length (by omega),
      List.take_append_of_le_length (by rw [List.length_drop]; omega),
      List.take_of_length_le (by rw [List.length_drop]; omega)] at heq
    refine ⟨_, _, (List.take_append_drop _ name).symm, ?_, heq⟩
    rw [← List.length_pos_iff, List.length_take]
    omega
  · rintro ⟨front, suffix, rfl, hne, hsuffix⟩
    have hlength : suffix.length = (lit ".local").length := by
      rw [← hsuffix, List.length_map]
    have hfront := List.length_pos_of_ne_nil hne
    have hdrop : (front ++ suffix ++ rest).drop
        ((front ++ suffix).length - (lit ".local").length) = suffix ++ rest := by
      rw [List.length_append, ← hlength, Nat.add_sub_cancel, List.append_assoc, List.drop_left]
    refine ⟨by rw [List.length_append]; omega, ?_⟩
    rw [hdrop, ieq_iff (by rw [List.length_append]; omega) le_rfl, List.take_length, hlower,
      ← hlength, List.take_left, hsuffix]

/-! ### The check -/

/-- **Which headers the code lets pass.**  Behind an opening bracket it asks only for a closing
one. -/
theorem requestHostIsLocal_iff (host : CStr) :
    requestHostIsLocal host = true ↔
      if peek host = byte '[' then byte ']' ∈ host
      else hostPart host ∈ dotted 3 ∨ EndsInLocal (hostPart host) := by
  by_cases hopen : peek host = byte '['
  · have hne : host ≠ [] := by
      rintro rfl
      exact absurd hopen (by decide)
    rw [if_pos hopen]
    unfold requestHostIsLocal requestOriginHostLen
    by_cases hclose : byte ']' ∈ host
    · simp [hopen, hne, hclose]
    · simp [hopen, hne, hclose]
  · rw [if_neg hopen]
    obtain ⟨hlength, hfront⟩ := hostLen_eq hopen
    have hends := endsInLocal_iff hfront
    have haddress : requestOriginIsIpv4 host (hostPart host).length = true ↔
        hostPart host ∈ dotted 3 := by
      unfold requestOriginIsIpv4
      rw [← List.prefix_iff_eq_take.1 hfront]
      exact ipv4Loop_iff (by decide) _
    unfold requestHostIsLocal
    rw [hlength]
    simp only [if_neg hopen]
    -- an empty host part is turned down first; it is no address and no name either
    by_cases hempty : (hostPart host).length = 0
    · rw [if_pos hempty, ← hends, ← haddress, hempty]
      simp [requestOriginIsIpv4, requestOriginIpv4Loop]
    · rw [if_neg hempty, ← hends, ← haddress]
      split_ifs with hip
      · simp [hip]
      · simp [hip]

theorem dropWhile_literal {literal : CStr} (h : byte ']' ∉ literal) (rest : CStr) :
    (literal ++ byte ']' :: rest).dropWhile (· ≠ byte ']') = byte ']' :: rest := by
  rw [List.dropWhile_append_of_pos fun c hc => by
    simpa using fun heq : c = byte ']' => h (heq ▸ hc)]
  simp

theorem literal_unique {literal literal' rest rest' : CStr}
    (heq : byte '[' :: literal ++ byte ']' :: rest = byte '[' :: literal' ++ byte ']' :: rest')
    (h : byte ']' ∉ literal) (h' : byte ']' ∉ literal') : rest = rest' := by
  rw [List.cons_append, List.cons_append, List.cons.injEq] at heq
  have htail := congrArg (List.dropWhile (· ≠ byte ']')) heq.2
  rw [dropWhile_literal h, dropWhile_literal h', List.cons.injEq] at htail
  exact htail.2

theorem exists_literal {host : CStr} (hopen : peek host = byte '[') (hclose : byte ']' ∈ host) :
    ∃ literal rest, host = byte '[' :: literal ++ byte ']' :: rest ∧ byte ']' ∉ literal := by
  obtain ⟨_, tail, rfl⟩ := List.exists_cons_of_ne_nil (List.ne_nil_of_mem hclose)
  obtain rfl := show _ = byte '[' from hopen
  have hmem : byte ']' ∈ tail := List.mem_of_ne_of_mem (by decide) hclose
  obtain ⟨literal, rest, rfl, hliteral⟩ := List.eq_append_cons_of_mem hmem
  exact ⟨literal, rest, rfl, hliteral⟩

/-- **On which headers these are the local ones**: all but those that go on behind their bracketed
literal with something other than a port. -/
theorem requestHostIsLocal_local_iff (host : CStr) :
    (requestHostIsLocal host = true ↔ IsLocal host) ↔
      ∀ literal rest, host = byte '[' :: literal ++ byte ']' :: rest → byte ']' ∉ literal →
        rest = [] ∨ IsPort rest := by
  rw [requestHostIsLocal_iff]
  unfold IsLocal
  by_cases hopen : peek host = byte '['
  · simp only [if_pos hopen]
    constructor
    · intro hsame literal rest heq hliteral
      have hclose : byte ']' ∈ host := by simp [heq]
      obtain ⟨literal', rest', heq', hliteral', hrest⟩ := hsame.1 hclose
      rw [literal_unique (heq.symm.trans heq') hliteral hliteral']
      exact hrest
    · intro hall
      constructor
      · intro hclose
        obtain ⟨literal, rest, hsplit, hliteral⟩ := exists_literal hopen hclose
        exact ⟨literal, rest, hsplit, hliteral, hall literal rest hsplit hliteral⟩
      · rintro ⟨literal, rest, rfl, -, -⟩
        simp
  · -- without an opening bracket both sides ask the same, and no header of that form is in question
    simp only [if_neg hopen, true_iff]
    rintro literal rest rfl -
    exact absurd rfl hopen

/-- A public name behind a bracket passes. -/
theorem bracketed_name_passes : requestHostIsLocal (lit "[1].evil.example") = true ∧
    ¬ IsLocal (lit "[1].evil.example") := by
  refine ⟨by decide, fun hlocal => ?_⟩
  rw [IsLocal, if_pos (by decide)] at hlocal
  obtain ⟨literal, rest, heq, hliteral, hrest⟩ := hlocal
  have hafter : lit ".evil.example" = rest :=
    literal_unique (show byte '[' :: lit "1" ++ byte ']' :: lit ".evil.example" = _ from heq)
      (by decide) hliteral
  rcases hrest with hnil | ⟨port, hport, -, -⟩
  · exact absurd (hafter.trans hnil) (by decide)
  · have hfirst : byte '.' = byte ':' := congrArg (List.getD · 0 0) (hafter.trans hport)
    exact absurd hfirst (by decide)

end LocalHost

end GdoBlaq
