import GdoBlaq.Web.Form
import GdoBlaq.Text.Percent

/-!
# Form lookup by splitting

`formGetParam` searches a body for the key and copies bytes up to the next `&`. Here the same answer
is had from the fields between the `&`, and what a page encodes is read back.

## Main results

* `formGetParam_eq` : the search finds the first field with the key, decoded
* `lookup_body` : in a form that a page wrote, the first pair with the key gives its value
-/

namespace GdoBlaq

namespace FormLookup

/-- The fields of a body. -/
def segments (body : CStr) : List CStr := body.splitOn (byte '&')

/-- The field is `key=…`. -/
def hasKey (key seg : CStr) : Bool := (key ++ [byte '=']).isPrefixOf seg

/-- A field's value, decoded. -/
def fieldValue (key seg : CStr) : CStr :=
  Percent.decode formParseHexval (seg.drop (key.length + 1))

/-- The decoded value of the first field with the key. -/
def lookup (body key : CStr) : Option CStr :=
  ((segments body).find? (hasKey key)).map (fieldValue key)

/-- The value, if it is a C string that fits into `outLen` bytes. -/
def fitting (outLen : ℕ) (v : CStr) : Option CStr :=
  if 0 ∉ v ∧ v.length < outLen then some v else none

/-! ### Splitting -/

/-- The part of a body before the next field. -/
def upToAmp (s : CStr) : CStr := s.takeWhile (· ≠ byte '&')

theorem segments_cons (c : UInt8) (s : CStr) :
    segments (c :: s) =
      if c = byte '&' then [] :: segments s else (segments s).modifyHead (c :: ·) := by
  simp only [segments, List.splitOn, List.splitOnP_cons_eq_if_modifyHead, beq_iff_eq]

theorem segments_eq (s : CStr) : ∃ rest, segments s = upToAmp s :: rest := by
  induction s with
  | nil => exact ⟨[], rfl⟩
  | cons c s ih =>
    obtain ⟨rest, hrest⟩ := ih
    rw [segments_cons]
    by_cases hc : c = byte '&'
    · exact ⟨segments s, by simp [hc, upToAmp]⟩
    · exact ⟨rest, by simp [hc, hrest, upToAmp]⟩

/-! ### Decoding -/

theorem percentEscape_eq_some {s : CStr} {b : UInt8} (h : percentEscape s = some b) :
    ∃ x y t, s = x :: y :: t ∧ x ≠ byte '&' ∧ y ≠ byte '&' ∧
      Percent.value formParseHexval x y = some b := by
  have hnul : formParseHexval 0 = none := by decide
  have hamp : formParseHexval (byte '&') = none := by decide
  match s with
  | [] => simp [percentEscape, peek, hnul] at h
  | [x] => simp [percentEscape, peek, hnul] at h
  | x :: y :: t =>
    refine ⟨x, y, t, rfl, ?_, ?_, h⟩
    · rintro rfl
      simp [percentEscape, peek, hamp] at h
    · rintro rfl
      simp [percentEscape, peek, hamp] at h

theorem fitting_eq_some {n : ℕ} {v w : CStr} :
    fitting n v = some w ↔ (0 ∉ v ∧ v.length < n) ∧ v = w := by
  rw [fitting]
  split_ifs with hfits
  · simp [hfits]
  · simp [hfits]

theorem fitting_cons (room : ℕ) (b : UInt8) (v : CStr) :
    fitting room (b :: v) =
      if b = 0 then none
      else if room ≤ 1 then none else (fitting (room - 1) v).map (b :: ·) := by
  simp only [fitting, List.mem_cons, List.length_cons, not_or]
  by_cases hb : b = 0
  · simp [hb]
  · by_cases hroom : room ≤ 1
    · rw [if_neg (by omega), if_neg hb, if_pos hroom]
    · rw [if_neg hb, if_neg hroom]
      by_cases hv : 0 ∉ v ∧ v.length < room - 1
      · rw [if_pos ⟨⟨fun h => hb h.symm, hv.1⟩, by omega⟩, if_pos hv, Option.map_some]
      · rw [if_neg (fun h => hv ⟨h.1.2, by omega⟩), if_neg hv, Option.map_none]

theorem upToAmp_cons {c : UInt8} (hc : c ≠ byte '&') (s : CStr) :
    upToAmp (c :: s) = c :: upToAmp s := by simp [upToAmp, hc]

theorem upToAmp_eq_cons {s t : CStr} {x : UInt8} (h : upToAmp s = x :: t) :
    ∃ s', s = x :: s' ∧ t = upToAmp s' := by
  cases s with
  | nil => cases h
  | cons c s =>
    by_cases hc : c = byte '&'
    · simp [upToAmp, hc] at h
    · rw [upToAmp_cons hc] at h
      obtain ⟨rfl, rfl⟩ := List.cons.inj h
      exact ⟨s, rfl, rfl⟩

theorem decode_plain {c : UInt8} {s : CStr}
    (h : (if c = byte '%' then percentEscape s else none) = none) :
    Percent.decode formParseHexval (c :: upToAmp s) =
      Percent.plain c :: Percent.decode formParseHexval (upToAmp s) := by
  refine Percent.decode_cons_plain ?_
  intro x y t ht
  obtain ⟨s', rfl, hrest⟩ := upToAmp_eq_cons ht
  obtain ⟨s'', rfl, -⟩ := upToAmp_eq_cons hrest.symm
  exact h

/-- The decoding loop of `form_get_param` decodes what comes before the next field. -/
theorem formDecode_eq {s : CStr} {room : ℕ} (hroom : 0 < room) :
    formDecode room 0 s = fitting room (Percent.decode formParseHexval (upToAmp s)) := by
  induction hn : s.length using Nat.strongRecOn generalizing s room with
  | _ n ih =>
    cases s with
    | nil => simp [formDecode, upToAmp, Percent.decode, fitting, hroom]
    | cons c s =>
      have hlen : s.length < n := by simp at hn; omega
      by_cases hamp : c = byte '&'
      · simp [formDecode, hamp, upToAmp, Percent.decode, fitting, hroom]
      rw [formDecode, if_neg hamp, upToAmp_cons hamp]
      cases hesc : if c = byte '%' then percentEscape s else none with
      | none =>
        rw [decode_plain hesc, fitting_cons]
        show (if Percent.plain c = 0 then none else if room ≤ 1 then none else
          (formDecode (room - 1) 0 s).map (Percent.plain c :: ·)) = _
        by_cases hone : room ≤ 1
        · rw [if_pos hone, if_pos hone]
        · rw [ih s.length hlen (by omega) rfl]
      | some b =>
        have hpercent : c = byte '%' := by
          by_contra hc
          simp [hc] at hesc
        rw [if_pos hpercent] at hesc
        obtain ⟨x, y, t, rfl, hx, hy, hvalue⟩ := percentEscape_eq_some hesc
        rw [upToAmp_cons hx, upToAmp_cons hy, hpercent]
        rw [show byte '%' = 37 from rfl, Percent.decode_escape _ hvalue, fitting_cons]
        show (if b = 0 then none else if room ≤ 1 then none else
          (formDecode (room - 1) 0 t).map (b :: ·)) = _
        by_cases hone : room ≤ 1
        · rw [if_pos hone, if_pos hone]
        · rw [ih t.length (by simp at hlen; omega) (by omega) rfl]

/-! ### The search -/

section Search

variable {key : CStr} {outLen : ℕ}

theorem atKey_iff {s : CStr} : atKey key s = true ↔ ∃ t, s = key ++ byte '=' :: t := by
  simp only [atKey, decide_eq_true_eq, List.isPrefixOf_iff_prefix]
  constructor
  · rintro ⟨⟨t, rfl⟩, heq⟩
    rw [List.drop_left] at heq
    cases t with
    | nil => exact absurd heq (by decide)
    | cons c t =>
      obtain rfl : c = byte '=' := heq
      exact ⟨t, rfl⟩
  · rintro ⟨t, rfl⟩
    exact ⟨List.prefix_append _ _, by rw [List.drop_left]; rfl⟩

theorem hasKey_iff {seg : CStr} : hasKey key seg = true ↔ ∃ t, seg = key ++ byte '=' :: t := by
  rw [hasKey, List.isPrefixOf_iff_prefix]
  constructor
  · rintro ⟨t, rfl⟩
    exact ⟨t, by simp⟩
  · rintro ⟨t, rfl⟩
    exact ⟨t, by simp⟩

theorem hasKey_nil (key : CStr) : hasKey key [] = false := by
  rw [Bool.eq_false_iff]
  intro h
  obtain ⟨t, ht⟩ := hasKey_iff.1 h
  simp at ht

theorem upToAmp_key (hkey : byte '&' ∉ key) (t : CStr) :
    upToAmp (key ++ byte '=' :: t) = key ++ byte '=' :: upToAmp t := by
  have hplain : ∀ c ∈ key, decide (c ≠ byte '&') = true := by
    intro c hc
    rw [decide_eq_true_eq]
    rintro rfl
    exact hkey hc
  rw [upToAmp, List.takeWhile_append_of_pos hplain]
  exact congrArg (key ++ ·) (upToAmp_cons (by decide) t)

theorem atKey_eq (hkey : byte '&' ∉ key) (s : CStr) : atKey key s = hasKey key (upToAmp s) := by
  rw [Bool.eq_iff_iff, atKey_iff, hasKey_iff]
  constructor
  · rintro ⟨t, rfl⟩
    exact ⟨upToAmp t, upToAmp_key hkey t⟩
  · rintro ⟨t, ht⟩
    obtain ⟨rest, hrest⟩ : upToAmp s <+: s := List.takeWhile_prefix _
    exact ⟨t ++ rest, by rw [← hrest, ht]; simp⟩

theorem fieldValue_eq (hkey : byte '&' ∉ key) {s : CStr} (hat : atKey key s = true) :
    fieldValue key (upToAmp s) =
      Percent.decode formParseHexval (upToAmp (s.drop (key.length + 1))) := by
  obtain ⟨t, rfl⟩ := atKey_iff.1 hat
  have hdrop (u : CStr) : (key ++ byte '=' :: u).drop (key.length + 1) = u := by
    rw [← List.drop_drop, List.drop_left]
    rfl
  rw [fieldValue, upToAmp_key hkey, hdrop, hdrop]

theorem segments_tail_cons (c : UInt8) (s : CStr) :
    (segments (c :: s)).tail = if c = byte '&' then segments s else (segments s).tail := by
  rw [segments_cons]
  split_ifs with hc
  · rfl
  · cases segments s <;> rfl

/-- **The search goes through the fields.**  At the start of one it looks at it and those behind
it; in the midst of one it looks at those behind it. -/
theorem formScan_eq (hkey : byte '&' ∉ key) (hroom : 0 < outLen) (start : Bool) (s : CStr) :
    formScan key outLen start s =
      (((if start then segments s else (segments s).tail).find? (hasKey key)).map
        (fieldValue key)).bind (fitting outLen) := by
  induction s generalizing start with
  | nil => cases start <;> simp [formScan, segments, hasKey_nil]
  | cons c s ih =>
    have hrest : formScan key outLen (c = byte '&') s =
        (((segments (c :: s)).tail.find? (hasKey key)).map (fieldValue key)).bind
          (fitting outLen) := by
      rw [ih, segments_tail_cons]
      by_cases hc : c = byte '&' <;> simp [hc]
    rw [formScan]
    cases start with
    | false => simpa using hrest
    | true =>
      obtain ⟨rest, hsegs⟩ := segments_eq (c :: s)
      simp only [hsegs, List.tail_cons] at hrest
      by_cases hat : atKey key (c :: s) = true
      · have hhead : hasKey key (upToAmp (c :: s)) = true := atKey_eq hkey _ ▸ hat
        simp only [hat, Bool.and_self, if_true, hsegs, List.find?_cons_of_pos hhead,
          Option.map_some, Option.bind_some, fieldValue_eq hkey hat]
        exact formDecode_eq hroom
      · have hhead : ¬ hasKey key (upToAmp (c :: s)) = true := atKey_eq hkey _ ▸ hat
        simp only [hat, Bool.and_false, Bool.false_eq_true, if_false, if_true, hsegs,
          List.find?_cons_of_neg hhead]
        exact hrest

/-- `form_get_param` splits, looks and decodes. -/
theorem formGetParam_eq (hkey : byte '&' ∉ key) (hroom : 0 < outLen) (body : CStr) :
    formGetParam body key outLen = (lookup body key).bind (fitting outLen) := by
  rw [formGetParam, if_neg (by omega), formScan_eq hkey hroom]
  rfl

end Search

/-! ### Encoded pairs -/

/-- A letter or a digit. -/
def isAlnum (c : UInt8) : Bool := isAlpha c || isDigit c

/-- A way to write pairs of a key and a value as a body: what separates fields and keys is
escaped, and in keys no letter and no digit is. -/
structure FormCoding where
  key : Percent.Coding formParseHexval
  value : Percent.Coding formParseHexval
  key_amp : key.escapes (byte '&') = true
  key_eq : key.escapes (byte '=') = true
  key_alnum : ∀ c, isAlnum c = true → key.escapes c = false
  value_amp : value.escapes (byte '&') = true

namespace FormCoding

variable (k : FormCoding) {key : CStr}

/-- One pair, written. -/
def field (p : CStr × CStr) : CStr := k.key.encode p.1 ++ byte '=' :: k.value.encode p.2

/-- The body for a list of pairs. -/
def body (ps : List (CStr × CStr)) : CStr := [byte '&'].intercalate (ps.map k.field)

theorem amp_not_mem_field (p : CStr × CStr) : byte '&' ∉ k.field p := by
  have hkey : byte '&' ∉ k.key.encode p.1 :=
    k.key.not_mem_encode (by decide) (by decide) fun _ => k.key_amp
  have hvalue : byte '&' ∉ k.value.encode p.2 :=
    k.value.not_mem_encode (by decide) (by decide) fun _ => k.value_amp
  simp [field, hkey, hvalue, show byte '&' ≠ byte '=' by decide]

theorem segments_body {ps : List (CStr × CStr)} (hne : ps ≠ []) :
    segments (k.body ps) = ps.map k.field := by
  refine List.splitOn_intercalate _ ?_ (by simpa using hne)
  intro seg hseg
  obtain ⟨p, -, rfl⟩ := List.mem_map.1 hseg
  exact k.amp_not_mem_field p

theorem upToEq {x : CStr} (hx : byte '=' ∉ x) (z : CStr) :
    (x ++ byte '=' :: z).takeWhile (· ≠ byte '=') = x := by
  rw [List.takeWhile_append_of_pos]
  · simp
  · intro c hc
    rw [decide_eq_true_eq]
    rintro rfl
    exact hx hc

theorem hasKey_field (hkey : ∀ c ∈ key, isAlnum c = true) (p : CStr × CStr) :
    hasKey key (k.field p) = decide (p.1 = key) := by
  have hplain : ∀ c ∈ key, k.key.escapes c = false := fun c hc => k.key_alnum c (hkey c hc)
  rw [Bool.eq_iff_iff, hasKey_iff, decide_eq_true_eq]
  constructor
  · rintro ⟨t, ht⟩
    have heq : byte '=' ∉ k.key.encode p.1 :=
      k.key.not_mem_encode (by decide) (by decide) fun _ => k.key_eq
    have heq' : byte '=' ∉ key := by
      intro hmem
      exact absurd (hkey _ hmem) (by decide)
    have hsame : k.key.encode p.1 = key := by
      rw [← upToEq heq (k.value.encode p.2), ← upToEq heq' t, ← ht, field]
    exact (k.key.encode_eq_iff hplain).1 hsame
  · rintro rfl
    exact ⟨k.value.encode p.2, by rw [field, k.key.encode_of_forall hplain]⟩

theorem nul_not_mem_body {ps : List (CStr × CStr)} (hps : ∀ p ∈ ps, 0 ∉ p.1 ∧ 0 ∉ p.2) :
    0 ∉ k.body ps := by
  induction ps with
  | nil => simp [body]
  | cons p ps ih =>
    have hrest : 0 ∉ k.body ps := ih fun q hq => hps q (List.mem_cons_of_mem _ hq)
    have hfield : 0 ∉ k.field p := by
      obtain ⟨hkey, hvalue⟩ := hps p List.mem_cons_self
      have hkey' : 0 ∉ k.key.encode p.1 :=
        k.key.not_mem_encode (by decide) (by decide) fun h => absurd h hkey
      have hvalue' : 0 ∉ k.value.encode p.2 :=
        k.value.not_mem_encode (by decide) (by decide) fun h => absurd h hvalue
      simp [field, hkey', hvalue', show (0 : UInt8) ≠ byte '=' by decide]
    by_cases hne : ps = []
    · simpa [hne, body] using hfield
    · rw [body, List.map_cons, List.intercalate_cons_of_ne_nil (by simpa using hne)]
      have hrest' : 0 ∉ [byte '&'].intercalate (ps.map k.field) := hrest
      simp [hfield, hrest', show (0 : UInt8) ≠ byte '&' by decide]

/-- **Looking up a key in encoded pairs** finds the first pair with it, and its value. -/
theorem lookup_body (hkey : ∀ c ∈ key, isAlnum c = true) (ps : List (CStr × CStr)) :
    lookup (k.body ps) key = (ps.find? (·.1 = key)).map Prod.snd := by
  by_cases hne : ps = []
  · subst hne
    simp [lookup, body, segments, hasKey_nil]
  · rw [lookup, k.segments_body hne, List.find?_map, Option.map_map]
    have hpred : hasKey key ∘ k.field = fun p => decide (p.1 = key) :=
      funext fun p => k.hasKey_field hkey p
    rw [hpred]
    cases hfind : ps.find? fun p => decide (p.1 = key) with
    | none => rfl
    | some p =>
      have hp : p.1 = key := by simpa using List.find?_some hfind
      have hplain : ∀ c ∈ key, k.key.escapes c = false := fun c hc => k.key_alnum c (hkey c hc)
      have hdrop : (k.field p).drop (key.length + 1) = k.value.encode p.2 := by
        rw [field, hp, k.key.encode_of_forall hplain, ← List.drop_drop, List.drop_left]
        rfl
      simp [fieldValue, hdrop, k.value.decode_encode]

end FormCoding

end FormLookup

end GdoBlaq
