import GdoBlaq.Text.Json
import GdoBlaq.Web.Provisioning

/-!
# What the setup page is sent

The device sends the stored settings and the names of the networks it has found as JSON.
`json_escape` writes a C string as what stands between two quotation marks, into a buffer of six
bytes for each byte of the longest string and its NUL.

## Main results

* `jsonEscape_spec` : the string is written whole within the buffer, or the result is -1.
* `jsonEscape_roundtrip` : it always fits, and JSON and `json_unescape` give it back.
-/

namespace GdoBlaq

namespace Provisioning

open Memory (store written)

/-! ### The device -/

/-- `"%04x"` of a byte. -/
def hex04 (c : UInt8) : List UInt8 :=
  [byte '0', byte '0', byte (c.toNat / 16).digitChar, byte (c.toNat % 16).digitChar]

/-- `esc`, where the `switch` of `json_escape` sets it; 34 is the quotation mark. -/
def jsonEscapeChar (c : UInt8) : Option (List UInt8) :=
  if c = 34 then some [backslash, 34]
  else if c = backslash then some [backslash, backslash]
  else if c = 10 then some [backslash, byte 'n']
  else if c = 13 then some [backslash, byte 'r']
  else if c = 9 then some [backslash, byte 't']
  else if c < 32 then some ([backslash, byte 'u'] ++ hex04 c)
  else none

/-- The loop of `json_escape` with the string `in` to come; there is no result if it writes outside
`out`.  No buffer is so long that `o + n` could overflow. -/
def jsonEscapeLoop {n : ℕ} (outSize : ℤ) :
    CStr → ℕ → Vector UInt8 n → Option (ℤ × Vector UInt8 n)
  | [], o, out => (store out o 0).map fun out => ((o : ℤ), out)
  | c :: s, o, out =>
    match jsonEscapeChar c with
    | some esc =>
      if outSize ≤ o + esc.length then some (-1, out)
      else (Memory.copy out o esc).bind fun out => jsonEscapeLoop outSize s (o + esc.length) out
    | none =>
      if outSize ≤ o + 1 then some (-1, out)
      else (store out o c).bind fun out => jsonEscapeLoop outSize s (o + 1) out

/-- `json_escape` -/
def jsonEscape {n : ℕ} (s : CStr) (out : Vector UInt8 n) (outSize : ℤ) :
    Option (ℤ × Vector UInt8 n) :=
  jsonEscapeLoop outSize s 0 out

/-! ### JSON -/

/-- Texts in UTF-8. -/
def bytes : Json.Units UInt8 where
  code := UInt8.toNat
  ascii := UInt8.ofNat
  spell n := String.utf8EncodeChar (Char.ofNat n)
  code_ascii hn := UInt8.toNat_ofNat_of_lt' (show _ < 256 by omega)
  ascii_code _ := UInt8.ofNat_toNat
  spell_ascii hn := by
    have hcode := Json.toNat_ofNat_ascii hn
    rw [utf8EncodeChar_ascii (by rwa [hcode]), hcode]

/-- What is written for a byte. -/
def jsonEscaped (c : UInt8) : List UInt8 := (jsonEscapeChar c).getD [c]

/-- What is written for a character. -/
def jsonEscapedChar (c : Char) : List Char :=
  if c.toNat < 128 then (jsonEscaped (UInt8.ofNat c.toNat)).map fun b => Char.ofNat b.toNat else [c]

/-- Control characters that `json_escape` gives a letter. -/
def Lettered (s : CStr) : Prop := ∀ c ∈ s, c < 32 → c = 10 ∨ c = 13 ∨ c = 9

/-! ### What is written -/

section Written

variable {n o : ℕ} {out : Vector UInt8 n} {d : Option (List UInt8)}

theorem Unescaped.copy {v : List UInt8} {f : Vector UInt8 n → Option (ℤ × Vector UInt8 n)}
    (hf : ∀ put, o + v.length < n → Unescaped (o + v.length) put d (f put)) :
    Unescaped o out (d.map (v ++ ·))
      (if (n : ℤ) ≤ o + v.length then some (-1, out) else (Memory.copy out o v).bind f) := by
  split_ifs with hfull
  · refine ⟨-1, out, rfl, ?_, fun _ => rfl⟩
    intro w hw hlen
    obtain ⟨w', -, rfl⟩ := Option.map_eq_some_iff.1 hw
    rw [List.length_append] at hlen
    omega
  · obtain ⟨put, hput, hwritten⟩ := Memory.copy_inside (z := 0) (o := o) v out (by omega)
    obtain ⟨r, out', hrun, hfits, hover⟩ := hf put (by omega)
    refine ⟨r, out', by rw [hput, Option.bind_some, hrun], ?_, ?_⟩
    · intro w hw hlen
      obtain ⟨w', hw', rfl⟩ := Option.map_eq_some_iff.1 hw
      rw [List.length_append] at hlen ⊢
      obtain ⟨hr, hout⟩ := hfits w' hw' (by omega)
      exact ⟨by rw [hr]; congr 1; omega, by rw [hout, hwritten]⟩
    · intro hall
      refine hover ?_
      intro w hw
      have hw' := hall (v ++ w) (by rw [Option.mem_def.1 hw]; rfl)
      rw [List.length_append] at hw'
      omega

theorem copy_singleton (out : Vector UInt8 n) (o : ℕ) (c : UInt8) :
    Memory.copy out o [c] = store out o c := by
  rw [Memory.copy]
  cases store out o c <;> rfl

theorem jsonEscapeLoop_spec (s : CStr) (ho : o < n) (out : Vector UInt8 n) :
    Unescaped o out (some (s.flatMap jsonEscaped)) (jsonEscapeLoop n s o out) := by
  induction s generalizing o out with
  | nil => exact .stop ho out
  | cons c s ih =>
    show Unescaped o out ((some (s.flatMap jsonEscaped)).map (jsonEscaped c ++ ·)) _
    rw [jsonEscapeLoop]
    cases hesc : jsonEscapeChar c with
    | some esc =>
      rw [jsonEscaped, hesc, Option.getD_some]
      exact .copy fun put hput => ih hput put
    | none =>
      rw [jsonEscaped, hesc, Option.getD_none, ← copy_singleton]
      exact .copy (v := [c]) fun put hput => ih hput put

/-- **`json_escape` writes the string whole** within the bounds of the buffer, or returns -1. -/
theorem jsonEscape_spec (hn : 0 < n) (s : CStr) (out : Vector UInt8 n) :
    Unescaped 0 out (some (s.flatMap jsonEscaped)) (jsonEscape s out n) :=
  jsonEscapeLoop_spec s hn out

end Written

/-! ### What is read -/

theorem toNat_byte {c : Char} (hc : c.toNat < 128) : (byte c).toNat = c.toNat :=
  UInt8.toNat_ofNat_of_lt' (show c.toNat < 256 by omega)

theorem length_jsonEscaped (c : UInt8) : (jsonEscaped c).length ≤ 6 := by
  unfold jsonEscaped jsonEscapeChar hex04
  split_ifs <;> simp

/-- **Six bytes** for each byte are enough. -/
theorem length_flatMap_jsonEscaped (s : CStr) : (s.flatMap jsonEscaped).length ≤ s.length * 6 := by
  induction s with
  | nil => rfl
  | cons c s ih =>
    have hc := length_jsonEscaped c
    rw [List.flatMap_cons, List.length_append, List.length_cons]
    omega

theorem toNat_byte_digitChar {d : ℕ} (hd : d < 16) :
    (byte d.digitChar).toNat = d.digitChar.toNat :=
  toNat_byte (Json.digitChar_lt hd)

theorem spells_hex04 {α : Type} (u : Json.Units α) (c : UInt8) :
    u.Spells (([backslash, byte 'u'] ++ hex04 c).map fun b => u.ascii b.toNat)
      (u.spell c.toNat) := by
  have hc := c.toNat_lt
  have hhex := Json.Units.Spells.hex (u := u) hc
  rw [← toNat_byte_digitChar (show c.toNat / 16 < 16 by omega),
    ← toNat_byte_digitChar (show c.toNat % 16 < 16 by omega)] at hhex
  exact hhex

theorem map_ascii (s : List UInt8) : s.map (fun b => bytes.ascii b.toNat) = s :=
  (List.map_congr_left fun _ _ => UInt8.ofNat_toNat).trans (List.map_id s)

theorem spells_jsonEscaped {α : Type} (u : Json.Units α) {c : UInt8} (hc : c.toNat < 128) :
    u.Spells ((jsonEscaped c).map fun b => u.ascii b.toNat) (u.spell c.toNat) := by
  unfold jsonEscaped jsonEscapeChar
  split_ifs with h₁ h₂ h₃ h₄ h₅ h₆
  · subst h₁
    exact .escape (l := 34) rfl (by decide)
  · subst h₂
    exact .escape (l := 92) rfl (by decide)
  · subst h₃
    exact .escape (l := 110) rfl (by decide)
  · subst h₄
    exact .escape (l := 114) rfl (by decide)
  · subst h₅
    exact .escape (l := 116) rfl (by decide)
  · exact spells_hex04 u c
  · have hcode : u.code (u.ascii c.toNat) = c.toNat := u.code_ascii hc
    rw [u.spell_ascii hc]
    refine .plain ?_ ?_ ?_
    · rw [hcode]
      exact fun h => h₁ (UInt8.toNat_inj.1 h)
    · rw [hcode]
      exact fun h => h₂ (UInt8.toNat_inj.1 h)
    · rw [hcode]
      exact not_lt.1 h₆

theorem jsonEscaped_high {c : UInt8} (hc : 128 ≤ c.toNat) : jsonEscaped c = [c] := by
  have hne {m : UInt8} (hm : m.toNat < 128) : c ≠ m := by
    rintro rfl
    omega
  have hlt : ¬ c < 32 := by
    intro hlt
    exact absurd (show c.toNat < 32 from hlt) (by omega)
  rw [jsonEscaped, jsonEscapeChar, if_neg (hne (by decide)), if_neg (hne (by decide)),
    if_neg (hne (by decide)), if_neg (hne (by decide)), if_neg (hne (by decide)), if_neg hlt]
  rfl

theorem forall_mem_pair {p : UInt8 → Prop} {a b : UInt8} (ha : p a) (hb : p b) :
    ∀ x ∈ [a, b], p x := by
  simp [ha, hb]

theorem hex04_ascii (c : UInt8) :
    ∀ b ∈ [backslash, byte 'u'] ++ hex04 c, 32 ≤ b.toNat ∧ b.toNat < 128 := by
  have hc := c.toNat_lt
  have hdigit {d : ℕ} (hd : d < 16) :
      32 ≤ (byte d.digitChar).toNat ∧ (byte d.digitChar).toNat < 128 := by
    rw [toNat_byte_digitChar hd]
    exact ⟨le_trans (by decide) (Json.le_digitChar hd), Json.digitChar_lt hd⟩
  show ∀ b ∈ [backslash, byte 'u'] ++ ([byte '0', byte '0'] ++ [_, _]), _
  exact List.forall_mem_append.2 ⟨forall_mem_pair (by decide) (by decide),
    List.forall_mem_append.2 ⟨forall_mem_pair (by decide) (by decide),
      forall_mem_pair (hdigit (by omega)) (hdigit (by omega))⟩⟩

theorem jsonEscaped_ascii {c : UInt8} (hc : c.toNat < 128) :
    ∀ b ∈ jsonEscaped c, 32 ≤ b.toNat ∧ b.toNat < 128 := by
  unfold jsonEscaped jsonEscapeChar
  split_ifs with h₁ h₂ h₃ h₄ h₅ h₆
  · exact forall_mem_pair (by decide) (by decide)
  · exact forall_mem_pair (by decide) (by decide)
  · exact forall_mem_pair (by decide) (by decide)
  · exact forall_mem_pair (by decide) (by decide)
  · exact forall_mem_pair (by decide) (by decide)
  · exact hex04_ascii c
  · rw [Option.getD_none, List.forall_mem_singleton]
    exact ⟨not_lt.1 h₆, hc⟩

theorem spells_byte (c : UInt8) : bytes.Spells (jsonEscaped c) [c] := by
  rcases lt_or_ge c.toNat 128 with hc | hc
  · have hspells := spells_jsonEscaped bytes hc
    rw [map_ascii, bytes.spell_ascii hc] at hspells
    rwa [show bytes.ascii c.toNat = c from UInt8.ofNat_toNat] at hspells
  · rw [jsonEscaped_high hc]
    exact .plain (by show c.toNat ≠ 34; omega) (by show c.toNat ≠ 92; omega)
      (by show 32 ≤ c.toNat; omega)

theorem spells_char (c : Char) : Json.chars.Spells (jsonEscapedChar c) [c] := by
  unfold jsonEscapedChar
  split_ifs with hc
  · have hbyte : (UInt8.ofNat c.toNat).toNat = c.toNat :=
      UInt8.toNat_ofNat_of_lt' (show c.toNat < 256 by omega)
    have hspells := spells_jsonEscaped Json.chars (c := UInt8.ofNat c.toNat) (by rwa [hbyte])
    rwa [hbyte, show Json.chars.spell c.toNat = [Char.ofNat c.toNat] from rfl,
      Char.ofNat_toNat] at hspells
  · exact .plain (by show c.toNat ≠ 34; omega) (by show c.toNat ≠ 92; omega)
      (by show 32 ≤ c.toNat; omega)

theorem utf8_map_ascii {t : List UInt8} (h : ∀ b ∈ t, b.toNat < 128) :
    utf8 (t.map fun b => Char.ofNat b.toNat) = t := by
  induction t with
  | nil => rfl
  | cons b t ih =>
    obtain ⟨hb, hrest⟩ := List.forall_mem_cons.1 h
    have hchar : String.utf8EncodeChar (Char.ofNat b.toNat) = [b] := by
      rw [utf8EncodeChar_ascii (by rwa [Json.toNat_ofNat_ascii hb]), Json.toNat_ofNat_ascii hb,
        UInt8.ofNat_toNat]
    rw [List.map_cons, utf8_cons, hchar, ih hrest]
    rfl

theorem flatMap_jsonEscaped_high {t : List UInt8} (h : ∀ b ∈ t, 128 ≤ b.toNat) :
    t.flatMap jsonEscaped = t := by
  induction t with
  | nil => rfl
  | cons b t ih =>
    obtain ⟨hb, hrest⟩ := List.forall_mem_cons.1 h
    rw [List.flatMap_cons, jsonEscaped_high hb, ih hrest, List.singleton_append]

theorem utf8_jsonEscapedChar (c : Char) :
    utf8 (jsonEscapedChar c) = (String.utf8EncodeChar c).flatMap jsonEscaped := by
  unfold jsonEscapedChar
  split_ifs with hc
  · have hbyte : (UInt8.ofNat c.toNat).toNat = c.toNat :=
      UInt8.toNat_ofNat_of_lt' (show c.toNat < 256 by omega)
    have hascii := jsonEscaped_ascii (c := UInt8.ofNat c.toNat) (by rwa [hbyte])
    rw [utf8EncodeChar_ascii hc, List.flatMap_singleton, utf8_map_ascii fun b hb => (hascii b hb).2]
  · -- beyond ASCII nothing is escaped, so the bytes of the character stay together
    have hhigh := utf8EncodeChar_high (c := c) (by omega)
    rw [utf8_cons, show utf8 [] = [] from rfl, List.append_nil, flatMap_jsonEscaped_high hhigh]

/-- **JSON reads a string back.** -/
theorem unquote_jsonEscaped (s : CStr) : bytes.unquote (s.flatMap jsonEscaped) = some s := by
  have hspells := Json.Units.Spells.flatMap (s := s) fun c _ => spells_byte c
  rw [List.flatMap_singleton'] at hspells
  exact Json.Units.unquote_of_spells hspells

/-- **JSON reads a text of characters back.** -/
theorem unquote_jsonEscapedChar (t : List Char) :
    Json.chars.unquote (t.flatMap jsonEscapedChar) = some t := by
  have hspells := Json.Units.Spells.flatMap (s := t) fun c _ => spells_char c
  rw [List.flatMap_singleton'] at hspells
  exact Json.Units.unquote_of_spells hspells

theorem utf8_flatMap_jsonEscapedChar (t : List Char) :
    utf8 (t.flatMap jsonEscapedChar) = (utf8 t).flatMap jsonEscaped := by
  rw [utf8, utf8, List.flatMap_assoc, List.flatMap_assoc]
  exact congrArg (List.flatMap · t) (funext utf8_jsonEscapedChar)

theorem written_eq {c : UInt8} (hc : c < 32 → c = 10 ∨ c = 13 ∨ c = 9) :
    coding.written c = jsonEscaped c := by
  by_cases hletter : c = 34 ∨ c = backslash ∨ c = 10 ∨ c = 13 ∨ c = 9
  · rcases hletter with rfl | rfl | rfl | rfl | rfl <;> rfl
  · -- the page has letters for more bytes, but those are control characters without a letter here
    simp only [not_or] at hletter
    obtain ⟨hquote, hmark, h10, h13, h9⟩ := hletter
    have hlt : ¬ c < 32 := fun h => by simpa [h10, h13, h9] using hc h
    have hnone : jsonLetter c.toNat = none := by
      cases hl : jsonLetter c.toNat with
      | none => rfl
      | some l =>
        have hmem := jsonLetter_eq_some hl
        have hle : 32 ≤ c.toNat := not_lt.1 hlt
        have hquote' : c.toNat ≠ 34 := fun h => hquote (UInt8.toNat_inj.1 h)
        have hmark' : c.toNat ≠ 92 := fun h => hmark (UInt8.toNat_inj.1 h)
        simp only [List.mem_cons, List.not_mem_nil, or_false] at hmem
        omega
    have hplain : jsonEscapeChar c = none := by
      simp [jsonEscapeChar, hquote, hmark, h10, h13, h9, hlt]
    rw [jsonEscaped, hplain, Escape.Coding.written,
      show coding.letter c = (jsonLetter c.toNat).map byte from rfl, hnone]
    rfl

/-- **`json_unescape` reads a string back** if its control characters have letters. -/
theorem decode_jsonEscaped {s : CStr} (hs : Lettered s) :
    coding.decode (s.flatMap jsonEscaped) = some s := by
  have hwritten : s.flatMap jsonEscaped = coding.encode s :=
    (List.flatMap_congr fun c hc => written_eq (hs c hc)).symm
  rw [hwritten, Escape.Coding.decode_encode]

theorem zero_not_mem_jsonEscaped (s : CStr) : 0 ∉ s.flatMap jsonEscaped := by
  intro hzero
  obtain ⟨c, -, hmem⟩ := List.mem_flatMap.1 hzero
  rcases lt_or_ge c.toNat 128 with hc | hc
  · exact absurd (jsonEscaped_ascii hc 0 hmem).1 (by decide)
  · rw [jsonEscaped_high hc, List.mem_singleton] at hmem
    rw [← hmem] at hc
    exact absurd hc (by decide)

section Buffer

variable {n : ℕ} {out : Vector UInt8 n} {v : List UInt8} {x : Option (ℤ × Vector UInt8 n)}

theorem Unescaped.fits (h : Unescaped 0 out (some v) x) (hv : 0 ∉ v) (hlen : v.length < n) :
    ∃ out', x = some ((v.length : ℤ), out') ∧ cstr out' = v := by
  obtain ⟨r, out', hrun, hfits, -⟩ := h
  obtain ⟨rfl, rfl⟩ := hfits v rfl (by omega)
  refine ⟨_, by rw [hrun, Nat.zero_add], ?_⟩
  exact Memory.takeWhile_written out hv hlen

theorem Unescaped.bounds {d : Option (List UInt8)} (h : Unescaped 0 out d x) :
    ∃ r out', x = some (r, out') ∧ (r = -1 ∨ 0 ≤ r ∧ r < n) := by
  obtain ⟨r, out', hrun, hfits, hover⟩ := h
  refine ⟨r, out', hrun, ?_⟩
  by_cases hlen : ∃ v ∈ d, 0 + v.length < n
  · obtain ⟨v, hv, hlen⟩ := hlen
    obtain ⟨rfl, -⟩ := hfits v hv hlen
    exact .inr ⟨by omega, by omega⟩
  · refine .inl (hover ?_)
    intro v hv
    exact not_lt.1 fun h => hlen ⟨v, hv, h⟩

end Buffer

/-- **The strings of the setup page round-trip.**  A C string of fewer bytes than `k` always fits a
buffer of `6 * k` bytes; what is written is the body of a JSON string that stands for it, as bytes
and, if it is UTF-8, as characters; and `json_unescape` gives it back in any buffer with room for
it, if its control characters are `\n`, `\r` and `\t`.  Whatever the two functions get, and whatever
the size of the buffer, they write nothing outside it: they have put a shorter string there, or
they return -1. -/
theorem jsonEscape_roundtrip :
    (∀ (k : ℕ) (s : CStr), 0 ∉ s → s.length < k → ∀ out : Vector UInt8 (k * 6),
      ∃ r out', jsonEscape s out (k * 6 : ℕ) = some (r, out') ∧ r = ((cstr out').length : ℤ) ∧
        bytes.unquote (cstr out') = some s ∧
        (∀ t, utf8 t = s → ∃ t', utf8 t' = cstr out' ∧ Json.chars.unquote t' = some t) ∧
        (Lettered s → ∀ (n : ℕ) (value : Vector UInt8 n), s.length < n →
          ∃ value', jsonUnescape (cstr out') value n = some ((s.length : ℤ), value') ∧
            cstr value' = s)) ∧
    ∀ (n : ℕ) (s : CStr) (out : Vector UInt8 n), 1 ≤ n →
      (∃ r out', jsonEscape s out n = some (r, out') ∧ (r = -1 ∨ 0 ≤ r ∧ r < n)) ∧
      ∃ r out', jsonUnescape s out n = some (r, out') ∧ (r = -1 ∨ 0 ≤ r ∧ r < n) := by
  refine ⟨?_, fun n s out hn =>
    ⟨(jsonEscape_spec hn s out).bounds, (jsonUnescape_spec hn s out).bounds⟩⟩
  intro k s hs hlen out
  have hroom := length_flatMap_jsonEscaped s
  obtain ⟨out', hrun, hstr⟩ := (jsonEscape_spec (by omega) s out).fits (zero_not_mem_jsonEscaped s)
    (show (s.flatMap jsonEscaped).length < k * 6 by omega)
  refine ⟨_, out', hrun, by rw [hstr], by rw [hstr, unquote_jsonEscaped], ?_, ?_⟩
  · rintro t rfl
    exact ⟨_, by rw [hstr, utf8_flatMap_jsonEscapedChar], unquote_jsonEscapedChar t⟩
  · intro hletters n value hn
    have hread := jsonUnescape_spec (show 0 < n by omega) (cstr out') value
    rw [hstr, decode_jsonEscaped hletters] at hread
    rw [hstr]
    exact hread.fits hs hn

/-- A network's name with a quotation mark and a line break, in `escaped[33 * 6]`. -/
theorem jsonEscape_roundtrip_ssid :
    ∃ r out', jsonEscape [65, 34, 10] (Vector.replicate (33 * 6) 0) (33 * 6 : ℕ) =
        some (r, out') ∧ bytes.unquote (cstr out') = some [65, 34, 10] := by
  obtain ⟨r, out', hrun, -, hread, -⟩ := jsonEscape_roundtrip.1 33 [65, 34, 10] (by decide)
    (by decide) (Vector.replicate (33 * 6) 0)
  exact ⟨r, out', hrun, hread⟩

end Provisioning

end GdoBlaq
