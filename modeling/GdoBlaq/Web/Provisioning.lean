import GdoBlaq.CloseSchedule
import GdoBlaq.Driver
import GdoBlaq.Text.Escape
import GdoBlaq.Text.Memory
import Mathlib.Data.List.GetD

/-!
# Wi-Fi provisioning

The setup page sends each credential as `JSON.stringify({name, msg})`.  The device splits the text
with `jsmn`, limits the lengths of the two strings as they stand in it, and takes their escapes out
into `key[16]` and `value[64]`.

## Main results

* `jsonToStrParm_inBounds` : whatever is sent and whatever `jsmn` answers, nothing is written
  outside the two buffers.
* `provisioning_roundtrip_iff` : a credential is taken exactly if its value fits with its escapes.
* `provisioning_refuses_quote` : a value of 63 bytes that is refused.
-/

namespace GdoBlaq

namespace Provisioning

open Memory (store written)

/-! ### The device -/

/-- `jsmntype_t` -/
inductive JsmnType where
  | undefined
  | object
  | array
  | string
  | primitive
  deriving DecidableEq, Repr

/-- `jsmntok_t`; `stop` is its `end`. -/
structure JsmnTok where
  type : JsmnType
  start : ℤ
  stop : ℤ
  deriving DecidableEq, Repr

/-- `jsmn_parse` with five tokens: what it returns, and the tokens. -/
abbrev Jsmn := CStr → ℤ × Vector JsmnTok 5

/-- A text in memory, and what lies around it and the NUL behind it. -/
structure JsonStr where
  text : CStr
  around : ℤ → UInt8

/-- `jsonstr[i]` -/
def JsonStr.get (p : JsonStr) (i : ℤ) : UInt8 :=
  if 0 ≤ i ∧ i < p.text.length then p.text.getD i.toNat 0
  else if i = p.text.length then 0
  else p.around i

/-- The `len` bytes at `jsonstr + start`. -/
def JsonStr.bytes (p : JsonStr) (start len : ℤ) : List UInt8 :=
  (List.range len.toNat).map fun k : ℕ => p.get (start + k)

/-- A backslash. -/
def backslash : UInt8 := 92

/-- The `switch` of `json_unescape`; 34 is the quotation mark. -/
def jsonUnescapeChar (c : UInt8) : Option UInt8 :=
  if c = 34 then some 34
  else if c = backslash then some backslash
  else if c = byte '/' then some (byte '/')
  else if c = byte 'b' then some 8
  else if c = byte 'f' then some 12
  else if c = byte 'n' then some 10
  else if c = byte 'r' then some 13
  else if c = byte 't' then some 9
  else none

/-- The loop of `json_unescape` with the bytes from `in[i]` to `in[in_len - 1]` to come; there is
no result if it writes outside `out`. -/
def jsonUnescapeLoop {n : ℕ} (outSize : ℤ) :
    List UInt8 → ℕ → Vector UInt8 n → Option (ℤ × Vector UInt8 n)
  | [], o, out => (store out o 0).map fun out => ((o : ℤ), out)
  | c :: s, o, out =>
    if c = backslash then
      match s with
      | [] => some (-1, out)
      | e :: s =>
        match jsonUnescapeChar e with
        | none => some (-1, out)
        | some c =>
          if outSize - 1 ≤ o then some (-1, out)
          else (store out o c).bind fun out => jsonUnescapeLoop outSize s (o + 1) out
    else if outSize - 1 ≤ o then some (-1, out)
    else (store out o c).bind fun out => jsonUnescapeLoop outSize s (o + 1) out

/-- `json_unescape` -/
def jsonUnescape {n : ℕ} (bytes : List UInt8) (out : Vector UInt8 n) (outSize : ℤ) :
    Option (ℤ × Vector UInt8 n) :=
  jsonUnescapeLoop outSize bytes 0 out

/-- The checks of `json_to_str_parm` on the tokens before it looks at any length. -/
def badFrame (p : JsonStr) (r : ℤ) (t : Vector JsmnTok 5) : Bool :=
  r ≠ 5 || t[0].type ≠ .object || t[1].type ≠ .string || t[2].type ≠ .string ||
    t[3].type ≠ .string || t[4].type ≠ .string ||
    t[1].stop - t[1].start ≠ 4 || p.bytes t[1].start 4 ≠ lit "name" ||
    t[3].stop - t[3].start ≠ 3 || p.bytes t[3].start 3 ≠ lit "msg"

/-- `json_to_str_parm`; there is no result if it writes outside `nameStr` or `valStr`. -/
def jsonToStrParm (jsmn : Jsmn) (jsonstr : Option JsonStr) (nameStr : Vector UInt8 16)
    (valStr : Vector UInt8 64) : Option (EspErr × Vector UInt8 16 × Vector UInt8 64) := do
  let valStr ← store valStr 0 0
  let nameStr ← store nameStr 0 0
  match jsonstr with
  | none => some (.fail, nameStr, valStr)
  | some p =>
    let t := (jsmn p.text).2
    if badFrame p (jsmn p.text).1 t then some (.fail, nameStr, valStr)
    else
      let nameLen := t[2].stop - t[2].start
      let valueLen := t[4].stop - t[4].start
      if nameLen ≤ 0 ∨ 16 ≤ nameLen ∨ valueLen < 0 ∨ 64 ≤ valueLen then
        some (.fail, nameStr, valStr)
      else
        let (n, nameStr) ← jsonUnescape (p.bytes t[2].start nameLen) nameStr 16
        if n < 0 then some (.fail, nameStr, valStr)
        else
          let (v, valStr) ← jsonUnescape (p.bytes t[4].start valueLen) valStr 64
          if v < 0 then some (.fail, nameStr, valStr)
          else some (.ok, nameStr, valStr)

/-! ### The page -/

/-- The letter that `JSON.stringify` writes behind a backslash for a character. -/
def jsonLetter (code : ℕ) : Option Char :=
  if code = 34 ∨ code = 92 then some (Char.ofNat code)
  else if code = 8 then some 'b'
  else if code = 9 then some 't'
  else if code = 10 then some 'n'
  else if code = 12 then some 'f'
  else if code = 13 then some 'r'
  else none

/-- One character of a string as `JSON.stringify` writes it. -/
def jsonChar (c : Char) : List Char :=
  match jsonLetter c.toNat with
  | some l => [Char.ofNat 92, l]
  | none =>
    if c.toNat < 32 then
      [Char.ofNat 92, 'u', '0', '0', (c.toNat / 16).digitChar, (c.toNat % 16).digitChar]
    else [c]

/-- The text that is sent for a string, in UTF-8. -/
def utf8 (s : List Char) : List UInt8 := s.flatMap String.utf8EncodeChar

/-- A flat object of two pairs of strings, given as they stand between the quotation marks. -/
def flat (a b c d : List UInt8) : CStr :=
  [123, 34] ++ a ++ [34, 58, 34] ++ b ++ [34, 44, 34] ++ c ++ [34, 58, 34] ++ d ++ [34, 125]

/-- A string token. -/
def stringTok (start len : ℕ) : JsmnTok := ⟨.string, start, start + len⟩

/-- The tokens of a flat object, with the extents of the strings. -/
def flatTokens (a b c d : List UInt8) : Vector JsmnTok 5 :=
  #v[⟨.object, 0, (flat a b c d).length⟩, stringTok 2 a.length,
    stringTok (a.length + 5) b.length, stringTok (a.length + b.length + 8) c.length,
    stringTok (a.length + b.length + c.length + 11) d.length]

/-- What stands between the quotation marks for a string. -/
def body (s : List Char) : List UInt8 := utf8 (s.flatMap jsonChar)

/-- `JSON.stringify({name, msg})` -/
def stringify (name msg : List Char) : CStr :=
  flat (body "name".toList) (body name) (body "msg".toList) (body msg)

/-- The name of a field: letters, digits and underscores. -/
def FieldName (name : List Char) : Prop :=
  (∀ c ∈ name, c.isAlphanum = true ∨ c = '_') ∧ 1 ≤ name.length ∧ name.length ≤ 15

/-- At most 63 bytes, and no control character without a letter of its own. -/
def Sendable (msg : List Char) : Prop :=
  (∀ c ∈ msg, c.toNat < 32 → c.toNat ∈ [8, 12, 10, 13, 9]) ∧ (utf8 msg).length ≤ 63

/-- The frame for a field and its value is accepted, and gives them back. -/
def Provisions (jsmn : Jsmn) (name msg : List Char) (around : ℤ → UInt8) (key : Vector UInt8 16)
    (value : Vector UInt8 64) : Prop :=
  ∃ key' value', jsonToStrParm jsmn (some ⟨stringify name msg, around⟩) key value =
      some (.ok, key', value') ∧ cstr key' = utf8 name ∧ cstr value' = utf8 msg

/-- The characters of a value that are sent as two. -/
def escaped (msg : List Char) : ℕ := msg.countP fun c => (jsonLetter c.toNat).isSome

/-! ### Unescaping -/

theorem jsonLetter_eq_some {code : ℕ} {l : Char} (h : jsonLetter code = some l) :
    code ∈ [34, 92, 8, 9, 10, 12, 13] := by
  unfold jsonLetter at h
  split_ifs at h with h₁
  · rcases h₁ with rfl | rfl <;> decide
  all_goals simp_all

theorem forall_jsonLetter {codes : List ℕ} {p : ℕ → Char → Bool}
    (h : codes.all (fun code => (jsonLetter code).all (p code)) = true) :
    ∀ code ∈ codes, ∀ l ∈ jsonLetter code, p code l = true := by
  intro code hcode l hl
  exact (Option.all_eq_true _ _).1 (List.all_eq_true.1 h code hcode) l hl

theorem jsonUnescapeChar_jsonLetter :
    ∀ code ∈ [34, 92, 8, 9, 10, 12, 13], ∀ l ∈ jsonLetter code,
      jsonUnescapeChar (byte l) = some (UInt8.ofNat code) := by
  intro code hcode l hl
  refine of_decide_eq_true ?_
  exact forall_jsonLetter (p := fun code l => jsonUnescapeChar (byte l) = some (UInt8.ofNat code))
    (by decide) code hcode l hl

theorem jsonLetter_ascii :
    ∀ code ∈ [34, 92, 8, 9, 10, 12, 13], ∀ l ∈ jsonLetter code, l.toNat < 128 := by
  intro code hcode l hl
  refine of_decide_eq_true ?_
  exact forall_jsonLetter (p := fun _ l => l.toNat < 128) (by decide) code hcode l hl

theorem isSome_jsonLetter : ∀ code ∈ [8, 12, 10, 13, 9], (jsonLetter code).isSome := by
  decide

/-- The escapes of the page, as the device reads them. -/
def coding : Escape.Coding UInt8 where
  mark := backslash
  letter c := (jsonLetter c.toNat).map byte
  symbol := jsonUnescapeChar
  letter_mark := by decide
  symbol_letter := by
    intro a l h
    obtain ⟨x, hx, rfl⟩ := Option.map_eq_some_iff.1 h
    rw [jsonUnescapeChar_jsonLetter _ (jsonLetter_eq_some hx) x hx, UInt8.ofNat_toNat]

section Unescape

variable {n o : ℕ} {out : Vector UInt8 n} {d : Option (List UInt8)}

/-- A loop from `o` on has written nothing outside the buffer, has put there all that is read as
`d`, and returns -1 if that is nothing or does not fit. -/
def Unescaped (o : ℕ) (out : Vector UInt8 n) (d : Option (List UInt8))
    (x : Option (ℤ × Vector UInt8 n)) : Prop :=
  ∃ r out', x = some (r, out') ∧
    (∀ v ∈ d, o + v.length < n → r = (o + v.length : ℕ) ∧ out' = written 0 out o v) ∧
    ((∀ v ∈ d, n ≤ o + v.length) → r = -1)

theorem Unescaped.fail : Unescaped o out none (some (-1, out)) :=
  ⟨-1, out, rfl, fun _ => nofun, fun _ => rfl⟩

theorem Unescaped.stop (ho : o < n) (out : Vector UInt8 n) :
    Unescaped o out (some []) (jsonUnescapeLoop n [] o out) := by
  obtain ⟨out', hstored⟩ := Memory.store_inside out 0 ho
  refine ⟨o, out', by rw [jsonUnescapeLoop, hstored]; rfl, ?_, ?_⟩
  · rintro v ⟨⟩ -
    exact ⟨rfl, Memory.written_nil hstored⟩
  · intro hall
    exact absurd ho (by simpa using hall)

theorem Unescaped.put {c : UInt8} {f : Vector UInt8 n → Option (ℤ × Vector UInt8 n)} (ho : o < n)
    (hf : ∀ put, o + 1 < n → Unescaped (o + 1) put d (f put)) :
    Unescaped o out (d.map (c :: ·))
      (if (n : ℤ) - 1 ≤ o then some (-1, out) else (store out o c).bind f) := by
  split_ifs with hfull
  · refine ⟨-1, out, rfl, ?_, fun _ => rfl⟩
    intro v hv hlen
    obtain ⟨w, -, rfl⟩ := Option.map_eq_some_iff.1 hv
    rw [List.length_cons] at hlen
    omega
  · obtain ⟨put, hput⟩ := Memory.store_inside out c ho
    obtain ⟨r, out', hrun, hfits, hover⟩ := hf put (by omega)
    refine ⟨r, out', by rw [hput, Option.bind_some, hrun], ?_, ?_⟩
    · intro v hv hlen
      obtain ⟨w, hw, rfl⟩ := Option.map_eq_some_iff.1 hv
      rw [List.length_cons] at hlen ⊢
      obtain ⟨hr, hout⟩ := hfits w hw (by omega)
      exact ⟨by rw [hr]; congr 1; omega, by rw [hout, Memory.written_cons hput]⟩
    · intro hall
      refine hover ?_
      intro w hw
      have hw' := hall (c :: w) (by rw [Option.mem_def.1 hw]; rfl)
      rw [List.length_cons] at hw'
      omega

theorem jsonUnescapeLoop_spec (bytes : List UInt8) (ho : o < n) (out : Vector UInt8 n) :
    Unescaped o out (coding.decode bytes) (jsonUnescapeLoop n bytes o out) := by
  fun_induction Escape.Coding.decode coding bytes generalizing o out with
  | case1 => exact .stop ho out
  | case2 =>
    rw [jsonUnescapeLoop, if_pos (show coding.mark = backslash from rfl)]
    exact .fail
  | case3 c hc =>
    rw [jsonUnescapeLoop, if_neg (show ¬ c = backslash from hc)]
    exact .put (d := some []) ho fun put hput => .stop hput put
  | case4 e s c hc ih =>
    rw [jsonUnescapeLoop, if_pos (show coding.mark = backslash from rfl)]
    simp only [show jsonUnescapeChar e = some c from hc]
    exact .put ho fun put hput => ih hput put
  | case5 e s hc =>
    rw [jsonUnescapeLoop, if_pos (show coding.mark = backslash from rfl)]
    simp only [show jsonUnescapeChar e = none from hc]
    exact .fail
  | case6 c e s hc ih =>
    rw [jsonUnescapeLoop, if_neg (show ¬ c = backslash from hc)]
    exact .put ho fun put hput => ih hput put

/-- `json_unescape` reads the escapes, within the bounds of the buffer. -/
theorem jsonUnescape_spec (hn : 0 < n) (bytes : List UInt8) (out : Vector UInt8 n) :
    Unescaped 0 out (coding.decode bytes) (jsonUnescape bytes out n) :=
  jsonUnescapeLoop_spec bytes hn out

end Unescape

/-- **Nothing is written outside `key[16]` and `value[64]`**, whatever is sent and whatever tokens
there are. -/
theorem jsonToStrParm_inBounds (jsmn : Jsmn) (jsonstr : Option JsonStr) (key : Vector UInt8 16)
    (value : Vector UInt8 64) : (jsonToStrParm jsmn jsonstr key value).isSome := by
  obtain ⟨value₀, hvalue₀⟩ := Memory.store_inside value 0 (show 0 < 64 by decide)
  obtain ⟨key₀, hkey₀⟩ := Memory.store_inside key 0 (show 0 < 16 by decide)
  have hname (bytes : List UInt8) : Unescaped 0 key₀ (coding.decode bytes)
      (jsonUnescape bytes key₀ 16) := jsonUnescape_spec (by decide) bytes key₀
  have hmsg (bytes : List UInt8) : Unescaped 0 value₀ (coding.decode bytes)
      (jsonUnescape bytes value₀ 64) := jsonUnescape_spec (by decide) bytes value₀
  cases jsonstr with
  | none => simp [jsonToStrParm, hvalue₀, hkey₀]
  | some p =>
    obtain ⟨n, key', hrun, -⟩ := hname (p.bytes (jsmn p.text).2[2].start
      ((jsmn p.text).2[2].stop - (jsmn p.text).2[2].start))
    obtain ⟨v, value', hrun', -⟩ := hmsg (p.bytes (jsmn p.text).2[4].start
      ((jsmn p.text).2[4].stop - (jsmn p.text).2[4].start))
    simp only [jsonToStrParm, hvalue₀, hkey₀, hrun, hrun', Option.bind_eq_bind, Option.bind_some]
    split_ifs <;> rfl

/-! ### What the page sends -/

theorem utf8_cons (c : Char) (s : List Char) : utf8 (c :: s) = String.utf8EncodeChar c ++ utf8 s :=
  rfl

theorem utf8EncodeChar_ascii {c : Char} (hc : c.toNat < 128) :
    String.utf8EncodeChar c = [UInt8.ofNat c.toNat] := by
  have hle : c.val.toNat ≤ 0x7f := Nat.le_of_lt_succ hc
  rw [String.utf8EncodeChar, if_pos hle]
  rfl

theorem utf8EncodeChar_high {c : Char} (hc : 128 ≤ c.toNat) :
    ∀ b ∈ String.utf8EncodeChar c, 128 ≤ b.toNat := by
  have hlt : ¬ c.val.toNat ≤ 0x7f := by
    intro hle
    exact absurd (hc.trans hle) (by decide)
  have hbyte (n : ℕ) (h : 128 ≤ n) (h' : n < 256) : 128 ≤ (UInt8.ofNat n).toNat := by
    rwa [UInt8.toNat_ofNat_of_lt' h']
  simp only [String.utf8EncodeChar, hlt, if_false]
  split_ifs with hmid htop
  · simp only [List.forall_mem_cons]
    exact ⟨hbyte _ (by omega) (by omega), hbyte _ (by omega) (by omega), by simp⟩
  · simp only [List.forall_mem_cons]
    exact ⟨hbyte _ (by omega) (by omega), hbyte _ (by omega) (by omega),
      hbyte _ (by omega) (by omega), by simp⟩
  · simp only [List.forall_mem_cons]
    exact ⟨hbyte _ (by omega) (by omega), hbyte _ (by omega) (by omega),
      hbyte _ (by omega) (by omega), hbyte _ (by omega) (by omega), by simp⟩

theorem jsonLetter_high {code : ℕ} (h : 93 ≤ code) : jsonLetter code = none := by
  cases hl : jsonLetter code with
  | none => rfl
  | some l =>
    have hmem := jsonLetter_eq_some hl
    simp only [List.mem_cons, List.not_mem_nil, or_false] at hmem
    omega

theorem letter_bytes (c : Char) (b : UInt8) (hb : b ∈ String.utf8EncodeChar c) :
    jsonLetter b.toNat = jsonLetter c.toNat := by
  rcases lt_or_ge c.toNat 128 with hc | hc
  · rw [utf8EncodeChar_ascii hc, List.mem_singleton] at hb
    rw [hb, UInt8.toNat_ofNat_of_lt' (show c.toNat < 256 by omega)]
  · have hb' := utf8EncodeChar_high hc b hb
    rw [jsonLetter_high (show 93 ≤ b.toNat by omega), jsonLetter_high (show 93 ≤ c.toNat by omega)]

theorem utf8_jsonChar {c : Char} (hc : c.toNat < 32 → c.toNat ∈ [8, 12, 10, 13, 9]) :
    utf8 (jsonChar c) = coding.encode (String.utf8EncodeChar c) := by
  unfold jsonChar
  cases hletter : jsonLetter c.toNat with
  | some l =>
    have hascii : c.toNat < 128 := by
      by_contra h
      rw [jsonLetter_high (by omega)] at hletter
      cases hletter
    have hl : l.toNat < 128 := jsonLetter_ascii _ (jsonLetter_eq_some hletter) l hletter
    have hwritten : coding.written (UInt8.ofNat c.toNat) = [backslash, byte l] := by
      rw [Escape.Coding.written, show coding.letter (UInt8.ofNat c.toNat) = some (byte l) by
        show (jsonLetter (UInt8.ofNat c.toNat).toNat).map byte = _
        rw [UInt8.toNat_ofNat_of_lt' (show c.toNat < 256 by omega), hletter, Option.map_some]]
      rfl
    rw [utf8EncodeChar_ascii hascii, Escape.Coding.encode_cons, hwritten, utf8_cons, utf8_cons,
      utf8EncodeChar_ascii hl]
    rfl
  | none =>
    have hplain : ¬ c.toNat < 32 := by
      intro hlt
      have hsome := isSome_jsonLetter _ (hc hlt)
      rw [hletter] at hsome
      cases hsome
    rw [if_neg hplain, utf8_cons, Escape.Coding.encode_of_forall]
    · exact List.append_nil _
    · intro b hb
      show (jsonLetter b.toNat).map byte = none
      rw [letter_bytes c b hb, hletter, Option.map_none]

theorem body_eq {msg : List Char}
    (hmsg : ∀ c ∈ msg, c.toNat < 32 → c.toNat ∈ [8, 12, 10, 13, 9]) :
    body msg = coding.encode (utf8 msg) := by
  induction msg with
  | nil => rfl
  | cons c msg ih =>
    have hc := utf8_jsonChar (hmsg c List.mem_cons_self)
    have hrest := ih fun d hd => hmsg d (List.mem_cons_of_mem _ hd)
    rw [utf8_cons, Escape.Coding.encode_append, ← hc, ← hrest, body, List.flatMap_cons, utf8,
      List.flatMap_append]
    rfl

theorem countP_utf8EncodeChar (c : Char) :
    (String.utf8EncodeChar c).countP (fun b => (coding.letter b).isSome) =
      if (jsonLetter c.toNat).isSome then 1 else 0 := by
  have hbytes : ∀ b ∈ String.utf8EncodeChar c,
      (coding.letter b).isSome = (jsonLetter c.toNat).isSome := by
    intro b hb
    show ((jsonLetter b.toNat).map byte).isSome = _
    rw [letter_bytes c b hb, Option.isSome_map]
  rcases lt_or_ge c.toNat 128 with hc | hc
  · rw [utf8EncodeChar_ascii hc] at hbytes ⊢
    rw [List.countP_singleton, hbytes _ (List.mem_singleton_self _)]
  · rw [List.countP_eq_zero.2, jsonLetter_high (by omega)]
    · rfl
    · intro b hb
      rw [hbytes b hb, jsonLetter_high (by omega)]
      exact nofun

theorem countP_utf8 (msg : List Char) :
    (utf8 msg).countP (fun b => (coding.letter b).isSome) = escaped msg := by
  induction msg with
  | nil => rfl
  | cons c msg ih =>
    rw [utf8_cons, List.countP_append, ih, countP_utf8EncodeChar, escaped, escaped,
      List.countP_cons, Nat.add_comm]

theorem length_body {msg : List Char}
    (hmsg : ∀ c ∈ msg, c.toNat < 32 → c.toNat ∈ [8, 12, 10, 13, 9]) :
    (body msg).length = (utf8 msg).length + escaped msg := by
  rw [body_eq hmsg, Escape.Coding.length_encode, countP_utf8]

theorem zero_not_mem_utf8 {s : List Char} (hs : ∀ c ∈ s, c.toNat ≠ 0) : 0 ∉ utf8 s := by
  intro hzero
  obtain ⟨c, hc, hb⟩ := List.mem_flatMap.1 hzero
  rcases lt_or_ge c.toNat 128 with hascii | hhigh
  · rw [utf8EncodeChar_ascii hascii, List.mem_singleton] at hb
    have hnat := congrArg UInt8.toNat hb
    rw [UInt8.toNat_ofNat_of_lt' (show c.toNat < 256 by omega)] at hnat
    exact hs c hc hnat.symm
  · exact absurd (utf8EncodeChar_high hhigh 0 hb) (by decide)

theorem plain_of_nameChar {c : Char} (hc : c.isAlphanum = true ∨ c = '_') :
    32 ≤ c.toNat ∧ c.toNat < 128 ∧ jsonLetter c.toNat = none := by
  have hrange : 48 ≤ c.toNat ∧ c.toNat ≤ 122 ∧ c.toNat ≠ 92 := by
    rcases hc with hc | rfl
    · delta Char.isAlphanum Char.isAlpha Char.isUpper Char.isLower Char.isDigit at hc
      simp only [Bool.or_eq_true, Bool.and_eq_true, decide_eq_true_eq,
        UInt32.le_iff_toNat_le] at hc
      have hval : c.toNat = c.val.toNat := rfl
      simp at hc
      omega
    · decide
  refine ⟨by omega, by omega, ?_⟩
  cases hletter : jsonLetter c.toNat with
  | none => rfl
  | some l =>
    have hmem := jsonLetter_eq_some hletter
    simp only [List.mem_cons, List.not_mem_nil, or_false] at hmem
    omega

theorem FieldName.no_control {name : List Char} (hname : FieldName name) :
    ∀ c ∈ name, c.toNat < 32 → c.toNat ∈ [8, 12, 10, 13, 9] := by
  intro c hc hlt
  exact absurd (plain_of_nameChar (hname.1 c hc)).1 (by omega)

theorem body_name {name : List Char} (hname : FieldName name) :
    body name = utf8 name ∧ (utf8 name).length = name.length ∧ 0 ∉ utf8 name := by
  have hplain := fun c hc => plain_of_nameChar (hname.1 c hc)
  refine ⟨?_, ?_, zero_not_mem_utf8 fun c hc => ?_⟩
  · rw [body_eq hname.no_control, Escape.Coding.encode_of_forall]
    intro b hb
    obtain ⟨c, hc, hb⟩ := List.mem_flatMap.1 hb
    show (jsonLetter b.toNat).map byte = none
    rw [letter_bytes c b hb, (hplain c hc).2.2, Option.map_none]
  · have hlen : ∀ c ∈ name, (String.utf8EncodeChar c).length = 1 := by
      intro c hc
      rw [utf8EncodeChar_ascii (hplain c hc).2.1]
      rfl
    rw [utf8, List.length_flatMap, List.map_congr_left hlen]
    simp
  · have hlow := (hplain c hc).1
    omega

/-! ### A frame of the page -/

theorem JsonStr.bytes_eq {p : JsonStr} {u x v : CStr} (h : p.text = u ++ x ++ v) :
    p.bytes u.length x.length = x := by
  refine List.ext_getElem (by simp [JsonStr.bytes]) ?_
  intro i h₁ h₂
  have hin : (0 : ℤ) ≤ u.length + i ∧ (u.length + i : ℤ) < p.text.length := by
    rw [h]
    simp only [List.length_append]
    omega
  simp only [JsonStr.bytes, List.getElem_map, List.getElem_range, JsonStr.get, if_pos hin]
  rw [show ((u.length : ℤ) + i).toNat = u.length + i by omega, h, List.append_assoc,
    List.getD_append_right _ _ _ _ (by omega), Nat.add_sub_cancel_left,
    List.getD_append _ _ _ _ h₂, List.getD_eq_getElem _ _ h₂]

theorem flat_bytes {p : JsonStr} {a b c d : List UInt8} (h : p.text = flat a b c d) :
    p.bytes 2 a.length = a ∧ p.bytes (a.length + 5 : ℕ) b.length = b ∧
      p.bytes (a.length + b.length + 8 : ℕ) c.length = c ∧
      p.bytes (a.length + b.length + c.length + 11 : ℕ) d.length = d := by
  have hlen {s : CStr} {k : ℕ} (hs : s.length = k) {x v : CStr} (hx : p.text = s ++ x ++ v) :
      p.bytes k x.length = x := hs ▸ JsonStr.bytes_eq hx
  refine ⟨?_, ?_, ?_, ?_⟩
  · exact hlen (s := [123, 34]) rfl (v := [34, 58, 34] ++ b ++ [34, 44, 34] ++ c ++
      [34, 58, 34] ++ d ++ [34, 125]) (by simp [h, flat])
  · exact hlen (s := [123, 34] ++ a ++ [34, 58, 34]) (by simp) (v := [34, 44, 34] ++ c ++
      [34, 58, 34] ++ d ++ [34, 125]) (by simp [h, flat])
  · exact hlen (s := [123, 34] ++ a ++ [34, 58, 34] ++ b ++ [34, 44, 34]) (by simp; omega)
      (v := [34, 58, 34] ++ d ++ [34, 125]) (by simp [h, flat])
  · exact hlen (s := [123, 34] ++ a ++ [34, 58, 34] ++ b ++ [34, 44, 34] ++ c ++ [34, 58, 34])
      (by simp; omega) (v := [34, 125]) (by simp [h, flat])

theorem not_badFrame {p : JsonStr} {b d : List UInt8}
    (hp : p.text = flat (lit "name") b (lit "msg") d) :
    badFrame p 5 (flatTokens (lit "name") b (lit "msg") d) = false := by
  obtain ⟨ha, -, hc, -⟩ := flat_bytes hp
  have hname : (lit "name").length = 4 := by decide
  have hmsg : (lit "msg").length = 3 := by decide
  rw [hname] at ha hc
  rw [hmsg] at hc
  simp only [badFrame, flatTokens, stringTok, hname, hmsg]
  simp [show p.bytes 2 4 = lit "name" from ha,
    show p.bytes (4 + b.length + 8) 3 = lit "msg" from hc]

/-- What the device does with a frame whose strings it can read. -/
theorem jsonToStrParm_flat {jsmn : Jsmn} {p : JsonStr} {b d v w : List UInt8}
    (key : Vector UInt8 16) (value : Vector UInt8 64)
    (hp : p.text = flat (lit "name") b (lit "msg") d)
    (hjsmn : jsmn p.text = (5, flatTokens (lit "name") b (lit "msg") d))
    (hb : 0 < b.length ∧ b.length < 16) (hv : coding.decode b = some v) (hvlen : v.length < 16)
    (hw : coding.decode d = some w) (hwlen : w.length < 64) :
    ∃ key₀ value₀, jsonToStrParm jsmn (some p) key value =
      if 64 ≤ d.length then some (.fail, key₀, value₀)
      else some (.ok, written 0 key₀ 0 v, written 0 value₀ 0 w) := by
  obtain ⟨value₀, hvalue₀⟩ := Memory.store_inside value 0 (show 0 < 64 by decide)
  obtain ⟨key₀, hkey₀⟩ := Memory.store_inside key 0 (show 0 < 16 by decide)
  obtain ⟨n, key', hrun, hfits, -⟩ : Unescaped 0 key₀ (coding.decode b)
      (jsonUnescape b key₀ 16) := jsonUnescape_spec (by decide) b key₀
  obtain ⟨rfl, rfl⟩ := hfits v hv (by omega)
  obtain ⟨m, value', hrun', hfits', -⟩ : Unescaped 0 value₀ (coding.decode d)
      (jsonUnescape d value₀ 64) := jsonUnescape_spec (by decide) d value₀
  obtain ⟨rfl, rfl⟩ := hfits' w hw (by omega)
  obtain ⟨-, hb', -, hd'⟩ := flat_bytes hp
  have hname : (flatTokens (lit "name") b (lit "msg") d)[2] =
      stringTok ((lit "name").length + 5) b.length := rfl
  have hmsg : (flatTokens (lit "name") b (lit "msg") d)[4] =
      stringTok ((lit "name").length + b.length + (lit "msg").length + 11) d.length := rfl
  refine ⟨key₀, value₀, ?_⟩
  simp only [jsonToStrParm, hvalue₀, hkey₀, hjsmn, not_badFrame hp, Option.bind_eq_bind,
    Option.bind_some, Bool.false_eq_true, if_false, hname, hmsg, stringTok, add_sub_cancel_left,
    hb', hd', hrun, hrun']
  by_cases hlong : 64 ≤ d.length
  · rw [if_pos (by omega), if_pos hlong]
  · -- neither string is too long, and both fit once their escapes are out
    rw [if_neg (by omega), if_neg (by omega), if_neg (by omega), if_neg hlong]

/-- `jsmn` gives the five tokens of the frame for a field and its value. -/
def ReadsFrame (jsmn : Jsmn) (name msg : List Char) : Prop :=
  jsmn (stringify name msg) =
    (5, flatTokens (body "name".toList) (body name) (body "msg".toList) (body msg))

section

variable {jsmn : Jsmn} {name msg : List Char} {around : ℤ → UInt8} {key : Vector UInt8 16}
  {value : Vector UInt8 64}

theorem provisions_iff (hname : FieldName name) (hmsg : Sendable msg)
    (hjsmn : ReadsFrame jsmn name msg) :
    Provisions jsmn name msg around key value ↔ (body msg).length ≤ 63 := by
  obtain ⟨hplain, hlen, hzero⟩ := body_name hname
  obtain ⟨hcontrol, hshort⟩ := hmsg
  have hpos := hname.2.1
  have hmax := hname.2.2
  have hb : coding.decode (body name) = some (utf8 name) := by
    rw [body_eq hname.no_control, Escape.Coding.decode_encode]
  have hd : coding.decode (body msg) = some (utf8 msg) := by
    rw [body_eq hcontrol, Escape.Coding.decode_encode]
  have hzero' : 0 ∉ utf8 msg := by
    refine zero_not_mem_utf8 ?_
    intro c hc hnul
    have hmem := hcontrol c hc (by omega)
    rw [hnul] at hmem
    exact absurd hmem (by decide)
  obtain ⟨key₀, value₀, hrun⟩ := jsonToStrParm_flat (p := ⟨stringify name msg, around⟩) key value
    (b := body name) (d := body msg) rfl hjsmn (by rw [hplain]; omega) hb (by omega) hd (by omega)
  constructor
  · rintro ⟨key', value', hok, -⟩
    by_contra hlong
    rw [hrun, if_pos (by omega)] at hok
    exact absurd hok (by simp)
  · intro hfits
    exact ⟨_, _, hrun.trans (if_neg (by omega)),
      Memory.takeWhile_written key₀ hzero (by omega),
      Memory.takeWhile_written value₀ hzero' (by omega)⟩

/-- **A credential is taken exactly if its value has room for its escapes**, and no frame makes the
device write outside its two buffers. -/
theorem provisioning_roundtrip_iff (hname : FieldName name) (hmsg : Sendable msg)
    (hjsmn : ReadsFrame jsmn name msg) :
    (Provisions jsmn name msg around key value ↔ (utf8 msg).length + escaped msg ≤ 63) ∧
      ∀ jsonstr key value, (jsonToStrParm jsmn jsonstr key value).isSome := by
  refine ⟨?_, jsonToStrParm_inBounds jsmn⟩
  rw [provisions_iff hname hmsg hjsmn, length_body hmsg.1]

end

/-- A password with a quotation mark and a backslash, and one with a line end. -/
theorem provisioning_roundtrip_iff_password :
    let msg := ['p', Char.ofNat 34, 'a', Char.ofNat 92, 's', Char.ofNat 10]
    let jsmn : Jsmn := fun _ => (5, flatTokens (body "name".toList) (body "nvsStaPass".toList)
      (body "msg".toList) (body msg))
    (Provisions jsmn "nvsStaPass".toList msg (fun _ => 0) (charArray 16 []) (charArray 64 []) ↔
      (utf8 msg).length + escaped msg ≤ 63) ∧
      ∀ jsonstr key value, (jsonToStrParm jsmn jsonstr key value).isSome :=
  provisioning_roundtrip_iff
    ⟨List.forall_mem_iff_getElem.2 (by decide), by decide, by decide⟩
    ⟨List.forall_mem_iff_getElem.2 (by decide), by decide⟩ rfl

/-- A password of 62 letters and a quotation mark. -/
def quoted : List Char := List.replicate 62 'a' ++ [Char.ofNat 34]

/-- **A value of 63 bytes that is refused**, however the frame lies in memory. -/
theorem provisioning_refuses_quote :
    FieldName "nvsStaPass".toList ∧ Sendable quoted ∧
      ∀ jsmn, ReadsFrame jsmn "nvsStaPass".toList quoted → ∀ around key value,
        ¬ Provisions jsmn "nvsStaPass".toList quoted around key value := by
  have hname : FieldName "nvsStaPass".toList :=
    ⟨List.forall_mem_iff_getElem.2 (by decide), by decide, by decide⟩
  have hmsg : Sendable quoted := ⟨List.forall_mem_iff_getElem.2 (by decide), by decide⟩
  refine ⟨hname, hmsg, ?_⟩
  intro jsmn hjsmn around key value
  rw [provisions_iff hname hmsg hjsmn]
  decide

end Provisioning

end GdoBlaq
