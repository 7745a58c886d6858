import GdoBlaq.Web.Admin
import Mathlib.Data.List.DropRight
import Mathlib.Data.List.TakeWhile

/-!
# Who can change the password

Two formats of the record, a load that is retried over half-filled variables, and a write with many
ways to fail: none of them takes a password back or puts another in its place.

## Main results

* `sound_run` : while the server is up, the variables say what the storage says.
* `password_kept` : a stored password is replaced by a request that carried it only.
* `credentials_change_with_authority` : both, over whole runs from any stored state.
* `accepted_password_works` : no accepted password locks its owner out.
* `failed_change_locks_out` : unless a change that fails leaves its record behind.
-/

namespace GdoBlaq

/-- A failed write leaves the stored record unchanged. -/
def WritesCleanly (e : AdminStep) : Prop :=
  ∀ r, e.label.1 = .setPassword r ∨ e.label.1 = .changePassword r → r.write.storedAnyway = false

/-- A request has been answered with `ok`: a password was set or changed. -/
def PasswordAccepted (e : AdminStep) : Prop := e.label.2 = some (.text "ok")

instance : DecidablePred PasswordAccepted :=
  fun e => inferInstanceAs (Decidable (e.label.2 = some (.text "ok")))

/-- A change-password request that carries the password in force. -/
def ChangesWithPassword (kdf : Kdf) (e : AdminStep) : Prop :=
  ∃ r, e.label.1 = .changePassword r ∧ e.src.authorizeMutation kdf r.token r.tokenKdf = none

/-- While the server is up, the variables say what the storage says. -/
def Admin.Sound (s : Admin) : Prop := s.serving = true → s.Loaded

section Run

variable {kdf : Kdf} {e : AdminStep} {es : List AdminStep} {s s' : Admin}

theorem withPassword_loaded (kdf : Kdf) (s : Admin) (p : CStr) (r : PasswordRequest) :
    (s.withPassword (Admin.newCredentials kdf p r)).Loaded := by
  refine .inl ⟨rfl, ?_⟩
  have hpos : 0 < (Admin.newCredentials kdf p r).iterations := by
    show 0 < adminPasswordPbkdf2Iterations
    decide
  simp [Admin.withPassword, AdminNvs.password, hpos, Admin.credentials]

theorem WritesCleanly.storedAnyway {changing : Bool} {r : PasswordRequest} (h : WritesCleanly e)
    (hcall : e.label.1 = if changing then .changePassword r else .setPassword r) :
    r.write.storedAnyway = false := by
  cases changing with
  | false => exact h r (.inl hcall)
  | true => exact h r (.inr hcall)

theorem sound_step (hst : (admin kdf).toLTS.step e.src e.label e.dst) (hclean : WritesCleanly e)
    (h : e.src.Sound) : e.dst.Sound := by
  cases admin_steps hst with
  | password changing r reply hcall hserving hreply hwrites =>
    cases hwrites with
    | refused _ hs => rwa [hs]
    | stored _ hanyway => rw [hclean.storedAnyway hcall] at hanyway; cases hanyway
    | saved p _ _ _ hs =>
      rw [hs]
      exact fun _ => withPassword_loaded kdf e.src p r
  | authorize _ _ _ _ hs => rwa [hs]
  | reboot _ _ hs => rw [hs]; exact nofun
  | attempt reads started _ _ loaded ok hinit hs =>
    rw [hs]
    intro hserving
    have hok : ok = true := (Bool.and_eq_true_iff.1 hserving).1
    exact (Admin.initAdminCredentials_loads hinit).2 hok

/-- **The variables say what the storage says** whenever the server is up, from any stored state. -/
theorem sound_run (hrun : (admin kdf).toLTS.Trace s es s') (hs : s.Sound)
    (hclean : ∀ e ∈ es, WritesCleanly e) : s'.Sound :=
  hrun.invariant hs fun e he hst => sound_step hst (hclean e he)

/-- **A stored password** is replaced only by a request that carries it. -/
theorem password_step {c : AdminCredentials} (hst : (admin kdf).toLTS.step e.src e.label e.dst)
    (hclean : WritesCleanly e) (hsound : e.src.Sound) (h : e.src.nvs.password = some c) :
    e.dst.nvs.password = some c ∨
      ChangesWithPassword kdf e ∧ PasswordAccepted e ∧ e.dst.nvs.password.isSome = true := by
  cases admin_steps hst with
  | password changing r reply hcall hserving hreply hwrites =>
    cases hwrites with
    | refused _ hs => exact .inl (by rw [hs, h])
    | stored _ hanyway => rw [hclean.storedAnyway hcall] at hanyway; cases hanyway
    | saved p _ hok hright hs =>
      cases changing with
      | false =>
        -- the first password is set only where nothing is stored
        rw [((hsound hserving).empty hright).password] at h
        cases h
      | true =>
        refine .inr ⟨⟨r, hcall, hright⟩, hreply.trans (congrArg some hok), ?_⟩
        rw [hs, (withPassword_loaded kdf e.src p r).stored rfl]
        rfl
  | authorize _ _ _ _ hs => exact .inl (by rw [hs, h])
  | reboot _ _ hs => exact .inl (by rw [hs]; exact h)
  | attempt _ _ _ _ loaded ok hinit hs =>
    refine .inl ?_
    rw [hs]
    exact (congrArg AdminNvs.password (Admin.initAdminCredentials_loads hinit).1).trans h

/-- Over a run a password that is stored stays, and stays the same until a request that carries it
is accepted. -/
theorem password_run {c : AdminCredentials} (hrun : (admin kdf).toLTS.Trace s es s')
    (hclean : ∀ e ∈ es, WritesCleanly e) (hs : s.Sound) (h : s.nvs.password = some c) :
    s'.nvs.password.isSome = true ∧
      ((∀ e ∈ es, ¬ (ChangesWithPassword kdf e ∧ PasswordAccepted e)) →
        s'.nvs.password = some c) := by
  have hsound : ∀ e ∈ es, e.src.Sound := fun e he =>
    (hrun.invariant_mem (I := Admin.Sound) hs (fun e he hst => sound_step hst (hclean e he)) he).1
  constructor
  · refine hrun.invariant (I := fun s => s.nvs.password.isSome = true) (by rw [h]; rfl) ?_
    intro e he hst hsome
    obtain ⟨c', hc'⟩ := Option.isSome_iff_exists.1 hsome
    rcases password_step hst (hclean e he) (hsound e he) hc' with hsame | ⟨-, -, hnew⟩
    · rw [hsame]
      rfl
    · exact hnew
  · intro hnone
    refine hrun.invariant (I := fun s => s.nvs.password = some c) h ?_
    intro e he hst hc
    rcases password_step hst (hclean e he) (hsound e he) hc with hsame | ⟨hchange, hok, -⟩
    · exact hsame
    · exact absurd ⟨hchange, hok⟩ (hnone e he)

theorem error_changes_nothing (hst : (admin kdf).toLTS.step e.src e.label e.dst)
    (hclean : WritesCleanly e) {reply : HttpReply} (hreply : e.label.2 = some reply)
    (herr : reply.IsError) : e.dst = e.src := by
  cases admin_steps hst with
  | password changing r reply' hcall _ hreply' hwrites =>
    obtain rfl : reply' = reply := Option.some.inj (hreply'.symm.trans hreply)
    cases hwrites with
    | refused _ hs => exact hs
    | stored _ hanyway => rw [hclean.storedAnyway hcall] at hanyway; cases hanyway
    | saved _ _ hok =>
      rw [hok] at herr
      cases herr
  | authorize _ _ _ _ hs => exact hs
  | reboot _ hnone => rw [hreply] at hnone; cases hnone
  | attempt _ _ _ hnone => rw [hreply] at hnone; cases hnone

/-- **The password changes with authority only.**  In every run of password requests, reboots and
attempts at loading, from any stored state and with any reads and writes failing: the server never
takes a first password while anything of one is stored, so never again once a password is; the
credentials in force are the same until a change-password request that carries the password in
force; and a request that answers with an error changes nothing. -/
theorem credentials_change_with_authority {n : AdminNvs} {pre mid : List AdminStep}
    {s₁ s₂ : Admin} (hpre : (admin kdf).toLTS.Trace (.boot n) pre s₁)
    (hmid : (admin kdf).toLTS.Trace s₁ mid s₂) (hclean : ∀ e ∈ pre ++ mid, WritesCleanly e) :
    (s₂.serving = true → s₂.passwordSet = false → s₂.nvs.Empty) ∧
    (∀ c, s₁.nvs.password = some c → s₂.serving = true → s₂.passwordSet = true) ∧
    (s₁.serving = true → s₁.passwordSet = true → s₂.serving = true →
      (∀ e ∈ mid, ¬ ChangesWithPassword kdf e) → s₂.credentials = s₁.credentials) ∧
    ∀ e ∈ mid, ∀ reply, e.label.2 = some reply → reply.IsError → e.dst = e.src := by
  have hclean₁ : ∀ e ∈ pre, WritesCleanly e := fun e he => hclean e (List.mem_append_left _ he)
  have hclean₂ : ∀ e ∈ mid, WritesCleanly e := fun e he => hclean e (List.mem_append_right _ he)
  have hsound₁ : s₁.Sound := sound_run hpre nofun hclean₁
  have hsound₂ : s₂.Sound := sound_run hmid hsound₁ hclean₂
  refine ⟨fun hserving => (hsound₂ hserving).empty, ?_, ?_, ?_⟩
  · intro c hc hserving
    have hsome := (password_run hmid hclean₂ hsound₁ hc).1
    obtain ⟨c', hc'⟩ := Option.isSome_iff_exists.1 hsome
    exact ((hsound₂ hserving).in_force hc').1
  · intro hserving₁ hset₁ hserving₂ hnone
    have hc : s₁.nvs.password = some s₁.credentials := (hsound₁ hserving₁).stored hset₁
    have hsame := (password_run hmid hclean₂ hsound₁ hc).2 fun e he hchange =>
      hnone e he hchange.1
    exact ((hsound₂ hserving₂).in_force hsame).2
  · intro e he reply hreply herr
    exact error_changes_nothing (hmid.step_of_mem he) (hclean₂ e he) hreply herr

end Run

/-- A salt. -/
def someSalt : AdminSalt := .ofFn fun i => i.val.toUInt8

/-- PBKDF2 with that salt and 4096 iterations, of two passwords. -/
def pbkdf2Of (p : CStr) (salt : AdminSalt) (iterations : ℕ) : AdminHash :=
  if salt = someSalt ∧ iterations = adminPasswordPbkdf2Iterations then
    if p = lit "correct horse" then
      #v[0x87, 0x50, 0xad, 0x73, 0x01, 0xef, 0x1b, 0x2b, 0x80, 0xb2, 0xce, 0x8d, 0xed, 0xdc, 0x4b,
        0x20, 0x2a, 0xf4, 0xde, 0xcc, 0x15, 0xd4, 0x3c, 0x39, 0xc9, 0xfc, 0xd2, 0xcb, 0x74, 0xdf,
        0xb9, 0xce]
    else if p = lit "wrong horse" then
      #v[0x98, 0xf7, 0xd7, 0x0e, 0x07, 0x6c, 0xca, 0x3e, 0xeb, 0x48, 0x03, 0xef, 0x31, 0x3f, 0x72,
        0x8c, 0x5a, 0xae, 0x93, 0x23, 0xd5, 0x06, 0x43, 0x7f, 0xe2, 0xab, 0xc7, 0x55, 0x03, 0x49,
        0x54, 0x24]
    else .replicate 32 0
  else .replicate 32 0

/-- The first password, set from the device's own page, its body received in two pieces. -/
def firstPassword : PasswordRequest where
  host := { value := lit "192.168.1.20:8080" }
  body := ⟨13, [lit "correct ", lit "horse"]⟩
  salt := someSalt

/-- A new password with the wrong old one. -/
def wrongPassword : PasswordRequest where
  token := { value := lit "wrong horse" }
  body := ⟨14, [lit "battery staple"]⟩
  salt := someSalt

/-- The first password is set after a boot that had to try twice. -/
def enrolled : List AdminCall :=
  [.bootAttempt { credentialsFails := true } true, .bootAttempt {} true, .setPassword firstPassword]

/-- A change is refused, and the next boot tries twice. -/
def refusedChange : List AdminCall :=
  [.changePassword wrongPassword, .reboot, .bootAttempt { openFails := true } true,
    .bootAttempt {} true]

theorem enrolled_writesCleanly {e : AdminStep} (h : e.label.1 ∈ enrolled ++ refusedChange) :
    WritesCleanly e := by
  rintro r (hcall | hcall)
  · rw [hcall] at h
    obtain rfl : r = firstPassword := by simpa [enrolled, refusedChange] using h
    rfl
  · rw [hcall] at h
    obtain rfl : r = wrongPassword := by simpa [enrolled, refusedChange] using h
    rfl

theorem credentials_change_with_authority_enrolled :
    let s₁ := (admin pbkdf2Of).last (.boot {}) enrolled
    let s₂ := (admin pbkdf2Of).last s₁ refusedChange
    s₁.passwordSet = true ∧ s₂.serving = true ∧ s₂.passwordSet = true ∧
      s₂.credentials = s₁.credentials := by
  intro s₁ s₂
  have h := credentials_change_with_authority
    ((admin pbkdf2Of).trace_edges (.boot {}) enrolled)
    ((admin pbkdf2Of).trace_edges s₁ refusedChange) fun e he => by
      refine enrolled_writesCleanly (List.mem_append.2 ?_)
      exact (List.mem_append.1 he).imp (admin pbkdf2Of).action_mem (admin pbkdf2Of).action_mem
  have hrefused : ∀ e ∈ (admin pbkdf2Of).edges s₁ refusedChange,
      e.label.1 = .changePassword wrongPassword →
        e.src.authorizeMutation pbkdf2Of wrongPassword.token true ≠ none := by decide +kernel
  have hserving : s₂.serving = true := by decide +kernel
  refine ⟨by decide +kernel, hserving, h.2.1 (Admin.newCredentials pbkdf2Of (lit "correct horse")
    firstPassword) (by decide +kernel) hserving, ?_⟩
  refine h.2.2.1 (by decide +kernel) (by decide +kernel) hserving ?_
  intro e he
  rintro ⟨r, hcall, hthrough⟩
  have hmem := (admin pbkdf2Of).action_mem he
  rw [hcall] at hmem
  obtain rfl : r = wrongPassword := by simpa [refusedChange] using hmem
  exact hrefused e he hcall hthrough

/-! ### No lockout -/

/-- A space or a tab. -/
def isBlank (c : UInt8) : Bool := c = byte ' ' ∨ c = 9

/-- A header value without the blanks around it. -/
def stripBlanks (v : List UInt8) : List UInt8 := (v.dropWhile isBlank).rdropWhile isBlank

section Password

variable {r : PasswordRequest} {p : CStr}

theorem not_isBlank {c : UInt8} (hprintable : 0x20 ≤ c ∧ c ≤ 0x7e) (hspace : c ≠ byte ' ') :
    isBlank c = false := by
  have htab : c ≠ 9 := by
    rintro rfl
    exact absurd hprintable.1 (by decide)
  simp [isBlank, hspace, htab]

theorem PasswordRequest.Password.ne_nil (h : r.Password p) : p ≠ [] := by
  rintro rfl
  exact absurd h.min_len (by decide)

theorem PasswordRequest.Password.stripBlanks_eq (h : r.Password p) : stripBlanks p = p := by
  have hfirst : p.dropWhile isBlank = p := by
    cases p with
    | nil => rfl
    | cons c p =>
      have hblank := not_isBlank (h.printable c List.mem_cons_self) h.first
      rw [List.dropWhile_cons_of_neg (by simp [hblank])]
  have hlast : p.rdropWhile isBlank = p := by
    refine List.rdropWhile_eq_self_iff.2 ?_
    intro hne
    have hspace := h.last
    rw [List.getLastD_eq_getLast?, List.getLast?_eq_some_getLast hne] at hspace
    simp [not_isBlank (h.printable _ (List.getLast_mem hne)) hspace]
  rw [stripBlanks, hfirst, hlast]

theorem PasswordRequest.Password.cstring_eq (h : r.Password p) : cstring p = p := by
  refine List.takeWhile_eq_self_iff.2 ?_
  intro c hc
  have hprintable := (h.printable c hc).1
  simp only [decide_eq_true_eq]
  rintro rfl
  exact absurd hprintable (by decide)

end Password

section Run

variable {kdf : Kdf} {n : AdminNvs} {pre mid : List AdminStep} {e : AdminStep} {s : Admin}
  {r : PasswordRequest} {p : CStr} {changing : Bool}

theorem accepted_saves (hst : (admin kdf).toLTS.step e.src e.label e.dst)
    (hcall : e.label.1 = if changing then .changePassword r else .setPassword r)
    (hok : PasswordAccepted e)
    (hbody : recvBody r.body.contentLen.toNat r.body.chunks = some p) :
    r.Password p ∧ e.dst = e.src.withPassword (Admin.newCredentials kdf p r) := by
  cases admin_steps hst with
  | password changing' r' reply hcall' _ hreply hwrites =>
    obtain rfl : r = r' := by
      rw [hcall] at hcall'
      cases changing <;> cases changing' <;> cases hcall' <;> rfl
    obtain rfl : reply = .text "ok" := Option.some.inj (hreply.symm.trans hok)
    cases hwrites with
    | refused herr => cases herr
    | stored herr => cases herr
    | saved p' hp _ _ hs =>
      obtain rfl : p' = p := Option.some.inj (hp.body.symm.trans hbody)
      exact ⟨hp, hs⟩
  | authorize _ _ hcall' => rw [hcall] at hcall'; cases changing <;> cases hcall'
  | reboot hcall' => rw [hcall] at hcall'; cases changing <;> cases hcall'
  | attempt _ _ hcall' => rw [hcall] at hcall'; cases changing <;> cases hcall'

/-- **No accepted password locks its owner out.**  Once a request that sets `p` has been answered
with `ok`, and until the next such answer, whatever else is requested and however often the device
restarts, as long as no write that fails leaves its record behind: sent as a header over a transport
that does no more to printable characters than to strip the blanks around them, `p` is let through
whenever its own derivation succeeds, and a header that is longer than 64 bytes or that something
else is derived from is not. -/
theorem accepted_password_works
    (hrun : (admin kdf).toLTS.Trace (.boot n) (pre ++ e :: mid) s)
    (hcall : e.label.1 = if changing then .changePassword r else .setPassword r)
    (hok : PasswordAccepted e) (hbody : recvBody r.body.contentLen.toNat r.body.chunks = some p)
    (hnone : ∀ a ∈ mid, ¬ PasswordAccepted a) (hclean : ∀ a ∈ mid, WritesCleanly a)
    (hserving : s.serving = true)
    {transport : List UInt8 → List UInt8}
    (htransport : ∀ v, (∀ c ∈ v, 0x20 ≤ c ∧ c ≤ 0x7e) → transport v = stripBlanks v) :
    (∀ kdfOk, s.authorizeMutation kdf ⟨some (transport p), .ok⟩ kdfOk = none ↔ kdfOk = true) ∧
    ∀ q readErr kdfOk,
      64 < q.length ∨ kdf (cstring q) s.salt s.iterations ≠ kdf p s.salt s.iterations →
        s.authorizeMutation kdf ⟨some q, readErr⟩ kdfOk ≠ none := by
  obtain ⟨hpre, hst, hmid⟩ := LTS.Trace.at_edge_iff.1 hrun
  obtain ⟨hp, hdst⟩ := accepted_saves hst hcall hok hbody
  have hloaded : e.dst.Loaded := by
    rw [hdst]
    exact withPassword_loaded kdf e.src p r
  -- the credentials made of `p` are still stored, and in force
  have hstored : s.nvs.password = some (Admin.newCredentials kdf p r) := by
    refine (password_run hmid hclean (fun _ => hloaded) ?_).2 fun a ha hchange =>
      hnone a ha hchange.2
    rw [hdst]
    exact (withPassword_loaded kdf e.src p r).stored rfl
  obtain ⟨hset, hcredentials⟩ :=
    (sound_run hmid (fun _ => hloaded) hclean hserving).in_force hstored
  have hhash : s.hash = kdf p s.salt s.iterations := by
    have hiterations : s.iterations = adminPasswordPbkdf2Iterations :=
      congrArg AdminCredentials.iterations hcredentials
    have hsalt : s.salt = r.salt := congrArg AdminCredentials.salt hcredentials
    rw [hiterations, hsalt]
    exact congrArg AdminCredentials.hash hcredentials
  constructor
  · intro kdfOk
    rw [htransport p hp.printable, hp.stripBlanks_eq, Admin.authorizeMutation_eq_none_iff]
    have hlength : p.length ≠ 0 := fun h => hp.ne_nil (List.length_eq_zero_iff.1 h)
    simp [hset, hlength, hp.max_len, hp.cstring_eq, hhash, Header.valueLen, Header.valueStr]
  · intro q readErr kdfOk hwrong hthrough
    obtain ⟨-, -, hfits, -, -, hsame⟩ := Admin.authorizeMutation_eq_none_iff.1 hthrough
    rcases hwrong with hlong | hother
    · exact hlong.not_ge hfits
    · exact hother (hsame.trans hhash)

end Run

theorem accepted_password_works_enrolled :
    let s := (admin pbkdf2Of).last (.boot {}) (enrolled ++ refusedChange)
    s.authorizeMutation pbkdf2Of ⟨lit "correct horse", .ok⟩ true = none ∧
      s.authorizeMutation pbkdf2Of ⟨lit "wrong horse", .ok⟩ true ≠ none := by
  intro s
  let s₀ := (admin pbkdf2Of).last (.boot {}) (enrolled.take 2)
  let pre := (admin pbkdf2Of).edges (.boot {}) (enrolled.take 2)
  let e := (admin pbkdf2Of).edge s₀ (.setPassword firstPassword)
  let mid := (admin pbkdf2Of).edges e.dst refusedChange
  have hrun : (admin pbkdf2Of).toLTS.Trace (.boot {}) (pre ++ e :: mid) s :=
    (admin pbkdf2Of).trace_edges (.boot {}) (enrolled ++ refusedChange)
  have hclean : ∀ a ∈ mid, WritesCleanly a := fun a ha =>
    enrolled_writesCleanly (List.mem_append_right _ ((admin pbkdf2Of).action_mem ha))
  have hnone : ∀ a ∈ mid, ¬ PasswordAccepted a := by decide +kernel
  have hserving : s.serving = true := by decide +kernel
  have hbody : recvBody firstPassword.body.contentLen.toNat firstPassword.body.chunks =
      some (lit "correct horse") := by decide +kernel
  have hcall : e.label.1 = if false then .changePassword firstPassword
      else .setPassword firstPassword := (admin pbkdf2Of).edge_action s₀ _
  have htransport : ∀ v : List UInt8, (∀ c ∈ v, 0x20 ≤ c ∧ c ≤ 0x7e) →
      stripBlanks v = stripBlanks v := fun _ _ => rfl
  have h := accepted_password_works hrun hcall (by decide +kernel) hbody hnone hclean hserving
    htransport
  have hsent : stripBlanks (lit "correct horse") = lit "correct horse" := by decide +kernel
  rw [hsent] at h
  exact ⟨(h.1 true).2 rfl, h.2 _ _ _ (.inr (by decide +kernel))⟩

/-- A change whose commit fails and leaves the new record behind all the same. -/
def failedChange : PasswordRequest where
  token := { value := lit "correct horse" }
  body := ⟨11, [lit "wrong horse"]⟩
  salt := someSalt
  write := { commitErr := .fail, storedAnyway := true }

/-- The device restarts after that change. -/
def restartedAfterChange : List AdminCall :=
  [.changePassword failedChange, .reboot, .bootAttempt {} true]

/-- **A password that a failed change has replaced.**  The change was answered with an error, and
after a restart the password in force is refused. -/
theorem failed_change_locks_out :
    ¬ ∀ (kdf : Kdf) (n : AdminNvs) (pre mid : List AdminStep) (e : AdminStep) (s : Admin)
      (r : PasswordRequest) (p : CStr),
      (admin kdf).toLTS.Trace (.boot n) (pre ++ e :: mid) s → e.label.1 = .setPassword r →
      PasswordAccepted e → recvBody r.body.contentLen.toNat r.body.chunks = some p →
      (∀ a ∈ mid, ¬ PasswordAccepted a) → s.serving = true →
      s.authorizeMutation kdf ⟨some (stripBlanks p), .ok⟩ true = none := by
  intro hclaim
  let s₀ := (admin pbkdf2Of).last (.boot {}) (enrolled.take 2)
  let e := (admin pbkdf2Of).edge s₀ (.setPassword firstPassword)
  let mid := (admin pbkdf2Of).edges e.dst restartedAfterChange
  let s := (admin pbkdf2Of).last (.boot {}) (enrolled ++ restartedAfterChange)
  have hrun : (admin pbkdf2Of).toLTS.Trace (.boot {})
      ((admin pbkdf2Of).edges (.boot {}) (enrolled.take 2) ++ e :: mid) s :=
    (admin pbkdf2Of).trace_edges (.boot {}) (enrolled ++ restartedAfterChange)
  have hrefused : s.authorizeMutation pbkdf2Of
      ⟨some (stripBlanks (lit "correct horse")), .ok⟩ true ≠ none := by decide +kernel
  have hnone : ∀ a ∈ mid, ¬ PasswordAccepted a := by decide +kernel
  exact hrefused (hclaim pbkdf2Of {} _ mid e s firstPassword (lit "correct horse") hrun
    ((admin pbkdf2Of).edge_action s₀ _) (by decide +kernel) (by decide +kernel) hnone
    (by decide +kernel))

end GdoBlaq
