import GdoBlaq.Web.Origin
import GdoBlaq.Web.SettingsPages

/-!
# The admin password

The credentials of `diag_webserver.cpp` with the namespace `gdo_admin` that they are loaded from and
saved to, without the prefix `s_admin_pw_`.  The password itself is nowhere kept: what is compared
is derived from it with the salt and the iteration count.  The derivation, PBKDF2, is any function
of these three, and a call of it may fail.

At a boot the credentials are loaded until that succeeds; only then does the server start.

## Main results

* `admin` : the machine of the two password handlers, the check that all others make, and the boot.
* `initAdminCredentials_loads` : what a successful load leaves behind, whatever earlier ones did.
* `adminWritePassword_cases` : a request is refused and changes nothing, or saves a new password.
-/

namespace GdoBlaq

/-! ### Data -/

abbrev AdminSalt := Vector UInt8 16

abbrev AdminHash := Vector UInt8 32

/-- The password derivation, of a password, a salt and an iteration count. -/
abbrev Kdf := CStr → AdminSalt → ℕ → AdminHash

/-- `admin_credentials_t` -/
structure AdminCredentials where
  iterations : ℕ
  salt : AdminSalt
  hash : AdminHash
  deriving DecidableEq

/-- `sizeof(admin_credentials_t)` -/
def adminCredentialsSize : ℕ := 52

/-- The blob under the key `credentials`: its length, and its value if that is the right one. -/
structure CredentialsBlob where
  length : ℕ
  value : AdminCredentials
  deriving DecidableEq

/-- The namespace `gdo_admin`, key by key. -/
structure AdminNvs where
  credentials : Option CredentialsBlob := none
  /-- The separate keys of older firmware. -/
  pwSalt : Option (List UInt8) := none
  pwHash : Option (List UInt8) := none
  pwIter : Option ℕ := none
  deriving DecidableEq

/-- Which reads of the namespace fail although the key may be there. -/
structure AdminReads where
  openFails : Bool := false
  credentialsFails : Bool := false
  pwSaltFails : Bool := false
  pwHashFails : Bool := false
  pwIterFails : Bool := false
  deriving DecidableEq

/-- The variables, the namespace, and whether the server is up. -/
structure Admin where
  salt : AdminSalt := .replicate 16 0
  hash : AdminHash := .replicate 32 0
  iterations : ℕ := 0
  passwordSet : Bool := false
  nvs : AdminNvs
  serving : Bool := false

/-- What a password request brings, and what it meets on its way. -/
structure PasswordRequest where
  /-- `X-GDO-Token` -/
  token : Header := {}
  /-- The derivation from the token succeeds. -/
  tokenKdf : Bool := true
  host : Header := {}
  origin : Header := {}
  /-- `Sec-Fetch-Site` -/
  site : Header := {}
  body : FormRequest
  /-- `esp_fill_random` -/
  salt : AdminSalt
  /-- The derivation from the new password succeeds. -/
  kdfOk : Bool := true
  write : NvsWrite := {}
  deriving DecidableEq

/-- A request, or what happens to the server between two requests. -/
inductive AdminCall where
  | setPassword (r : PasswordRequest)
  | changePassword (r : PasswordRequest)
  /-- The check that every other handler makes first. -/
  | authorize (token : Header) (kdfOk : Bool)
  /-- A restart, for whatever reason. -/
  | reboot
  /-- One turn of the loop that loads the credentials and starts the server.  A start that fails
  leaves no server behind. -/
  | bootAttempt (reads : AdminReads) (started : Bool)
  deriving DecidableEq

/-- `ADMIN_PASSWORD_MIN_LEN` -/
def adminPasswordMinLen : ℕ := 8

/-- `ADMIN_PASSWORD_MAX_LEN` -/
def adminPasswordMaxLen : ℕ := 64

/-- `ADMIN_PASSWORD_PBKDF2_ITERATIONS` -/
def adminPasswordPbkdf2Iterations : ℕ := 4096

/-! ### Functions -/

/-- `hash_admin_password`: the hash, unless the derivation fails. -/
def hashAdminPassword (kdf : Kdf) (kdfOk : Bool) (password : CStr) (salt : AdminSalt)
    (iterations : ℕ) : Option AdminHash :=
  if kdfOk then some (kdf password salt iterations) else none

/-- `difference`, over the bytes of both. -/
def hashDifference (a b : AdminHash) : UInt8 :=
  ((a.toList.zip b.toList).map fun x => x.1 ^^^ x.2).foldl (· ||| ·) 0

/-- `memcpy` of some bytes to the start of a `uint8_t[n]`. -/
def memcpy {n : ℕ} (dst : Vector UInt8 n) (src : List UInt8) : Vector UInt8 n :=
  Vector.ofFn fun i => src.getD i (dst.get i)

/-- `nvs_get_blob` into a buffer of `size` bytes, with `ESP_ERR_NVS_INVALID_LENGTH` if there is not
enough room. -/
def nvsGetBlob (fails : Bool) (stored : Option (List UInt8)) (size : ℕ) :
    Except EspErr (List UInt8) :=
  match nvsGet fails stored with
  | .ok bytes => if size < bytes.length then .error (.other 0x110c) else .ok bytes
  | .error err => .error err

namespace Admin

/-- The state after a boot. -/
def boot (nvs : AdminNvs) : Admin := { nvs }

/-- What the variables say. -/
def credentials (s : Admin) : AdminCredentials := ⟨s.iterations, s.salt, s.hash⟩

/-- `authorize_mutation`: the answer with which it turns a request down, if it does. -/
def authorizeMutation (s : Admin) (kdf : Kdf) (token : Header) (kdfOk : Bool) : Option HttpReply :=
  if !s.passwordSet then
    some (.error 403 "No admin password set - open the diagnostics page to set one first")
  else if token.valueLen = 0 ∨ adminPasswordMaxLen < token.valueLen ∨ token.readErr ≠ .ok then
    some (.error 401 "Admin password required")
  else match hashAdminPassword kdf kdfOk token.valueStr s.salt s.iterations with
    | none => some (.error 401 "Admin password could not be verified")
    | some candidate =>
      if hashDifference candidate s.hash ≠ 0 then some (.error 401 "Invalid admin password")
      else none

/-- The separate keys of older firmware, each read into its variable as far as it goes. -/
def loadLegacy (s : Admin) (r : AdminReads) : Admin × Bool :=
  let salt := nvsGetBlob r.pwSaltFails s.nvs.pwSalt 16
  let hash := nvsGetBlob r.pwHashFails s.nvs.pwHash 32
  let iter := nvsGet r.pwIterFails s.nvs.pwIter
  let s := { s with
    salt := orKeep (salt.map (memcpy s.salt)) s.salt
    hash := orKeep (hash.map (memcpy s.hash)) s.hash
    iterations := orKeep iter s.iterations }
  let set :=
    match salt, hash, iter with
    | .ok salt, .ok hash, .ok _ => salt.length = 16 ∧ hash.length = 32 ∧ 0 < s.iterations
    | _, _, _ => false
  let absent :=
    match salt, hash, iter with
    | .error .nvsNotFound, .error .nvsNotFound, .error .nvsNotFound => true
    | _, _, _ => false
  -- partial or corrupt credentials must never reopen enrollment
  ({ s with passwordSet := set }, set || absent)

/-- `init_admin_credentials` -/
def initAdminCredentials (s : Admin) (r : AdminReads) : Admin × Bool :=
  if r.openFails then (s, false)
  else match nvsGet r.credentialsFails s.nvs.credentials with
    | .ok blob =>
      -- a longer blob is refused by `nvs_get_blob` already
      if blob.length = adminCredentialsSize ∧ 0 < blob.value.iterations then
        ({ s with
            salt := blob.value.salt
            hash := blob.value.hash
            iterations := blob.value.iterations
            passwordSet := true }, true)
      else (s, false)
    | .error .nvsNotFound => s.loadLegacy r
    | .error _ => (s, false)

/-- `admin_write_password` from the random salt on. -/
def savePassword (s : Admin) (kdf : Kdf) (password : CStr) (r : PasswordRequest) :
    Admin × HttpReply :=
  match hashAdminPassword kdf r.kdfOk password r.salt adminPasswordPbkdf2Iterations with
  | none => (s, .serverError)
  | some hash =>
    let saved := ⟨adminPasswordPbkdf2Iterations, r.salt, hash⟩
    let nvs := if r.write.stores then
        { s.nvs with credentials := some ⟨adminCredentialsSize, saved⟩ } else s.nvs
    if r.write.err ≠ .ok then ({ s with nvs }, .serverError)
    else
      ({ s with
          salt := r.salt, hash, iterations := adminPasswordPbkdf2Iterations
          passwordSet := true, nvs }, .text "ok")

/-- `admin_write_password` -/
def adminWritePassword (s : Admin) (kdf : Kdf) (changing : Bool) (r : PasswordRequest) :
    Admin × HttpReply :=
  match if changing then s.authorizeMutation kdf r.token r.tokenKdf else none with
  | some refusal => (s, refusal)
  | none =>
    if !changing && s.passwordSet then (s, .error 403 "Admin password already set")
    else if !changing && !rejectUnlessOwnPage r.host r.origin r.site then
      (s, .error 403 ("Cross-origin request refused - open the diagnostics page by the device's " ++
        "IP address or its gdo-blaq-xxxxxx.local name"))
    else
      let len := r.body.contentLen.toNat
      if len < adminPasswordMinLen ∨ adminPasswordMaxLen < len then
        (s, .error 400 "Password must be 8-64 characters")
      else match recvBody len r.body.chunks with
        | none => (s, .error 400 "Failed to read body")
        | some password =>
          if password.any fun c => c < 0x20 || 0x7e < c then
            (s, .error 400 "Password must use printable ASCII characters only")
          else if peek password = byte ' ' ∨ password.getLastD 0 = byte ' ' then
            (s, .error 400 "Password cannot start or end with a space")
          else s.savePassword kdf password r

/-- One step.  Without a server there are no requests, and with one no further attempts. -/
def step (kdf : Kdf) (s : Admin) : AdminCall → Option (Admin × Option HttpReply)
  | .setPassword r =>
    if s.serving then
      let (s, reply) := s.adminWritePassword kdf false r
      some (s, some reply)
    else none
  | .changePassword r =>
    if s.serving then
      let (s, reply) := s.adminWritePassword kdf true r
      some (s, some reply)
    else none
  | .authorize token kdfOk =>
    if s.serving then some (s, s.authorizeMutation kdf token kdfOk) else none
  | .reboot => some (boot s.nvs, none)
  | .bootAttempt reads started =>
    if s.serving then none
    else
      let (s, ok) := s.initAdminCredentials reads
      some ({ s with serving := ok && started }, none)

end Admin

/-- The web server, as far as the password is concerned. -/
def admin (kdf : Kdf) : Machine Admin AdminCall (Option HttpReply) where
  step := Admin.step kdf

/-- A step of a run. -/
abbrev AdminStep := LTS.Edge Admin (AdminCall × Option HttpReply)

/-! ### The stored password -/

theorem memcpy_of_length {n : ℕ} {bytes : List UInt8} (h : bytes.length = n)
    (dst dst' : Vector UInt8 n) : memcpy dst bytes = memcpy dst' bytes := by
  ext i hi
  simp [memcpy, List.getD, List.getElem?_eq_getElem (h ▸ hi : i < bytes.length)]

/-- The credentials in the storage, if they are there and whole. -/
def AdminNvs.password (n : AdminNvs) : Option AdminCredentials :=
  match n.credentials with
  | some blob =>
    if blob.length = adminCredentialsSize ∧ 0 < blob.value.iterations then some blob.value else none
  | none =>
    match n.pwSalt, n.pwHash, n.pwIter with
    | some salt, some hash, some iterations =>
      if salt.length = 16 ∧ hash.length = 32 ∧ 0 < iterations then
        some ⟨iterations, memcpy (.replicate 16 0) salt, memcpy (.replicate 32 0) hash⟩
      else none
    | _, _, _ => none

/-- There is nothing of a password in the storage. -/
def AdminNvs.Empty (n : AdminNvs) : Prop :=
  n.credentials = none ∧ n.pwSalt = none ∧ n.pwHash = none ∧ n.pwIter = none

theorem AdminNvs.Empty.password {n : AdminNvs} (h : n.Empty) : n.password = none := by
  obtain ⟨hblob, hsalt, hhash, hiter⟩ := h
  simp [AdminNvs.password, hblob, hsalt]

theorem nvsGet_ok {α : Type} {fails : Bool} {stored : Option α} {a : α}
    (h : nvsGet fails stored = .ok a) : stored = some a := by
  unfold nvsGet at h
  cases fails <;> cases stored <;> simp_all

theorem nvsGet_notFound {α : Type} {fails : Bool} {stored : Option α}
    (h : nvsGet fails stored = .error .nvsNotFound) : stored = none := by
  unfold nvsGet at h
  cases fails <;> cases stored <;> simp_all

theorem nvsGetBlob_ok {fails : Bool} {stored : Option (List UInt8)} {size : ℕ} {bytes : List UInt8}
    (h : nvsGetBlob fails stored size = .ok bytes) : stored = some bytes := by
  unfold nvsGetBlob at h
  cases hget : nvsGet fails stored with
  | error err => simp [hget] at h
  | ok a =>
    simp only [hget] at h
    split_ifs at h
    cases h
    exact nvsGet_ok hget

theorem nvsGetBlob_notFound {fails : Bool} {stored : Option (List UInt8)} {size : ℕ}
    (h : nvsGetBlob fails stored size = .error .nvsNotFound) : stored = none := by
  unfold nvsGetBlob at h
  cases hget : nvsGet fails stored with
  | ok a =>
    simp only [hget] at h
    split_ifs at h
    simp at h
  | error err =>
    simp only [hget, Except.error.injEq] at h
    exact nvsGet_notFound (h ▸ hget)

namespace Admin

variable {s s' : Admin} {reads : AdminReads} {ok : Bool}

/-- What a load that has succeeded leaves in the variables: what is stored, or nothing is. -/
def Loaded (s : Admin) : Prop :=
  (s.passwordSet = true ∧ s.nvs.password = some s.credentials) ∨
    (s.passwordSet = false ∧ s.nvs.Empty)

theorem Loaded.stored (h : s.Loaded) (hset : s.passwordSet = true) :
    s.nvs.password = some s.credentials := by
  rcases h with ⟨-, hpassword⟩ | ⟨hnot, -⟩
  · exact hpassword
  · rw [hset] at hnot
    cases hnot

theorem Loaded.empty (h : s.Loaded) (hnot : s.passwordSet = false) : s.nvs.Empty := by
  rcases h with ⟨hset, -⟩ | ⟨-, hempty⟩
  · rw [hset] at hnot
    cases hnot
  · exact hempty

theorem Loaded.in_force {c : AdminCredentials} (h : s.Loaded) (hc : s.nvs.password = some c) :
    s.passwordSet = true ∧ s.credentials = c := by
  rcases h with ⟨hset, hpassword⟩ | ⟨-, hempty⟩
  · exact ⟨hset, Option.some.inj (hpassword.symm.trans hc)⟩
  · rw [hempty.password] at hc
    cases hc

theorem loadLegacy_loads (hblob : s.nvs.credentials = none) (h : s.loadLegacy reads = (s', ok)) :
    s'.nvs = s.nvs ∧ (ok = true → s'.Loaded) := by
  unfold loadLegacy at h
  rcases hsalt : nvsGetBlob reads.pwSaltFails s.nvs.pwSalt 16 with esalt | salt <;>
    rcases hhash : nvsGetBlob reads.pwHashFails s.nvs.pwHash 32 with ehash | hash <;>
    rcases hiter : nvsGet reads.pwIterFails s.nvs.pwIter with eiter | iter <;>
    simp only [hsalt, hhash, hiter] at h
  case ok.ok.ok =>
    obtain ⟨rfl, rfl⟩ := Prod.mk.inj h
    refine ⟨rfl, fun hset => .inl ?_⟩
    simp only [orKeep, Bool.or_false] at hset
    obtain ⟨hsaltLen, hhashLen, hpos⟩ := of_decide_eq_true hset
    refine ⟨hset, ?_⟩
    simp [AdminNvs.password, hblob, nvsGetBlob_ok hsalt, nvsGetBlob_ok hhash, nvsGet_ok hiter,
      hsaltLen, hhashLen, hpos, credentials, orKeep, Except.map,
      memcpy_of_length hsaltLen s.salt (.replicate 16 0),
      memcpy_of_length hhashLen s.hash (.replicate 32 0)]
  case error.error.error =>
    obtain ⟨rfl, rfl⟩ := Prod.mk.inj h
    refine ⟨rfl, fun habsent => .inr ⟨rfl, ?_⟩⟩
    -- all three keys are absent
    cases esalt <;> cases ehash <;> cases eiter <;> simp at habsent
    exact ⟨hblob, nvsGetBlob_notFound hsalt, nvsGetBlob_notFound hhash, nvsGet_notFound hiter⟩
  all_goals
    obtain ⟨rfl, rfl⟩ := Prod.mk.inj h
    exact ⟨rfl, by simp⟩

/-- **A successful load** gives what is stored, or finds that nothing is, whatever the variables
held before. -/
theorem initAdminCredentials_loads (h : s.initAdminCredentials reads = (s', ok)) :
    s'.nvs = s.nvs ∧ (ok = true → s'.Loaded) := by
  unfold initAdminCredentials at h
  split_ifs at h with hopen
  · obtain ⟨rfl, rfl⟩ := Prod.mk.inj h
    exact ⟨rfl, nofun⟩
  · cases hread : nvsGet reads.credentialsFails s.nvs.credentials with
    | ok blob =>
      simp only [hread] at h
      split_ifs at h with hwhole
      · obtain ⟨rfl, rfl⟩ := Prod.mk.inj h
        refine ⟨rfl, fun _ => .inl ⟨rfl, ?_⟩⟩
        simp [AdminNvs.password, nvsGet_ok hread, hwhole, credentials]
      · obtain ⟨rfl, rfl⟩ := Prod.mk.inj h
        exact ⟨rfl, nofun⟩
    | error err =>
      by_cases hnone : err = .nvsNotFound
      · subst hnone
        simp only [hread] at h
        exact loadLegacy_loads (nvsGet_notFound hread) h
      · have hfalse : (s, false) = (s', ok) := by
          rw [← h, hread]
          cases err <;> first | rfl | exact absurd rfl hnone
        obtain ⟨rfl, rfl⟩ := Prod.mk.inj hfalse
        exact ⟨rfl, nofun⟩

/-! ### What a request does -/

theorem foldl_or_eq_zero_iff (l : List UInt8) (a : UInt8) :
    l.foldl (· ||| ·) a = 0 ↔ a = 0 ∧ ∀ x ∈ l, x = 0 := by
  induction l generalizing a with
  | nil => simp
  | cons b l ih => rw [List.foldl_cons, ih, UInt8.or_eq_zero_iff, List.forall_mem_cons, and_assoc]

theorem hashDifference_eq_zero_iff (a b : AdminHash) : hashDifference a b = 0 ↔ a = b := by
  have hlists : ∀ l l' : List UInt8, l.length = l'.length →
      ((∀ x ∈ (l.zip l').map fun x => x.1 ^^^ x.2, x = 0) ↔ l = l') := by
    intro l
    induction l with
    | nil =>
      intro l' hlength
      simp [List.length_eq_zero_iff.1 hlength.symm]
    | cons c l ih =>
      intro l' hlength
      cases l' with
      | nil => cases hlength
      | cons c' l' =>
        rw [List.zip_cons_cons, List.map_cons, List.forall_mem_cons, ih l' (by simpa using hlength),
          UInt8.xor_eq_zero_iff, List.cons.injEq]
  rw [hashDifference, foldl_or_eq_zero_iff, hlists _ _ (by simp), Vector.toList_inj]
  simp

/-- **A request is let through** if a password is set and the hash derived from the header is its.
-/
theorem authorizeMutation_eq_none_iff {kdf : Kdf} {token : Header} {kdfOk : Bool} :
    s.authorizeMutation kdf token kdfOk = none ↔
      s.passwordSet = true ∧ token.valueLen ≠ 0 ∧ token.valueLen ≤ adminPasswordMaxLen ∧
        token.readErr = .ok ∧ kdfOk = true ∧ kdf token.valueStr s.salt s.iterations = s.hash := by
  unfold authorizeMutation hashAdminPassword
  cases s.passwordSet with
  | false => simp
  | true =>
    by_cases hheader : token.valueLen = 0 ∨ adminPasswordMaxLen < token.valueLen ∨
        token.readErr ≠ .ok
    · simp only [Bool.not_true, Bool.false_eq_true, if_false, if_pos hheader]
      refine iff_of_false nofun ?_
      rintro ⟨-, hsome, hfits, hread, -⟩
      rcases hheader with hnone | hlong | herr
      · exact hsome hnone
      · exact hlong.not_ge hfits
      · exact herr hread
    · obtain ⟨hsome, hfits, hread⟩ : token.valueLen ≠ 0 ∧ token.valueLen ≤ adminPasswordMaxLen ∧
          token.readErr = .ok := by simpa [not_or] using hheader
      cases kdfOk with
      | false => simp [hsome, hread, not_lt.2 hfits]
      | true => simp [hsome, hread, hfits, not_lt.2 hfits, hashDifference_eq_zero_iff]

variable {kdf : Kdf} {changing : Bool} {r : PasswordRequest} {reply : HttpReply}

theorem authorizeMutation_isError {token : Header} {kdfOk : Bool}
    (h : s.authorizeMutation kdf token kdfOk = some reply) : reply.IsError := by
  unfold authorizeMutation at h
  split_ifs at h
  · cases h; trivial
  · cases h; trivial
  · split at h
    · cases h; trivial
    · split_ifs at h
      cases h
      trivial

/-- The state with a new password. -/
def withPassword (s : Admin) (c : AdminCredentials) : Admin :=
  { s with
    salt := c.salt, hash := c.hash, iterations := c.iterations, passwordSet := true
    nvs := { s.nvs with credentials := some ⟨adminCredentialsSize, c⟩ } }

/-- The credentials that a request makes of a password. -/
def newCredentials (kdf : Kdf) (p : CStr) (r : PasswordRequest) : AdminCredentials :=
  ⟨adminPasswordPbkdf2Iterations, r.salt, kdf p r.salt adminPasswordPbkdf2Iterations⟩

end Admin

/-- The body of a request is a password that can be sent in a header. -/
structure PasswordRequest.Password (r : PasswordRequest) (p : CStr) : Prop where
  body : recvBody r.body.contentLen.toNat r.body.chunks = some p
  min_len : adminPasswordMinLen ≤ p.length
  max_len : p.length ≤ adminPasswordMaxLen
  printable : ∀ c ∈ p, 0x20 ≤ c ∧ c ≤ 0x7e
  first : peek p ≠ byte ' '
  last : p.getLastD 0 ≠ byte ' '

/-- What a password request does. -/
inductive Admin.Writes (s : Admin) (kdf : Kdf) (changing : Bool) (r : PasswordRequest)
    (s' : Admin) (reply : HttpReply) : Prop
  /-- It is refused, and nothing changes. -/
  | refused (herr : reply.IsError) (hs : s' = s)
  /-- The write fails and has changed the storage all the same. -/
  | stored (herr : reply.IsError) (hanyway : r.write.storedAnyway = true) (nvs : AdminNvs)
      (hs : s' = { s with nvs })
  /-- The new password is in force and stored. -/
  | saved (p : CStr) (hp : r.Password p) (hreply : reply = .text "ok")
      (hright : if changing then s.authorizeMutation kdf r.token r.tokenKdf = none
        else s.passwordSet = false)
      (hs : s' = s.withPassword (newCredentials kdf p r))

namespace Admin

variable {s s' : Admin} {kdf : Kdf} {changing : Bool} {r : PasswordRequest} {reply : HttpReply}

theorem savePassword_cases {p : CStr} (h : s.savePassword kdf p r = (s', reply)) :
    (reply.IsError ∧ s' = s) ∨
    (reply.IsError ∧ r.write.storedAnyway = true ∧ ∃ nvs, s' = { s with nvs }) ∨
    (reply = .text "ok" ∧ s' = s.withPassword (newCredentials kdf p r)) := by
  unfold savePassword hashAdminPassword at h
  cases hkdf : r.kdfOk with
  | false =>
    simp only [hkdf, Bool.false_eq_true, if_false] at h
    obtain ⟨rfl, rfl⟩ := Prod.mk.inj h
    exact .inl ⟨trivial, rfl⟩
  | true =>
    simp only [hkdf, if_true] at h
    by_cases herr : r.write.err = .ok
    · simp only [herr, r.write.stores_of_err herr, if_true, ne_eq, not_true, if_false] at h
      obtain ⟨rfl, rfl⟩ := Prod.mk.inj h
      exact .inr (.inr ⟨rfl, rfl⟩)
    · simp only [ne_eq, herr, not_false_eq_true, if_true] at h
      obtain ⟨rfl, rfl⟩ := Prod.mk.inj h
      by_cases hstores : r.write.stores = true
      · have hanyway : r.write.storedAnyway = true := by
          unfold NvsWrite.stores at hstores
          split_ifs at hstores
          simpa [herr] using hstores
        exact .inr (.inl ⟨trivial, hanyway, _, rfl⟩)
      · rw [if_neg hstores]
        exact .inl ⟨trivial, rfl⟩

/-- **A password request** is refused and changes nothing, or saves a new password. -/
theorem adminWritePassword_cases (h : s.adminWritePassword kdf changing r = (s', reply)) :
    s.Writes kdf changing r s' reply := by
  unfold adminWritePassword at h
  cases hgate : if changing then s.authorizeMutation kdf r.token r.tokenKdf else none with
  | some refusal =>
    simp only [hgate] at h
    obtain ⟨rfl, rfl⟩ := Prod.mk.inj h
    cases changing with
    | false => cases hgate
    | true => exact .refused (authorizeMutation_isError hgate) rfl
  | none =>
    simp only [hgate] at h
    split_ifs at h with hset hpage hlen
    iterate 3
      obtain ⟨rfl, rfl⟩ := Prod.mk.inj h
      exact .refused trivial rfl
    cases hbody : recvBody r.body.contentLen.toNat r.body.chunks with
    | none =>
      simp only [hbody] at h
      obtain ⟨rfl, rfl⟩ := Prod.mk.inj h
      exact .refused trivial rfl
    | some p =>
      simp only [hbody] at h
      split_ifs at h with hprintable hspace
      · obtain ⟨rfl, rfl⟩ := Prod.mk.inj h
        exact .refused trivial rfl
      · obtain ⟨rfl, rfl⟩ := Prod.mk.inj h
        exact .refused trivial rfl
      · have hp : r.Password p := by
          have hlength := recvBody_length hbody
          obtain ⟨hfirst, hlast⟩ := not_or.1 hspace
          refine ⟨hbody, by omega, by omega, ?_, hfirst, hlast⟩
          intro c hc
          have hin : ¬ (c < 0x20 ∨ 0x7e < c) := fun hout =>
            hprintable (List.any_eq_true.2 ⟨c, hc, by simpa using hout⟩)
          exact ⟨UInt8.not_lt.1 fun h => hin (.inl h), UInt8.not_lt.1 fun h => hin (.inr h)⟩
        have hright : if changing then s.authorizeMutation kdf r.token r.tokenKdf = none
            else s.passwordSet = false := by
          cases changing with
          | false => simpa using hset
          | true => exact hgate
        rcases savePassword_cases h with ⟨herr, hs⟩ | ⟨herr, hany, nvs, hs⟩ | ⟨hreply, hs⟩
        · exact .refused herr hs
        · exact .stored herr hany nvs hs
        · exact .saved p hp hreply hright hs

end Admin

/-! ### What a step does -/

/-- The four kinds of steps. -/
inductive Admin.Steps (kdf : Kdf) (s : Admin) (l : AdminCall × Option HttpReply) (s' : Admin) : Prop
  | password (changing : Bool) (r : PasswordRequest) (reply : HttpReply)
      (hcall : l.1 = if changing then .changePassword r else .setPassword r)
      (hserving : s.serving = true) (hreply : l.2 = some reply)
      (hwrites : s.Writes kdf changing r s' reply)
  | authorize (token : Header) (kdfOk : Bool) (hcall : l.1 = .authorize token kdfOk)
      (hreply : l.2 = s.authorizeMutation kdf token kdfOk) (hs : s' = s)
  | reboot (hcall : l.1 = .reboot) (hreply : l.2 = none) (hs : s' = .boot s.nvs)
  | attempt (reads : AdminReads) (started : Bool) (hcall : l.1 = .bootAttempt reads started)
      (hreply : l.2 = none) (loaded : Admin) (ok : Bool)
      (hinit : s.initAdminCredentials reads = (loaded, ok))
      (hs : s' = { loaded with serving := ok && started })

theorem admin_steps {kdf : Kdf} {e : AdminStep}
    (h : (admin kdf).toLTS.step e.src e.label e.dst) : e.src.Steps kdf e.label e.dst := by
  obtain ⟨s, ⟨call, reply⟩, s'⟩ := e
  replace h : s.step kdf call = some (s', reply) := h
  unfold Admin.step at h
  cases call with
  | setPassword r =>
    simp only at h
    split_ifs at h with hserving
    obtain ⟨rfl, rfl⟩ := Prod.mk.inj (Option.some.inj h)
    exact .password false r _ rfl hserving rfl (Admin.adminWritePassword_cases rfl)
  | changePassword r =>
    simp only at h
    split_ifs at h with hserving
    obtain ⟨rfl, rfl⟩ := Prod.mk.inj (Option.some.inj h)
    exact .password true r _ rfl hserving rfl (Admin.adminWritePassword_cases rfl)
  | authorize token kdfOk =>
    simp only at h
    split_ifs at h with hserving
    obtain ⟨rfl, rfl⟩ := Prod.mk.inj (Option.some.inj h)
    exact .authorize token kdfOk rfl rfl rfl
  | reboot =>
    obtain ⟨rfl, rfl⟩ := Prod.mk.inj (Option.some.inj h)
    exact .reboot rfl rfl rfl
  | bootAttempt reads started =>
    simp only at h
    split_ifs at h with hserving
    obtain ⟨rfl, rfl⟩ := Prod.mk.inj (Option.some.inj h)
    exact .attempt reads started rfl rfl _ _ rfl rfl

end GdoBlaq
