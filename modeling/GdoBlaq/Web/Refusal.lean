import GdoBlaq.Web.Confirm
import GdoBlaq.Web.Credentials
import GdoBlaq.Web.Server

/-!
# Without the password

Once a password is set, requests that do not carry it change nothing but a pending upload that has
expired, and learn nothing of the log and of the activity history.

## Main results

* `unchanged_run` : what a run of such requests leaves as it was.
* `alike_step` : what servers with different logs and histories answer to such a request.
* `nothing_without_password` : both, over every sequence of requests.
-/

namespace GdoBlaq

/-- The request carries no header that `authorize_mutation` accepts. -/
def ServerStep.Refused (kdf : Kdf) (e : ServerStep) : Prop :=
  e.src.admin.authorizeMutation kdf e.label.1.token e.label.1.tokenKdf ≠ none

/-- A look at `/status` at or after the expiry of an upload that was validated at `since`. -/
def Expires (since : ℤ) (e : ServerStep) : Prop :=
  ∃ i, e.label.1.uri = .status i ∧ otaConfirmExpiryMs ≤ i.slots.t - since

/-- What a run leaves as it was: the settings with the close generation, what is stored of them, the
password, the eligible slots, and all that has been done to the slots, to the boot choice and for a
restart.  A pending upload is at most forgotten once it has expired. -/
structure Server.Unchanged (s : Server) (es : List ServerStep) (s' : Server) : Prop where
  fw : s'.fw = s.fw
  nvs : s'.nvs = s.nvs
  admin : s'.admin = s.admin
  done : s'.done = s.done
  slots : s'.ota.slots = s.ota.slots
  pending : s'.ota = s.ota ∨ s'.ota = s.ota.otaClearPending ∧
    (s.ota.pendingPartition = none ∨ ∃ e ∈ es, Expires s.ota.pendingSinceMs e)

/-- Two servers that differ in the bytes of their logs and in their activity histories only. -/
structure Server.Alike (s t : Server) : Prop where
  fw : t.fw = s.fw
  nvs : t.nvs = s.nvs
  admin : t.admin = s.admin
  ota : t.ota = s.ota
  done : t.done = s.done
  logScratch : t.logScratch = s.logScratch
  log : t.log.SameFill s.log

section Refused

variable {kdf : Kdf} {fits : StatusBody → Bool} {s t : Server} {e : ServerStep}
  {es : List ServerStep} {r : HttpRequest}

/-- Looking at `/status` forgets an upload that has expired. -/
theorem statusGetHandler_ota (s : Ota) (q : StatusQuery) :
    (s.statusGetHandler q).1 = s ∨ (s.statusGetHandler q).1 = s.otaClearPending ∧
      (s.pendingPartition = none ∨ otaConfirmExpiryMs ≤ q.t - s.pendingSinceMs) := by
  unfold Ota.statusGetHandler
  cases hpart : s.pendingPartition with
  | none => exact .inr ⟨by simp, .inl rfl⟩
  | some p =>
    by_cases hleft : otaConfirmExpiryMs - (q.t - s.pendingSinceMs) ≤ 0
    · exact .inr ⟨by simp [hleft], .inr (by omega)⟩
    · exact .inl (by simp [hleft])

theorem server_step (h : (server kdf fits).toLTS.step e.src e.label e.dst) :
    e.src.step kdf fits e.label.1 = (e.dst, e.label.2) :=
  Option.some.inj h

theorem statusGetHandler_state (s : Server) (i : StatusInput) :
    (s.statusGetHandler fits i).1 =
      { s with ota := (s.ota.statusGetHandler { i.slots with fits := true }).1 } := by
  unfold Server.statusGetHandler
  generalize s.ota.statusGetHandler { i.slots with fits := true } = res
  obtain ⟨ota, r⟩ := res
  dsimp only
  split <;> rfl

/-- **A request that is not let through** changes nothing, except that `/status` may forget an
upload that has expired. -/
theorem refused_step (fits : StatusBody → Bool) (hset : s.admin.passwordSet = true)
    (href : s.admin.authorizeMutation kdf r.token r.tokenKdf ≠ none) :
    ∃ ota, (s.step kdf fits r).1 = { s.meanwhile r with ota } ∧
      (ota = s.ota ∨ ota = s.ota.otaClearPending ∧ (s.ota.pendingPartition = none ∨
        ∃ i, r.uri = .status i ∧ otaConfirmExpiryMs ≤ i.slots.t - s.ota.pendingSinceMs)) := by
  obtain ⟨refusal, href⟩ := Option.ne_none_iff_exists'.1 href
  have hhandle : (s.meanwhile r).handle kdf fits r (some refusal) = _ :=
    Server.handle_refused hset href
  unfold Server.step
  rw [href, hhandle]
  cases huri : r.uri with
  | status i =>
    refine ⟨_, statusGetHandler_state _ i, ?_⟩
    rcases statusGetHandler_ota s.ota { i.slots with fits := true } with hsame | ⟨hclear, hold⟩
    · exact .inl hsame
    · exact .inr ⟨hclear, hold.imp_right fun hold => ⟨i, rfl, hold⟩⟩
  | _ => exact ⟨s.ota, rfl, .inl rfl⟩

/-- **Nothing is changed** by requests that do not carry the password. -/
theorem unchanged_run (hrun : (server kdf fits).toLTS.Trace s es t)
    (hset : s.admin.passwordSet = true) (href : ∀ e ∈ es, ServerStep.Refused kdf e) :
    s.Unchanged es t := by
  refine hrun.history (I := fun es t => s.Unchanged es t)
    ⟨rfl, rfl, rfl, rfl, rfl, .inl rfl⟩ fun pre e hpre hst ih => ?_
  have hmem : e ∈ es := hpre.subset (by simp)
  have hset' : e.src.admin.passwordSet = true := by rw [ih.admin, hset]
  obtain ⟨ota, hdst, hota⟩ := refused_step fits hset' (href e hmem)
  rw [server_step hst] at hdst
  replace hdst : e.dst = { e.src.meanwhile e.label.1 with ota } := hdst
  obtain rfl : e.dst.ota = ota := congrArg Server.ota hdst
  have hslots : e.dst.ota.slots = e.src.ota.slots := by
    rcases hota with hsame | ⟨hclear, -⟩
    · rw [hsame]
    · rw [hclear]
      rfl
  refine ⟨?_, ?_, ?_, ?_, hslots.trans ih.slots, ?_⟩
  · rw [hdst]; exact ih.fw
  · rw [hdst]; exact ih.nvs
  · rw [hdst]; exact ih.admin
  · rw [hdst]; exact ih.done
  · have hwiden : (∃ a ∈ pre, Expires s.ota.pendingSinceMs a) →
        ∃ a ∈ pre ++ [e], Expires s.ota.pendingSinceMs a := by
      rintro ⟨a, ha, hexp⟩
      exact ⟨a, List.mem_append_left _ ha, hexp⟩
    rcases ih.pending with hsrc | ⟨hsrc, hold⟩
    · rw [hsrc] at hota
      refine hota.imp_right fun hclear => ⟨hclear.1, hclear.2.imp_right ?_⟩
      rintro ⟨i, huri, hexp⟩
      exact ⟨e, by simp, i, huri, hexp⟩
    · -- what has been forgotten stays so
      refine .inr ⟨?_, hold.imp_right hwiden⟩
      rcases hota with hsame | ⟨hclear, -⟩
      · rw [hsame, hsrc]
      · rw [hclear, hsrc]
        rfl

theorem Server.Alike.meanwhile (h : s.Alike t) (r : HttpRequest) :
    (s.meanwhile r).Alike (t.meanwhile r) := by
  refine ⟨h.fw, h.nvs, h.admin, h.ota, h.done, h.logScratch, ?_⟩
  have hlogs : ∀ (lines : List (List UInt8 × Bool)) (l l' : LogRing), l.SameFill l' →
      (lines.foldl (fun log line => log.ringVprintf line.1 line.2) l).SameFill
        (lines.foldl (fun log line => log.ringVprintf line.1 line.2) l') := by
    intro lines
    induction lines with
    | nil => exact fun _ _ h => h
    | cons line lines ih => exact fun l l' h => ih _ _ (h.ringVprintf line.1 line.2)
  exact hlogs r.logged t.log s.log h.log

/-- `/status` answers the same from servers that are alike. -/
theorem Server.Alike.statusGetHandler (h : s.Alike t) (i : StatusInput) :
    (t.statusGetHandler fits i).2 = (s.statusGetHandler fits i).2 ∧
      (s.statusGetHandler fits i).1.Alike (t.statusGetHandler fits i).1 := by
  have hbody : ∀ slots, t.statusBody i slots = s.statusBody i slots := fun slots => by
    simp only [Server.statusBody, h.fw, h.admin, h.log.used_eq, h.log.capacity]
  constructor
  · unfold Server.statusGetHandler
    rw [h.ota]
    simp only [hbody]
    split <;> rfl
  · rw [statusGetHandler_state, statusGetHandler_state, h.ota]
    exact ⟨h.fw, h.nvs, h.admin, rfl, h.done, h.logScratch, h.log⟩

/-- **Nothing is told** to a request that is not let through: servers that are alike answer the
same, and are alike afterwards. -/
theorem alike_step (fits : StatusBody → Bool) (h : s.Alike t)
    (hset : s.admin.passwordSet = true)
    (href : s.admin.authorizeMutation kdf r.token r.tokenKdf ≠ none) :
    (t.step kdf fits r).2 = (s.step kdf fits r).2 ∧
      (s.step kdf fits r).1.Alike (t.step kdf fits r).1 := by
  obtain ⟨refusal, href⟩ := Option.ne_none_iff_exists'.1 href
  have hsame := h.meanwhile r
  have hset' : (t.meanwhile r).admin.passwordSet = true := by rw [hsame.admin]; exact hset
  have href' : (t.meanwhile r).admin.authorizeMutation kdf r.token r.tokenKdf = some refusal := by
    rw [hsame.admin]
    exact href
  unfold Server.step
  rw [h.admin, href, Server.handle_refused hset' href',
    Server.handle_refused (s := s.meanwhile r) hset href]
  cases r.uri with
  | status i => exact hsame.statusGetHandler i
  | _ => exact ⟨rfl, hsame⟩

end Refused

/-- **Nothing without the password.**  From every state in which a password is set, and for every
sequence of requests of which none carries a header that `authorize_mutation` accepts: nothing is
changed but a pending upload that has expired, and a server that differs in the bytes of its log and
in its activity history only gives the same answers. -/
theorem nothing_without_password (kdf : Kdf) (fits : StatusBody → Bool) {s : Server}
    (reqs : List HttpRequest) (hset : s.admin.passwordSet = true)
    (href : ∀ e ∈ (server kdf fits).edges s reqs, ServerStep.Refused kdf e) :
    s.Unchanged ((server kdf fits).edges s reqs) ((server kdf fits).last s reqs) ∧
    ∀ t, s.Alike t → ((server kdf fits).edges t reqs).map LTS.Edge.label =
      ((server kdf fits).edges s reqs).map LTS.Edge.label := by
  have hrun := (server kdf fits).trace_edges s reqs
  refine ⟨unchanged_run hrun hset href, ?_⟩
  intro t ht
  refine (server kdf fits).labels_eq (I := Server.Alike) ht (fun _ _ _ _ h => nomatch h) ?_
  intro e he t' halike
  -- the password is still set
  obtain ⟨pre, post, hes⟩ := List.append_of_mem he
  rw [hes] at hrun
  obtain ⟨hpre, hst, -⟩ := LTS.Trace.at_edge_iff.1 hrun
  have hset' : e.src.admin.passwordSet = true := by
    have hkept := unchanged_run hpre hset fun a ha =>
      href a (hes ▸ List.mem_append_left _ ha)
    rw [hkept.admin, hset]
  obtain ⟨hreply, hrel⟩ := alike_step fits halike hset' (href e he)
  rw [server_step hst] at hreply hrel
  exact ⟨_, congrArg some (Prod.ext rfl hreply), hrel⟩

/-- A log of four bytes of which two have been written. -/
def someLog (c : UInt8) : LogRing := ⟨[c, c, 0, 0], 2, false, fun _ => by simp⟩

/-- A server with a password and a pending upload. -/
def enrolledServer (log : LogRing) (activity : ActivityHistory) : Server where
  fw := {}
  nvs := {}
  admin := (admin pbkdf2Of).last (.boot {}) enrolled
  ota := ⟨false, some otherSlot, 1000, lit "1.4.0", fun _ => none⟩
  log := log
  activity := activity

/-- A look at `/status` when the upload has expired. -/
def lateStatus : StatusInput where
  slots := { running := none, runningDesc := none, other := none, otherDesc := none, t := 601000 }
  now := 601000
  opener := GdoStatus.idle .closed 10000 10000
  openings := 7
  battery := "Full"
  uptimeS := 601
  freeHeap := 100000
  minFreeHeap := 90000
  wifiRssi := some (-60)
  ipAddress := "192.168.1.20"
  hapSessions := 0
  lastResetReason := "Power-on"
  clockSynced := false
  localTime := "unsynced"
  rxErrorCount := 0
  longObstructionCount := 0

/-- Requests with the wrong password or with none; the second one is logged. -/
def strangers : List HttpRequest :=
  [{ token := { value := lit "wrong horse" }, uri := .restart true },
    { logged := [(lit "x", true)], uri := .logs {} },
    { uri := .status lateStatus },
    { uri := .setPassword firstPassword },
    { uri := .activity true }]

theorem nothing_without_password_strangers :
    let s := enrolledServer (someLog 65) {}
    let t := enrolledServer (someLog 66) { count := 1 }
    let run := (server pbkdf2Of fun _ => true).edges
    ((server pbkdf2Of fun _ => true).last s strangers).fw.closeGeneration = 0 ∧
      (run t strangers).map LTS.Edge.label = (run s strangers).map LTS.Edge.label := by
  intro s t run
  have href : ∀ e ∈ run s strangers, ServerStep.Refused pbkdf2Of e := by
    unfold ServerStep.Refused
    decide +kernel
  have h := nothing_without_password pbkdf2Of (fun _ => true) strangers (s := s) (by decide +kernel)
    href
  refine ⟨congrArg Firmware.closeGeneration h.1.fw, h.2 t ?_⟩
  exact ⟨rfl, rfl, rfl, rfl, rfl, rfl, ⟨rfl, rfl⟩⟩

end GdoBlaq
