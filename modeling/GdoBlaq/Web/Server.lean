import GdoBlaq.Control.Automatic
import GdoBlaq.Web.Admin
import GdoBlaq.Web.Diagnostics

/-!
# The web server

All sixteen handlers that `start_httpd_server` registers, over all that they read and write: the
settings and the generation of the door control, the password, the firmware slots, the log and the
activity history.

What `authorize_mutation` makes of the header of a request is worked out once, before the handler,
which answers with it where it asks.

## Main results

* `server` : the machine that serves one request after the other.
* `Server.handle_refused` : what each handler does with a request that is not let through.
-/

namespace GdoBlaq

/-! ### Data -/

/-- All that the web server reads and writes. -/
structure Server where
  fw : Firmware
  nvs : Nvs
  admin : Admin
  ota : Ota
  /-- What the handlers have done, in order, to the slots, to the boot choice and for a restart. -/
  done : List OtaOp := []
  log : LogRing
  /-- `s_log_scratch` and its mutex are there. -/
  logScratch : Bool := true
  activity : ActivityHistory := {}

/-- What `/status` reads beside the variables. -/
structure StatusInput where
  slots : StatusQuery
  /-- `now_ms()` of the auto-close countdown. -/
  now : ℤ
  /-- `gdo_get_status` -/
  opener : GdoStatus
  openings : ℕ
  battery : String
  uptimeS : ℤ
  freeHeap : ℕ
  minFreeHeap : ℕ
  /-- `esp_wifi_sta_get_ap_info` -/
  wifiRssi : Option ℤ
  ipAddress : String
  hapSessions : ℤ
  lastResetReason : String
  /-- The lock of the log is free in time. -/
  logTaken : Bool := true
  clockSynced : Bool
  localTime : String
  rxErrorCount : ℕ
  longObstructionCount : ℕ
  deriving DecidableEq

/-- What `/status` prints, in its order. -/
structure StatusBody where
  door : DoorState
  light : LightState
  lock : LockState
  obstruction : ObstructionState
  motion : MotionState
  protocol : Protocol
  gdoSynced : Bool
  uptimeS : ℤ
  freeHeap : ℕ
  minFreeHeap : ℕ
  wifiRssi : ℤ
  wifiRssiPct : ℤ
  wifiConnected : Bool
  ipAddress : String
  hapSessions : ℤ
  lastResetReason : String
  logBufferUsed : ℕ
  logBufferCapacity : ℕ
  autoCloseEnabled : Bool
  autoCloseMinutes : ℕ
  preCloseBuzzer : Bool
  autoCloseRemainingS : ℤ
  closeScheduleEnabled : Bool
  /-- Hour and minute. -/
  closeScheduleTime : ℕ × ℕ
  timezone : CStr
  clockSynced : Bool
  localTime : String
  rxErrorCount : ℕ
  longObstructionCount : ℕ
  openings : ℕ
  battery : String
  slots : OtaStatus
  passwordSet : Bool
  pairingFault : Bool
  deriving DecidableEq

/-- What a log request meets. -/
structure LogInput where
  /-- The mutex of the scratch buffer is free in time. -/
  scratchTaken : Bool := true
  logTaken : Bool := true
  deriving DecidableEq

/-- A registered handler, with what its request brings and meets. -/
inductive HttpUri where
  | root
  | status (i : StatusInput)
  | logs (i : LogInput)
  | logsDownload (i : LogInput)
  | favicon
  | restart (created : Bool)
  | preCloseBuzzer (req : FormRequest) (write : NvsWrite)
  | autoClose (req : FormRequest) (timeoutWrite enabledWrite : NvsWrite)
  | closeSchedule (req : FormRequest) (write : NvsWrite) (applied restored : Bool)
  | firmwareUpdate (contentLen : BitVec 32) (u : Upload)
  | firmwareConfirm (c : Confirm)
  | firmwareCancel
  | firmwareRollback (r : Rollback)
  | setPassword (r : PasswordRequest)
  | changePassword (r : PasswordRequest)
  /-- The answer can be put together. -/
  | activity (alloc : Bool)
  deriving DecidableEq

/-- A request. -/
structure HttpRequest where
  /-- `X-GDO-Token` -/
  token : Header := {}
  /-- The derivation from the token succeeds. -/
  tokenKdf : Bool := true
  /-- The lines logged since the last request, and whether the lock was free for each. -/
  logged : List (List UInt8 × Bool) := []
  /-- What was recorded since, also by the settings and the firmware pages themselves. -/
  noted : List ActivityNote := []
  uri : HttpUri
  deriving DecidableEq

/-- The answer to a request. -/
inductive HttpResponse where
  | reply (r : HttpReply)
  /-- The page, which is always the same. -/
  | page
  | noContent
  | status (b : StatusBody)
  | log (asAttachment : Bool) (bytes : List UInt8)
  | activity (entries : List ActivityEntry)
  deriving DecidableEq

instance : Inhabited HttpResponse := ⟨.noContent⟩

/-! ### Handlers -/

/-- The answer to a request that `authorize_mutation` may have answered. -/
def HttpReply.orRefusal (refusal : Option HttpReply) (reply : HttpReply) : HttpReply :=
  match reply with
  | .unauthorized => refusal.getD reply
  | reply => reply

/-- `rssi_pct`, of a signal strength in dBm. -/
def rssiPct (rssi : ℤ) : ℤ :=
  if rssi ≤ -100 then 0 else if -50 ≤ rssi then 100 else (rssi + 100) * 2

namespace Server

/-- What is logged and recorded meanwhile. -/
def meanwhile (s : Server) (r : HttpRequest) : Server :=
  { s with
    log := r.logged.foldl (fun log line => log.ringVprintf line.1 line.2) s.log
    activity := r.noted.foldl ActivityHistory.activityRecord s.activity }

/-- A handler of a settings page, which leaves the settings, the storage and its answer. -/
def settings (s : Server) (refusal : Option HttpReply) (saved : Firmware × Nvs × HttpReply) :
    Server × HttpResponse :=
  ({ s with fw := saved.1, nvs := saved.2.1 }, .reply (saved.2.2.orRefusal refusal))

/-- A handler of `Ota.lean`. -/
def firmware (s : Server) (refusal : Option HttpReply) (c : OtaCall) : Server × HttpResponse :=
  let (ota, r) := s.ota.step c
  ({ s with ota, done := s.done ++ r.ops }, .reply ((r.http.getD .empty).orRefusal refusal))

/-- A password handler. -/
def password (s : Server) (kdf : Kdf) (changing : Bool) (r : PasswordRequest) :
    Server × HttpResponse :=
  let (admin, reply) := s.admin.adminWritePassword kdf changing r
  ({ s with admin }, .reply reply)

/-- `restart_post_handler` -/
def restartPostHandler (s : Server) (refusal : Option HttpReply) (created : Bool) :
    Server × HttpResponse :=
  match refusal with
  | some refusal => (s, .reply refusal)
  | none =>
    ({ s with done := s.done ++ [.createRestartTask created] }, .reply (.text "Restarting..."))

/-- `send_log_buffer` -/
def sendLogBuffer (s : Server) (refusal : Option HttpReply) (asAttachment : Bool) (i : LogInput) :
    HttpResponse :=
  match refusal with
  | some refusal => .reply refusal
  | none =>
    if s.log.capacity = 0 || !s.logScratch then .reply (.text "Log buffer not initialized.")
    else if !i.scratchTaken then .reply .serverError
    else .log asAttachment (s.log.read s.log.capacity i.logTaken)

/-- `activity_get_handler` -/
def activityGetHandler (s : Server) (refusal : Option HttpReply) (alloc : Bool) : HttpResponse :=
  match refusal with
  | some refusal => .reply refusal
  | none =>
    if !alloc then .reply .serverError
    else .activity (s.activity.activityRead activityHistoryCapacity)

/-- What `/status` prints, given what it says about the slots. -/
def statusBody (s : Server) (i : StatusInput) (slots : OtaStatus) : StatusBody where
  door := s.fw.lastDoor
  light := s.fw.seen.lastLight
  lock := s.fw.seen.lastLock
  obstruction := s.fw.lastObstruction
  motion := s.fw.seen.lastMotion
  protocol := i.opener.protocol
  gdoSynced := i.opener.synced
  uptimeS := i.uptimeS
  freeHeap := i.freeHeap
  minFreeHeap := i.minFreeHeap
  wifiRssi := i.wifiRssi.getD 0
  wifiRssiPct := (i.wifiRssi.map rssiPct).getD 0
  wifiConnected := i.wifiRssi.isSome
  ipAddress := i.ipAddress
  hapSessions := i.hapSessions
  lastResetReason := i.lastResetReason
  logBufferUsed := s.log.used i.logTaken
  logBufferCapacity := s.log.capacity
  autoCloseEnabled := s.fw.autoCloseEnabled
  autoCloseMinutes := s.fw.autoCloseTimeoutMs / 60000
  preCloseBuzzer := s.fw.buzzerEnabled
  autoCloseRemainingS :=
    let remainingMs := gdoGetAutoCloseRemainingMs s.fw i.now
    if remainingMs < 0 then -1 else remainingMs / 1000
  closeScheduleEnabled := s.fw.closeSchedule.enabled
  closeScheduleTime := (s.fw.closeSchedule.minute / 60, s.fw.closeSchedule.minute % 60)
  timezone := cstr s.fw.closeSchedule.tz
  clockSynced := i.clockSynced
  localTime := i.localTime
  rxErrorCount := i.rxErrorCount
  longObstructionCount := i.longObstructionCount
  openings := i.openings
  battery := i.battery
  slots := slots
  passwordSet := s.admin.passwordSet
  pairingFault := s.fw.link.gdoPairingFault

/-- `status_get_handler`; `fits` says whether what it prints fits its buffer. -/
def statusGetHandler (fits : StatusBody → Bool) (s : Server) (i : StatusInput) :
    Server × HttpResponse :=
  let (ota, r) := s.ota.statusGetHandler { i.slots with fits := true }
  match r.http with
  | some (.status slots) =>
    let body := s.statusBody i slots
    ({ s with ota }, if fits body then .status body else .reply .empty)
  | reply => ({ s with ota }, .reply (reply.getD .empty))

/-- A request to a handler, with the answer of `authorize_mutation` if that turns it down. -/
def handle (kdf : Kdf) (fits : StatusBody → Bool) (s : Server) (r : HttpRequest)
    (refusal : Option HttpReply) : Server × HttpResponse :=
  match r.uri with
  | .root => (s, .page)
  | .status i => s.statusGetHandler fits i
  | .logs i => (s, s.sendLogBuffer refusal false i)
  | .logsDownload i => (s, s.sendLogBuffer refusal true i)
  | .favicon => (s, .noContent)
  | .restart created => s.restartPostHandler refusal created
  | .preCloseBuzzer req write =>
    s.settings refusal (preCloseBuzzerPostHandler s.fw s.nvs refusal.isNone req write)
  | .autoClose req timeoutWrite enabledWrite =>
    s.settings refusal
      (autoCloseSettingsPostHandler s.fw s.nvs refusal.isNone req timeoutWrite enabledWrite)
  | .closeSchedule req write applied restored =>
    s.settings refusal
      (closeSchedulePostHandler s.fw s.nvs refusal.isNone req write applied restored)
  | .firmwareUpdate contentLen u => s.firmware refusal (.upload refusal.isNone contentLen u)
  | .firmwareConfirm c => s.firmware refusal (.confirm refusal.isNone c)
  | .firmwareCancel => s.firmware refusal (.cancel refusal.isNone)
  | .firmwareRollback c => s.firmware refusal (.rollback refusal.isNone c)
  | .setPassword p => s.password kdf false { p with token := r.token, tokenKdf := r.tokenKdf }
  | .changePassword p => s.password kdf true { p with token := r.token, tokenKdf := r.tokenKdf }
  | .activity alloc => (s, s.activityGetHandler refusal alloc)

/-- One request. -/
def step (kdf : Kdf) (fits : StatusBody → Bool) (s : Server) (r : HttpRequest) :
    Server × HttpResponse :=
  (s.meanwhile r).handle kdf fits r (s.admin.authorizeMutation kdf r.token r.tokenKdf)

end Server

/-- The web server, over the password derivation and over which status texts fit their buffer. -/
def server (kdf : Kdf) (fits : StatusBody → Bool) : Machine Server HttpRequest HttpResponse where
  step s r := some (s.step kdf fits r)

/-- A step of a run. -/
abbrev ServerStep := LTS.Edge Server (HttpRequest × HttpResponse)

/-! ### A request that is not let through -/

namespace Server

variable {kdf : Kdf} {fits : StatusBody → Bool} {s : Server} {r : HttpRequest}

/-- **What a handler does with a request that is not let through**, once a password is set: three
pages answer anyone, setting a first password is over, and all others answer with the refusal. -/
theorem handle_refused {refusal : HttpReply} (hset : s.admin.passwordSet = true)
    (href : s.admin.authorizeMutation kdf r.token r.tokenKdf = some refusal) :
    s.handle kdf fits r (some refusal) =
      match r.uri with
      | .root => (s, .page)
      | .status i => s.statusGetHandler fits i
      | .favicon => (s, .noContent)
      | .setPassword _ => (s, .reply (.error 403 "Admin password already set"))
      | _ => (s, .reply refusal) := by
  unfold handle
  cases r.uri with
  | firmwareUpdate contentLen u =>
    simp [firmware, Ota.step, Ota.firmwareUpdatePostHandler, HttpReply.orRefusal]
  | firmwareConfirm c =>
    simp [firmware, Ota.step, Ota.firmwareConfirmPostHandler, HttpReply.orRefusal]
  | firmwareCancel => simp [firmware, Ota.step, Ota.firmwareCancelPostHandler, HttpReply.orRefusal]
  | firmwareRollback c =>
    simp [firmware, Ota.step, Ota.firmwareRollbackPostHandler, HttpReply.orRefusal]
  | preCloseBuzzer req write =>
    simp [settings, preCloseBuzzerPostHandler, HttpReply.orRefusal]
  | autoClose req timeoutWrite enabledWrite =>
    simp [settings, autoCloseSettingsPostHandler, HttpReply.orRefusal]
  | closeSchedule req write applied restored =>
    simp [settings, closeSchedulePostHandler, HttpReply.orRefusal]
  | setPassword p => simp [password, Admin.adminWritePassword, hset]
  | changePassword p => simp [password, Admin.adminWritePassword, href]
  | _ => rfl

end Server

end GdoBlaq
