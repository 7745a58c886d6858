import GdoBlaq.Web.Form
import GdoBlaq.Web.Ota

/-!
# Where a request comes from

The headers of a request, and `request_origin.h`, which tells from three of them whether the request
comes from a page of this device.

## Main results

* `rejectUnlessOwnPage_host` : a request that passes names this device in its `Host` header.
-/

namespace GdoBlaq

/-! ### Headers -/

/-- A header of a request. -/
structure Header where
  /-- Its value, if the request has it. -/
  value : Option (List UInt8) := none
  /-- The answer of `httpd_req_get_hdr_value_str`. -/
  readErr : EspErr := .ok
  deriving DecidableEq

/-- `httpd_req_get_hdr_value_len` -/
def Header.valueLen (h : Header) : ℕ := (h.value.getD []).length

/-- What `httpd_req_get_hdr_value_str` puts into a buffer that is large enough. -/
def Header.valueStr (h : Header) : CStr := cstring (h.value.getD [])

/-- `copy_req_header`: its answer, and the C string in `buf`. -/
def copyReqHeader (h : Header) (size : ℕ) : ℤ × CStr :=
  if h.valueLen = 0 then (0, [])
  else if size ≤ h.valueLen then (-1, [])
  else if h.readErr ≠ .ok then (-1, [])
  else (1, h.valueStr)

/-! ### `request_origin.h` -/

/-- An ASCII letter in lower case. -/
def toLower (c : UInt8) : UInt8 :=
  if byte 'A' ≤ c ∧ c ≤ byte 'Z' then c - byte 'A' + byte 'a' else c

/-- `request_origin_ieq` -/
def requestOriginIeq : CStr → CStr → ℕ → Bool
  | _, _, 0 => true
  | a, b, n + 1 =>
    if toLower (peek a) ≠ toLower (peek b) then false else requestOriginIeq a.tail b.tail n

/-- `request_origin_host_len` -/
def requestOriginHostLen (authority : CStr) : ℕ :=
  if authority ≠ [] ∧ peek authority = byte '[' then
    if byte ']' ∈ authority then authority.idxOf (byte ']') + 1 else 0
  else
    let n := authority.idxOf (byte ':')
    if n ≠ 0 ∧ authority.getD (n - 1) 0 = byte '.' then n - 1 else n

/-- The loop of `request_origin_is_ipv4`. -/
def requestOriginIpv4Loop : ℕ → ℕ → ℕ → CStr → Bool
  | groups, digits, _, [] => groups = 3 ∧ 0 < digits
  | groups, digits, value, c :: s =>
    if isDigit c then
      let value := value * 10 + (c.toNat - (byte '0').toNat)
      if 3 < digits + 1 then false
      else if 255 < value then false
      else requestOriginIpv4Loop groups (digits + 1) value s
    else if c = byte '.' then
      if digits = 0 then false else requestOriginIpv4Loop (groups + 1) 0 0 s
    else false

/-- `request_origin_is_ipv4` -/
def requestOriginIsIpv4 (s : CStr) (n : ℕ) : Bool := requestOriginIpv4Loop 0 0 0 (s.take n)

/-- `request_host_is_local` -/
def requestHostIsLocal (host : CStr) : Bool :=
  let n := requestOriginHostLen host
  let sl := (lit ".local").length
  if n = 0 then false
  else if peek host = byte '[' then true
  else if requestOriginIsIpv4 host n then true
  else sl < n && requestOriginIeq (host.drop (n - sl)) (lit ".local") sl

/-- `request_origin_matches_host` -/
def requestOriginMatchesHost (origin host : CStr) : Bool :=
  if host = [] then false
  else match strstr origin (lit "://") with
  | none => false
  | some sep =>
    let authority := sep.drop 3
    let n := authority.length
    let n := if n ≠ 0 ∧ authority.getD (n - 1) 0 = byte '/' then n - 1 else n
    n = host.length && 0 < n && requestOriginIeq authority host n

/-- `request_from_own_page` -/
def requestFromOwnPage (host origin secFetchSite : CStr) : Bool :=
  if !requestHostIsLocal host then false
  else if origin ≠ [] && !requestOriginMatchesHost origin host then false
  else if secFetchSite ≠ [] && secFetchSite ≠ lit "same-origin" && secFetchSite ≠ lit "none" then
    false
  else true

/-- `reject_unless_own_page`: the request may pass. -/
def rejectUnlessOwnPage (host origin site : Header) : Bool :=
  let (hostRead, hostStr) := copyReqHeader host 128
  let (originRead, originStr) := copyReqHeader origin 160
  let (siteRead, siteStr) := copyReqHeader site 32
  let badHeader := hostRead < 0 || originRead < 0 || siteRead < 0
  !badHeader && requestFromOwnPage hostStr originStr siteStr

/-- **A request that passes names this device.**  Its `Host` header is there, fits the buffer, and
is an address or a name of the local link. -/
theorem rejectUnlessOwnPage_host {host origin site : Header}
    (h : rejectUnlessOwnPage host origin site = true) :
    host.readErr = .ok ∧ host.valueLen < 128 ∧ requestHostIsLocal host.valueStr = true := by
  have hread : 0 ≤ (copyReqHeader host 128).1 ∧
      requestHostIsLocal (copyReqHeader host 128).2 = true := by
    simp only [rejectUnlessOwnPage, requestFromOwnPage, Bool.and_eq_true, Bool.not_eq_true',
      Bool.or_eq_false_iff, decide_eq_false_iff_not, not_lt] at h
    refine ⟨h.1.1.1, ?_⟩
    by_contra hlocal
    simp [hlocal] at h
  unfold copyReqHeader at hread
  split_ifs at hread with hnone hlong herr
  · exact absurd hread.2 (by decide)
  · exact absurd hread.1 (by decide)
  · exact absurd hread.1 (by decide)
  · exact ⟨not_not.1 herr, not_le.1 hlong, hread.2⟩

example : rejectUnlessOwnPage { value := lit "gdo-blaq-1a2b3c.local:8080" } {} {} = true := by
  decide +kernel

end GdoBlaq
