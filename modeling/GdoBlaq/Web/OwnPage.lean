import GdoBlaq.Text.Search
import GdoBlaq.Web.LocalHost

/-!
# Requests from the device's own page

`reject_unless_own_page` folds three headers, each of which may be absent, unreadable or too long,
into three strings and compares them.

## Main results

* `matchesHost_iff` : which origins match a host.
* `rejectUnlessOwnPage_iff` : which requests pass, and that an `Origin` passes with one host only.
-/

namespace GdoBlaq

namespace OwnPage

open LocalHost Search

/-! ### What a request of the own page is -/

/-- Behind its first `://` the origin has the host and nothing else, in letters of either case. -/
def Matches (origin host : CStr) : Prop :=
  ∃ authority, FirstAt (fun t => (lit "://").isPrefixOf t) origin (lit "://" ++ authority) ∧
    trimEnd (byte '/') authority ≠ [] ∧
      (trimEnd (byte '/') authority).map toLower = host.map toLower

/-- The header is there with a value, which fits a buffer of `size` bytes and can be read. -/
def Readable (size : ℕ) (h : Header) : Prop :=
  h.valueLen ≠ 0 ∧ h.valueLen < size ∧ h.readErr = .ok

instance (size : ℕ) (h : Header) : Decidable (Readable size h) :=
  inferInstanceAs (Decidable (_ ∧ _ ∧ _))

/-- A request of the device's own page, or of no page at all.  A header without a value counts as
absent. -/
structure Own (host origin site : Header) : Prop where
  host_readable : Readable 128 host
  host_local : requestHostIsLocal host.valueStr = true
  origin_ok : origin.valueLen = 0 ∨
    Readable 160 origin ∧ (origin.valueStr = [] ∨ Matches origin.valueStr host.valueStr)
  site_ok : site.valueLen = 0 ∨
    Readable 32 site ∧
      (site.valueStr = [] ∨ site.valueStr = lit "same-origin" ∨ site.valueStr = lit "none")

/-! ### The strings -/

/-- What the code compares, of the text behind `://`. -/
theorem authority_iff {authority host : CStr} :
    (let n := authority.length
      let n := if n ≠ 0 ∧ authority.getD (n - 1) 0 = byte '/' then n - 1 else n
      n = host.length && 0 < n && requestOriginIeq authority host n) = true ↔
      trimEnd (byte '/') authority ≠ [] ∧
        (trimEnd (byte '/') authority).map toLower = host.map toLower := by
  have hlength := length_trimEnd (List.prefix_rfl (l := authority)) (byte '/')
  have hfront := trimEnd_isPrefix (byte '/') authority
  simp only [hlength]
  generalize trimEnd (byte '/') authority = name at hfront
  rw [Bool.and_eq_true, Bool.and_eq_true, decide_eq_true_eq, decide_eq_true_eq,
    List.length_pos_iff]
  constructor
  · rintro ⟨⟨heq, hne⟩, hieq⟩
    rw [ieq_iff hfront.length_le heq.le, ← List.prefix_iff_eq_take.1 hfront, heq,
      List.take_length] at hieq
    exact ⟨hne, hieq⟩
  · rintro ⟨hne, hlower⟩
    have heq : name.length = host.length := by simpa using congrArg List.length hlower
    refine ⟨⟨heq, hne⟩, ?_⟩
    rw [ieq_iff hfront.length_le heq.le, ← List.prefix_iff_eq_take.1 hfront, heq,
      List.take_length]
    exact hlower

/-- **Which origins match a host.** -/
theorem matchesHost_iff {origin host : CStr} (hhost : host ≠ []) :
    requestOriginMatchesHost origin host = true ↔ Matches origin host := by
  unfold requestOriginMatchesHost
  rw [if_neg hhost]
  cases hfind : strstr origin (lit "://") with
  | none =>
    have hnone := find_eq_none_iff.1 hfind
    simp only [Bool.false_eq_true, false_iff]
    rintro ⟨authority, hfirst, -⟩
    have htest := hfirst.test
    rw [hnone _ hfirst.suffix] at htest
    cases htest
  | some sep =>
    have hfirst := firstAt_of_find hfind
    obtain ⟨authority, rfl⟩ := List.isPrefixOf_iff_prefix.1 hfirst.test
    have hdrop : (lit "://" ++ authority).drop 3 = authority := rfl
    simp only [hdrop]
    refine authority_iff.trans ⟨fun h => ⟨authority, hfirst, h⟩, ?_⟩
    rintro ⟨authority', hfirst', h⟩
    rwa [List.append_cancel_left (hfirst.eq hfirst')]

/-! ### The headers -/

theorem copyReqHeader_eq (h : Header) (size : ℕ) :
    copyReqHeader h size =
      if h.valueLen = 0 then (0, [])
      else if Readable size h then (1, h.valueStr)
      else (-1, []) := by
  unfold copyReqHeader
  by_cases hempty : h.valueLen = 0
  · simp [hempty]
  · by_cases hlong : size ≤ h.valueLen
    · simp [Readable, hempty, hlong, not_lt.2 hlong]
    · by_cases hread : h.readErr = .ok
      · simp [Readable, hempty, hread, not_le.1 hlong, hlong]
      · simp [Readable, hempty, hread, hlong]

theorem optional_iff (h : Header) (size : ℕ) (test : CStr → Prop) :
    (¬ (copyReqHeader h size).1 < 0 ∧
        ((copyReqHeader h size).2 = [] ∨ test (copyReqHeader h size).2)) ↔
      h.valueLen = 0 ∨ Readable size h ∧ (h.valueStr = [] ∨ test h.valueStr) := by
  rw [copyReqHeader_eq]
  split_ifs with hempty hread
  · simp [hempty]
  · simp [hempty, hread]
  · simp [hempty, hread]

theorem host_iff (h : Header) (size : ℕ) :
    (¬ (copyReqHeader h size).1 < 0 ∧ requestHostIsLocal (copyReqHeader h size).2 = true) ↔
      Readable size h ∧ requestHostIsLocal h.valueStr = true := by
  have hnone : requestHostIsLocal [] = false := by decide
  rw [copyReqHeader_eq]
  split_ifs with hempty hread
  · simp [Readable, hempty, hnone]
  · simp [hread]
  · simp [hread]

theorem ne_nil_of_local {host : CStr} (h : requestHostIsLocal host = true) : host ≠ [] := by
  rintro rfl
  exact absurd h (by decide)

theorem fromOwnPage_iff (host origin site : CStr) :
    requestFromOwnPage host origin site = true ↔
      requestHostIsLocal host = true ∧ (origin = [] ∨ Matches origin host) ∧
        (site = [] ∨ site = lit "same-origin" ∨ site = lit "none") := by
  unfold requestFromOwnPage
  cases hlocal : requestHostIsLocal host with
  | false => simp
  | true =>
    rw [← matchesHost_iff (ne_nil_of_local hlocal)]
    cases hmatches : requestOriginMatchesHost origin host <;>
      by_cases horigin : origin = [] <;> simp [horigin, or_assoc]

theorem rejectUnlessOwnPage_own (host origin site : Header) :
    rejectUnlessOwnPage host origin site = true ↔ Own host origin site := by
  have hhost := host_iff host 128
  have horigin := optional_iff origin 160 (Matches · host.valueStr)
  have hsite := optional_iff site 32 fun s => s = lit "same-origin" ∨ s = lit "none"
  have hparts : rejectUnlessOwnPage host origin site = true ↔
      (¬ (copyReqHeader host 128).1 < 0 ∧ ¬ (copyReqHeader origin 160).1 < 0 ∧
        ¬ (copyReqHeader site 32).1 < 0) ∧
      requestFromOwnPage (copyReqHeader host 128).2 (copyReqHeader origin 160).2
        (copyReqHeader site 32).2 = true := by
    unfold rejectUnlessOwnPage
    simp [and_assoc]
  rw [hparts, fromOwnPage_iff]
  constructor
  · rintro ⟨⟨hread, horiginRead, hsiteRead⟩, hlocal, hmatches, hsame⟩
    obtain ⟨hreadable, hlocalStr⟩ := hhost.1 ⟨hread, hlocal⟩
    have hstr : (copyReqHeader host 128).2 = host.valueStr := by
      rw [copyReqHeader_eq, if_neg hreadable.1, if_pos hreadable]
    rw [hstr] at hmatches
    exact ⟨hreadable, hlocalStr, horigin.1 ⟨horiginRead, hmatches⟩, hsite.1 ⟨hsiteRead, hsame⟩⟩
  · rintro ⟨hreadable, hlocalStr, horiginOk, hsiteOk⟩
    have hstr : (copyReqHeader host 128).2 = host.valueStr := by
      rw [copyReqHeader_eq, if_neg hreadable.1, if_pos hreadable]
    obtain ⟨hread, hlocal⟩ := hhost.2 ⟨hreadable, hlocalStr⟩
    obtain ⟨horiginRead, hmatches⟩ := horigin.2 horiginOk
    obtain ⟨hsiteRead, hsame⟩ := hsite.2 hsiteOk
    exact ⟨⟨hread, horiginRead, hsiteRead⟩, hlocal, hstr ▸ hmatches, hsame⟩

theorem Matches.eq_of_matches {origin host host' : CStr} (h : Matches origin host)
    (h' : Matches origin host') : host.map toLower = host'.map toLower := by
  obtain ⟨authority, hfirst, -, hlower⟩ := h
  obtain ⟨authority', hfirst', -, hlower'⟩ := h'
  obtain rfl := List.append_cancel_left (hfirst.eq hfirst')
  exact hlower.symm.trans hlower'

theorem Own.matches {host origin site : Header} (h : Own host origin site)
    (hne : origin.valueStr ≠ []) : Matches origin.valueStr host.valueStr := by
  rcases h.origin_ok with hempty | ⟨-, hnil | hmatches⟩
  · refine absurd ?_ hne
    rw [Header.valueStr, List.length_eq_zero_iff.1 hempty]
    rfl
  · exact absurd hnil hne
  · exact hmatches

/-- **Which requests pass.**  The `Host` header must be there, short enough and local; the `Origin`
absent or empty, or short enough and with this host behind its first `://`; and `Sec-Fetch-Site`
absent or empty, or one of two words.  All such requests pass, and two hosts with which one
`Origin` passes differ in the case of their letters only. -/
theorem rejectUnlessOwnPage_iff (host origin site : Header) :
    (rejectUnlessOwnPage host origin site = true ↔ Own host origin site) ∧
      ∀ host' site', origin.valueStr ≠ [] → rejectUnlessOwnPage host origin site = true →
        rejectUnlessOwnPage host' origin site' = true →
        host.valueStr.map toLower = host'.valueStr.map toLower := by
  refine ⟨rejectUnlessOwnPage_own host origin site, fun host' site' hne h h' => ?_⟩
  rw [rejectUnlessOwnPage_own] at h h'
  exact (h.matches hne).eq_of_matches (h'.matches hne)

/-- A request whose `Sec-Fetch-Site` header is there without a value passes. -/
theorem empty_site_passes :
    let site : Header := { value := some [] }
    rejectUnlessOwnPage { value := some (lit "192.168.4.1") } {} site = true ∧
      ¬ (site.value = none ∨ site.valueStr = lit "same-origin" ∨ site.valueStr = lit "none") := by
  decide

end OwnPage

end GdoBlaq
