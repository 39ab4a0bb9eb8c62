import Mathlib.Data.List.DropRight
import RiskBoard.Settings.Basic

/-!
# The two addresses

The pull addresses and the push address are derived from one base, which is checked to start as an
address of HTTP. Such a base is a scheme, a host with what follows it, and slashes at the end
(`Settings.IsAddress`, `Settings.exists_isAddress`); the slashes do not count
(`Settings.withoutSlashes_append_slashes`).

With a host, both addresses name it, and the push is secure exactly if the base is. Without one they
do not (`Settings.pushUrl_secureWithoutHost`): the slashes of the scheme itself stand at the end
then, and a base that has lost them is taken for one without a scheme.
-/

namespace RiskBoard.Settings

variable {settings : Settings} {scheme host : String} {cs : List Char}

/-! ### Checks -/

/-- Settings are accepted if they break none of the rules. -/
theorem check_eq_ok_iff : settings.check = .ok () ↔
    knowsLevel settings.logLevel ∧ isHttp settings.baseUrl ∧ settings.pollInterval ≠ 0 := by
  have hviolations : settings.check = .ok () ↔ settings.violations = [] := by
    rw [check]
    split_ifs with hempty
    · exact iff_of_true rfl (List.isEmpty_iff.mp hempty)
    · exact iff_of_false (by simp) (mt List.isEmpty_iff.mpr hempty)
  rw [hviolations, violations, List.append_eq_nil_iff, List.append_eq_nil_iff, and_assoc]
  simp

/-! ### Slashes at the end -/

/-- So many slashes. -/
def slashes (n : ℕ) : String := .ofList (List.replicate n '/')

theorem toList_slashes (n : ℕ) : (slashes n).toList = List.replicate n '/' := String.toList_ofList

theorem withoutSlashes_append_slashes (cs : List Char) (n : ℕ) :
    withoutSlashes (cs ++ List.replicate n '/') = withoutSlashes cs := by
  rw [withoutSlashes, List.reverse_append, List.reverse_replicate, List.dropWhile_append_of_pos]
  · rfl
  · intro c hc
    exact decide_eq_true (List.eq_of_mem_replicate hc)

theorem withoutSlashes_eq_self (h : cs.getLast? ≠ some '/') : withoutSlashes cs = cs := by
  refine List.rdropWhile_eq_self_iff.mpr fun hne hslash => h ?_
  rw [List.getLast?_eq_some_getLast hne, of_decide_eq_true hslash]

theorem getLast?_withoutSlashes (cs : List Char) : (withoutSlashes cs).getLast? ≠ some '/' := by
  intro hlast
  have hne : withoutSlashes cs ≠ [] := by
    intro hnil
    rw [hnil] at hlast
    cases hlast
  have hnot := List.rdropWhile_last_not (· = '/') cs hne
  rw [List.getLast?_eq_some_getLast hne] at hlast
  exact hnot (decide_eq_true (Option.some.inj hlast))

theorem exists_eq_append_slashes (cs : List Char) :
    ∃ n, cs = withoutSlashes cs ++ List.replicate n '/' := by
  refine ⟨(cs.rtakeWhile (· = '/')).length, ?_⟩
  have hall : cs.rtakeWhile (· = '/') = List.replicate (cs.rtakeWhile (· = '/')).length '/' :=
    List.eq_replicate_of_mem fun c hc => by simpa using List.mem_rtakeWhile_imp hc
  rw [← hall]
  exact (List.rdropWhile_append_rtakeWhile ..).symm

/-! ### Addresses in parts -/

/-- An address of HTTP is a scheme and a host, which may be followed by more but does not end in a
slash, and then some slashes. -/
structure IsAddress (url scheme host : String) : Prop where
  isHttp : scheme = "http" ∨ scheme = "https"
  noSlash : host.toList.getLast? ≠ some '/'
  eq : ∃ n, url = scheme ++ "://" ++ host ++ slashes n

/-- What passes the check is an address of HTTP. -/
theorem exists_isAddress {url : String} (h : isHttp url) :
    ∃ scheme host, IsAddress url scheme host := by
  obtain ⟨scheme, hscheme, rest, hrest⟩ :
      ∃ scheme : String, (scheme = "http" ∨ scheme = "https") ∧
        ∃ rest, url.toList = (scheme ++ "://").toList ++ rest := by
    rw [isHttp, Bool.or_eq_true, List.isPrefixOf_iff_prefix, List.isPrefixOf_iff_prefix] at h
    rcases h with ⟨rest, hrest⟩ | ⟨rest, hrest⟩
    · exact ⟨"http", .inl rfl, rest, hrest.symm⟩
    · exact ⟨"https", .inr rfl, rest, hrest.symm⟩
  obtain ⟨n, hn⟩ := exists_eq_append_slashes rest
  refine ⟨scheme, .ofList (withoutSlashes rest), hscheme, ?_, n, ?_⟩
  · rw [String.toList_ofList]
    exact getLast?_withoutSlashes rest
  · have hurl : url.toList = (scheme ++ "://").toList ++
        (withoutSlashes rest ++ List.replicate n '/') := by
      rw [← hn]
      exact hrest
    rw [← String.toList_inj, hurl]
    simp [toList_slashes]

/-- The scheme of pushes that fits a scheme of HTTP. -/
def pushScheme (scheme : String) : String := if scheme = "https" then "wss" else "ws"

theorem IsAddress.toList_eq (h : IsAddress settings.baseUrl scheme host) :
    withoutSlashes settings.baseUrl.toList =
      withoutSlashes ((scheme ++ "://").toList ++ host.toList) := by
  obtain ⟨n, hn⟩ := h.eq
  rw [hn, String.toList_append, toList_slashes, withoutSlashes_append_slashes, String.toList_append]

/-- The host of an address is kept as it is, with the scheme before it. -/
theorem IsAddress.withoutSlashes_eq (h : IsAddress settings.baseUrl scheme host)
    (hhost : host ≠ "") :
    withoutSlashes settings.baseUrl.toList = (scheme ++ "://").toList ++ host.toList := by
  have hne : host.toList ≠ [] := by
    rwa [ne_eq, String.toList_eq_nil_iff]
  rw [h.toList_eq]
  refine withoutSlashes_eq_self ?_
  rw [List.getLast?_append_of_ne_nil _ hne]
  exact h.noSlash

/-- **The two addresses.** Settings that are accepted have an address of HTTP as their base. If it
has a host, then the pull addresses start with its scheme and host, and the push address has the
same host behind the scheme of pushes that fits. If it has none, then what is left of its scheme is
taken for a host, and the push is not secure. Slashes at the end of the base change neither. -/
theorem addresses_of_check (h : settings.check = .ok ()) :
    (∃ scheme host, IsAddress settings.baseUrl scheme host) ∧
    (∀ scheme host, IsAddress settings.baseUrl scheme host → host ≠ "" →
      settings.apiBase = scheme ++ "://" ++ host ++ "/api" ∧
      settings.pushUrl = pushScheme scheme ++ "://" ++ host ++ "/api/ws") ∧
    (∀ scheme, IsAddress settings.baseUrl scheme "" →
      settings.apiBase = scheme ++ ":/api" ∧
      settings.pushUrl = "ws://" ++ scheme ++ ":/api/ws") ∧
    ∀ n, ({ settings with baseUrl := settings.baseUrl ++ slashes n } : Settings).apiBase =
        settings.apiBase ∧
      ({ settings with baseUrl := settings.baseUrl ++ slashes n } : Settings).pushUrl =
        settings.pushUrl := by
  refine ⟨exists_isAddress (check_eq_ok_iff.mp h).2.1, fun scheme host haddress hhost => ?_,
    fun scheme haddress => ?_, fun n => ?_⟩
  · have hbase := haddress.withoutSlashes_eq hhost
    constructor
    · rw [apiBase, hbase, ← String.toList_inj]
      simp
    · obtain rfl | rfl := haddress.isHttp
      · rw [pushUrl, hbase, ← String.toList_inj]
        simp [splitScheme?, pushScheme]
      · rw [pushUrl, hbase, ← String.toList_inj]
        simp [splitScheme?, pushScheme]
  · have hbase := haddress.toList_eq
    obtain rfl | rfl := haddress.isHttp
    · rw [apiBase, pushUrl, hbase]
      exact ⟨rfl, rfl⟩
    · rw [apiBase, pushUrl, hbase]
      exact ⟨rfl, rfl⟩
  · simp only [apiBase, pushUrl, String.toList_append, toList_slashes,
      withoutSlashes_append_slashes, and_self]

/-- Settings with a secure base whose host has slashes behind it. -/
def secureHost : Settings := { default with baseUrl := "https://risk.example.com//" }

theorem addresses_secureHost : secureHost.check = .ok () ∧
    secureHost.apiBase = "https://risk.example.com/api" ∧
    secureHost.pushUrl = "wss://risk.example.com/api/ws" := by
  have hcheck : secureHost.check = .ok () := by decide
  have haddress : IsAddress secureHost.baseUrl "https" "risk.example.com" :=
    ⟨.inr rfl, by decide, 2, by decide⟩
  obtain ⟨hapi, hpush⟩ := (addresses_of_check hcheck).2.1 _ _ haddress (by decide)
  exact ⟨hcheck, hapi, hpush⟩

/-- A secure base without a host is accepted, and its push address is not secure. -/
theorem pushUrl_secureWithoutHost :
    ({ default with baseUrl := "https://" } : Settings).check = .ok () ∧
    IsAddress "https://" "https" "" ∧
    ({ default with baseUrl := "https://" } : Settings).apiBase = "https:/api" ∧
    ({ default with baseUrl := "https://" } : Settings).pushUrl = "ws://https:/api/ws" :=
  ⟨by decide, ⟨.inr rfl, by decide, 0, by decide⟩, by decide, by decide⟩

end RiskBoard.Settings
