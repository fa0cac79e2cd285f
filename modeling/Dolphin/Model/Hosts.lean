import Dolphin.Model.Types

/-!
# Host names

Which host names a route serves on a listener: the intersection of the route's host
names with the listener's (`computeHosts`). Host names are patterns: an exact name,
or `*.` and a name, which stands for every name below it.

The meaning of a pattern is the set of concrete names it matches, `HostMatches`. A
host name computed for a route and a listener matches only names that both match
(`computeHosts_sound`).
-/

namespace Model

open List

open Go (hasPrefix hasSuffix trimPrefix trimSuffix)

def allHosts : String := "*"

def hostnameMatchesWildcardHostname (hostname wildcardHostname : String) : Bool :=
  hasSuffix hostname (trimPrefix wildcardHostname allHosts) &&
    trimSuffix hostname (trimPrefix wildcardHostname allHosts) ≠ ""

/-- The iteration of `ComputeHosts` for one host name of the route: the host name
    appended, if any. -/
def matchedHost (listenerHostname routeHostname : String) : Option String :=
  if listenerHostname = "" then some routeHostname
  else if listenerHostname = routeHostname then some routeHostname
  else if hasPrefix listenerHostname allHosts then
    if hostnameMatchesWildcardHostname routeHostname listenerHostname then some routeHostname
    else none
  else if hasPrefix routeHostname allHosts then
    if hostnameMatchesWildcardHostname listenerHostname routeHostname then some listenerHostname
    else none
  else none

/-- The host names on which a route with the given host names is served by a
    listener. Without host names, a route takes that of the listener, or all. -/
def computeHosts (routeHostnames : List String) (listenerHostname : Option String) : List String :=
  let listenerHostnameVal := listenerHostname.getD ""
  if routeHostnames = [] then
    if listenerHostnameVal ≠ "" then [listenerHostnameVal] else [allHosts]
  else
    Go.sortStrings (routeHostnames.filterMap (matchedHost listenerHostnameVal))

theorem computeHosts_none_ne_nil (routeHostnames : List String) :
    computeHosts routeHostnames none ≠ [] := by
  rw [computeHosts]
  dsimp only [Option.getD_none]
  split_ifs with hnil hval
  · exact absurd rfl hval
  · exact cons_ne_nil _ _
  · obtain ⟨r, hr⟩ := exists_mem_of_ne_nil _ hnil
    exact ne_nil_of_mem (Go.mem_sortStrings.2 (mem_filterMap.2 ⟨r, hr, rfl⟩))

/-! ## What a host name stands for -/

/-- The concrete names a pattern matches: `*` matches all, `*.x` the names that end in
    `.x` with something before it, any other name only itself. -/
def HostMatches (pattern name : String) : Prop :=
  pattern = "*" ∨ match pattern.toList with
    | '*' :: '.' :: x => ∃ p, p ≠ [] ∧ name.toList = p ++ '.' :: x
    | _ => name = pattern

/-- Letters, digits, hyphens and dots, and not empty: every DNS name is such. -/
def DNSName (l : List Char) : Prop := l ≠ [] ∧ ∀ c ∈ l, c.isLower ∨ c.isDigit ∨ c = '-' ∨ c = '.'

/-- A host name of the Gateway API: a DNS name, or `*.` followed by one. -/
def WellFormedHostname (h : String) : Prop :=
  DNSName h.toList ∨ ∃ x, h.toList = '*' :: '.' :: x ∧ DNSName x

theorem dnsName_iff {l : List Char} : DNSName l ↔
      (!l.isEmpty && l.all fun c => c.isLower || c.isDigit || c == '-' || c == '.') = true := by
  simp [DNSName, or_assoc]

instance (l : List Char) : Decidable (DNSName l) := decidable_of_iff _ dnsName_iff.symm

theorem DNSName.not_star {l : List Char} (h : DNSName l) : '*' ∉ l := fun hm => by
  have := h.2 '*' hm
  revert this
  decide

variable {h n : String} {x : List Char}

theorem WellFormedHostname.ne_empty (hwf : WellFormedHostname h) : h ≠ "" := by
  rintro rfl
  rcases hwf with hdns | ⟨x, hx, _⟩
  · exact hdns.1 rfl
  · exact cons_ne_nil _ _ hx.symm

/-- A well-formed host name that starts with `*` is a wildcard `*.x`. -/
theorem WellFormedHostname.wildcard (hwf : WellFormedHostname h)
    (hstar : hasPrefix h allHosts = true) : ∃ x, h.toList = '*' :: '.' :: x := by
  rcases hwf with hdns | ⟨x, hx, _⟩
  · obtain ⟨t, ht⟩ := Go.hasPrefix_iff.1 hstar
    have hmem : '*' ∈ h.toList := by
      rw [← ht]
      exact mem_append_left _ (by decide)
    exact absurd hmem hdns.not_star
  · exact ⟨x, hx⟩

theorem hasPrefix_of_wildcard {l : String} (hx : l.toList = '*' :: '.' :: x) :
    hasPrefix l allHosts = true :=
  Go.hasPrefix_iff.2 ⟨'.' :: x, hx.symm⟩

theorem not_hasPrefix_of_dnsName {l : String} (hdns : DNSName l.toList) :
    hasPrefix l allHosts = false := by
  refine Bool.eq_false_iff.2 fun hstar => hdns.not_star ?_
  obtain ⟨t, ht⟩ := Go.hasPrefix_iff.1 hstar
  rw [← ht]
  exact mem_append_left t (by decide)

theorem hostMatches_wildcard (hx : h.toList = '*' :: '.' :: x) :
    HostMatches h n ↔ ∃ p, p ≠ [] ∧ n.toList = p ++ '.' :: x := by
  have hne : h ≠ "*" := by
    rintro rfl
    exact absurd (congrArg List.length hx) (by simp)
  simp only [HostMatches, hx, hne, false_or]

theorem hostMatches_dnsName (hdns : DNSName h.toList) : HostMatches h n ↔ n = h := by
  have hne : h ≠ "*" := by
    rintro rfl
    exact hdns.not_star (by decide)
  rw [HostMatches, or_iff_right hne]
  split
  · rename_i x hx
    exact absurd (hx ▸ mem_cons_self) hdns.not_star
  · exact Iff.rfl

/-- A host name that the code matches to the wildcard `*.x` ends in `.x` with something
    before it. -/
theorem hostnameMatchesWildcardHostname_iff {w : String} (hw : w.toList = '*' :: '.' :: x) :
    hostnameMatchesWildcardHostname h w = true ↔ ∃ p, p ≠ [] ∧ h.toList = p ++ '.' :: x := by
  have htrim : (trimPrefix w allHosts).toList = '.' :: x := Go.toList_trimPrefix hw
  simp only [hostnameMatchesWildcardHostname, Bool.and_eq_true, Go.hasSuffix_iff, htrim,
    decide_eq_true_eq]
  constructor
  · rintro ⟨⟨p, hp⟩, hne⟩
    have hcut : (trimSuffix h (trimPrefix w allHosts)).toList = p :=
      Go.toList_trimSuffix (by rw [htrim, hp])
    refine ⟨p, ?_, hp.symm⟩
    rintro rfl
    exact hne (String.toList_inj.1 hcut)
  · rintro ⟨p, hne, hp⟩
    have hcut : (trimSuffix h (trimPrefix w allHosts)).toList = p :=
      Go.toList_trimSuffix (by rw [htrim, hp])
    refine ⟨⟨p, hp.symm⟩, fun h0 => hne ?_⟩
    rw [← hcut, h0]
    rfl

/-- What a host name below the wildcard `*.x` matches, `*.x` matches. -/
theorem HostMatches.of_below {w : String} {p : List Char} (hwf : WellFormedHostname h)
    (hw : w.toList = '*' :: '.' :: x) (hp : p ≠ []) (hh : h.toList = p ++ '.' :: x)
    (hn : HostMatches h n) : HostMatches w n := by
  rw [hostMatches_wildcard hw]
  rcases hwf with hdns | ⟨y, hy, _⟩
  · obtain rfl := (hostMatches_dnsName hdns).1 hn
    exact ⟨p, hp, hh⟩
  · obtain ⟨q, hq, hqn⟩ := (hostMatches_wildcard hy).1 hn
    -- `h` is itself a wildcard `*.y`: its star belongs to `p`, and `.y` ends in `.x`
    obtain ⟨c, p', rfl⟩ := exists_cons_of_ne_nil hp
    have htail : '.' :: y = p' ++ '.' :: x := by
      rw [hy] at hh
      exact (List.cons.inj hh).2
    refine ⟨q ++ p', by simp [hq], ?_⟩
    rw [hqn, htail, append_assoc]

theorem matchedHost_sound {l r : String} (hl : l = "" ∨ WellFormedHostname l)
    (hr : WellFormedHostname r) (hm : matchedHost l r = some h) (hn : HostMatches h n) :
    (l = "" ∨ HostMatches l n) ∧ HostMatches r n := by
  unfold matchedHost at hm
  split_ifs at hm with h1 h2 h3 h4 h5 h6 <;> obtain rfl := Option.some_inj.1 hm
  · exact ⟨.inl h1, hn⟩
  · exact ⟨.inr (h2 ▸ hn), hn⟩
  · obtain ⟨x, hx⟩ := (hl.resolve_left h1).wildcard h3
    obtain ⟨p, hp, hrp⟩ := (hostnameMatchesWildcardHostname_iff hx).1 h4
    exact ⟨.inr (hn.of_below hr hx hp hrp), hn⟩
  · obtain ⟨x, hx⟩ := hr.wildcard h5
    obtain ⟨p, hp, hlp⟩ := (hostnameMatchesWildcardHostname_iff hx).1 h6
    exact ⟨.inr hn, hn.of_below (hl.resolve_left h1) hx hp hlp⟩

/-- A listener without a host name matches every name. -/
def ListenerMatches (listenerHostname : Option String) (name : String) : Prop :=
  ∀ l, listenerHostname = some l → HostMatches l name

/-- A route without host names matches every name. -/
def RouteMatches (routeHostnames : List String) (name : String) : Prop :=
  routeHostnames = [] ∨ ∃ r ∈ routeHostnames, HostMatches r name

theorem computeHosts_sound {rs : List String} {lh : Option String}
    (hrs : ∀ r ∈ rs, WellFormedHostname r) (hlh : ∀ l, lh = some l → WellFormedHostname l)
    (hh : h ∈ computeHosts rs lh) (hn : HostMatches h n) :
    ListenerMatches lh n ∧ RouteMatches rs n := by
  by_cases hnil : rs = []
  · refine ⟨fun l hl => ?_, .inl hnil⟩
    simp only [computeHosts, hnil, hl, if_true, Option.getD_some, if_pos (hlh l hl).ne_empty,
      mem_singleton] at hh
    exact hh ▸ hn
  · rw [computeHosts, if_neg hnil, Go.mem_sortStrings, mem_filterMap] at hh
    obtain ⟨r, hr, hm⟩ := hh
    have hlwf : lh.getD "" = "" ∨ WellFormedHostname (lh.getD "") := by
      cases lh with
      | none => exact .inl rfl
      | some l => exact .inr (hlh l rfl)
    obtain ⟨hl, hrn⟩ := matchedHost_sound hlwf (hrs r hr) hm hn
    refine ⟨fun l hsome => ?_, .inr ⟨r, hr, hrn⟩⟩
    subst hsome
    exact hl.resolve_left (hlh l rfl).ne_empty

end Model
