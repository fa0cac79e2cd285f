import Mathlib.Algebra.GroupWithZero.Nat
import Dolphin.Model.Hosts

/-!
# The intersection of host names

`computeHosts` is meant to compute the host names that match what both a listener and a route
match: the intersection of two sets of names, as a list without duplicates
(`IntersectsExactly`). What it returns matches nothing else (`computeHosts_sound`), but it may
leave something out, and list a host name twice:

* a wildcard of the route above the wildcard of the listener is dropped, though all that the
  listener matches is below it;
* the host name of a listener is appended for every wildcard of the route that matches it.

`intersectsExactly_iff` says that nothing else goes wrong.
-/

namespace Model

open List Option

open Go (hasPrefix hasSuffix trimPrefix trimSuffix)

/-- The host names match what the listener and the route match, and are listed in order. -/
structure IntersectsExactly (rs : List String) (lh : Option String) : Prop where
  matches_iff : ∀ n : String, DNSName n.toList →
    ((∃ h ∈ computeHosts rs lh, HostMatches h n) ↔ ListenerMatches lh n ∧ RouteMatches rs n)
  sorted : (computeHosts rs lh).Pairwise (· < ·)

/-- Both host names are wildcards, and the first is below the second. -/
def StrictlyBelow (l r : String) : Prop :=
  hasPrefix l allHosts = true ∧ hasPrefix r allHosts = true ∧
    hostnameMatchesWildcardHostname l r = true

/-- The iteration for the host name of the route appends a host name, for a listener with the
    host name `l`, which is empty if the listener has none. -/
def Kept (l r : String) : Prop :=
  l = "" ∨ l = r ∨ hasPrefix l allHosts = true ∧ hostnameMatchesWildcardHostname r l = true ∨
    hasPrefix l allHosts = false ∧ hasPrefix r allHosts = true ∧
      hostnameMatchesWildcardHostname l r = true

/-- What is appended is the host name of the route, unless that of the listener is exact. -/
theorem matchedHost_eq_some {l r h : String} : matchedHost l r = some h ↔
      Kept l r ∧ h = if l = "" ∨ hasPrefix l allHosts = true then r else l := by
  rw [matchedHost, Kept]
  by_cases hempty : l = ""
  · simp [hempty, eq_comm (a := h)]
  · by_cases heq : l = r
    · simp [heq, eq_comm (a := h)]
    · cases hl : hasPrefix l allHosts <;> cases hr : hasPrefix r allHosts <;>
        simp [hempty, heq, eq_comm (a := h)]

section

variable {l r n : String}

/-- A name that a listener and a host name of the route match is matched by what is appended for
    it, unless the latter is a wildcard above the listener. -/
theorem kept_of_matches (hl : WellFormedHostname l) (hr : WellFormedHostname r)
    (hln : HostMatches l n) (hrn : HostMatches r n) : Kept l r ∨ StrictlyBelow l r := by
  rcases hl with hldns | ⟨y, hy, hydns⟩
  · -- the listener is the name
    obtain rfl := (hostMatches_dnsName hldns).1 hln
    rcases hr with hrdns | ⟨x, hx, _⟩
    · exact .inl (.inr (.inl ((hostMatches_dnsName hrdns).1 hrn)))
    · have hmatch := (hostnameMatchesWildcardHostname_iff hx).2 ((hostMatches_wildcard hx).1 hrn)
      exact .inl (.inr (.inr (.inr
        ⟨not_hasPrefix_of_dnsName hldns, hasPrefix_of_wildcard hx, hmatch⟩)))
  · rcases hr with hrdns | ⟨x, hx, _⟩
    · obtain rfl := (hostMatches_dnsName hrdns).1 hrn
      have hmatch := (hostnameMatchesWildcardHostname_iff hy).2 ((hostMatches_wildcard hy).1 hln)
      exact .inl (.inr (.inr (.inl ⟨hasPrefix_of_wildcard hy, hmatch⟩)))
    · -- the name ends with what follows the star in both, so that one of these ends the other
      obtain ⟨p, hp, hpn⟩ := (hostMatches_wildcard hy).1 hln
      obtain ⟨q, hq, hqn⟩ := (hostMatches_wildcard hx).1 hrn
      have hy_end : '.' :: y <:+ n.toList := ⟨p, hpn.symm⟩
      have hx_end : '.' :: x <:+ n.toList := ⟨q, hqn.symm⟩
      rcases suffix_or_suffix_of_suffix hy_end hx_end with ⟨s, hs⟩ | ⟨s, hs⟩
      · refine .inl (.inr (.inr (.inl ⟨hasPrefix_of_wildcard hy, ?_⟩)))
        refine (hostnameMatchesWildcardHostname_iff hy).2 ⟨'*' :: s, cons_ne_nil _ _, ?_⟩
        rw [hx, ← hs, cons_append]
      · refine .inr ⟨hasPrefix_of_wildcard hy, hasPrefix_of_wildcard hx, ?_⟩
        refine (hostnameMatchesWildcardHostname_iff hx).2 ⟨'*' :: s, cons_ne_nil _ _, ?_⟩
        rw [hy, ← hs, cons_append]

/-- What is appended for a host name matches the names in common. -/
theorem hostMatches_of_kept (hln : HostMatches l n) (hrn : HostMatches r n) :
    HostMatches (if l = "" ∨ hasPrefix l allHosts = true then r else l) n := by
  split_ifs
  · exact hrn
  · exact hln

/-- A name directly below a wildcard, with a label that is longer than any of the host names. -/
def freshName (rs : List String) (y : List Char) : String :=
  String.ofList (List.replicate ((rs.map String.length).sum + 1) 'a' ++ '.' :: y)

theorem dnsName_freshName (rs : List String) {y : List Char} (hy : DNSName y) :
    DNSName (freshName rs y).toList := by
  rw [freshName, String.toList_ofList]
  refine ⟨by simp, fun c hc => ?_⟩
  rcases mem_append.1 hc with hc | hc
  · rw [eq_of_mem_replicate hc]
    exact .inl (by decide)
  · rcases mem_cons.1 hc with rfl | hc
    · exact .inr (.inr (.inr rfl))
    · exact hy.2 c hc

theorem freshName_ne {rs : List String} (hr : r ∈ rs) (y : List Char) : freshName rs y ≠ r := by
  intro heq
  have hle : r.length ≤ (rs.map String.length).sum := by
    obtain ⟨before, after, rfl⟩ := append_of_mem hr
    simp only [map_append, map_cons, sum_append, sum_cons]
    omega
  have hlength := congrArg (fun s : String => s.toList.length) heq
  simp only [freshName, String.toList_ofList, length_append, length_replicate,
    String.length_toList] at hlength
  omega

/-- The wildcard is the only host name below it that matches the fresh name. -/
theorem eq_of_matches_freshName {rs : List String} {y : List Char} (hr : r ∈ rs)
    (hwf : WellFormedHostname r) (hy : l.toList = '*' :: '.' :: y) (hkept : Kept l r)
    (hn : HostMatches r (freshName rs y)) : r = l := by
  have hstar := hasPrefix_of_wildcard hy
  rcases hwf with hdns | ⟨w, hw, _⟩
  · exact absurd ((hostMatches_dnsName hdns).1 hn) (freshName_ne hr y)
  rcases hkept with rfl | rfl | ⟨_, hmatch⟩ | ⟨hnot, _⟩
  · cases hy
  · rfl
  · obtain ⟨p, hp, hrp⟩ := (hostnameMatchesWildcardHostname_iff hy).1 hmatch
    obtain ⟨q, _, hqn⟩ := (hostMatches_wildcard hw).1 hn
    rw [hw] at hrp
    rw [freshName, String.toList_ofList] at hqn
    -- either nothing is between the star and the host name of the listener, or a label that the
    -- fresh name does not have
    rcases p with _ | ⟨c, _ | ⟨c', t⟩⟩
    · exact absurd rfl hp
    · have hrest : '.' :: w = '.' :: y := (List.cons.inj hrp).2
      exact String.toList_injective (by rw [hw, hy, hrest])
    · have hrest : '.' :: w = c' :: (t ++ '.' :: y) := (List.cons.inj hrp).2
      obtain ⟨rfl, rfl⟩ := List.cons.inj hrest
      have hlabel : List.replicate ((rs.map String.length).sum + 1) 'a' = q ++ '.' :: t := by
        have hsplit : q ++ '.' :: (t ++ '.' :: y) = (q ++ '.' :: t) ++ '.' :: y := by
          rw [append_assoc, cons_append]
        exact append_cancel_right (hqn.trans hsplit)
      have hdot : '.' ∈ List.replicate ((rs.map String.length).sum + 1) 'a' := by
        rw [hlabel]
        exact mem_append_right q mem_cons_self
      exact absurd (eq_of_mem_replicate hdot) (by decide)
  · rw [hstar] at hnot
    cases hnot

end

section

variable {rs : List String} {lh : Option String} (hrs : ∀ r ∈ rs, WellFormedHostname r)
  (hlh : ∀ l, lh = some l → WellFormedHostname l)

theorem mem_computeHosts (hnil : rs ≠ []) {h : String} :
    h ∈ computeHosts rs lh ↔ ∃ r ∈ rs, Kept (lh.getD "") r ∧
      h = if lh.getD "" = "" ∨ hasPrefix (lh.getD "") allHosts = true then r else lh.getD "" := by
  simp only [computeHosts, if_neg hnil, Go.mem_sortStrings, mem_filterMap, matchedHost_eq_some]

include hrs hlh in
/-- Nothing is left out unless a wildcard of the route is above the listener. -/
theorem matches_of_below (hbelow : ∀ l, lh = some l → ∀ r ∈ rs, StrictlyBelow l r → l ∈ rs)
    {n : String} (hl : ListenerMatches lh n) (hr : RouteMatches rs n) :
    ∃ h ∈ computeHosts rs lh, HostMatches h n := by
  by_cases hnil : rs = []
  · cases lh with
    | none => exact ⟨allHosts, by simp [computeHosts, hnil], .inl rfl⟩
    | some l =>
      have hne := (hlh l rfl).ne_empty
      exact ⟨l, by simp [computeHosts, hnil, hne], hl l rfl⟩
  · obtain ⟨r, hrmem, hrn⟩ := hr.resolve_left hnil
    cases lh with
    | none => exact ⟨r, (mem_computeHosts hnil).2 ⟨r, hrmem, .inl rfl, by simp⟩, hrn⟩
    | some l =>
      have hwf := hlh l rfl
      have hln := hl l rfl
      rcases kept_of_matches hwf (hrs r hrmem) hln hrn with hkept | hstrict
      · exact ⟨_, (mem_computeHosts hnil).2 ⟨r, hrmem, hkept, rfl⟩, hostMatches_of_kept hln hrn⟩
      · -- the host name of the listener is itself one of the route
        have hmem := hbelow l rfl r hrmem hstrict
        exact ⟨_, (mem_computeHosts hnil).2 ⟨l, hmem, .inr (.inl rfl), rfl⟩,
          hostMatches_of_kept hln hln⟩

include hrs hlh in
theorem IntersectsExactly.mem_of_below (h : IntersectsExactly rs lh) {l r : String}
    (hl : lh = some l) (hr : r ∈ rs) (hbelow : StrictlyBelow l r) : l ∈ rs := by
  obtain ⟨y, hy⟩ := (hlh l hl).wildcard hbelow.1
  obtain ⟨x, hx⟩ := (hrs r hr).wildcard hbelow.2.1
  have hydns : DNSName y := by
    rcases hlh l hl with hdns | ⟨y', hy', hydns⟩
    · exact absurd (hy ▸ mem_cons_self) hdns.not_star
    · rw [hy] at hy'
      obtain ⟨_, htail⟩ := List.cons.inj hy'
      exact (List.cons.inj htail).2 ▸ hydns
  -- the listener and the route match the fresh name
  have hln : HostMatches l (freshName rs y) := by
    refine (hostMatches_wildcard hy).2
      ⟨List.replicate ((rs.map String.length).sum + 1) 'a', ?_, ?_⟩
    · simp
    · rw [freshName, String.toList_ofList]
  obtain ⟨p, hp, hlp⟩ := (hostnameMatchesWildcardHostname_iff hx).1 hbelow.2.2
  have hrn : HostMatches r (freshName rs y) :=
    HostMatches.of_below (hlh l hl) hx hp hlp hln
  have hlisteners : ListenerMatches lh (freshName rs y) := by
    intro l' hl'
    rw [hl] at hl'
    exact some_inj.1 hl' ▸ hln
  obtain ⟨h', hmem, hn⟩ := (h.matches_iff _ (dnsName_freshName rs hydns)).2
    ⟨hlisteners, .inr ⟨r, hr, hrn⟩⟩
  obtain ⟨r', hr', hkept, rfl⟩ := (mem_computeHosts (ne_nil_of_mem hr)).1 hmem
  rw [hl, getD_some] at hkept hn
  rw [if_pos (.inr hbelow.1)] at hn
  exact eq_of_matches_freshName hr' (hrs r' hr') hy hkept hn ▸ hr'

/-- The host names are in order unless two that are appended are the same: that of the route
    twice, or that of an exact listener. -/
theorem sorted_computeHosts_iff : (computeHosts rs lh).Pairwise (· < ·) ↔
      rs.Pairwise fun r r' => Kept (lh.getD "") r → Kept (lh.getD "") r' →
        r ≠ r' ∧ (lh.getD "" = "" ∨ hasPrefix (lh.getD "") allHosts = true) := by
  by_cases hnil : rs = []
  · subst hnil
    refine iff_of_true ?_ Pairwise.nil
    rw [computeHosts, if_pos rfl]
    split_ifs <;> exact pairwise_singleton _ _
  · have hnodup : (computeHosts rs lh).Pairwise (· < ·) ↔
        (rs.filterMap (matchedHost (lh.getD ""))).Nodup := by
      rw [computeHosts, if_neg hnil]
      constructor
      · intro hsorted
        exact (Go.sortStrings_perm _).nodup_iff.1 (hsorted.imp fun hlt => hlt.ne)
      · exact fun h => ((Go.sortStrings_sorted _).imp₂ (fun _ _ => lt_of_le_of_ne)
          ((Go.sortStrings_perm _).nodup_iff.2 h))
    rw [hnodup, List.Nodup, pairwise_filterMap]
    -- two host names that are appended are the same if those of the route are, or if both are
    -- that of the listener
    generalize lh.getD "" = l
    refine ⟨fun h => h.imp fun {r r'} hne hr hr' => ?_, fun h => h.imp fun {r r'} hne b hb b' hb' => ?_⟩
    · have hne' := hne _ (matchedHost_eq_some.2 ⟨hr, rfl⟩) _ (matchedHost_eq_some.2 ⟨hr', rfl⟩)
      split_ifs at hne' with hcase
      · exact ⟨hne', hcase⟩
      · exact absurd rfl hne'
    · obtain ⟨hr, rfl⟩ := matchedHost_eq_some.1 hb
      obtain ⟨hr', rfl⟩ := matchedHost_eq_some.1 hb'
      obtain ⟨hne, hcase⟩ := hne hr hr'
      rw [if_pos hcase, if_pos hcase]
      exact hne

end

/-- The host names are the intersection exactly if the listener's wildcard is a host name of the
    route whenever one of these is above it, and no host name is appended twice. -/
theorem intersectsExactly_iff {rs : List String} {lh : Option String}
    (hrs : ∀ r ∈ rs, WellFormedHostname r) (hlh : ∀ l, lh = some l → WellFormedHostname l) :
    IntersectsExactly rs lh ↔
      (∀ l, lh = some l → ∀ r ∈ rs, StrictlyBelow l r → l ∈ rs) ∧
        rs.Pairwise fun r r' => Kept (lh.getD "") r → Kept (lh.getD "") r' →
          r ≠ r' ∧ (lh.getD "" = "" ∨ hasPrefix (lh.getD "") allHosts = true) := by
  rw [← sorted_computeHosts_iff]
  constructor
  · intro h
    exact ⟨fun l hl r hr hbelow => h.mem_of_below hrs hlh hl hr hbelow, h.sorted⟩
  · rintro ⟨hbelow, hsorted⟩
    refine ⟨fun n _ => ⟨?_, fun ⟨hl, hr⟩ => matches_of_below hrs hlh hbelow hl hr⟩, hsorted⟩
    rintro ⟨h, hmem, hn⟩
    exact computeHosts_sound hrs hlh hmem hn

/-- A listener with a wildcard, and a route with a name and a wildcard below it. -/
theorem intersectsExactly_shop :
    IntersectsExactly ["api.shop.example", "*.eu.shop.example"] (some "*.shop.example") := by
  refine (intersectsExactly_iff ?_ ?_).2 ⟨?_, ?_⟩
  · intro r hr
    rcases mem_cons.1 hr with rfl | hr
    · exact .inl (by decide)
    · obtain rfl := mem_singleton.1 hr
      exact .inr ⟨_, rfl, by decide⟩
  · rintro l hl
    obtain rfl := some_inj.1 hl
    exact .inr ⟨_, rfl, by decide⟩
  · rintro l hl r hr ⟨_, hstar, hmatch⟩
    obtain rfl := some_inj.1 hl
    rcases mem_cons.1 hr with rfl | hr
    · exact absurd hstar (by decide)
    · obtain rfl := mem_singleton.1 hr
      exact absurd hmatch (by decide)
  · simp [hasPrefix, allHosts]

/-- Below the wildcard of the listener, nothing is left of the wildcard of a route above it. -/
theorem not_intersectsExactly_wildcards :
    ¬ IntersectsExactly ["*.example"] (some "*.shop.example") := by
  intro h
  have hmatch : HostMatches "*.example" "a.shop.example" := .inr ⟨"a.shop".toList, by decide, rfl⟩
  have hmatch' : HostMatches "*.shop.example" "a.shop.example" := .inr ⟨['a'], by decide, rfl⟩
  obtain ⟨_, hmem, _⟩ := (h.matches_iff "a.shop.example" (by decide)).2
    ⟨fun l hl => some_inj.1 hl ▸ hmatch', .inr ⟨_, mem_cons_self, hmatch⟩⟩
  have hnone : computeHosts ["*.example"] (some "*.shop.example") = [] := by decide
  rw [hnone] at hmem
  cases hmem

end Model
