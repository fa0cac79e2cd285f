import Dolphin.Pipeline.PrefixRewrite

/-!
# Redirected path prefixes

A rule may replace the prefix that its match found in the path by a redirect as well, and the
client is then to be sent to the path that would be forwarded otherwise. A redirect takes the
replacement as it is written, whereas for a rewrite its trailing slash is taken off, and what
nothing is left of is replaced by a regular expression.

* `redirectsAlike_iff`: hence the two agree if the replacement has no trailing slash, and hardly
  ever if it is empty or a slash.
-/

namespace Pipeline

open Gatewayv1 Ingestion Translation Go Model

/-- The path of the location is the one that is forwarded. Where the path does not begin with the
    prefix as it is written, the trailing slash of the prefix is missing in it. -/
def RedirectAgrees (p r q : String) : Prop :=
  if trimSuffix r "/" = "" ∨ trimSuffix r "/" = "/" then
    if hasPrefix q p then
      r ≠ "//" ∧ ((p = "/" ∧ hasPrefix q "//" = false) ∨
        (r = "/" ∧ q = p ∧ hasSuffix p "/" = false))
    else r = "" ∨ q = r
  else hasSuffix r "/" = false

instance (p r q : String) : Decidable (RedirectAgrees p r q) := by
  rw [RedirectAgrees]
  infer_instance

theorem eq_of_trimSuffix {r : String} (hr : trimSuffix r "/" = "" ∨ trimSuffix r "/" = "/") :
    r = "" ∨ r = "/" ∨ r = "//" := by
  cases hslash : hasSuffix r "/" with
  | false =>
    rw [trimSuffix_of_not hslash] at hr
    rcases hr with rfl | rfl
    · exact .inl rfl
    · cases hslash
  | true =>
    rw [eq_append_of_hasSuffix hslash]
    rcases hr with hr | hr <;> rw [hr] <;> decide

theorem length_slash : "/".length = 1 := rfl

theorem length_trimPrefix_le (s t : String) : (trimPrefix s t).length ≤ s.length := by
  cases h : hasPrefix s t with
  | false => rw [trimPrefix_of_not h]
  | true =>
    have hlength := congrArg String.length (eq_append_of_hasPrefix h)
    rw [String.length_append] at hlength
    omega

/-- What a rewrite makes of the rest of a path, with a single slash before it. -/
theorem slash_append_eq_iff (u : String) :
    "/" ++ u = "/" ++ trimPrefix u "/" ↔ hasPrefix u "/" = false := by
  rw [String.append_right_inj]
  constructor
  · intro h
    refine Bool.eq_false_iff.2 fun hslash => ?_
    have hlength := congrArg String.length (eq_append_of_hasPrefix hslash)
    rw [← h, String.length_append, length_slash] at hlength
    omega
  · exact fun h => (trimPrefix_of_not h).symm

theorem append_ne_slash_append {a : String} (ha : 1 < a.length) (u : String) :
    a ++ u ≠ "/" ++ trimPrefix u "/" := by
  intro h
  have hlength := congrArg String.length h
  rw [String.length_append, String.length_append, length_slash] at hlength
  have hle := length_trimPrefix_le u "/"
  omega

theorem eq_trimSuffix_iff {r : String} : r = trimSuffix r "/" ↔ hasSuffix r "/" = false := by
  cases h : hasSuffix r "/" with
  | false => exact iff_of_true (trimSuffix_of_not h).symm rfl
  | true =>
    refine iff_of_false (fun heq => ?_) Bool.false_ne_true.symm
    have hlength := congrArg String.length (eq_append_of_hasSuffix h)
    rw [← heq, String.length_append, length_slash] at hlength
    omega

/-- Where a redirect and the regular expression of a rewrite agree. -/
theorem replaced_eq_iff {p r q : String} (hp : hasPrefix p "/" = true)
    (hr : r = "" ∨ r = "/" ∨ r = "//") (hslash : hasPrefix q "/" = true)
    (hq : pathElements (trimSuffix p "/") <+: pathElements q) :
    (if r = "" then q else r ++ trimPrefix q (if p = "/" then "/" else trimSuffix p "/")) =
        (if hasPrefix q p then "/" ++ trimPrefix (trimPrefix q p) "/" else q) ↔
      if hasPrefix q p then
        r ≠ "//" ∧ ((p = "/" ∧ hasPrefix q "//" = false) ∨
          (r = "/" ∧ q = p ∧ hasSuffix p "/" = false))
      else r = "" ∨ q = r := by
  have hlong : 1 < "//".length := by decide
  by_cases hroot : p = "/"
  · obtain ⟨u, rfl⟩ : ∃ u, q = "/" ++ u := ⟨_, eq_append_of_hasPrefix hslash⟩
    have htwo : hasPrefix ("/" ++ u) "//" = hasPrefix u "/" := hasPrefix_append_append "/" u "/"
    have hself : hasSuffix "/" "/" = true := by decide
    subst hroot
    rw [hasPrefix_append, trimPrefix_append, htwo]
    rcases hr with rfl | rfl | rfl
    · simpa [hself] using slash_append_eq_iff u
    · simpa [hself] using slash_append_eq_iff u
    · simpa [hself] using append_ne_slash_append hlong u
  · have hlength : 1 < p.length := by
      obtain ⟨t, rfl⟩ : ∃ t, p = "/" ++ t := ⟨_, eq_append_of_hasPrefix hp⟩
      have ht : t.length ≠ 0 := fun h => hroot (by rw [String.length_eq_zero_iff.1 h]; rfl)
      rw [String.length_append, length_slash]
      omega
    rw [if_neg hroot]
    obtain ⟨s, rfl, hs⟩ := exists_append_of_elements hq
    rw [trimPrefix_append]
    cases hsuffix : hasSuffix p "/" with
    | false =>
      rw [trimSuffix_of_not hsuffix, hasPrefix_append, trimPrefix_append]
      have hself : p ++ s = p ↔ hasPrefix s "/" = false := by
        rcases hs with rfl | ⟨s', rfl⟩
        · exact iff_of_true String.append_empty (by decide)
        · simp [← String.toList_inj]
      rcases hr with rfl | rfl | rfl
      · simpa [hroot] using append_ne_slash_append hlength s
      · simpa [hroot, hself] using slash_append_eq_iff s
      · simpa [hroot] using append_ne_slash_append hlong s
    | true =>
      have hp₀ := eq_append_of_hasSuffix hsuffix
      generalize trimSuffix p "/" = p₀ at hp₀
      subst hp₀
      rcases hs with rfl | ⟨s', rfl⟩
      · -- the prefix has a slash more than the path
        rw [String.append_empty, hasPrefix_append_self (by decide), String.append_empty,
          if_neg Bool.false_ne_true, if_neg Bool.false_ne_true]
        split_ifs with hempty
        · exact iff_of_true rfl (.inl hempty)
        · rw [or_iff_right hempty, eq_comm]
      · have hmatch : hasPrefix (p₀ ++ ("/" ++ s')) (p₀ ++ "/") = true := by
          rw [← String.append_assoc, hasPrefix_append]
        have hrest : trimPrefix (p₀ ++ ("/" ++ s')) (p₀ ++ "/") = s' := by
          rw [← String.append_assoc, trimPrefix_append]
        rw [hmatch, hrest, if_pos rfl, if_pos rfl]
        refine iff_of_false ?_ (by simp [hroot])
        split_ifs with hempty
        · rw [← String.append_assoc]
          exact append_ne_slash_append hlength s'
        · rw [← String.append_assoc]
          refine append_ne_slash_append ?_ s'
          rcases hr with rfl | rfl | rfl
          · exact absurd rfl hempty
          · decide
          · decide

section

variable {m : HTTPRouteMatch} {redirect : Gatewayv1.HTTPRequestRedirectFilter}
  {rewrite : Gatewayv1.HTTPURLRewriteFilter} {p r : String} {route : Model.HTTPRoute}
  {backends : List Backend} {action : Envoy.RouteAction} {listener : Listener}
  {filter : Model.HTTPRequestRedirectFilter} {q : String}

theorem redirectedPath_eq (hm : m.path = some ⟨some .pathPrefix, some p⟩)
    (hp : hasPrefix p "/" = true)
    (hredirect : redirect.path = some ⟨.replacePrefixMatch, none, some r⟩)
    (hpathMatch : toPathMatch m = .ok route.pathMatch)
    (hfilter : toHTTPRequestRedirectFilter listener (some redirect) = .ok (some filter))
    (port : Nat) :
    Envoy.redirectedPath (getPathSpecifier route.pathMatch) (getRouteRedirect filter port) q =
      if r = "" then q else r ++ trimPrefix q (if p = "/" then "/" else trimSuffix p "/") := by
  rw [toPathMatch, hm] at hpathMatch
  have hpathMatch : ({ prefixed := p } : StringMatch) = route.pathMatch := pure_eq_ok.1 hpathMatch
  rw [toHTTPRequestRedirectFilter, hredirect] at hfilter
  have hpath : filter.path = some { prefixed := r } := by
    cases hfilter
    rfl
  rw [Envoy.redirectedPath, getRouteRedirect, hpath, ← hpathMatch, ← matchedPart_prefixed hp (q := q)]
  by_cases hr : r = "" <;> simp [hr]

theorem redirectsAlike_iff (rewriter : Envoy.RegexRewriter)
    (hm : m.path = some ⟨some .pathPrefix, some p⟩) (hp : hasPrefix p "/" = true)
    (hredirect : redirect.path = some ⟨.replacePrefixMatch, none, some r⟩)
    (hrewrite : rewrite.path = some ⟨.replacePrefixMatch, none, some r⟩)
    (hpathMatch : toPathMatch m = .ok route.pathMatch)
    (hredirected : toHTTPRequestRedirectFilter listener (some redirect) = .ok (some filter))
    (hrewritten : toHTTPRewriteFilter (some rewrite) = .ok route.rewrite)
    (haction : getRouteAction route backends = .ok action) (port : Nat)
    (hslash : hasPrefix q "/" = true) (hq : pathElements (trimSuffix p "/") <+: pathElements q) :
    Envoy.redirectedPath (getPathSpecifier route.pathMatch) (getRouteRedirect filter port) q =
        Envoy.forwardedPath rewriter (getPathSpecifier route.pathMatch) action q ↔
      RedirectAgrees p r q := by
  rw [redirectedPath_eq hm hp hredirect hpathMatch hredirected,
    forwardedPath_eq rewriter hm hp hrewrite hpathMatch hrewritten haction, RedirectAgrees]
  by_cases hr : trimSuffix r "/" = "" ∨ trimSuffix r "/" = "/"
  · rw [if_pos hr, if_pos hr]
    exact replaced_eq_iff hp (eq_of_trimSuffix hr) hslash hq
  · have hne : r ≠ "" := by
      rintro rfl
      exact hr (by decide)
    rw [if_neg hr, if_neg hr, if_neg hne, String.append_left_inj]
    exact eq_trimSuffix_iff

end

/-! ## A store that moves -/

def storeRedirect (r : String) : Gatewayv1.HTTPRequestRedirectFilter where
  path := some ⟨.replacePrefixMatch, none, some r⟩

def storeListener : Listener where
  name := "web"
  port := 80
  protocol := .http

theorem redirectsAlike_store :
    ∃ filter action, toHTTPRequestRedirectFilter storeListener (some (storeRedirect "/store")) =
        .ok (some filter) ∧
      getRouteAction (movedRoute "/shop" "/store") (movedRoute "/shop" "/store").backends =
        .ok action ∧
      Envoy.redirectedPath (getPathSpecifier (movedRoute "/shop" "/store").pathMatch)
          (getRouteRedirect filter 80) "/shop/cart" =
        Envoy.forwardedPath Envoy.quotedRewriter
          (getPathSpecifier (movedRoute "/shop" "/store").pathMatch) action "/shop/cart" := by
  refine ⟨_, _, rfl, rfl, ?_⟩
  refine (redirectsAlike_iff (m := storeMatch "/shop") Envoy.quotedRewriter rfl (by decide)
    (rfl : (storeRedirect "/store").path = _) (rfl : (storeRewrite "/store").path = _) rfl
    (rfl : toHTTPRequestRedirectFilter storeListener (some (storeRedirect "/store")) = _) rfl
    (rfl : getRouteAction (movedRoute "/shop" "/store") (movedRoute "/shop" "/store").backends = _)
    80 (by decide) (by decide)).2 ?_
  decide

/-- The location has two slashes. -/
theorem not_redirectsAlike_root :
    toPathMatch (storeMatch "/shop") = .ok (movedRoute "/shop" "/").pathMatch ∧
      toHTTPRewriteFilter (some (storeRewrite "/")) = .ok (movedRoute "/shop" "/").rewrite ∧
      ∃ filter action, toHTTPRequestRedirectFilter storeListener (some (storeRedirect "/")) =
          .ok (some filter) ∧
        getRouteAction (movedRoute "/shop" "/") (movedRoute "/shop" "/").backends = .ok action ∧
        Envoy.redirectedPath (getPathSpecifier (movedRoute "/shop" "/").pathMatch)
          (getRouteRedirect filter 80) "/shop/cart" = "//cart" ∧
        Envoy.forwardedPath Envoy.quotedRewriter
          (getPathSpecifier (movedRoute "/shop" "/").pathMatch) action "/shop/cart" = "/cart" :=
  ⟨rfl, rfl, _, _, rfl, rfl, by decide, by decide⟩

end Pipeline
