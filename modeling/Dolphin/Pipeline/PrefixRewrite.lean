import Dolphin.Pipeline.Matching

/-!
# Rewritten path prefixes

A rule may replace the prefix that its match found in the path of a request. The path that
should be forwarded (`rewrittenPath`) has the replacement, without a trailing slash, before what
follows the prefix, which is taken without its trailing slash, too.

Translation replaces the prefix that Envoy matched, or a regular expression in case nothing is
left of the replacement. `rewritesPrefix_iff` says when this gives that path:

* the root is matched with its slash, which is replaced, too, so that the path that follows is
  glued to the replacement;
* the regular expression has the trailing slash of the prefix, hence the path without it is not
  rewritten at all, and a second slash that follows is lost.
-/

namespace Pipeline

open Gatewayv1 Ingestion Translation Go Model

/-- The path that should be forwarded when the prefix `p` is replaced by `r` in `q`. -/
def rewrittenPath (p r q : String) : String :=
  let path := trimSuffix r "/" ++ trimPrefix q (trimSuffix p "/")
  if path = "" then "/" else path

/-- When it is. Nothing is left of most replacements that are empty or a slash; but two slashes
    leave one. -/
def RewriteFits (p r q : String) : Prop :=
  if trimSuffix r "/" = "" then
    hasSuffix p "/" = true → (q = trimSuffix p "/" → q = "/") ∧ hasPrefix q (p ++ "/") = false
  else if trimSuffix r "/" = "/" then
    q = trimSuffix p "/" ∧ (hasSuffix p "/" = true → q = "/")
  else p ≠ "/"

/-! ## The action -/

theorem rewrite_of_mutateAction {route : Model.HTTPRoute} {action action' : Envoy.RouteAction}
    (h : mutateAction route action = .ok action') :
    action'.regexRewrite = (pathFullReplaceMutation route.rewrite (pathPrefixMutation route.rewrite
        route (hostRewriteMutation route.rewrite action))).regexRewrite ∧
      action'.prefixRewriteTo = (pathFullReplaceMutation route.rewrite (pathPrefixMutation
        route.rewrite route (hostRewriteMutation route.rewrite action))).prefixRewriteTo := by
  obtain ⟨mirrored, hmirrored, rfl⟩ := bind_pure_eq_ok.1 h
  obtain ⟨policies, _, hmirrored⟩ := bind_eq_ok.1 hmirrored
  have htimeout (b r : Option Int) (a : Envoy.RouteAction) :
      (timeoutMutation b r a).regexRewrite = a.regexRewrite ∧
        (timeoutMutation b r a).prefixRewriteTo = a.prefixRewriteTo := by
    cases b <;> cases r <;> exact ⟨rfl, rfl⟩
  rw [(htimeout _ _ _).1, (htimeout _ _ _).2]
  split_ifs at hmirrored
  · rw [← pure_eq_ok.1 hmirrored]
    exact ⟨rfl, rfl⟩
  · rw [← pure_eq_ok.1 hmirrored]
    exact ⟨rfl, rfl⟩

theorem rewrite_of_getRouteAction {route : Model.HTTPRoute} {backends : List Backend}
    {action : Envoy.RouteAction} {hostName : Option String} {r : String}
    (hrewrite : route.rewrite = some ⟨hostName, some { prefixed := r }⟩)
    (h : getRouteAction route backends = .ok action) :
    if r = "" ∨ r = "/" then action.regexRewrite =
      some ⟨"^" ++ quoteMeta route.pathMatch.prefixed ++ "(/?)(.*)", "/\\2"⟩
    else action.regexRewrite = none ∧ action.prefixRewriteTo = r := by
  have hmutated {a : Envoy.RouteAction} (ha : a.regexRewrite = none)
      (h : mutateAction route a = .ok action) : if r = "" ∨ r = "/" then action.regexRewrite =
        some ⟨"^" ++ quoteMeta route.pathMatch.prefixed ++ "(/?)(.*)", "/\\2"⟩
      else action.regexRewrite = none ∧ action.prefixRewriteTo = r := by
    obtain ⟨hregex, hprefixed⟩ := rewrite_of_mutateAction h
    have hhost (a : Envoy.RouteAction) (rewrite : Option Model.HTTPURLRewriteFilter) :
        (hostRewriteMutation rewrite a).regexRewrite = a.regexRewrite := by
      rw [hostRewriteMutation]
      split <;> rfl
    rw [hregex, hprefixed, hrewrite]
    simp only [pathFullReplaceMutation, pathPrefixMutation, Option.bind_some, ne_eq, not_true,
      false_or, if_false, if_true]
    split_ifs
    · rfl
    · exact ⟨(hhost _ _).trans ha, rfl⟩
  unfold getRouteAction at h
  split at h
  · obtain ⟨_, _, h⟩ := bind_eq_ok.1 h
    exact hmutated rfl h
  · obtain ⟨_, _, h⟩ := bind_eq_ok.1 h
    exact hmutated rfl h

/-! ## The path -/

theorem exists_append_of_elements {p q : String} (h : pathElements p <+: pathElements q) :
    ∃ s, q = p ++ s ∧ (s = "" ∨ ∃ s', s = "/" ++ s') := by
  rcases splitOn_isPrefix_iff.1 h with heq | ⟨rest, hrest⟩
  · exact ⟨"", by rw [String.append_empty, String.toList_inj.1 heq], .inl rfl⟩
  · refine ⟨"/" ++ String.ofList rest, String.toList_inj.1 ?_, .inr ⟨_, rfl⟩⟩
    simp [← hrest]

theorem rewrittenPath_append (p r s : String) : rewrittenPath p r (trimSuffix p "/" ++ s) =
      if trimSuffix r "/" ++ s = "" then "/" else trimSuffix r "/" ++ s := by
  rw [rewrittenPath, trimPrefix_append]

theorem replaced_eq_rewrittenPath_iff {p r q : String}
    (hq : pathElements (trimSuffix p "/") <+: pathElements q)
    (hr : trimSuffix r "/" = "" ∨ trimSuffix r "/" = "/") :
    (if hasPrefix q p then "/" ++ trimPrefix (trimPrefix q p) "/" else q) = rewrittenPath p r q ↔
      RewriteFits p r q := by
  obtain ⟨s, rfl, hs⟩ := exists_append_of_elements hq
  rw [rewrittenPath_append, RewriteFits]
  have htrim (t : String) : trimPrefix ("/" ++ t) "/" = t := trimPrefix_append _ _
  have hself (a b : String) : a ++ ("/" ++ b) = a ↔ False := by
    simp [← String.toList_inj]
  cases hslash : hasSuffix p "/" with
  | false =>
    rw [trimSuffix_of_not hslash, hasPrefix_append, if_pos rfl, trimPrefix_append]
    rcases hs with rfl | ⟨s', rfl⟩ <;> rcases hr with hr | hr <;> rw [hr]
    · exact iff_of_true (by decide) nofun
    · exact iff_of_true (by decide) ⟨String.append_empty, nofun⟩
    · rw [htrim]
      exact iff_of_true (by simp) nofun
    · rw [htrim]
      simp [hself, ← String.toList_inj]
  | true =>
    have hp := eq_append_of_hasSuffix hslash
    generalize trimSuffix p "/" = p₀ at hp ⊢
    subst hp
    rcases hs with rfl | ⟨s', rfl⟩
    · -- the regular expression has a slash more than the path
      have hlong : hasPrefix p₀ (p₀ ++ "/" ++ "/") = false := by
        rw [String.append_assoc]
        exact hasPrefix_append_self (by decide)
      rw [String.append_empty, hasPrefix_append_self (by decide)]
      rcases hr with hr | hr <;> simp [hr, hlong]
    · have hq : p₀ ++ ("/" ++ s') ≠ p₀ := fun h => (hself _ _).1 h
      rw [← String.append_assoc] at hq ⊢
      rw [hasPrefix_append, if_pos rfl, trimPrefix_append, hasPrefix_append_append]
      -- a further slash is taken off
      obtain ⟨t, rfl⟩ | hs' : (∃ t, s' = "/" ++ t) ∨ hasPrefix s' "/" = false := by
        cases hs' : hasPrefix s' "/" with
        | false => exact .inr rfl
        | true => exact .inl ⟨_, eq_append_of_hasPrefix hs'⟩
      · rw [htrim]
        rcases hr with hr | hr <;> simp [hr, hq, ← String.toList_inj]
        exact fun h => absurd (congrArg List.length h) (by simp; omega)
      · rw [trimPrefix_of_not hs']
        rcases hr with hr | hr <;> simp [hr, hq, hs', ← String.toList_inj]

section

variable {m : HTTPRouteMatch} {rewrite : Gatewayv1.HTTPURLRewriteFilter} {p r : String}
  {route : Model.HTTPRoute} {backends : List Backend} {action : Envoy.RouteAction} {q : String}

/-- What Envoy matches for a prefix: its trailing slash is not, unless it is all of it. -/
theorem matchedPart_prefixed (hp : hasPrefix p "/" = true) :
    (getPathSpecifier { prefixed := p }).matchedPart q =
      if p = "/" then "/" else trimSuffix p "/" := by
  have hempty : p ≠ "" := by
    rintro rfl
    exact absurd hp (by decide)
  split_ifs with hroot <;> simp [getPathSpecifier, hroot, hempty, Envoy.PathSpecifier.matchedPart]

section

variable (rewriter : Envoy.RegexRewriter) (hm : m.path = some ⟨some .pathPrefix, some p⟩)
  (hp : hasPrefix p "/" = true) (hrewrite : rewrite.path = some ⟨.replacePrefixMatch, none, some r⟩)
  (hpathMatch : toPathMatch m = .ok route.pathMatch)
  (hfilter : toHTTPRewriteFilter (some rewrite) = .ok route.rewrite)
  (haction : getRouteAction route backends = .ok action)

include hm hp hrewrite hpathMatch hfilter haction

theorem forwardedPath_eq :
    Envoy.forwardedPath rewriter (getPathSpecifier route.pathMatch) action q =
      if trimSuffix r "/" = "" ∨ trimSuffix r "/" = "/" then
        if hasPrefix q p then "/" ++ trimPrefix (trimPrefix q p) "/" else q
      else trimSuffix r "/" ++ trimPrefix q (if p = "/" then "/" else trimSuffix p "/") := by
  rw [toPathMatch, hm] at hpathMatch
  have hpathMatch : ({ prefixed := p } : StringMatch) = route.pathMatch := pure_eq_ok.1 hpathMatch
  rw [toHTTPRewriteFilter, hrewrite] at hfilter
  have hfilter : some (⟨rewrite.hostname, some { prefixed := trimSuffix r "/" }⟩ :
    Model.HTTPURLRewriteFilter) = route.rewrite := pure_eq_ok.1 hfilter
  have hpath := rewrite_of_getRouteAction hfilter.symm haction
  rw [← hpathMatch] at hpath ⊢
  rw [Envoy.forwardedPath]
  by_cases hr : trimSuffix r "/" = "" ∨ trimSuffix r "/" = "/"
  · rw [if_pos hr] at hpath
    rw [hpath, if_pos hr]
    exact rewriter.replace_quoted p q
  · rw [if_neg hr] at hpath
    rw [hpath.1, hpath.2, if_neg hr, ← matchedPart_prefixed hp]
    exact if_neg (not_or.1 hr).1

theorem rewritesPrefix_iff (hslash : hasPrefix q "/" = true)
    (hq : pathElements (trimSuffix p "/") <+: pathElements q) :
    Envoy.forwardedPath rewriter (getPathSpecifier route.pathMatch) action q =
      rewrittenPath p r q ↔ RewriteFits p r q := by
  rw [forwardedPath_eq rewriter hm hp hrewrite hpathMatch hfilter haction]
  by_cases hr : trimSuffix r "/" = "" ∨ trimSuffix r "/" = "/"
  · rw [if_pos hr]
    exact replaced_eq_rewrittenPath_iff hq hr
  · rw [if_neg hr]
    rw [not_or] at hr
    rw [RewriteFits, if_neg hr.1, if_neg hr.2]
    have hne (s : String) : trimSuffix r "/" ++ s ≠ "" := by
      intro h
      have hnil := congrArg String.toList h
      rw [String.toList_append] at hnil
      exact hr.1 (String.toList_eq_nil_iff.1 (List.append_eq_nil_iff.1 hnil).1)
    by_cases hroot : p = "/"
    · -- the slash of the path is lost
      obtain ⟨t, rfl⟩ : ∃ t, q = "/" ++ t := ⟨_, eq_append_of_hasPrefix hslash⟩
      have hrewritten : rewrittenPath p r ("/" ++ t) = trimSuffix r "/" ++ ("/" ++ t) := by
        have htrim : trimSuffix p "/" = "" := by rw [hroot]; decide
        have happend := rewrittenPath_append p r ("/" ++ t)
        rwa [htrim, String.empty_append, if_neg (hne _)] at happend
      refine iff_of_false (fun heq => ?_) (not_not.2 hroot)
      rw [if_pos hroot, trimPrefix_append, hrewritten, String.append_right_inj] at heq
      simpa using congrArg String.length heq
    · obtain ⟨s, rfl, _⟩ := exists_append_of_elements hq
      refine iff_of_true ?_ hroot
      rw [if_neg hroot, trimPrefix_append, rewrittenPath_append, if_neg (hne s)]

end

end

def storeMatch (p : String) : HTTPRouteMatch where
  path := some ⟨some .pathPrefix, some p⟩

def storeRewrite (r : String) : Gatewayv1.HTTPURLRewriteFilter where
  path := some ⟨.replacePrefixMatch, none, some r⟩

/-- The model route of a match and a rewrite. -/
def movedRoute (p r : String) : Model.HTTPRoute where
  pathMatch := { prefixed := p }
  backends := [⟨"store", "default", some ⟨80, ""⟩, none⟩]
  rewrite := some ⟨none, some { prefixed := trimSuffix r "/" }⟩

theorem rewritesPrefix_shop :
    ∃ action, getRouteAction (movedRoute "/shop/" "/store/")
        (movedRoute "/shop/" "/store/").backends = .ok action ∧
      Envoy.forwardedPath Envoy.quotedRewriter
        (getPathSpecifier (movedRoute "/shop/" "/store/").pathMatch) action "/shop/cart" =
        rewrittenPath "/shop/" "/store/" "/shop/cart" := by
  refine ⟨_, rfl, ?_⟩
  refine (rewritesPrefix_iff (m := storeMatch "/shop/") Envoy.quotedRewriter rfl (by decide)
    (rfl : (storeRewrite "/store/").path = _) rfl rfl
    (rfl : getRouteAction _ (movedRoute "/shop/" "/store/").backends = _)
    (by decide) (by decide)).2 ?_
  rw [RewriteFits, if_neg (by decide), if_neg (by decide)]
  decide

/-- The slash after the root is lost. -/
theorem not_rewritesPrefix_root :
    toPathMatch (storeMatch "/") = .ok (movedRoute "/" "/store/").pathMatch ∧
      toHTTPRewriteFilter (some (storeRewrite "/store/")) = .ok (movedRoute "/" "/store/").rewrite ∧
      ∃ action, getRouteAction (movedRoute "/" "/store/") (movedRoute "/" "/store/").backends =
          .ok action ∧
        Envoy.forwardedPath Envoy.quotedRewriter
          (getPathSpecifier (movedRoute "/" "/store/").pathMatch) action "/cart" = "/storecart" ∧
        rewrittenPath "/" "/store/" "/cart" = "/store/cart" :=
  ⟨rfl, rfl, _, rfl, by decide, by decide⟩

end Pipeline
