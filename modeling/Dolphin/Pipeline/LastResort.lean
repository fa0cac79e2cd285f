import Dolphin.Pipeline.DefaultRoutes

/-!
# The default backend as a last resort, from the Ingress to Envoy

The default backend is for the requests that no rule matches (`LastResort`). But it is a route of
the virtual host for `*` and of those that fall back on it, and what Envoy does depends on the
virtual host that it selects. A host with rules of its own does not fall back, and where the
default backend is one of the routes, it is taken rather than a rule without a host for the prefix
`/` (`TakesDefault`).

* `routeTaken_cases`, `exists_routeTaken`: the route that is taken for a request;
* `lastResort_iff`: when the default backend is a last resort.
-/

namespace Pipeline

open Model Go Networkingv1 Annotations Ingestion Translation IngressController List Option

variable {engine : Envoy.RegexEngine} {r : IngressReconciler} {dolphinClass : Option IngressClass}
  {slices : Slices} {orders : RangeOrders} {resources : List Envoy.XDSResource} {ing : Ingress}
  {service : IngressServiceBackend} {a : Authority} {req : Envoy.Request}

variable {path : HTTPIngressPath} {rule : IngressRule}

/-! ## What the default backend is for -/

/-- The rule is for the name. A wildcard stands for a single label. -/
def RuleMatches (rule : IngressRule) (n : DNS.Name) : Prop :=
  rule.host = "" ∨ ∃ p : DNS.Pattern, rule.host = String.ofList p.text ∧ p.Matches false n

/-- The path is one of a rule for the name, and matches the path of a request. -/
def MatchedBy (ing : Ingress) (n : DNS.Name) (q : String) (path : HTTPIngressPath) : Prop :=
  (∃ rule ∈ ing.rules, RuleMatches rule n ∧ ∃ paths ∈ rule.http, path ∈ paths) ∧ PathMatches path q

/-- Envoy takes the route for a request without TLS: it is the first that matches in the virtual
    host for the authority. -/
def RouteTaken (engine : Envoy.RegexEngine) (resources : List Envoy.XDSResource)
    (authority : String) (req : Envoy.Request) (route : Envoy.Route) : Prop :=
  ∃ vh, Envoy.Selects (HasVirtualHost resources false) Envoy.VirtualHost.domains authority vh ∧
    firstMatch engine vh.routes req = some route

/-- The default backend is for the requests that no path matches. If one does, they are only
    forwarded to the default backend if it is that of such a path. -/
structure LastResort (engine : Envoy.RegexEngine) (ing : Ingress) (service : IngressServiceBackend)
    (resources : List Envoy.XDSResource) (a : Authority) (req : Envoy.Request) : Prop where
  matched : (∃ path, MatchedBy ing a.name req.path path) →
    ∀ route action cluster, RouteTaken engine resources a.text req route →
      route.action = .route action → cluster ∈ forwardClusters action →
      backendCluster (backendOf ing service) = .ok cluster →
        ∃ path, MatchedBy ing a.name req.path path ∧ HasCluster ing path cluster
  unmatched : (¬ ∃ path, MatchedBy ing a.name req.path path) →
    ∃ route, RouteTaken engine resources a.text req route ∧ ForwardsTo route (backendOf ing service)

/-! ## What is done with it -/

/-- The default backend is taken by the host that is selected for the authority. -/
def TakesDefault (engine : Envoy.RegexEngine) (r : IngressReconciler) (ing : Ingress)
    (authority : String) (req : Envoy.Request) : Prop :=
  getAnnotationTLSPassthroughEnabled ing = false ∧
    ∃ h, Envoy.Selects (HostServed r ing) hostDomains authority h ∧
      (∀ matcher ∈ addedMatchers h false, matcher.accepts engine req = true) ∧
      DefaultFirst r ing h req.path

/-- A path that matches has the cluster of the default backend. -/
def SharesBackend (ing : Ingress) (service : IngressServiceBackend) (n : DNS.Name) (q : String) :
    Prop :=
  ∃ path cluster, MatchedBy ing n q path ∧ HasCluster ing path cluster ∧
    backendCluster (backendOf ing service) = .ok cluster

/-! ## Virtual hosts -/

section

variable {ports : Nat × Nat × Nat} {m : Model} {h : String}

/-- A path for the host that is selected, or without a host, is one of a rule for the name. -/
theorem matchedBy_of_mem (hing : DefaultedIngress ing service)
    (hengine : Regexp.Conforms engine.fullMatch) {a : Authority}
    (hauthority : req.header ":authority" = some a.text)
    (hdomain : ∃ d ∈ hostDomains h, Envoy.domainMatches d a.text = true)
    (hreq : ∀ matcher ∈ addedMatchers h false, matcher.accepts engine req = true)
    (hpath : path ∈ ownPaths ing h ∨ path ∈ pathsAt ing "*") (hmatches : PathMatches path req.path) :
    MatchedBy ing a.name req.path path := by
  rcases hpath with hpath | hpath
  · obtain ⟨hstar, hpath⟩ := mem_ownPaths.1 hpath
    obtain ⟨rule, hrule, rfl, hpaths⟩ := mem_pathsAt.1 hpath
    have hne : rule.host ≠ "" := fun hnil => hstar (if_neg (not_not.2 hnil))
    have hhost : hostOf rule = rule.host := if_pos hne
    obtain ⟨p, hp⟩ := (hing.hosts rule hrule).resolve_left hne
    rw [hhost, hp] at hdomain hreq
    have hname := ((accepted_iff hengine p hauthority).1 ⟨hdomain, hreq⟩).1
    exact ⟨⟨rule, hrule, .inr ⟨p, hp, hname⟩, hpaths⟩, hmatches⟩
  · obtain ⟨rule, hrule, hstar, hpaths⟩ := mem_pathsAt.1 hpath
    have hnil : rule.host = "" := by
      by_contra hne
      obtain ⟨p, hp⟩ := (hing.hosts rule hrule).resolve_left hne
      exact pattern_ne_star p (hp.symm.trans ((if_pos hne).symm.trans hstar))
    exact ⟨⟨rule, hrule, .inl hnil, hpaths⟩, hmatches⟩

end

/-! ## The route that is taken -/

section

variable (hbuilt : BuiltFor r dolphinClass slices orders [ing] resources)
  (hing : DefaultedIngress ing service) (hengine : Regexp.Conforms engine.fullMatch)
  (hauthority : req.header ":authority" = some a.text) (hq : hasPrefix req.path "/" = true)

include hbuilt hing hq

theorem exists_routeTaken (htakes : TakesDefault engine r ing a.text req) :
    ∃ route, RouteTaken engine resources a.text req route ∧
      ForwardsTo route (backendOf ing service) := by
  obtain ⟨hpass, h, hselects, hreq, hdefault⟩ := htakes
  obtain ⟨ports, m, name, ns, config, hls, hconfig, rfl⟩ := hbuilt.exists_ingress hpass
  have hserved (h : String) := configuredHosts_iff hing hls name ns (h := h)
  obtain ⟨vh, hvh, rfl⟩ := exists_hasVirtualHost hconfig ((hserved h).2 hselects.1)
  have hselected := (selects_hasVirtualHost_iff hconfig hserved).2 ⟨hvh, hselects⟩
  obtain ⟨_, hvh⟩ := (hasVirtualHost_iff hconfig).1 hvh
  rw [configuredHost, if_neg] at hvh
  · obtain ⟨hsome, hcounts⟩ := firstMatch_defaulted hing hls engine req hvh
    have hmem : defaultRoute (r.options ports) ing ⟨some service⟩ ∈ routesFor m false vh.name := by
      rw [routesFor_fallsBack hing hls hdefault.fallsBack, routesAt_star hing]
      exact mem_append_right _ mem_cons_self
    obtain ⟨route, hroute⟩ := isSome_iff_exists.1
      (hsome.2 ⟨_, hmem, (accepts_defaultRoute hq _).2 hreq⟩)
    obtain ⟨x, hx, hperforms⟩ := hcounts route hroute
    obtain rfl := eq_defaultRoute_of_defaultFirst hing hls hq hreq hx hdefault
    exact ⟨route, ⟨vh, hselected, hroute⟩, forwardsTo_default hing hls hdefault.fallsBack hperforms⟩
  · rw [redirected_iff hing hls name ns]
    exact fun hredirected => not_lastHasSecret hing hdefault.fallsBack hredirected.2

theorem LastResort.sharesBackend (hlast : LastResort engine ing service resources a req)
    (hmatched : ∃ path, MatchedBy ing a.name req.path path)
    (htakes : TakesDefault engine r ing a.text req) :
    SharesBackend ing service a.name req.path := by
  obtain ⟨route, htaken, action, cluster, haction, hclusters, hcluster⟩ :=
    exists_routeTaken hbuilt hing hq htakes
  obtain ⟨path, hpath, hpathCluster⟩ := hlast.matched hmatched route action cluster htaken
    haction (hclusters ▸ mem_singleton_self cluster) hcluster
  exact ⟨path, cluster, hpath, hpathCluster, hcluster⟩

include hengine hauthority

theorem routeTaken_cases {route : Envoy.Route}
    (htaken : RouteTaken engine resources a.text req route) :
    (TakesDefault engine r ing a.text req ∧ ForwardsTo route (backendOf ing service)) ∨
      ∀ action, route.action = .route action → ∀ cluster ∈ forwardClusters action,
        ∃ path, MatchedBy ing a.name req.path path ∧ HasCluster ing path cluster := by
  obtain ⟨vh, hselects, hroute⟩ := htaken
  have hpass := hbuilt.not_passthrough hselects.1
  obtain ⟨ports, m, name, ns, config, hls, hconfig, rfl⟩ := hbuilt.exists_ingress hpass
  obtain ⟨hvh, hselects⟩ := (selects_hasVirtualHost_iff hconfig fun _ =>
    configuredHosts_iff hing hls name ns).1 hselects
  obtain ⟨_, hvh⟩ := (hasVirtualHost_iff hconfig).1 hvh
  rw [configuredHost] at hvh
  split_ifs at hvh with hredirected
  · -- a redirect to HTTPS does not forward
    have hredirect := action_of_redirect hvh (mem_of_firstMatch hroute).1
    refine .inr fun action haction => ?_
    rw [hredirect] at haction
    cases haction
  · obtain ⟨x, hcounts, hperforms⟩ :=
      (firstMatch_defaulted hing hls engine req hvh).2 route hroute
    have hplain := plain_of_mem_routesFor hls hcounts.mem
    have hreq := ((accepts_matchOf x hplain.headersMatch hplain.queryParamsMatch
      hplain.method).1 hcounts.accepts).1
    by_cases hx : x = defaultRoute (r.options ports) ing ⟨some service⟩
    · have hdefault := defaultFirst_of_eq_defaultRoute hing hls hq hreq hcounts hx
      refine .inl ⟨⟨hpass, vh.name, hselects, hreq, hdefault⟩, ?_⟩
      exact forwardsTo_default hing hls hdefault.fallsBack (hx ▸ hperforms)
    · refine .inr fun action haction cluster hcluster => ?_
      rw [haction] at hperforms
      obtain ⟨path, hpath, hmatches, hcluster⟩ :=
        exists_path_of_performs hing hls hq hcounts hx hperforms hcluster
      obtain ⟨_, d, hd, hdomain, _⟩ := hselects
      exact ⟨path, matchedBy_of_mem hing hengine hauthority ⟨d, hd, hdomain⟩ hreq hpath hmatches,
        hcluster⟩

theorem LastResort.takesDefault (hlast : LastResort engine ing service resources a req)
    (hmatched : ¬ ∃ path, MatchedBy ing a.name req.path path) :
    TakesDefault engine r ing a.text req := by
  obtain ⟨route, htaken, action, cluster, haction, hclusters, _⟩ := hlast.unmatched hmatched
  rcases routeTaken_cases hbuilt hing hengine hauthority hq htaken with ⟨htakes, _⟩ | hpaths
  · exact htakes
  · obtain ⟨path, hpath, _⟩ :=
      hpaths action haction cluster (hclusters ▸ mem_singleton_self cluster)
    exact absurd ⟨path, hpath⟩ hmatched

/-- The default backend is a last resort if it is taken when no path matches, and otherwise only
    if a path that matches has the same backend. -/
theorem lastResort_iff :
    LastResort engine ing service resources a req ↔
      ((∃ path, MatchedBy ing a.name req.path path) → TakesDefault engine r ing a.text req →
        SharesBackend ing service a.name req.path) ∧
      ((¬ ∃ path, MatchedBy ing a.name req.path path) → TakesDefault engine r ing a.text req) := by
  refine ⟨fun hlast => ⟨hlast.sharesBackend hbuilt hing hq,
    hlast.takesDefault hbuilt hing hengine hauthority hq⟩, ?_⟩
  rintro ⟨hshares, htakes⟩
  refine ⟨fun hmatched route action cluster htaken haction hmem hcluster => ?_,
    fun hmatched => exists_routeTaken hbuilt hing hq (htakes hmatched)⟩
  rcases routeTaken_cases hbuilt hing hengine hauthority hq htaken with ⟨htakes, _⟩ | hpaths
  · obtain ⟨path, cluster', hpath, hpathCluster, hcluster'⟩ := hshares hmatched htakes
    obtain rfl := Except.ok.inj (hcluster.symm.trans hcluster')
    exact ⟨path, hpath, hpathCluster⟩
  · exact hpaths action haction cluster hmem

end

/-! ## A rule for everything, and one for a path of a host -/

def fallbackService : IngressServiceBackend := ⟨"fallback", { number := 80 }⟩

open Gatewayv1 (ne_empty_of_test) in
/-- An Ingress with a default backend and a single rule. -/
def lastResortIngress (rule : IngressRule) : Ingress where
  name := "shop"
  ns := "team"
  ingressClassName := some "dolphin"
  defaultBackend := some ⟨some fallbackService⟩
  rules := [rule]

def everythingRule : IngressRule where
  http := some [
    { path := "/", pathType := some .pathPrefix, backend := ⟨some ⟨"shop", { number := 80 }⟩⟩ }]

def loginRule : IngressRule where
  host := "shop.example.com"
  http := some [
    { path := "/login", pathType := some .exact, backend := ⟨some ⟨"login", { number := 80 }⟩⟩ }]

theorem defaultedIngress_of_rule (hhttp : rule.http = some [path])
    (hpath : AdmittedIngressPath path)
    (hhost : rule.host = "" ∨ ∃ p : DNS.Pattern, rule.host = String.ofList p.text) :
    DefaultedIngress (lastResortIngress rule) fallbackService := by
  refine ⟨rfl, fun rule' hrule paths hpaths path' hmem => ?_, fun rule' hrule => ?_,
    fun _ h => by cases h⟩
  · obtain rfl := mem_singleton.1 hrule
    obtain rfl := some.inj (hhttp.symm.trans hpaths)
    exact mem_singleton.1 hmem ▸ hpath
  · exact mem_singleton.1 hrule ▸ hhost

theorem defaultedIngress_everything :
    DefaultedIngress (lastResortIngress everythingRule) fallbackService :=
  defaultedIngress_of_rule rfl ⟨.inr rfl, by decide, by decide, rfl⟩ (.inl rfl)

theorem defaultedIngress_login : DefaultedIngress (lastResortIngress loginRule) fallbackService :=
  defaultedIngress_of_rule rfl ⟨.inl rfl, by decide, by decide, rfl⟩ (.inr ⟨.exact shopName, rfl⟩)

theorem eq_of_hostServed {h : String} (hh : HostServed r (lastResortIngress rule) h) :
    h = "*" ∨ h = hostOf rule := by
  rcases hh with hown | (hstar | ⟨_, hentry, _⟩) | ⟨_, _, hentry, _⟩
  · obtain ⟨path, hpath⟩ := exists_mem_of_ne_nil _ hown
    obtain ⟨rule', hrule, hhost, _⟩ := mem_pathsAt.1 (mem_ownPaths.1 hpath).2
    obtain rfl := mem_singleton.1 hrule
    exact .inr hhost.symm
  · exact .inl hstar
  · cases hentry
  · cases hentry

theorem mem_of_matchedBy {n : DNS.Name} {q : String}
    (hpath : MatchedBy (lastResortIngress rule) n q path) :
    (∃ paths ∈ rule.http, path ∈ paths) ∧ PathMatches path q := by
  obtain ⟨⟨rule', hrule, _, hpath⟩, hmatches⟩ := hpath
  obtain rfl := mem_singleton.1 hrule
  exact ⟨hpath, hmatches⟩

theorem not_matchedBy_login (n : DNS.Name) :
    ¬ ∃ path, MatchedBy (lastResortIngress loginRule) n "/" path := by
  rintro ⟨path, hpath⟩
  obtain ⟨⟨paths, hpaths, hpath⟩, hmatches⟩ := mem_of_matchedBy hpath
  obtain rfl := some.inj hpaths
  obtain rfl := mem_singleton.1 hpath
  exact absurd hmatches (by decide)

theorem builtFor_login : ∃ slices orders resources,
    BuiltFor webReconciler none slices orders [lastResortIngress loginRule] resources :=
  exists_builtFor _ _ ⟨rfl, rfl, rfl⟩ (by decide +kernel)

theorem hostDomains_login :
    hostDomains (hostOf loginRule) = ["shop.example.com", "shop.example.com:*"] := by decide

/-- Another host than that of the rule. -/
theorem lastResort_login :
    ∃ slices orders resources,
      BuiltFor webReconciler none slices orders [lastResortIngress loginRule] resources ∧
      LastResort pieceEngine (lastResortIngress loginRule) fallbackService resources
        (.ofName exampleName) (requestTo (.ofName exampleName)) := by
  obtain ⟨slices, orders, resources, hbuilt⟩ := builtFor_login
  have hselects : Envoy.Selects (HostServed webReconciler (lastResortIngress loginRule)) hostDomains
      (Authority.ofName exampleName).text "*" := by
    refine ⟨.inr (.inl (.inl rfl)), "*", by decide, by decide, fun h hh d hd hmatches => ?_⟩
    rcases eq_of_hostServed hh with rfl | rfl
    · exact (mem_singleton.1 hd).symm ▸ le_rfl
    · rw [hostDomains_login, mem_cons, mem_singleton] at hd
      rcases hd with rfl | rfl <;> exact absurd hmatches (by decide)
  have hhostless : pathsAt (lastResortIngress loginRule) "*" = [] := by decide
  refine ⟨slices, orders, resources, hbuilt, (lastResort_iff hbuilt defaultedIngress_login
    Regexp.conforms_fullMatch rfl (by decide)).2
      ⟨fun hmatched => absurd hmatched (not_matchedBy_login _), fun _ => ?_⟩⟩
  refine ⟨rfl, "*", hselects, by decide, .inl rfl, by decide, fun path hpath => ?_⟩
  rw [hhostless] at hpath
  cases hpath

theorem takesDefault_everything :
    TakesDefault pieceEngine webReconciler (lastResortIngress everythingRule)
      (Authority.ofName shopName).text (requestTo (.ofName shopName)) := by
  refine ⟨rfl, "*", ⟨.inr (.inl (.inl rfl)), "*", by decide, by decide, ?_⟩, by decide, .inl rfl,
    by decide, fun path hpath _ => ?_⟩
  · intro h hh d hd _
    obtain rfl : h = "*" := (eq_of_hostServed hh).elim id id
    exact (mem_singleton.1 hd).symm ▸ le_rfl
  · have hroot : pathsAt (lastResortIngress everythingRule) "*" =
        [⟨"/", some .pathPrefix, ⟨some ⟨"shop", { number := 80 }⟩⟩⟩] := by decide
    rw [hroot] at hpath
    obtain rfl := mem_singleton.1 hpath
    exact ⟨rfl, rfl⟩

theorem not_takesDefault_login :
    ¬ TakesDefault pieceEngine webReconciler (lastResortIngress loginRule)
      (Authority.ofName shopName).text (requestTo (.ofName shopName)) := by
  rintro ⟨_, h, ⟨_, d, hd, _, hbest⟩, _, hdefault⟩
  rcases hdefault.fallsBack with rfl | ⟨_, hentry, _⟩
  · obtain rfl := mem_singleton.1 hd
    have hserved : HostServed webReconciler (lastResortIngress loginRule) "shop.example.com" :=
      .inl (by decide)
    exact absurd (hbest _ hserved "shop.example.com" (by decide) (by decide)) (by decide)
  · cases hentry

/-- A request that the rule for everything matches is forwarded to the default backend, and one to
    the host of the rule for a path that it does not match is not. -/
theorem not_lastResort_fallback :
    (∃ slices orders resources,
      BuiltFor webReconciler none slices orders [lastResortIngress everythingRule] resources ∧
      ¬ LastResort pieceEngine (lastResortIngress everythingRule) fallbackService resources
        (.ofName shopName) (requestTo (.ofName shopName))) ∧
    ∃ slices orders resources,
      BuiltFor webReconciler none slices orders [lastResortIngress loginRule] resources ∧
      ¬ LastResort pieceEngine (lastResortIngress loginRule) fallbackService resources
        (.ofName shopName) (requestTo (.ofName shopName)) := by
  constructor
  · obtain ⟨slices, orders, resources, hbuilt⟩ := exists_builtFor webReconciler
      (lastResortIngress everythingRule) ⟨rfl, rfl, rfl⟩ (by decide +kernel)
    refine ⟨slices, orders, resources, hbuilt, fun hlast => ?_⟩
    have hmatched : MatchedBy (lastResortIngress everythingRule) shopName "/"
        ⟨"/", some .pathPrefix, ⟨some ⟨"shop", { number := 80 }⟩⟩⟩ :=
      ⟨⟨everythingRule, mem_singleton_self _, .inl rfl, _, rfl, mem_singleton_self _⟩,
        by decide⟩
    obtain ⟨path, cluster, hpath, ⟨service, hservice, hcluster'⟩, hcluster⟩ :=
      hlast.sharesBackend hbuilt defaultedIngress_everything (by decide) ⟨_, hmatched⟩
        takesDefault_everything
    obtain ⟨⟨paths, hpaths, hpath⟩, _⟩ := mem_of_matchedBy hpath
    obtain rfl := some.inj hpaths
    obtain rfl := mem_singleton.1 hpath
    obtain rfl := some.inj hservice
    have hsame := Except.ok.inj (hcluster.trans hcluster'.symm)
    exact absurd hsame (by decide)
  · obtain ⟨slices, orders, resources, hbuilt⟩ := builtFor_login
    refine ⟨slices, orders, resources, hbuilt, fun hlast => not_takesDefault_login ?_⟩
    exact hlast.takesDefault hbuilt defaultedIngress_login Regexp.conforms_fullMatch rfl
      (by decide) (not_matchedBy_login _)

end Pipeline
