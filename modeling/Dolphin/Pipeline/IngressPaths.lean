import Dolphin.Ingestion.IngressTLS
import Dolphin.Model.MatchKeys
import Dolphin.Pipeline.Matching
import Dolphin.Translation.Specificity

/-!
# Paths, from the Ingress to Envoy

Of the paths of an Ingress that match a request, the longest one counts, and an exact one rather
than a prefix (`pathFor`). Envoy takes the first route that accepts the path of the request. Every
path of the rules for a host makes a route of its own, which accepts what the path matches
(`accepts_iff`), and the order of the routes is that of the paths (`specificity_le_iff`).

* `routedByPath`: so both choose the same backend.
-/

namespace Pipeline

open Gatewayv1 Networkingv1 Ingestion Translation Go Model List

variable {opts : IngressOptions} {ing : Ingress}

/-! ## What the paths of an Ingress mean -/

/-- The paths of the rules for a host, in their order. -/
def pathsAt (ing : Ingress) (h : String) : List HTTPIngressPath := (httpAt ing h).flatten

/-- The path matches the path of a request. A trailing slash of a prefix is ignored. -/
def PathMatches (path : HTTPIngressPath) (q : String) : Prop :=
  match path.pathType with
  | some .exact => q = path.path
  | some .pathPrefix => pathElements (trimSuffix path.path "/") <+: pathElements q
  | _ => False

instance (path : HTTPIngressPath) (q : String) : Decidable (PathMatches path q) := by
  rw [PathMatches]
  split <;> infer_instance

/-- How long the path is. -/
def pathSize (path : HTTPIngressPath) : Nat :=
  if path.pathType = some .exact then path.path.utf8ByteSize
  else (trimSuffix path.path "/").utf8ByteSize

/-- The path is longer, or exact and the other one is not. -/
def Preferred (path path' : HTTPIngressPath) : Prop :=
  pathSize path' < pathSize path ∨
    (pathSize path = pathSize path' ∧ path.pathType = some .exact ∧ path'.pathType ≠ some .exact)

instance (path path' : HTTPIngressPath) : Decidable (Preferred path path') :=
  inferInstanceAs (Decidable (_ ∨ _))

/-- The path that counts: the first one that matches and to which no other that does is
    preferred. -/
def pathFor (paths : List HTTPIngressPath) (q : String) : Option HTTPIngressPath :=
  paths.find? fun path => PathMatches path q ∧
    ∀ path' ∈ paths, PathMatches path' q → ¬ Preferred path' path

/-- A path as the API server admits it, for a Service. -/
structure AdmittedIngressPath (path : HTTPIngressPath) : Prop where
  pathType : path.pathType = some .exact ∨ path.pathType = some .pathPrefix
  slash : hasPrefix path.path "/" = true
  elements : ¬ ['/', '/'] <:+: path.path.toList
  service : path.backend.service.isSome

/-- An Ingress without default backend, whose paths for a host are different. -/
structure PathIngress (ing : Ingress) : Prop where
  defaultBackend : ing.defaultBackend = none
  paths : ∀ rule ∈ ing.rules, ∀ paths ∈ rule.http, ∀ path ∈ paths, AdmittedIngressPath path
  distinct : ∀ h, ((pathsAt ing h).map fun path => (path.pathType, path.path)).Nodup

/-! ## What Envoy does -/

/-- The first route whose path matcher accepts the path of a request. -/
def firstByPath (engine : Envoy.RegexEngine) (routes : List (Option Envoy.Route)) (q : String) :
    Option Envoy.Route :=
  routes.reduceOption.find? (·.routeMatch.pathSpecifier.accepts engine q)

/-- The route forwards to the backend and no other one. -/
def ForwardsTo (route : Envoy.Route) (be : Backend) : Prop :=
  ∃ action cluster, route.action = .route action ∧ forwardClusters action = [cluster] ∧
    backendCluster be = .ok cluster

/-- The route taken for a path is that of the path that counts, if one matches. -/
structure RoutedByPath (engine : Envoy.RegexEngine) (ing : Ingress) (paths : List HTTPIngressPath)
    (routes : List (Option Envoy.Route)) (q : String) : Prop where
  matched : (∃ path ∈ paths, PathMatches path q) → ∃ path service route,
    pathFor paths q = some path ∧ path.backend.service = some service ∧
      firstByPath engine routes q = some route ∧ ForwardsTo route (backendOf ing service)
  unmatched : (∀ path ∈ paths, ¬ PathMatches path q) → firstByPath engine routes q = none

/-! ## Single paths -/

section

variable {engine : Envoy.RegexEngine} {path path' : HTTPIngressPath} {q : String}

theorem accepts_iff (engine : Envoy.RegexEngine) (hpath : AdmittedIngressPath path)
    (hq : hasPrefix q "/" = true) :
    (getPathSpecifier (routeOf opts ing path).pathMatch).accepts engine q = true ↔
      PathMatches path q := by
  rw [routeOf, PathMatches]
  rcases hpath.pathType with htype | htype
  · simp [htype, ingressPathMatch, getPathSpecifier, ne_empty_of_slash hpath.slash,
      Envoy.PathSpecifier.accepts]
  · rw [htype]
    exact accepts_prefixed engine hpath.slash (ne_empty_of_slash hq)

theorem one_lt_size (hpath : AdmittedIngressPath path) (hroot : path.path ≠ "/") :
    1 < (trimSuffix path.path "/").utf8ByteSize := by
  obtain ⟨cs, hcs⟩ := hasPrefix_iff.1 hpath.slash
  have hslash : "/".toList = ['/'] := rfl
  rw [hslash, singleton_append] at hcs
  obtain _ | ⟨c, cs⟩ := cs
  · exact absurd (String.toList_inj.1 hcs.symm) hroot
  cases hsuffix : hasSuffix path.path "/" with
  | false =>
    rw [trimSuffix_of_not hsuffix]
    exact one_lt_utf8ByteSize hcs.symm
  | true =>
    obtain ⟨l, hl⟩ := hasSuffix_iff.1 hsuffix
    rw [hslash] at hl
    obtain _ | ⟨a, _ | ⟨b, l⟩⟩ := l
    · exact absurd (hl.trans hcs.symm) (by simp)
    · -- the path would be two slashes
      refine absurd ?_ hpath.elements
      have ha := (List.cons.inj (hl.trans hcs.symm)).1
      rw [← hl, ha]
      exact infix_rfl
    · exact one_lt_utf8ByteSize (toList_trimSuffix hl.symm)

theorem size_le_of_matches (htype : path.pathType = some .pathPrefix) (h : PathMatches path q) :
    pathSize path ≤ q.utf8ByteSize := by
  rw [PathMatches, htype] at h
  rw [pathSize, htype, if_neg (by decide)]
  refine utf8ByteSize_le_of_isPrefix ?_
  rcases splitOn_isPrefix_iff.1 h with heq | hslash
  · rw [heq]
  · exact (prefix_append _ _).trans hslash

theorem specificity_routeOf (hpath : AdmittedIngressPath path) (hostnames : List String)
    (suffixMatch : Bool) :
    specificity (matchOf hostnames suffixMatch (routeOf opts ing path)) =
      (if path.pathType = some .exact then [pathSize path, 0, 0]
        else [0, 0, if path.path = "/" then 1 else pathSize path]) ++
      [(getHeaderMatchers hostnames suffixMatch [] none).length, 0] := by
  have hne := ne_empty_of_slash hpath.slash
  rw [specificity, matchOf, getRouteMatch, routeOf, pathSize]
  rcases hpath.pathType with htype | htype
  · simp [htype, ingressPathMatch, getPathSpecifier, hne, getQueryMatchers]
  · by_cases hroot : path.path = "/"
    · simp [htype, ingressPathMatch, getPathSpecifier, hroot, getQueryMatchers]
      rfl
    · simp [htype, ingressPathMatch, getPathSpecifier, hne, hroot, getQueryMatchers]

theorem specificity_le_iff (hpath : AdmittedIngressPath path)
    (hpath' : AdmittedIngressPath path') (hmatches : PathMatches path q)
    (hmatches' : PathMatches path' q) (hostnames : List String) (suffixMatch : Bool) :
    specificity (matchOf hostnames suffixMatch (routeOf opts ing path')) ≤
        specificity (matchOf hostnames suffixMatch (routeOf opts ing path)) ↔
      ¬ Preferred path' path := by
  have hexact {path : HTTPIngressPath} (htype : path.pathType = some .exact)
      (hpath : AdmittedIngressPath path) (hmatches : PathMatches path q) :
      pathSize path = q.utf8ByteSize ∧ 0 < q.utf8ByteSize := by
    rw [PathMatches, htype] at hmatches
    rw [pathSize, if_pos htype, hmatches]
    exact ⟨rfl, utf8ByteSize_pos (ne_empty_of_slash hpath.slash)⟩
  have hroot {path : HTTPIngressPath} (htype : path.pathType = some .pathPrefix)
      (hpath : AdmittedIngressPath path) :
      if path.path = "/" then pathSize path = 0 else 1 < pathSize path := by
    have hsize : pathSize path = (trimSuffix path.path "/").utf8ByteSize := by
      rw [pathSize, htype, if_neg (by decide)]
    rw [hsize]
    split_ifs with hroot
    · rw [hroot]
      rfl
    · exact one_lt_size hpath hroot
  rw [specificity_routeOf hpath, specificity_routeOf hpath', ← not_lt, Preferred, not_iff_not]
  rcases hpath.pathType with htype | htype <;> rcases hpath'.pathType with htype' | htype' <;>
    simp only [htype, htype', if_true, reduceCtorEq, Option.some.injEq, if_false, cons_append,
      nil_append, cons_lt_cons_iff, and_false, or_false, and_true,
      ne_eq, not_true_eq_false, not_false_eq_true, lt_irrefl, true_and, false_or]
  · have hsize := hexact htype hpath hmatches
    have hsize' := size_le_of_matches htype' hmatches'
    omega
  · have hsize := size_le_of_matches htype hmatches
    have hsize' := hexact htype' hpath' hmatches'
    omega
  · have hsize := hroot htype hpath
    have hsize' := hroot htype' hpath'
    split_ifs at hsize hsize' ⊢ <;> omega

theorem eq_of_getMatchKey (hpath : AdmittedIngressPath path) (hpath' : AdmittedIngressPath path')
    (h : (routeOf opts ing path).getMatchKey = (routeOf opts ing path').getMatchKey) :
    (path.pathType, path.path) = (path'.pathType, path'.path) := by
  have hsingle {path : HTTPIngressPath} (hpath : AdmittedIngressPath path) :
      (routeOf opts ing path).pathMatch.Single := by
    refine ⟨path.path, ne_empty_of_slash hpath.slash, ?_⟩
    rcases hpath.pathType with htype | htype
    · exact .inr (.inl (by rw [routeOf, htype]; rfl))
    · exact .inl (by rw [routeOf, htype]; rfl)
  have hkey : (routeOf opts ing path).pathMatch.toKey = (routeOf opts ing path').pathMatch.toKey := by
    have hchars := congrArg String.toList h
    rw [toList_getMatchKey, toList_getMatchKey] at hchars
    simpa [HTTPRoute.pieces, HTTPRoute.valuePieces, routeOf, sortMatches, String.toList_inj]
      using hchars
  have hmatch := (hsingle hpath).eq_of_toKey (hsingle hpath') hkey
  rw [routeOf, routeOf] at hmatch
  have hne := ne_empty_of_slash hpath.slash
  rcases hpath.pathType with htype | htype <;> rcases hpath'.pathType with htype' | htype' <;>
    simp_all [ingressPathMatch]

/-- The route of a group with one backend forwards to it. -/
theorem forwardsTo_of_performs {port : Nat} {group : List Model.HTTPRoute} {route : Envoy.Route}
    {be : Backend} (hperforms : Performs port group route.action)
    (hbackends : group.flatMap (·.backends) = [be]) : ForwardsTo route be := by
  generalize haction : route.action = action at hperforms
  cases hperforms with
  | forward _ hclusters =>
    rw [hbackends, mapM_cons, mapM_nil] at hclusters
    obtain ⟨cluster, hcluster, hclusters⟩ := bind_eq_ok.1 hclusters
    exact ⟨_, cluster, haction, (pure_eq_ok.1 hclusters).symm, hcluster⟩
  | redirect hnone _ | respond hnone _ _ =>
    rw [hbackends] at hnone
    exact absurd hnone (cons_ne_nil _ _)

theorem emitted_routeOf (opts : IngressOptions) (ing : Ingress) (hpath : AdmittedIngressPath path)
    (hostnames : List String) (suffixMatch : Bool) (port : Nat) :
    ∃ route service, emitted hostnames suffixMatch port [(routeOf opts ing path).sorted] =
        .ok (some route) ∧
      route.routeMatch = matchOf hostnames suffixMatch (routeOf opts ing path) ∧
      path.backend.service = some service ∧ ForwardsTo route (backendOf ing service) := by
  obtain ⟨service, hservice⟩ := Option.isSome_iff_exists.1 hpath.service
  have hbackends : (routeOf opts ing path).sorted.backends = [backendOf ing service] := by
    rw [HTTPRoute.sorted, routeOf, hservice]
    rfl
  have hserved : GroupServed [(routeOf opts ing path).sorted] := by
    rw [GroupServed, flatMap_singleton, hbackends, if_neg (cons_ne_nil _ _)]
    refine ⟨rfl, fun be hbe => ?_, fun _ h => by cases h⟩
    rw [mem_singleton.1 hbe]
    rfl
  obtain ⟨route, hroute, hperforms⟩ := hserved.emitted
  refine ⟨route, service, hroute, ?_, hservice, ?_⟩
  · exact (Option.some.inj (routeMatch_of_emitted hroute)).symm
  · exact forwardsTo_of_performs hperforms (by rw [flatMap_singleton, hbackends])

end

/-! ## All paths for a host -/

section

variable {h : String} {paths : List HTTPIngressPath}

theorem mem_pathsAt {path : HTTPIngressPath} :
    path ∈ pathsAt ing h ↔ ∃ rule ∈ ing.rules, hostOf rule = h ∧
      ∃ paths ∈ rule.http, path ∈ paths := by
  simp only [pathsAt, httpAt, mem_flatten, mem_filterMap, mem_filter, decide_eq_true_eq]
  constructor
  · rintro ⟨paths, ⟨rule, ⟨hrule, hhost⟩, hpaths⟩, hpath⟩
    exact ⟨rule, hrule, hhost, paths, hpaths, hpath⟩
  · rintro ⟨rule, hrule, hhost, paths, hpaths, hpath⟩
    exact ⟨paths, ⟨rule, ⟨hrule, hhost⟩, hpaths⟩, hpath⟩

theorem envoyHTTPRoutes_paths (opts : IngressOptions) (ing : Ingress)
    (hpaths : ∀ path ∈ paths, AdmittedIngressPath path)
    (hnodup : (paths.map fun path => (path.pathType, path.path)).Nodup) (hostnames : List String)
    (suffixMatch : Bool) (port : Nat) :
    ∃ made : HTTPIngressPath → Envoy.Route,
      envoyHTTPRoutes (paths.map (routeOf opts ing)) hostnames suffixMatch port =
        .ok ((paths.map made).map some) ∧
      ∀ path ∈ paths, (made path).routeMatch =
          matchOf hostnames suffixMatch (routeOf opts ing path) ∧
        ∃ service, path.backend.service = some service ∧
          ForwardsTo (made path) (backendOf ing service) := by
  have hkeys : ((paths.map (routeOf opts ing)).map (·.getMatchKey)).Nodup := by
    rw [map_map]
    exact hnodup.of_map.map_on fun path hpath path' hpath' hkey =>
      inj_on_of_nodup_map hnodup hpath hpath'
        (eq_of_getMatchKey (hpaths path hpath) (hpaths path' hpath') hkey)
  have : Nonempty Envoy.Route :=
    ⟨{ routeMatch := ⟨.prefixed "/", [], []⟩, action := .redirect {} }⟩
  have hmade (path : HTTPIngressPath) : ∃ route, path ∈ paths → ∃ service,
      emitted hostnames suffixMatch port [(routeOf opts ing path).sorted] = .ok (some route) ∧
        route.routeMatch = matchOf hostnames suffixMatch (routeOf opts ing path) ∧
        path.backend.service = some service ∧ ForwardsTo route (backendOf ing service) := by
    by_cases hpath : path ∈ paths
    · obtain ⟨route, hroute⟩ := emitted_routeOf opts ing (hpaths path hpath) hostnames suffixMatch
        port
      exact ⟨route, fun _ => hroute⟩
    · exact ⟨Classical.arbitrary _, fun h => absurd h hpath⟩
  choose made hmade using hmade
  refine ⟨made, ?_, fun path hpath => ?_⟩
  · rw [envoyHTTPRoutes_of_nodup hkeys, mapM_map, map_map]
    refine mapM_eq_map fun path hpath => ?_
    obtain ⟨_, hemitted, _⟩ := hmade path hpath
    exact hemitted
  · obtain ⟨service, _, hmatch, hservice, hforwards⟩ := hmade path hpath
    exact ⟨hmatch, service, hservice, hforwards⟩

/-- The first of the sorted routes that accepts a path is that of the path that counts. -/
theorem routedByPath_sorted (engine : Envoy.RegexEngine)
    (hpaths : ∀ path ∈ paths, AdmittedIngressPath path) {hostnames : List String}
    {suffixMatch : Bool} {made : HTTPIngressPath → Envoy.Route}
    (hmade : ∀ path ∈ paths, (made path).routeMatch =
        matchOf hostnames suffixMatch (routeOf opts ing path) ∧
      ∃ service, path.backend.service = some service ∧
        ForwardsTo (made path) (backendOf ing service))
    {q : String} (hq : hasPrefix q "/" = true) :
    RoutedByPath engine ing paths
      (((paths.map made).insertionSort fun a b => routeLess b a = false).map some) q := by
  have haccepts (path : HTTPIngressPath) (hpath : path ∈ paths) :
      (made path).routeMatch.pathSpecifier.accepts engine q = true ↔ PathMatches path q := by
    rw [(hmade path hpath).1]
    exact accepts_iff engine (hpaths path hpath) hq
  have hless (a b : Envoy.Route) : routeLess b a = false ↔
      OrderDual.toDual (specificity a.routeMatch) ≤ OrderDual.toDual (specificity b.routeMatch) :=
    routeLess_eq_false
  have hle {path path' : HTTPIngressPath} (hpath : path ∈ paths) (hpath' : path' ∈ paths)
      (hmatches : PathMatches path q) (hmatches' : PathMatches path' q) :
      specificity (made path').routeMatch ≤ specificity (made path).routeMatch ↔
        ¬ Preferred path' path := by
    rw [(hmade path hpath).1, (hmade path' hpath').1]
    exact specificity_le_iff (hpaths path hpath) (hpaths path' hpath') hmatches hmatches' _ _
  cases hfound : ((paths.map made).insertionSort fun a b => routeLess b a = false).find?
      (·.routeMatch.pathSpecifier.accepts engine q) with
  | none =>
    refine ⟨?_, fun _ => by rw [firstByPath, reduceOption_map_some, hfound]⟩
    rintro ⟨path, hpath, hmatches⟩
    refine absurd ((haccepts path hpath).2 hmatches) (find?_eq_none.1 hfound _ ?_)
    exact (mem_insertionSort _).2 (mem_map_of_mem hpath)
  | some route =>
    obtain ⟨hgreatest, hfirst⟩ := find?_insertionSort hless hfound
    rw [find?_map] at hfirst
    obtain ⟨path, hfirst, rfl⟩ := Option.map_eq_some_iff.1 hfirst
    have hpath := mem_of_find?_eq_some hfirst
    have haccepted := find?_some hfound
    have hmatches := (haccepts path hpath).1 haccepted
    obtain ⟨_, service, hservice, hforwards⟩ := hmade path hpath
    refine ⟨fun _ => ⟨path, service, made path, ?_, hservice, ?_, hforwards⟩, fun hnone => ?_⟩
    · -- a path is as specific as the one found if no other is preferred to it
      refine (find?_congr fun path' hpath' => ?_).trans hfirst
      rw [Bool.eq_iff_iff, decide_eq_true_iff, Function.comp_apply, Bool.and_eq_true,
        haccepts path' hpath']
      refine and_congr_right fun hmatches' => Iff.trans ?_ (@decide_eq_true_iff _ (_)).symm
      refine ⟨fun hbest => ?_, fun hsame other hother hmatch => ?_⟩
      · refine le_antisymm ((hle hpath' hpath hmatches' hmatches).2 (hbest path hpath hmatches)) ?_
        exact hgreatest _ (mem_map_of_mem hpath') ((haccepts path' hpath').2 hmatches')
      · rw [← hle hpath' hother hmatches' hmatch]
        have hgreater := hgreatest _ (mem_map_of_mem hother) ((haccepts other hother).2 hmatch)
        rw [← hsame] at hgreater
        exact hgreater
    · rw [firstByPath, reduceOption_map_some, hfound]
    · exact absurd hmatches (hnone path hpath)

theorem PathIngress.ingestible (hing : PathIngress ing) : Ingestible ing := by
  refine ⟨fun be hbe => ?_, fun rule hrule paths hpaths path hpath => ?_⟩
  · rw [hing.defaultBackend] at hbe
    cases hbe
  · have hadmitted := hing.paths rule hrule paths hpaths path hpath
    refine ⟨?_, hadmitted.service⟩
    rcases hadmitted.pathType with htype | htype <;> rw [htype] <;> rfl

end

theorem routedByPath (engine : Envoy.RegexEngine) {opts : IngressOptions} {ing : Ingress}
    (hing : PathIngress ing) {h : String}
    (hrule : ∃ rule ∈ ing.rules, hostOf rule = h ∧ rule.http.isSome) (suffixMatch : Bool)
    (port : Nat) :
    ∃ ls l vh, ingress opts ing = .ok ls ∧ ls.find? (fun l => l.hostname = h) = some l ∧
      newVirtualHost l.routes ⟨[h], false, suffixMatch, port⟩ = .ok vh ∧
      ∀ q, hasPrefix q "/" = true →
        RoutedByPath engine ing (pathsAt ing h) vh.routes q := by
  have hpaths (path : HTTPIngressPath) (hpath : path ∈ pathsAt ing h) :
      AdmittedIngressPath path := by
    obtain ⟨rule, hrule, _, paths, hpaths, hpath⟩ := mem_pathsAt.1 hpath
    exact hing.paths rule hrule paths hpaths path hpath
  obtain ⟨ls, hls⟩ : ∃ ls, ingress opts ing = .ok ls := exists_ingress_iff.2 hing.ingestible
  obtain ⟨l, hl⟩ := exists_insecureAt opts (httpAt_ne_nil_iff.2 hrule)
  have hroutes : l.routes = (pathsAt ing h).map (routeOf opts ing) := by
    rw [routes_of_insecureAt hl, routesAt, defaultAt, hing.defaultBackend, ite_self]
    rfl
  obtain ⟨made, hgenerated, hmade⟩ :=
    envoyHTTPRoutes_paths opts ing hpaths (hing.distinct h) [h] suffixMatch port
  refine ⟨ls, l, _, hls, ?_, newVirtualHost_eq_ok.2 ⟨_, _, ?_, sortRoutes_map_some _, rfl⟩,
    fun q hq => routedByPath_sorted engine hpaths hmade hq⟩
  · -- the listener without TLS comes first
    rw [← head?_filter, ingress_eq_ok hls, hl]
    rfl
  · rw [hroutes, hgenerated]

/-- An Ingress for all paths, with a Service for one of them. -/
def loginIngress : Ingress where
  name := "shop"
  ns := "team"
  ingressClassName := some "dolphin"
  rules := [{
    host := "shop.example"
    http := some [
      { path := "/", pathType := some .pathPrefix, backend := ⟨some ⟨"shop", { number := 80 }⟩⟩ },
      { path := "/login", pathType := some .exact, backend := ⟨some ⟨"login", { number := 80 }⟩⟩ }] }]

theorem pathIngress_loginIngress : PathIngress loginIngress := by
  refine ⟨rfl, fun rule hrule paths hpaths path hpath => ?_, fun h => ?_⟩
  · obtain rfl := mem_singleton.1 hrule
    obtain rfl := Option.some.inj hpaths
    simp only [mem_cons, not_mem_nil, or_false] at hpath
    rcases hpath with rfl | rfl
    · exact ⟨.inr rfl, by decide, by decide, rfl⟩
    · exact ⟨.inl rfl, by decide, by decide, rfl⟩
  · by_cases hhost : "shop.example" = h
    · subst hhost
      decide
    · have hnone : pathsAt loginIngress h = [] := by
        simp [pathsAt, httpAt, loginIngress, hostOf, hhost]
      rw [hnone]
      exact nodup_nil

theorem routedByPath_login :
    pathFor (pathsAt loginIngress "shop.example") "/login" = some
        ⟨"/login", some .exact, ⟨some ⟨"login", { number := 80 }⟩⟩⟩ ∧
      ∃ ls l vh, ingress {} loginIngress = .ok ls ∧
        ls.find? (fun l => l.hostname = "shop.example") = some l ∧
        newVirtualHost l.routes ⟨["shop.example"], false, false, 80⟩ = .ok vh ∧
        RoutedByPath literalEngine loginIngress (pathsAt loginIngress "shop.example") vh.routes
          "/login" := by
  obtain ⟨ls, l, vh, hls, hl, hvh, hrouted⟩ := routedByPath literalEngine pathIngress_loginIngress
    ⟨_, mem_cons_self, rfl, rfl⟩ false 80
  exact ⟨by decide, ls, l, vh, hls, hl, hvh, hrouted "/login" (by decide)⟩

end Pipeline
