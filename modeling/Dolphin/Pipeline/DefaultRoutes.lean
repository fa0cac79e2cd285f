import Dolphin.Pipeline.ForcedHTTPS

/-!
# The route for the default backend

The default backend of an Ingress is a route like those of its paths, for the host `*`. It comes
first there, and a host with TLS but no secret has a copy of all routes for `*` besides its own
(`FallsBack`). It is as specific as the route for the prefix `/`, and less than any other.

* `routesFor_fallsBack`, `routesFor_of_not_fallsBack`: the routes of a host without TLS;
* `configuredHosts_iff`: the hosts that have some, or are redirected;
* `eq_defaultRoute_of_defaultFirst`, `defaultFirst_of_eq_defaultRoute`: when the route for the
  default backend is the one that counts.
-/

namespace Pipeline

open Model Go Networkingv1 Annotations Ingestion Translation IngressController List

variable {engine : Envoy.RegexEngine} {req : Envoy.Request} {ing : Ingress}
  {service : IngressServiceBackend} {path : HTTPIngressPath} {h : String} {x : HTTPRoute}

/-- An Ingress with a default backend, as the API server admits it. -/
structure DefaultedIngress (ing : Ingress) (service : IngressServiceBackend) : Prop where
  defaultBackend : ing.defaultBackend = some ⟨some service⟩
  paths : ∀ rule ∈ ing.rules, ∀ paths ∈ rule.http, ∀ path ∈ paths, AdmittedIngressPath path
  hosts : ∀ rule ∈ ing.rules, rule.host = "" ∨ ∃ p : DNS.Pattern, rule.host = String.ofList p.text
  tlsHosts : ∀ entry ∈ ing.tls, ∀ h ∈ entry.hosts, ∃ p : DNS.Pattern, h = String.ofList p.text

/-- The Service of the path is that of the cluster. -/
def HasCluster (ing : Ingress) (path : HTTPIngressPath) (cluster : String) : Prop :=
  ∃ service, path.backend.service = some service ∧
    backendCluster (backendOf ing service) = .ok cluster

/-- The last TLS entry for the host has a secret. -/
def LastHasSecret (r : IngressReconciler) (ing : Ingress) (h : String) : Prop :=
  ∃ entry ∈ (entriesFor ing h).getLast?, HasSecret r entry

/-- The host has the routes of `*` without TLS: it is `*`, or has TLS but no secret. -/
def FallsBack (r : IngressReconciler) (ing : Ingress) (h : String) : Prop :=
  h = "*" ∨ ∃ entry ∈ (entriesFor ing h).getLast?, ¬ HasSecret r entry

/-- The paths for a host that are not those of `*`. -/
def ownPaths (ing : Ingress) (h : String) : List HTTPIngressPath :=
  if h = "*" then [] else pathsAt ing h

/-- The hosts that have a virtual host without TLS. -/
def HostServed (r : IngressReconciler) (ing : Ingress) (h : String) : Prop :=
  ownPaths ing h ≠ [] ∨ FallsBack r ing h ∨ (r.enforcedHTTPS = true ∧ LastHasSecret r ing h)

/-- The path is the prefix `/`, which matches everything. -/
def IsRoot (path : HTTPIngressPath) : Prop := path.pathType = some .pathPrefix ∧ path.path = "/"

/-- The route of the default backend is the one that counts for the host. No path of its own
    matches, and of those without a host at most `/`. -/
structure DefaultFirst (r : IngressReconciler) (ing : Ingress) (h q : String) : Prop where
  fallsBack : FallsBack r ing h
  own : ∀ path ∈ ownPaths ing h, ¬ PathMatches path q
  hostless : ∀ path ∈ pathsAt ing "*", PathMatches path q → IsRoot path

/-! ## Single routes -/

section

variable {opts : IngressOptions}

theorem accepts_matchOf (x : HTTPRoute) (hheaders : x.headersMatch = [])
    (hquery : x.queryParamsMatch = []) (hmethod : x.method = none) :
    (matchOf [h] false x).accepts engine req = true ↔
      (∀ matcher ∈ addedMatchers h false, matcher.accepts engine req = true) ∧
        (getPathSpecifier x.pathMatch).accepts engine req.path = true := by
  rw [matchOf, hheaders, hquery, hmethod, accepts_getRouteMatch]

theorem accepts_routeOf (hpath : AdmittedIngressPath path) (hq : hasPrefix req.path "/" = true) :
    (matchOf [h] false (routeOf opts ing path)).accepts engine req = true ↔
      (∀ matcher ∈ addedMatchers h false, matcher.accepts engine req = true) ∧
        PathMatches path req.path := by
  rw [accepts_matchOf _ rfl rfl rfl, accepts_iff engine hpath hq]

theorem accepts_defaultRoute (hq : hasPrefix req.path "/" = true) (be : IngressBackend) :
    (matchOf [h] false (defaultRoute opts ing be)).accepts engine req = true ↔
      ∀ matcher ∈ addedMatchers h false, matcher.accepts engine req = true := by
  rw [accepts_matchOf _ rfl rfl rfl]
  exact and_iff_left hq

theorem pathMatch_routeOf_ne (hpath : AdmittedIngressPath path) (be : IngressBackend) :
    (routeOf opts ing path).pathMatch ≠ (defaultRoute opts ing be).pathMatch := by
  have hne := ne_empty_of_slash hpath.slash
  rcases hpath.pathType with htype | htype <;>
    simp [routeOf, defaultRoute, htype, ingressPathMatch, hne]

theorem specificity_defaultRoute (be : IngressBackend) :
    specificity (matchOf [h] false (defaultRoute opts ing be)) =
      [0, 0, 1, (getHeaderMatchers [h] false [] none).length, 0] := rfl

/-- The route for the default backend is as specific as that for the prefix `/`. -/
theorem specificity_of_isRoot (hpath : AdmittedIngressPath path) (be : IngressBackend)
    (hroot : IsRoot path) : specificity (matchOf [h] false (routeOf opts ing path)) =
      specificity (matchOf [h] false (defaultRoute opts ing be)) := by
  rw [specificity_routeOf hpath, specificity_defaultRoute, hroot.1, hroot.2]
  rfl

theorem specificity_lt_of_not_isRoot (hpath : AdmittedIngressPath path) (be : IngressBackend)
    (hroot : ¬ IsRoot path) : specificity (matchOf [h] false (defaultRoute opts ing be)) <
      specificity (matchOf [h] false (routeOf opts ing path)) := by
  rw [specificity_routeOf hpath, specificity_defaultRoute, pathSize]
  rcases hpath.pathType with htype | htype
  · rw [if_pos htype, if_pos htype]
    exact cons_lt_cons_iff.2 (.inl (utf8ByteSize_pos (ne_empty_of_slash hpath.slash)))
  · have hne : path.path ≠ "/" := fun heq => hroot ⟨htype, heq⟩
    have hexact : path.pathType ≠ some .exact := by simp [htype]
    rw [if_neg hexact, if_neg hexact, if_neg hne]
    refine cons_lt_cons_iff.2 (.inr ⟨rfl, cons_lt_cons_iff.2 (.inr ⟨rfl, ?_⟩)⟩)
    exact cons_lt_cons_iff.2 (.inl (one_lt_size hpath hne))

end

/-! ## The routes of a host -/

section

variable {r : IngressReconciler} {ports : Nat × Nat × Nat} {m : Model}

theorem routesAt_of_ne (opts : IngressOptions) (hne : h ≠ "*") :
    routesAt opts ing h = (pathsAt ing h).map (routeOf opts ing) := by
  rw [routesAt, defaultAt, if_neg hne]
  rfl

theorem mem_ownPaths : path ∈ ownPaths ing h ↔ h ≠ "*" ∧ path ∈ pathsAt ing h := by
  rw [ownPaths]
  split_ifs with hstar
  · simp [hstar]
  · simp [hstar]

theorem isSome_lastSecrets {entry : IngressTLS} {secure : Bool} :
    (entrySecrets (r.options ports) ing entry none).isSome = secure ↔
      (HasSecret r entry ↔ secure = true) := by
  have hsecret : (entrySecrets (r.options ports) ing entry none).isSome = true ↔
      HasSecret r entry := (isSome_entrySecrets r ports).trans (or_iff_left Bool.false_ne_true)
  rw [← hsecret, ← Bool.eq_iff_iff]

theorem plain_of_mem_routesFor (hls : ingress (r.options ports) ing = .ok m.http) {secure : Bool}
    (hx : x ∈ routesFor m secure h) : PlainRoute ing x := by
  obtain ⟨l, hl, _, hx, _⟩ := mem_routesFor.1 hx
  exact (ownedBy_of_ingress hls hl).routes x hx

variable (hing : DefaultedIngress ing service)

include hing

theorem routesAt_star (opts : IngressOptions) : routesAt opts ing "*" =
      defaultRoute opts ing ⟨some service⟩ :: (pathsAt ing "*").map (routeOf opts ing) := by
  rw [routesAt, defaultAt, if_pos rfl, hing.defaultBackend]
  rfl

theorem entriesFor_star : entriesFor ing "*" = [] := by
  refine eq_nil_iff_forall_not_mem.2 fun entry hentry => ?_
  obtain ⟨hentry, hstar⟩ := mem_entriesFor.1 hentry
  obtain ⟨p, hp⟩ := hing.tlsHosts entry hentry "*" hstar
  exact pattern_ne_star p hp.symm

/-- The hosts with the routes of `*` are not redirected. -/
theorem not_lastHasSecret (hfalls : FallsBack r ing h) : ¬ LastHasSecret r ing h := by
  rintro ⟨entry, hentry, hsecret⟩
  rcases hfalls with rfl | ⟨entry', hentry', hnot⟩
  · rw [entriesFor_star hing] at hentry
    cases hentry
  · exact hnot (Option.mem_unique hentry' hentry ▸ hsecret)

theorem admitted_of_mem_pathsAt (hpath : path ∈ pathsAt ing h) : AdmittedIngressPath path := by
  obtain ⟨rule, hrule, _, paths, hpaths, hpath⟩ := mem_pathsAt.1 hpath
  exact hing.paths rule hrule paths hpaths path hpath

theorem admitted_of_mem (hpath : path ∈ ownPaths ing h ∨ path ∈ pathsAt ing "*") :
    AdmittedIngressPath path := by
  rcases hpath with hpath | hpath
  · exact admitted_of_mem_pathsAt hing (mem_ownPaths.1 hpath).2
  · exact admitted_of_mem_pathsAt hing hpath

variable (hls : ingress (r.options ports) ing = .ok m.http)

include hls

/-- The routes of a host are its own, without TLS, and those for `*`, by the last TLS entry. -/
theorem routesFor_defaulted (secure : Bool) (h : String) :
    routesFor m secure h = (if secure then [] else routesAt (r.options ports) ing h) ++
      (((entriesFor ing h).getLast?.toList.filter fun entry =>
        (entrySecrets (r.options ports) ing entry none).isSome = secure).flatMap
          fun _ => routesAt (r.options ports) ing "*") := by
  obtain ⟨star, hstar⟩ : ∃ star, insecureAt (r.options ports) ing "*" = some star :=
    exists_insecureAt_iff.2 (.inr ⟨rfl, by rw [hing.defaultBackend]; rfl⟩)
  rw [routesFor_ingress hls, filter_append, flatMap_append]
  congr 1
  · cases hown : insecureAt (r.options ports) ing h with
    | none => simp [routesAt_eq_nil hown]
    | some l =>
      have htls : l.secure = false := by
        obtain ⟨_, rfl⟩ := insecureAt_eq_some.1 hown
        rfl
      cases secure <;> simp [htls, routes_of_insecureAt hown]
  · rw [secureAt, hstar, ← routes_of_insecureAt hstar]
    cases (entriesFor ing h).getLast? with
    | none => rfl
    | some entry =>
      by_cases hsecure : (entrySecrets (r.options ports) ing entry none).isSome = secure <;>
        simp [HTTPListener.secure, hsecure]

theorem routesFor_fallsBack (hfalls : FallsBack r ing h) :
    routesFor m false h = (ownPaths ing h).map (routeOf (r.options ports) ing) ++
      routesAt (r.options ports) ing "*" := by
  rw [routesFor_defaulted hing hls, ownPaths]
  by_cases hstar : h = "*"
  · simp [hstar, entriesFor_star hing]
  · obtain ⟨entry, hentry, hsecret⟩ := hfalls.resolve_left hstar
    have hnone : (entrySecrets (r.options ports) ing entry none).isSome = false :=
      isSome_lastSecrets.2 (iff_of_false hsecret Bool.false_ne_true)
    rw [hentry, Option.toList_some, filter_cons_of_pos (by simpa using hnone)]
    simp [hstar, routesAt_of_ne]

theorem routesFor_of_not_fallsBack (hfalls : ¬ FallsBack r ing h) :
    routesFor m false h = (ownPaths ing h).map (routeOf (r.options ports) ing) := by
  obtain ⟨hstar, hsecrets⟩ := not_or.1 hfalls
  rw [routesFor_defaulted hing hls, ownPaths, filter_eq_nil_iff.2 fun entry hentry => ?_]
  · simp [hstar, routesAt_of_ne]
  · rw [decide_eq_true_eq, isSome_lastSecrets]
    intro hsecret
    exact hsecrets ⟨entry, Option.mem_toList.1 hentry, mt hsecret.1 Bool.false_ne_true⟩

theorem routesFor_secure_ne_nil_iff : routesFor m true h ≠ [] ↔ LastHasSecret r ing h := by
  rw [routesFor_defaulted hing hls, LastHasSecret, routesAt_star hing]
  cases (entriesFor ing h).getLast? with
  | none => simp
  | some entry =>
    by_cases hsecret : HasSecret r entry
    · have hsome : (entrySecrets (r.options ports) ing entry none).isSome = true :=
        isSome_lastSecrets.2 (iff_of_true hsecret rfl)
      simp [hsome, hsecret]
    · have hnone : (entrySecrets (r.options ports) ing entry none).isSome = false :=
        isSome_lastSecrets.2 (iff_of_false hsecret Bool.false_ne_true)
      simp [hnone, hsecret]

/-- The routes of a host without TLS are that for the default backend and those for paths. -/
theorem mem_routesFor_defaulted (hx : x ∈ routesFor m false h) :
    x = defaultRoute (r.options ports) ing ⟨some service⟩ ∨
      ∃ path, (path ∈ ownPaths ing h ∨ path ∈ pathsAt ing "*") ∧
        x = routeOf (r.options ports) ing path := by
  by_cases hfalls : FallsBack r ing h
  · rw [routesFor_fallsBack hing hls hfalls, routesAt_star hing, mem_append,
      mem_cons, mem_map, mem_map] at hx
    rcases hx with ⟨path, hpath, rfl⟩ | rfl | ⟨path, hpath, rfl⟩
    · exact .inr ⟨path, .inl hpath, rfl⟩
    · exact .inl rfl
    · exact .inr ⟨path, .inr hpath, rfl⟩
  · rw [routesFor_of_not_fallsBack hing hls hfalls, mem_map] at hx
    obtain ⟨path, hpath, rfl⟩ := hx
    exact .inr ⟨path, .inl hpath, rfl⟩

theorem redirected_iff (name ns : String) : Redirected (r.translator name ns) m false h ↔
      r.enforcedHTTPS = true ∧ LastHasSecret r ing h := by
  rw [← routesFor_secure_ne_nil_iff hing hls, routesFor_ne_nil_iff]
  exact and_iff_right rfl

theorem configuredHosts_iff (name ns : String) :
    configuredHosts (r.translator name ns) m false h ↔ HostServed r ing h := by
  have hstar : "*" ∈ hostsFor m false := by
    rw [← routesFor_ne_nil_iff, routesFor_fallsBack hing hls (.inl rfl), routesAt_star hing]
    simp
  have hinsecure : h ∈ hostsFor m false ↔ ownPaths ing h ≠ [] ∨ FallsBack r ing h := by
    rw [← routesFor_ne_nil_iff]
    by_cases hfalls : FallsBack r ing h
    · rw [routesFor_fallsBack hing hls hfalls, routesAt_star hing]
      simp [hfalls]
    · rw [routesFor_of_not_fallsBack hing hls hfalls]
      simp [hfalls]
  rw [configuredHosts, and_iff_right (ne_nil_of_mem hstar), hinsecure,
    redirected_iff hing hls, HostServed, or_assoc]

theorem pathMatch_eq_of_mem_routesFor {y : HTTPRoute} (hx : x ∈ routesFor m false h)
    (hy : y ∈ routesFor m false h) (hkey : x.getMatchKey = y.getMatchKey) :
    x.pathMatch = y.pathMatch := by
  have hone {x : HTTPRoute} (hx : x ∈ routesFor m false h) : x.pathMatch.AtMostOne := by
    rcases mem_routesFor_defaulted hing hls hx with rfl | ⟨path, _, rfl⟩
    · exact .inr rfl
    · exact atMostOne_routeOf path
  exact pathMatch_eq_of_getMatchKey (plain_of_mem_routesFor hls hx)
    (plain_of_mem_routesFor hls hy) (hone hx) (hone hy) hkey

variable {port : Nat} {vh : Envoy.VirtualHost}

theorem firstMatch_defaulted (engine : Envoy.RegexEngine) (req : Envoy.Request)
    (hvh : newVirtualHost (routesFor m false h) ⟨[h], false, false, port⟩ = .ok vh) :
    ((firstMatch engine vh.routes req).isSome ↔
      ∃ x ∈ routesFor m false h, (matchOf [h] false x).accepts engine req = true) ∧
    ∀ route, firstMatch engine vh.routes req = some route →
      ∃ x, Counts engine (routesFor m false h) h false req x ∧
        Performs port (groupAt (routesFor m false h) x.getMatchKey) route.action := by
  refine firstMatch_of_served (fun k hk => ?_) (fun x hx y hy hkey => ?_) hvh
  · exact groupServed_of_plain (fun x hx => ⟨ing, plain_of_mem_routesFor hls hx⟩) hk
  · have hpath := pathMatch_eq_of_mem_routesFor hing hls hx hy hkey
    have hplain := plain_of_mem_routesFor hls hx
    have hplain' := plain_of_mem_routesFor hls hy
    simp only [matchOf, HTTPRoute.sorted, hpath, hplain.headersMatch, hplain'.headersMatch,
      hplain.queryParamsMatch, hplain'.queryParamsMatch, hplain.method, hplain'.method, sortMatches,
      insertionSort_nil]

section

variable (hq : hasPrefix req.path "/" = true)
  (hreq : ∀ matcher ∈ addedMatchers h false, matcher.accepts engine req = true)
  (hcounts : Counts engine (routesFor m false h) h false req x)

include hq hreq hcounts

/-- The route for the default backend counts if no more specific one matches, nor one of the
    host's own. -/
theorem eq_defaultRoute_of_defaultFirst (hdefault : DefaultFirst r ing h req.path) :
    x = defaultRoute (r.options ports) ing ⟨some service⟩ := by
  have hfirst := hcounts.first
  have hown {path : HTTPIngressPath} (hpath : path ∈ ownPaths ing h) :
      ¬ (matchOf [h] false (routeOf (r.options ports) ing path)).accepts engine req = true := by
    rw [accepts_routeOf (admitted_of_mem hing (.inl hpath)) hq, and_iff_right hreq]
    exact hdefault.own path hpath
  have hspecificity : specificity (matchOf [h] false
      (defaultRoute (r.options ports) ing ⟨some service⟩)) = specificity (matchOf [h] false x) := by
    have haccepts := hcounts.accepts
    rcases mem_routesFor_defaulted hing hls hcounts.mem with rfl | ⟨path, hpath | hpath, rfl⟩
    · rfl
    · exact absurd haccepts (hown hpath)
    · have hadmitted := admitted_of_mem_pathsAt hing hpath
      rw [accepts_routeOf hadmitted hq, and_iff_right hreq] at haccepts
      exact (specificity_of_isRoot hadmitted _ (hdefault.hostless path hpath haccepts)).symm
  rw [routesFor_fallsBack hing hls hdefault.fallsBack, routesAt_star hing, find?_append,
    find?_eq_none.2 fun y hy => ?_, Option.none_or, find?_cons_of_pos] at hfirst
  · exact (Option.some.inj hfirst).symm
  · rw [(accepts_defaultRoute hq _).2 hreq, hspecificity, decide_eq_true rfl]
    rfl
  · obtain ⟨path, hpath, rfl⟩ := mem_map.1 hy
    rw [Bool.and_eq_true, not_and]
    exact fun haccepts => absurd haccepts (hown hpath)

/-- It only counts then, as it is the least specific route and comes after the host's own. -/
theorem defaultFirst_of_eq_defaultRoute (hx : x = defaultRoute (r.options ports) ing ⟨some service⟩) :
    DefaultFirst r ing h req.path := by
  subst hx
  have hfirst := hcounts.first
  have haccepts {path : HTTPIngressPath} (hpath : AdmittedIngressPath path)
      (hmatches : PathMatches path req.path) :
      (matchOf [h] false (routeOf (r.options ports) ing path)).accepts engine req = true :=
    (accepts_routeOf hpath hq).2 ⟨hreq, hmatches⟩
  have hroot {path : HTTPIngressPath} (hpath : AdmittedIngressPath path)
      (hmem : routeOf (r.options ports) ing path ∈ routesFor m false h)
      (hmatches : PathMatches path req.path) : IsRoot path := by
    by_contra hroot
    exact absurd (hcounts.greatest _ hmem (haccepts hpath hmatches))
      (not_le.2 (specificity_lt_of_not_isRoot hpath _ hroot))
  have hne {path : HTTPIngressPath} (hpath : path ∈ ownPaths ing h) :
      routeOf (r.options ports) ing path ≠ defaultRoute (r.options ports) ing ⟨some service⟩ :=
    fun heq => pathMatch_routeOf_ne (admitted_of_mem hing (.inl hpath)) _
      (congrArg HTTPRoute.pathMatch heq)
  have hfalls : FallsBack r ing h := by
    by_contra hfalls
    have hmem := hcounts.mem
    rw [routesFor_of_not_fallsBack hing hls hfalls] at hmem
    obtain ⟨path, hpath, heq⟩ := mem_map.1 hmem
    exact hne hpath heq
  rw [routesFor_fallsBack hing hls hfalls, routesAt_star hing] at hroot hfirst
  refine ⟨hfalls, fun path hpath hmatches => ?_, fun path hpath hmatches => ?_⟩
  · -- a route of the host's own would be found before
    have hadmitted := admitted_of_mem hing (.inl hpath)
    have hmem := mem_map_of_mem (f := routeOf (r.options ports) ing) hpath
    rw [find?_append] at hfirst
    cases hfound : ((ownPaths ing h).map (routeOf (r.options ports) ing)).find? _ with
    | some y =>
      rw [hfound] at hfirst
      obtain ⟨path', hpath', rfl⟩ := mem_map.1 (mem_of_find?_eq_some hfound)
      exact hne hpath' (Option.some.inj hfirst)
    | none =>
      refine find?_eq_none.1 hfound _ hmem ?_
      rw [haccepts hadmitted hmatches, decide_eq_true (specificity_of_isRoot hadmitted _
        (hroot hadmitted (mem_append_left _ hmem) hmatches))]
      rfl
  · exact hroot (admitted_of_mem_pathsAt hing hpath) (mem_append_right _
      (mem_cons_of_mem _ (mem_map_of_mem hpath))) hmatches

end

theorem eq_default_of_getMatchKey {y : HTTPRoute} (hx : x ∈ routesFor m false h)
    (hy : y ∈ routesFor m false h)
    (hdefault : x = defaultRoute (r.options ports) ing ⟨some service⟩)
    (hkey : y.getMatchKey = x.getMatchKey) : y = x := by
  have hpath := pathMatch_eq_of_mem_routesFor hing hls hy hx hkey
  rcases mem_routesFor_defaulted hing hls hy with rfl | ⟨path, hmem, rfl⟩
  · exact hdefault.symm
  · rw [hdefault] at hpath
    exact absurd hpath (pathMatch_routeOf_ne (admitted_of_mem hing hmem) _)

theorem forwardsTo_default (hfalls : FallsBack r ing h) {route : Envoy.Route}
    (hperforms : Performs port (groupAt (routesFor m false h)
      (defaultRoute (r.options ports) ing ⟨some service⟩).getMatchKey) route.action) :
    ForwardsTo route (backendOf ing service) := by
  generalize hdefault : defaultRoute (r.options ports) ing ⟨some service⟩ = x at hperforms
  have hroutes := routesFor_fallsBack hing hls hfalls
  rw [routesAt_star hing, hdefault] at hroutes
  have hx : x ∈ routesFor m false h := hroutes ▸ mem_append_right _ mem_cons_self
  have hother (paths : List HTTPIngressPath) (hpaths : ∀ path ∈ paths,
      (path ∈ ownPaths ing h ∨ path ∈ pathsAt ing "*") ∧
        routeOf (r.options ports) ing path ∈ routesFor m false h) :
      (paths.map (routeOf (r.options ports) ing)).filter (·.getMatchKey = x.getMatchKey) = [] := by
    refine filter_eq_nil_iff.2 fun y hy hkey => ?_
    obtain ⟨path, hpath, rfl⟩ := mem_map.1 hy
    obtain ⟨hpath, hmem⟩ := hpaths path hpath
    have heq := eq_default_of_getMatchKey hing hls hx hmem hdefault.symm (of_decide_eq_true hkey)
    exact pathMatch_routeOf_ne (admitted_of_mem hing hpath) _
      (congrArg HTTPRoute.pathMatch (heq.trans hdefault.symm))
  have hfilter : (routesFor m false h).filter (·.getMatchKey = x.getMatchKey) = [x] := by
    rw [hroutes, filter_append, filter_cons_of_pos (by simp), hother, hother]
    · rfl
    · intro path hpath
      rw [hroutes]
      exact ⟨.inr hpath, mem_append_right _ (mem_cons_of_mem _ (mem_map_of_mem hpath))⟩
    · intro path hpath
      rw [hroutes]
      exact ⟨.inl hpath, mem_append_left _ (mem_map_of_mem hpath)⟩
  refine forwardsTo_of_performs hperforms ?_
  rw [groupAt, hfilter, ← hdefault]
  rfl

/-- The clusters of a route that is not for the default backend are those of paths that match. -/
theorem exists_path_of_performs (hq : hasPrefix req.path "/" = true)
    (hcounts : Counts engine (routesFor m false h) h false req x)
    (hne : x ≠ defaultRoute (r.options ports) ing ⟨some service⟩) {action : Envoy.RouteAction}
    (hperforms : Performs port (groupAt (routesFor m false h) x.getMatchKey) (.route action))
    {cluster : String} (hcluster : cluster ∈ forwardClusters action) :
    ∃ path, (path ∈ ownPaths ing h ∨ path ∈ pathsAt ing "*") ∧ PathMatches path req.path ∧
      HasCluster ing path cluster := by
  cases hperforms with
  | forward _ hclusters =>
    obtain ⟨be, hbe, hcluster⟩ := (mem_mapM hclusters).1 hcluster
    obtain ⟨z, hz, hbe⟩ := mem_flatMap.1 hbe
    obtain ⟨y, hy, rfl⟩ := mem_map.1 hz
    obtain ⟨hy, hkey⟩ := mem_filter.1 hy
    have hkey := of_decide_eq_true hkey
    rcases mem_routesFor_defaulted hing hls hy with hdefault | ⟨path, hmem, rfl⟩
    · have heq := eq_default_of_getMatchKey hing hls hy hcounts.mem hdefault hkey.symm
      exact absurd (heq.trans hdefault) hne
    · have hplain := plain_of_mem_routesFor hls hcounts.mem
      have hpath := ((accepts_matchOf x hplain.headersMatch hplain.queryParamsMatch
        hplain.method).1 hcounts.accepts).2
      rw [← pathMatch_eq_of_mem_routesFor hing hls hy hcounts.mem hkey,
        accepts_iff engine (admitted_of_mem hing hmem) hq] at hpath
      obtain ⟨service', hservice, rfl⟩ := mem_map.1 hbe
      exact ⟨path, hmem, hpath, service', Option.mem_toList.1 hservice, hcluster⟩

end

end Pipeline
