import Dolphin.IngressController.Hosts
import Dolphin.Pipeline.IngressPaths
import Dolphin.Translation.Authorities

/-!
# Forcing HTTPS, from the Ingress to Envoy

Whether plain HTTP is redirected to HTTPS is a matter of each Ingress: its annotation says so, or
else the global setting (`ForcedPerIngress`). Ingestion computes this for each listener with TLS,
but translation does not read it. It redirects all hosts with TLS if the global setting says so,
and none otherwise, and it only redirects what the listeners with TLS serve for the host that
Envoy selects (`Covered`).

* `hasHost_iff`: the hosts that Envoy selects from;
* `answeredWithHTTPS_iff`: when a request is answered with a redirect;
* `forcedPerIngress_iff`: so an annotation counts only if it agrees with that.
-/

namespace Pipeline

open Model Go Networkingv1 Annotations Ingestion Translation IngressController List

variable {engine : Envoy.RegexEngine} {r : IngressReconciler} {dolphinClass : Option IngressClass}
  {slices : Slices} {orders : RangeOrders} {ings : List Ingress}
  {resources : List Envoy.XDSResource} {h : String} {req : Envoy.Request}

/-! ## What Envoy does -/

/-- The route taken for the request redirects to HTTPS. -/
def RedirectsToHTTPS (engine : Envoy.RegexEngine) (vh : Envoy.VirtualHost) (req : Envoy.Request) :
    Prop :=
  ∃ route redirect, firstMatch engine vh.routes req = some route ∧
    route.action = .redirect redirect ∧ redirect.schemeRewrite = some .httpsRedirect

/-- A plain HTTP request for the authority is answered with a redirect to HTTPS. -/
def AnsweredWithHTTPS (engine : Envoy.RegexEngine) (resources : List Envoy.XDSResource)
    (authority : String) (req : Envoy.Request) : Prop :=
  ∃ vh, Envoy.Selects (HasVirtualHost resources false) Envoy.VirtualHost.domains authority vh ∧
    RedirectsToHTTPS engine vh req

/-- The Ingress decides about the redirect, by its annotation or the global setting. -/
def ForcedPerIngress (engine : Envoy.RegexEngine) (r : IngressReconciler)
    (resources : List Envoy.XDSResource) (ing : Ingress) (authority : String)
    (req : Envoy.Request) : Prop :=
  AnsweredWithHTTPS engine resources authority req ↔
    (getAnnotationForceHTTPSEnabled ing).getD r.enforcedHTTPS = true

/-! ## What the listeners with TLS serve -/

/-- The entry has a secret, or there is a default one. -/
def HasSecret (r : IngressReconciler) (entry : IngressTLS) : Prop :=
  entry.secretName ≠ "" ∨ (r.defaultSecretNamespace ≠ "" ∧ r.defaultSecretName ≠ "")

/-- The default backend or a path is for the host. -/
def HasPaths (ing : Ingress) (h : String) : Prop := (defaultAt ing h).isSome ∨ pathsAt ing h ≠ []

/-- The hosts that have a virtual host without TLS. Besides those with paths, these are hosts with
    TLS that get the paths without a host, to be served if there is no secret and else to be
    redirected. -/
def HasHost (r : IngressReconciler) (ings : List Ingress) (h : String) : Prop :=
  ∃ ing ∈ ings, getAnnotationTLSPassthroughEnabled ing = false ∧
    (HasPaths ing h ∨ (HasPaths ing "*" ∧
      ∃ entry ∈ (entriesFor ing h).getLast?, HasSecret r entry → r.enforcedHTTPS = true))

/-- What the path of a request is compared with. -/
def specifierOf (path : HTTPIngressPath) : Envoy.PathSpecifier :=
  getPathSpecifier ((path.pathType.map (ingressPathMatch path.path)).getD {})

/-- The default backend or a path for the host accepts the path of a request. -/
def AcceptsPath (engine : Envoy.RegexEngine) (ing : Ingress) (h q : String) : Prop :=
  ((defaultAt ing h).isSome ∧ hasPrefix q "/" = true) ∨
    ∃ path ∈ pathsAt ing h, (specifierOf path).accepts engine q = true

section

variable (engine : Envoy.RegexEngine) (r : IngressReconciler)

/-- The Ingress has a secret for the host, and accepts the path of a request. If it has a default
    backend or rules without a host, then their paths count, and only the last entry for the
    host. -/
def CoveredBy (ing : Ingress) (h q : String) : Prop :=
  (ServesHost ing "*" ∧ (∃ entry ∈ (entriesFor ing h).getLast?, HasSecret r entry) ∧
    AcceptsPath engine ing "*" q) ∨
  (¬ ServesHost ing "*" ∧ (∃ entry ∈ ing.tls, h ∈ entry.hosts ∧ HasSecret r entry) ∧
    AcceptsPath engine ing h q)

/-- One of the Ingresses without passthrough does so, for the host that is selected. -/
def Covered (ings : List Ingress) (authority : String) (req : Envoy.Request) : Prop :=
  ∃ h, Envoy.Selects (HasHost r ings) hostDomains authority h ∧
    (∀ matcher ∈ addedMatchers h false, matcher.accepts engine req = true) ∧
    ∃ ing ∈ ings, getAnnotationTLSPassthroughEnabled ing = false ∧ CoveredBy engine r ing h req.path

/-- What the annotation and the setting say is what is done for all hosts with TLS. -/
def AnnotationAgrees (ings : List Ingress) (ing : Ingress) (authority : String)
    (req : Envoy.Request) : Prop :=
  match getAnnotationForceHTTPSEnabled ing with
  | none => r.enforcedHTTPS = true → Covered engine r ings authority req
  | some true => r.enforcedHTTPS = true ∧ Covered engine r ings authority req
  | some false => r.enforcedHTTPS = true → ¬ Covered engine r ings authority req

end

/-! ## Virtual hosts -/

section

variable {routes : List (Option Envoy.Route)}

theorem exists_firstMatch_iff :
    (∃ route, firstMatch engine routes req = some route) ↔ Matched engine routes req := by
  rw [firstMatch, ← Option.isSome_iff_exists, find?_isSome, Matched]
  simp only [reduceOption_mem_iff]

theorem mem_of_firstMatch {route : Envoy.Route} (h : firstMatch engine routes req = some route) :
    some route ∈ routes ∧ route.routeMatch.accepts engine req = true :=
  ⟨reduceOption_mem_iff.1 (mem_of_find?_eq_some h),
    find?_some (p := fun route : Envoy.Route => route.routeMatch.accepts engine req) h⟩

end

section

variable {rs : List HTTPRoute} {suffixMatch : Bool} {port : Nat} {vh : Envoy.VirtualHost}

theorem pathMatch_eq_of_getMatchKey {x y : HTTPRoute} {ing ing' : Ingress} (hx : PlainRoute ing x)
    (hy : PlainRoute ing' y) (hxone : x.pathMatch.AtMostOne) (hyone : y.pathMatch.AtMostOne)
    (hkey : x.getMatchKey = y.getMatchKey) : x.pathMatch = y.pathMatch := by
  refine hxone.eq_of_toKey hyone ?_
  have hchars := congrArg String.toList hkey
  rw [toList_getMatchKey, toList_getMatchKey] at hchars
  simpa [HTTPRoute.pieces, HTTPRoute.valuePieces, hx.method, hy.method, hx.headersMatch,
    hy.headersMatch, hx.queryParamsMatch, hy.queryParamsMatch, sortMatches, String.toList_inj]
    using hchars

theorem mem_routes_redirect
    (hvh : newVirtualHost rs ⟨[h], true, suffixMatch, port⟩ = .ok vh) {e : Option Envoy.Route} :
    e ∈ vh.routes ↔ e ∈ envoyHTTPSRoutes rs [h] suffixMatch := by
  rw [newVirtualHost_eq] at hvh
  obtain ⟨gen, hgen, hvh⟩ := bind_eq_ok.1 hvh
  obtain ⟨sorted, hsorted, hvh⟩ := bind_eq_ok.1 hvh
  obtain ⟨name, _, hvh⟩ := bind_pure_eq_ok.1 hvh
  rw [← hvh, mem_sortRoutes hsorted, ← pure_eq_ok.1 hgen]

theorem action_of_redirect
    (hvh : newVirtualHost rs ⟨[h], true, suffixMatch, port⟩ = .ok vh) {route : Envoy.Route}
    (hroute : some route ∈ vh.routes) :
    route.action = .redirect { schemeRewrite := some .httpsRedirect } := by
  rw [mem_routes_redirect hvh, envoyHTTPSRoutes_eq] at hroute
  obtain ⟨k, _, hroute⟩ := mem_map.1 hroute
  obtain ⟨first, _, rfl⟩ := Option.map_eq_some_iff.1 hroute
  rfl

theorem accepts_getRouteMatch (pathMatch : StringMatch) :
    (getRouteMatch [h] suffixMatch pathMatch [] [] none).accepts engine req = true ↔
      (∀ matcher ∈ addedMatchers h suffixMatch, matcher.accepts engine req = true) ∧
        (getPathSpecifier pathMatch).accepts engine req.path = true := by
  have hheaders : (getRouteMatch [h] suffixMatch pathMatch [] [] none).headers =
      addedMatchers h suffixMatch := rfl
  rw [Envoy.RouteMatch.accepts, hheaders]
  simp [getRouteMatch, getQueryMatchers, and_comm]

theorem redirectsToHTTPS_redirect
    (hrs : ∀ x ∈ rs, (∃ ing, PlainRoute ing x) ∧ x.pathMatch.AtMostOne)
    (hvh : newVirtualHost rs ⟨[h], true, suffixMatch, port⟩ = .ok vh) :
    RedirectsToHTTPS engine vh req ↔
      (∀ matcher ∈ addedMatchers h suffixMatch, matcher.accepts engine req = true) ∧
        ∃ x ∈ rs, (getPathSpecifier x.pathMatch).accepts engine req.path = true := by
  have hmade {e : Option Envoy.Route} (he : e ∈ vh.routes) :
      ∃ x ∈ rs, e = some (httpsRoute [h] suffixMatch x.sorted) := by
    rw [mem_routes_redirect hvh, envoyHTTPSRoutes_eq] at he
    obtain ⟨k, hk, rfl⟩ := mem_map.1 he
    obtain ⟨first, rest, hgroup⟩ := exists_cons_of_ne_nil (groupAt_ne_nil.2 hk)
    obtain ⟨x, hx, rfl⟩ := mem_map.1 (hgroup ▸ mem_cons_self : first ∈ groupAt rs k)
    exact ⟨x, (mem_filter.1 hx).1, by rw [hgroup]; rfl⟩
  have haccepts {x : HTTPRoute} (hx : x ∈ rs) :
      (httpsRoute [h] suffixMatch x.sorted).routeMatch.accepts engine req = true ↔
        (∀ matcher ∈ addedMatchers h suffixMatch, matcher.accepts engine req = true) ∧
          (getPathSpecifier x.pathMatch).accepts engine req.path = true := by
    obtain ⟨⟨ing, hplain⟩, _⟩ := hrs x hx
    rw [← accepts_getRouteMatch]
    simp only [httpsRoute, HTTPRoute.sorted, hplain.headersMatch, hplain.queryParamsMatch,
      hplain.method, sortMatches, insertionSort_nil]
  constructor
  · rintro ⟨route, _, hroute, _⟩
    obtain ⟨hmem, haccept⟩ := mem_of_firstMatch hroute
    obtain ⟨x, hx, heq⟩ := hmade hmem
    obtain rfl := Option.some.inj heq
    obtain ⟨hreq, hpath⟩ := (haccepts hx).1 haccept
    exact ⟨hreq, x, hx, hpath⟩
  · rintro ⟨hreq, x, hx, haccept⟩
    -- the route for the key of `x` is made from the first model route with that key
    have hk : x.getMatchKey ∈ matchKeys rs := mem_matchKeys.2 ⟨x, hx, rfl⟩
    obtain ⟨first, rest, hgroup⟩ := exists_cons_of_ne_nil (groupAt_ne_nil.2 hk)
    obtain ⟨y, hy, rfl⟩ := mem_map.1
      (hgroup ▸ mem_cons_self : first ∈ groupAt rs x.getMatchKey)
    obtain ⟨hy, hkey⟩ := mem_filter.1 hy
    obtain ⟨⟨_, hplain⟩, hone⟩ := hrs x hx
    obtain ⟨⟨_, hplain'⟩, hone'⟩ := hrs y hy
    have hpath := pathMatch_eq_of_getMatchKey hplain' hplain hone' hone (of_decide_eq_true hkey)
    have hmem : some (httpsRoute [h] suffixMatch y.sorted) ∈ vh.routes := by
      rw [mem_routes_redirect hvh, envoyHTTPSRoutes_eq, mem_map]
      exact ⟨_, hk, by rw [hgroup]; rfl⟩
    obtain ⟨route, hroute⟩ := exists_firstMatch_iff.2
      ⟨_, hmem, (haccepts hy).2 ⟨hreq, hpath ▸ haccept⟩⟩
    obtain ⟨z, _, heq⟩ := hmade (mem_of_firstMatch hroute).1
    exact ⟨route, _, hroute, by rw [Option.some.inj heq]; rfl, rfl⟩

theorem not_redirectsToHTTPS (hrs : ∀ x ∈ rs, ∃ ing, PlainRoute ing x)
    (hvh : newVirtualHost rs ⟨[h], false, suffixMatch, port⟩ = .ok vh) :
    ¬ RedirectsToHTTPS engine vh req := by
  rintro ⟨route, redirect, hroute, haction, _⟩
  obtain ⟨gen, sorted, hgen, hsorted, rfl⟩ := newVirtualHost_eq_ok.1 hvh
  have hmem := (mem_sortRoutes hsorted).1 (mem_of_firstMatch hroute).1
  obtain ⟨x, _, first, rest, deleted, hgroup, hmade⟩ := mem_envoyHTTPRoutes hgen hmem
  obtain ⟨y, hy, _, rfl⟩ := mem_groupAt.1 (hgroup ▸ mem_cons_self)
  obtain ⟨_, hplain⟩ := hrs y hy
  have hredirect : y.sorted.requestRedirect = none := hplain.requestRedirect
  rcases envoyHTTPRoute_cases hmade with ⟨_, _, he, _⟩ | ⟨_, action, hgroupAction, he, _⟩
  · obtain ⟨response, _, rfl⟩ := Option.map_eq_some_iff.1 he.symm
    cases haction
  · rw [groupAction, hredirect] at hgroupAction
    obtain ⟨routeAction, _, rfl⟩ := map_eq_ok.1 hgroupAction
    rw [Option.some.inj he] at haction
    cases haction

end

/-! ## Ingresses -/

section

variable {opts : IngressOptions} {ing : Ingress} {h q : String}

theorem atMostOne_ingressPathMatch (path : String) (pathType : PathType) :
    (ingressPathMatch path pathType).AtMostOne := by
  by_cases hpath : path = ""
  · subst hpath
    cases pathType <;> exact .inr rfl
  · cases pathType with
    | exact => exact .inl ⟨path, hpath, .inr (.inl rfl)⟩
    | pathPrefix => exact .inl ⟨path, hpath, .inl rfl⟩
    | implementationSpecific => exact .inl ⟨path, hpath, .inr (.inr rfl)⟩
    | other _ => exact .inr rfl

theorem atMostOne_routeOf (path : HTTPIngressPath) :
    (routeOf opts ing path).pathMatch.AtMostOne := by
  rw [routeOf]
  cases path.pathType with
  | none => exact .inr rfl
  | some pathType => exact atMostOne_ingressPathMatch path.path pathType

theorem atMostOne_routesAt {x : HTTPRoute} (hx : x ∈ routesAt opts ing h) :
    x.pathMatch.AtMostOne := by
  rcases mem_append.1 hx with hx | hx
  · obtain ⟨_, _, rfl⟩ := mem_map.1 hx
    exact .inr rfl
  · obtain ⟨path, _, rfl⟩ := mem_map.1 hx
    exact atMostOne_routeOf path

theorem acceptsPath_iff :
    (∃ x ∈ routesAt opts ing h, (getPathSpecifier x.pathMatch).accepts engine q = true) ↔
      AcceptsPath engine ing h q := by
  have hdefault (be : IngressBackend) :
      (getPathSpecifier (defaultRoute opts ing be).pathMatch).accepts engine q =
        hasPrefix q "/" := rfl
  simp only [routesAt, AcceptsPath, mem_append, mem_map, or_and_right, exists_or,
    exists_exists_and_eq_and, Option.mem_toList, hdefault]
  refine or_congr ?_ Iff.rfl
  rw [exists_and_right, ← Option.isSome_iff_exists]

theorem routesAt_eq_nil (hnone : insecureAt opts ing h = none) : routesAt opts ing h = [] := by
  rw [insecureAt, listenerOf] at hnone
  split_ifs at hnone with hnil
  rw [routesAt, hnil.1, hnil.2]
  rfl

theorem isSome_entrySecrets (r : IngressReconciler) (ports : Nat × Nat × Nat) {entry : IngressTLS}
    {tls : Option (List TLSSecret)} :
    (entrySecrets (r.options ports) ing entry tls).isSome ↔ HasSecret r entry ∨ tls.isSome := by
  rw [entrySecrets, HasSecret]
  split_ifs with hname hdefault
  · exact iff_of_true rfl (.inl (.inl hname))
  · exact iff_of_true rfl (.inl (.inr hdefault))
  · exact (or_iff_right (not_or.2 ⟨hname, hdefault⟩)).symm

theorem isSome_foldl_entrySecrets (r : IngressReconciler) (ports : Nat × Nat × Nat)
    (entries : List IngressTLS) (tls : Option (List TLSSecret)) :
    (entries.foldl (fun tls entry => entrySecrets (r.options ports) ing entry tls) tls).isSome ↔
      (∃ entry ∈ entries, HasSecret r entry) ∨ tls.isSome := by
  induction entries generalizing tls with
  | nil => simp
  | cons entry entries ih =>
    rw [foldl_cons, ih, isSome_entrySecrets]
    simp only [mem_cons, or_and_right, exists_or, exists_eq_left]
    exact or_left_comm.trans or_assoc.symm

theorem routes_of_secureAt {l : HTTPListener} (hl : secureAt opts ing h = some l) :
    ∃ h', l.routes = routesAt opts ing h' := by
  rw [secureAt] at hl
  split at hl
  · cases hl
  · rename_i star _ hstar
    exact ⟨"*", by rw [← Option.some.inj hl, ← routes_of_insecureAt hstar]⟩
  · obtain ⟨own, hown, rfl⟩ := Option.map_eq_some_iff.1 hl
    have hroutes := routes_of_insecureAt hown
    exact ⟨h, hroutes⟩

/-- The listener with TLS for a host, with a secret, accepts the path of a request. -/
theorem coveredBy_iff (r : IngressReconciler) (ports : Nat × Nat × Nat) :
    (∃ l, secureAt (r.options ports) ing h = some l ∧ l.secure = true ∧
      ∃ x ∈ l.routes, (getPathSpecifier x.pathMatch).accepts engine q = true) ↔
      CoveredBy engine r ing h q := by
  have hstar : (∃ star, insecureAt (r.options ports) ing "*" = some star) ↔ ServesHost ing "*" :=
    exists_insecureAt_iff
  rw [CoveredBy, secureAt]
  cases hin : insecureAt (r.options ports) ing "*" with
  | some star =>
    have hserves : ServesHost ing "*" := hstar.1 ⟨star, hin⟩
    simp only [hserves, not_true_eq_false, true_and, false_and, or_false]
    cases hlast : (entriesFor ing h).getLast? with
    | none => simp
    | some entry =>
      have hroutes := routes_of_insecureAt hin
      simp only [Option.some_inj, exists_eq_left', Option.mem_some_iff, HTTPListener.secure,
        hroutes, acceptsPath_iff, isSome_entrySecrets, Option.isSome_none, Bool.false_eq_true,
        or_false]
  | none =>
    have hserves : ¬ ServesHost ing "*" := by
      rw [← hstar, hin]
      simp
    have hentries : (∃ entry ∈ ing.tls, h ∈ entry.hosts ∧ HasSecret r entry) ↔
        ∃ entry ∈ entriesFor ing h, HasSecret r entry := by
      simp only [mem_entriesFor, and_assoc]
    simp only [hserves, not_false_eq_true, true_and, false_and, false_or, hentries]
    cases hlast : (entriesFor ing h).getLast? with
    | none =>
      rw [getLast?_eq_none_iff] at hlast
      simp [hlast]
    | some entry =>
      have haccepts : (∃ x ∈ routesAt (r.options ports) ing h,
          (getPathSpecifier x.pathMatch).accepts engine q = true) ↔ AcceptsPath engine ing h q :=
        acceptsPath_iff
      rw [← haccepts]
      cases hown : insecureAt (r.options ports) ing h with
      | none => simp [routesAt_eq_nil hown]
      | some own =>
        have hroutes := routes_of_insecureAt hown
        simp only [Option.map_some, Option.some_inj, exists_eq_left', HTTPListener.secure, hroutes,
          isSome_foldl_entrySecrets, Option.isSome_none, Bool.false_eq_true, or_false]

theorem exists_insecureAt_paths (opts : IngressOptions) :
    (∃ l, insecureAt opts ing h = some l ∧ l.routes ≠ []) ↔ HasPaths ing h := by
  rw [HasPaths, pathsAt]
  cases hin : insecureAt opts ing h with
  | none => simpa [routesAt] using routesAt_eq_nil hin
  | some l => simp [routes_of_insecureAt hin, routesAt, imp_iff_not_or, Option.isSome_iff_ne_none]

/-- A host has a listener with routes, which has no TLS or is redirected. -/
theorem hasListener_iff (r : IngressReconciler) (ports : Nat × Nat × Nat) :
    (∃ l, (insecureAt (r.options ports) ing h = some l ∨
        secureAt (r.options ports) ing h = some l) ∧
      (l.secure = true → r.enforcedHTTPS = true) ∧ l.routes ≠ []) ↔
      HasPaths ing h ∨ (HasPaths ing "*" ∧
        ∃ entry ∈ (entriesFor ing h).getLast?, HasSecret r entry → r.enforcedHTTPS = true) := by
  rw [← exists_insecureAt_paths (r.options ports), ← exists_insecureAt_paths (r.options ports)]
  constructor
  · rintro ⟨l, hl | hl, hsecure, hroutes⟩
    · exact .inl ⟨l, hl, hroutes⟩
    · rw [secureAt] at hl
      split at hl
      · cases hl
      · rename_i entry star hlast hstar
        obtain rfl := Option.some.inj hl
        exact .inr ⟨⟨star, hstar, hroutes⟩, entry, hlast, fun hsecret =>
          hsecure ((isSome_entrySecrets r ports).2 (.inl hsecret))⟩
      · obtain ⟨own, hown, rfl⟩ := Option.map_eq_some_iff.1 hl
        exact .inl ⟨own, hown, hroutes⟩
  · rintro (⟨l, hl, hroutes⟩ | ⟨⟨star, hstar, hroutes⟩, entry, hlast, hsecret⟩)
    · refine ⟨l, .inl hl, fun hsecure => ?_, hroutes⟩
      obtain ⟨_, rfl⟩ := insecureAt_eq_some.1 hl
      cases hsecure
    · refine ⟨{ star with
        tls := entrySecrets (r.options ports) ing entry none, hostname := h
        port := (r.options ports).secureListenerPort }, .inr ?_, fun hsecure => hsecret ?_, hroutes⟩
      · rw [secureAt, hlast, hstar]
      · exact ((isSome_entrySecrets r ports).1 hsecure).resolve_right Bool.false_ne_true

end

/-! ## Requests -/

theorem hasHost_iff {ports : Nat × Nat × Nat} {m : Model} (hm : ModelOf r ports ings m)
    (name ns h : String) : configuredHosts (r.translator name ns) m false h ↔ HasHost r ings h := by
  have hlistener {secure : Bool} (hmem : h ∈ hostsFor m secure)
      (hsecure : secure = true → r.enforcedHTTPS = true) : HasHost r ings h := by
    obtain ⟨x, hx⟩ := exists_mem_of_ne_nil _ (routesFor_ne_nil hmem)
    obtain ⟨ing, hing, hpass, l, hl, rfl, hroute⟩ := hm.mem_routesFor.1 hx
    exact ⟨ing, hing, hpass, (hasListener_iff r ports).1 ⟨l, hl, hsecure, ne_nil_of_mem hroute⟩⟩
  rw [configuredHosts_iff_of_insecure fun _ => hm.exists_insecure]
  constructor
  · rintro (hmem | ⟨_, henforced, hmem⟩)
    · exact hlistener hmem nofun
    · exact hlistener hmem fun _ => henforced
  · rintro ⟨ing, hing, hpass, hpaths⟩
    obtain ⟨l, hl, hsecure, hne⟩ := (hasListener_iff r ports).2 hpaths
    obtain ⟨x, hx⟩ := exists_mem_of_ne_nil _ hne
    have hmem : h ∈ hostsFor m l.secure := routesFor_ne_nil_iff.1
      (ne_nil_of_mem (hm.mem_routesFor.2 ⟨ing, hing, hpass, l, hl, rfl, hx⟩))
    cases hs : l.secure <;> rw [hs] at hmem
    · exact .inl hmem
    · exact .inr ⟨rfl, hsecure hs, hmem⟩

theorem answeredWithHTTPS_iff {authority : String}
    (hbuilt : BuiltFor r dolphinClass slices orders ings resources) :
    AnsweredWithHTTPS engine resources authority req ↔
      r.enforcedHTTPS = true ∧ Covered engine r ings authority req := by
  obtain ⟨ports, m, name, ns, config, hm, hconfig, rfl⟩ := hbuilt.exists_model
  have hplain {secure : Bool} {h : String} : ∀ x ∈ routesFor m secure h, ∃ ing, PlainRoute ing x := by
    intro x hx
    obtain ⟨l, hl, _, hx, _⟩ := mem_routesFor.1 hx
    exact hm.plain hl hx
  have hone {h : String} : ∀ x ∈ routesFor m true h, x.pathMatch.AtMostOne := by
    intro x hx
    obtain ⟨_, _, _, l, hl, _, hx⟩ := hm.mem_routesFor_secure.1 hx
    obtain ⟨h', hroutes⟩ := routes_of_secureAt hl
    exact atMostOne_routesAt (hroutes ▸ hx)
  have hcovered (h : String) : (∃ x ∈ routesFor m true h,
      (getPathSpecifier x.pathMatch).accepts engine req.path = true) ↔
        ∃ ing ∈ ings, getAnnotationTLSPassthroughEnabled ing = false ∧
          CoveredBy engine r ing h req.path := by
    simp only [← coveredBy_iff r ports, hm.mem_routesFor_secure]
    constructor
    · rintro ⟨x, ⟨ing, hing, hpass, l, hl, hsecure, hx⟩, haccepts⟩
      exact ⟨ing, hing, hpass, l, hl, hsecure, x, hx, haccepts⟩
    · rintro ⟨ing, hing, hpass, l, hl, hsecure, x, hx, haccepts⟩
      exact ⟨x, ⟨ing, hing, hpass, l, hl, hsecure, hx⟩, haccepts⟩
  have hredirect {vh : Envoy.VirtualHost} {h : String} {port : Nat}
      (hvh : newVirtualHost (routesFor m true h) ⟨[h], true, false, port⟩ = .ok vh) :
      RedirectsToHTTPS engine vh req ↔ _ :=
    redirectsToHTTPS_redirect (fun x hx => ⟨hplain x hx, hone x hx⟩) hvh
  have hserved := hasHost_iff hm name ns
  constructor
  · rintro ⟨vh, hselects, hredirects⟩
    obtain ⟨hvh, hselects⟩ := (selects_hasVirtualHost_iff hconfig hserved).1 hselects
    obtain ⟨_, hvh⟩ := (hasVirtualHost_iff hconfig).1 hvh
    rw [configuredHost] at hvh
    split_ifs at hvh with henforced
    · obtain ⟨hreq, haccepts⟩ := (hredirect hvh).1 hredirects
      exact ⟨henforced.2.1, _, hselects, hreq, (hcovered _).1 haccepts⟩
    · exact absurd hredirects (not_redirectsToHTTPS hplain hvh)
  · rintro ⟨henforced, h, hselects, hreq, hcov⟩
    obtain ⟨x, hx, _⟩ := (hcovered h).2 hcov
    have hredirected : Redirected (r.translator name ns) m false h :=
      ⟨rfl, henforced, routesFor_ne_nil_iff.1 (ne_nil_of_mem hx)⟩
    obtain ⟨vh, hvh, rfl⟩ := exists_hasVirtualHost hconfig ((hserved h).2 hselects.1)
    refine ⟨vh, (selects_hasVirtualHost_iff hconfig hserved).2 ⟨hvh, hselects⟩, ?_⟩
    obtain ⟨_, hvh⟩ := (hasVirtualHost_iff hconfig).1 hvh
    rw [configuredHost, if_pos hredirected] at hvh
    exact (hredirect hvh).2 ⟨hreq, (hcovered _).2 hcov⟩

theorem forcedPerIngress_iff (hbuilt : BuiltFor r dolphinClass slices orders ings resources)
    (ing : Ingress) (authority : String) (req : Envoy.Request) :
    ForcedPerIngress engine r resources ing authority req ↔
      AnnotationAgrees engine r ings ing authority req := by
  rw [ForcedPerIngress, AnnotationAgrees, answeredWithHTTPS_iff hbuilt]
  cases getAnnotationForceHTTPSEnabled ing with
  | none => exact and_iff_left_iff_imp
  | some force =>
    cases force with
    | true => exact iff_true_right rfl
    | false => exact (iff_false_right Bool.false_ne_true).trans not_and

/-! ## The setting and what an Ingress asks for -/

/-- The Ingress for a host with TLS, which may ask for HTTPS. -/
def forcingIngress (asked : Option String) : Ingress :=
  { webIngress "team" "shop.example" with
    annotations :=
      .ofList (asked.toList.map fun val => ("ingress.dolphin.io/force-https", val)) }

/-- The settings, with or without enforcement of HTTPS. -/
def forcingReconciler (enforcedHTTPS : Bool) : IngressReconciler :=
  { webReconciler with enforcedHTTPS := enforcedHTTPS }

theorem root_ne_empty : "/" ≠ "" := by decide

def rootRequest : Envoy.Request where
  method := "GET"
  path := "/"
  header name := if name = ":authority" then some "shop.example" else none
  queryParameter _ := none
  path_ne := root_ne_empty

theorem selects_shop : Envoy.Selects (HasHost (forcingReconciler true) [forcingIngress none])
    hostDomains "shop.example" "shop.example" := by
  refine ⟨⟨_, mem_singleton_self _, rfl, .inl (.inr (cons_ne_nil _ _))⟩, "shop.example", by decide,
    by decide, fun _ _ d _ _ => ?_⟩
  exact Envoy.domainRank_le d

theorem forcedPerIngress_setting :
    ∃ slices orders resources,
      BuiltFor (forcingReconciler true) none slices orders [forcingIngress none] resources ∧
      ForcedPerIngress pieceEngine (forcingReconciler true) resources (forcingIngress none)
        "shop.example" rootRequest := by
  obtain ⟨slices, orders, resources, hbuilt⟩ :=
    exists_builtFor (forcingReconciler true) (forcingIngress none) ⟨rfl, rfl, rfl⟩
      (by decide +kernel)
  refine ⟨slices, orders, resources, hbuilt, (forcedPerIngress_iff hbuilt ..).2 fun _ => ?_⟩
  refine ⟨_, selects_shop, by decide, _, mem_singleton_self _, rfl, .inr ⟨?_, ?_, ?_⟩⟩
  · rintro (⟨rule, hrule, hhost, _⟩ | ⟨_, hdefault⟩)
    · obtain rfl := mem_singleton.1 hrule
      exact absurd hhost (by decide)
    · cases hdefault
  · exact ⟨_, mem_singleton_self _, mem_singleton_self _, .inl (by decide)⟩
  · exact .inr ⟨_, mem_singleton_self _, rfl⟩

/-- The Ingress asks for HTTPS, but the setting does not. -/
theorem not_forcedPerIngress_asked :
    ∃ slices orders resources,
      BuiltFor (forcingReconciler false) none slices orders [forcingIngress (some "enabled")]
        resources ∧
      ¬ ForcedPerIngress pieceEngine (forcingReconciler false) resources
        (forcingIngress (some "enabled")) "shop.example" rootRequest := by
  obtain ⟨slices, orders, resources, hbuilt⟩ :=
    exists_builtFor (forcingReconciler false) (forcingIngress (some "enabled")) ⟨rfl, rfl, rfl⟩
      (by decide +kernel)
  refine ⟨slices, orders, resources, hbuilt, fun h => ?_⟩
  have hforce : (getAnnotationForceHTTPSEnabled (forcingIngress (some "enabled"))).getD
      (forcingReconciler false).enforcedHTTPS = true := rfl
  exact Bool.false_ne_true ((answeredWithHTTPS_iff hbuilt).1 (h.2 hforce)).1

end Pipeline
