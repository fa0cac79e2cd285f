import Mathlib.Data.List.Induction
import Dolphin.Ingestion.Rules

/-!
# Ingestion of routes

The loops of `pkg/model/ingestion` over the routes of each kind, for one listener:
`toHTTPRoutes`, `toGRPCRoutes`, `toTLSRoutes`, `toTCPRoutes` and `toUDPRoutes`. The
body of each loop is a definition of its own (`ingestHTTPRoute` and so on), the block
of model routes that one route contributes to the listener.

A route is first tested for attachment to the listener, by its parentRefs
(`httpAttached`, `sectionAttached`), then for common host names, and then contributes
its rules. What is proved of a block:

* `ingestHTTPRule_spec`, `ingestGRPCRule_spec`: every model route of a rule has the
  computed host names, the rule's kept backends and its mirrors (`FromRule`);
* `ingestHTTPRoute_block` and its siblings: the block is that of an attached route, each of
  its model routes is made from a rule, and each rule makes one (`RouteBlock`).
-/

namespace Ingestion

open Gatewayv1 Go List

variable {listener : Listener} {services : List Corev1.Service} {grants : List ReferenceGrant}

variable {acc : RuleFilters} {r : HTTPRoute} {source : Model.FullyQualifiedResource}

/-! ## Attachment -/

/-- A parentRef without a section name refers to all listeners of its parent. -/
def sectionMatches (listener : Listener) (ref : ParentReference) : Bool :=
  ref.sectionName.all (· == listener.name)

/-- The attachment test of the GRPC, TLS, TCP and UDP routes: the section name of some
    parentRef, whatever parent it names. -/
def sectionAttached (listener : Listener) (parentRefs : List ParentReference) : Bool :=
  parentRefs.any (sectionMatches listener)

/-- The attachment test of the HTTP routes. For a listener of a Gateway the parentRef has
    to be one to some Gateway, for one of a ListenerSet to that ListenerSet. -/
def httpAttached (listener : Listener) (listenerSource : Model.FullyQualifiedResource)
    (routeNamespace : String) (parentRefs : List ParentReference) : Bool :=
  parentRefs.any fun ref =>
    sectionMatches listener ref &&
      if listenerSource.kind = "Gateway" then
        isGateway ref || (ref.kind.isNone && ref.group.isNone)
      else
        isListenerSet ref && namespaceDerefOr ref.ns routeNamespace == listenerSource.ns &&
          ref.name == listenerSource.name

/-- The host names of the model routes; a lone `*` becomes no host name. -/
def routeHosts (matchedHosts : List String) : List String :=
  if matchedHosts = [Model.allHosts] then [] else matchedHosts

/-! ## HTTP and GRPC routes -/

/-- The backends of a rule that ingestion keeps. -/
def ingestBackends (kind ns : String) (services : List Corev1.Service)
    (grants : List ReferenceGrant) (refs : List BackendRef) : List Model.Backend :=
  refs.filterMap (ingestBackend kind ns services grants)

/-- The direct response of a rule without backends. -/
def noBackendResponse (backends : List Model.Backend) : Option Model.DirectResponse :=
  if backends = [] then some { statusCode := 500 } else none

/-- What the model routes of one rule share. -/
def ruleRoute (hosts : List String) (backends : List Model.Backend) (fs : RuleFilters) :
    Model.HTTPRoute where
  hostnames := hosts
  backends := backends
  directResponse := noBackendResponse backends
  requestHeaderFilter := fs.requestHeaderFilter
  responseHeaderModifier := fs.responseHeaderFilter
  requestMirrors := fs.requestMirrors
  requestRedirect := fs.requestRedirectFilter
  rewrite := fs.rewriteFilter

/-- The kind under which the rules of an HTTPRoute look for grants. -/
def httpRouteKind : String := "HttpRoute"

/-- The kind under which the rules of a GRPCRoute look for grants. -/
def grpcRouteKind : String := "GrpcRoute"

section

variable (listener services grants)

/-- The model routes of a rule of the HTTPRoute `r`, one for each of its matches. -/
def ingestHTTPRule (hosts : List String) (r : HTTPRoute) (rule : HTTPRouteRule) :
    Result (List Model.HTTPRoute) := do
  let bes := ingestBackends httpRouteKind r.ns services grants (rule.backendRefs.map (·.toBackendRef))
  -- the filters of the kept backends are computed and not used
  let _ ← collect (fun be =>
    match ingestBackend httpRouteKind r.ns services grants be.toBackendRef with
    | some _ => collect (backendHttpFilter r.ns be) be.filters
    | none => pure []) rule.backendRefs
  let fs ← rule.filters.foldlM (applyHTTPFilter listener r.ns) {}
  if rule.routeMatches = [] then pure [ruleRoute hosts bes fs]
  else rule.routeMatches.mapM fun m => do
    let path ← toPathMatch m
    let headers ← toHeaderMatch m
    pure { ruleRoute hosts bes fs with
      pathMatch := path, headersMatch := headers, queryParamsMatch := toQueryMatch m }

/-- The model routes of a rule of the GRPCRoute `r`, one for each of its matches. -/
def ingestGRPCRule (hosts : List String) (r : GRPCRoute) (rule : GRPCRouteRule) :
    Result (List Model.HTTPRoute) := do
  let bes := ingestBackends grpcRouteKind r.ns services grants (rule.backendRefs.map (·.toBackendRef))
  let fs ← rule.filters.foldlM (applyGRPCFilter r.ns) {}
  if rule.routeMatches = [] then pure [ruleRoute hosts bes fs]
  else rule.routeMatches.mapM fun m => do
    let path ← toGRPCPathMatch m
    pure { ruleRoute hosts bes fs with
      pathMatch := path, headersMatch := toGRPCHeaderMatch m, isGRPC := true }

/-- The block that an HTTPRoute contributes to a listener. -/
def ingestHTTPRoute (listenerSource : Model.FullyQualifiedResource) (r : HTTPRoute) :
    Result (List Model.HTTPRoute) :=
  let matchedHosts := Model.computeHosts r.hostnames listener.hostname
  if httpAttached listener listenerSource r.ns r.parentRefs && matchedHosts ≠ [] then
    collect (ingestHTTPRule listener services grants (routeHosts matchedHosts) r) r.rules
  else pure []

def toHTTPRoutes (listener : Listener) (input : List HTTPRoute) (services : List Corev1.Service)
    (grants : List ReferenceGrant) (listenerSource : Model.FullyQualifiedResource) :
    Result (List Model.HTTPRoute) :=
  collect (ingestHTTPRoute listener services grants listenerSource) input

/-- The block that a GRPCRoute contributes to a listener. -/
def ingestGRPCRoute (r : GRPCRoute) : Result (List Model.HTTPRoute) :=
  let matchedHosts := Model.computeHosts r.hostnames listener.hostname
  if sectionAttached listener r.parentRefs && matchedHosts ≠ [] then
    collect (ingestGRPCRule services grants (routeHosts matchedHosts) r) r.rules
  else pure []

def toGRPCRoutes (listener : Listener) (input : List GRPCRoute) (services : List Corev1.Service)
    (grants : List ReferenceGrant) : Result (List Model.HTTPRoute) :=
  collect (ingestGRPCRoute listener services grants) input

/-! ## TLS, TCP and UDP routes -/

/-- The block that a TLSRoute contributes each time the inner loop runs. -/
def ingestTLSRoute (r : TLSRoute) : List Model.TLSRoute :=
  let matchedHosts := Model.computeHosts r.hostnames listener.hostname
  if sectionAttached listener r.parentRefs && matchedHosts ≠ [] then
    r.rules.map fun rule =>
      { hostnames := routeHosts matchedHosts
        backends := ingestBackends "TLSRoute" r.ns services grants rule.backendRefs }
  else []

/-- The loop over TLSRoutes holds a second loop over all of them in place of its body:
    for every rule of an attached route, the rules of all attached routes are appended
    (the backends computed for the outer rule are dropped). -/
def toTLSRoutes (listener : Listener) (input : List TLSRoute) (services : List Corev1.Service)
    (grants : List ReferenceGrant) : List Model.TLSRoute :=
  input.flatMap fun r =>
    if sectionAttached listener r.parentRefs &&
        Model.computeHosts r.hostnames listener.hostname ≠ [] then
      r.rules.flatMap fun _ => input.flatMap (ingestTLSRoute listener services grants)
    else []

/-- The block that a TCPRoute or a UDPRoute contributes to a listener. -/
def ingestL4Route (kind : String) (listener : Listener) (services : List Corev1.Service)
    (grants : List ReferenceGrant) (r : CommonRoute) (rules : List L4RouteRule) :
    List Model.L4Route :=
  if sectionAttached listener r.parentRefs then
    rules.map fun rule => ⟨ingestBackends kind r.ns services grants rule.backendRefs⟩
  else []

def ingestTCPRoute (r : TCPRoute) : List Model.L4Route :=
  ingestL4Route "TCPRoute" listener services grants r.toCommonRoute r.rules

def toTCPRoutes (listener : Listener) (input : List TCPRoute) (services : List Corev1.Service)
    (grants : List ReferenceGrant) : List Model.L4Route :=
  input.flatMap (ingestTCPRoute listener services grants)

def ingestUDPRoute (r : UDPRoute) : List Model.L4Route :=
  ingestL4Route "UDPRoute" listener services grants r.toCommonRoute r.rules

def toUDPRoutes (listener : Listener) (input : List UDPRoute) (services : List Corev1.Service)
    (grants : List ReferenceGrant) : List Model.L4Route :=
  input.flatMap (ingestUDPRoute listener services grants)

end

/-! ## What a rule contributes -/

/-- The backends that the mirror filters of a rule of an HTTPRoute name. -/
def httpMirrorRefs (f : HTTPRouteFilter) : List BackendObjectReference :=
  if f.type = .requestMirror then (f.requestMirror.map (·.backendRef)).toList else []

/-- The backends that the mirror filters of a rule of a GRPCRoute name. -/
def grpcMirrorRefs (f : GRPCRouteFilter) : List BackendObjectReference :=
  if f.type = .requestMirror then (f.requestMirror.map (·.backendRef)).toList else []

/-- A mirror as ingestion puts it in the model, without any check. -/
def modelMirror (ns : String) (ref : BackendObjectReference) : Model.HttpRequestMirror :=
  ⟨some (backendRefToModelBackend ref ns)⟩

/-- The model route `x` is made from a rule with the given host names, kept backends and
    mirrored backends, in the namespace `ns`. -/
structure FromRule (hosts : List String) (backends : List Model.Backend)
    (mirrors : List BackendObjectReference) (ns : String) (x : Model.HTTPRoute) : Prop where
  hostnames : x.hostnames = hosts
  backends : x.backends = backends
  requestMirrors : x.requestMirrors = mirrors.map (modelMirror ns)

variable {ns : String} {acc' : RuleFilters} {xs : List Model.HTTPRoute} {hosts : List String}
  {rule : HTTPRouteRule}

theorem applyHTTPFilter_mirrors {f : HTTPRouteFilter}
    (h : applyHTTPFilter listener ns acc f = .ok acc') :
    acc'.requestMirrors = acc.requestMirrors ++ (httpMirrorRefs f).map (modelMirror ns) := by
  unfold applyHTTPFilter at h
  split at h
  case h_5 htype =>
    obtain ⟨m, hm, h⟩ := bind_eq_ok.1 h
    obtain ⟨mirror, hmirror, hm⟩ := bind_eq_ok.1 hm
    obtain rfl := pure_eq_ok.1 h
    obtain rfl := pure_eq_ok.1 hm
    rw [deref_eq_ok] at hmirror
    simp [httpMirrorRefs, htype, hmirror, modelMirror]
  case h_6 htype =>
    obtain rfl := pure_eq_ok.1 h
    simp [httpMirrorRefs, htype]
  all_goals
    rename_i htype
    obtain ⟨_, _, rfl⟩ := bind_pure_eq_ok.1 h
    simp [httpMirrorRefs, htype]

theorem applyGRPCFilter_mirrors {f : GRPCRouteFilter} (h : applyGRPCFilter ns acc f = .ok acc') :
    acc'.requestMirrors = acc.requestMirrors ++ (grpcMirrorRefs f).map (modelMirror ns) := by
  unfold applyGRPCFilter at h
  split at h
  case h_3 htype =>
    obtain ⟨m, hm, h⟩ := bind_eq_ok.1 h
    obtain ⟨mirror, hmirror, hm⟩ := bind_eq_ok.1 hm
    obtain rfl := pure_eq_ok.1 h
    obtain rfl := pure_eq_ok.1 hm
    rw [deref_eq_ok] at hmirror
    simp [grpcMirrorRefs, htype, hmirror, modelMirror]
  case h_4 htype =>
    obtain rfl := pure_eq_ok.1 h
    simp [grpcMirrorRefs, htype]
  all_goals
    rename_i htype
    obtain ⟨_, _, rfl⟩ := bind_pure_eq_ok.1 h
    simp [grpcMirrorRefs, htype]

/-- The loop over the matches of a rule: it makes at least one model route, and each
    comes from `base` by its matches alone. -/
theorem ruleRoutes_spec {μ : Type} {P : Model.HTTPRoute → Prop} {base : Model.HTTPRoute}
    {ms : List μ} {f : μ → Result Model.HTTPRoute} (hbase : P base) (hf : ∀ m x, f m = .ok x → P x)
    (h : (if ms = [] then pure [base] else ms.mapM f) = .ok xs) :
    xs ≠ [] ∧ ∀ x ∈ xs, P x := by
  split_ifs at h with hms
  · obtain rfl := pure_eq_ok.1 h
    exact ⟨cons_ne_nil _ _, fun x hx => mem_singleton.1 hx ▸ hbase⟩
  · refine ⟨?_, fun x hx => ?_⟩
    · rintro rfl
      exact hms (forall₂_nil_right_iff.1 (mapM_eq_ok.1 h))
    · obtain ⟨m, _, hm⟩ := (mem_mapM h).1 hx
      exact hf m x hm

/-- The model route `x` differs from `base` at most in what it matches. -/
def SameEffects (base x : Model.HTTPRoute) : Prop :=
  x = { base with
    pathMatch := x.pathMatch
    headersMatch := x.headersMatch
    queryParamsMatch := x.queryParamsMatch
    isGRPC := x.isGRPC }

theorem SameEffects.refl (base : Model.HTTPRoute) : SameEffects base base := rfl

/-- The model routes of a rule have the effects of its filters and its kept backends. -/
theorem ingestHTTPRule_sameEffects
    (h : ingestHTTPRule listener services grants hosts r rule = .ok xs) :
    ∃ fs, rule.filters.foldlM (applyHTTPFilter listener r.ns) {} = .ok fs ∧ xs ≠ [] ∧
      ∀ x ∈ xs, SameEffects (ruleRoute hosts (ingestBackends httpRouteKind r.ns services grants
        (rule.backendRefs.map (·.toBackendRef))) fs) x := by
  obtain ⟨_, _, h⟩ := bind_eq_ok.1 h
  obtain ⟨fs, hfs, h⟩ := bind_eq_ok.1 h
  refine ⟨fs, hfs, ruleRoutes_spec (SameEffects.refl _) (fun m x hx => ?_) h⟩
  obtain ⟨_, _, hx⟩ := bind_eq_ok.1 hx
  obtain ⟨_, _, rfl⟩ := bind_pure_eq_ok.1 hx
  rfl

theorem ingestHTTPRule_spec (h : ingestHTTPRule listener services grants hosts r rule = .ok xs) :
    xs ≠ [] ∧ ∀ x ∈ xs, FromRule hosts
      (ingestBackends httpRouteKind r.ns services grants (rule.backendRefs.map (·.toBackendRef)))
      (rule.filters.flatMap httpMirrorRefs) r.ns x := by
  obtain ⟨fs, hfs, hne, hxs⟩ := ingestHTTPRule_sameEffects h
  have hmirrors := foldlM_appends (g := RuleFilters.requestMirrors)
    (fun _ _ _ h => applyHTTPFilter_mirrors h) hfs
  rw [nil_append, ← map_flatMap] at hmirrors
  refine ⟨hne, fun x hx => ?_⟩
  rw [hxs x hx]
  exact ⟨rfl, rfl, hmirrors⟩

section

variable {r : GRPCRoute} {rule : GRPCRouteRule}
  (h : ingestGRPCRule services grants hosts r rule = .ok xs)

include h

theorem ingestGRPCRule_sameEffects :
    ∃ fs, rule.filters.foldlM (applyGRPCFilter r.ns) {} = .ok fs ∧ xs ≠ [] ∧
      ∀ x ∈ xs, SameEffects (ruleRoute hosts (ingestBackends grpcRouteKind r.ns services grants
        (rule.backendRefs.map (·.toBackendRef))) fs) x := by
  obtain ⟨fs, hfs, h⟩ := bind_eq_ok.1 h
  refine ⟨fs, hfs, ruleRoutes_spec (SameEffects.refl _) (fun m x hx => ?_) h⟩
  obtain ⟨_, _, rfl⟩ := bind_pure_eq_ok.1 hx
  rfl

theorem ingestGRPCRule_spec : xs ≠ [] ∧ ∀ x ∈ xs, FromRule hosts
      (ingestBackends grpcRouteKind r.ns services grants (rule.backendRefs.map (·.toBackendRef)))
      (rule.filters.flatMap grpcMirrorRefs) r.ns x := by
  obtain ⟨fs, hfs, hne, hxs⟩ := ingestGRPCRule_sameEffects h
  have hmirrors := foldlM_appends (g := RuleFilters.requestMirrors)
    (fun _ _ _ h => applyGRPCFilter_mirrors h) hfs
  rw [nil_append, ← map_flatMap] at hmirrors
  refine ⟨hne, fun x hx => ?_⟩
  rw [hxs x hx]
  exact ⟨rfl, rfl, hmirrors⟩

end

/-- The model route of a match has the conditions of the match on path, headers and query
    parameters, but not that on the method. -/
theorem ingestHTTPRule_match (h : ingestHTTPRule listener services grants hosts r rule = .ok xs)
    {i : Nat} {m : HTTPRouteMatch} (hm : rule.routeMatches[i]? = some m) :
    ∃ x, xs[i]? = some x ∧ toPathMatch m = .ok x.pathMatch ∧ toHeaderMatch m = .ok x.headersMatch ∧
      x.queryParamsMatch = toQueryMatch m ∧ x.method = none := by
  obtain ⟨_, _, h⟩ := bind_eq_ok.1 h
  obtain ⟨fs, _, h⟩ := bind_eq_ok.1 h
  rw [if_neg (ne_nil_of_mem (mem_of_getElem? hm))] at h
  obtain ⟨x, hi, hx⟩ := getElem?_mapM h hm
  obtain ⟨path, hpath, hx⟩ := bind_eq_ok.1 hx
  obtain ⟨headers, hheaders, rfl⟩ := bind_pure_eq_ok.1 hx
  exact ⟨_, hi, hpath, hheaders, rfl, rfl⟩

theorem isSome_toHTTPRequestRedirectFilter {redirect : Option HTTPRequestRedirectFilter}
    {r : Option Model.HTTPRequestRedirectFilter}
    (h : toHTTPRequestRedirectFilter listener redirect = .ok r) : r.isSome = redirect.isSome := by
  cases redirect with
  | none => rw [← pure_eq_ok.1 h]; rfl
  | some redirect =>
    rw [toHTTPRequestRedirectFilter] at h
    split at h
    · rw [← pure_eq_ok.1 h]
      rfl
    · split at h
      case h_3 =>
        rw [← pure_eq_ok.1 h]
        rfl
      all_goals
        obtain ⟨_, _, h⟩ := bind_pure_eq_ok.1 h
        rw [← h]
        rfl

theorem applyHTTPFilter_redirect {f : HTTPRouteFilter}
    (h : applyHTTPFilter listener ns acc f = .ok acc') :
    acc'.requestRedirectFilter.isSome =
      if f.type = .requestRedirect then f.requestRedirect.isSome
      else acc.requestRedirectFilter.isSome := by
  unfold applyHTTPFilter at h
  split at h
  case h_3 htype =>
    obtain ⟨r, hr, h⟩ := bind_pure_eq_ok.1 h
    rw [← h, if_pos htype]
    exact isSome_toHTTPRequestRedirectFilter hr
  case h_6 htype => rw [← pure_eq_ok.1 h, if_neg (by simp [htype])]
  all_goals
    rename_i htype
    obtain ⟨_, _, h⟩ := bind_pure_eq_ok.1 h
    rw [← h, if_neg (by simp [htype])]

/-- The redirect of a rule: that of its last redirect filter. -/
def lastRedirect (filters : List HTTPRouteFilter) : Option HTTPRequestRedirectFilter :=
  (filters.reverse.find? fun f => f.type = .requestRedirect).bind (·.requestRedirect)

theorem lastRedirect_concat (filters : List HTTPRouteFilter) (f : HTTPRouteFilter) :
    lastRedirect (filters ++ [f]) =
      if f.type = .requestRedirect then f.requestRedirect else lastRedirect filters := by
  rw [lastRedirect, reverse_append, reverse_singleton, singleton_append, find?_cons]
  by_cases htype : f.type = .requestRedirect
  · simp [htype]
  · simp [htype, lastRedirect]

theorem requestRedirect_of_httpFilters {filters : List HTTPRouteFilter} {fs : RuleFilters}
    (h : filters.foldlM (applyHTTPFilter listener ns) {} = .ok fs) :
    fs.requestRedirectFilter.isSome = (lastRedirect filters).isSome := by
  induction filters using reverseRecOn generalizing fs with
  | nil => rw [← pure_eq_ok.1 h]; rfl
  | append_singleton filters f ih =>
    rw [foldlM_append] at h
    obtain ⟨acc, hacc, h⟩ := bind_eq_ok.1 h
    obtain ⟨acc', hacc', h⟩ := bind_pure_eq_ok.1 ((foldlM_cons ..).symm.trans h)
    rw [← h, applyHTTPFilter_redirect hacc', ih hacc, lastRedirect_concat]
    split_ifs <;> rfl

theorem requestRedirect_of_grpcFilters {filters : List GRPCRouteFilter} {fs : RuleFilters}
    (h : filters.foldlM (applyGRPCFilter ns) {} = .ok fs) :
    fs.requestRedirectFilter = none := by
  refine foldlM_preserves (P := fun fs => fs.requestRedirectFilter = none) ?_ rfl h
  intro acc f hf acc' hacc hstep
  unfold applyGRPCFilter at hstep
  split at hstep
  case h_4 => rwa [← pure_eq_ok.1 hstep]
  all_goals
    obtain ⟨_, _, hstep⟩ := bind_eq_ok.1 hstep
    rwa [← pure_eq_ok.1 hstep]

/-! ## What a route contributes -/

/-- The block `ys` that a route with the given rules contributes to a listener: one or
    more model routes for each rule when the route is attached, nothing otherwise. -/
structure RouteBlock {ρ β : Type} (attached : Prop) (rules : List ρ) (P : ρ → β → Prop)
    (ys : List β) : Prop where
  attached_of_mem : ∀ y ∈ ys, attached
  from_rule : ∀ y ∈ ys, ∃ rule ∈ rules, P rule y
  of_rule : attached → ∀ rule ∈ rules, ∃ y ∈ ys, P rule y

theorem routeBlock_collect {ρ β : Type} {c : Bool} {rules : List ρ} {P : ρ → β → Prop}
    {f : ρ → Result (List β)} {ys : List β}
    (hf : ∀ rule xs, f rule = .ok xs → xs ≠ [] ∧ ∀ x ∈ xs, P rule x)
    (h : (if c then collect f rules else pure []) = .ok ys) :
    RouteBlock (c = true) rules P ys := by
  split_ifs at h with hc
  · refine ⟨fun _ _ => hc, fun y hy => ?_, fun _ rule hrule => ?_⟩
    · obtain ⟨rule, hrule, xs, hxs, hy⟩ := (mem_collect h).1 hy
      exact ⟨rule, hrule, (hf rule xs hxs).2 y hy⟩
    · obtain ⟨xs, hxs, hsub⟩ := isInfix_collect h hrule
      obtain ⟨y, hy⟩ := exists_mem_of_ne_nil xs (hf rule xs hxs).1
      exact ⟨y, hsub.subset hy, (hf rule xs hxs).2 y hy⟩
  · obtain rfl := pure_eq_ok.1 h
    exact ⟨by simp, by simp, fun hc' => absurd hc' hc⟩

theorem routeBlock_map {ρ β : Type} {c : Bool} {rules : List ρ} {f : ρ → β} :
    RouteBlock (c = true) rules (fun rule y => y = f rule) (if c then rules.map f else []) := by
  split_ifs with hc
  · refine ⟨fun _ _ => hc, fun y hy => ?_, fun _ rule hrule => ?_⟩
    · obtain ⟨rule, hrule, rfl⟩ := mem_map.1 hy
      exact ⟨rule, hrule, rfl⟩
    · exact ⟨f rule, mem_map_of_mem hrule, rfl⟩
  · exact ⟨by simp, by simp, fun hc' => absurd hc' hc⟩

/-- When a route with host names is served by a listener: it is attached and they have a
    host name in common. -/
def Served (attached : Bool) (hostnames : List String) (listener : Listener) : Prop :=
  attached = true ∧ Model.computeHosts hostnames listener.hostname ≠ []

theorem served_iff {attached : Bool} {hostnames : List String} :
    (attached && decide (Model.computeHosts hostnames listener.hostname ≠ [])) = true ↔
      Served attached hostnames listener := by
  rw [Bool.and_eq_true, decide_eq_true_eq]
  exact Iff.rfl

theorem mem_ruleBlock {ρ β : Type} {c : Bool} {rules : List ρ} {f : ρ → Result (List β)}
    {ys : List β} (h : (if c then collect f rules else pure []) = .ok ys) {y : β} :
    y ∈ ys ↔ c = true ∧ ∃ rule ∈ rules, ∃ xs, f rule = .ok xs ∧ y ∈ xs := by
  split_ifs at h with hc
  · rw [mem_collect h]
    exact (and_iff_right hc).symm
  · obtain rfl := pure_eq_ok.1 h
    exact iff_of_false not_mem_nil fun hy => hc hy.1

section Blocks

variable {ys : List Model.HTTPRoute}

theorem ingestHTTPRoute_block (h : ingestHTTPRoute listener services grants source r = .ok ys) :
    RouteBlock (Served (httpAttached listener source r.ns r.parentRefs) r.hostnames listener)
      r.rules
      (fun rule => FromRule (routeHosts (Model.computeHosts r.hostnames listener.hostname))
        (ingestBackends httpRouteKind r.ns services grants (rule.backendRefs.map (·.toBackendRef)))
        (rule.filters.flatMap httpMirrorRefs) r.ns) ys :=
  (propext served_iff) ▸ routeBlock_collect (fun _ _ => ingestHTTPRule_spec) h

theorem ingestGRPCRoute_block {r : GRPCRoute}
    (h : ingestGRPCRoute listener services grants r = .ok ys) :
    RouteBlock (Served (sectionAttached listener r.parentRefs) r.hostnames listener) r.rules
      (fun rule => FromRule (routeHosts (Model.computeHosts r.hostnames listener.hostname))
        (ingestBackends grpcRouteKind r.ns services grants (rule.backendRefs.map (·.toBackendRef)))
        (rule.filters.flatMap grpcMirrorRefs) r.ns) ys :=
  (propext served_iff) ▸ routeBlock_collect (fun _ _ => ingestGRPCRule_spec) h

theorem mem_ingestHTTPRoute (h : ingestHTTPRoute listener services grants source r = .ok ys)
    {y : Model.HTTPRoute} :
    y ∈ ys ↔ Served (httpAttached listener source r.ns r.parentRefs) r.hostnames listener ∧
      ∃ rule ∈ r.rules, ∃ xs, ingestHTTPRule listener services grants
        (routeHosts (Model.computeHosts r.hostnames listener.hostname)) r rule = .ok xs ∧ y ∈ xs :=
  (mem_ruleBlock h).trans (and_congr_left fun _ => served_iff)

theorem mem_ingestGRPCRoute {r : GRPCRoute}
    (h : ingestGRPCRoute listener services grants r = .ok ys) {y : Model.HTTPRoute} :
    y ∈ ys ↔ Served (sectionAttached listener r.parentRefs) r.hostnames listener ∧
      ∃ rule ∈ r.rules, ∃ xs, ingestGRPCRule services grants
        (routeHosts (Model.computeHosts r.hostnames listener.hostname)) r rule = .ok xs ∧ y ∈ xs :=
  (mem_ruleBlock h).trans (and_congr_left fun _ => served_iff)

theorem mem_ingestBackends {kind : String} {refs : List BackendRef} {b : Model.Backend} :
    b ∈ ingestBackends kind ns services grants refs ↔
      ∃ be ∈ refs, KeptBackend kind ns services grants be ∧ backendToModelBackend be ns = b := by
  simp only [ingestBackends, mem_filterMap, ingestBackend_eq_some]

/-- The backends of a rule are those of the backendRefs that are kept, in order. -/
theorem ingestBackends_map {α : Type} {kind : String} (f : α → BackendRef) (refs : List α) :
    ingestBackends kind ns services grants (refs.map f) =
      (refs.filter fun a => (ingestBackend kind ns services grants (f a)).isSome).map
        fun a => backendToModelBackend (f a) ns := by
  rw [ingestBackends, filterMap_map]
  induction refs with
  | nil => rfl
  | cons a refs ih =>
    rw [filterMap_cons, Function.comp_apply]
    cases ha : ingestBackend kind ns services grants (f a) with
    | none => rw [filter_cons_of_neg (by simp [ha]), ← ih]
    | some b =>
      rw [filter_cons_of_pos (by simp [ha]), map_cons, ← ih, (ingestBackend_eq_some.1 ha).2]

theorem ingestTLSRoute_block {r : TLSRoute} :
    RouteBlock (Served (sectionAttached listener r.parentRefs) r.hostnames listener) r.rules
      (fun rule y => y =
        { hostnames := routeHosts (Model.computeHosts r.hostnames listener.hostname)
          backends := ingestBackends "TLSRoute" r.ns services grants rule.backendRefs })
      (ingestTLSRoute listener services grants r) :=
  (propext served_iff) ▸ routeBlock_map

theorem ingestL4Route_block {kind : String} {r : CommonRoute} {rules : List L4RouteRule} :
    RouteBlock (sectionAttached listener r.parentRefs = true) rules
      (fun rule y => y = ⟨ingestBackends kind r.ns services grants rule.backendRefs⟩)
      (ingestL4Route kind listener services grants r rules) :=
  routeBlock_map

theorem mem_toTLSRoutes {input : List TLSRoute} {y : Model.TLSRoute} :
    y ∈ toTLSRoutes listener input services grants ↔
      ∃ r ∈ input, y ∈ ingestTLSRoute listener services grants r := by
  rw [toTLSRoutes, mem_flatMap]
  constructor
  · rintro ⟨_, _, hy⟩
    split_ifs at hy
    · obtain ⟨_, _, hy⟩ := mem_flatMap.1 hy
      exact mem_flatMap.1 hy
    · cases hy
  · rintro ⟨r, hr, hy⟩
    -- the outer loop reaches the inner one at `r` itself, which has a rule
    have hblock : RouteBlock _ _ _ (ingestTLSRoute listener services grants r) :=
      ingestTLSRoute_block
    obtain ⟨rule, hrule, _⟩ := hblock.from_rule y hy
    refine ⟨r, hr, ?_⟩
    rw [if_pos (served_iff.2 (hblock.attached_of_mem y hy))]
    exact mem_flatMap.2 ⟨rule, hrule, mem_flatMap.2 ⟨r, hr, hy⟩⟩

end Blocks

end Ingestion
