import Dolphin.Go.Panic
import Dolphin.Go.Slices
import Dolphin.Model.Types
import Dolphin.Networking.Annotations

/-!
# Ingestion of an Ingress

`Ingress` and `IngressPassthrough`: from an Ingress to the listeners of the model. Both fill maps
of listeners by host name, and return the values in the order of the keys.

What `Ingress` leaves in its two maps can be said host by host. The listener without TLS
(`insecureAt`) has the default backend, for the host `*`, and the paths of the rules for the host,
in their order. The listener with TLS (`secureAt`) of a host that `spec.tls` names is a copy of
the one for `*`, if there is one, and otherwise of the one of the host itself.

* `ingress_eq_ok`: these are what it returns, and it does so if every backend is a Service and
  every path has a type;
* `ingressPassthrough_eq_ok`: the same for passthrough, for which only paths `/` count.
-/

namespace Ingestion

open Model Go Networkingv1 Annotations List

variable {paths : List HTTPIngressPath} {listeners' insecure : Go.Map String HTTPListener}
  {rule : IngressRule} {listeners : Go.Map String TLSListener}

/-- The parameters of `Ingress` other than the Ingress, with `time.ParseDuration`. -/
structure IngressOptions where
  defaultSecretNamespace : String := ""
  defaultSecretName : String := ""
  enforcedHTTPS : Bool := false
  insecureListenerPort : Nat := 80
  secureListenerPort : Nat := 443
  defaultRequestTimeout : Int := 0
  parseDuration : String → Option Int := fun _ => none

/-! ## Parts of a listener -/

def sourceResource (ing : Ingress) : FullyQualifiedResource where
  name := ing.name
  ns := ing.ns
  group := ""
  version := "v1"
  kind := "Ingress"
  uid := ing.uid

def addSource (sourceList : List FullyQualifiedResource) (source : FullyQualifiedResource) :
    List FullyQualifiedResource :=
  if source ∈ sourceList then sourceList else sourceList ++ [source]

/-- The name of the listener for a host. -/
def listenerName (ing : Ingress) (host : String) : String :=
  "ing-" ++ ing.name ++ "-" ++ ing.ns ++ "-" ++ host

/-- The Service that the annotations ask for; a port that cannot be parsed is not set. -/
def getService (ing : Ingress) : Option Model.Service :=
  if getAnnotationServiceType ing ≠ "NodePort" then none
  else some
    { type := "NodePort"
      secureNodePort := (getAnnotationSecureNodePort ing).toOption.join
      insecureNodePort := (getAnnotationInsecureNodePort ing).toOption.join }

/-- The values of a map in the order of its keys, whatever order `range` visits these in. -/
def appendValuesInKeyOrder {α : Type} (listenerMap : Go.Map String α) (appendSlice : List α) :
    List α :=
  appendSlice ++ (sortStrings (listenerMap.toPairs.map Prod.fst)).filterMap listenerMap.get?

/-- The backend for a Service, which panics for a resource of another kind. -/
def serviceBackend (ing : Ingress) (be : IngressBackend) : Result Backend := do
  let service ← deref be.service
  pure
    { name := service.name
      ns := ing.ns
      port := some { name := service.port.name, port := toUInt32 service.port.number } }

section

variable (opts : IngressOptions) (ing : Ingress)

/-- The timeout of all routes: that of the annotation if it is there and can be parsed. -/
def ingressTimeout : Timeout where
  request :=
    match getAnnotationRequestTimeout ing opts.parseDuration with
    | .ok (some d) => some d
    | _ => if opts.defaultRequestTimeout ≠ 0 then some opts.defaultRequestTimeout else none

/-! ## Listeners without TLS -/

/-- The listener for the default backend. -/
def defaultListener (backend : Backend) : HTTPListener where
  name := ""
  hostname := "*"
  routes := [{ backends := [backend], timeout := ingressTimeout opts ing }]
  port := opts.insecureListenerPort
  service := getService ing
  sources := addSource [] (sourceResource ing)

/-- What a path is matched by; a type that is not known matches everything. -/
def ingressPathMatch (path : String) : PathType → StringMatch
  | .exact => { exact := path }
  | .pathPrefix => { prefixed := path }
  | .implementationSpecific => { regex := path }
  | .other _ => {}

/-- The iteration for a path. -/
def ingressRoute (path : HTTPIngressPath) : Result HTTPRoute := do
  let pathType ← deref path.pathType
  let backend ← serviceBackend ing path.backend
  pure
    { timeout := ingressTimeout opts ing
      pathMatch := ingressPathMatch path.path pathType
      backends := [backend] }

/-- The host of a rule, which is `*` if it has none. -/
def hostOf (rule : IngressRule) : String := if rule.host ≠ "" then rule.host else "*"

/-- The iteration for a rule. One without an HTTP part is skipped. -/
def ingestRule (listeners : Go.Map String HTTPListener) (rule : IngressRule) :
    Result (Go.Map String HTTPListener) :=
  match rule.http with
  | none => pure listeners
  | some paths => do
    let host := hostOf rule
    let l := (listeners.get? host).getD { name := listenerName ing host }
    let routes ← paths.mapM (ingressRoute opts ing)
    pure (listeners.set host
      { l with
        port := opts.insecureListenerPort
        sources := addSource l.sources (sourceResource ing)
        hostname := host
        routes := l.routes ++ routes
        service := if paths = [] then l.service else getService ing })

/-- `insecureListenerMap` before the rules. -/
def defaultListenerMap : Result (Go.Map String HTTPListener) :=
  match ing.defaultBackend with
  | none => pure ∅
  | some be => do
    let backend ← serviceBackend ing be
    pure ((∅ : Go.Map String HTTPListener).set "*" (defaultListener opts ing backend))

/-- `insecureListenerMap` after the rules. -/
def insecureListenerMap : Result (Go.Map String HTTPListener) := do
  let listeners ← defaultListenerMap opts ing
  ing.rules.foldlM (ingestRule opts ing) listeners

/-! ## Listeners with TLS -/

/-- Whether plain HTTP is redirected: the setting counts if the annotation is not set. -/
def forceHTTPs : Bool :=
  match getAnnotationForceHTTPSEnabled ing with
  | none => opts.enforcedHTTPS
  | some force => force

/-- The TLS list that a TLS entry leaves: its secret, the default one, or what was there. -/
def entrySecrets (tlsConfig : IngressTLS) (tls : Option (List TLSSecret)) :
    Option (List TLSSecret) :=
  if tlsConfig.secretName ≠ "" then some [⟨tlsConfig.secretName, ing.ns⟩]
  else if opts.defaultSecretNamespace ≠ "" ∧ opts.defaultSecretName ≠ "" then
    some [⟨opts.defaultSecretName, opts.defaultSecretNamespace⟩]
  else tls

/-- The iteration for a host of a TLS entry: a listener is made from that of the host or of `*`,
    and replaced at once by a copy of the one for `*`, if there is one. -/
def ingestTLSHost (insecure : Go.Map String HTTPListener) (tlsConfig : IngressTLS)
    (secure : Go.Map String HTTPListener) (host : String) : Go.Map String HTTPListener :=
  match ((secure.get? host).or (insecure.get? host)).or (insecure.get? "*") with
  | none => secure
  | some l =>
    let secure := secure.set host
      { l with
        tls := entrySecrets opts ing tlsConfig l.tls
        port := opts.secureListenerPort
        hostname := host
        service := getService ing
        forceHTTPtoHTTPSRedirect := forceHTTPs opts ing }
    match insecure.get? "*" with
    | none => secure
    | some defaultListener => secure.set host
      { defaultListener with
        tls := entrySecrets opts ing tlsConfig defaultListener.tls
        hostname := host
        port := opts.secureListenerPort }

def secureListenerMap (insecure : Go.Map String HTTPListener) : Go.Map String HTTPListener :=
  ing.tls.foldl
    (fun secure tlsConfig => tlsConfig.hosts.foldl (ingestTLSHost opts ing insecure tlsConfig) secure)
    ∅

/-- `Ingress`. -/
def ingress : Result (List HTTPListener) := do
  let insecure ← insecureListenerMap opts ing
  let secure := secureListenerMap opts ing insecure
  pure (appendValuesInKeyOrder secure (appendValuesInKeyOrder insecure []))

end

/-! ## Passthrough -/

section

variable (ing : Ingress)

/-- The iteration for a path of a passthrough rule: the route has no host names. -/
def passthroughRoute (path : HTTPIngressPath) : Result Model.TLSRoute := do
  let backend ← serviceBackend ing path.backend
  pure { backends := [backend] }

/-- The iteration for a rule, which is skipped without a host, an HTTP part or a route. -/
def ingestPassthroughRule (listeners : Go.Map String TLSListener) (rule : IngressRule) :
    Result (Go.Map String TLSListener) :=
  if rule.host = "" then pure listeners
  else match rule.http with
  | none => pure listeners
  | some paths => do
    let l := (listeners.get? rule.host).getD { name := listenerName ing rule.host }
    let routes ← (paths.filter (·.path = "/")).mapM (passthroughRoute ing)
    if l.routes ++ routes = [] then pure listeners
    else pure (listeners.set rule.host
      { l with
        port := 443
        sources := addSource l.sources (sourceResource ing)
        hostname := rule.host
        routes := l.routes ++ routes
        service := if routes = [] then l.service else getService ing })

/-- `IngressPassthrough`. -/
def ingressPassthrough : Result (List TLSListener) := do
  let listeners ← ing.rules.foldlM (ingestPassthroughRule ing) ∅
  pure (appendValuesInKeyOrder listeners [])

end

/-! ## Values in the order of the keys -/

section

variable {α : Type} {listenerMap : Go.Map String α}

theorem lists_sortedKeys : listenerMap.Lists (sortStrings (listenerMap.toPairs.map Prod.fst)) :=
  Map.lists_of_perm (perm_insertionSort _ _)

theorem filter_valuesInKeyOrder (key : α → String)
    (hkey : ∀ k v, listenerMap.get? k = some v → key v = k) (h : String) :
    ((sortStrings (listenerMap.toPairs.map Prod.fst)).filterMap listenerMap.get?).filter
      (fun v => key v = h) = (listenerMap.get? h).toList := by
  have hfilter (ks : List String) : (ks.filterMap listenerMap.get?).filter (fun v => key v = h) =
      (ks.filter (· = h)).filterMap listenerMap.get? := by
    rw [filter_filterMap, filterMap_filter]
    refine filterMap_congr fun k _ => ?_
    cases hv : listenerMap.get? k with
    | none => simp
    | some v => simp [hkey k v hv, Option.filter]
  rw [hfilter, filter_eq]
  cases hv : listenerMap.get? h with
  | none =>
    have hnot : h ∉ sortStrings (listenerMap.toPairs.map Prod.fst) := fun hmem =>
      (lists_sortedKeys.mem_iff h).1 hmem |>.elim fun v h => Option.some_ne_none v (h.symm.trans hv)
    rw [count_eq_zero.2 hnot]
    rfl
  | some v =>
    have hmem : h ∈ sortStrings (listenerMap.toPairs.map Prod.fst) :=
      (lists_sortedKeys.mem_iff h).2 ⟨v, hv⟩
    rw [count_eq_one_of_mem lists_sortedKeys.nodup hmem, replicate_one, filterMap_cons, hv]
    rfl

theorem mem_valuesInKeyOrder {v : α} :
    v ∈ appendValuesInKeyOrder listenerMap [] ↔ ∃ k, listenerMap.get? k = some v := by
  rw [appendValuesInKeyOrder, nil_append, mem_filterMap]
  exact exists_congr fun k => and_iff_right_of_imp fun hv => (lists_sortedKeys.mem_iff k).2 ⟨v, hv⟩

theorem map_valuesInKeyOrder (key : α → String)
    (hkey : ∀ k v, listenerMap.get? k = some v → key v = k) :
    (appendValuesInKeyOrder listenerMap []).map key =
      sortStrings (listenerMap.toPairs.map Prod.fst) := by
  rw [appendValuesInKeyOrder, nil_append, map_filterMap]
  calc (sortStrings (listenerMap.toPairs.map Prod.fst)).filterMap
        (fun k => (listenerMap.get? k).map key)
      = (sortStrings (listenerMap.toPairs.map Prod.fst)).filterMap some := by
        refine filterMap_congr fun k hk => ?_
        obtain ⟨v, hv⟩ := (lists_sortedKeys.mem_iff k).1 hk
        rw [hv, Option.map_some, hkey k v hv]
    _ = sortStrings (listenerMap.toPairs.map Prod.fst) := filterMap_some

end

/-! ## What the maps hold -/

/-- The backend that `serviceBackend` returns. -/
def backendOf (ing : Ingress) (service : IngressServiceBackend) : Backend where
  name := service.name
  ns := ing.ns
  port := some { name := service.port.name, port := toUInt32 service.port.number }

theorem serviceBackend_eq_ok {ing : Ingress} {be : IngressBackend} {backend : Backend} :
    serviceBackend ing be = .ok backend ↔
      ∃ service, be.service = some service ∧ backend = backendOf ing service := by
  simp only [serviceBackend, bind_eq_ok, deref_eq_ok, pure_eq_ok, backendOf, eq_comm (a := backend)]

section

variable (opts : IngressOptions) (ing : Ingress)

/-- The route for a path with a type and a Service. -/
def routeOf (path : HTTPIngressPath) : HTTPRoute where
  timeout := ingressTimeout opts ing
  pathMatch := ((path.pathType.map (ingressPathMatch path.path)).getD {})
  backends := path.backend.service.toList.map (backendOf ing)

/-- The route for the default backend. -/
def defaultRoute (be : IngressBackend) : HTTPRoute where
  timeout := ingressTimeout opts ing
  backends := be.service.toList.map (backendOf ing)

/-- The default backend, for the host `*`. -/
def defaultAt (h : String) : Option IngressBackend := if h = "*" then ing.defaultBackend else none

/-- The HTTP parts of rules, each with its host. -/
def parts (rules : List IngressRule) : List (String × List HTTPIngressPath) :=
  rules.flatMap fun rule => rule.http.toList.map fun paths => (hostOf rule, paths)

/-- The HTTP parts of the rules for a host. -/
def httpAt (h : String) : List (List HTTPIngressPath) :=
  (ing.rules.filter fun rule => hostOf rule = h).filterMap (·.http)

/-- What the HTTP part of a rule makes of the listener for its host. -/
def addPaths (h : String) (paths : List HTTPIngressPath) (o : Option HTTPListener) : HTTPListener :=
  let l := o.getD { name := listenerName ing h }
  { l with
    port := opts.insecureListenerPort
    sources := addSource l.sources (sourceResource ing)
    hostname := h
    routes := l.routes ++ paths.map (routeOf opts ing)
    service := if paths = [] then l.service else getService ing }

/-- The listener for a host, from the default backend and the HTTP parts of the rules for it. -/
def hostListener (h : String) (default : Option IngressBackend)
    (parts : List (List HTTPIngressPath)) : HTTPListener where
  name := if default = none then listenerName ing h else ""
  sources := [sourceResource ing]
  port := opts.insecureListenerPort
  hostname := h
  routes := default.toList.map (defaultRoute opts ing) ++ parts.flatten.map (routeOf opts ing)
  service := if default = none ∧ parts.flatten = [] then none else getService ing

/-- This listener, if there is something for the host. -/
def listenerOf (h : String) (default : Option IngressBackend)
    (parts : List (List HTTPIngressPath)) : Option HTTPListener :=
  if default = none ∧ parts = [] then none else some (hostListener opts ing h default parts)

/-- The listener without TLS for a host. -/
def insecureAt (h : String) : Option HTTPListener :=
  listenerOf opts ing h (defaultAt ing h) (httpAt ing h)

/-- What a TLS entry makes of the listener with TLS for a host, given those without TLS for the
    host and for `*`. -/
def addEntry (h : String) (own star : Option HTTPListener) (tlsConfig : IngressTLS)
    (o : Option HTTPListener) : Option HTTPListener :=
  ((o.or own).or star).map fun l =>
    match star with
    | none =>
      { l with
        tls := entrySecrets opts ing tlsConfig l.tls
        port := opts.secureListenerPort
        hostname := h
        service := getService ing
        forceHTTPtoHTTPSRedirect := forceHTTPs opts ing }
    | some defaultListener =>
      { defaultListener with
        tls := entrySecrets opts ing tlsConfig defaultListener.tls
        hostname := h
        port := opts.secureListenerPort }

/-- The TLS entries that name a host, in the order in which the loop visits them. -/
def entriesFor (h : String) : List IngressTLS :=
  ing.tls.flatMap fun tlsConfig => List.replicate (tlsConfig.hosts.count h) tlsConfig

/-- The listener with TLS for a host. -/
def secureAt (h : String) : Option HTTPListener :=
  match (entriesFor ing h).getLast?, insecureAt opts ing "*" with
  | none, _ => none
  | some tlsConfig, some defaultListener => some
    { defaultListener with
      tls := entrySecrets opts ing tlsConfig none
      hostname := h
      port := opts.secureListenerPort }
  | some _, none => (insecureAt opts ing h).map fun l =>
    { l with
      tls := (entriesFor ing h).foldl (fun tls tlsConfig => entrySecrets opts ing tlsConfig tls) none
      port := opts.secureListenerPort
      service := getService ing
      forceHTTPtoHTTPSRedirect := forceHTTPs opts ing }

end

/-- The paths and the default backend that `Ingress` reads have a Service, and the paths a type. -/
structure Ingestible (ing : Ingress) : Prop where
  defaultBackend : ∀ be ∈ ing.defaultBackend, be.service.isSome
  paths : ∀ rule ∈ ing.rules, ∀ paths ∈ rule.http, ∀ path ∈ paths,
    path.pathType.isSome ∧ path.backend.service.isSome

section

variable {opts : IngressOptions} {ing : Ingress}

theorem ingressRoute_eq_ok {path : HTTPIngressPath} {r : HTTPRoute} :
    ingressRoute opts ing path = .ok r ↔
      (path.pathType.isSome ∧ path.backend.service.isSome) ∧ r = routeOf opts ing path := by
  simp only [ingressRoute, bind_eq_ok, deref_eq_ok, serviceBackend_eq_ok, pure_eq_ok]
  constructor
  · rintro ⟨pathType, htype, _, ⟨service, hservice, rfl⟩, rfl⟩
    rw [htype, hservice, routeOf, htype, hservice]
    exact ⟨⟨rfl, rfl⟩, rfl⟩
  · rintro ⟨⟨htype, hservice⟩, rfl⟩
    obtain ⟨pathType, htype⟩ := Option.isSome_iff_exists.1 htype
    obtain ⟨service, hservice⟩ := Option.isSome_iff_exists.1 hservice
    refine ⟨pathType, htype, _, ⟨service, hservice, rfl⟩, ?_⟩
    rw [routeOf, htype, hservice]
    rfl

theorem mapM_ingressRoute_eq_ok {rs : List HTTPRoute} :
    paths.mapM (ingressRoute opts ing) = .ok rs ↔
      (∀ path ∈ paths, path.pathType.isSome ∧ path.backend.service.isSome) ∧
        rs = paths.map (routeOf opts ing) := by
  constructor
  · intro h
    have hok : ∀ path ∈ paths, path.pathType.isSome ∧ path.backend.service.isSome := by
      intro path hpath
      obtain ⟨r, hr⟩ := exists_mapM_eq_ok.1 ⟨rs, h⟩ path hpath
      exact (ingressRoute_eq_ok.1 hr).1
    rw [mapM_eq_map fun path hpath => ingressRoute_eq_ok.2 ⟨hok path hpath, rfl⟩] at h
    exact ⟨hok, (Except.ok.inj h).symm⟩
  · rintro ⟨hok, rfl⟩
    exact mapM_eq_map fun path hpath => ingressRoute_eq_ok.2 ⟨hok path hpath, rfl⟩

variable {listeners : Go.Map String HTTPListener} {l : HTTPListener}

theorem ingestRule_eq_ok : ingestRule opts ing listeners rule = .ok listeners' ↔
      (∀ paths ∈ rule.http, ∀ path ∈ paths, path.pathType.isSome ∧ path.backend.service.isSome) ∧
      listeners' = rule.http.toList.foldl
        (fun ls paths => ls.alter (hostOf rule) (addPaths opts ing (hostOf rule) paths))
        listeners := by
  rw [ingestRule]
  cases rule.http with
  | none => simp [pure_eq_ok, eq_comm (a := listeners)]
  | some paths =>
    simp only [bind_eq_ok, mapM_ingressRoute_eq_ok, pure_eq_ok]
    constructor
    · rintro ⟨_, ⟨hok, rfl⟩, rfl⟩
      exact ⟨fun _ h => Option.some_inj.1 h ▸ hok, rfl⟩
    · rintro ⟨hok, rfl⟩
      exact ⟨_, ⟨hok paths rfl, rfl⟩, rfl⟩

/-- The loop over the rules updates the listeners part by part. -/
theorem foldlM_ingestRule {rules : List IngressRule} :
    rules.foldlM (ingestRule opts ing) listeners = .ok listeners' ↔
      (∀ rule ∈ rules, ∀ paths ∈ rule.http, ∀ path ∈ paths,
        path.pathType.isSome ∧ path.backend.service.isSome) ∧
      listeners' = (parts rules).foldl
        (fun ls part => ls.alter part.1 (addPaths opts ing part.1 part.2)) listeners := by
  induction rules generalizing listeners with
  | nil => simp [parts, pure_eq_ok, eq_comm (a := listeners)]
  | cons rule rules ih =>
    simp only [foldlM_cons, bind_eq_ok, ingestRule_eq_ok, ih, parts, flatMap_cons,
      foldl_append, foldl_map, forall_mem_cons]
    constructor
    · rintro ⟨_, ⟨hrule, rfl⟩, hrules, rfl⟩
      exact ⟨⟨hrule, hrules⟩, rfl⟩
    · rintro ⟨⟨hrule, hrules⟩, rfl⟩
      exact ⟨_, ⟨hrule, rfl⟩, hrules, rfl⟩

theorem addSource_self (source : FullyQualifiedResource) : addSource [source] source = [source] :=
  if_pos (mem_singleton_self source)

section

variable (h : String) (default : Option IngressBackend) (parts : List (List HTTPIngressPath))

theorem addPaths_listenerOf (paths : List HTTPIngressPath) :
    some (addPaths opts ing h paths (listenerOf opts ing h default parts)) =
      listenerOf opts ing h default (parts ++ [paths]) := by
  by_cases hnone : default = none ∧ parts = []
  · obtain ⟨rfl, rfl⟩ := hnone
    simp [listenerOf, hostListener, addPaths, addSource]
  · rw [listenerOf, if_neg hnone]
    by_cases hpaths : paths = []
    · simp [listenerOf, hostListener, addPaths, addSource_self, hpaths]
    · simp [listenerOf, hostListener, addPaths, addSource_self, hpaths]

theorem foldl_addPaths : parts.foldl (fun o paths => some (addPaths opts ing h paths o))
      (listenerOf opts ing h default []) = listenerOf opts ing h default parts := by
  induction parts using reverseRecOn with
  | nil => rfl
  | append_singleton parts paths ih => rw [foldl_concat, ih, addPaths_listenerOf]

end

theorem httpAt_eq (h : String) :
    httpAt ing h = ((parts ing.rules).filter fun part => part.1 = h).map Prod.snd := by
  rw [httpAt, parts]
  induction ing.rules with
  | nil => rfl
  | cons rule rules ih =>
    rw [flatMap_cons, filter_append, map_append, ← ih]
    cases hhttp : rule.http <;> by_cases hhost : hostOf rule = h <;>
      simp [hhttp, hhost]

theorem defaultListenerMap_eq_ok (h : defaultListenerMap opts ing = .ok listeners) :
    (∀ be ∈ ing.defaultBackend, be.service.isSome) ∧
      ∀ host, listeners.get? host = listenerOf opts ing host (defaultAt ing host) [] := by
  rw [defaultListenerMap] at h
  cases hbe : ing.defaultBackend with
  | none =>
    rw [hbe] at h
    rw [← pure_eq_ok.1 h]
    simp [defaultAt, hbe, listenerOf]
  | some be =>
    rw [hbe] at h
    obtain ⟨backend, hbackend, h⟩ := bind_eq_ok.1 h
    obtain ⟨service, hservice, rfl⟩ := serviceBackend_eq_ok.1 hbackend
    rw [← pure_eq_ok.1 h]
    refine ⟨by simp [hservice], fun host => ?_⟩
    rw [Map.get?_set, defaultAt, hbe]
    by_cases hstar : host = "*"
    · simp [hstar, listenerOf, hostListener, defaultListener, defaultRoute, hservice, addSource]
    · simp [hstar, listenerOf]

theorem exists_defaultListenerMap (opts : IngressOptions)
    (h : ∀ be ∈ ing.defaultBackend, be.service.isSome) :
    ∃ listeners, defaultListenerMap opts ing = .ok listeners := by
  rw [defaultListenerMap]
  cases hbe : ing.defaultBackend with
  | none => exact ⟨_, rfl⟩
  | some be =>
    obtain ⟨service, hservice⟩ := Option.isSome_iff_exists.1 (h be hbe)
    exact ⟨_, bind_eq_ok.2 ⟨_, serviceBackend_eq_ok.2 ⟨service, hservice, rfl⟩, rfl⟩⟩

theorem insecureListenerMap_eq_ok (h : insecureListenerMap opts ing = .ok insecure) :
    Ingestible ing ∧ ∀ host, insecure.get? host = insecureAt opts ing host := by
  obtain ⟨listeners, hdefault, h⟩ := bind_eq_ok.1 h
  obtain ⟨hpaths, rfl⟩ := foldlM_ingestRule.1 h
  obtain ⟨hservice, hstart⟩ := defaultListenerMap_eq_ok hdefault
  refine ⟨⟨hservice, hpaths⟩, fun host => ?_⟩
  rw [insecureAt, httpAt_eq, ← foldl_addPaths, foldl_map, ← hstart,
    Map.get?_foldl_alter (fun part : String × List HTTPIngressPath => part.1)
      fun part => addPaths opts ing part.1 part.2]
  refine foldl_ext _ _ _ fun o part hpart => ?_
  have hhost : part.1 = host := of_decide_eq_true (mem_filter.1 hpart).2
  rw [hhost]

theorem exists_insecureListenerMap (h : Ingestible ing) :
    ∃ insecure, insecureListenerMap opts ing = .ok insecure := by
  obtain ⟨listeners, hlisteners⟩ := exists_defaultListenerMap opts h.defaultBackend
  exact ⟨_, bind_eq_ok.2 ⟨listeners, hlisteners, foldlM_ingestRule.2 ⟨h.paths, rfl⟩⟩⟩

theorem get?_ingestTLSHost (insecure secure : Go.Map String HTTPListener) (tlsConfig : IngressTLS)
    (host h : String) :
    (ingestTLSHost opts ing insecure tlsConfig secure host).get? h =
      if host = h then
        addEntry opts ing h (insecure.get? h) (insecure.get? "*") tlsConfig (secure.get? h)
      else secure.get? h := by
  rw [ingestTLSHost, addEntry]
  by_cases hhost : host = h
  · subst hhost
    rw [if_pos rfl]
    cases hl : ((secure.get? host).or (insecure.get? host)).or (insecure.get? "*") with
    | none => exact (Option.or_eq_none_iff.1 (Option.or_eq_none_iff.1 hl).1).1
    | some l => cases hd : insecure.get? "*" <;> simp [Map.get?_set]
  · rw [if_neg hhost]
    split
    · rfl
    · split <;> simp [Map.get?_set, Ne.symm hhost]

theorem get?_secureListenerMap (insecure : Go.Map String HTTPListener) (h : String) :
    (secureListenerMap opts ing insecure).get? h = (entriesFor ing h).foldl (fun o tlsConfig =>
        addEntry opts ing h (insecure.get? h) (insecure.get? "*") tlsConfig o) none := by
  have hentries : entriesFor ing h = ((ing.tls.flatMap fun tlsConfig =>
      tlsConfig.hosts.map fun host => (tlsConfig, host)).filter fun e => e.2 = h).map Prod.fst := by
    rw [entriesFor, filter_flatMap, map_flatMap]
    refine flatMap_congr fun tlsConfig _ => ?_
    rw [filter_map, map_map, count_eq_length_filter]
    exact map_const'.symm
  have hloops : secureListenerMap opts ing insecure = (ing.tls.flatMap fun tlsConfig =>
      tlsConfig.hosts.map fun host => (tlsConfig, host)).foldl
        (fun secure e => ingestTLSHost opts ing insecure e.1 secure e.2) ∅ := by
    simp only [secureListenerMap, foldl_flatMap, foldl_map]
  rw [hloops, hentries, foldl_map,
    Map.get?_foldl (fun e => e.2) (fun e o =>
      addEntry opts ing h (insecure.get? h) (insecure.get? "*") e.1 o)
      (fun secure e => get?_ingestTLSHost insecure secure e.1 e.2 h), Map.get?_empty]

theorem insecureAt_eq_some {h : String} :
    insecureAt opts ing h = some l ↔ (defaultAt ing h ≠ none ∨ httpAt ing h ≠ []) ∧
      l = hostListener opts ing h (defaultAt ing h) (httpAt ing h) := by
  rw [insecureAt, listenerOf]
  by_cases hnone : defaultAt ing h = none ∧ httpAt ing h = []
  · simp [hnone]
  · rw [if_neg hnone, Option.some_inj, eq_comm, iff_and_self]
    exact fun _ => by rwa [← not_and_or]

/-- Every entry replaces the listener by a copy of the one for `*`. -/
theorem foldl_addEntry_star {h : String} {o : Option HTTPListener} {d : HTTPListener}
    (entries : List IngressTLS) :
    entries.foldl (fun s tlsConfig => addEntry opts ing h o (some d) tlsConfig s) none =
      entries.getLast?.map fun tlsConfig =>
        { d with
          tls := entrySecrets opts ing tlsConfig d.tls
          hostname := h
          port := opts.secureListenerPort } := by
  induction entries using reverseRecOn with
  | nil => rfl
  | append_singleton entries tlsConfig _ =>
    rw [foldl_concat, addEntry, getLast?_concat]
    cases hl : (Option.or _ o).or (some d) with
    | none => exact absurd (Option.or_eq_none_iff.1 hl).2 (Option.some_ne_none d)
    | some l => rfl

/-- Without a listener for `*`, every entry changes the one of the host. -/
theorem foldl_addEntry_own {h : String} (hname : l.hostname = h) (entries : List IngressTLS) :
    entries.foldl (fun s tlsConfig => addEntry opts ing h (some l) none tlsConfig s) none =
      if entries = [] then none
      else some
        { l with
          tls := entries.foldl (fun tls tlsConfig => entrySecrets opts ing tlsConfig tls) l.tls
          port := opts.secureListenerPort
          service := getService ing
          forceHTTPtoHTTPSRedirect := forceHTTPs opts ing } := by
  induction entries using reverseRecOn with
  | nil => rfl
  | append_singleton entries tlsConfig ih =>
    rw [foldl_concat, ih, foldl_concat]
    by_cases hnil : entries = []
    · simp [hnil, addEntry, hname]
    · simp [hnil, addEntry, hname]

theorem get?_secureListenerMap_eq (h : ∀ host, insecure.get? host = insecureAt opts ing host)
    (host : String) :
    (secureListenerMap opts ing insecure).get? host = secureAt opts ing host := by
  rw [get?_secureListenerMap, h, h, secureAt]
  cases hstar : insecureAt opts ing "*" with
  | some d =>
    rw [foldl_addEntry_star]
    cases (entriesFor ing host).getLast? with
    | none => rfl
    | some tlsConfig =>
      obtain ⟨_, rfl⟩ := insecureAt_eq_some.1 hstar
      rfl
  | none =>
    cases hl : insecureAt opts ing host with
    | none =>
      have hnone (entries : List IngressTLS) : entries.foldl
          (fun s tlsConfig => addEntry opts ing host none none tlsConfig s) none = none := by
        induction entries with
        | nil => rfl
        | cons tlsConfig entries ih => exact ih
      rw [hnone]
      cases (entriesFor ing host).getLast? <;> rfl
    | some l =>
      obtain ⟨_, rfl⟩ := insecureAt_eq_some.1 hl
      rw [foldl_addEntry_own (h := host) rfl]
      cases hlast : (entriesFor ing host).getLast? with
      | none => rw [if_pos (getLast?_eq_none_iff.1 hlast)]
      | some tlsConfig =>
        rw [if_neg fun hnil => Option.some_ne_none _
          (hlast.symm.trans (getLast?_eq_none_iff.2 hnil))]
        rfl

theorem hostname_secureAt {h : String} (hl : secureAt opts ing h = some l) : l.hostname = h := by
  rw [secureAt] at hl
  split at hl
  · cases hl
  · rw [← Option.some_inj.1 hl]
  · obtain ⟨l', hl', rfl⟩ := Option.map_eq_some_iff.1 hl
    obtain ⟨_, rfl⟩ := insecureAt_eq_some.1 hl'
    rfl

theorem exists_ingress_iff : (∃ ls, ingress opts ing = .ok ls) ↔ Ingestible ing := by
  simp only [ingress, bind_eq_ok, pure_eq_ok]
  constructor
  · rintro ⟨_, insecure, hinsecure, _⟩
    exact (insecureListenerMap_eq_ok hinsecure).1
  · intro h
    obtain ⟨insecure, hinsecure⟩ := exists_insecureListenerMap h
    exact ⟨_, insecure, hinsecure, rfl⟩

theorem ingress_eq_ok {ls : List HTTPListener} (h : ingress opts ing = .ok ls) (host : String) :
    ls.filter (fun l => l.hostname = host) =
      (insecureAt opts ing host).toList ++ (secureAt opts ing host).toList := by
  simp only [ingress, bind_eq_ok, pure_eq_ok] at h
  obtain ⟨insecure, hinsecure, rfl⟩ := h
  have hin := (insecureListenerMap_eq_ok hinsecure).2
  have hsec := get?_secureListenerMap_eq hin
  rw [appendValuesInKeyOrder, appendValuesInKeyOrder, nil_append, filter_append,
    filter_valuesInKeyOrder HTTPListener.hostname ?_ host,
    filter_valuesInKeyOrder HTTPListener.hostname ?_ host, hin, hsec]
  · intro k l hl
    exact hostname_secureAt ((hsec k).symm.trans hl)
  · intro k l hl
    obtain ⟨_, rfl⟩ := insecureAt_eq_some.1 ((hin k).symm.trans hl)
    rfl

theorem mem_ingress {ls : List HTTPListener} (h : ingress opts ing = .ok ls) :
    l ∈ ls ↔ insecureAt opts ing l.hostname = some l ∨ secureAt opts ing l.hostname = some l := by
  have hmem : l ∈ ls ↔ l ∈ ls.filter fun l' => l'.hostname = l.hostname := by
    simp [mem_filter]
  rw [hmem, ingress_eq_ok h, mem_append, Option.mem_toList, Option.mem_toList]

end

/-! ## What passthrough returns -/

/-- The paths of rules that passthrough has a route for, for a host. -/
def rootPaths (rules : List IngressRule) (h : String) : List HTTPIngressPath :=
  ((rules.filter fun rule => rule.host ≠ "" ∧ rule.host = h).flatMap (·.http.getD [])).filter
    (·.path = "/")

/-- The route for a path with a Service. -/
def tlsRouteOf (ing : Ingress) (path : HTTPIngressPath) : Model.TLSRoute where
  backends := path.backend.service.toList.map (backendOf ing)

/-- The listener for a host and its paths. -/
def passthroughListener (ing : Ingress) (h : String) (paths : List HTTPIngressPath) :
    TLSListener where
  name := listenerName ing h
  sources := [sourceResource ing]
  port := 443
  hostname := h
  routes := paths.map (tlsRouteOf ing)
  service := getService ing

/-- What further paths make of the listener for a host. -/
def addRoots (ing : Ingress) (h : String) (roots : List HTTPIngressPath)
    (o : Option TLSListener) : Option TLSListener :=
  let l := o.getD { name := listenerName ing h }
  if l.routes ++ roots.map (tlsRouteOf ing) = [] then o
  else some
    { l with
      port := 443
      sources := addSource l.sources (sourceResource ing)
      hostname := h
      routes := l.routes ++ roots.map (tlsRouteOf ing)
      service := if roots.map (tlsRouteOf ing) = [] then l.service else getService ing }

/-- The listener for a host, if it has paths. -/
def passthroughAt (ing : Ingress) (h : String) (paths : List HTTPIngressPath) :
    Option TLSListener :=
  if paths = [] then none else some (passthroughListener ing h paths)

/-- The paths that `IngressPassthrough` makes a route for have a Service. -/
def PassthroughIngestible (rules : List IngressRule) : Prop :=
  ∀ rule ∈ rules, rule.host ≠ "" → ∀ paths ∈ rule.http, ∀ path ∈ paths, path.path = "/" →
    path.backend.service.isSome

section

variable {ing : Ingress}

theorem mapM_passthroughRoute_eq_ok {rs : List Model.TLSRoute} :
    paths.mapM (passthroughRoute ing) = .ok rs ↔ (∀ path ∈ paths, path.backend.service.isSome) ∧
        rs = paths.map (tlsRouteOf ing) := by
  have hroute {path : HTTPIngressPath} {r : Model.TLSRoute} : passthroughRoute ing path = .ok r ↔
      path.backend.service.isSome ∧ r = tlsRouteOf ing path := by
    simp only [passthroughRoute, bind_eq_ok, serviceBackend_eq_ok, pure_eq_ok, tlsRouteOf]
    cases path.backend.service <;> simp [eq_comm]
  constructor
  · intro h
    have hok : ∀ path ∈ paths, path.backend.service.isSome := by
      intro path hpath
      obtain ⟨r, hr⟩ := exists_mapM_eq_ok.1 ⟨rs, h⟩ path hpath
      exact (hroute.1 hr).1
    rw [mapM_eq_map fun path hpath => hroute.2 ⟨hok path hpath, rfl⟩] at h
    exact ⟨hok, (Except.ok.inj h).symm⟩
  · rintro ⟨hok, rfl⟩
    exact mapM_eq_map fun path hpath => hroute.2 ⟨hok path hpath, rfl⟩

theorem addRoots_passthroughAt (h : String) (done roots : List HTTPIngressPath) :
    addRoots ing h roots (passthroughAt ing h done) = passthroughAt ing h (done ++ roots) := by
  by_cases hdone : done = [] <;> by_cases hroots : roots = [] <;>
    simp [addRoots, passthroughAt, passthroughListener, hdone, hroots, addSource]

theorem rootPaths_singleton (hhost : rule.host ≠ "") (hhttp : rule.http = some paths) (h : String) :
    rootPaths [rule] h = if rule.host = h then paths.filter (·.path = "/") else [] := by
  by_cases hk : rule.host = h
  · subst hk
    simp [rootPaths, hhost, hhttp]
  · simp [rootPaths, hk]

/-- The iteration for a rule adds its paths `/` to those of its host. -/
theorem ingestPassthroughRule_eq_ok {listeners' : Go.Map String TLSListener}
    {done : String → List HTTPIngressPath}
    (hdone : ∀ h, listeners.get? h = passthroughAt ing h (done h))
    (h : ingestPassthroughRule ing listeners rule = .ok listeners') :
    PassthroughIngestible [rule] ∧
      ∀ h, listeners'.get? h = passthroughAt ing h (done h ++ rootPaths [rule] h) := by
  rw [ingestPassthroughRule] at h
  by_cases hhost : rule.host = ""
  · rw [if_pos hhost] at h
    rw [← pure_eq_ok.1 h]
    simp [PassthroughIngestible, rootPaths, hhost, hdone]
  rw [if_neg hhost] at h
  cases hhttp : rule.http with
  | none =>
    rw [hhttp] at h
    rw [← pure_eq_ok.1 h]
    simp [PassthroughIngestible, rootPaths, hhttp, hdone, filter_cons, apply_ite]
  | some paths =>
    rw [hhttp] at h
    simp only [bind_eq_ok, mapM_passthroughRoute_eq_ok] at h
    obtain ⟨_, ⟨hok, rfl⟩, h⟩ := h
    refine ⟨?_, fun k => ?_⟩
    · simp only [PassthroughIngestible, mem_singleton, forall_eq, hhttp, Option.mem_def,
        Option.some_inj, forall_eq']
      exact fun _ path hpath hroot => hok path (mem_filter.2 ⟨hpath, decide_eq_true hroot⟩)
    · rw [rootPaths_singleton hhost hhttp]
      by_cases hk : rule.host = k
      · subst hk
        rw [if_pos rfl, ← addRoots_passthroughAt, ← hdone, addRoots]
        by_cases hempty : ((listeners.get? rule.host).getD
            { name := listenerName ing rule.host }).routes ++
              (paths.filter (·.path = "/")).map (tlsRouteOf ing) = []
        · rw [if_pos hempty] at h ⊢
          rw [← pure_eq_ok.1 h]
        · rw [if_neg hempty] at h ⊢
          rw [← pure_eq_ok.1 h, Map.get?_set, if_pos rfl]
      · rw [if_neg hk, append_nil, ← hdone]
        by_cases hempty : ((listeners.get? rule.host).getD
            { name := listenerName ing rule.host }).routes ++
              (paths.filter (·.path = "/")).map (tlsRouteOf ing) = []
        · rw [if_pos hempty] at h
          rw [← pure_eq_ok.1 h]
        · rw [if_neg hempty] at h
          rw [← pure_eq_ok.1 h, Map.get?_set, if_neg (Ne.symm hk)]

theorem rootPaths_cons (rule : IngressRule) (rules : List IngressRule) (h : String) :
    rootPaths (rule :: rules) h = rootPaths [rule] h ++ rootPaths rules h := by
  simp only [rootPaths]
  rw [← singleton_append, filter_append, flatMap_append, filter_append]

theorem foldlM_ingestPassthroughRule {rules : List IngressRule}
    {listeners' : Go.Map String TLSListener} (done : String → List HTTPIngressPath)
    (hdone : ∀ h, listeners.get? h = passthroughAt ing h (done h))
    (h : rules.foldlM (ingestPassthroughRule ing) listeners = .ok listeners') :
    PassthroughIngestible rules ∧
      ∀ h, listeners'.get? h = passthroughAt ing h (done h ++ rootPaths rules h) := by
  induction rules generalizing listeners done with
  | nil =>
    rw [← pure_eq_ok.1 h]
    exact ⟨fun _ h => (by cases h), fun k => by
      rw [hdone, rootPaths, filter_nil, flatMap_nil, filter_nil, append_nil]⟩
  | cons rule rules ih =>
    rw [foldlM_cons] at h
    obtain ⟨next, hnext, h⟩ := bind_eq_ok.1 h
    obtain ⟨hrule, hget⟩ := ingestPassthroughRule_eq_ok hdone hnext
    obtain ⟨hrules, hget⟩ := ih _ hget h
    refine ⟨forall_mem_cons.2 ⟨hrule rule (mem_singleton_self rule), hrules⟩, fun k => ?_⟩
    rw [hget, rootPaths_cons rule rules, append_assoc]

theorem exists_ingressPassthrough_iff :
    (∃ ls, ingressPassthrough ing = .ok ls) ↔ PassthroughIngestible ing.rules := by
  simp only [ingressPassthrough, bind_eq_ok, pure_eq_ok]
  constructor
  · rintro ⟨_, listeners, hlisteners, _⟩
    exact (foldlM_ingestPassthroughRule (fun _ => []) (fun k => Map.get?_empty k) hlisteners).1
  · intro h
    have hstep (listeners : Go.Map String TLSListener) (rule : IngressRule)
        (hrule : rule ∈ ing.rules) :
        ∃ listeners', ingestPassthroughRule ing listeners rule = .ok listeners' := by
      rw [ingestPassthroughRule]
      by_cases hhost : rule.host = ""
      · exact ⟨_, if_pos hhost⟩
      rw [if_neg hhost]
      cases hhttp : rule.http with
      | none => exact ⟨_, rfl⟩
      | some paths =>
        have hok (path : HTTPIngressPath) (hpath : path ∈ paths.filter (·.path = "/")) :
            path.backend.service.isSome :=
          h rule hrule hhost paths hhttp path (mem_filter.1 hpath).1
            (of_decide_eq_true (mem_filter.1 hpath).2)
        dsimp only
        rw [mapM_passthroughRoute_eq_ok.2 ⟨hok, rfl⟩]
        exact ⟨_, (apply_ite Except.ok _ _ _).symm⟩
    obtain ⟨listeners, hlisteners⟩ := exists_foldlM_eq_ok hstep ∅
    exact ⟨_, listeners, hlisteners, rfl⟩

theorem ingressPassthrough_eq_ok {ls : List TLSListener} (h : ingressPassthrough ing = .ok ls)
    (host : String) :
    ls.filter (fun l => l.hostname = host) =
      (passthroughAt ing host (rootPaths ing.rules host)).toList := by
  simp only [ingressPassthrough, bind_eq_ok, pure_eq_ok] at h
  obtain ⟨listeners, hlisteners, rfl⟩ := h
  have hget := (foldlM_ingestPassthroughRule (fun _ => []) (fun k => Map.get?_empty k) hlisteners).2
  simp only [nil_append] at hget
  rw [appendValuesInKeyOrder, nil_append,
    filter_valuesInKeyOrder TLSListener.hostname ?_ host, hget]
  intro k l hl
  rw [hget, passthroughAt] at hl
  split_ifs at hl
  rw [← Option.some_inj.1 hl]
  rfl

theorem mem_ingressPassthrough {ls : List TLSListener} (h : ingressPassthrough ing = .ok ls)
    {l : TLSListener} :
    l ∈ ls ↔ passthroughAt ing l.hostname (rootPaths ing.rules l.hostname) = some l := by
  have hmem : l ∈ ls ↔ l ∈ ls.filter fun l' => l'.hostname = l.hostname := by
    simp [mem_filter]
  rw [hmem, ingressPassthrough_eq_ok h, Option.mem_toList]

end

end Ingestion
