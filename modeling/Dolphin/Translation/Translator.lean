import Dolphin.Translation.Listeners

/-!
# The translators

`DefaultTranslator.translate` makes the Envoy configuration of a model: its listener, route
configurations, clusters and TCP listeners (`getResources`), with the services these use.

`GatewayTranslator.translate` does so for the model of a Gateway, without enforcement of
HTTPS, and makes the Service and the Endpoints of the Gateway too.
-/

namespace Translation

open Model Go Envoy List

/-- The orders in which translation visits its maps. -/
structure RangeOrders where
  services : RangeOrder Service
  ports : RangeOrder Nat
  listener : ListenerOrders
  clusters : ClusterOrders

/-- All maps in the order of their entries. -/
def RangeOrders.entries : RangeOrders :=
  ⟨.entries, .entries, ⟨.entries, .entries, .entries⟩, ⟨.entries, .entries, .entries⟩⟩

variable {slices : Slices} {orders : RangeOrders} {m : Model}

/-! ## The default translator -/

structure ServiceListener where
  name : String
  ns : String
  ports : List Nat
  deriving DecidableEq, Repr

structure OwnerReference where
  apiVersion : String
  kind : String
  name : String
  uid : String
  controller : Bool
  deriving DecidableEq, Repr

/-- The configuration, whose labels are always the same. -/
structure DolphinEnvoyConfig where
  name : String
  ns : String
  ownerReferences : List OwnerReference := []
  backendServices : List Service
  services : List ServiceListener
  resources : List XDSResource
  annotations : Go.Map String String := ∅
  labels : Go.Map String String := ∅
  deriving DecidableEq

section

variable (slices : Slices) (orders : RangeOrders) (t : DefaultTranslator) (m : Model)

/-- The ports of the listeners, which are converted to `uint16`. -/
def getServices : List ServiceListener :=
  let ports := m.http.map (·.port) ++ m.tls.map (·.port) ++ m.tcp.map (·.port)
  let listenerPorts := (ports.filter (· ≠ 0)).map (· % 2 ^ 16)
  [⟨t.name, t.ns, (orders.ports.visit listenerPorts.dedup).insertionSort (· ≤ ·)⟩]

def getResources : Result (List XDSResource) := do
  let listener ← getListener slices orders.listener t m
  let configurations ← getEnvoyHTTPRouteConfiguration slices t m
  pure (listener ++ configurations.map .routeConfiguration ++
    getClusters slices orders.clusters t m ++ getTCPRouteListeners m)

def DefaultTranslator.translate : Result DolphinEnvoyConfig := do
  let resources ← getResources slices orders t m
  pure
    { name := t.name
      ns := t.ns
      backendServices := getBackendServices slices orders.services m
      services := getServices orders t m
      resources := resources }

end

variable {t : DefaultTranslator} {rs : List XDSResource}

theorem getResources_eq_ok {m : Model} : getResources slices orders t m = .ok rs ↔
      ∃ listener rcs, getListener slices orders.listener t m = .ok listener ∧
        getEnvoyHTTPRouteConfiguration slices t m = .ok rcs ∧
        rs = listener ++ rcs.map .routeConfiguration ++ getClusters slices orders.clusters t m ++
          getTCPRouteListeners m := by
  simp only [getResources, bind_eq_ok, pure_eq_ok, eq_comm (a := rs)]
  constructor
  · intro h
    obtain ⟨listener, hlistener, rcs, hrcs, hrs⟩ := h
    exact ⟨listener, rcs, hlistener, hrcs, hrs⟩
  · intro h
    obtain ⟨listener, rcs, hlistener, hrcs, hrs⟩ := h
    exact ⟨listener, hlistener, rcs, hrcs, hrs⟩

section

variable (h : getResources slices orders t m = .ok rs)

include h

theorem routeConfiguration_mem_getResources {rc : RouteConfiguration}
    (hrc : .routeConfiguration rc ∈ rs) :
    ∃ rcs, getEnvoyHTTPRouteConfiguration slices t m = .ok rcs ∧ rc ∈ rcs := by
  obtain ⟨listener, rcs, hlistener, hrcs, rfl⟩ := getResources_eq_ok.1 h
  rcases mem_append.1 hrc with hrc | hrc
  · rcases mem_append.1 hrc with hrc | hrc
    · rcases mem_append.1 hrc with hrc | hrc
      · obtain ⟨_, _, hl, _⟩ := mem_getListener hlistener hrc
        cases hl
      · obtain ⟨rc', hmem, heq⟩ := mem_map.1 hrc
        exact ⟨rcs, hrcs, XDSResource.routeConfiguration.inj heq ▸ hmem⟩
    · rcases mem_getClusters _ _ _ hrc with hc | ⟨c, hc⟩
      · cases hc
      · cases hc
  · obtain ⟨_, _, hl⟩ := mem_map.1 hrc
    cases hl

theorem cluster_mem_getResources {c : Cluster} :
    .cluster c ∈ rs ↔ .cluster c ∈ getClusters slices orders.clusters t m := by
  obtain ⟨listener, rcs, hlistener, _, rfl⟩ := getResources_eq_ok.1 h
  constructor
  · intro hc
    rcases mem_append.1 hc with hc | hc
    · rcases mem_append.1 hc with hc | hc
      · rcases mem_append.1 hc with hc | hc
        · obtain ⟨_, _, hl, _⟩ := mem_getListener hlistener hc
          cases hl
        · obtain ⟨_, _, heq⟩ := mem_map.1 hc
          cases heq
      · exact hc
    · obtain ⟨_, _, hl⟩ := mem_map.1 hc
      cases hl
  · intro hc
    exact mem_append_left _ (mem_append_right _ hc)

theorem listener_mem_getResources {l : Listener} (hl : .listener l ∈ rs) :
    (∃ ls, getListener slices orders.listener t m = .ok ls ∧ .listener l ∈ ls) ∨
      .listener l ∈ getTCPRouteListeners m := by
  obtain ⟨listener, rcs, hlistener, hrcs, rfl⟩ := getResources_eq_ok.1 h
  rcases mem_append.1 hl with hl | hl
  · rcases mem_append.1 hl with hl | hl
    · rcases mem_append.1 hl with hl | hl
      · exact .inl ⟨listener, hlistener, hl⟩
      · obtain ⟨_, _, heq⟩ := mem_map.1 hl
        cases heq
    · rcases mem_getClusters _ _ _ hl with hc | ⟨c, hc⟩
      · cases hc
      · cases hc
  · exact .inr hl

end

/-! ## The translator of Gateways -/

structure ServicePortEntry where
  name : String
  port : Int
  targetPort : Int
  protocol : String
  deriving DecidableEq, Repr

structure GatewayService where
  name : String
  ns : String
  labels : Go.Map String String
  annotations : Go.Map String String
  ownerReferences : List OwnerReference
  type : String
  ports : List ServicePortEntry

/-- The Endpoints, whose address and port are always the same. -/
structure GatewayEndpoints where
  name : String
  ns : String
  labels : Go.Map String String
  ownerReferences : List OwnerReference

structure GatewayTranslator where
  secretNameSpace : String
  idleTimeoutSeconds : Int := 0
  enableIpv4 : Bool := false
  enableIpv6 : Bool := false

structure GatewayResources where
  config : Option DolphinEnvoyConfig
  service : GatewayService
  endpoints : GatewayEndpoints

def dolphinGatewayPrefix : String := "dolphin-gateway-"

def owningGatewayLabel : String := "io.dolphin.gateway/owning-gateway"

/-- The digits of a hash that look alike are replaced. -/
def encodehash (x : String) : String :=
  String.ofList <| (x.toList.take 10).map fun c =>
    if c = '0' then 'g' else if c = '1' then 'h' else if c = '3' then 'k'
    else if c = 'a' then 'm' else if c = 'e' then 't' else c

/-- Names, which are ASCII, are cut to 63 characters; `hash` is the hexadecimal SHA-256. -/
def shorten (hash : String → String) (s : String) : String :=
  if s.utf8ByteSize > 63 then String.ofList (s.toList.take 52) ++ "-" ++ encodehash (hash s)
  else s

def mergeMap (left : Go.Map String String) (right : List (String × String)) :
    Go.Map String String :=
  right.foldl (fun m p => m.set p.1 p.2) left

def ownerReferenceTo (resource : FullyQualifiedResource) : OwnerReference :=
  ⟨"gateway.networking.k8s.io/v1", resource.kind, resource.name, resource.uid, true⟩

section

variable (hash : String → String)

def getService (resource : FullyQualifiedResource) (allPorts : List Nat)
    (labels annotations : Go.Map String String) (nodePort : Bool) : GatewayService where
  name := shorten hash (dolphinGatewayPrefix ++ resource.name)
  ns := resource.ns
  labels := mergeMap (Map.ofList [(owningGatewayLabel, shorten hash resource.name)]) labels.toPairs
  annotations := annotations
  ownerReferences := [ownerReferenceTo resource]
  type := if nodePort then "NodePort" else "LoadBalancer"
  ports := (allPorts.dedup.insertionSort (· ≤ ·)).map fun p =>
    -- a conversion from uint32 to int32
    ⟨"port-" ++ toString p, Int.bmod p (2 ^ 32), Int.bmod p (2 ^ 32), "TCP"⟩

def getEndpoints (resource : FullyQualifiedResource) : GatewayEndpoints where
  name := shorten hash (dolphinGatewayPrefix ++ resource.name)
  ns := resource.ns
  labels := Map.ofList [(owningGatewayLabel, shorten hash resource.name)]
  ownerReferences := [ownerReferenceTo resource]

/-- What `Translate` reads of a listener of any protocol. -/
structure ListenerSummary where
  sources : List FullyQualifiedResource
  port : Nat
  infrastructure : Option Infrastructure

/-- All listeners, in the order in which `Translate` goes over them. -/
def listenerSummaries (m : Model) : List ListenerSummary :=
  m.http.map (fun l => ⟨l.sources, l.port, l.infrastructure⟩) ++
    m.tls.map (fun l => ⟨l.sources, l.port, l.infrastructure⟩) ++
    m.tcp.map (fun l => ⟨l.sources, l.port, l.infrastructure⟩) ++
    m.udp.map fun l => ⟨l.sources, l.port, l.infrastructure⟩

/-- The first source of a listener, for the first listener whose first source has a name. -/
def modelSource (m : Model) : Option FullyQualifiedResource :=
  ((listenerSummaries m).filterMap (·.sources.head?)).find? (·.name ≠ "")

/-- The default translator for the source of a model. -/
def GatewayTranslator.toDefault (t : GatewayTranslator) (source : FullyQualifiedResource) :
    DefaultTranslator where
  name := dolphinGatewayPrefix ++ source.name
  ns := source.ns
  secretsNamespace := t.secretNameSpace
  enforceHTTPs := false
  useProxyProtocol := false
  hostNameSuffixMatch := true
  idleTimeoutSeconds := t.idleTimeoutSeconds
  ipv4Enabled := t.enableIpv4
  ipv6Enabled := t.enableIpv6

/-- The Envoy configuration, which a model with only UDP listeners does not have. -/
def GatewayTranslator.envoyConfig (slices : Slices) (orders : RangeOrders) (t : GatewayTranslator)
    (source : FullyQualifiedResource) (m : Model) : Result (Option DolphinEnvoyConfig) :=
  if m.http = [] ∧ m.tls = [] ∧ m.tcp = [] then pure none
  else do
    let config ← (t.toDefault source).translate slices orders m
    pure (some { config with ownerReferences := [ownerReferenceTo source] })

/-- The translation of the model of a Gateway, or an error. -/
def GatewayTranslator.translate (slices : Slices) (orders : RangeOrders) (t : GatewayTranslator)
    (nodePort : Bool) (m : Model) : Result (Except String GatewayResources) :=
  match modelSource m with
  | none => pure (.error "model source can't be empty")
  | some source => do
    let infrastructures := (listenerSummaries m).filterMap (·.infrastructure)
    let labels := infrastructures.foldl (fun all i => mergeMap all i.labels) ∅
    let annotations := infrastructures.foldl (fun all i => mergeMap all i.annotations) ∅
    let ports := (listenerSummaries m).map (·.port)
    let config ← t.envoyConfig slices orders source m
    pure (.ok
      { config := config
        service := getService hash source ports labels annotations nodePort
        endpoints := getEndpoints hash source })

end

section

variable {hash : String → String} {t : GatewayTranslator} {nodePort : Bool} {res : GatewayResources}

/-- What the translation of a model returns: the resources for the source of the model. -/
theorem GatewayTranslator.translate_eq_ok
    (h : t.translate hash slices orders nodePort m = .ok (.ok res)) :
    ∃ source labels annotations, modelSource m = some source ∧
      labels = ((listenerSummaries m).filterMap (·.infrastructure)).foldl
        (fun all i => mergeMap all i.labels) ∅ ∧
      t.envoyConfig slices orders source m = .ok res.config ∧
      res.service = getService hash source ((listenerSummaries m).map (·.port)) labels annotations
        nodePort ∧
      res.endpoints = getEndpoints hash source := by
  rw [translate] at h
  cases hsource : modelSource m with
  | none =>
    rw [hsource] at h
    cases h
  | some source =>
    rw [hsource] at h
    obtain ⟨config, hconfig, h⟩ := bind_eq_ok.1 h
    obtain rfl := Except.ok.inj (pure_eq_ok.1 h)
    exact ⟨source, _, _, rfl, rfl, hconfig, rfl, rfl⟩

/-- The Envoy configuration of a Gateway is that of the default translator, with an owner. -/
theorem GatewayTranslator.envoyConfig_eq_some {source : FullyQualifiedResource}
    {config : DolphinEnvoyConfig} (h : t.envoyConfig slices orders source m = .ok (some config)) :
    ∃ inner, (t.toDefault source).translate slices orders m = .ok inner ∧
      config = { inner with ownerReferences := [ownerReferenceTo source] } := by
  rw [envoyConfig] at h
  split_ifs at h
  · cases h
  · obtain ⟨inner, hinner, hpure⟩ := bind_eq_ok.1 h
    exact ⟨inner, hinner, (Option.some_inj.1 (pure_eq_ok.1 hpure)).symm⟩

theorem GatewayTranslator.envoyConfig_orders {source : FullyQualifiedResource}
    {config : Option DolphinEnvoyConfig} (h : t.envoyConfig slices orders source m = .ok config)
    (orders' : RangeOrders) : ∃ config', t.envoyConfig slices orders' source m = .ok config' ∧
      config'.isSome = config.isSome := by
  rw [envoyConfig] at h ⊢
  by_cases hnone : m.http = [] ∧ m.tls = [] ∧ m.tcp = []
  · rw [if_pos hnone] at h ⊢
    obtain rfl := pure_eq_ok.1 h
    exact ⟨none, rfl, rfl⟩
  · rw [if_neg hnone] at h ⊢
    obtain ⟨inner, hinner, rfl⟩ := bind_pure_eq_ok.1 h
    obtain ⟨resources, hresources, _⟩ := bind_eq_ok.1 hinner
    obtain ⟨listener, rcs, hlistener, hrcs, _⟩ := getResources_eq_ok.1 hresources
    obtain ⟨listener', hlistener'⟩ := getListener_orders hlistener orders'.listener
    have hresources' := getResources_eq_ok.2 ⟨listener', rcs, hlistener', hrcs, rfl⟩
    exact ⟨_, bind_eq_ok.2 ⟨_, bind_eq_ok.2 ⟨_, hresources', rfl⟩, rfl⟩, rfl⟩

/-- Whether a model can be translated, and whether it has an Envoy configuration, does not depend on
    the orders of maps. -/
theorem GatewayTranslator.translate_orders
    (h : t.translate hash slices orders nodePort m = .ok (.ok res)) (orders' : RangeOrders) :
    ∃ res', t.translate hash slices orders' nodePort m = .ok (.ok res') ∧
      res'.config.isSome = res.config.isSome := by
  rw [translate] at h ⊢
  cases hsource : modelSource m with
  | none =>
    rw [hsource] at h
    cases h
  | some source =>
    rw [hsource] at h
    obtain ⟨config, hconfig, h⟩ := bind_eq_ok.1 h
    obtain rfl := Except.ok.inj (pure_eq_ok.1 h)
    obtain ⟨config', hconfig', hsome⟩ := envoyConfig_orders hconfig orders'
    exact ⟨_, bind_eq_ok.2 ⟨config', hconfig', rfl⟩, hsome⟩

/-- The Envoy configuration for a Gateway has the resources of the default translator. -/
theorem GatewayTranslator.resources_of_translate
    (h : t.translate hash slices orders nodePort m = .ok (.ok res))
    {config : DolphinEnvoyConfig} (hconfig : res.config = some config) :
    ∃ source, modelSource m = some source ∧
      getResources slices orders (t.toDefault source) m = .ok config.resources := by
  obtain ⟨source, _, _, hsource, _, henvoy, _, _⟩ := translate_eq_ok h
  rw [hconfig] at henvoy
  obtain ⟨inner, hinner, rfl⟩ := envoyConfig_eq_some henvoy
  obtain ⟨resources, hresources, hinner⟩ := bind_eq_ok.1 hinner
  refine ⟨source, hsource, ?_⟩
  rw [hresources, ← pure_eq_ok.1 hinner]

end

end Translation
