import Dolphin.Reconcile.StatusOwnership

/-!
# Events of routes

When a route is created or changed, the Gateways should be reconciled to which it can attach: those of
this controller that a parentRef names, directly or through a ListenerSet (`WakesAttachable`).

The handlers go over the parentRefs. What they get wrong:

* a ListenerSet is looked up in a namespace with the name `ListenerSet`, which does not exist, so no
  Gateway is found through one;
* the handlers of TCPRoutes and UDPRoutes are registered with the name `dolphin`, which is not that of
  the controller (`registeredName`).

So the right Gateways are woken exactly if those that a ListenerSet leads to are also named directly,
and the class of each that is named directly has the one name if it has the other
(`wakesAttachable_iff`).
-/

namespace Watch

open Gatewayv1 Go Ingestion Reconcile List

section

variable (api : RouteAPI)

/-! ## The handlers -/

/-- `hasMatchingController`, for a Gateway with this class. -/
def hasMatchingController (controllerName gatewayClassName : String) : Bool :=
  match api.getGatewayClass gatewayClassName with
  | .ok gwc => gwc.controllerName == controllerName
  | .error _ => false

def resolveListenerSetToGateway (lsName lsNamespace : String) : Option NamespacedName :=
  match api.getListenerSet ⟨lsNamespace, lsName⟩ with
  | .ok ls =>
    let (ns, name) := listenerSetParentGateway ls
    some ⟨ns, name⟩
  | .error _ => none

/-- The Gateway to which the handler thinks a parentRef leads. -/
def parentGatewayName (route : Route) (parent : ParentReference) : Option NamespacedName :=
  if isGateway parent then some (parentKey route parent)
  -- the last argument should be the namespace
  else if isListenerSet parent then resolveListenerSetToGateway api parent.name "ListenerSet"
  else none

/-- The class of a Gateway. If there is no such Gateway, it is read from an empty one. -/
def gatewayClassNameOf (gwNN : NamespacedName) : String :=
  match api.getGateway gwNN with
  | .ok gw => gw.gatewayClassName
  | .error _ => ""

/-- The requests for a route, as `watch-handlers` computes them. -/
def getGatewayReconcileRequestsForRoute (route : Route) (controllerName : String) :
    List NamespacedName :=
  (route.toCommonRoute.parentRefs.filterMap (parentGatewayName api route)).filter fun gwNN =>
    hasMatchingController api controllerName (gatewayClassNameOf api gwNN)

/-- The function of the same name in `gateway.go`, which leaves parentRefs to ListenerSets out. -/
def getDirectReconcileRequestsForRoute (route : Route) : List NamespacedName :=
  ((route.toCommonRoute.parentRefs.filter isGateway).map (parentKey route)).filter fun gwNN =>
    match api.getGateway gwNN with
    | .ok gw => hasMatchingController api gatewayControllerName gw.gatewayClassName
    | .error _ => false

def enqueueRequestForOwningHTTPRoute (controllerName : String) (hr : HTTPRoute) :
    List NamespacedName :=
  getGatewayReconcileRequestsForRoute api (.http hr) controllerName

def enqueueRequestForOwningTCPRoute (controllerName : String) (tr : TCPRoute) :
    List NamespacedName :=
  getGatewayReconcileRequestsForRoute api (.tcp tr) controllerName

def enqueueRequestForOwningUDPRoute (controllerName : String) (ur : UDPRoute) :
    List NamespacedName :=
  getGatewayReconcileRequestsForRoute api (.udp ur) controllerName

def enqueueRequestForOwningGRPCRoute (gr : GRPCRoute) : List NamespacedName :=
  getDirectReconcileRequestsForRoute api (.grpc gr)

def enqueueRequestForOwningTLSRoute (tr : TLSRoute) : List NamespacedName :=
  getDirectReconcileRequestsForRoute api (.tls tr)

/-- The handlers as the controller registers them. -/
def watchRoute : Route → List NamespacedName
  | .http hr => enqueueRequestForOwningHTTPRoute api gatewayControllerName hr
  | .grpc gr => enqueueRequestForOwningGRPCRoute api gr
  | .tls tr => enqueueRequestForOwningTLSRoute api tr
  | .tcp tr => enqueueRequestForOwningTCPRoute api "dolphin" tr
  | .udp ur => enqueueRequestForOwningUDPRoute api "dolphin" ur

/-! ## What they should return -/

/-- A parentRef of the route names the Gateway. -/
def NamesDirectly (route : Route) (key : NamespacedName) : Prop :=
  ∃ ref ∈ route.toCommonRoute.parentRefs, isGateway ref = true ∧ parentKey route ref = key

/-- The parentRef of the ListenerSet names the Gateway. -/
def SetNames (ls : ListenerSet) (key : NamespacedName) : Prop :=
  isGateway ls.parentRef = true ∧ ⟨namespaceDerefOr ls.parentRef.ns ls.ns, ls.parentRef.name⟩ = key

/-- A parentRef of the route names a ListenerSet that names the Gateway. -/
def NamesThroughSet (route : Route) (key : NamespacedName) : Prop :=
  ∃ ref ∈ route.toCommonRoute.parentRefs, isListenerSet ref = true ∧
    ∃ ls, api.getListenerSet (parentKey route ref) = .ok ls ∧ SetNames ls key

/-- The requests are those for the Gateways of this controller that the route names. -/
def WakesAttachable (route : Route) : Prop :=
  ∀ key, key ∈ watchRoute api route ↔ ∃ gw, api.getGateway key = .ok gw ∧ OwnGateway api gw ∧
    (NamesDirectly route key ∨ NamesThroughSet api route key)

/-- The class of the Gateway names the controller. -/
def ControlledBy (controllerName : String) (gw : Gateway) : Prop :=
  ∃ gwc, api.getGatewayClass gw.gatewayClassName = .ok gwc ∧ gwc.controllerName = controllerName

end

/-- The name of the controller with which the handler for the route compares. -/
def registeredName : Route → String
  | .http _ | .grpc _ | .tls _ => gatewayControllerName
  | .tcp _ | .udp _ => "dolphin"

/-! ## What they return -/

section

variable {api : RouteAPI} {route : Route} {key : NamespacedName} {controllerName : String}

theorem hasMatchingController_iff_controlledBy {gw : Gateway} :
    hasMatchingController api controllerName gw.gatewayClassName = true ↔
      ControlledBy api controllerName gw := by
  rw [hasMatchingController, ControlledBy]
  cases api.getGatewayClass gw.gatewayClassName <;> simp

theorem hasMatchingController_gatewayClassNameOf_iff
    (hclass : ∀ gwc, api.getGatewayClass "" ≠ .ok gwc) :
    hasMatchingController api controllerName (gatewayClassNameOf api key) = true ↔
      ∃ gw, api.getGateway key = .ok gw ∧ ControlledBy api controllerName gw := by
  rw [gatewayClassNameOf]
  cases api.getGateway key with
  | ok gw => simp [hasMatchingController_iff_controlledBy]
  | error err =>
    refine iff_of_false (fun h => ?_) (by simp)
    rw [hasMatchingController] at h
    cases hgwc : api.getGatewayClass "" with
    | ok gwc => exact hclass gwc hgwc
    | error err =>
      rw [hgwc] at h
      exact Bool.false_ne_true h

/-- As no ListenerSet is found, only parentRefs to Gateways lead anywhere. -/
theorem parentGatewayName_eq_some_iff
    (hsets : ∀ name ls, api.getListenerSet ⟨"ListenerSet", name⟩ ≠ .ok ls)
    {ref : ParentReference} :
    parentGatewayName api route ref = some key ↔
      isGateway ref = true ∧ parentKey route ref = key := by
  have hnone : resolveListenerSetToGateway api ref.name "ListenerSet" = none := by
    rw [resolveListenerSetToGateway]
    cases hls : api.getListenerSet ⟨"ListenerSet", ref.name⟩ with
    | ok ls => exact absurd hls (hsets _ ls)
    | error err => rfl
  rw [parentGatewayName, hnone]
  cases isGateway ref <;> simp

theorem mem_getGatewayReconcileRequestsForRoute_iff
    (hclass : ∀ gwc, api.getGatewayClass "" ≠ .ok gwc)
    (hsets : ∀ name ls, api.getListenerSet ⟨"ListenerSet", name⟩ ≠ .ok ls) :
    key ∈ getGatewayReconcileRequestsForRoute api route controllerName ↔ NamesDirectly route key ∧
        ∃ gw, api.getGateway key = .ok gw ∧ ControlledBy api controllerName gw := by
  simp only [getGatewayReconcileRequestsForRoute, mem_filter, mem_filterMap,
    parentGatewayName_eq_some_iff hsets, hasMatchingController_gatewayClassNameOf_iff hclass,
    NamesDirectly]

theorem mem_getDirectReconcileRequestsForRoute_iff :
    key ∈ getDirectReconcileRequestsForRoute api route ↔ NamesDirectly route key ∧
        ∃ gw, api.getGateway key = .ok gw ∧ ControlledBy api gatewayControllerName gw := by
  rw [getDirectReconcileRequestsForRoute, mem_filter]
  refine and_congr ?_ ?_
  · simp only [mem_map, mem_filter, NamesDirectly, and_assoc]
  · cases api.getGateway key <;> simp [hasMatchingController_iff_controlledBy]

section

variable (hclass : ∀ gwc, api.getGatewayClass "" ≠ .ok gwc)
  (hsets : ∀ name ls, api.getListenerSet ⟨"ListenerSet", name⟩ ≠ .ok ls)

include hclass hsets

/-- Every handler returns the Gateways that are named directly and have the controller with which the
    handler is registered. -/
theorem mem_watchRoute_iff : key ∈ watchRoute api route ↔ NamesDirectly route key ∧
      ∃ gw, api.getGateway key = .ok gw ∧ ControlledBy api (registeredName route) gw := by
  cases route with
  | http | tcp | udp => exact mem_getGatewayReconcileRequestsForRoute_iff hclass hsets
  | grpc | tls => exact mem_getDirectReconcileRequestsForRoute_iff

/-- The right Gateways are woken exactly if each that a ListenerSet leads to is also named directly,
    and each that is named directly is of this controller if and only if it is of the one with the
    registered name. -/
theorem wakesAttachable_iff : WakesAttachable api route ↔ ∀ key gw, api.getGateway key = .ok gw →
      (OwnGateway api gw → NamesThroughSet api route key → NamesDirectly route key) ∧
      (NamesDirectly route key →
        (OwnGateway api gw ↔ ControlledBy api (registeredName route) gw)) := by
  constructor
  · intro h key gw hgw
    have hkey := h key
    rw [mem_watchRoute_iff hclass hsets] at hkey
    refine ⟨fun hown hset => (hkey.2 ⟨gw, hgw, hown, .inr hset⟩).1, fun hdirect => ⟨?_, ?_⟩⟩
    · intro hown
      obtain ⟨_, gw', hgw', hname⟩ := hkey.2 ⟨gw, hgw, hown, .inl hdirect⟩
      rwa [Except.ok.inj (hgw.symm.trans hgw')]
    · intro hname
      obtain ⟨gw', hgw', hown, _⟩ := hkey.1 ⟨hdirect, gw, hgw, hname⟩
      rwa [Except.ok.inj (hgw.symm.trans hgw')]
  · intro h key
    rw [mem_watchRoute_iff hclass hsets]
    constructor
    · rintro ⟨hdirect, gw, hgw, hname⟩
      exact ⟨gw, hgw, ((h key gw hgw).2 hdirect).2 hname, .inl hdirect⟩
    · rintro ⟨gw, hgw, hown, hnames⟩
      -- either way it is named directly
      have hdirect : NamesDirectly route key := hnames.elim id ((h key gw hgw).1 hown)
      exact ⟨hdirect, gw, hgw, ((h key gw hgw).2 hdirect).1 hown⟩

end

end

/-! ## Two routes -/

/-- A ListenerSet for the Gateway `edge`, in another namespace. -/
def shopSet : ListenerSet where
  name := "extra"
  ns := "shop"
  parentRef := { ns := some "infra", name := "edge" }
  listeners := [Cluster.frontListener]

/-- A cluster with the Gateway `edge` of this controller and a ListenerSet for it. -/
def shopAPI : RouteAPI where
  toCluster := Cluster.tieredCluster
  getGateway key :=
    if key = ⟨"infra", "edge"⟩ then .ok { name := "edge", ns := "infra", gatewayClassName := "own" }
    else .error ⟨true, "not found"⟩
  getGatewayClass name :=
    if name = "own" then .ok ⟨"own", gatewayControllerName⟩ else .error ⟨true, "not found"⟩
  getListenerSet key :=
    if key = ⟨"shop", "extra"⟩ then .ok shopSet else .error ⟨true, "not found"⟩
  getService _ := .ok ()
  compileRegexp _ := .ok ()
  now := 0

def edgeRef : ParentReference := { ns := some "infra", name := "edge" }

def shopSetRef : ParentReference := { kind := some "ListenerSet", name := "extra" }

/-- An HTTPRoute that names the Gateway and the ListenerSet is seen by the Gateway. -/
theorem wakesAttachable_both :
    WakesAttachable shopAPI
      (.http { name := "web", ns := "shop", parentRefs := [edgeRef, shopSetRef], rules := [] }) := by
  refine (wakesAttachable_iff ?_ ?_).2 fun key gw hgw => ⟨fun _ _ => ?_, fun _ => Iff.rfl⟩
  · simp [shopAPI]
  · simp [shopAPI]
  · have hkey : key = ⟨"infra", "edge"⟩ := by
      by_contra hne
      simp [shopAPI, hne] at hgw
    exact ⟨edgeRef, mem_cons_self, rfl, hkey.symm⟩

/-- An HTTPRoute that only names the ListenerSet is not, and neither is a TCPRoute that names the
    Gateway. -/
theorem not_wakesAttachable_shop :
    ¬ WakesAttachable shopAPI
        (.http { name := "web", ns := "shop", parentRefs := [shopSetRef], rules := [] }) ∧
      ¬ WakesAttachable shopAPI
        (.tcp { name := "mail", ns := "shop", parentRefs := [edgeRef], rules := [] }) := by
  have hown : OwnGateway shopAPI { name := "edge", ns := "infra", gatewayClassName := "own" } :=
    ⟨⟨"own", gatewayControllerName⟩, rfl, rfl⟩
  constructor
  · intro h
    refine absurd ((h ⟨"infra", "edge"⟩).2 ⟨_, rfl, hown, .inr ?_⟩) (by decide)
    exact ⟨shopSetRef, mem_cons_self, rfl, shopSet, rfl, rfl, rfl⟩
  · intro h
    refine absurd ((h ⟨"infra", "edge"⟩).2 ⟨_, rfl, hown, .inl ?_⟩) (by decide)
    exact ⟨edgeRef, mem_cons_self, rfl, rfl⟩

end Watch
