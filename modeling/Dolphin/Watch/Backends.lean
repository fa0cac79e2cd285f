import Dolphin.Reconcile.Certificates
import Dolphin.Watch.Namespaces
import Dolphin.Watch.Policies

/-!
# Events of Services, ServiceImports and Secrets

A Gateway is translated anew when what its routes and listeners refer to changes. The handlers find
the Gateways through indices, whose values are strings.

* A Service wakes the Gateways of this controller that a route names directly which has it as a
  backend (`mem_enqueueRequestForBackendService_iff`).
* A ServiceImport wakes none: the index of the Gateways has the value `dolphin`, and the handler asks
  for `Dolphin` (`enqueueRequestForBackendServiceImport_eq_nil`).
* A Secret wakes the Gateways whose own listeners refer to it, and is synchronised if one of them is
  of this controller. Of the Secrets that ingestion puts into the model, this leaves out those of
  ListenerSets and those to which the reference is not one to a Secret (`secret_followed`).
-/

namespace Watch

open Gatewayv1 Go Ingestion Reconcile List

/-! ## The indices -/

/-- The API with the Service that a ServiceImport stands for, if it has one. -/
structure ImportAPI extends RouteAPI where
  derivedService : NamespacedName → Option String

/-- The objects in the cache. -/
structure Lists where
  gateways : List Gateway := []
  httpRoutes : List HTTPRoute := []
  tlsRoutes : List TLSRoute := []
  grpcRoutes : List GRPCRoute := []

/-- The routes that the handler for Services lists, in this order. -/
def Lists.routes (lists : Lists) (tlsRouteEnabled : Bool) : List Route :=
  lists.httpRoutes.map .http ++ (if tlsRouteEnabled then lists.tlsRoutes.map .tls else []) ++
    lists.grpcRoutes.map .grpc

def isServiceImport (be : BackendObjectReference) : Bool :=
  be.kind == some "ServiceImport" && be.group == some "multicluster.x-k8s.io"

section

variable (api : ImportAPI)

/-- No name if the backend is not supported. The message of that error reads the kind, which has a
    default. -/
def getBackendServiceName (ns : String) (be : BackendObjectReference) : Option String :=
  if isService be then some be.name
  else if isServiceImport be then api.derivedService ⟨ns, be.name⟩
  else none

/-- The Service behind a backendRef of the route. -/
def backendService (route : Route) (be : BackendRef) : Option NamespacedName :=
  let ns := namespaceDerefOr be.ns route.toCommonRoute.ns
  (getBackendServiceName api ns be.toBackendObjectReference).map (⟨ns, ·⟩)

def indexRouteByBackendService (route : Route) : List String :=
  (route.backendRefs.filterMap (backendService api route)).map namespacedNameString

def indexHTTPRouteByBackendServiceImport (hr : HTTPRoute) : List String :=
  ((Route.http hr).backendRefs.filter (isServiceImport ·.toBackendObjectReference)).map fun be =>
    namespacedNameString ⟨namespaceDerefOr be.ns hr.ns, be.name⟩

def indexGatewayByImplementation (gw : Gateway) : List String :=
  if hasMatchingController api.toRouteAPI gatewayControllerName gw.gatewayClassName then ["dolphin"]
  else []

/-! ## Events of backends -/

def gatewaysOf (implementation : String) (lists : Lists) : List Gateway :=
  lists.gateways.filter fun gw => implementation ∈ indexGatewayByImplementation api gw

/-- The Gateways of the list that the routes name directly, in any order and each once. -/
def requestsForParentRefs (gwList : List Gateway) (routes : List Route) : List NamespacedName :=
  let allDolphinGatewaysSet := gwList.map fun gw => namespacedNameString (gatewayKey gw)
  let parents := routes.flatMap fun route =>
    (route.toCommonRoute.parentRefs.filter isGateway).map (parentKey route)
  (parents.filter (namespacedNameString · ∈ allDolphinGatewaysSet)).dedup

/-- There are no lists if one that the handler asks for fails. -/
def enqueueRequestForBackendService (tlsRouteEnabled : Bool) (svc : NamespacedName) :
    Option Lists → List NamespacedName
  | none => []
  | some lists => requestsForParentRefs (gatewaysOf api "dolphin" lists)
      ((lists.routes tlsRouteEnabled).filter fun route =>
        namespacedNameString svc ∈ indexRouteByBackendService api route)

def enqueueRequestForBackendServiceImport (svcImport : NamespacedName) :
    Option Lists → List NamespacedName
  | none => []
  | some lists => requestsForParentRefs (gatewaysOf api "Dolphin" lists)
      ((lists.httpRoutes.filter fun hr =>
        namespacedNameString svcImport ∈ indexHTTPRouteByBackendServiceImport hr).map .http)

end

variable {api : ImportAPI} {lists : Lists} {key svc : NamespacedName}

/-- No namespace has a slash. -/
structure Lists.Plain (lists : Lists) : Prop where
  gateways : ∀ gw ∈ lists.gateways, '/' ∉ gw.ns.toList
  parents : ∀ route ∈ lists.routes true, ∀ ref ∈ route.toCommonRoute.parentRefs,
    '/' ∉ (parentKey route ref).ns.toList
  backends : ∀ route ∈ lists.routes true, ∀ be ∈ route.backendRefs,
    '/' ∉ (namespaceDerefOr be.ns route.toCommonRoute.ns).toList

theorem namespacedNameString_inj {a b : NamespacedName} (ha : '/' ∉ a.ns.toList)
    (hb : '/' ∉ b.ns.toList) (h : namespacedNameString a = namespacedNameString b) : a = b := by
  obtain ⟨hns, hname⟩ := append_char_inj rfl ha hb h
  cases a
  cases b
  exact congrArg₂ _ hns hname

theorem mem_routes_true {tlsRouteEnabled : Bool} {route : Route}
    (h : route ∈ lists.routes tlsRouteEnabled) : route ∈ lists.routes true := by
  cases tlsRouteEnabled with
  | true => exact h
  | false =>
    simp only [Lists.routes, mem_append] at h ⊢
    exact h.imp_left fun h => .inl (h.resolve_right not_mem_nil)

theorem mem_gatewaysOf_dolphin {gw : Gateway} :
    gw ∈ gatewaysOf api "dolphin" lists ↔ gw ∈ lists.gateways ∧ OwnGateway api.toRouteAPI gw := by
  rw [gatewaysOf, mem_filter, indexGatewayByImplementation, decide_eq_true_iff]
  refine and_congr_right fun _ => Iff.trans ?_ hasMatchingController_iff_controlledBy
  split_ifs with h <;> simp [h]

theorem gatewaysOf_Dolphin : gatewaysOf api "Dolphin" lists = [] := by
  refine filter_eq_nil_iff.2 fun gw _ => ?_
  rw [indexGatewayByImplementation]
  split_ifs <;> simp

theorem mem_requestsForParentRefs {gwList : List Gateway} {routes : List Route} :
    key ∈ requestsForParentRefs gwList routes ↔
      (∃ gw ∈ gwList, namespacedNameString (gatewayKey gw) = namespacedNameString key) ∧
        ∃ route ∈ routes, NamesDirectly route key := by
  simp only [requestsForParentRefs, mem_dedup, mem_filter, mem_flatMap, mem_map, decide_eq_true_iff,
    NamesDirectly, and_assoc]
  exact and_comm

/-- A Service wakes the Gateways of this controller that one of the listed routes names directly and
    that has the Service as a backend. -/
theorem mem_enqueueRequestForBackendService_iff {tlsRouteEnabled : Bool} (hplain : lists.Plain)
    (hsvc : '/' ∉ svc.ns.toList) :
    key ∈ enqueueRequestForBackendService api tlsRouteEnabled svc (some lists) ↔
      (∃ gw ∈ lists.gateways, OwnGateway api.toRouteAPI gw ∧ gatewayKey gw = key) ∧
      ∃ route ∈ lists.routes tlsRouteEnabled, NamesDirectly route key ∧
        ∃ be ∈ route.backendRefs, backendService api route be = some svc := by
  rw [enqueueRequestForBackendService, mem_requestsForParentRefs]
  constructor
  · rintro ⟨⟨gw, hgw, hname⟩, route, hroute, href⟩
    obtain ⟨hgw, hown⟩ := mem_gatewaysOf_dolphin.1 hgw
    obtain ⟨hroute, hindex⟩ := mem_filter.1 hroute
    have hplainRoute := mem_routes_true hroute
    obtain ⟨ref, href, hkind, rfl⟩ := href
    have hkey := namespacedNameString_inj (hplain.gateways gw hgw)
      (hplain.parents route hplainRoute ref href) hname
    refine ⟨⟨gw, hgw, hown, hkey⟩, route, hroute, ⟨ref, href, hkind, rfl⟩, ?_⟩
    obtain ⟨svc', hsvc', hname⟩ := mem_map.1 (of_decide_eq_true hindex)
    obtain ⟨be, hbe, hservice⟩ := mem_filterMap.1 hsvc'
    -- the namespace of the Service is that of the backendRef
    obtain ⟨name, -, rfl⟩ := Option.map_eq_some_iff.1 hservice
    rw [← namespacedNameString_inj (hplain.backends route hplainRoute be hbe) hsvc hname]
    exact ⟨be, hbe, hservice⟩
  · rintro ⟨⟨gw, hgw, hown, rfl⟩, route, hroute, href, be, hbe, hservice⟩
    refine ⟨⟨gw, mem_gatewaysOf_dolphin.2 ⟨hgw, hown⟩, rfl⟩, route, mem_filter.2 ⟨hroute, ?_⟩, href⟩
    exact decide_eq_true (mem_map_of_mem (mem_filterMap.2 ⟨be, hbe, hservice⟩))

theorem mem_enqueueRequestForBackendService_db :
    ⟨"infra", "edge"⟩ ∈ enqueueRequestForBackendService ⟨shopAPI, fun _ => none⟩ true ⟨"shop", "db"⟩
      (some { gateways := [{ name := "edge", ns := "infra", gatewayClassName := "own" }],
              httpRoutes := [dbRoute] }) := by
  refine (mem_enqueueRequestForBackendService_iff ⟨by decide, by decide, by decide⟩ (by decide)).2 ?_
  exact ⟨⟨_, mem_singleton_self _, ⟨⟨"own", gatewayControllerName⟩, rfl, rfl⟩, rfl⟩, .http dbRoute,
    mem_singleton_self _, ⟨edgeRef, mem_singleton_self _, rfl, rfl⟩, _, mem_singleton_self _, rfl⟩

/-- The index of the Gateways has no value `Dolphin`. -/
theorem enqueueRequestForBackendServiceImport_eq_nil (svcImport : NamespacedName)
    (listed : Option Lists) : enqueueRequestForBackendServiceImport api svcImport listed = [] := by
  cases listed with
  | none => rfl
  | some lists =>
    rw [enqueueRequestForBackendServiceImport, gatewaysOf_Dolphin, requestsForParentRefs]
    simp

/-! ## Events of Secrets -/

/-- The Secrets to which the listener refers, as one of the Gateway. -/
def secretsOf (gw : Gateway) (l : Listener) : List NamespacedName :=
  match l.tls with
  | none => []
  | some tls => (tls.certificateRefs.filter isSecret).map fun cert =>
      ⟨namespaceDerefOr cert.ns gw.ns, cert.name⟩

def enqueueTLSSecrets (gw : Gateway) : List NamespacedName := gw.listeners.flatMap (secretsOf gw)

/-- Each Gateway as often as its listeners refer to the Secret. -/
def getGatewaysForSecret (gwList : Option (List Gateway)) (secret : NamespacedName) : List Gateway :=
  (gwList.getD []).flatMap fun gw => gw.listeners.flatMap fun l =>
    ((secretsOf gw l).filter (· = secret)).map fun _ => gw

def enqueueRequestForTLSSecret (gwList : Option (List Gateway)) (secret : NamespacedName) :
    List NamespacedName :=
  (getGatewaysForSecret gwList secret).map gatewayKey

def isReferencedByDolphinGateway (api : RouteAPI) (gwList : Option (List Gateway))
    (secret : NamespacedName) : Bool :=
  (getGatewaysForSecret gwList secret).any fun gw =>
    hasMatchingController api gatewayControllerName gw.gatewayClassName

theorem mem_getGatewaysForSecret {gws : List Gateway} {secret : NamespacedName} {gw : Gateway} :
    gw ∈ getGatewaysForSecret (some gws) secret ↔ gw ∈ gws ∧ secret ∈ enqueueTLSSecrets gw := by
  simp only [getGatewaysForSecret, enqueueTLSSecrets, mem_flatMap, mem_map, mem_filter]
  constructor
  · rintro ⟨gw', hgw, l, hl, secret', ⟨hsecret, heq⟩, rfl⟩
    exact ⟨hgw, l, hl, of_decide_eq_true heq ▸ hsecret⟩
  · rintro ⟨hgw, l, hl, hsecret⟩
    exact ⟨gw, hgw, l, hl, secret, ⟨hsecret, decide_eq_true rfl⟩, rfl⟩

/-- A change of the Secret wakes the Gateway, and one of the Gateway has the Secret synchronised, which
    it is for a Gateway of this controller. -/
structure Follows (api : RouteAPI) (gws : List Gateway) (gw : Gateway) (secret : NamespacedName) :
    Prop where
  wakes : gatewayKey gw ∈ enqueueRequestForTLSSecret (some gws) secret
  enqueues : secret ∈ enqueueTLSSecrets gw
  synchronised : OwnGateway api gw → isReferencedByDolphinGateway api (some gws) secret = true

theorem follows_of_mem {api : RouteAPI} {gws : List Gateway} {gw : Gateway} (hgw : gw ∈ gws)
    {secret : NamespacedName} (h : secret ∈ enqueueTLSSecrets gw) : Follows api gws gw secret where
  wakes := mem_map_of_mem (mem_getGatewaysForSecret.2 ⟨hgw, h⟩)
  enqueues := h
  synchronised hown := any_eq_true.2
    ⟨gw, mem_getGatewaysForSecret.2 ⟨hgw, h⟩, hasMatchingController_iff_controlledBy.2 hown⟩

/-- A Secret in the model comes from a certificateRef, read as one of the Gateway. If that is one of
    the listeners of the Gateway itself, and one to a Secret, then the Gateway follows the Secret. -/
theorem secret_followed {c : Cluster} {gw : Gateway} {attached : List ListenerSet}
    {listing : Listing} {input : Input} {m : Model} {hl : Model.HTTPListener}
    {secrets : List Model.TLSSecret} {secret : Model.TLSSecret} (api : RouteAPI) {gws : List Gateway}
    (hgw : gw ∈ gws) (hin : buildInput c gw attached listing = .ok input)
    (hm : gatewayAPI input = .ok m) (hmem : hl ∈ m.http) (htls : hl.tls = some secrets)
    (hsecret : secret ∈ secrets) :
    ∃ l tls cert, l.tls = some tls ∧ cert ∈ tls.certificateRefs ∧
      secret = ⟨cert.name, namespaceDerefOr cert.ns gw.ns⟩ ∧
      (l ∈ gw.listeners ∧ (isSecret cert = true → Follows api gws gw ⟨secret.ns, secret.name⟩) ∨
        ∃ ls ∈ attached, l ∈ ls.listeners) := by
  obtain ⟨p, hp, b, hb, hblock⟩ := (mem_http hm).1 hmem
  obtain ⟨-, xs, ys, -, -, rfl⟩ := (mem_block_http hb).1 hblock
  obtain ⟨tls, hltls, rfl⟩ := Option.map_eq_some_iff.1 htls
  obtain ⟨cert, hcert, hplaced⟩ := mem_filterMap.1 hsecret
  obtain ⟨-, rfl⟩ := toTLSSecret_eq_some.1 hplaced
  rw [gateway_buildInput hin]
  refine ⟨p.1, tls, cert, hltls, hcert, rfl, ?_⟩
  rw [sourced_buildInput hin] at hp
  obtain ⟨ctx, hctx, rfl⟩ := mem_map.1 hp
  obtain ⟨o, ho⟩ := mem_mergeListeners.1 hctx
  cases o with
  | gateway gw' =>
    refine .inl ⟨ho.2.1, fun hkind => follows_of_mem hgw ?_⟩
    refine mem_flatMap.2 ⟨ctx.listener, ho.2.1, ?_⟩
    rw [secretsOf, hltls]
    exact mem_map_of_mem (mem_filter.2 ⟨hcert, hkind⟩)
  | listenerSet ls => exact .inr ⟨ls, ho.1, ho.2.1⟩

def siteGateway : Gateway := { openGateway with listeners := [httpsListener] }

/-- A Gateway follows the Secret of its own listener. -/
theorem secret_followed_site :
    Follows shopAPI [siteGateway] siteGateway ⟨"infra", "site-tls"⟩ := by
  have hrun : ∃ input m, buildInput bareCluster siteGateway [] {} = .ok input ∧
      gatewayAPI input = .ok m ∧ ∃ hl ∈ m.http, hl.tls = some [⟨"site-tls", "infra"⟩] :=
    ⟨_, _, rfl, rfl, _, mem_cons_self, rfl⟩
  obtain ⟨input, m, hin, hm, hl, hmem, htls⟩ := hrun
  obtain ⟨l, tls, cert, htls, hcert, -, ⟨hl, hfollows⟩ | ⟨ls, hls, -⟩⟩ :=
    secret_followed shopAPI (mem_singleton_self _) hin hm hmem htls mem_cons_self
  · obtain rfl := mem_singleton.1 hl
    cases htls
    obtain rfl := mem_singleton.1 hcert
    exact hfollows rfl
  · exact absurd hls not_mem_nil

end Watch
