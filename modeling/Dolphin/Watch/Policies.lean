import Dolphin.Reconcile.PolicyLookup
import Dolphin.Watch.Routes

/-!
# Events of BackendTLSPolicies

When a BackendTLSPolicy is created or changed, the Gateways should be reconciled that use one of the
Services for which it is: an HTTPRoute with the Service as a backend names the Gateway, directly or
through a ListenerSet (`Uses`).

The handler lists the HTTPRoutes of each Service, but the variable over which it loops then is never
assigned. So no Gateway is ever woken (`updateReconcileRequestsForBackendTLSPolicy_eq`), which is right
exactly if none uses the policy (`wakesUsers_iff`).
-/

namespace Watch

open Gatewayv1 Go Ingestion Reconcile List

/-- The API with the indices that the handler lists by. -/
structure PolicyAPI extends RouteAPI where
  /-- The HTTPRoutes with a Service as a backend, by `namespace/name`. -/
  listHTTPRoutes : String → Except APIError (List HTTPRoute)
  /-- The Gateways of an implementation. -/
  listGateways : String → Except APIError (List Gateway)

variable (api : PolicyAPI)

/-! ## The handler -/

def getAllGatewaysSetForController (controllerName : String) :
    Except APIError (Go.Map String Unit) := do
  let gwList ← api.listGateways controllerName
  pure (gwList.foldl (fun set gw => set.set (namespacedNameString ⟨gw.ns, gw.name⟩) ()) ∅)

def updateReconcileRequestsForParentRefs (parentRefs : List ParentReference) (ns : String)
    (allGatewaysSet : Go.Map String Unit) (rrSet : Go.Map NamespacedName Unit) :
    Go.Map NamespacedName Unit :=
  parentRefs.foldl (fun rrSet parent =>
    let gwNN :=
      if isGateway parent then some ⟨namespaceDerefOr parent.ns ns, parent.name⟩
      else if isListenerSet parent then
        resolveListenerSetToGateway api.toRouteAPI parent.name (namespaceDerefOr parent.ns ns)
      else none
    match gwNN with
    | some gwNN =>
      if (allGatewaysSet.get? (namespacedNameString gwNN)).isSome then rrSet.set gwNN () else rrSet
    | none => rrSet) rrSet

def updateReconcileRequestsForBackendTLSPolicy (allGatewaySet : Go.Map String Unit)
    (rrSet : Go.Map NamespacedName Unit) (btlsp : BackendTLSPolicy) (ns : String) :
    Go.Map NamespacedName Unit :=
  let serviceRefs := (btlsp.targetRefs.filter isServiceTargetRef).map fun target =>
    ns ++ "/" ++ target.name
  let httpRoutes : List HTTPRoute := []
  match serviceRefs.mapM api.listHTTPRoutes with
  | .error _ => rrSet
  -- the lists of HTTPRoutes are not appended to `httpRoutes`
  | .ok _ => httpRoutes.foldl (fun rrSet hr =>
      updateReconcileRequestsForParentRefs api hr.parentRefs hr.ns allGatewaySet rrSet) rrSet

def enqueueRequestForBackendTLSPolicy (controllerName : String) (btlsp : BackendTLSPolicy) :
    List NamespacedName :=
  match getAllGatewaysSetForController api controllerName with
  | .error _ => []
  | .ok allGatewaysSet =>
    (updateReconcileRequestsForBackendTLSPolicy api allGatewaysSet ∅ btlsp btlsp.ns).keys

/-! ## What it should return -/

/-- The HTTPRoute has a Service as a backend for which the policy is. -/
def HasTarget (btlsp : BackendTLSPolicy) (hr : HTTPRoute) : Prop :=
  ∃ target ∈ btlsp.targetRefs, isServiceTargetRef target = true ∧
    ∃ rule ∈ hr.rules, ∃ be ∈ rule.backendRefs, isService be.toBackendObjectReference = true ∧
      namespaceDerefOr be.ns hr.ns = btlsp.ns ∧ be.name = target.name

/-- The Gateway is one of this controller, and named by one of the HTTPRoutes with such a Service. -/
def Uses (hrs : List HTTPRoute) (btlsp : BackendTLSPolicy) (key : NamespacedName) : Prop :=
  (∃ gw, api.getGateway key = .ok gw ∧ OwnGateway api.toRouteAPI gw) ∧
    ∃ hr ∈ hrs, HasTarget btlsp hr ∧
      (NamesDirectly (.http hr) key ∨ NamesThroughSet api.toRouteAPI (.http hr) key)

/-- The set, empty at first, has the Gateways that use the policy. -/
def WakesUsers (allGatewaySet : Go.Map String Unit) (hrs : List HTTPRoute)
    (btlsp : BackendTLSPolicy) : Prop :=
  ∀ key, (updateReconcileRequestsForBackendTLSPolicy api allGatewaySet ∅ btlsp btlsp.ns).get? key =
    some () ↔ Uses api hrs btlsp key

/-! ## What it returns -/

variable {api} {allGatewaySet : Go.Map String Unit} {hrs : List HTTPRoute} {btlsp : BackendTLSPolicy}

theorem updateReconcileRequestsForBackendTLSPolicy_eq (rrSet : Go.Map NamespacedName Unit)
    (ns : String) :
    updateReconcileRequestsForBackendTLSPolicy api allGatewaySet rrSet btlsp ns = rrSet := by
  rw [updateReconcileRequestsForBackendTLSPolicy]
  split
  · rfl
  · rfl

theorem enqueueRequestForBackendTLSPolicy_eq (controllerName : String) :
    enqueueRequestForBackendTLSPolicy api controllerName btlsp = [] := by
  rw [enqueueRequestForBackendTLSPolicy]
  split
  · rfl
  · rw [updateReconcileRequestsForBackendTLSPolicy_eq]
    rfl

/-- The set is right exactly if no Gateway uses the policy. -/
theorem wakesUsers_iff :
    WakesUsers api allGatewaySet hrs btlsp ↔ ∀ key, ¬ Uses api hrs btlsp key := by
  refine forall_congr' fun key => ?_
  rw [updateReconcileRequestsForBackendTLSPolicy_eq, Map.get?_empty]
  simp

/-- The HTTPRoute `web` with the Service `db` as its backend names the Gateway `edge`. -/
def dbRoute : HTTPRoute where
  name := "web"
  ns := "shop"
  parentRefs := [edgeRef]
  rules := [{ backendRefs := [{ name := "db", port := some 80 }] }]

def dbPolicy : BackendTLSPolicy where
  name := "db"
  ns := "shop"
  targetRefs := [{ kind := "Service", name := "db" }]

/-- The cluster of `shopAPI` with the HTTPRoute. -/
def dbAPI : PolicyAPI where
  toRouteAPI := shopAPI
  listHTTPRoutes svcName := .ok (if svcName = "shop/db" then [dbRoute] else [])
  listGateways _ := .ok [{ name := "edge", ns := "infra", gatewayClassName := "own" }]

theorem not_wakesUsers_db : ∃ set, getAllGatewaysSetForController dbAPI "dolphin" = .ok set ∧
      ¬ WakesUsers dbAPI set [dbRoute] dbPolicy := by
  refine ⟨_, rfl, fun h => ?_⟩
  have hset := (h ⟨"infra", "edge"⟩).2 ⟨⟨_, rfl, ⟨"own", gatewayControllerName⟩, rfl, rfl⟩,
    dbRoute, mem_singleton_self _, ⟨_, mem_singleton_self _, rfl, _,
      mem_singleton_self _, _, mem_singleton_self _, rfl, rfl, rfl⟩,
    .inl ⟨edgeRef, mem_singleton_self _, rfl, rfl⟩⟩
  exact absurd hset (by decide)

end Watch
