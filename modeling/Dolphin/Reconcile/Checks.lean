import Dolphin.Ingestion.Grants
import Dolphin.Reconcile.Parents

/-!
# The checks that make the status of a route

The reconcilers of the routes report in the status whether the backendRefs of a route
resolve. `checkAgainstCrossNamespaceBackendReferences` is their check for references to
other namespaces. It looks for grants to the kind of the route, among the grants of the
cluster, and should agree with the data plane (`CheckerAgrees`): a backendRef that it
permits is one that the model forwards to.

The reconciler of Gateways gives no grants to ingestion, so the model forwards to no
other namespace. `checkerAgrees_iff` says that the two agree on a reference unless it is a
granted one to another namespace.
-/

namespace Ingestion.Route

open Gatewayv1 List

/-- The `GetGVK` of the checks. -/
def getGVK (route : Route) : GroupVersionKind := gatewayV1GVK route.kind

/-- The `GetBackendRefs` of the checks, for all rules. -/
def getBackendRefs (route : Route) : List BackendObjectReference :=
  route.rules.flatMap fun rule => rule.backendRefs.map (·.toBackendObjectReference) ++ rule.mirrorRefs

end Ingestion.Route

namespace Reconcile

open Gatewayv1 Go Ingestion List

/-- The condition that the check below sets for every parent of the route. -/
def refNotPermitted : Condition where
  type := "ResolvedRefs"
  status := .false
  reason := "RefNotPermitted"
  message := "Cross namespace references are not allowed"

/-- The test of one reference. -/
def permitsReference (route : Route) (grants : List ReferenceGrant)
    (be : BackendObjectReference) : Bool :=
  let ns := namespaceDerefOr be.ns route.toCommonRoute.ns
  !(ns != route.toCommonRoute.ns &&
    !isBackendReferenceAllowed route.toCommonRoute.ns be route.getGVK grants)

/-- Whether the checks go on, and the conditions that are set. -/
def checkAgainstCrossNamespaceBackendReferences (route : Route) (grants : List ReferenceGrant) :
    Bool × List Condition :=
  route.getBackendRefs.foldl
    (fun acc be => if permitsReference route grants be then acc else (false, acc.2 ++ [refNotPermitted]))
    (true, [])

theorem permitsReference_iff {route : Route} {grants : List ReferenceGrant}
    {be : BackendObjectReference} :
    permitsReference route grants be = true ↔
      namespaceDerefOr be.ns route.toCommonRoute.ns = route.toCommonRoute.ns ∨
        Granted grants route.kind route.toCommonRoute.ns "Service"
          (namespaceDerefOr be.ns route.toCommonRoute.ns) be.name := by
  have hallowed : isBackendReferenceAllowed route.toCommonRoute.ns be route.getGVK grants =
      true ↔ _ :=
    isReferenceAllowed_iff
  simp only [permitsReference, Bool.not_and, Bool.not_not, Bool.or_eq_true, Bool.not_eq_true',
    bne_eq_false_iff_eq, hallowed, ← or_assoc, or_self]

/-- The model forwards to the backend of the backendRef because of the route. -/
def Forwarded (input : Input) (m : Model) (l : Listener) (s : Model.FullyQualifiedResource)
    (route : Route) (be : BackendRef) : Prop :=
  ∃ x, Yields input m l s route x ∧
    backendToModelBackend be route.toCommonRoute.ns ∈ route.forwards x

/-- On a listener that the route contributes to, the model forwards to the backend of the
    backendRef exactly when the check permits the reference. -/
def CheckerAgrees (grants : List ReferenceGrant) (input : Input) (m : Model) (l : Listener)
    (s : Model.FullyQualifiedResource) (route : Route) (be : BackendRef) : Prop :=
  Contributes input m l s route → (Forwarded input m l s route be ↔
      permitsReference route grants be.toBackendObjectReference = true)

section

variable {c : Cluster} {gw : Gateway} {attached : List ListenerSet} {listing : Listing}
  {input : Input} {m : Model} {l : Listener} {s : Model.FullyQualifiedResource}

variable (hin : buildInput c gw attached listing = .ok input) (hm : gatewayAPI input = .ok m)
  (hl : (l, s) ∈ input.sourced) {route : Route} {be : BackendRef} (hbe : be ∈ route.backendRefs)
  (hservice : isService be.toBackendObjectReference = true) (hport : be.port.isSome = true)
  (hexist : serviceExists be.name (namespaceDerefOr be.ns route.toCommonRoute.ns)
    listing.services = true)

include hin hm hl hbe hservice hport hexist

theorem forwarded_iff : Forwarded input m l s route be ↔ input.Has route ∧ Reaches l s route ∧
      namespaceDerefOr be.ns route.toCommonRoute.ns = route.toCommonRoute.ns := by
  rw [Forwarded, forwards_iff hm hl]
  obtain ⟨_, _, rfl⟩ := bind_pure_eq_ok.1 hin
  refine and_congr_right fun _ => and_congr_right fun _ => ⟨?_, ?_⟩
  · rintro ⟨be', _, hkept, heq⟩
    -- another backendRef with the same backend is one to the same namespace
    have hns : namespaceDerefOr be'.ns route.toCommonRoute.ns =
        namespaceDerefOr be.ns route.toCommonRoute.ns := congrArg Model.Backend.ns heq
    exact hns ▸ hkept.allowed.resolve_right (not_granted_nil _ _ _ _ _)
  · intro hns
    exact ⟨be, hbe, ⟨.inl hns, hservice, hport, hexist⟩, rfl⟩

/-- The check and the model agree on a backendRef exactly when it is one to the namespace of
    the route, or one that is not granted. -/
theorem checkerAgrees_iff :
    CheckerAgrees listing.referenceGrants input m l s route be ↔
      (listing.Has route ∧ FilterPasses c gw attached route ∧ Reaches l s route →
        namespaceDerefOr be.ns route.toCommonRoute.ns = route.toCommonRoute.ns ∨
          ¬ Granted listing.referenceGrants route.kind route.toCommonRoute.ns "Service"
            (namespaceDerefOr be.ns route.toCommonRoute.ns) be.name) := by
  have hrules : route.rules ≠ [] := by
    obtain ⟨rule, hrule, _⟩ := mem_flatMap.1 hbe
    exact ne_nil_of_mem hrule
  rw [CheckerAgrees, contributes_iff hm hl, forwarded_iff hin hm hl hbe hservice hport hexist,
    permitsReference_iff, buildInput_has hin]
  constructor
  · rintro h ⟨hlisted, hpass, hreach⟩
    by_contra hboth
    obtain ⟨hne, hgranted⟩ := not_or.1 hboth
    exact hne ((h ⟨⟨hlisted, hpass⟩, hreach, hrules⟩).2 (.inr (not_not.1 hgranted))).2.2
  · rintro h ⟨⟨hlisted, hpass⟩, hreach, _⟩
    refine ⟨fun hfwd => .inl hfwd.2.2, fun hpermits => ⟨⟨hlisted, hpass⟩, hreach, ?_⟩⟩
    rcases h ⟨hlisted, hpass, hreach⟩ with hns | hno
    · exact hns
    · exact hpermits.resolve_right hno

end

/-! ## A route with a backend in a granting namespace -/

/-- A route to a Service, which is in another namespace than the route if one is given. -/
def shopRoute (ns : Option String) : HTTPRoute where
  name := "shop"
  ns := "team"
  parentRefs := [{ name := "gw", ns := some "infra" }]
  rules := [{ backendRefs := [{ name := "audit", ns := ns, port := some 80 }] }]

def auditRef (ns : Option String) : BackendRef where
  name := "audit"
  ns := ns
  port := some 80

/-- The Service exists in both namespaces, and the other one grants references to it. -/
def shopListing (ns : Option String) : Listing where
  httpRoutes := [shopRoute ns]
  services := [{ name := "audit", ns := "team" }, { name := "audit", ns := "secure" }]
  referenceGrants := [auditGrant]

theorem shopRoute_letIn : LetIn bareCluster sharedGateway [] (shopRoute (some "secure")) :=
  ⟨gatewayListener sharedGateway openListener, .gateway sharedGateway, ⟨rfl, mem_cons_self, rfl⟩,
    ⟨_, mem_singleton_self _, ⟨by decide, by decide, by decide⟩, .inl rfl, .inl rfl⟩,
    by decide, by decide⟩

theorem openListener_sourced {listing : Listing} {input : Input}
    (hin : buildInput bareCluster sharedGateway [] listing = .ok input) :
    (openListener, gatewayFQR sharedGateway) ∈ input.sourced :=
  mem_sourced_buildInput hin mem_cons_self

/-- On a backendRef to the namespace of the route, the check and the model agree. -/
theorem checkerAgrees_team :
    ∃ input m, buildInput bareCluster sharedGateway [] (shopListing none) = .ok input ∧
      gatewayAPI input = .ok m ∧
      CheckerAgrees [auditGrant] input m openListener (gatewayFQR sharedGateway)
        (.http (shopRoute none)) (auditRef none) := by
  obtain ⟨input, m, hin, hm⟩ : ∃ input m,
      buildInput bareCluster sharedGateway [] (shopListing none) = .ok input ∧
        gatewayAPI input = .ok m := ⟨_, _, rfl, rfl⟩
  refine ⟨input, m, hin, hm, ?_⟩
  exact (checkerAgrees_iff hin hm (openListener_sourced hin) mem_cons_self (by decide)
    (by decide) (by decide)).2 fun _ => .inl rfl

/-- On a granted one to another namespace they do not. -/
theorem checker_disagrees :
    ∃ input m, buildInput bareCluster sharedGateway [] (shopListing (some "secure")) = .ok input ∧
      gatewayAPI input = .ok m ∧
      ¬ CheckerAgrees [auditGrant] input m openListener (gatewayFQR sharedGateway)
        (.http (shopRoute (some "secure"))) (auditRef (some "secure")) := by
  obtain ⟨input, m, hin, hm⟩ : ∃ input m,
      buildInput bareCluster sharedGateway [] (shopListing (some "secure")) = .ok input ∧
        gatewayAPI input = .ok m := ⟨_, _, rfl, rfl⟩
  have hl := openListener_sourced hin
  have hhas : input.Has (.http (shopRoute (some "secure"))) :=
    (buildInput_has hin _).2 ⟨mem_cons_self, shopRoute_letIn⟩
  refine ⟨input, m, hin, hm, fun h => ?_⟩
  have hcontributes := (contributes_iff hm hl _).2
    ⟨hhas, ⟨rfl, by decide, by decide⟩, by simp [Route.rules, shopRoute]⟩
  -- the check finds the grant, the model has no backend in the other namespace
  have hforwarded := (h hcontributes).2 (by decide)
  have hns := (forwarded_iff hin hm hl mem_cons_self (by decide) (by decide)
    (by decide)).1 hforwarded
  exact absurd hns.2.2 (by decide)

end Reconcile
