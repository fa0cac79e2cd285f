import Dolphin.Ingestion.Grants
import Dolphin.Reconcile.Admission

/-!
# Admission by a Gateway and by its listeners

A route may attach to a Gateway if some listener lets it: `allowedRoutes` admits its kind
(`AdmitsKind`) and its namespace (`Cluster.Admits`). The code has two tests of this.
`listenerisAllowed` is for one listener, with an index of the namespaces. `isAllowed` goes over the
listeners of a Gateway, lists the namespaces of a selector, and returns as soon as it can.

For listeners with the defaults of the API (`DefaultedListener`) the early returns make no difference: the
second test is the first for some listener (`isAllowed_eq_any`), in whatever order they are. But
both have another notion of the kinds that a listener admits (`RecognisesKind`). An empty list of
kinds stands for no kind, and GRPCRoutes are of none. `admittedByListener_iff` says when this makes
no difference.
-/

namespace Reconcile

open Gatewayv1 Go Ingestion List

/-- The defaults of the API server: a listener has a policy for namespaces with a value for `from`,
    and the kinds that it lists have a group. -/
structure DefaultedListener (l : Listener) : Prop where
  policy : ∃ policy, l.allowedRoutes.bind (·.namespaces) = some policy ∧
    policy.fromNamespaces.isSome
  groups : ∀ k ∈ (l.allowedRoutes.bind (·.kinds)).getD [], k.group.isSome

/-- The kind of a route, as far as the code knows it. -/
def getGatewayKindForObject : Route → String
  | .http _ => "HTTPRoute"
  | .tls _ => "TLSRoute"
  | .tcp _ => "TCPRoute"
  | .udp _ => "UDPRoute"
  | .grpc _ => "unknown"

/-- `allowedRoutes` lists no kinds, or that of the route. -/
def AdmitsKind (l : Listener) (route : Route) : Prop :=
  (l.allowedRoutes.bind (·.kinds)).getD [] = [] ∨
    ⟨some groupName, route.kind⟩ ∈ (l.allowedRoutes.bind (·.kinds)).getD []

/-- `allowedRoutes` has no list of kinds, or lists that of the route, which is not a GRPCRoute. -/
def RecognisesKind (l : Listener) (route : Route) : Prop :=
  l.allowedRoutes.bind (·.kinds) = none ∨ (route.kind ≠ "GRPCRoute" ∧
      ⟨some groupName, route.kind⟩ ∈ (l.allowedRoutes.bind (·.kinds)).getD [])

/-- A route is allowed on a Gateway if it is on some listener, which is if some listener admits its
    kind and its namespace. The order of the listeners does not matter. -/
structure AdmittedByListener (c : Cluster) (gw : Gateway) (route : Route) : Prop where
  listener_iff :
    isAllowed c gw route.toCommonRoute.ns (getGatewayKindForObject route) gw.listeners = .ok true ↔
      ∃ l ∈ gw.listeners, listenerisAllowed c gw l route.toCommonRoute.ns
        (getGatewayKindForObject route) (newNamespaceLabelIndex c.namespaces) = true
  admits_iff :
    isAllowed c gw route.toCommonRoute.ns (getGatewayKindForObject route) gw.listeners = .ok true ↔
      ∃ l ∈ gw.listeners, AdmitsKind l route ∧ c.Admits l gw.ns route.toCommonRoute.ns
  order : ∀ ls : List Listener, ls.Perm gw.listeners →
    isAllowed c gw route.toCommonRoute.ns (getGatewayKindForObject route) ls =
      isAllowed c gw route.toCommonRoute.ns (getGatewayKindForObject route) gw.listeners

section

variable {c : Cluster} {gw : Gateway} {route : Route} {ns : String} {l : Listener}

theorem getGatewayKindForObject_of_ne (h : route.kind ≠ "GRPCRoute") :
    getGatewayKindForObject route = route.kind := by
  cases route with
  | grpc r => exact absurd rfl h
  | _ => rfl

theorem contains_getGatewayKindForObject_iff :
    knownRouteKinds.contains (getGatewayKindForObject route) = true ↔ route.kind ≠ "GRPCRoute" := by
  cases route <;> simp [getGatewayKindForObject, Route.kind, knownRouteKinds]

theorem isKindAllowed_iff (hl : DefaultedListener l) :
    isKindAllowed (l.allowedRoutes.bind (·.kinds)) (getGatewayKindForObject route) = true ↔
      RecognisesKind l route := by
  have hgroups := hl.groups
  unfold RecognisesKind
  cases hkinds : l.allowedRoutes.bind (·.kinds) with
  | none => exact iff_of_true rfl (.inl rfl)
  | some kinds =>
    rw [hkinds] at hgroups
    simp only [reduceCtorEq, false_or, Option.getD_some, isKindAllowed, any_eq_true]
    constructor
    · rintro ⟨k, hk, htest⟩
      -- an entry without a group would allow every kind
      have hgroup : k.group.isNone = false := Option.isNone_eq_false_iff.2 (hgroups k hk)
      rw [hgroup, Bool.false_or, Bool.and_eq_true, Bool.and_eq_true, beq_iff_eq, beq_iff_eq,
        contains_getGatewayKindForObject_iff] at htest
      obtain ⟨⟨hname, hkind⟩, hne⟩ := htest
      refine ⟨hne, ?_⟩
      rwa [← getGatewayKindForObject_of_ne hne, ← hkind, ← hname]
    · rintro ⟨hne, hmem⟩
      have hknown := contains_getGatewayKindForObject_iff.2 hne
      rw [getGatewayKindForObject_of_ne hne] at hknown ⊢
      exact ⟨_, hmem, by rw [hknown]; simp⟩

/-- What a listener lets attach: the kinds that the code recognises, from the namespaces that the
    policy admits. -/
theorem listenerisAllowed_iff (hl : DefaultedListener l) :
    listenerisAllowed c gw l ns (getGatewayKindForObject route)
        (newNamespaceLabelIndex c.namespaces) = true ↔
      RecognisesKind l route ∧ c.Admits l gw.ns ns := by
  obtain ⟨policy, hpolicy, _⟩ := hl.policy
  simp only [listenerisAllowed, hpolicy]
  rw [Bool.and_eq_true, isKindAllowed_iff hl, c.isListenerNamespaceAllowed_iff]

theorem isAllowed_cons (hlist : ∀ s, c.listNamespacesFails s = false) (hl : DefaultedListener l)
    (kind : String) (ls : List Listener) :
    isAllowed c gw ns kind (l :: ls) =
      if listenerisAllowed c gw l ns kind (newNamespaceLabelIndex c.namespaces) = true then .ok true
      else isAllowed c gw ns kind ls := by
  obtain ⟨⟨fromNamespaces, selector⟩, hpolicy, hfrom⟩ := hl.policy
  obtain ⟨value, rfl⟩ := Option.isSome_iff_exists.1 hfrom
  have hselected : (c.namespaces.filter fun n =>
      (c.labelSelectorAsSelector selector).any (· n.labels)).any (·.name == ns) =
        c.isNamespaceSelected selector ns (newNamespaceLabelIndex c.namespaces) := by
    rw [Bool.eq_iff_iff, c.isNamespaceSelected_iff,
      ← c.mem_listNamespaces_iff (c.listNamespaces_eq hlist selector), mem_map, any_eq_true]
    simp only [beq_iff_eq]
  simp only [isAllowed, listenerisAllowed, Cluster.isListenerNamespaceAllowed, hpolicy,
    Cluster.listNamespaces, hlist, Bool.false_eq_true, if_false, hselected]
  cases hkind : isKindAllowed (l.allowedRoutes.bind (·.kinds)) kind with
  | false => simp
  | true =>
    cases value <;> simp [deref] <;> rfl

theorem isAllowed_eq_any (hlist : ∀ s, c.listNamespacesFails s = false) (kind : String)
    {ls : List Listener} (hls : ∀ l ∈ ls, DefaultedListener l) :
    isAllowed c gw ns kind ls = .ok (ls.any fun l =>
      listenerisAllowed c gw l ns kind (newNamespaceLabelIndex c.namespaces)) := by
  induction ls with
  | nil => rfl
  | cons l ls ih =>
    obtain ⟨hl, hls⟩ := forall_mem_cons.1 hls
    rw [isAllowed_cons hlist hl, ih hls, any_cons]
    cases listenerisAllowed c gw l ns kind (newNamespaceLabelIndex c.namespaces) <;> rfl

theorem RecognisesKind.admitsKind (h : RecognisesKind l route) : AdmitsKind l route := by
  rcases h with hnone | ⟨_, hmem⟩
  · exact .inl (by rw [hnone]; rfl)
  · exact .inr hmem

end

/-- Admission by the Gateway is admission by some listener exactly if, in case some listener admits
    the kind and the namespace of the route, there is one whose kinds the code recognises. -/
theorem admittedByListener_iff {c : Cluster} {gw : Gateway} (route : Route)
    (hlist : ∀ s, c.listNamespacesFails s = false) (hgw : ∀ l ∈ gw.listeners, DefaultedListener l) :
    AdmittedByListener c gw route ↔
      ((∃ l ∈ gw.listeners, AdmitsKind l route ∧ c.Admits l gw.ns route.toCommonRoute.ns) →
        ∃ l ∈ gw.listeners, RecognisesKind l route ∧
          c.Admits l gw.ns route.toCommonRoute.ns) := by
  have hallowed : isAllowed c gw route.toCommonRoute.ns (getGatewayKindForObject route)
      gw.listeners = .ok true ↔ ∃ l ∈ gw.listeners, listenerisAllowed c gw l route.toCommonRoute.ns
        (getGatewayKindForObject route) (newNamespaceLabelIndex c.namespaces) = true := by
    rw [isAllowed_eq_any hlist _ hgw, Except.ok.injEq, any_eq_true]
  have hrecognised : (∃ l ∈ gw.listeners, listenerisAllowed c gw l route.toCommonRoute.ns
      (getGatewayKindForObject route) (newNamespaceLabelIndex c.namespaces) = true) ↔
        ∃ l ∈ gw.listeners, RecognisesKind l route ∧ c.Admits l gw.ns route.toCommonRoute.ns :=
    exists_congr fun l => and_congr_right fun hl => listenerisAllowed_iff (hgw l hl)
  constructor
  · intro h hadmits
    exact hrecognised.1 (hallowed.1 (h.admits_iff.2 hadmits))
  · intro h
    refine ⟨hallowed, ?_, fun ls hperm => ?_⟩
    · rw [hallowed, hrecognised]
      refine ⟨fun ⟨l, hl, hkind, hns⟩ => ⟨l, hl, hkind.admitsKind, hns⟩, h⟩
    · rw [isAllowed_eq_any hlist _ hgw,
        isAllowed_eq_any hlist _ fun l hl => hgw l (hperm.mem_iff.1 hl), hperm.any_eq]

/-! ## Listeners that list kinds -/

/-- A listener for all namespaces, with a list of kinds. -/
def listingListener (kinds : Option (List RouteGroupKind)) : Listener where
  name := "web"
  port := 80
  protocol := .http
  allowedRoutes := some { namespaces := some { fromNamespaces := some .all }, kinds := kinds }

def listingGateway (kinds : Option (List RouteGroupKind)) : Gateway where
  name := "gw"
  ns := "infra"
  listeners := [listingListener kinds]

def chatRoute : GRPCRoute where
  name := "chat"
  ns := "team"

theorem defaultedListener_listing {kinds : Option (List RouteGroupKind)}
    (h : ∀ k ∈ kinds.getD [], k.group.isSome) :
    ∀ l ∈ (listingGateway kinds).listeners, DefaultedListener l := by
  intro l hl
  obtain rfl := mem_singleton.1 hl
  exact ⟨⟨_, rfl, rfl⟩, h⟩

/-- A GRPCRoute on a listener without a list of kinds. -/
theorem admittedByListener_unlisted :
    AdmittedByListener bareCluster (listingGateway none) (.grpc chatRoute) := by
  refine (admittedByListener_iff (.grpc chatRoute) (fun _ => rfl)
    (defaultedListener_listing (by simp))).2 ?_
  intro _
  exact ⟨listingListener none, mem_singleton_self _, .inl rfl, trivial⟩

/-- A GRPCRoute is refused by a listener that lists its kind, and an HTTPRoute by one whose list of
    kinds is empty. -/
theorem not_admittedByListener_listed :
    ¬ AdmittedByListener bareCluster (listingGateway (some [⟨some groupName, "GRPCRoute"⟩]))
        (.grpc chatRoute) ∧
      ¬ AdmittedByListener bareCluster (listingGateway (some [])) (.http tenantRoute) := by
  constructor
  · intro h
    have hallowed := h.admits_iff.2
      ⟨_, mem_singleton_self _, .inr (mem_singleton_self _), trivial⟩
    exact absurd hallowed (by decide)
  · intro h
    have hallowed := h.admits_iff.2 ⟨_, mem_singleton_self _, .inl rfl, trivial⟩
    exact absurd hallowed (by decide)

end Reconcile
