import Dolphin.GatewayAPI.Namespaces
import Dolphin.Ingestion.Attachment

/-!
# The routes that a Gateway takes in

What `Reconcile` feeds to ingestion for a Gateway: the listeners of the Gateway merged
with those of the attached ListenerSets (`mergeListeners`), and the routes of each kind
that pass the filter of that kind (`filterHTTPRoutesByGateway` and its siblings).

The filters decide *once for the Gateway* whether a route may attach, ingestion decides
again for every listener. Which parent a route names is read by four different tests.
What they are for is `Designates`: a parentRef names the owner of the listener, and its
section name and port, when set, are those of the listener.
-/

namespace Reconcile

open Gatewayv1 Go Ingestion List

/-! ## Listeners -/

def gatewayFQR (gw : Gateway) : Model.FullyQualifiedResource where
  name := gw.name
  ns := gw.ns
  group := groupName
  version := "v1"
  kind := "Gateway"
  uid := gw.uid

def listenerSetFQR (ls : ListenerSet) : Model.FullyQualifiedResource where
  name := ls.name
  ns := ls.ns
  group := groupName
  version := "v1"
  kind := "ListenerSet"
  uid := ls.uid

/-- The listener of a Gateway with its context. -/
def gatewayListener (gw : Gateway) (l : Listener) : ListenerWithContext where
  listener := l
  source := gatewayFQR gw
  sourceGeneration := gw.generation

/-- The listener of a ListenerSet with its context. -/
def listenerSetListener (c : Cluster) (ls : ListenerSet) (l : Listener) : ListenerWithContext where
  listener := l
  source := listenerSetFQR ls
  sourceGeneration := ls.generation
  allowedNamespaces := c.resolveAllowedNamespaces ls.ns l

def mergeListeners (c : Cluster) (gw : Gateway) (listenerSets : List ListenerSet) :
    List ListenerWithContext :=
  gw.listeners.map (gatewayListener gw) ++
    listenerSets.flatMap fun ls => ls.listeners.map (listenerSetListener c ls)

/-- The owner of a merged listener: the Gateway or an attached ListenerSet. -/
inductive Owner
  | gateway (gw : Gateway)
  | listenerSet (ls : ListenerSet)

/-- The namespace of the owner, relative to which the policy `Same` is read. -/
def Owner.ns : Owner → String
  | gateway gw => gw.ns
  | listenerSet ls => ls.ns

/-- The owner as the source of its listeners. -/
def Owner.fqr : Owner → Model.FullyQualifiedResource
  | gateway gw => gatewayFQR gw
  | listenerSet ls => listenerSetFQR ls

/-- The listener of `ctx` is one that the owner declares, with the context it gives it. -/
def Owner.declares (c : Cluster) (gw : Gateway) (sets : List ListenerSet)
    (ctx : ListenerWithContext) : Owner → Prop
  | gateway gw' => gw' = gw ∧ ctx.listener ∈ gw.listeners ∧ ctx = gatewayListener gw ctx.listener
  | listenerSet ls => ls ∈ sets ∧ ctx.listener ∈ ls.listeners ∧
      ctx = listenerSetListener c ls ctx.listener

variable {sets : List ListenerSet} {ctx : ListenerWithContext}

theorem mem_mergeListeners {c : Cluster} {gw : Gateway} :
    ctx ∈ mergeListeners c gw sets ↔ ∃ o : Owner, o.declares c gw sets ctx := by
  rw [mergeListeners, mem_append, mem_map, mem_flatMap]
  constructor
  · rintro (⟨l, hl, rfl⟩ | ⟨ls, hls, hctx⟩)
    · exact ⟨.gateway gw, rfl, hl, rfl⟩
    · obtain ⟨l, hl, rfl⟩ := mem_map.1 hctx
      exact ⟨.listenerSet ls, hls, hl, rfl⟩
  · rintro ⟨gw' | ls, h, hl, hctx⟩
    · exact .inl ⟨ctx.listener, hl, hctx.symm⟩
    · exact .inr ⟨ls, h, mem_map.2 ⟨ctx.listener, hl, hctx.symm⟩⟩

theorem Owner.source_eq {c : Cluster} {gw : Gateway} {o : Owner} (ho : o.declares c gw sets ctx) :
    ctx.source = o.fqr := by
  cases o with
  | gateway gw' =>
    obtain ⟨rfl, _, hctx⟩ := ho
    rw [hctx]
    rfl
  | listenerSet ls =>
    obtain ⟨_, _, hctx⟩ := ho
    rw [hctx]
    rfl

/-! ## Which parent a parentRef names -/

/-- The parentRef of a route in `routeNamespace` names the owner. -/
def Owner.named (routeNamespace : String) (ref : ParentReference) : Owner → Prop
  | gateway gw => isGateway ref = true ∧ namespaceDerefOr ref.ns routeNamespace = gw.ns ∧
      ref.name = gw.name
  | listenerSet ls => isListenerSet ref = true ∧ namespaceDerefOr ref.ns routeNamespace = ls.ns ∧
      ref.name = ls.name

/-- One and the same parentRef names the owner and, if it gives them, the name and the
    port of the listener. -/
def Designates (routeNamespace : String) (o : Owner) (l : Listener) (ref : ParentReference) :
    Prop :=
  o.named routeNamespace ref ∧ (ref.sectionName = none ∨ ref.sectionName = some l.name) ∧
    (ref.port = none ∨ ref.port = some l.port)

def listenerMatchesRouteParent (gw : Gateway) (source : Model.FullyQualifiedResource)
    (listener : Listener) (routeNamespace : String) (parentRefs : List ParentReference) : Bool :=
  parentRefs.any fun ref =>
    sectionMatches listener ref && ref.port.all (· == listener.port) &&
      if source.kind = "ListenerSet" then
        -- a parentRef without a kind never names a ListenerSet
        isListenerSet ref && namespaceDerefOr ref.ns routeNamespace == source.ns &&
          ref.name == source.name
      else
        isGateway ref && namespaceDerefOr ref.ns routeNamespace == gw.ns && ref.name == gw.name

theorem sectionMatches_iff {l : Listener} {ref : ParentReference} :
    sectionMatches l ref = true ↔ ref.sectionName = none ∨ ref.sectionName = some l.name :=
  all_beq_iff

theorem port_all_iff {p : Option Nat} {n : Nat} :
    (p.all (· == n)) = true ↔ p = none ∨ p = some n := by
  cases p <;> simp

/-- The test of the HTTP filter is the right one: some parentRef designates the listener. -/
theorem listenerMatchesRouteParent_iff {c : Cluster} {gw : Gateway} {o : Owner}
    (ho : o.declares c gw sets ctx) {ns : String} {refs : List ParentReference} :
    listenerMatchesRouteParent gw ctx.source ctx.listener ns refs = true ↔
      ∃ ref ∈ refs, Designates ns o ctx.listener ref := by
  rw [listenerMatchesRouteParent, any_eq_true]
  refine exists_congr fun ref => and_congr_right fun _ => ?_
  rw [Bool.and_eq_true, Bool.and_eq_true, sectionMatches_iff, port_all_iff, and_comm, Designates]
  refine and_congr_left fun _ => ?_
  -- section name and port agree; the kind of the source selects the test of the owner
  rw [Owner.source_eq ho]
  cases o with
  | gateway gw' =>
    obtain rfl := ho.1
    simp [Owner.fqr, gatewayFQR, Owner.named, and_assoc]
  | listenerSet ls => simp [Owner.fqr, listenerSetFQR, Owner.named, and_assoc]

/-! ## Which routes may attach to the Gateway -/

/-- The kinds of route that `getGatewayKindForObject` tells apart. -/
def knownRouteKinds : List String := ["HTTPRoute", "TLSRoute", "TCPRoute", "UDPRoute"]

/-- Whether `allowedRoutes.kinds` allows a route; an entry without a group allows any. -/
def isKindAllowed (kinds : Option (List RouteGroupKind)) (routedKind : String) : Bool :=
  match kinds with
  | none => true
  | some kinds => kinds.any fun kind =>
      kind.group.isNone || (kind.group == some groupName && kind.kind == routedKind &&
        knownRouteKinds.contains routedKind)

/-- Whether a route of the kind `routedKind` may attach to a listener of the Gateway. The
    kinds are only looked at when the listener has a namespace policy. -/
def listenerisAllowed (c : Cluster) (gw : Gateway) (listener : Listener)
    (routeNamespace routedKind : String) (namespaceLabels : NamespaceLabelIndex) : Bool :=
  match listener.allowedRoutes.bind (·.namespaces) with
  | none => c.isListenerNamespaceAllowed listener routeNamespace gw.ns namespaceLabels
  | some _ => isKindAllowed (listener.allowedRoutes.bind (·.kinds)) routedKind &&
      c.isListenerNamespaceAllowed listener routeNamespace gw.ns namespaceLabels

/-- The check of the HTTP filter for one listener that the route designates. Listeners of a
    Gateway are checked with a nil index of namespace labels. -/
def filterAllows (c : Cluster) (gw : Gateway) (ctx : ListenerWithContext)
    (routeNamespace : String) : Bool :=
  if ctx.source.kind = "ListenerSet" then
    match ctx.allowedNamespaces with
    | none => true
    | some allowed => allowed.contains routeNamespace
  else listenerisAllowed c gw ctx.listener routeNamespace "HTTPRoute" ∅

/-- The HTTPRoutes that some listener, of the Gateway or of an attached ListenerSet, lets
    attach. -/
def filterHTTPRoutesByGateway (c : Cluster) (gw : Gateway) (attached : List ListenerSet)
    (routes : List HTTPRoute) : List HTTPRoute :=
  routes.filter fun route => (mergeListeners c gw attached).any fun ctx =>
    listenerMatchesRouteParent gw ctx.source ctx.listener route.ns route.parentRefs &&
      Model.computeHosts route.hostnames ctx.listener.hostname ≠ [] &&
      filterAllows c gw ctx route.ns

/-- Whether the status of a route names the Gateway as a parent that accepted it, or whose
    references are not resolved. -/
def isAttachable (gw : Gateway) (route : CommonRoute) : Bool :=
  route.parents.any fun rps =>
    namespaceDerefOr rps.parentRef.ns route.ns == gw.ns && rps.parentRef.name == gw.name &&
      rps.conditions.any fun cond =>
        (cond.type == "Accepted" && cond.status == .true) ||
          (cond.type == "ResolvedRefs" && cond.status == .false)

/-- The host names of a route on all listeners of the Gateway. -/
def computeHosts (gw : Gateway) (hostnames : List String) : List String :=
  gw.listeners.flatMap fun listener => Model.computeHosts hostnames listener.hostname

def isGRPCAllowed (c : Cluster) (gw : Gateway) (route : CommonRoute)
    (namespaceLabels : NamespaceLabelIndex) : Bool :=
  gw.listeners.any fun listener =>
    listenerisAllowed c gw listener route.ns "unknown" namespaceLabels

def filterGRPCRoutesByGateway (c : Cluster) (gw : Gateway) (routes : List GRPCRoute)
    (namespaceLabels : NamespaceLabelIndex) : List GRPCRoute :=
  routes.filter fun route => isAttachable gw route.toCommonRoute &&
    isGRPCAllowed c gw route.toCommonRoute namespaceLabels && computeHosts gw route.hostnames ≠ []

/-- Whether some listener of the Gateway lets a route attach. The loop ends at the first
    listener without a namespace policy, and a policy without `from` panics. -/
def isAllowed (c : Cluster) (gw : Gateway) (routeNamespace routedKind : String) :
    List Listener → Result Bool
  | [] => pure false
  | listener :: rest =>
    match listener.allowedRoutes.bind (·.namespaces) with
    -- the answer for this listener is the answer for all, the rest is not looked at
    | none => pure (routeNamespace == gw.ns)
    | some namespaces =>
      if !isKindAllowed (listener.allowedRoutes.bind (·.kinds)) routedKind then
        isAllowed c gw routeNamespace routedKind rest
      else do
        let fromNamespaces ← deref namespaces.fromNamespaces
        match fromNamespaces with
        | .all => pure true
        | .same =>
          if routeNamespace = gw.ns then pure true
          else isAllowed c gw routeNamespace routedKind rest
        | .selector =>
          match c.listNamespaces namespaces.selector with
          -- an error of the API server ends the loop as well
          | none => pure false
          | some nsList =>
            if nsList.any (·.name == routeNamespace) then pure true
            else isAllowed c gw routeNamespace routedKind rest
        | _ => isAllowed c gw routeNamespace routedKind rest

def filterTLSRoutesByGateway (c : Cluster) (gw : Gateway) (routes : List TLSRoute) :
    Result (List TLSRoute) :=
  collect (fun route =>
    if isAttachable gw route.toCommonRoute then do
      let allowed ← isAllowed c gw route.ns "TLSRoute" gw.listeners
      pure (if allowed && computeHosts gw route.hostnames ≠ [] then [route] else [])
    else pure []) routes

/-- `helpers.IsParentAttachable`, the check of the TCP and UDP filters: a stub. -/
def isParentAttachable (_gw : Gateway) (_route : CommonRoute) (_attached : List ListenerSet) :
    Bool :=
  true

def filterTCPRoutesByGateway (gw : Gateway) (attached : List ListenerSet)
    (routes : List TCPRoute) : List TCPRoute :=
  routes.filter fun route => isParentAttachable gw route.toCommonRoute attached

def filterUDPRoutesByGateway (gw : Gateway) (attached : List ListenerSet)
    (routes : List UDPRoute) : List UDPRoute :=
  routes.filter fun route => isParentAttachable gw route.toCommonRoute attached

/-! ## The input of ingestion -/

/-- The routes and Services that `Reconcile` lists. -/
structure Listing where
  httpRoutes : List HTTPRoute := []
  tlsRoutes : List TLSRoute := []
  grpcRoutes : List GRPCRoute := []
  tcpRoutes : List TCPRoute := []
  udpRoutes : List UDPRoute := []
  services : List Corev1.Service := []
  referenceGrants : List ReferenceGrant := []

/-- Whether some listener of the Gateway has a namespace selector. -/
def hasAllowedRoutesNamespaceSelector (gw : Gateway) : Bool :=
  gw.listeners.any fun listener =>
    match listener.allowedRoutes.bind (·.namespaces) with
    | none => false
    | some namespaces =>
      namespaces.fromNamespaces == some .selector ||
        (namespaces.fromNamespaces.isNone && namespaces.selector.isSome)

/-- The namespaces are only listed when some listener of the Gateway has a selector. -/
def namespaceLabels (c : Cluster) (gw : Gateway) : NamespaceLabelIndex :=
  newNamespaceLabelIndex (if hasAllowedRoutesNamespaceSelector gw then c.namespaces else [])

/-- An empty slice that nothing was appended to is nil. -/
def nilIfEmpty {α : Type} (l : List α) : Option (List α) := if l = [] then none else some l

/-- The input that `Reconcile` passes to ingestion. The ReferenceGrants that it has listed
    are not passed on. -/
def buildInput (c : Cluster) (gw : Gateway) (attached : List ListenerSet) (listing : Listing) :
    Result Input := do
  -- the only filter that may panic
  let tlsRoutes ← filterTLSRoutesByGateway c gw listing.tlsRoutes
  pure
    { gateway := gw
      listeners := nilIfEmpty (mergeListeners c gw attached)
      httpRoutes := filterHTTPRoutesByGateway c gw attached listing.httpRoutes
      tlsRoutes := tlsRoutes
      grpcRoutes := filterGRPCRoutesByGateway c gw listing.grpcRoutes (namespaceLabels c gw)
      tcpRoutes := filterTCPRoutesByGateway gw attached listing.tcpRoutes
      udpRoutes := filterUDPRoutesByGateway gw attached listing.udpRoutes
      services := listing.services }

section

variable {c : Cluster} {gw : Gateway} {attached : List ListenerSet} {listing : Listing}
  {input : Input}

theorem source_name_ne (hctx : ctx ∈ mergeListeners c gw attached) : ctx.source.name ≠ "" := by
  obtain ⟨o, ho⟩ := mem_mergeListeners.1 hctx
  rw [Owner.source_eq ho]
  cases o with
  | gateway gw' => exact gw'.name_ne
  | listenerSet ls => exact ls.name_ne

variable (h : buildInput c gw attached listing = .ok input)

include h

theorem gateway_buildInput : input.gateway = gw := by
  obtain ⟨_, _, h⟩ := bind_pure_eq_ok.1 h
  rw [← h]

theorem sourced_buildInput :
    input.sourced = (mergeListeners c gw attached).map fun ctx => (ctx.listener, ctx.source) := by
  obtain ⟨tlsRoutes, _, rfl⟩ := bind_pure_eq_ok.1 h
  rw [Input.sourced]
  by_cases hnil : mergeListeners c gw attached = []
  · -- without any listener, the list is nil and the Gateway has none of its own
    have hgw : gw.listeners = [] := map_eq_nil_iff.1 (append_eq_nil_iff.1 hnil).1
    simp [nilIfEmpty, hnil, hgw]
  · simp only [nilIfEmpty, if_neg hnil]
    refine map_congr_left fun ctx hctx => ?_
    rw [if_pos (source_name_ne hctx)]

theorem mem_sourced_buildInput (hctx : ctx ∈ mergeListeners c gw attached) :
    (ctx.listener, ctx.source) ∈ input.sourced := by
  rw [sourced_buildInput h]
  exact mem_map_of_mem hctx

theorem mem_sourced_of_listenerSet {ls : ListenerSet} (hls : ls ∈ attached) {l : Listener}
    (hl : l ∈ ls.listeners) :
    (l, listenerSetFQR ls) ∈ input.sourced := by
  have ho : Owner.declares c gw attached (listenerSetListener c ls l) (.listenerSet ls) :=
    ⟨hls, hl, rfl⟩
  exact mem_sourced_buildInput h (mem_mergeListeners.2 ⟨_, ho⟩)

end

end Reconcile
