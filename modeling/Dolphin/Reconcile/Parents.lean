import Dolphin.Reconcile.Admission

/-!
# The parents that routes name

A route should contribute to a listener only if one of its parentRefs designates it: it
names the owner of the listener and, if given, the listener's name and port
(`ParentNamed`). Five filters and five attachment tests decide which routes contribute:

* the filter of TCP and UDP routes passes every route, and ingestion only compares
  section names;
* the filters of GRPC and TLS routes look at the status of the route for the Gateway,
  and ingestion only compares section names;
* the filter of HTTP routes asks for a parentRef that designates *some* listener, and
  ingestion compares the section name and the kind of the parent, for a ListenerSet also
  its name.

`parentNamed_iff` says which routes get through to a listener that they do not name:
those that are `Misdirected`.
-/

namespace Reconcile

open Gatewayv1 Go Ingestion List

/-- The route is among those listed. -/
def Listing.Has (listing : Listing) : Route → Prop
  | .http r => r ∈ listing.httpRoutes
  | .grpc r => r ∈ listing.grpcRoutes
  | .tls r => r ∈ listing.tlsRoutes
  | .tcp r => r ∈ listing.tcpRoutes
  | .udp r => r ∈ listing.udpRoutes

section

variable (c : Cluster) (gw : Gateway) (attached : List ListenerSet)

/-- The check that the filter of its kind makes of a route. -/
def FilterPasses : Route → Prop
  | .http r => LetIn c gw attached r
  | .grpc r => isAttachable gw r.toCommonRoute = true ∧
      isGRPCAllowed c gw r.toCommonRoute (namespaceLabels c gw) = true ∧
      computeHosts gw r.hostnames ≠ []
  | .tls r => isAttachable gw r.toCommonRoute = true ∧
      isAllowed c gw r.ns "TLSRoute" gw.listeners = .ok true ∧ computeHosts gw r.hostnames ≠ []
  | .tcp r => isParentAttachable gw r.toCommonRoute attached = true
  | .udp r => isParentAttachable gw r.toCommonRoute attached = true

/-- The route gets through the filter of its kind and the attachment test of ingestion for
    the listener, but none of its parentRefs with the right section name names the owner
    of the listener and the right port. -/
def Misdirected (ctx : ListenerWithContext) (o : Owner) (route : Route) : Prop :=
  FilterPasses c gw attached route ∧ Reaches ctx.listener ctx.source route ∧ route.rules ≠ [] ∧
    ∀ ref ∈ route.toCommonRoute.parentRefs, sectionMatches ctx.listener ref = true →
      o.named route.toCommonRoute.ns ref → ¬ (ref.port = none ∨ ref.port = some ctx.listener.port)

/-- The route contributes to the listener only if one of its parentRefs designates it. -/
def ParentNamed (input : Input) (m : Model) (ctx : ListenerWithContext) (o : Owner)
    (route : Route) : Prop :=
  Contributes input m ctx.listener ctx.source route → ∃ ref ∈ route.toCommonRoute.parentRefs,
      Designates route.toCommonRoute.ns o ctx.listener ref

end

section

variable {c : Cluster} {gw : Gateway} {attached : List ListenerSet} {listing : Listing}
  {input : Input} {m : Model}

theorem mem_filterTLSRoutesByGateway {routes filtered : List TLSRoute} {r : TLSRoute}
    (h : filterTLSRoutesByGateway c gw routes = .ok filtered) :
    r ∈ filtered ↔ r ∈ routes ∧ FilterPasses c gw attached (.tls r) := by
  have hkeep : collect (keepIf (fun r => isAttachable gw r.toCommonRoute)
      (fun r => isAllowed c gw r.ns "TLSRoute" gw.listeners)
      fun r => computeHosts gw r.hostnames ≠ []) routes = .ok filtered := h
  rw [(collect_keepIf hkeep).2, FilterPasses, decide_eq_true_eq]

theorem buildInput_has (hin : buildInput c gw attached listing = .ok input) (route : Route) :
    input.Has route ↔ listing.Has route ∧ FilterPasses c gw attached route := by
  obtain ⟨tlsRoutes, htls, rfl⟩ := bind_pure_eq_ok.1 hin
  cases route with
  | http r => exact mem_filterHTTPRoutesByGateway
  | grpc r =>
    simp only [Input.Has, Listing.Has, FilterPasses, filterGRPCRoutesByGateway, mem_filter,
      Bool.and_eq_true, decide_eq_true_eq, and_assoc]
  | tls r => exact mem_filterTLSRoutesByGateway htls
  | tcp r => exact mem_filter
  | udp r => exact mem_filter

/-- A route contributes only to listeners that it designates, unless it is misdirected
    there. -/
theorem parentNamed_iff (hin : buildInput c gw attached listing = .ok input)
    (hm : gatewayAPI input = .ok m) {ctx : ListenerWithContext} {o : Owner}
    (ho : o.declares c gw attached ctx) {route : Route} (hroute : listing.Has route) :
    ParentNamed input m ctx o route ↔ ¬ Misdirected c gw attached ctx o route := by
  have hl := mem_sourced_buildInput hin (mem_mergeListeners.2 ⟨o, ho⟩)
  rw [ParentNamed, contributes_iff hm hl, buildInput_has hin, Misdirected]
  constructor
  · rintro h ⟨hpass, hreach, hrules, hnone⟩
    obtain ⟨ref, href, hnamed, hsection, hport⟩ := h ⟨⟨hroute, hpass⟩, hreach, hrules⟩
    exact hnone ref href (sectionMatches_iff.2 hsection) hnamed hport
  · rintro h ⟨⟨_, hpass⟩, hreach, hrules⟩
    by_contra hnone
    refine h ⟨hpass, hreach, hrules, fun ref href hsection hnamed hport => hnone ?_⟩
    exact ⟨ref, href, hnamed, sectionMatches_iff.1 hsection, hport⟩

end

/-! ## A Gateway with a TCP listener -/

def tcpListener : Listener where
  name := "db"
  port := 5432
  protocol := .tcp

def tcpGateway : Gateway where
  name := "gw"
  ns := "infra"
  listeners := [tcpListener]

def tcpRouteTo (gateway : String) : TCPRoute where
  name := "pg"
  ns := "infra"
  parentRefs := [{ name := gateway }]
  rules := [{}]

theorem tcpRouteTo_run (gateway : String) :
    ∃ input m, buildInput bareCluster tcpGateway [] { tcpRoutes := [tcpRouteTo gateway] } =
      .ok input ∧ gatewayAPI input = .ok m :=
  ⟨_, _, rfl, rfl⟩

theorem tcpListener_declared : Owner.declares bareCluster tcpGateway []
    (gatewayListener tcpGateway tcpListener) (.gateway tcpGateway) :=
  ⟨rfl, mem_cons_self, rfl⟩

/-- A route that names the Gateway contributes as it should. -/
theorem parentNamed_tcpRouteTo_gw :
    ∃ input m, buildInput bareCluster tcpGateway [] { tcpRoutes := [tcpRouteTo "gw"] } = .ok input ∧
      gatewayAPI input = .ok m ∧
      ParentNamed input m (gatewayListener tcpGateway tcpListener) (.gateway tcpGateway)
        (.tcp (tcpRouteTo "gw")) := by
  obtain ⟨input, m, hin, hm⟩ := tcpRouteTo_run "gw"
  refine ⟨input, m, hin, hm, ?_⟩
  refine (parentNamed_iff hin hm tcpListener_declared mem_cons_self).2 ?_
  rintro ⟨_, _, _, hnone⟩
  exact hnone _ mem_cons_self rfl ⟨by decide, by decide, rfl⟩ (.inl rfl)

/-- A route that names another Gateway contributes to the listener all the same. -/
theorem parent_not_named :
    ∃ input m, buildInput bareCluster tcpGateway [] { tcpRoutes := [tcpRouteTo "other"] } =
        .ok input ∧ gatewayAPI input = .ok m ∧
      ¬ ParentNamed input m (gatewayListener tcpGateway tcpListener) (.gateway tcpGateway)
        (.tcp (tcpRouteTo "other")) := by
  obtain ⟨input, m, hin, hm⟩ := tcpRouteTo_run "other"
  refine ⟨input, m, hin, hm, fun h => ?_⟩
  have hl := mem_sourced_buildInput hin (mem_mergeListeners.2 ⟨_, tcpListener_declared⟩)
  have hhas : input.Has (.tcp (tcpRouteTo "other")) :=
    (buildInput_has hin _).2 ⟨mem_cons_self, rfl⟩
  -- the test of ingestion passes, as the parentRef gives no section name
  have hcontributes := (contributes_iff hm hl _).2
    ⟨hhas, ⟨rfl, by decide⟩, by simp [Route.rules, tcpRouteTo]⟩
  obtain ⟨ref, href, hnamed, _⟩ := h hcontributes
  obtain rfl := mem_singleton.1 href
  exact absurd hnamed.2.2 (by decide)

end Reconcile
