import Dolphin.Reconcile.Routes

/-!
# Namespace admission of HTTP routes

A listener admits the routes of some namespaces (`Cluster.Admits`), and a route should
be served by a listener it designates exactly when that listener admits its namespace
(`AdmissionEnforced`).

The code does not decide this for each listener. `filterHTTPRoutesByGateway` keeps a
route as soon as *some* designated listener lets it in (`LetIn`), and ingestion, which
goes over all listeners, no longer looks at namespaces. `admissionEnforced_iff` says for
which routes and listeners the two readings agree.
-/

namespace Reconcile

open Gatewayv1 Go Ingestion List

/-- The listener and the route have a host name in common. -/
def HostnamesIntersect (routeHostnames : List String) (listenerHostname : Option String) : Prop :=
  ∃ name, Model.ListenerMatches listenerHostname name ∧ Model.RouteMatches routeHostnames name

section

variable (c : Cluster) (gw : Gateway) (attached : List ListenerSet)

/-- Some listener that the route designates, with a host name in common, passes the check
    of the filter. -/
def LetIn (r : HTTPRoute) : Prop :=
  ∃ ctx o, Owner.declares c gw attached ctx o ∧
    (∃ ref ∈ r.parentRefs, Designates r.ns o ctx.listener ref) ∧
    Model.computeHosts r.hostnames ctx.listener.hostname ≠ [] ∧ filterAllows c gw ctx r.ns = true

/-- A route that designates a listener and shares a host name with it contributes to it if
    and only if that listener admits the namespace of the route. -/
def AdmissionEnforced (input : Input) (m : Model) (r : HTTPRoute) (ctx : ListenerWithContext)
    (o : Owner) : Prop :=
  (∃ ref ∈ r.parentRefs, Designates r.ns o ctx.listener ref) →
    HostnamesIntersect r.hostnames ctx.listener.hostname →
      (Contributes input m ctx.listener ctx.source (.http r) ↔ c.Admits ctx.listener o.ns r.ns)

end

section

variable {c : Cluster} {gw : Gateway} {attached : List ListenerSet} {listing : Listing}
  {input : Input} {m : Model}

theorem mem_filterHTTPRoutesByGateway {routes : List HTTPRoute} {r : HTTPRoute} :
    r ∈ filterHTTPRoutesByGateway c gw attached routes ↔ r ∈ routes ∧ LetIn c gw attached r := by
  rw [filterHTTPRoutesByGateway, mem_filter, any_eq_true]
  refine and_congr_right fun _ => ?_
  constructor
  · rintro ⟨ctx, hctx, h⟩
    obtain ⟨o, ho⟩ := mem_mergeListeners.1 hctx
    rw [Bool.and_eq_true, Bool.and_eq_true, decide_eq_true_eq,
      listenerMatchesRouteParent_iff ho] at h
    exact ⟨ctx, o, ho, h.1.1, h.1.2, h.2⟩
  · rintro ⟨ctx, o, ho, hdes, hhosts, hallow⟩
    refine ⟨ctx, mem_mergeListeners.2 ⟨o, ho⟩, ?_⟩
    rw [Bool.and_eq_true, Bool.and_eq_true, decide_eq_true_eq, listenerMatchesRouteParent_iff ho]
    exact ⟨⟨hdes, hhosts⟩, hallow⟩

/-- Ingestion's own test of the parentRefs passes for every listener that a route
    designates. -/
theorem httpAttached_of_designates {ctx : ListenerWithContext} {o : Owner}
    (ho : o.declares c gw attached ctx) {ns : String} {refs : List ParentReference}
    (h : ∃ ref ∈ refs, Designates ns o ctx.listener ref) :
    httpAttached ctx.listener ctx.source ns refs = true := by
  obtain ⟨ref, href, hnamed, hsection, _⟩ := h
  rw [httpAttached, any_eq_true]
  refine ⟨ref, href, ?_⟩
  rw [Bool.and_eq_true, sectionMatches_iff]
  refine ⟨hsection, ?_⟩
  rw [Owner.source_eq ho]
  cases o with
  -- of a Gateway, only the kind is compared
  | gateway gw' => simp [Owner.fqr, gatewayFQR, hnamed.1]
  | listenerSet ls => simp [Owner.fqr, listenerSetFQR, hnamed.1, hnamed.2.1, hnamed.2.2]

section

variable (hin : buildInput c gw attached listing = .ok input) (hm : gatewayAPI input = .ok m)
  {r : HTTPRoute} (hr : r ∈ listing.httpRoutes) {ctx : ListenerWithContext} {o : Owner}
  (ho : o.declares c gw attached ctx)

include hin hm hr ho

/-- A route contributes to a listener that it designates when it has rules, the listener
    serves HTTP, the code finds a common host name, and the filter has let the route in,
    be it through another listener. -/
theorem contributes_http_iff (hdes : ∃ ref ∈ r.parentRefs, Designates r.ns o ctx.listener ref) :
    Contributes input m ctx.listener ctx.source (.http r) ↔
      LetIn c gw attached r ∧ servesHTTP ctx.listener.protocol = true ∧
        Model.computeHosts r.hostnames ctx.listener.hostname ≠ [] ∧ r.rules ≠ [] := by
  have hl := mem_sourced_buildInput hin (mem_mergeListeners.2 ⟨o, ho⟩)
  rw [contributes_iff hm hl]
  obtain ⟨_, _, rfl⟩ := bind_pure_eq_ok.1 hin
  simp only [Input.Has, Reaches, Served, Route.rules, mem_filterHTTPRoutesByGateway, hr, true_and,
    httpAttached_of_designates ho hdes, and_assoc, ne_eq, map_eq_nil_iff]

/-- Admission is enforced for a route and a listener exactly when, in case the listener
    forbids the namespace, no other designated listener lets the route in (or the route
    has nothing to contribute), and, in case it admits the namespace, some designated
    listener does let it in and there is something to serve. -/
theorem admissionEnforced_iff :
    AdmissionEnforced c input m r ctx o ↔
      ((∃ ref ∈ r.parentRefs, Designates r.ns o ctx.listener ref) →
        HostnamesIntersect r.hostnames ctx.listener.hostname →
          (¬ c.Admits ctx.listener o.ns r.ns → LetIn c gw attached r →
            servesHTTP ctx.listener.protocol = false ∨
              Model.computeHosts r.hostnames ctx.listener.hostname = [] ∨ r.rules = []) ∧
          (c.Admits ctx.listener o.ns r.ns → LetIn c gw attached r ∧
            servesHTTP ctx.listener.protocol = true ∧
              Model.computeHosts r.hostnames ctx.listener.hostname ≠ [] ∧ r.rules ≠ [])) := by
  refine forall_congr' fun hdes => forall_congr' fun _ => ?_
  rw [contributes_http_iff hin hm hr ho hdes]
  constructor
  · -- if nothing is missing, the route contributes, which it may only when admitted
    intro h
    refine ⟨fun hadmits hlet => ?_, h.2⟩
    by_contra hall
    push Not at hall
    exact hadmits (h.1 ⟨hlet, by simpa using hall.1, hall.2.1, hall.2.2⟩)
  · rintro ⟨hleak, hkept⟩
    refine ⟨fun ⟨hlet, hserves, hhosts, hrules⟩ => ?_, hkept⟩
    by_contra hadmits
    rcases hleak hadmits hlet with h | h | h
    · exact absurd (h ▸ hserves) Bool.false_ne_true
    · exact hhosts h
    · exact hrules h

end

end

/-! ## A Gateway with an open and a private listener -/

def bareCluster : Cluster where
  namespaces := []
  labelSelectorAsSelector := fun _ => some fun _ => false
  names_nodup := nodup_nil

/-- A listener that admits every namespace. -/
def openListener : Listener where
  name := "open"
  port := 80
  protocol := .http
  allowedRoutes := some { namespaces := some { fromNamespaces := some .all } }

/-- A listener that only admits the namespace of its Gateway. -/
def privateListener : Listener where
  name := "private"
  port := 8080
  protocol := .http
  allowedRoutes := some { namespaces := some { fromNamespaces := some .same } }

def sharedGateway : Gateway where
  name := "gw"
  ns := "infra"
  listeners := [openListener, privateListener]

def tenantRoute : HTTPRoute where
  name := "web"
  ns := "tenant"
  parentRefs := [{ name := "gw", ns := some "infra" }]
  rules := [{}]

theorem tenantRoute_designates (l : Listener) :
    ∃ ref ∈ tenantRoute.parentRefs, Designates tenantRoute.ns (.gateway sharedGateway) l ref :=
  ⟨_, mem_singleton_self _, ⟨by decide, by decide, by decide⟩, .inl rfl, .inl rfl⟩

theorem tenantRoute_letIn : LetIn bareCluster sharedGateway [] tenantRoute :=
  ⟨gatewayListener sharedGateway openListener, .gateway sharedGateway,
    ⟨rfl, mem_cons_self, rfl⟩, tenantRoute_designates _, by decide, by decide⟩

theorem tenantRoute_run :
    ∃ input m, buildInput bareCluster sharedGateway [] { httpRoutes := [tenantRoute] } = .ok input ∧
      gatewayAPI input = .ok m :=
  ⟨_, _, rfl, rfl⟩

/-- On the open listener, which lets the route in, admission is enforced. -/
theorem admissionEnforced_open :
    ∃ input m, buildInput bareCluster sharedGateway [] { httpRoutes := [tenantRoute] } = .ok input ∧
      gatewayAPI input = .ok m ∧
      AdmissionEnforced bareCluster input m tenantRoute
        (gatewayListener sharedGateway openListener) (.gateway sharedGateway) := by
  obtain ⟨input, m, hin, hm⟩ := tenantRoute_run
  have ho : Owner.declares bareCluster sharedGateway []
      (gatewayListener sharedGateway openListener) (.gateway sharedGateway) :=
    ⟨rfl, mem_cons_self, rfl⟩
  refine ⟨input, m, hin, hm, (admissionEnforced_iff hin hm mem_cons_self ho).2 fun _ _ => ?_⟩
  refine ⟨fun h => absurd trivial h, fun _ => ?_⟩
  exact ⟨tenantRoute_letIn, by decide, by decide, by decide⟩

/-- On the private listener it is not: the route, let in through the open one, is served
    there as well. -/
theorem admission_leaks :
    ∃ input m, buildInput bareCluster sharedGateway [] { httpRoutes := [tenantRoute] } = .ok input ∧
      gatewayAPI input = .ok m ∧
      ¬ AdmissionEnforced bareCluster input m tenantRoute
        (gatewayListener sharedGateway privateListener) (.gateway sharedGateway) := by
  obtain ⟨input, m, hin, hm⟩ := tenantRoute_run
  have ho : Owner.declares bareCluster sharedGateway []
      (gatewayListener sharedGateway privateListener) (.gateway sharedGateway) :=
    ⟨rfl, mem_cons_of_mem _ mem_cons_self, rfl⟩
  have hdes := tenantRoute_designates privateListener
  refine ⟨input, m, hin, hm, fun h => ?_⟩
  -- the filter does not say through which listener the route came in
  have hcontributes := (contributes_http_iff hin hm mem_cons_self ho hdes).2
    ⟨tenantRoute_letIn, by decide, by decide, by decide⟩
  have hadmits := (h hdes ⟨"", nofun, .inl rfl⟩).1 hcontributes
  exact absurd hadmits (by decide : "tenant" ≠ "infra")

end Reconcile
