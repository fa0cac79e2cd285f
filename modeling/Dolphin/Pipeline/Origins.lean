import Dolphin.Ingestion.Attachment
import Dolphin.Translation.RouteConfigurations

/-!
# Where Envoy routes come from

Ingestion makes model routes from the routes of the input, translation makes Envoy routes
from model routes. Composed, they lead from an Envoy route back to the routes of the input
and the listeners these are attached to (`OriginatesFrom`): the Envoy route was made from
the model routes with the effective host of its virtual host and with the same match, and
each of these was yielded by some route on some listener of the class.

`MergedInto.origin` is the handle for proofs. Host names are the first use of it: a virtual
host only serves names that both the listener and the route allow (`hostSound`). This holds
although a lone `*` is turned into no host name at all, for which translation takes the
host name of the listener.
-/

namespace Pipeline

open Gatewayv1 Ingestion Translation Go Model List

/-- In the virtual host for `h` of a class, the Envoy route `e` is made from the model route
    `x`: both have this effective host, and the same match. -/
def MergedInto (t : DefaultTranslator) (m : Model) (secure : Bool) (h : String)
    (x : Model.HTTPRoute) (e : Option Envoy.Route) : Prop :=
  x ∈ routesFor m secure h ∧ ∃ r ∈ routesFor m secure h, x.getMatchKey = r.getMatchKey ∧
    MadeBy (routesFor m secure h) [h] t.hostNameSuffixMatch (firstPort m) r e

/-- The Envoy route `e` is made from model routes, each of which is yielded by a route of the
    input on a listener, such that `P` holds of both. -/
def OriginatesFrom (input : Input) (t : DefaultTranslator) (m : Model) (secure : Bool)
    (h : String) (e : Option Envoy.Route) (P : Listener → Route → Prop) : Prop :=
  (∃ x, MergedInto t m secure h x e) ∧ ∀ x, MergedInto t m secure h x e →
    ∃ l s route, (l, s) ∈ input.sourced ∧ YieldsHTTP input m l s route x ∧ P l route

/-- The host names of a route, for the kinds that become HTTP routes of the model. -/
def routeHostnames : Route → List String
  | .http r => r.hostnames
  | .grpc r => r.hostnames
  | .tls _ | .tcp _ | .udp _ => []

/-- The host names of the listeners and of the routes are well formed. -/
structure WellFormedHostnames (input : Input) : Prop where
  listeners : ∀ p ∈ input.sourced, ∀ h, p.1.hostname = some h → WellFormedHostname h
  httpRoutes : ∀ r ∈ input.httpRoutes, ∀ h ∈ r.hostnames, WellFormedHostname h
  grpcRoutes : ∀ r ∈ input.grpcRoutes, ∀ h ∈ r.hostnames, WellFormedHostname h

/-- The names that a virtual host matches are matched by the listener and by the route that
    its Envoy routes come from. -/
def HostSound (input : Input) (slices : Slices) (t : DefaultTranslator) : Prop :=
  ∀ m rcs, gatewayAPI input = .ok m → getEnvoyHTTPRouteConfiguration slices t m = .ok rcs →
    ∀ rc ∈ rcs, ∀ vh ∈ rc.virtualHosts, ∀ e ∈ vh.routes, ∃ secure,
      rc.name = "listener-" ++ classPort secure ∧
      OriginatesFrom input t m secure vh.name e fun l route => ∀ name, HostMatches vh.name name →
        ListenerMatches l.hostname name ∧ RouteMatches (routeHostnames route) name

section

variable {input : Input} {m : Model} {t : DefaultTranslator} {secure : Bool} {h : String}
  {x : Model.HTTPRoute} {e : Option Envoy.Route}

theorem exists_mergedInto {rc : Envoy.RouteConfiguration} (hrc : ConfigurationOf t m secure rc)
    {vh : Envoy.VirtualHost} (hvh : vh ∈ rc.virtualHosts) (he : e ∈ vh.routes) :
    ∃ x, MergedInto t m secure vh.name x e := by
  obtain ⟨routes, sorted, hroutes, hsorted, heq⟩ := newVirtualHost_eq_ok.1 (hrc.routes vh hvh)
  have he : e ∈ sorted := by
    rw [heq] at he
    exact he
  obtain ⟨r, hr, hmade⟩ := mem_envoyHTTPRoutes hroutes ((mem_sortRoutes hsorted).1 he)
  exact ⟨r, hr, r, hr, rfl, hmade⟩

/-- A model route that is merged into an Envoy route is yielded by a route of the input, on a
    listener of the class. -/
theorem MergedInto.origin (hm : gatewayAPI input = .ok m) (hx : MergedInto t m secure h x e) :
    ∃ l s route, (l, s) ∈ input.sourced ∧ YieldsHTTP input m l s route x ∧
      l.tls.isSome = secure := by
  obtain ⟨hl, hhl, hsecure, hmem, _⟩ := mem_routesFor.1 hx.1
  obtain ⟨l, s, route, hsourced, hyields, htls⟩ := exists_yieldsHTTP hm hhl hmem
  exact ⟨l, s, route, hsourced, hyields, htls ▸ hsecure⟩

theorem MergedInto.host (hx : MergedInto t m secure h x e) :
    x.hostnames = [] ∨ h ∈ x.hostnames := by
  obtain ⟨_, _, _, _, hh⟩ := mem_routesFor.1 hx.1
  rw [effectiveHosts] at hh
  split_ifs at hh with hnil
  · exact .inl hnil
  · exact .inr hh

/-- The host names of a model route are those computed from the listener's and the route's. -/
theorem hostnames_of_yieldsHTTP {l : Listener} {s : FullyQualifiedResource} {route : Route}
    (hm : gatewayAPI input = .ok m) (hl : (l, s) ∈ input.sourced)
    (hx : YieldsHTTP input m l s route x) :
    x.hostnames = routeHosts (computeHosts (routeHostnames route) l.hostname) ∧
      computeHosts (routeHostnames route) l.hostname ≠ [] := by
  cases route with
  | http r =>
    have hx : Yields input m l s (.http r) x := hx
    obtain ⟨_, hreach, rule, _, hmade⟩ := hx.made hm hl
    exact ⟨hmade.hosts, hreach.2.2⟩
  | grpc r =>
    have hx : Yields input m l s (.grpc r) x := hx
    obtain ⟨_, hreach, rule, _, hmade⟩ := hx.made hm hl
    exact ⟨hmade.hosts, hreach.2.2⟩
  | tls r => exact hx.elim
  | tcp r => exact hx.elim
  | udp r => exact hx.elim

theorem exists_computedHost {hosts : List String} (hne : hosts ≠ [])
    (hx : x.hostnames = routeHosts hosts) (hh : x.hostnames = [] ∨ h ∈ x.hostnames) {name : String}
    (hname : HostMatches h name) : ∃ h' ∈ hosts, HostMatches h' name := by
  rw [routeHosts] at hx
  by_cases hall : hosts = [allHosts]
  · -- the lone wildcard has become no host name, but it matches everything
    exact ⟨allHosts, hall ▸ mem_singleton_self _, .inl rfl⟩
  · rw [if_neg hall] at hx
    rcases hh with hnil | hmem
    · exact absurd (hx ▸ hnil) hne
    · exact ⟨h, hx ▸ hmem, hname⟩

theorem wellFormed_of_yieldsHTTP (hwf : WellFormedHostnames input) {l : Listener}
    {s : FullyQualifiedResource} {route : Route} (hx : YieldsHTTP input m l s route x) :
    ∀ h ∈ routeHostnames route, WellFormedHostname h := by
  cases route with
  | http r => exact hwf.httpRoutes r hx.1
  | grpc r => exact hwf.grpcRoutes r hx.1
  | tls r => exact hx.elim
  | tcp r => exact hx.elim
  | udp r => exact hx.elim

end

/-- A configuration that is emitted without enforcement of HTTPS is that of some class. -/
theorem exists_configurationOf {slices : Slices} {t : DefaultTranslator} {m : Model}
    {rcs : List Envoy.RouteConfiguration} (ht : t.enforceHTTPs = false)
    (h : getEnvoyHTTPRouteConfiguration slices t m = .ok rcs) {rc : Envoy.RouteConfiguration}
    (hrc : rc ∈ rcs) : ∃ secure, ConfigurationOf t m secure rc := by
  obtain ⟨secure, hconf⟩ := exists_configuredAs h hrc
  exact ⟨secure, hconf.configurationOf ht⟩

/-- From the Gateway to Envoy, host names are sound. -/
theorem hostSound (input : Input) (slices : Slices) (t : DefaultTranslator)
    (hwf : WellFormedHostnames input) : HostSound input slices { t with enforceHTTPs := false } := by
  intro m rcs hm hrcs rc hrc vh hvh e he
  obtain ⟨secure, hconf⟩ := exists_configurationOf rfl hrcs hrc
  refine ⟨secure, hconf.name, exists_mergedInto hconf hvh he, fun x hx => ?_⟩
  obtain ⟨l, s, route, hl, hyields, _⟩ := hx.origin hm
  refine ⟨l, s, route, hl, hyields, fun name hname => ?_⟩
  obtain ⟨hhosts, hne⟩ := hostnames_of_yieldsHTTP hm hl hyields
  obtain ⟨h', hh', hname'⟩ := exists_computedHost hne hhosts hx.host hname
  exact computeHosts_sound (wellFormed_of_yieldsHTTP hwf hyields) (hwf.listeners _ hl) hh' hname'

def shopListener : Listener where
  name := "web"
  port := 80
  protocol := .http
  hostname := some "*.shop.example"

/-- A listener with TLS, none of whose certificates is there. -/
def payListener : Listener where
  name := "pay"
  port := 443
  protocol := .https
  tls := some { certificateRefs := [{ name := "cert", ns := some "vault" }] }

/-- A route for one name, attached to the listener without TLS. -/
def cartRoute : Gatewayv1.HTTPRoute where
  name := "cart"
  ns := "team"
  parentRefs := [{ name := "gw", ns := some "infra", sectionName := some "web" }]
  hostnames := ["cart.shop.example"]
  rules := [{}]

/-- A route without host names, attached to the listener with TLS. -/
def payRoute : Gatewayv1.HTTPRoute where
  name := "pay"
  ns := "team"
  parentRefs := [{ name := "gw", ns := some "infra", sectionName := some "pay" }]
  rules := [{}]

def shopInput : Input where
  gateway := { name := "gw", ns := "infra", listeners := [shopListener, payListener] }
  httpRoutes := [cartRoute, payRoute]

def shopTranslator : DefaultTranslator where
  name := "dolphin-gateway-gw"
  ns := "infra"
  secretsNamespace := "secrets"
  hostNameSuffixMatch := true

theorem shopInput_wellFormed : WellFormedHostnames shopInput := by
  constructor
  case listeners =>
    intro p hp h hhost
    rcases mem_cons.1 hp with rfl | hp
    · obtain rfl : "*.shop.example" = h := Option.some_inj.1 hhost
      exact .inr ⟨"shop.example".toList, by decide, by decide⟩
    · obtain rfl := mem_singleton.1 hp
      exact absurd hhost (Option.some_ne_none h).symm
  case httpRoutes =>
    intro r hr h hhost
    rcases mem_cons.1 hr with rfl | hr
    · obtain rfl := mem_singleton.1 hhost
      exact .inl (by decide)
    · obtain rfl := mem_singleton.1 hr
      cases hhost
  case grpcRoutes =>
    intro r hr
    cases hr

/-- Both routes are served, each on its own host. -/
theorem hostSound_shopInput :
    WellFormedHostnames shopInput ∧
      (gatewayAPI shopInput >>= fun m =>
        getEnvoyHTTPRouteConfiguration .reference shopTranslator m >>= fun rcs =>
          pure (rcs.map fun rc =>
            (rc.name, rc.virtualHosts.map fun vh => (vh.name, vh.routes.length)))) =
        .ok [("listener-insecure", [("cart.shop.example", 1)]), ("listener-secure", [("*", 1)])] ∧
      HostSound shopInput .reference shopTranslator :=
  ⟨shopInput_wellFormed, rfl, hostSound shopInput .reference shopTranslator shopInput_wellFormed⟩

end Pipeline
