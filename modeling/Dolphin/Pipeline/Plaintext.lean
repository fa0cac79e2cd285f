import Dolphin.Pipeline.Origins
import Dolphin.Translation.Translator

/-!
# Traffic with and without TLS

A route that is attached only to listeners with a tls section is never served in plaintext.
This rests on three parts of the code agreeing:

* ingestion gives a listener with a tls section a TLS list that is not nil, even if every
  certificate reference is rejected and the list is empty (`toTLS`);
* translation takes the routes of a listener with a TLS list that is not nil to
  `listener-secure`, and all others to `listener-insecure`;
* connections without TLS are served the routes of `listener-insecure`, connections with TLS
  those of `listener-secure`.

Together they say that a filter chain and the routes it serves are for the same kind of
listeners: `plaintextSafe`. Nothing is assumed of the protocols of the listeners, of the
certificates, or of the grants.
-/

namespace Pipeline

open Gatewayv1 Ingestion Translation Go Model Option

/-- In the resources made for an input, connections without TLS only get routes of listeners
    without a tls section, and connections with TLS only those of listeners with one. -/
structure PlaintextSafe (input : Input) (m : Model) (t : DefaultTranslator)
    (resources : List Envoy.XDSResource) : Prop where
  chains : ∀ l, .listener l ∈ resources → ∀ chain ∈ l.filterChains,
    ∀ statPrefix name xff ipv4 ipv6,
      chain.filter = .httpConnectionManager statPrefix name xff ipv4 ipv6 →
        (chain.transportProtocol = "raw_buffer" ∧ name = "listener-insecure") ∨
          (chain.transportProtocol = "tls" ∧ name = "listener-secure")
  insecure : ∀ rc, .routeConfiguration rc ∈ resources → rc.name = "listener-insecure" →
    ∀ vh ∈ rc.virtualHosts, ∀ e ∈ vh.routes,
      OriginatesFrom input t m false vh.name e fun l _ => l.tls = none
  secure : ∀ rc, .routeConfiguration rc ∈ resources → rc.name = "listener-secure" →
    ∀ vh ∈ rc.virtualHosts, ∀ e ∈ vh.routes,
      OriginatesFrom input t m true vh.name e fun l _ => l.tls ≠ none

section

variable {input : Input} {m : Model} {slices : Slices} {orders : RangeOrders}
  {t : DefaultTranslator} {resources : List Envoy.XDSResource}

theorem OriginatesFrom.imp {secure : Bool} {h : String} {e : Option Envoy.Route}
    {P Q : Listener → Route → Prop} (horigin : OriginatesFrom input t m secure h e P)
    (hPQ : ∀ l route, P l route → Q l route) : OriginatesFrom input t m secure h e Q := by
  refine ⟨horigin.1, fun x hx => ?_⟩
  obtain ⟨l, s, route, hl, hyields, hP⟩ := horigin.2 x hx
  exact ⟨l, s, route, hl, hyields, hPQ l route hP⟩

theorem not_httpConnectionManager_of_tcp {l : Envoy.Listener}
    (hl : .listener l ∈ getTCPRouteListeners m) {chain : Envoy.FilterChain}
    (hchain : chain ∈ l.filterChains) {statPrefix name : String} {xff ipv4 ipv6 : Bool} :
    chain.filter ≠ .httpConnectionManager statPrefix name xff ipv4 ipv6 := by
  obtain ⟨tl, _, heq⟩ := List.mem_map.1 hl
  obtain rfl := Envoy.XDSResource.listener.inj heq
  rw [List.mem_singleton.1 hchain]
  exact Envoy.Filter.noConfusion

section

variable (hm : gatewayAPI input = .ok m) (h : getResources slices orders t m = .ok resources)
  (ht : t.enforceHTTPs = false)

include hm h ht

/-- The Envoy routes of a configuration originate from routes on listeners of its class. -/
theorem originatesFrom_class {secure : Bool} {rc : Envoy.RouteConfiguration}
    (hrc : .routeConfiguration rc ∈ resources) (hname : rc.name = "listener-" ++ classPort secure)
    {vh : Envoy.VirtualHost} (hvh : vh ∈ rc.virtualHosts) {e : Option Envoy.Route}
    (he : e ∈ vh.routes) :
    OriginatesFrom input t m secure vh.name e fun l _ => l.tls.isSome = secure := by
  obtain ⟨rcs, hrcs, hmem⟩ := routeConfiguration_mem_getResources h hrc
  obtain ⟨secure', hconf⟩ := exists_configurationOf ht hrcs hmem
  -- the class of a configuration is in its name
  obtain rfl : secure' = secure := by
    rw [hconf.name] at hname
    revert hname
    cases secure <;> cases secure' <;> decide
  exact ⟨exists_mergedInto hconf hvh he, fun x hx => hx.origin hm⟩

theorem plaintextSafe_getResources : PlaintextSafe input m t resources := by
  constructor
  case chains =>
    intro l hl chain hchain statPrefix name xff ipv4 ipv6 hfilter
    rcases listener_mem_getResources h hl with ⟨ls, hls, hl⟩ | hl
    · exact routeConfigName_of_mem_getListener hls hl hchain hfilter
    · exact absurd hfilter (not_httpConnectionManager_of_tcp hl hchain)
  case insecure =>
    intro rc hrc hname vh hvh e he
    have hname : rc.name = "listener-" ++ classPort false := hname
    refine (originatesFrom_class hm h ht hrc hname hvh he).imp fun l _ htls => ?_
    exact isNone_iff_eq_none.1 (isSome_eq_false_iff.1 htls)
  case secure =>
    intro rc hrc hname vh hvh e he
    have hname : rc.name = "listener-" ++ classPort true := hname
    refine (originatesFrom_class hm h ht hrc hname hvh he).imp fun l _ htls => ?_
    exact isSome_iff_ne_none.1 htls

end

end

/-- The Gateway translator serves no route in plaintext that is attached only to listeners
    with TLS. -/
theorem plaintextSafe (hash : String → String) (slices : Slices) (orders : RangeOrders)
    (t : GatewayTranslator) (nodePort : Bool) (input : Input) (m : Model)
    (hm : gatewayAPI input = .ok m) (res : GatewayResources)
    (hres : t.translate hash slices orders nodePort m = .ok (.ok res))
    (config : DolphinEnvoyConfig) (hconfig : res.config = some config) :
    ∃ source, modelSource m = some source ∧
      PlaintextSafe input m (t.toDefault source) config.resources := by
  obtain ⟨source, hsource, hresources⟩ := GatewayTranslator.resources_of_translate hres hconfig
  exact ⟨source, hsource, plaintextSafe_getResources hm hresources rfl⟩

def gatewayTranslator : GatewayTranslator where
  secretNameSpace := "secrets"
  enableIpv4 := true

/-- The names of the route configurations with those of their virtual hosts. -/
def configurationNames (resources : List Envoy.XDSResource) : List (String × List String) :=
  resources.filterMap fun r =>
    match r with
    | .routeConfiguration rc => some (rc.name, rc.virtualHosts.map (·.name))
    | _ => none

/-- The route on the listener with TLS is served, but not in plaintext, although none of the
    certificates of that listener may be used. -/
theorem plaintextSafe_shopInput :
    ∃ m res config, gatewayAPI shopInput = .ok m ∧
      gatewayTranslator.translate (fun s => s) .reference .entries false m = .ok (.ok res) ∧
      res.config = some config ∧
      configurationNames config.resources =
        [("listener-insecure", ["cart.shop.example"]), ("listener-secure", ["*"])] ∧
      ∃ source, PlaintextSafe shopInput m (gatewayTranslator.toDefault source) config.resources := by
  obtain ⟨m, res, config, hm, hres, hconfig, hnames⟩ : ∃ m res config,
      gatewayAPI shopInput = .ok m ∧
      gatewayTranslator.translate (fun s => s) .reference .entries false m = .ok (.ok res) ∧
      res.config = some config ∧ configurationNames config.resources =
        [("listener-insecure", ["cart.shop.example"]), ("listener-secure", ["*"])] :=
    ⟨_, _, _, rfl, rfl, rfl, by decide +kernel⟩
  obtain ⟨source, _, hsafe⟩ := plaintextSafe _ _ _ _ _ _ m hm res hres config hconfig
  exact ⟨m, res, config, hm, hres, hconfig, hnames, source, hsafe⟩

end Pipeline
