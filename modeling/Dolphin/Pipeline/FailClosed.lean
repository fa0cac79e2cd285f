import Dolphin.Pipeline.Plaintext
import Dolphin.Pipeline.Rules

/-!
# Backends that cannot be resolved

A backendRef that names no Service, or one that may not be referred to, or that has no port,
is dropped by ingestion. What is left of a rule whose backendRefs are all dropped answers its
requests with an error: nothing later on gives it a cluster again, as long as no other rule
has the same match under the same host, whose backends it would then share.

* `forwards_fromBackendRef`: whatever the model forwards to has passed the checks;
* `directResponse_of_unresolved`: the Envoy routes of a rule without a backend.

Together they are `failClosed`.
-/

namespace Pipeline

open Gatewayv1 Ingestion Translation Go Model List Option

/-- The backends that the routes of the model forward to, of all protocols. -/
def forwardingBackends (m : Model) : List Backend :=
  (m.http.flatMap fun l => l.routes.flatMap (·.backends)) ++ tlsBackends m ++ tcpBackends m ++
    m.udp.flatMap fun l => l.routes.flatMap (·.backends)

/-- The backend is that of a backendRef that passes the checks of ingestion: it is a Service
    with a port, which may be referred to and is there. -/
def FromBackendRef (input : Input) (b : Backend) : Prop :=
  ∃ route, input.Has route ∧ ∃ rule ∈ route.rules, ∃ be ∈ rule.backendRefs,
    KeptBackend route.ingestedKind route.toCommonRoute.ns input.services input.referenceGrants be ∧
      backendToModelBackend be route.toCommonRoute.ns = b

/-- No other rule has the match of `x` under the host. -/
def Unshared (input : Input) (secure : Bool) (h : String) (rule : HTTPRule)
    (x : Model.HTTPRoute) : Prop :=
  ∀ rule' y, Serves input secure h rule' y → y.getMatchKey = x.getMatchKey → rule' = rule

/-- Rules none of whose backendRefs passes the checks respond with an error. -/
def FailsClosed (input : Input) (m : Model) (t : DefaultTranslator)
    (resources : List Envoy.XDSResource) : Prop :=
  ∀ rule : HTTPRule, ¬ rule.Redirects → (∀ be ∈ rule.backendRefs, ¬ rule.Keeps input be) →
    ∀ secure h x, Serves input secure h rule x → Unshared input secure h rule x →
      ∀ rc, .routeConfiguration rc ∈ resources → rc.name = "listener-" ++ classPort secure →
        ∀ vh ∈ rc.virtualHosts, vh.name = h → ∀ e ∈ vh.routes, MergedInto t m secure h x e →
          Envoy.Route.clusterRefs e = [] ∧
            ∃ r body, e = some r ∧ r.action = .directResponse ⟨500, body⟩

section

variable {input : Input} {m : Model} {l : Listener} {s : FullyQualifiedResource}

/-- What a route yields forwards to backends that pass the checks. -/
theorem fromBackendRef_of_yields (hm : gatewayAPI input = .ok m) (hl : (l, s) ∈ input.sourced)
    (route : Route) {x : route.ModelRoute} (hx : Yields input m l s route x) {b : Backend}
    (hb : b ∈ route.forwards x) : FromBackendRef input b := by
  obtain ⟨hr, _, rule, hrule, hmade⟩ := hx.made hm hl
  rw [hmade.forwards] at hb
  obtain ⟨be, hbe, hkept, heq⟩ := mem_ingestBackends.1 hb
  exact ⟨route, hr, rule, hrule, be, hbe, hkept, heq⟩

theorem forwards_fromBackendRef (hm : gatewayAPI input = .ok m) {b : Backend}
    (hb : b ∈ forwardingBackends m) : FromBackendRef input b := by
  simp only [forwardingBackends, tlsBackends, tcpBackends, mem_append, mem_flatMap] at hb
  rcases hb with ((hb | hb) | hb) | hb
  · obtain ⟨hl, hhl, x, hx, hb⟩ := hb
    obtain ⟨l, s, route, y, hl', hyields, hforwards, _⟩ := exists_yields_backends hm hhl hx
    exact fromBackendRef_of_yields hm hl' route hyields (hforwards ▸ hb)
  · obtain ⟨tl, htl, x, hx, hb⟩ := hb
    obtain ⟨l, s, r, hl, hyields⟩ := exists_yieldsTLS hm htl hx
    exact fromBackendRef_of_yields hm hl (.tls r) hyields hb
  · obtain ⟨tl, htl, x, hx, hb⟩ := hb
    obtain ⟨l, s, r, hl, hyields⟩ := exists_yieldsTCP hm htl hx
    exact fromBackendRef_of_yields hm hl (.tcp r) hyields hb
  · obtain ⟨ul, hul, x, hx, hb⟩ := hb
    obtain ⟨l, s, r, hl, hyields⟩ := exists_yieldsUDP hm hul hx
    exact fromBackendRef_of_yields hm hl (.udp r) hyields hb

variable {rule : HTTPRule} {x : Model.HTTPRoute} {t : DefaultTranslator} {secure : Bool}
  {h : String} {e : Option Envoy.Route}

theorem backends_eq_nil (hnone : ∀ be ∈ rule.backendRefs, ¬ rule.Keeps input be) :
    rule.backends input = [] := by
  refine eq_nil_iff_forall_not_mem.2 fun b hb => ?_
  obtain ⟨be, hbe, hkept, _⟩ := mem_ingestBackends.1 hb
  exact hnone be hbe hkept

theorem Unshared.makes (hm : gatewayAPI input = .ok m) (hunshared : Unshared input secure h rule x)
    {y : Model.HTTPRoute} (hy : y ∈ groupAt (routesFor m secure h) x.getMatchKey) :
    ∃ l s z, Makes input l s rule z ∧ z.sorted = y := by
  obtain ⟨z, hz, hkey, rfl⟩ := mem_groupAt.1 hy
  obtain ⟨rule', hserves⟩ := (mem_routesFor_iff_serves hm).1 hz
  obtain rfl := hunshared rule' z hserves hkey
  obtain ⟨l, s, _, hmakes, _⟩ := hserves
  exact ⟨l, s, z, hmakes, rfl⟩

theorem Makes.unresolved (hx : Makes input l s rule x) (hredirect : ¬ rule.Redirects)
    (hnone : ∀ be ∈ rule.backendRefs, ¬ rule.Keeps input be) :
    x.backends = [] ∧ x.requestRedirect = none ∧ x.directResponse = some { statusCode := 500 } := by
  obtain ⟨fs, hsame, hfs⟩ := hx.sameEffects
  rw [backends_eq_nil hnone] at hsame
  refine ⟨congrArg Model.HTTPRoute.backends hsame, ?_,
    congrArg Model.HTTPRoute.directResponse hsame⟩
  rw [HTTPRule.redirect_eq_none hredirect, isSome_none, isSome_eq_false_iff,
    isNone_iff_eq_none] at hfs
  exact (congrArg Model.HTTPRoute.requestRedirect hsame).trans hfs

theorem directResponse_of_unresolved (hm : gatewayAPI input = .ok m)
    (hredirect : ¬ rule.Redirects) (hnone : ∀ be ∈ rule.backendRefs, ¬ rule.Keeps input be)
    (hunshared : Unshared input secure h rule x) (he : MergedInto t m secure h x e) :
    ∃ r, e = some r ∧ r.action = .directResponse ⟨500, ""⟩ := by
  obtain ⟨first, rest, route, deleted, hgroup, _, he⟩ := he.exists_group
  have hmade (y : Model.HTTPRoute) (hy : y ∈ first :: rest) :
      y.backends = [] ∧ y.requestRedirect = none ∧
        y.directResponse = some { statusCode := 500 } := by
    obtain ⟨l, s, z, hmakes, rfl⟩ := hunshared.makes hm (hgroup ▸ hy)
    exact hmakes.unresolved hredirect hnone
  obtain ⟨_, hfirst, hresponse⟩ := hmade first mem_cons_self
  have hbackends : (first :: rest).flatMap (·.backends) = [] :=
    flatMap_eq_nil_iff.2 fun y hy => (hmade y hy).1
  -- the group has neither a backend nor a redirect, so that its first route responds
  rcases envoyHTTPRoute_cases he with ⟨_, _, he, _⟩ | ⟨hnot, _⟩
  · rw [envoyHTTPRouteNoBackend, hresponse] at he
    exact ⟨_, he, rfl⟩
  · exact absurd ⟨hbackends, hfirst⟩ hnot

end

/-- Backends that cannot be resolved are not forwarded to, and rules that have no other
    backends respond with an error. -/
theorem failClosed (input : Input) (m : Model) (hm : gatewayAPI input = .ok m) :
    (∀ b ∈ forwardingBackends m, FromBackendRef input b) ∧
      ∀ (hash : String → String) (slices : Slices) (orders : RangeOrders) (t : GatewayTranslator)
        (nodePort : Bool) (res : GatewayResources) (config : DolphinEnvoyConfig),
        t.translate hash slices orders nodePort m = .ok (.ok res) → res.config = some config →
          ∃ source, modelSource m = some source ∧
            FailsClosed input m (t.toDefault source) config.resources := by
  refine ⟨fun b hb => forwards_fromBackendRef hm hb, ?_⟩
  intro hash slices orders t nodePort res config hres hconfig
  obtain ⟨source, hsource, _⟩ := GatewayTranslator.resources_of_translate hres hconfig
  refine ⟨source, hsource, ?_⟩
  intro rule hredirect hnone secure h x _ hunshared rc _ _ vh _ _ e _ hmerged
  obtain ⟨r, rfl, haction⟩ := directResponse_of_unresolved hm hredirect hnone hunshared hmerged
  refine ⟨?_, r, "", rfl, haction⟩
  rw [Envoy.Route.clusterRefs, haction]
  rfl

/-- A route to a Service that is not there. -/
def goneRoute : Gatewayv1.HTTPRoute where
  name := "gone"
  ns := "team"
  parentRefs := [{ name := "gw", ns := some "infra", sectionName := some "web" }]
  hostnames := ["gone.shop.example"]
  rules := [{ backendRefs := [{ name := "gone", port := some 80 }] }]

/-- A route to a Service that is there. -/
def stockRoute : Gatewayv1.HTTPRoute where
  name := "stock"
  ns := "team"
  parentRefs := [{ name := "gw", ns := some "infra", sectionName := some "web" }]
  hostnames := ["stock.shop.example"]
  rules := [{ backendRefs := [{ name := "stock", port := some 80 }] }]

def stockInput : Input where
  gateway := { name := "gw", ns := "infra", listeners := [shopListener] }
  httpRoutes := [goneRoute, stockRoute]
  services := [⟨"stock", "team"⟩]

def goneRule : HTTPRule := .http goneRoute { backendRefs := [{ name := "gone", port := some 80 }] }

theorem goneRule_unresolved :
    ¬ goneRule.Redirects ∧ ∀ be ∈ goneRule.backendRefs, ¬ goneRule.Keeps stockInput be := by
  refine ⟨fun h => ?_, fun be hbe hkept => ?_⟩
  · obtain ⟨f, hf, _⟩ := h
    cases hf
  · obtain rfl := mem_singleton.1 hbe
    exact absurd hkept.exist (by decide)

theorem goneRule_serves : ∃ x, Serves stockInput false "gone.shop.example" goneRule x ∧
      Unshared stockInput false "gone.shop.example" goneRule x := by
  refine ⟨_, ⟨shopListener, gatewaySource stockInput.gateway, mem_singleton_self _,
    ⟨⟨mem_cons_self, mem_singleton_self _⟩, ⟨rfl, rfl, by decide⟩, _, rfl,
      mem_singleton_self _⟩, rfl, by decide⟩, ?_⟩
  intro rule y hserves _
  obtain ⟨l, s, hl, hmakes, _, hh⟩ := hserves
  obtain ⟨rfl, rfl⟩ := Prod.mk.inj (mem_singleton.1 hl)
  cases rule with
  | http r rule =>
    obtain ⟨hr, hrule⟩ := hmakes.mem
    rcases mem_cons.1 hr with rfl | hr
    · obtain rfl := mem_singleton.1 hrule
      rfl
    · obtain rfl := mem_singleton.1 hr
      obtain ⟨xs, hxs, hy⟩ := hmakes.made
      have hhosts := ((ingestHTTPRule_spec hxs).2 y hy).hostnames
      rw [effectiveHostsOn, hhosts] at hh
      exact absurd hh (by decide)
  | grpc r rule => exact absurd hmakes.mem.1 not_mem_nil

/-- The clusters that the virtual hosts of the route configurations refer to, by name. -/
def virtualHostRefs (resources : List Envoy.XDSResource) : List (String × List String) :=
  resources.flatMap fun r =>
    match r with
    | .routeConfiguration rc => rc.virtualHosts.map fun vh => (vh.name, vh.clusterRefs)
    | _ => []

/-- The one route is served with its cluster, the other one without any. -/
theorem failClosed_stockInput :
    ∃ m res config, gatewayAPI stockInput = .ok m ∧
      gatewayTranslator.translate (fun s => s) .reference .entries false m = .ok (.ok res) ∧
      res.config = some config ∧
      virtualHostRefs config.resources =
        [("gone.shop.example", []), ("stock.shop.example", ["team:stock:80"])] ∧
      (∃ x, Serves stockInput false "gone.shop.example" goneRule x ∧
        Unshared stockInput false "gone.shop.example" goneRule x) ∧
      (¬ goneRule.Redirects ∧ ∀ be ∈ goneRule.backendRefs, ¬ goneRule.Keeps stockInput be) ∧
      (∀ b ∈ forwardingBackends m, FromBackendRef stockInput b) ∧
      ∃ source, FailsClosed stockInput m (gatewayTranslator.toDefault source) config.resources := by
  obtain ⟨m, res, config, hm, hres, hconfig, hrefs⟩ : ∃ m res config,
      gatewayAPI stockInput = .ok m ∧
      gatewayTranslator.translate (fun s => s) .reference .entries false m = .ok (.ok res) ∧
      res.config = some config ∧ virtualHostRefs config.resources =
        [("gone.shop.example", []), ("stock.shop.example", ["team:stock:80"])] :=
    ⟨_, _, _, rfl, rfl, rfl, by decide +kernel⟩
  obtain ⟨hforwards, hclosed⟩ := failClosed stockInput m hm
  obtain ⟨source, _, hclosed⟩ := hclosed _ _ _ _ _ res config hres hconfig
  exact ⟨m, res, config, hm, hres, hconfig, hrefs, goneRule_serves, goneRule_unresolved,
    hforwards, source, hclosed⟩

end Pipeline
