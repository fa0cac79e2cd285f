import Dolphin.Ingestion.Gateway

/-!
# Which routes contribute to which listeners

Where the model routes come from. A route *yields* a model route on a listener of the
input (`Yields`) when the model listener that ingestion made for this listener holds the
block of model routes made from the route, and the model route is in that block. The
route *contributes* to the listener (`Contributes`) when it yields some model route.

The attachment tests of ingestion (`Reaches`) look at the protocol of the listener, at
the parentRefs of the route, by a test of the route's kind, and at common host names.
What is proved of all five kinds:

* `Yields.made`: what a route yields is made from one of its rules;
* `exists_yields`: a route that reaches a listener yields something for each rule;
* `contributes_iff`: a route contributes when it reaches the listener and has a rule;
* `exists_yieldsHTTP` and its siblings: every route of a listener of the model is yielded by
  a route.
-/

namespace Ingestion

open Gatewayv1 Go List

/-- A route of any of the five kinds. -/
inductive Route
  | http (r : HTTPRoute)
  | grpc (r : GRPCRoute)
  | tls (r : TLSRoute)
  | tcp (r : TCPRoute)
  | udp (r : UDPRoute)

def Route.toCommonRoute : Route → CommonRoute
  | http r => r.toCommonRoute
  | grpc r => r.toCommonRoute
  | tls r => r.toCommonRoute
  | tcp r => r.toCommonRoute
  | udp r => r.toCommonRoute

/-- The type of the model routes that a route becomes. -/
def Route.ModelRoute : Route → Type
  | http _ | grpc _ => Model.HTTPRoute
  | tls _ => Model.TLSRoute
  | tcp _ | udp _ => Model.L4Route

/-- The route is in the input. -/
def Input.Has (input : Input) : Route → Prop
  | .http r => r ∈ input.httpRoutes
  | .grpc r => r ∈ input.grpcRoutes
  | .tls r => r ∈ input.tlsRoutes
  | .tcp r => r ∈ input.tcpRoutes
  | .udp r => r ∈ input.udpRoutes

section

variable (input : Input) (m : Model) (l : Listener) (s : Model.FullyQualifiedResource)

/-- The HTTP listener made for `l` is in the model and holds the block that an iteration
    over the routes computed, and the block holds `x`. -/
def HTTPBlockHolds (iteration : Result (List Model.HTTPRoute)) (x : Model.HTTPRoute) : Prop :=
  ∃ b, ingestListener input l s = .ok b ∧ ∃ hl ∈ b.http, hl ∈ m.http ∧
    ∃ block, iteration = .ok block ∧ block <:+: hl.routes ∧ x ∈ block

/-- The route yields the model route on the listener `l`, whose source is `s`, in the model
    `m`. -/
def Yields : (route : Route) → route.ModelRoute → Prop
  | .http r, x => r ∈ input.httpRoutes ∧ HTTPBlockHolds input m l s
      (ingestHTTPRoute l input.services input.referenceGrants s r) x
  | .grpc r, x => r ∈ input.grpcRoutes ∧ HTTPBlockHolds input m l s
      (ingestGRPCRoute l input.services input.referenceGrants r) x
  | .tls r, x => r ∈ input.tlsRoutes ∧ ∃ b, ingestListener input l s = .ok b ∧
      ∃ tl ∈ b.tls, tl ∈ m.tls ∧
        ingestTLSRoute l input.services input.referenceGrants r <:+: tl.routes ∧
        x ∈ ingestTLSRoute l input.services input.referenceGrants r
  | .tcp r, x => r ∈ input.tcpRoutes ∧ ∃ b, ingestListener input l s = .ok b ∧
      ∃ tl ∈ b.tcp, tl ∈ m.tcp ∧
        ingestTCPRoute l input.services input.referenceGrants r <:+: tl.routes ∧
        x ∈ ingestTCPRoute l input.services input.referenceGrants r
  | .udp r, x => r ∈ input.udpRoutes ∧ ∃ b, ingestListener input l s = .ok b ∧
      ∃ ul ∈ b.udp, ul ∈ m.udp ∧
        ingestUDPRoute l input.services input.referenceGrants r <:+: ul.routes ∧
        x ∈ ingestUDPRoute l input.services input.referenceGrants r

/-- The route, of a kind that becomes HTTP routes of the model, yields such a route on the
    listener `l`. -/
def YieldsHTTP (route : Route) (x : Model.HTTPRoute) : Prop :=
  match route with
  | .http r => Yields input m l s (.http r) x
  | .grpc r => Yields input m l s (.grpc r) x
  | .tls _ | .tcp _ | .udp _ => False

/-- The route contributes to the listener. -/
def Contributes (route : Route) : Prop := ∃ x, Yields input m l s route x

end

/-- The tests of ingestion that a route of the input has to pass to contribute its rules to
    a listener. -/
def Reaches (l : Listener) (s : Model.FullyQualifiedResource) : Route → Prop
  | .http r => servesHTTP l.protocol = true ∧
      Served (httpAttached l s r.ns r.parentRefs) r.hostnames l
  | .grpc r => servesHTTP l.protocol = true ∧ Served (sectionAttached l r.parentRefs) r.hostnames l
  | .tls r => servesHTTP l.protocol = true ∧ Served (sectionAttached l r.parentRefs) r.hostnames l
  | .tcp r => l.protocol = .tcp ∧ sectionAttached l r.parentRefs = true
  | .udp r => l.protocol = .udp ∧ sectionAttached l r.parentRefs = true

/-! ## Rules -/

/-- What a rule refers to: the backends to forward to and those to mirror to. -/
structure RuleRefs where
  backendRefs : List BackendRef
  mirrorRefs : List BackendObjectReference := []

namespace Route

/-- The references of the rules of a route. -/
def rules : Route → List RuleRefs
  | http r => r.rules.map fun rule =>
      ⟨rule.backendRefs.map (·.toBackendRef), rule.filters.flatMap httpMirrorRefs⟩
  | grpc r => r.rules.map fun rule =>
      ⟨rule.backendRefs.map (·.toBackendRef), rule.filters.flatMap grpcMirrorRefs⟩
  | tls r => r.rules.map fun rule => ⟨rule.backendRefs, []⟩
  | tcp r => r.rules.map fun rule => ⟨rule.backendRefs, []⟩
  | udp r => r.rules.map fun rule => ⟨rule.backendRefs, []⟩

/-- The kind under which ingestion looks for grants. -/
def ingestedKind : Route → String
  | http _ => httpRouteKind
  | grpc _ => grpcRouteKind
  | tls _ => "TLSRoute"
  | tcp _ => "TCPRoute"
  | udp _ => "UDPRoute"

/-- The backends that a model route forwards to. -/
def forwards : (route : Route) → route.ModelRoute → List Model.Backend
  | http _, x => x.backends
  | grpc _, x => x.backends
  | tls _, x => x.backends
  | tcp _, x => x.backends
  | udp _, x => x.backends

/-- The backends that a model route mirrors to. -/
def mirrors : (route : Route) → route.ModelRoute → List Model.Backend
  | http _, x => x.requestMirrors.filterMap (·.backend)
  | grpc _, x => x.requestMirrors.filterMap (·.backend)
  | tls _, _ | tcp _, _ | udp _, _ => []

/-- The host names of a model route on a listener, for the kinds that have them. -/
def hostsOn (l : Listener) : (route : Route) → route.ModelRoute → Prop
  | http r, x => x.hostnames = routeHosts (Model.computeHosts r.hostnames l.hostname)
  | grpc r, x => x.hostnames = routeHosts (Model.computeHosts r.hostnames l.hostname)
  | tls r, x => x.hostnames = routeHosts (Model.computeHosts r.hostnames l.hostname)
  | tcp _, _ | udp _, _ => True

end Route

/-- The model route `x` is made from a rule of the route: its forwarding backends are those
    backendRefs of the rule that ingestion keeps, its mirrors are those of the rule. -/
structure MadeFrom (input : Input) (l : Listener) (route : Route) (rule : RuleRefs)
    (x : route.ModelRoute) : Prop where
  hosts : route.hostsOn l x
  forwards : route.forwards x = ingestBackends route.ingestedKind route.toCommonRoute.ns
    input.services input.referenceGrants rule.backendRefs
  mirrors : route.mirrors x =
    rule.mirrorRefs.map fun ref => backendRefToModelBackend ref route.toCommonRoute.ns

/-- The mirrors of a model route that is made from a rule. -/
theorem FromRule.mirrors {hosts : List String} {backends : List Model.Backend}
    {refs : List BackendObjectReference} {ns : String} {x : Model.HTTPRoute}
    (h : FromRule hosts backends refs ns x) :
    x.requestMirrors.filterMap (·.backend) =
      refs.map fun ref => backendRefToModelBackend ref ns := by
  rw [h.requestMirrors, filterMap_map]
  exact congrFun filterMap_eq_map refs

section

variable {input : Input} {m : Model} {l : Listener} {s : Model.FullyQualifiedResource}

variable {x : Model.HTTPRoute}

theorem isInfix_toTLSRoutes {r : TLSRoute} (hr : r ∈ input.tlsRoutes) {x : Model.TLSRoute}
    (hx : x ∈ ingestTLSRoute l input.services input.referenceGrants r) :
    ingestTLSRoute l input.services input.referenceGrants r <:+:
      toTLSRoutes l input.tlsRoutes input.services input.referenceGrants := by
  obtain ⟨rule, hrule, _⟩ := ingestTLSRoute_block.from_rule x hx
  -- the block is in every run of the inner loop, which runs for each rule of `r` itself
  refine List.IsInfix.trans ?_ (isInfix_flatMap _ hr)
  rw [if_pos (served_iff.2 (ingestTLSRoute_block.attached_of_mem x hx))]
  exact (isInfix_flatMap _ hr).trans (isInfix_flatMap (fun _ => List.flatMap _ _) hrule)

variable (h : gatewayAPI input = .ok m)

include h

section

variable (hl : (l, s) ∈ input.sourced)

include hl

theorem httpBlockHolds_iff {iteration : Result (List Model.HTTPRoute)} (hheld : ∀ xs ys,
      toHTTPRoutes l input.httpRoutes input.services input.referenceGrants s = .ok xs →
      toGRPCRoutes l input.grpcRoutes input.services input.referenceGrants = .ok ys →
      ∃ block, iteration = .ok block ∧ block <:+: xs ++ ys) :
    HTTPBlockHolds input m l s iteration x ↔
      servesHTTP l.protocol = true ∧ ∃ block, iteration = .ok block ∧ x ∈ block := by
  constructor
  · rintro ⟨b, hb, hl', hmem, _, block, hblock, _, hx⟩
    exact ⟨((mem_block_http hb).1 hmem).1, block, hblock, hx⟩
  · rintro ⟨hp, block, hblock, hx⟩
    obtain ⟨b, xs, ys, hb, hxs, hys, hmem, hmodel⟩ := exists_block_http h hl hp
    obtain ⟨block', hblock', hinfix⟩ := hheld xs ys hxs hys
    obtain rfl : block' = block := Except.ok.inj (hblock'.symm.trans hblock)
    exact ⟨b, hb, _, hmem, hmodel, block', hblock', hinfix, hx⟩

theorem yields_http_iff {r : HTTPRoute} :
    Yields input m l s (.http r) x ↔ r ∈ input.httpRoutes ∧ servesHTTP l.protocol = true ∧
      ∃ block, ingestHTTPRoute l input.services input.referenceGrants s r = .ok block ∧
        x ∈ block := by
  refine and_congr_right fun hr => httpBlockHolds_iff h hl fun xs ys hxs _ => ?_
  obtain ⟨block, hblock, hinfix⟩ := isInfix_collect hxs hr
  exact ⟨block, hblock, hinfix.trans (prefix_append xs ys).isInfix⟩

theorem yields_grpc_iff {r : GRPCRoute} :
    Yields input m l s (.grpc r) x ↔ r ∈ input.grpcRoutes ∧ servesHTTP l.protocol = true ∧
      ∃ block, ingestGRPCRoute l input.services input.referenceGrants r = .ok block ∧
        x ∈ block := by
  refine and_congr_right fun hr => httpBlockHolds_iff h hl fun xs ys _ hys => ?_
  obtain ⟨block, hblock, hinfix⟩ := isInfix_collect hys hr
  exact ⟨block, hblock, hinfix.trans (suffix_append xs ys).isInfix⟩

theorem yields_tls_iff {r : TLSRoute} {x : Model.TLSRoute} :
    Yields input m l s (.tls r) x ↔ r ∈ input.tlsRoutes ∧ servesHTTP l.protocol = true ∧
      x ∈ ingestTLSRoute l input.services input.referenceGrants r := by
  refine and_congr_right fun hr => ⟨?_, ?_⟩
  · rintro ⟨b, hb, tl, hmem, _, _, hx⟩
    exact ⟨((mem_block_tls hb).1 hmem).1, hx⟩
  · rintro ⟨hp, hx⟩
    obtain ⟨b, hb⟩ := exists_block h hl
    have hmem := (mem_block_tls hb).2 ⟨hp, rfl⟩
    exact ⟨b, hb, _, hmem, (mem_tls h).2 ⟨_, hl, b, hb, hmem⟩, isInfix_toTLSRoutes hr hx, hx⟩

theorem yields_tcp_iff {r : TCPRoute} {x : Model.L4Route} :
    Yields input m l s (.tcp r) x ↔ r ∈ input.tcpRoutes ∧ l.protocol = .tcp ∧
      x ∈ ingestTCPRoute l input.services input.referenceGrants r := by
  refine and_congr_right fun hr => ⟨?_, ?_⟩
  · rintro ⟨b, hb, tl, hmem, _, _, hx⟩
    exact ⟨((mem_block_tcp hb).1 hmem).1, hx⟩
  · rintro ⟨hp, hx⟩
    obtain ⟨b, hb⟩ := exists_block h hl
    have hmem := (mem_block_tcp hb).2 ⟨hp, rfl⟩
    exact ⟨b, hb, _, hmem, (mem_tcp h).2 ⟨_, hl, b, hb, hmem⟩, isInfix_flatMap _ hr, hx⟩

theorem yields_udp_iff {r : UDPRoute} {x : Model.L4Route} :
    Yields input m l s (.udp r) x ↔ r ∈ input.udpRoutes ∧ l.protocol = .udp ∧
      x ∈ ingestUDPRoute l input.services input.referenceGrants r := by
  refine and_congr_right fun hr => ⟨?_, ?_⟩
  · rintro ⟨b, hb, ul, hmem, _, _, hx⟩
    exact ⟨((mem_block_udp hb).1 hmem).1, hx⟩
  · rintro ⟨hp, hx⟩
    obtain ⟨b, hb⟩ := exists_block h hl
    have hmem := (mem_block_udp hb).2 ⟨hp, rfl⟩
    exact ⟨b, hb, _, hmem, (mem_udp h).2 ⟨_, hl, b, hb, hmem⟩, isInfix_flatMap _ hr, hx⟩

theorem Yields.made {route : Route} {x : route.ModelRoute} (hx : Yields input m l s route x) :
    input.Has route ∧ Reaches l s route ∧ ∃ rule ∈ route.rules, MadeFrom input l route rule x := by
  cases route with
  | http r =>
    obtain ⟨hr, hp, block, hblock, hx⟩ := (yields_http_iff h hl).1 hx
    have hB := ingestHTTPRoute_block hblock
    obtain ⟨rule, hrule, hfrom⟩ := hB.from_rule x hx
    refine ⟨hr, ⟨hp, hB.attached_of_mem x hx⟩, _, mem_map_of_mem hrule, ?_⟩
    exact ⟨hfrom.hostnames, hfrom.backends, hfrom.mirrors⟩
  | grpc r =>
    obtain ⟨hr, hp, block, hblock, hx⟩ := (yields_grpc_iff h hl).1 hx
    have hB := ingestGRPCRoute_block hblock
    obtain ⟨rule, hrule, hfrom⟩ := hB.from_rule x hx
    refine ⟨hr, ⟨hp, hB.attached_of_mem x hx⟩, _, mem_map_of_mem hrule, ?_⟩
    exact ⟨hfrom.hostnames, hfrom.backends, hfrom.mirrors⟩
  | tls r =>
    obtain ⟨hr, hp, hx⟩ := (yields_tls_iff h hl).1 hx
    obtain ⟨rule, hrule, rfl⟩ := ingestTLSRoute_block.from_rule x hx
    exact ⟨hr, ⟨hp, ingestTLSRoute_block.attached_of_mem _ hx⟩, _, mem_map_of_mem hrule,
      rfl, rfl, rfl⟩
  | tcp r =>
    obtain ⟨hr, hp, hx⟩ := (yields_tcp_iff h hl).1 hx
    obtain ⟨rule, hrule, rfl⟩ := ingestL4Route_block.from_rule x hx
    exact ⟨hr, ⟨hp, ingestL4Route_block.attached_of_mem _ hx⟩, _, mem_map_of_mem hrule,
      trivial, rfl, rfl⟩
  | udp r =>
    obtain ⟨hr, hp, hx⟩ := (yields_udp_iff h hl).1 hx
    obtain ⟨rule, hrule, rfl⟩ := ingestL4Route_block.from_rule x hx
    exact ⟨hr, ⟨hp, ingestL4Route_block.attached_of_mem _ hx⟩, _, mem_map_of_mem hrule,
      trivial, rfl, rfl⟩

theorem exists_yields {route : Route} (hr : input.Has route) (hreach : Reaches l s route)
    {rule : RuleRefs} (hrule : rule ∈ route.rules) :
    ∃ x, Yields input m l s route x ∧ MadeFrom input l route rule x := by
  cases route with
  | http r =>
    obtain ⟨rule, hr', rfl⟩ := mem_map.1 hrule
    obtain ⟨_, xs, _, _, hxs, _⟩ := exists_block_http h hl hreach.1
    obtain ⟨block, hblock, _⟩ := isInfix_collect hxs hr
    obtain ⟨x, hx, hfrom⟩ := (ingestHTTPRoute_block hblock).of_rule hreach.2 rule hr'
    refine ⟨x, (yields_http_iff h hl).2 ⟨hr, hreach.1, block, hblock, hx⟩, ?_⟩
    exact ⟨hfrom.hostnames, hfrom.backends, hfrom.mirrors⟩
  | grpc r =>
    obtain ⟨rule, hr', rfl⟩ := mem_map.1 hrule
    obtain ⟨_, _, ys, _, _, hys, _⟩ := exists_block_http h hl hreach.1
    obtain ⟨block, hblock, _⟩ := isInfix_collect hys hr
    obtain ⟨x, hx, hfrom⟩ := (ingestGRPCRoute_block hblock).of_rule hreach.2 rule hr'
    refine ⟨x, (yields_grpc_iff h hl).2 ⟨hr, hreach.1, block, hblock, hx⟩, ?_⟩
    exact ⟨hfrom.hostnames, hfrom.backends, hfrom.mirrors⟩
  | tls r =>
    obtain ⟨rule, hr', rfl⟩ := mem_map.1 hrule
    obtain ⟨x, hx, rfl⟩ := ingestTLSRoute_block.of_rule hreach.2 rule hr'
    exact ⟨_, (yields_tls_iff h hl).2 ⟨hr, hreach.1, hx⟩, rfl, rfl, rfl⟩
  | tcp r =>
    obtain ⟨rule, hr', rfl⟩ := mem_map.1 hrule
    obtain ⟨x, hx, rfl⟩ := ingestL4Route_block.of_rule hreach.2 rule hr'
    exact ⟨_, (yields_tcp_iff h hl).2 ⟨hr, hreach.1, hx⟩, trivial, rfl, rfl⟩
  | udp r =>
    obtain ⟨rule, hr', rfl⟩ := mem_map.1 hrule
    obtain ⟨x, hx, rfl⟩ := ingestL4Route_block.of_rule hreach.2 rule hr'
    exact ⟨_, (yields_udp_iff h hl).2 ⟨hr, hreach.1, hx⟩, trivial, rfl, rfl⟩

/-- A property of some model route that a route yields is one of some rule. -/
theorem exists_yields_iff {route : Route} {p : route.ModelRoute → Prop} {q : RuleRefs → Prop}
    (hpq : ∀ rule x, MadeFrom input l route rule x → (p x ↔ q rule)) :
    (∃ x, Yields input m l s route x ∧ p x) ↔
      input.Has route ∧ Reaches l s route ∧ ∃ rule ∈ route.rules, q rule := by
  constructor
  · rintro ⟨x, hx, hp⟩
    obtain ⟨hr, hreach, rule, hrule, hmade⟩ := hx.made h hl
    exact ⟨hr, hreach, rule, hrule, (hpq rule x hmade).1 hp⟩
  · rintro ⟨hr, hreach, rule, hrule, hq⟩
    obtain ⟨x, hx, hmade⟩ := exists_yields h hl hr hreach hrule
    exact ⟨x, hx, (hpq rule x hmade).2 hq⟩

theorem contributes_iff (route : Route) :
    Contributes input m l s route ↔ input.Has route ∧ Reaches l s route ∧ route.rules ≠ [] := by
  have := exists_yields_iff h hl (p := fun x : route.ModelRoute => True) (q := fun _ => True)
    fun _ _ _ => Iff.rfl
  simp only [and_true] at this
  rw [Contributes, this]
  refine and_congr_right fun _ => and_congr_right fun _ => ⟨?_, ?_⟩
  · rintro ⟨rule, hrule⟩
    exact ne_nil_of_mem hrule
  · exact exists_mem_of_ne_nil _

end

theorem exists_yieldsHTTP {hl : Model.HTTPListener} (hhl : hl ∈ m.http) (hx : x ∈ hl.routes) :
    ∃ l s route, (l, s) ∈ input.sourced ∧ YieldsHTTP input m l s route x ∧
      hl.secure = l.tls.isSome := by
  obtain ⟨⟨l, s⟩, hl', b, hb, hmem⟩ := (mem_http h).1 hhl
  obtain ⟨hp, xs, ys, hxs, hys, rfl⟩ := (mem_block_http hb).1 hmem
  have hsecure : (toHTTPListener input l s (xs ++ ys)).secure = l.tls.isSome := Option.isSome_map
  rcases mem_append.1 hx with hx | hx
  · obtain ⟨r, hr, block, hblock, hx⟩ := (mem_collect hxs).1 hx
    exact ⟨l, s, .http r, hl', (yields_http_iff h hl').2 ⟨hr, hp, block, hblock, hx⟩, hsecure⟩
  · obtain ⟨r, hr, block, hblock, hx⟩ := (mem_collect hys).1 hx
    exact ⟨l, s, .grpc r, hl', (yields_grpc_iff h hl').2 ⟨hr, hp, block, hblock, hx⟩, hsecure⟩

/-- The backends of a route of an HTTP listener are those of what some route yields. -/
theorem exists_yields_backends {hl : Model.HTTPListener} (hhl : hl ∈ m.http) (hx : x ∈ hl.routes) :
    ∃ l s route, ∃ y : route.ModelRoute, (l, s) ∈ input.sourced ∧ Yields input m l s route y ∧
      route.forwards y = x.backends ∧ route.mirrors y = x.requestMirrors.filterMap (·.backend) := by
  obtain ⟨l, s, route, hls, hyields, _⟩ := exists_yieldsHTTP h hhl hx
  cases route with
  | http r => exact ⟨l, s, .http r, x, hls, hyields, rfl, rfl⟩
  | grpc r => exact ⟨l, s, .grpc r, x, hls, hyields, rfl, rfl⟩
  | tls r => exact hyields.elim
  | tcp r => exact hyields.elim
  | udp r => exact hyields.elim

theorem exists_yieldsTLS {tl : Model.TLSListener} (htl : tl ∈ m.tls) {x : Model.TLSRoute}
    (hx : x ∈ tl.routes) :
    ∃ l s r, (l, s) ∈ input.sourced ∧ Yields input m l s (.tls r) x := by
  obtain ⟨⟨l, s⟩, hl, b, hb, hmem⟩ := (mem_tls h).1 htl
  obtain ⟨hp, rfl⟩ := (mem_block_tls hb).1 hmem
  obtain ⟨r, hr, hx⟩ := mem_toTLSRoutes.1 hx
  exact ⟨l, s, r, hl, (yields_tls_iff h hl).2 ⟨hr, hp, hx⟩⟩

theorem exists_yieldsTCP {tl : Model.L4Listener} (htl : tl ∈ m.tcp) {x : Model.L4Route}
    (hx : x ∈ tl.routes) :
    ∃ l s r, (l, s) ∈ input.sourced ∧ Yields input m l s (.tcp r) x := by
  obtain ⟨⟨l, s⟩, hl, b, hb, hmem⟩ := (mem_tcp h).1 htl
  obtain ⟨hp, rfl⟩ := (mem_block_tcp hb).1 hmem
  obtain ⟨r, hr, hx⟩ := mem_flatMap.1 hx
  exact ⟨l, s, r, hl, (yields_tcp_iff h hl).2 ⟨hr, hp, hx⟩⟩

theorem exists_yieldsUDP {ul : Model.L4Listener} (hul : ul ∈ m.udp) {x : Model.L4Route}
    (hx : x ∈ ul.routes) :
    ∃ l s r, (l, s) ∈ input.sourced ∧ Yields input m l s (.udp r) x := by
  obtain ⟨⟨l, s⟩, hl, b, hb, hmem⟩ := (mem_udp h).1 hul
  obtain ⟨hp, rfl⟩ := (mem_block_udp hb).1 hmem
  obtain ⟨r, hr, hx⟩ := mem_flatMap.1 hx
  exact ⟨l, s, r, hl, (yields_udp_iff h hl).2 ⟨hr, hp, hx⟩⟩

end

end Ingestion
