import Dolphin.Pipeline.Plaintext
import Dolphin.Pipeline.Rules
import Dolphin.Translation.References
import Dolphin.Translation.Reordering

/-!
# The order of the lists of routes

A client returns HTTPRoutes and GRPCRoutes in any order, and ingestion goes over them in the
order they are in. On each listener it goes over the HTTPRoutes first, then over the GRPCRoutes;
these are the *parts* of the model (`parts`), and another order of the lists is another order
within each part.

The Envoy configuration does depend on it (`configuration_depends_on_order`): routes that are
equally specific stay in the order of the lists. It does not (`translate_perm`) if

* no two routes of a part contend (`Contend`): under no common host do they make model routes
  that are merged, or equally specific;
* the host name that clusters for port 443 expect is the same whichever route comes last;
* namespaces have no colon, so that clusters are told apart.
-/

namespace Pipeline

open Gatewayv1 Ingestion Translation Go Model List Option

/-- The HTTPRoutes, or the GRPCRoutes, on a listener: what they become there, one by one. -/
structure Part where
  listener : Listener
  blocks : List (Result (List Model.HTTPRoute))

/-- The parts of the model, in the order of ingestion. -/
def parts (input : Input) : List Part :=
  input.httpListeners.flatMap fun p =>
    [⟨p.1, input.httpBlocks p⟩, ⟨p.1, input.grpcBlocks p⟩]

namespace Part

/-- A route of the part makes the model routes `xs`, and `x` is one of them. -/
def Makes (part : Part) (xs : List Model.HTTPRoute) (x : Model.HTTPRoute) : Prop :=
  .ok xs ∈ part.blocks ∧ x ∈ xs

/-- A model route of the part has `host` as its first host name. -/
def Names (part : Part) (host : String) : Prop :=
  ∃ xs x, part.Makes xs x ∧ x.hostnames.head? = some host

end Part

/-- Under the host `h`, the model routes `x` and `y` belong to groups with equally specific
    members. Model routes with the same key are in one group. -/
def Contend (input : Input) (secure : Bool) (h : String) (x y : Model.HTTPRoute) : Prop :=
  ∃ rule f rule' g, Serves input secure h rule f ∧ Serves input secure h rule' g ∧
    f.getMatchKey = x.getMatchKey ∧ g.getMatchKey = y.getMatchKey ∧
    specificity (matchOf [] true f) = specificity (matchOf [] true g)

/-- The order of the lists of routes does not matter. -/
structure OrderFree (input : Input) : Prop where
  /-- Two routes of a part that make different model routes do not contend. -/
  contend : ∀ part ∈ parts input, ∀ xs x ys y, part.Makes xs x → part.Makes ys y → xs ≠ ys →
    ∀ h, h ∈ effectiveHostsOn part.listener x → h ∈ effectiveHostsOn part.listener y →
      ¬ Contend input part.listener.tls.isSome h x y
  /-- No backend has port 443, or the first host names in the last part that has any are the
      same. -/
  upstream : (∀ part ∈ parts input, ∀ xs x, part.Makes xs x → ∀ be ∈ routeBackends x,
      ∀ port ∈ be.port, port.getPort ≠ "443") ∨
    ∀ before part after, parts input = before ++ part :: after →
      (∀ part' ∈ after, ∀ host, ¬ part'.Names host) →
      ∀ host host', part.Names host → part.Names host' → host = host'
  /-- No namespace of a reference to a backend has a colon. -/
  namespaces : ∀ route, input.Has route → ∀ rule ∈ route.rules,
    (∀ be ∈ rule.backendRefs, ':' ∉ (namespaceDerefOr be.ns route.toCommonRoute.ns).toList) ∧
      ∀ ref ∈ rule.mirrorRefs, ':' ∉ (namespaceDerefOr ref.ns route.toCommonRoute.ns).toList

/-! ## The model by parts -/

/-- The model routes of a part that a virtual host has, in the order of the model and with
    multiplicity. -/
def Part.occurrences (secure : Bool) (h : String) (part : Part) : List Model.HTTPRoute :=
  if part.listener.tls.isSome = secure then
    (part.blocks.flatMap returned).flatMap fun x =>
      List.replicate ((effectiveHostsOn part.listener x).count h) x
  else []

theorem routesFor_modelOf (input : Input) (secure : Bool) (h : String) :
    routesFor (modelOf input) secure h = (parts input).flatMap (Part.occurrences secure h) := by
  rw [routesFor, listenersOf, modelOf, parts]
  dsimp only
  generalize input.httpListeners = ps
  induction ps with
  | nil => rfl
  | cons p ps ih =>
    have hclass (routes : List Model.HTTPRoute) :
        (toHTTPListener input p.1 p.2 routes).secure = p.1.tls.isSome := isSome_map
    rw [flatMap_cons, flatMap_append, ← ih, map_cons, flatMap_cons,
      flatMap_singleton, Part.occurrences, Part.occurrences]
    by_cases hsecure : p.1.tls.isSome = secure
    · rw [filter_cons_of_pos (by rw [hclass, decide_eq_true_eq]; exact hsecure),
        flatMap_cons, if_pos hsecure, if_pos hsecure]
      exact congrArg (· ++ _) flatMap_append
    · rw [filter_cons_of_neg (by rw [hclass, decide_eq_true_eq]; exact hsecure),
        if_neg hsecure, if_neg hsecure]
      rfl

theorem routes_modelOf (input : Input) : (modelOf input).http.flatMap (·.routes) =
      (parts input).flatMap fun part => part.blocks.flatMap returned := by
  rw [modelOf, parts, flatMap_map, flatMap_assoc]
  refine flatMap_congr fun p _ => ?_
  rw [flatMap_cons, flatMap_singleton]
  rfl

theorem Part.mem_returned {part : Part} {x : Model.HTTPRoute} :
    x ∈ part.blocks.flatMap returned ↔ ∃ xs, part.Makes xs x := by
  rw [mem_flatMap]
  constructor
  · intro h
    obtain ⟨block, hblock, hx⟩ := h
    cases block with
    | error e => cases hx
    | ok xs => exact ⟨xs, hblock, hx⟩
  · intro h
    obtain ⟨xs, hblock, hx⟩ := h
    exact ⟨.ok xs, hblock, hx⟩

theorem Part.mem_occurrences {secure : Bool} {h : String} {part : Part} {x : Model.HTTPRoute} :
    x ∈ part.occurrences secure h ↔ part.listener.tls.isSome = secure ∧
      (∃ xs, part.Makes xs x) ∧ h ∈ effectiveHostsOn part.listener x := by
  rw [occurrences]
  split_ifs with hsecure
  · rw [and_iff_right hsecure, mem_flatMap, ← mem_returned]
    simp only [mem_replicate, ne_eq, count_eq_zero, not_not]
    constructor
    · intro hx
      obtain ⟨x', hx', hmem, rfl⟩ := hx
      exact ⟨hx', hmem⟩
    · intro hx
      exact ⟨x, hx.1, hx.2, rfl⟩
  · exact iff_of_false not_mem_nil fun hx => hsecure hx.1

/-- The first host names of the model routes of a part. -/
def Part.firstHosts (part : Part) : List String :=
  (part.blocks.flatMap returned).filterMap (·.hostnames.head?)

theorem Part.mem_firstHosts {part : Part} {host : String} :
    host ∈ part.firstHosts ↔ part.Names host := by
  rw [firstHosts, mem_filterMap]
  constructor
  · intro h
    obtain ⟨x, hx, hhost⟩ := h
    obtain ⟨xs, hmakes⟩ := mem_returned.1 hx
    exact ⟨xs, x, hmakes, hhost⟩
  · intro h
    obtain ⟨xs, x, hmakes, hhost⟩ := h
    exact ⟨x, mem_returned.2 ⟨xs, hmakes⟩, hhost⟩

theorem upstreamHostname_modelOf (input : Input) : upstreamHostname (modelOf input) =
      ((parts input).map Part.firstHosts).flatten.getLast?.getD "" := by
  rw [upstreamHostname_eq, routes_modelOf, filterMap_flatMap, ← flatMap_def]
  rfl

/-! ## Another order -/

/-- The parts have the same blocks, in another order. -/
structure Part.Reordered (part part' : Part) : Prop where
  listener : part'.listener = part.listener
  blocks : part.blocks.Perm part'.blocks

/-- Of what is picked from a part, nothing comes from two routes. -/
def Part.PicksOne (part : Part) (secure : Bool) (h : String) (q : Model.HTTPRoute → Bool) : Prop :=
  ∀ xs x ys y, part.Makes xs x → part.Makes ys y → xs ≠ ys →
    h ∈ effectiveHostsOn part.listener x → h ∈ effectiveHostsOn part.listener y →
    part.listener.tls.isSome = secure → q x = true → q y = true → False

variable {q : Model.HTTPRoute → Bool} {secure : Bool} {h : String}

theorem Part.Reordered.filter_occurrences {part part' : Part} (hr : part.Reordered part')
    (hq : part.PicksOne secure h q) :
    (part.occurrences secure h).filter q = (part'.occurrences secure h).filter q := by
  rw [occurrences, occurrences, hr.listener]
  split_ifs with hsecure
  · have hpicked {block : Result (List Model.HTTPRoute)} (hne : (((returned block).flatMap fun x =>
        List.replicate ((effectiveHostsOn part.listener x).count h) x).filter q) ≠ []) :
        ∃ xs x, block = .ok xs ∧ x ∈ xs ∧ h ∈ effectiveHostsOn part.listener x ∧ q x = true := by
      obtain ⟨x, hx⟩ := exists_mem_of_ne_nil _ hne
      obtain ⟨hx, hqx⟩ := mem_filter.1 hx
      obtain ⟨x', hx', hrep⟩ := mem_flatMap.1 hx
      obtain ⟨hcount, rfl⟩ := mem_replicate.1 hrep
      cases block with
      | error e => cases hx'
      | ok xs =>
        exact ⟨xs, x, rfl, hx', by_contra fun hnot => hcount (count_eq_zero.2 hnot), hqx⟩
    rw [flatMap_assoc, flatMap_assoc, filter_flatMap, filter_flatMap]
    refine flatMap_eq_of_perm hr.blocks fun block hblock block' hblock' hne => ?_
    by_contra hboth
    obtain ⟨hleft, hright⟩ := not_or.1 hboth
    obtain ⟨xs, x, rfl, hx, hhx, hqx⟩ := hpicked hleft
    obtain ⟨ys, y, rfl, hy, hhy, hqy⟩ := hpicked hright
    exact hq xs x ys y ⟨hblock, hx⟩ ⟨hblock', hy⟩ (ne_of_apply_ne Except.ok hne) hhx hhy hsecure
      hqx hqy
  · rfl

section

variable {input : Input} {httpRoutes : List Gatewayv1.HTTPRoute} {grpcRoutes : List GRPCRoute}

section

variable (hhttp : input.httpRoutes.Perm httpRoutes) (hgrpc : input.grpcRoutes.Perm grpcRoutes)

include hhttp hgrpc

theorem reordered_parts : List.Forall₂ Part.Reordered (parts input)
      (parts { input with httpRoutes := httpRoutes, grpcRoutes := grpcRoutes }) := by
  have hlisteners : Input.httpListeners
      { input with httpRoutes := httpRoutes, grpcRoutes := grpcRoutes } = input.httpListeners := rfl
  rw [parts, parts, hlisteners]
  induction input.httpListeners with
  | nil => exact .nil
  | cons p ps ih =>
    rw [flatMap_cons, flatMap_cons]
    exact .cons ⟨rfl, hhttp.map _⟩ (.cons ⟨rfl, hgrpc.map _⟩ ih)

theorem filter_routesFor (hq : ∀ part ∈ parts input, part.PicksOne secure h q) :
    (routesFor (modelOf input) secure h).filter q =
      (routesFor (modelOf { input with httpRoutes := httpRoutes, grpcRoutes := grpcRoutes })
        secure h).filter q := by
  rw [routesFor_modelOf, routesFor_modelOf, filter_flatMap, filter_flatMap]
  exact flatMap_eq_of_forall₂ (reordered_parts hhttp hgrpc) fun part hpart part' hr =>
    hr.filter_occurrences (hq part hpart)

theorem reordered_modelOf : Reordered (modelOf input)
      (modelOf { input with httpRoutes := httpRoutes, grpcRoutes := grpcRoutes }) := by
  refine ⟨?_, rfl, rfl, rfl⟩
  refine forall₂_map_left_iff.2
    (forall₂_map_right_iff.2 (forall₂_same.2 fun p _ => ?_))
  exact ⟨rfl, ((hhttp.map _).flatMap_right _).append ((hgrpc.map _).flatMap_right _)⟩

theorem upstreamHostname_perm
    (h : ∀ before part after, parts input = before ++ part :: after →
      (∀ part' ∈ after, ∀ host, ¬ part'.Names host) →
      ∀ host host', part.Names host → part.Names host' → host = host') :
    upstreamHostname (modelOf input) = upstreamHostname
      (modelOf { input with httpRoutes := httpRoutes, grpcRoutes := grpcRoutes }) := by
  have hperm : List.Forall₂ List.Perm ((parts input).map Part.firstHosts)
      ((parts { input with httpRoutes := httpRoutes, grpcRoutes := grpcRoutes }).map
        Part.firstHosts) := by
    rw [forall₂_map_left_iff, forall₂_map_right_iff]
    refine (reordered_parts hhttp hgrpc).imp fun part part' hr => ?_
    exact (hr.blocks.flatMap_right _).filterMap _
  rw [upstreamHostname_modelOf, upstreamHostname_modelOf, getLast?_flatten_eq hperm]
  intro before hosts after hsplit hafter host hhost host' hhost'
  obtain ⟨before, rest, hparts, _, hrest⟩ := map_eq_append_iff.1 hsplit
  obtain ⟨part, after, rfl, rfl, rfl⟩ := map_eq_cons_iff.1 hrest
  refine h before part after hparts (fun part' hpart' host hnames => ?_) host host'
    (Part.mem_firstHosts.1 hhost) (Part.mem_firstHosts.1 hhost')
  have hnil := flatten_eq_nil_iff.1 hafter _ (mem_map_of_mem hpart')
  exact absurd (Part.mem_firstHosts.2 hnames) (hnil ▸ not_mem_nil)

theorem ingestible_perm :
    Input.Ingestible { input with httpRoutes := httpRoutes, grpcRoutes := grpcRoutes } ↔
      input.Ingestible := by
  refine forall_congr' fun p => forall_congr' fun _ => forall_congr' fun block => imp_congr_left ?_
  exact ((hhttp.map _).append (hgrpc.map _)).symm.mem_iff

end

theorem Part.Makes.mem_routesFor {part : Part}
    (hpart : part ∈ parts input) {xs : List Model.HTTPRoute} {x : Model.HTTPRoute}
    (hx : part.Makes xs x) {h : String} (hh : h ∈ effectiveHostsOn part.listener x) :
    x ∈ routesFor (modelOf input) part.listener.tls.isSome h := by
  rw [routesFor_modelOf]
  exact mem_flatMap.2 ⟨part, hpart, Part.mem_occurrences.2 ⟨rfl, ⟨xs, hx⟩, hh⟩⟩

/-- Without contention, routes with the same key and routes that are equally specific stay in
    their order. -/
theorem OrderFree.orderAgrees (hfree : OrderFree input)
    (hm : gatewayAPI input = .ok (modelOf input)) (hhttp : input.httpRoutes.Perm httpRoutes)
    (hgrpc : input.grpcRoutes.Perm grpcRoutes) :
    OrderAgrees true (modelOf input)
      (modelOf { input with httpRoutes := httpRoutes, grpcRoutes := grpcRoutes }) := by
  constructor
  case keys =>
    intro secure h k
    refine filter_routesFor hhttp hgrpc fun part hpart xs x ys y hx hy hne hhx hhy _ hkx hky => ?_
    obtain ⟨rule, hserves⟩ := (mem_routesFor_iff_serves hm).1 (hx.mem_routesFor hpart hhx)
    refine hfree.contend part hpart xs x ys y hx hy hne h hhx hhy
      ⟨rule, x, rule, x, hserves, hserves, rfl, ?_, rfl⟩
    exact (of_decide_eq_true hkx).trans (of_decide_eq_true hky).symm
  case specificity =>
    intro secure h s
    refine filter_routesFor hhttp hgrpc
      fun part hpart xs x ys y hx hy hne hhx hhy hsecure hsx hsy => ?_
    subst hsecure
    obtain ⟨f, hf, hkeyf, hspecf⟩ := exists_groupSpecificity (hx.mem_routesFor hpart hhx)
    obtain ⟨g, hg, hkeyg, hspecg⟩ := exists_groupSpecificity (hy.mem_routesFor hpart hhy)
    obtain ⟨rule, hservesf⟩ := (mem_routesFor_iff_serves hm).1 hf
    obtain ⟨rule', hservesg⟩ := (mem_routesFor_iff_serves hm).1 hg
    refine hfree.contend part hpart xs x ys y hx hy hne h hhx hhy
      ⟨rule, f, rule', g, hservesf, hservesg, hkeyf, hkeyg, ?_⟩
    have hsame := hspecf.symm.trans ((of_decide_eq_true hsx).trans (of_decide_eq_true hsy).symm)
    exact some_inj.1 (hsame.trans hspecg)
  case upstream =>
    refine hfree.upstream.imp (fun hport sp hsp => ?_) (upstreamHostname_perm hhttp hgrpc)
    obtain ⟨be, hbe, hsp⟩ := mem_filterMap.1 hsp
    obtain ⟨port, hbeport, rfl⟩ := map_eq_some_iff.1 hsp
    obtain ⟨l, hl, x, hx, hbe⟩ := mem_httpBackends.1 hbe
    have hroutes := mem_flatMap.2 ⟨l, hl, hx⟩
    rw [routes_modelOf] at hroutes
    obtain ⟨part, hpart, hx⟩ := mem_flatMap.1 hroutes
    obtain ⟨xs, hmakes⟩ := Part.mem_returned.1 hx
    exact hport part hpart xs x hmakes be hbe port hbeport

theorem OrderFree.plain_of_yields (hfree : OrderFree input) {m : Model}
    (hm : gatewayAPI input = .ok m) {l : Listener} {s : FullyQualifiedResource}
    (hl : (l, s) ∈ input.sourced) {route : Route} {x : route.ModelRoute}
    (hx : Yields input m l s route x) {be : Backend}
    (hbe : be ∈ route.forwards x ∨ be ∈ route.mirrors x) :
    ':' ∉ be.ns.toList ∧ ∀ port ∈ be.port, port.name = "" := by
  obtain ⟨hhas, _, rule, hrule, hmade⟩ := hx.made hm hl
  obtain ⟨hrefs, hmirrors⟩ := hfree.namespaces route hhas rule hrule
  have hport (ref : BackendObjectReference) :
      ∀ port ∈ (backendRefToModelBackend ref route.toCommonRoute.ns).port, port.name = "" := by
    intro port hport
    obtain ⟨p, _, rfl⟩ := map_eq_some_iff.1 hport
    rfl
  rcases hbe with hbe | hbe
  · rw [hmade.forwards] at hbe
    obtain ⟨ref, href, _, rfl⟩ := mem_ingestBackends.1 hbe
    exact ⟨hrefs ref href, hport ref.toBackendObjectReference⟩
  · rw [hmade.mirrors] at hbe
    obtain ⟨ref, href, rfl⟩ := mem_map.1 hbe
    exact ⟨hmirrors ref href, hport ref⟩

theorem OrderFree.namesDistinct (hfree : OrderFree input) {m : Model}
    (hm : gatewayAPI input = .ok m) : NamesDistinct (servicePortsOf m) := by
  refine namesDistinct_of_numbers fun be hbe => ?_
  rw [backendsOf, append_assoc] at hbe
  rcases mem_append.1 hbe with hbe | hbe
  · obtain ⟨hl, hhl, x, hx, hbe⟩ := mem_httpBackends.1 hbe
    obtain ⟨l, s, route, y, hls, hyields, hforwards, hmirrors⟩ := exists_yields_backends hm hhl hx
    refine hfree.plain_of_yields hm hls hyields ?_
    rw [hforwards, hmirrors]
    exact mem_append.1 hbe
  · rcases mem_append.1 hbe with hbe | hbe
    · obtain ⟨tl, htl, hbe⟩ := mem_flatMap.1 hbe
      obtain ⟨x, hx, hbe⟩ := mem_flatMap.1 hbe
      obtain ⟨l, s, r, hls, hyields⟩ := exists_yieldsTLS hm htl hx
      exact hfree.plain_of_yields hm hls hyields (.inl hbe)
    · obtain ⟨tl, htl, hbe⟩ := mem_flatMap.1 hbe
      obtain ⟨x, hx, hbe⟩ := mem_flatMap.1 hbe
      obtain ⟨l, s, r, hls, hyields⟩ := exists_yieldsTCP hm htl hx
      exact hfree.plain_of_yields hm hls hyields (.inl hbe)

/-- The Envoy configuration does not depend on the order of the lists of HTTPRoutes and
    GRPCRoutes, as long as no two routes contend. -/
theorem translate_perm (hfree : OrderFree input) (hhttp : input.httpRoutes.Perm httpRoutes)
    (hgrpc : input.grpcRoutes.Perm grpcRoutes) (hash : String → String) (slices : Slices)
    (orders : RangeOrders) (t : GatewayTranslator) (nodePort : Bool) :
    (gatewayAPI { input with httpRoutes := httpRoutes, grpcRoutes := grpcRoutes } >>=
        t.translate hash slices orders nodePort) =
      (gatewayAPI input >>= t.translate hash slices orders nodePort) := by
  by_cases hok : input.Ingestible
  · have hm : gatewayAPI input = .ok (modelOf input) := gatewayAPI_eq_ok.2 ⟨hok, rfl⟩
    have hm' : gatewayAPI { input with httpRoutes := httpRoutes, grpcRoutes := grpcRoutes } =
        .ok (modelOf { input with httpRoutes := httpRoutes, grpcRoutes := grpcRoutes }) :=
      gatewayAPI_eq_ok.2 ⟨(ingestible_perm hhttp hgrpc).2 hok, rfl⟩
    rw [hm, hm']
    exact (GatewayTranslator.translate_reordered (reordered_modelOf hhttp hgrpc)
      (hfree.orderAgrees hm hhttp hgrpc) (hfree.namesDistinct hm) hash slices orders t
      nodePort).symm
  · -- a route that panics does so in any order
    have hpanic : gatewayAPI { input with httpRoutes := httpRoutes, grpcRoutes := grpcRoutes } =
        gatewayAPI input := by
      refine eq_of_forall_ok fun m => iff_of_false (fun hm => hok ?_) fun hm => hok ?_
      · exact (ingestible_perm hhttp hgrpc).1 (gatewayAPI_eq_ok.1 hm).1
      · exact (gatewayAPI_eq_ok.1 hm).1
    rw [hpanic]

end

/-- A route to a version of the shop for requests that have all of the given headers. -/
def flagRoute (version : String) (h : version ≠ "") (headers : List String) :
    Gatewayv1.HTTPRoute where
  name := version
  name_ne := h
  ns := "infra"
  parentRefs := [{ name := "gw" }]
  hostnames := ["shop.example"]
  rules := [{
    routeMatches := [{
      path := some ⟨some .pathPrefix, some "/"⟩
      headers := headers.map fun name => ⟨some .exact, name, "on"⟩ }]
    backendRefs := [{ toBackendRef := { name := version, port := some 80 } }] }]

def flagInput (httpRoutes : List Gatewayv1.HTTPRoute) : Input where
  gateway :=
    { name := "gw", ns := "infra", listeners := [{ name := "web", port := 80, protocol := .http }] }
  httpRoutes := httpRoutes
  services := [⟨"canary", "infra"⟩, ⟨"stable", "infra"⟩]

def flagRoutes : List Gatewayv1.HTTPRoute :=
  [flagRoute "canary" (by decide) ["beta", "vip"], flagRoute "stable" (by decide) ["vip"]]

set_option synthInstance.maxSize 512 in
theorem orderFree_flagInput : OrderFree (flagInput flagRoutes) := by
  have hm : gatewayAPI (flagInput flagRoutes) = .ok (modelOf (flagInput flagRoutes)) := rfl
  have hcontend : ∀ part ∈ parts (flagInput flagRoutes),
      ∀ block ∈ part.blocks, ∀ xs ∈ block.toOption, ∀ x ∈ xs,
      ∀ block' ∈ part.blocks, ∀ ys ∈ block'.toOption, ∀ y ∈ ys, xs ≠ ys →
      ∀ h ∈ effectiveHostsOn part.listener x,
      ∀ f ∈ routesFor (modelOf (flagInput flagRoutes)) part.listener.tls.isSome h,
      ∀ g ∈ routesFor (modelOf (flagInput flagRoutes)) part.listener.tls.isSome h,
      f.getMatchKey = x.getMatchKey → g.getMatchKey = y.getMatchKey →
        specificity (matchOf [] true f) ≠ specificity (matchOf [] true g) := by
    decide +kernel
  have hports : ∀ part ∈ parts (flagInput flagRoutes),
      ∀ block ∈ part.blocks, ∀ xs ∈ block.toOption, ∀ x ∈ xs, ∀ be ∈ routeBackends x,
      ∀ port ∈ be.port, port.getPort ≠ "443" := by decide +kernel
  have hplain : ∀ r ∈ flagRoutes, ∀ rule ∈ (Route.http r).rules,
      (∀ be ∈ rule.backendRefs, ':' ∉ (namespaceDerefOr be.ns r.ns).toList) ∧
        ∀ ref ∈ rule.mirrorRefs, ':' ∉ (namespaceDerefOr ref.ns r.ns).toList := by
    decide
  constructor
  case contend =>
    rintro part hpart xs x ys y hx hy hne h hhx _ ⟨rule, f, rule', g, hf, hg, hkeyf, hkeyg, heq⟩
    exact hcontend part hpart _ hx.1 xs rfl x hx.2 _ hy.1 ys rfl y hy.2 hne h hhx
      f ((mem_routesFor_iff_serves hm).2 ⟨rule, hf⟩) g ((mem_routesFor_iff_serves hm).2 ⟨rule', hg⟩)
      hkeyf hkeyg heq
  case upstream =>
    exact .inl fun part hpart xs x hx => hports part hpart _ hx.1 xs rfl x hx.2
  case namespaces =>
    intro route hroute
    cases route with
    | http r => exact hplain r hroute
    | grpc r | tls r | tcp r | udp r => cases hroute

theorem translate_perm_flagInput :
    ∃ res, (gatewayAPI (flagInput flagRoutes) >>=
        gatewayTranslator.translate id .reference .entries false) = .ok (.ok res) ∧
      (gatewayAPI (flagInput flagRoutes.reverse) >>=
        gatewayTranslator.translate id .reference .entries false) = .ok (.ok res) :=
  ⟨_, rfl, translate_perm orderFree_flagInput (reverse_perm flagRoutes).symm (.refl _) id
    .reference .entries gatewayTranslator false⟩

/-- Two routes that are equally specific. A request may have both headers. -/
def rivalRoutes : List Gatewayv1.HTTPRoute :=
  [flagRoute "canary" (by decide) ["beta"], flagRoute "stable" (by decide) ["vip"]]

/-- Which of two equally specific routes is first depends on the order of the list. -/
theorem configuration_depends_on_order :
    ∃ res res' config config', (gatewayAPI (flagInput rivalRoutes) >>=
        gatewayTranslator.translate id .reference .entries false) = .ok (.ok res) ∧
      (gatewayAPI (flagInput rivalRoutes.reverse) >>=
        gatewayTranslator.translate id .reference .entries false) = .ok (.ok res') ∧
      res.config = some config ∧ res'.config = some config' ∧ config ≠ config' :=
  ⟨_, _, _, _, rfl, rfl, rfl, rfl, by decide⟩

end Pipeline
