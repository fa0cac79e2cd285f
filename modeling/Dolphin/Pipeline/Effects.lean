import Dolphin.Pipeline.Rules

/-!
# Effects of a rule, from the HTTPRoute to Envoy

Besides its match and its backends, a rule of an HTTPRoute says what is to be done to
requests and responses: a backendRef may have filters of its own that modify headers, and the
rule may have timeouts. An Envoy route that forwards for the rule should do the same
(`EffectsSurvive`): the header options of a backend are at its cluster weight, or at the route
when there is no other backend, and the timeout of the route is the smaller of the two.

The model has places for both, and translation puts what it finds there where it belongs
(`getRouteAction_spec`, `groupHeaders`). But ingestion leaves them empty: it computes the
filters of backends and drops them, and does not look at the timeouts. So nothing survives,
and `effectsSurvive_iff` says that nothing else goes wrong.
-/

namespace Pipeline

open Gatewayv1 Ingestion Translation Go Model List

/-! ## What a rule is to do -/

/-- A header modifier as ingestion puts it in the model. -/
def modelHeaderFilter (f : HTTPHeaderFilter) : HttpHeaderFilter where
  headersToAdd := toHTTPHeaders f.add
  headersToSet := toHTTPHeaders f.set
  headersToRemove := f.remove

/-- What a filter does to the headers of requests and responses. -/
def filterOptions (f : HTTPRouteFilter) : Envoy.HeaderOptions :=
  match f.type with
  | .requestHeaderModifier => headerOptions (f.requestHeaderModifier.map modelHeaderFilter) none
  | .responseHeaderModifier => headerOptions none (f.responseHeaderModifier.map modelHeaderFilter)
  | _ => {}

/-- One after the other. -/
def addOptions (o o' : Envoy.HeaderOptions) : Envoy.HeaderOptions where
  requestHeadersToAdd := o.requestHeadersToAdd ++ o'.requestHeadersToAdd
  requestHeadersToRemove := o.requestHeadersToRemove ++ o'.requestHeadersToRemove
  responseHeadersToAdd := o.responseHeadersToAdd ++ o'.responseHeadersToAdd
  responseHeadersToRemove := o.responseHeadersToRemove ++ o'.responseHeadersToRemove

/-- What the filters of a backendRef do to headers. -/
def backendOptions (be : HTTPBackendRef) : Envoy.HeaderOptions :=
  be.filters.foldl (fun o f => addOptions o (filterOptions f)) {}

/-- The timeout of a rule: the smaller of those that are set. -/
def ruleTimeout (rule : HTTPRouteRule) : Option Int :=
  rule.timeouts.bind fun timeouts => smallerTimeout timeouts.backendRequest timeouts.request

/-- The backendRefs of a rule that pass the checks of ingestion. -/
def ruleRefs (input : Input) (r : Gatewayv1.HTTPRoute) (rule : HTTPRouteRule) :
    List HTTPBackendRef :=
  keptRefs (·.toBackendRef) input (.http r) rule.backendRefs

/-! ## What becomes of it -/

/-- The weight is that of the backendRef, with the header options of its filters. -/
def WeightOf (r : Gatewayv1.HTTPRoute) (be : HTTPBackendRef) (weight : Envoy.ClusterWeight) :
    Prop :=
  backendCluster (backendToModelBackend be.toBackendRef r.ns) = .ok weight.name ∧
    weight.toHeaderOptions = backendOptions be

/-- The filters of the backendRefs are applied where they belong, next to those of the rule,
    which are `options`. -/
def HeadersSurvive (input : Input) (r : Gatewayv1.HTTPRoute) (rule : HTTPRouteRule)
    (options : Envoy.HeaderOptions) (route : Envoy.Route) : Envoy.ClusterSpecifier → Prop
  | .cluster _ => ∀ be ∈ ruleRefs input r rule,
      route.toHeaderOptions = addOptions options (backendOptions be)
  | .weightedClusters clusters => route.toHeaderOptions = options ∧
      ∃ weights, weights <:+: clusters ∧ List.Forall₂ (WeightOf r) (ruleRefs input r rule) weights

/-- The Envoy route, whose action is to forward, does what the rule says. The group of model
    routes that it is made from begins with `first`. -/
structure EffectsSurvive (input : Input) (r : Gatewayv1.HTTPRoute) (rule : HTTPRouteRule)
    (first : Model.HTTPRoute) (route : Envoy.Route) (action : Envoy.RouteAction) : Prop where
  headers : HeadersSurvive input r rule
    (headerOptions first.requestHeaderFilter first.responseHeaderModifier) route
    action.clusterSpecifier
  timeout : ∀ d, ruleTimeout rule = some d → action.timeout = some d

section

variable {input : Input} {m : Model} {r : Gatewayv1.HTTPRoute} {rule : HTTPRouteRule}

theorem eq_addOptions_iff {options o : Envoy.HeaderOptions} :
    options = addOptions options o ↔ o = {} := by
  cases options
  cases o
  simp [addOptions]

variable {x : Model.HTTPRoute}

theorem Makes.noEffects {l : Listener} {s : FullyQualifiedResource} {rule : HTTPRule}
    (h : Makes input l s rule x) :
    x.backends = rule.backends input ∧ x.backendHttpFilters = [] ∧ x.timeout = {} := by
  obtain ⟨fs, hsame, _⟩ := h.sameEffects
  exact ⟨congrArg Model.HTTPRoute.backends hsame,
    congrArg Model.HTTPRoute.backendHttpFilters hsame, congrArg Model.HTTPRoute.timeout hsame⟩

theorem noEffects_of_mem_groupAt (hm : gatewayAPI input = .ok m) {secure : Bool} {h : String}
    {y : Model.HTTPRoute} (hy : y ∈ groupAt (routesFor m secure h) x.getMatchKey) :
    y.backendHttpFilters = [] ∧ y.timeout = {} := by
  obtain ⟨z, hz, _, rfl⟩ := mem_groupAt.1 hy
  obtain ⟨rule, l, s, _, hmakes, _⟩ := (mem_routesFor_iff_serves hm).1 hz
  exact hmakes.noEffects.2

theorem clusterWeight_nil {be : Backend} {weight : Envoy.ClusterWeight}
    (h : clusterWeight [] be = .ok weight) :
    backendCluster be = .ok weight.name ∧ weight.toHeaderOptions = {} := by
  obtain ⟨name, hname, rfl⟩ := bind_pure_eq_ok.1 h
  exact ⟨hname, rfl⟩

/-- Weights without header options are those of backendRefs whose filters do nothing. -/
theorem forall₂_weightOf {refs : List HTTPBackendRef} {weights : List Envoy.ClusterWeight}
    (h : (refs.map fun be => backendToModelBackend be.toBackendRef r.ns).mapM (clusterWeight []) =
      .ok weights) (hnone : ∀ be ∈ refs, backendOptions be = {}) :
    List.Forall₂ (WeightOf r) refs weights := by
  induction forall₂_map_left_iff.1 (mapM_eq_ok.1 h) with
  | nil => exact .nil
  | @cons be weight refs weights hhead hrest ih =>
    obtain ⟨hname, hoptions⟩ := clusterWeight_nil hhead
    refine .cons ⟨hname, hoptions.trans (hnone be mem_cons_self).symm⟩ ?_
    exact ih (mapM_eq_ok.2 (forall₂_map_left_iff.2 hrest))
      fun be' hbe' => hnone be' (mem_cons_of_mem _ hbe')

variable {options : Envoy.HeaderOptions} {route : Envoy.Route}

/-- At the cluster weights there is none of several backends. -/
theorem headersSurvive_weightedClusters_iff (hroute : route.toHeaderOptions = options)
    {backends : List Backend} {clusters : List Envoy.ClusterWeight}
    (hclusters : backends.mapM (clusterWeight []) = .ok clusters)
    (hblock : (HTTPRule.http r rule).backends input <:+: backends) :
    HeadersSurvive input r rule options route (.weightedClusters clusters) ↔
      ∀ be ∈ ruleRefs input r rule, backendOptions be = {} := by
  constructor
  · intro hsurvive be hbe
    obtain ⟨_, weights, hpart, hof⟩ := hsurvive
    obtain ⟨hlength, hof⟩ := forall₂_iff_get.1 hof
    obtain ⟨i, hi, rfl⟩ := mem_iff_getElem.1 hbe
    have hi' : i < weights.length := hlength ▸ hi
    obtain ⟨b, _, hb⟩ := (mem_mapM hclusters).1 (hpart.subset (getElem_mem hi'))
    exact (hof i hi hi').2.symm.trans (clusterWeight_nil hb).2
  · intro hnone
    obtain ⟨weights, hpart, hweights⟩ := isInfix_mapM hclusters hblock
    rw [show (HTTPRule.http r rule).backends input = _ from
      ingestBackends_map (fun be : HTTPBackendRef => be.toBackendRef) rule.backendRefs] at hweights
    exact ⟨hroute, weights, hpart, forall₂_weightOf hweights hnone⟩

/-- The backends of a rule are a block of those of the group that its model route is in. -/
theorem Serves.backends_isInfix (hm : gatewayAPI input = .ok m) {secure : Bool} {h : String}
    {rule : HTTPRule} (hx : Serves input secure h rule x) : rule.backends input <:+:
      (groupAt (routesFor m secure h) x.getMatchKey).flatMap (·.backends) := by
  have hmem : x.sorted ∈ groupAt (routesFor m secure h) x.getMatchKey :=
    mem_groupAt.2 ⟨x, (mem_routesFor_iff_serves hm).2 ⟨rule, hx⟩, rfl, rfl⟩
  obtain ⟨l, s, _, hmakes, _⟩ := hx
  have hblock := isInfix_flatMap (fun y : Model.HTTPRoute => y.backends) hmem
  rwa [← hmakes.noEffects.1]

end

/-- The effects of a rule survive exactly when it has none: the filters of its backendRefs do
    not modify headers, and it has no timeout. -/
theorem effectsSurvive_iff {input : Input} {m : Model} (hm : gatewayAPI input = .ok m)
    {r : Gatewayv1.HTTPRoute} {rule : HTTPRouteRule} {secure : Bool} {h : String}
    {x : Model.HTTPRoute} (hx : Serves input secure h (.http r rule) x) {t : DefaultTranslator}
    {route : Envoy.Route} (hmerged : MergedInto t m secure h x (some route))
    {action : Envoy.RouteAction} (haction : route.action = .route action)
    {first : Model.HTTPRoute} {rest : List Model.HTTPRoute}
    (hgroup : groupAt (routesFor m secure h) x.getMatchKey = first :: rest) :
    EffectsSurvive input r rule first route action ↔
      (∀ be ∈ ruleRefs input r rule, backendOptions be = {}) ∧ ruleTimeout rule = none := by
  obtain ⟨first', rest', y, deleted, hgroup', hy, he⟩ := hmerged.exists_group
  obtain ⟨rfl, rfl⟩ := List.cons.inj (hgroup.symm.trans hgroup')
  obtain ⟨hforward, hoptions⟩ := envoyHTTPRoute_forwards he haction
  obtain ⟨htime, hspecifier⟩ := getRouteAction_spec hforward
  -- nothing of the model routes of the group reaches the action
  obtain ⟨hfilters, htimeout⟩ := noEffects_of_mem_groupAt hm (hgroup ▸ hy)
  have hfirst := (noEffects_of_mem_groupAt hm (hgroup ▸ mem_cons_self)).1
  rw [hfilters] at hspecifier
  rw [htimeout] at htime
  have hroute : route.toHeaderOptions =
      headerOptions first.requestHeaderFilter first.responseHeaderModifier := by
    rw [hoptions, groupHeaders, hfirst]
    exact ite_self _
  have hheaders : HeadersSurvive input r rule
      (headerOptions first.requestHeaderFilter first.responseHeaderModifier) route
      action.clusterSpecifier ↔ ∀ be ∈ ruleRefs input r rule, backendOptions be = {} := by
    rcases hspecifier with ⟨_, cluster, _, _, hcluster⟩ | ⟨_, clusters, hclusters, hweighted⟩
    · -- at the route there is no filter of the only backend
      rw [hcluster, HeadersSurvive, hroute]
      exact forall₂_congr fun be _ => eq_addOptions_iff
    · have hblock := hx.backends_isInfix hm
      rw [hgroup] at hblock
      exact hweighted ▸ headersSurvive_weightedClusters_iff hroute hclusters hblock
  have htimeouts : (∀ d, ruleTimeout rule = some d → action.timeout = some d) ↔
      ruleTimeout rule = none := by
    have hnone : action.timeout = none := htime
    rw [hnone, Option.eq_none_iff_forall_ne_some]
    exact forall_congr' fun d => imp_congr_right fun _ => by simp
  exact ⟨fun hsurvive => ⟨hheaders.1 hsurvive.headers, htimeouts.1 hsurvive.timeout⟩,
    fun hnone => ⟨hheaders.2 hnone.1, htimeouts.2 hnone.2⟩⟩

/-- A backendRef that is to have a header of its own. -/
def promoRef : HTTPBackendRef where
  name := "promo"
  port := some 80
  filters := [{ type := .requestHeaderModifier
                requestHeaderModifier := some { set := [⟨"x-env", "promo"⟩] } }]

/-- A rule with such a backendRef, for which requests are to take ten seconds at most. -/
def promoRule : HTTPRouteRule where
  backendRefs := [promoRef]
  timeouts := some { request := some 10 }

def plainRule : HTTPRouteRule where
  backendRefs := [{ name := "promo", port := some 80 }]

def promoRoute (rule : HTTPRouteRule) : Gatewayv1.HTTPRoute where
  name := "promo"
  ns := "team"
  parentRefs := [{ name := "gw", ns := some "infra", sectionName := some "web" }]
  hostnames := ["promo.shop.example"]
  rules := [rule]

def promoInput (rule : HTTPRouteRule) : Input where
  gateway := { name := "gw", ns := "infra", listeners := [shopListener] }
  httpRoutes := [promoRoute rule]
  services := [⟨"promo", "team"⟩]

def promoModelRoute : Model.HTTPRoute where
  hostnames := ["promo.shop.example"]
  backends := [⟨"promo", "team", some ⟨80, ""⟩, none⟩]

def promoEnvoyRoute : Envoy.Route where
  routeMatch := { pathSpecifier := .prefixed "/", headers := [], queryParameters := [] }
  action := .route { clusterSpecifier := .cluster "team:promo:80", maxStreamDuration := some 0 }

/-- The Envoy routes for the input. -/
def emittedRoutes (input : Input) : Result (List (Option Envoy.Route)) :=
  gatewayAPI input >>= fun m =>
    getEnvoyHTTPRouteConfiguration .reference shopTranslator m >>= fun rcs =>
      pure (rcs.flatMap fun rc => rc.virtualHosts.flatMap fun vh => vh.routes)

/-- The rule is served by an Envoy route without header options and without a timeout. -/
def PromoServed (rule : HTTPRouteRule) (m : Model) : Prop :=
  emittedRoutes (promoInput rule) = .ok [some promoEnvoyRoute] ∧
    gatewayAPI (promoInput rule) = .ok m ∧
    Serves (promoInput rule) false "promo.shop.example" (.http (promoRoute rule) rule)
      promoModelRoute ∧
    MergedInto shopTranslator m false "promo.shop.example" promoModelRoute
      (some promoEnvoyRoute) ∧
    groupAt (routesFor m false "promo.shop.example") promoModelRoute.getMatchKey = [promoModelRoute]

theorem promoServed_of_ingest {rule : HTTPRouteRule} {m : Model}
    (hemitted : emittedRoutes (promoInput rule) = .ok [some promoEnvoyRoute])
    (hm : gatewayAPI (promoInput rule) = .ok m)
    (hmade : (HTTPRule.http (promoRoute rule) rule).ingest (promoInput rule) shopListener =
      .ok [promoModelRoute])
    (hgroup : groupAt (routesFor m false "promo.shop.example") promoModelRoute.getMatchKey =
      [promoModelRoute]) : PromoServed rule m := by
  have hserves : Serves (promoInput rule) false "promo.shop.example"
      (.http (promoRoute rule) rule) promoModelRoute :=
    ⟨shopListener, gatewaySource (promoInput rule).gateway, mem_singleton_self _,
      ⟨⟨mem_singleton_self _, mem_singleton_self _⟩, ⟨rfl, rfl, cons_ne_nil _ _⟩, _, hmade,
        mem_singleton_self _⟩, rfl, by decide⟩
  have hmem := (mem_routesFor_iff_serves hm).2 ⟨_, hserves⟩
  exact ⟨hemitted, hm, hserves, ⟨hmem, _, hmem, rfl, _, _, true, hgroup, rfl⟩, hgroup⟩

theorem plainRule_served : ∃ m, PromoServed plainRule m :=
  ⟨_, promoServed_of_ingest rfl rfl rfl rfl⟩

theorem promoRule_served : ∃ m, PromoServed promoRule m :=
  ⟨_, promoServed_of_ingest rfl rfl rfl rfl⟩

/-- A rule without effects survives. -/
theorem effectsSurvive_plainRule :
    ∃ m action, PromoServed plainRule m ∧ promoEnvoyRoute.action = .route action ∧
      EffectsSurvive (promoInput plainRule) (promoRoute plainRule) plainRule promoModelRoute
        promoEnvoyRoute action := by
  obtain ⟨m, hserved⟩ := plainRule_served
  obtain ⟨_, hm, hserves, hmerged, hgroup⟩ := id hserved
  refine ⟨m, _, hserved, rfl, (effectsSurvive_iff hm hserves hmerged rfl hgroup).2 ⟨?_, rfl⟩⟩
  intro be hbe
  rw [ruleRefs, keptRefs] at hbe
  obtain rfl := mem_singleton.1 (mem_of_mem_filter hbe)
  rfl

/-- A rule with effects is served as if it had none. -/
theorem effects_lost :
    ∃ m action, PromoServed promoRule m ∧ promoEnvoyRoute.action = .route action ∧
      ruleRefs (promoInput promoRule) (promoRoute promoRule) promoRule = [promoRef] ∧
      (backendOptions promoRef).requestHeadersToAdd =
        [⟨"x-env", "promo", .overwriteIfExistsOrAdd⟩] ∧
      ruleTimeout promoRule = some 10 ∧ action.timeout = none ∧
      ¬ EffectsSurvive (promoInput promoRule) (promoRoute promoRule) promoRule promoModelRoute
        promoEnvoyRoute action := by
  obtain ⟨m, hserved⟩ := promoRule_served
  refine ⟨m, _, hserved, rfl, rfl, rfl, rfl, rfl, fun hsurvive => ?_⟩
  exact absurd (hsurvive.timeout 10 rfl) (Option.some_ne_none 10).symm

end Pipeline
