import Dolphin.Envoy.Requests
import Dolphin.Pipeline.FailClosed
import Dolphin.Translation.FilterChains

/-!
# Weights of backends

The backendRefs of a rule have weights, in proportion to which traffic is to be sent to them
(`ruleWeights`). Envoy gets them for HTTP only, as weighted clusters, and there only if there
are several backends: a single one gets everything, whatever its weight. TLS routes become one
filter chain for each backend and TCP routes one listener for the first backend; the weights
are left out.

What is sent where is in `Envoy.Requests`. For a rule that is alone in what it matches:

* `httpWeights_iff`: the weights are honoured unless the rule redirects, or its only backend
  has the weight zero;
* `tlsWeights_iff`, `tcpWeights_iff`: they are honoured when all of the weight is on the one
  cluster that gets the traffic.
-/

namespace Pipeline

open Gatewayv1 Ingestion Translation Go Model Selection List

variable {input : Input} {m : Model} {t : DefaultTranslator} {rule : L4RouteRule}

/-- The weight of a backendRef, which is one by default. -/
def refWeight (be : BackendRef) : ℕ := (be.weight.getD 1).toNat

/-- The clusters that traffic for a rule is to be sent to, by weight. -/
def ruleWeights (input : Input) (route : Route) (refs : List BackendRef) : List (String × ℕ) :=
  (keptRefs id input route refs).map fun be =>
    (clusterOf (backendToModelBackend be route.toCommonRoute.ns), refWeight be)

/-- Weights are not negative, and of type `int32`. -/
def AdmittedWeights (refs : List BackendRef) : Prop :=
  ∀ be ∈ refs, ∀ w, be.weight = some w → 0 ≤ w ∧ w < 2 ^ 31

theorem ingestBackends_eq_map (input : Input) (route : Route) (refs : List BackendRef) :
    ingestBackends route.ingestedKind route.toCommonRoute.ns input.services input.referenceGrants
      refs = (keptRefs id input route refs).map
        fun be => backendToModelBackend be route.toCommonRoute.ns :=
  (congrArg _ (map_id refs).symm).trans (ingestBackends_map id refs)

theorem map_fst_ruleWeights (input : Input) (route : Route) (refs : List BackendRef) :
    (ruleWeights input route refs).map Prod.fst = (ingestBackends route.ingestedKind
      route.toCommonRoute.ns input.services input.referenceGrants refs).map clusterOf := by
  rw [ingestBackends_eq_map, ruleWeights, map_map, map_map]
  rfl

/-! ## HTTP and GRPC routes -/

namespace HTTPRule

def kept (input : Input) (rule : HTTPRule) : List BackendRef :=
  keptRefs id input rule.route rule.backendRefs

def weights (input : Input) (rule : HTTPRule) : List (String × ℕ) :=
  ruleWeights input rule.route rule.backendRefs

end HTTPRule

/-- A redirect does not leave any weight aside, and the only backend of a match that is there
    once has a weight. -/
structure HTTPWeightsKept (input : Input) (m : Model) (secure : Bool) (h : String)
    (rule : HTTPRule) (x : Model.HTTPRoute) : Prop where
  redirect : rule.redirect.isSome = true → total (rule.weights input) = 0
  single : rule.redirect = none → (groupAt (routesFor m secure h) x.getMatchKey).length = 1 →
    ∀ be, rule.kept input = [be] → refWeight be ≠ 0

section

variable {rule : HTTPRule} {secure : Bool} {h : String} {x : Model.HTTPRoute}
  {e : Option Envoy.Route}

theorem weights_of_mapM {filters : List BackendHttpFilter} {backends : List Backend}
    {clusters : List Envoy.ClusterWeight}
    (h : backends.mapM (clusterWeight filters) = .ok clusters) :
    (clusters.map fun c => (c.name, c.weight)) =
      backends.map fun be => (clusterOf be, (be.weight.getD 1 % 2 ^ 32).toNat) := by
  induction mapM_eq_ok.1 h with
  | nil => rfl
  | @cons be c _ _ hhead hrest ih =>
    rw [map_cons, map_cons, ih (mapM_eq_ok.2 hrest)]
    obtain ⟨name, hname, hhead⟩ := bind_pure_eq_ok.1 hhead
    rw [← hhead, clusterOf_eq hname]

theorem HTTPRule.backends_eq_map (input : Input) (rule : HTTPRule) :
    rule.backends input = (rule.kept input).map
      fun be => backendToModelBackend be rule.route.toCommonRoute.ns :=
  ingestBackends_eq_map input rule.route rule.backendRefs

theorem map_weights_backends (hadm : AdmittedWeights (rule.kept input)) :
    ((rule.backends input).map fun be => (clusterOf be, (be.weight.getD 1 % 2 ^ 32).toNat)) =
      rule.weights input := by
  rw [rule.backends_eq_map, map_map]
  refine map_congr_left fun be hbe => Prod.ext rfl ?_
  change (be.weight.getD 1 % 2 ^ 32).toNat = (be.weight.getD 1).toNat
  cases hweight : be.weight with
  | none => rfl
  | some w =>
    obtain ⟨hnonneg, hlt⟩ := hadm be hbe w hweight
    rw [Option.getD_some, Int.emod_eq_of_lt hnonneg (by omega)]

/-- An action that forwards to the backends of a rule, which may be listed several times: only
    one backend that is listed once gets the traffic whatever its weight. -/
theorem proportional_getRouteAction {α : Type} {xs : List α} (hxs : xs ≠ [])
    (hadm : AdmittedWeights (rule.kept input)) {y : Model.HTTPRoute} {action : Envoy.RouteAction}
    (haction : getRouteAction y (xs.flatMap fun _ => rule.backends input) = .ok action) :
    Proportional action.clusterSpecifier.weights (rule.weights input) ↔
      (xs.length = 1 → ∀ be, rule.kept input = [be] → refWeight be ≠ 0) := by
  have hlengths : (xs.flatMap fun _ => rule.backends input).length =
      xs.length * (rule.kept input).length := by
    rw [length_flatMap, map_const', sum_replicate_nat, rule.backends_eq_map, length_map]
  obtain ⟨_, ⟨be, cluster, hone, hcluster, hspec⟩ | ⟨hne, clusters, hclusters, hspec⟩⟩ :=
    getRouteAction_spec haction
  · -- there is one backend, so that it is listed once
    have hproduct : xs.length * (rule.kept input).length = 1 := by
      rw [← hlengths, hone, length_singleton]
    obtain ⟨a, rfl⟩ := length_eq_one_iff.1 (Nat.eq_one_of_mul_eq_one_right hproduct)
    obtain ⟨ref, hkept⟩ := length_eq_one_iff.1 (Nat.eq_one_of_mul_eq_one_left hproduct)
    have hbe : [backendToModelBackend ref rule.route.toCommonRoute.ns] = [be] := by
      rw [← hone, flatMap_singleton, rule.backends_eq_map, hkept, map_singleton]
    have hweights : rule.weights input = [(cluster, refWeight ref)] := by
      rw [← clusterOf_eq hcluster, ← (List.cons.inj hbe).1, HTTPRule.weights, ruleWeights]
      exact congrArg (List.map _) hkept
    rw [hspec, Envoy.ClusterSpecifier.weights, hweights, proportional_single_iff, hkept]
    simp [weightAt]
  · -- listing everything several times does not matter
    refine iff_of_true ?_ fun hlength be hkept => absurd ?_ hne
    · rw [hspec, Envoy.ClusterSpecifier.weights, weights_of_mapM hclusters, map_flatMap,
        map_weights_backends hadm]
      exact proportional_flatMap_const hxs _
    · rw [hlengths, hlength, hkept, length_singleton]

/-- What the model routes of an unshared match have in common. -/
theorem Unshared.effects (hm : gatewayAPI input = .ok m)
    (hunshared : Unshared input secure h rule x) {y : Model.HTTPRoute}
    (hy : y ∈ groupAt (routesFor m secure h) x.getMatchKey) :
    y.backends = rule.backends input ∧ y.requestRedirect.isSome = rule.redirect.isSome := by
  obtain ⟨l, s, z, hmakes, rfl⟩ := hunshared.makes hm hy
  obtain ⟨fs, hsame, hredirect⟩ := hmakes.sameEffects
  refine ⟨congrArg Model.HTTPRoute.backends hsame, ?_⟩
  rw [← hredirect]
  exact congrArg (fun y : Model.HTTPRoute => y.requestRedirect.isSome) hsame

theorem httpWeights_iff (hm : gatewayAPI input = .ok m)
    (hunshared : Unshared input secure h rule x) (hadm : AdmittedWeights (rule.kept input))
    (he : MergedInto t m secure h x e) :
    Proportional (Envoy.Route.weights e) (rule.weights input) ↔
      HTTPWeightsKept input m secure h rule x := by
  obtain ⟨first, rest, y, deleted, hgroup, _, he⟩ := he.exists_group
  have heffects (z : Model.HTTPRoute) (hz : z ∈ first :: rest) := hunshared.effects hm (hgroup ▸ hz)
  have hredirect := (heffects first mem_cons_self).2
  have hbackends : (first :: rest).flatMap (·.backends) =
      (first :: rest).flatMap fun _ => rule.backends input :=
    flatMap_congr fun z hz => (heffects z hz).1
  rcases envoyHTTPRoute_cases he with ⟨hnil, hnone, rfl, _⟩ | ⟨_, action, haction, rfl, _⟩
  · -- a response, for want of backends
    have hkept : rule.kept input = [] := by
      rw [hbackends, flatMap_cons, append_eq_nil_iff, rule.backends_eq_map, map_eq_nil_iff] at hnil
      exact hnil.1
    have hweights : rule.weights input = [] := congrArg (List.map _) hkept
    have hresponse : Envoy.Route.weights
        (envoyHTTPRouteNoBackend first [h] t.hostNameSuffixMatch) = [] := by
      rw [envoyHTTPRouteNoBackend]
      cases first.directResponse <;> rfl
    rw [hresponse, hweights]
    refine iff_of_true (fun _ => rfl) ⟨fun _ => congrArg total hweights, fun _ _ be hbe => ?_⟩
    exact absurd (hkept.symm.trans hbe) (cons_ne_nil _ _).symm
  · rw [groupAction] at haction
    cases hfirst : first.requestRedirect with
    | some redirect =>
      have hsome : rule.redirect.isSome = true := by rw [← hredirect, hfirst]; rfl
      rw [hfirst] at haction
      obtain rfl := pure_eq_ok.1 haction
      refine proportional_nil_iff.trans ⟨fun hzero => ⟨fun _ => hzero, fun hnone => ?_⟩,
        fun hkept => hkept.redirect hsome⟩
      rw [hnone] at hsome
      exact absurd hsome Bool.false_ne_true
    | none =>
      have hnone : rule.redirect = none := by
        rw [hfirst] at hredirect
        exact Option.isNone_iff_eq_none.1 (Option.isSome_eq_false_iff.1 hredirect.symm)
      rw [hfirst] at haction
      obtain ⟨routeAction, hrouteAction, rfl⟩ := map_eq_ok.1 haction
      rw [hbackends] at hrouteAction
      refine (proportional_getRouteAction (cons_ne_nil _ _) hadm hrouteAction).trans ?_
      rw [← hgroup]
      refine ⟨fun hsingle => ⟨fun hsome => ?_, fun _ => hsingle⟩, fun hkept => hkept.single hnone⟩
      rw [hnone] at hsome
      exact absurd hsome Bool.false_ne_true

end

/-! ## TLS routes -/

/-- The rule of a TLSRoute serves the host name on some listener. -/
def ServesTLS (input : Input) (n : String) (r : Gatewayv1.TLSRoute) (rule : L4RouteRule) : Prop :=
  (r ∈ input.tlsRoutes ∧ rule ∈ r.rules) ∧ ∃ l s, (l, s) ∈ input.sourced ∧
    Reaches l s (.tls r) ∧ n ∈ computeHosts r.hostnames l.hostname

/-- No other rule of a TLSRoute serves the host name. -/
def UnsharedTLS (input : Input) (n : String) (r : Gatewayv1.TLSRoute) (rule : L4RouteRule) : Prop :=
  ∀ r' rule', ServesTLS input n r' rule' → r' = r ∧ rule' = rule

/-- A filter chain with these host names is for the server name. -/
def Covers (hosts : List String) (n : String) : Prop := n ∈ hosts ∨ hosts = [] ∧ n = "*"

/-- Of the clusters in `ws`, only `c` has a filter chain for the server name, and no certificate
    has one. -/
def OnlyChain (m : Model) (n : String) (ws : List (String × ℕ)) (c : String) : Prop :=
  (∀ secret hosts, (secret, hosts) ∈ certificates m → ¬ Covers (certificateHosts m secret) n) ∧
    ∀ c', (c' ∈ ws.map Prod.fst ∧ Covers (passthroughHosts m c') n) ↔ c' = c

/-- The one cluster that has a filter chain has all the weight, or there is no weight and no
    such cluster. -/
structure TLSWeightsKept (m : Model) (n : String) (ws : List (String × ℕ)) : Prop where
  only : ∀ c, OnlyChain m n ws c → total ws ≠ 0 ∧ weightAt ws c = total ws
  none : (∀ c, ¬ OnlyChain m n ws c) → total ws = 0

section

variable {n : String} {r : Gatewayv1.TLSRoute}

variable {slices : Slices} {hosts : List String} {statPrefix : String → String} {l : Envoy.Listener}

theorem lists_iff {chain : Envoy.FilterChain} (htls : chain.transportProtocol = "tls")
    (hnames : chain.serverNames = serverNames slices hosts) :
    chain.lists n = true ↔ Covers hosts n := by
  rw [Envoy.FilterChain.lists, htls, hnames]
  simp only [beq_self_eq_true, Bool.true_and, Bool.or_eq_true, contains_iff_mem,
    Bool.and_eq_true, List.isEmpty_iff, beq_iff_eq, Covers]
  rcases serverNames_cases slices hosts with ⟨hnil, hall⟩ | ⟨hne, ⟨h, hh, hstar⟩, hmem⟩
  · rw [hnil]
    constructor
    · intro hn
      obtain ⟨_, rfl⟩ : True ∧ n = "*" := by simpa using hn
      cases hosts with
      | nil => exact .inr ⟨rfl, rfl⟩
      | cons h hosts => exact .inl (hall h mem_cons_self ▸ mem_cons_self)
    · intro hn
      rcases hn with hn | hn
      · exact .inr ⟨rfl, hall n hn⟩
      · exact .inr ⟨rfl, hn.2⟩
  · have hnil : hosts ≠ [] := ne_nil_of_mem hh
    simp [hne, hmem, hnil]

/-- The clusters of TLS routes come from the rules of TLSRoutes. -/
theorem mem_passthroughs (hm : gatewayAPI input = .ok m) {c : String} :
    (c, hosts) ∈ passthroughs m ↔ ∃ l s r rule, (l, s) ∈ input.sourced ∧
      (r ∈ input.tlsRoutes ∧ rule ∈ r.rules) ∧ Reaches l s (.tls r) ∧
        c ∈ (ruleWeights input (.tls r) rule.backendRefs).map Prod.fst ∧
          hosts = routeHosts (computeHosts r.hostnames l.hostname) := by
  simp only [passthroughs, mem_flatMap, mem_map, map_fst_ruleWeights]
  constructor
  · intro h
    obtain ⟨tl, htl, y, hy, be, hbe, heq⟩ := h
    obtain ⟨rfl, rfl⟩ := Prod.mk.inj heq
    obtain ⟨l, s, r, hl, hyields⟩ := exists_yieldsTLS hm htl hy
    obtain ⟨hr, hreach, refs, hrefs, hmade⟩ := hyields.made hm hl
    obtain ⟨rule, hrule, rfl⟩ := mem_map.1 hrefs
    exact ⟨l, s, r, rule, hl, ⟨hr, hrule⟩, hreach, ⟨be, hmade.forwards ▸ hbe, rfl⟩, hmade.hosts⟩
  · intro h
    obtain ⟨l, s, r, rule, hl, ⟨hr, hrule⟩, hreach, ⟨be, hbe, rfl⟩, rfl⟩ := h
    obtain ⟨y, ⟨_, b, _, tl, _, htl, hblock, hy⟩, hmade⟩ :=
      exists_yields hm hl (show input.Has (.tls r) from hr) hreach (mem_map_of_mem hrule)
    refine ⟨tl, htl, y, hblock.subset hy, be, ?_, Prod.ext rfl hmade.hosts⟩
    exact (show y.backends = _ from hmade.forwards) ▸ hbe

theorem mem_of_mem_routeHosts (h : n ∈ routeHosts hosts) : n ∈ hosts := by
  rw [routeHosts] at h
  split_ifs at h
  · cases h
  · exact h

/-- Nothing is selected for a server name with a certificate, with several clusters, or with
    none. -/
theorem tlsWeights_eq_nil {ss : List TLSSecret} {cs : List String}
    (hfilter : l.filterChains.filter (·.lists n) =
      ss.map (certificateChain slices t m) ++ cs.map (passthroughChain slices m statPrefix))
    (h : ¬ ∃ c, ss = [] ∧ cs = [c]) : l.tlsWeights n = [] := by
  rw [Envoy.Listener.tlsWeights, hfilter]
  cases ss with
  | nil =>
    cases cs with
    | nil => rfl
    | cons c cs =>
      cases cs with
      | nil => exact absurd ⟨c, rfl, rfl⟩ h
      | cons c' cs => rfl
  | cons secret ss =>
    cases ss with
    | nil => cases cs <;> rfl
    | cons secret' ss => rfl

section

variable (hm : gatewayAPI input = .ok m) (hserves : ServesTLS input n r rule)
  (hunshared : UnsharedTLS input n r rule)

include hm hserves hunshared

theorem covered_iff {c : String} (hcovers : Covers (passthroughHosts m c) n) :
    (∃ hosts, (c, hosts) ∈ passthroughs m) ↔
      c ∈ (ruleWeights input (.tls r) rule.backendRefs).map Prod.fst := by
  constructor
  · intro h
    -- some TLS route to the cluster is for the server name, and made from the rule
    have hmade : ∃ l s r' rule', (l, s) ∈ input.sourced ∧
        (r' ∈ input.tlsRoutes ∧ rule' ∈ r'.rules) ∧ Reaches l s (.tls r') ∧
          c ∈ (ruleWeights input (.tls r') rule'.backendRefs).map Prod.fst ∧
            n ∈ computeHosts r'.hostnames l.hostname := by
      rcases hcovers with hn | ⟨hnil, rfl⟩
      · obtain ⟨⟨c', hosts⟩, hmem, hn⟩ := mem_flatMap.1 hn
        obtain ⟨hpair, heq⟩ := mem_filter.1 hmem
        obtain rfl : c' = c := of_decide_eq_true heq
        obtain ⟨l, s, r', rule', hl, hr, hreach, hc, rfl⟩ := (mem_passthroughs hm).1 hpair
        exact ⟨l, s, r', rule', hl, hr, hreach, hc, mem_of_mem_routeHosts hn⟩
      · obtain ⟨hosts, hmem⟩ := h
        have hhosts : hosts = [] :=
          flatMap_eq_nil_iff.1 hnil (c, hosts) (mem_filter.2 ⟨hmem, decide_eq_true rfl⟩)
        obtain ⟨l, s, r', rule', hl, hr, hreach, hc, hnil⟩ := (mem_passthroughs hm).1 hmem
        refine ⟨l, s, r', rule', hl, hr, hreach, hc, ?_⟩
        rw [hhosts, routeHosts] at hnil
        split_ifs at hnil with hall
        · rw [hall]
          exact mem_singleton_self _
        · exact absurd hnil.symm hreach.2.2
    obtain ⟨l, s, r', rule', hl, hr, hreach, hc, hn⟩ := hmade
    obtain ⟨rfl, rfl⟩ := hunshared r' rule' ⟨hr, l, s, hl, hreach, hn⟩
    exact hc
  · intro hc
    obtain ⟨hr, l, s, hl, hreach, _⟩ := hserves
    exact ⟨_, (mem_passthroughs hm).2 ⟨l, s, r, rule, hl, hr, hreach, hc, rfl⟩⟩

theorem tlsWeights_iff {orders : ListenerOrders} {rs : List Envoy.XDSResource}
    (hrs : getListener slices orders t m = .ok rs) (hl : .listener l ∈ rs) :
    Proportional (l.tlsWeights n) (ruleWeights input (.tls r) rule.backendRefs) ↔
      TLSWeightsKept m n (ruleWeights input (.tls r) rule.backendRefs) := by
  rcases getListener_cases hrs with ⟨_, _, rfl⟩ | ⟨_, l', secrets, clusters, rfl, hof⟩
  · cases hl
  obtain rfl := Envoy.XDSResource.listener.inj (mem_singleton.1 hl)
  obtain ⟨statPrefix, hfilters⟩ := hof.filter_eq
  have hsecret (secret : TLSSecret) :
      (certificateChain slices t m secret).lists n = true ↔ Covers (certificateHosts m secret) n :=
    lists_iff rfl rfl
  have hcluster (c : String) : (passthroughChain slices m statPrefix c).lists n = true ↔
      Covers (passthroughHosts m c) n :=
    lists_iff rfl rfl
  -- what the two kinds of chains say about the clusters of the rule
  have hnone : (secrets.filter fun s => (certificateChain slices t m s).lists n) = [] ↔
      ∀ secret hosts, (secret, hosts) ∈ certificates m →
        ¬ Covers (certificateHosts m secret) n := by
    simp only [filter_eq_nil_iff, hof.secretKeys.mem_iff, hsecret, forall_exists_index]
  have hmem (c : String) :
      c ∈ (clusters.filter fun c => (passthroughChain slices m statPrefix c).lists n) ↔
        c ∈ (ruleWeights input (.tls r) rule.backendRefs).map Prod.fst ∧
          Covers (passthroughHosts m c) n := by
    rw [mem_filter, hcluster, hof.clusterKeys.mem_iff]
    exact and_congr_left fun hcovers => covered_iff hm hserves hunshared hcovers
  have hnodup := hof.clusterKeys.nodup.filter
    fun c => (passthroughChain slices m statPrefix c).lists n
  have hfilter : l.filterChains.filter (·.lists n) = _ := hfilters _ rfl
  generalize (secrets.filter fun s => (certificateChain slices t m s).lists n) = ss
    at hnone hfilter
  generalize (clusters.filter fun c => (passthroughChain slices m statPrefix c).lists n) = cs
    at hmem hnodup hfilter
  have honly (c : String) : OnlyChain m n (ruleWeights input (.tls r) rule.backendRefs) c ↔
      ss = [] ∧ cs = [c] := by
    rw [OnlyChain, ← hnone, ← perm_singleton, perm_ext_iff_of_nodup hnodup (nodup_singleton c)]
    simp only [hmem, mem_singleton]
  by_cases hsole : ∃ c, ss = [] ∧ cs = [c]
  · obtain ⟨c, rfl, rfl⟩ := hsole
    rw [Envoy.Listener.tlsWeights, hfilter]
    refine proportional_single_iff.trans ⟨fun hall => ⟨fun c' hc' => ?_, fun hno => ?_⟩,
      fun hkept => hkept.only c ((honly c).2 ⟨rfl, rfl⟩)⟩
    · obtain rfl := (List.cons.inj ((honly c').1 hc').2).1
      exact hall
    · exact absurd ((honly c).2 ⟨rfl, rfl⟩) (hno c)
  · have hno (c : String) : ¬ OnlyChain m n (ruleWeights input (.tls r) rule.backendRefs) c :=
      fun hc => hsole ⟨c, (honly c).1 hc⟩
    rw [tlsWeights_eq_nil hfilter hsole]
    exact proportional_nil_iff.trans ⟨fun hzero => ⟨fun c hc => absurd hc (hno c), fun _ => hzero⟩,
      fun hkept => hkept.none hno⟩

end

end

/-! ## TCP routes -/

/-- No other rule of a TCPRoute reaches the listener. -/
def UnsharedTCP (input : Input) (l : Listener) (s : FullyQualifiedResource)
    (r : Gatewayv1.TCPRoute) (rule : L4RouteRule) : Prop :=
  ∀ r' rule', r' ∈ input.tcpRoutes → rule' ∈ r'.rules → Reaches l s (.tcp r') →
    r' = r ∧ rule' = rule

/-- The TCP listener of the model that is made for a listener. -/
def tcpListenerFor (input : Input) (l : Listener) (s : FullyQualifiedResource) : L4Listener :=
  toL4Listener input l s (toTCPRoutes l input.tcpRoutes input.services input.referenceGrants)

/-- The clusters for connections to what is emitted for a TCP listener of the model. -/
def tcpWeights (l : L4Listener) : List (String × ℕ) :=
  (getTCPRouteListeners { tcp := [l] }).flatMap fun r =>
    match r with
    | .listener l => l.weights
    | _ => []

/-- The cluster of the first backend has all the weight. -/
def TCPWeightsKept (ws : List (String × ℕ)) : Prop :=
  ∀ c w rest, ws = (c, w) :: rest → total ws ≠ 0 ∧ weightAt ws c = total ws

section

variable {l : Listener} {s : FullyQualifiedResource} {r : Gatewayv1.TCPRoute}

theorem getTCPRouteListeners_eq (m : Model) :
    getTCPRouteListeners m = m.tcp.flatMap fun l => getTCPRouteListeners { tcp := [l] } := by
  simp only [getTCPRouteListeners, ← map_flatMap]
  congr 1
  induction m.tcp with
  | nil => rfl
  | cons l ls ih => rw [flatMap_cons, ← ih, ← filter_append, singleton_append]

theorem tcpListenerFor_emitted (hm : gatewayAPI input = .ok m) (hl : (l, s) ∈ input.sourced)
    (htcp : l.protocol = .tcp) :
    getTCPRouteListeners { tcp := [tcpListenerFor input l s] } <:+: getTCPRouteListeners m := by
  obtain ⟨b, hb⟩ := exists_block hm hl
  have hmem := (mem_tcp hm).2 ⟨_, hl, b, hb, (mem_block_tcp hb).2 ⟨htcp, rfl⟩⟩
  rw [getTCPRouteListeners_eq m]
  exact isInfix_flatMap (fun l => getTCPRouteListeners { tcp := [l] }) hmem

theorem tcpWeights_eq (l : L4Listener) :
    tcpWeights l = if tcpCluster l = "" then [] else [(tcpCluster l, 1)] := by
  rw [tcpWeights, getTCPRouteListeners]
  split_ifs with hnone
  · rw [filter_cons_of_neg (by simpa using hnone)]
    rfl
  · rw [filter_cons_of_pos (by simpa using hnone)]
    rfl

/-- The cluster of a TCP listener whose routes all have the same backends. -/
theorem tcpCluster_of_const {l : L4Listener} {backends : List Backend} (hne : l.routes ≠ [])
    (hall : ∀ y ∈ l.routes, y = ⟨backends⟩) :
    tcpCluster l = (backends.head?.map clusterOf).getD "" := by
  have hfirst : firstBackend l = backends.head? := by
    cases backends with
    | nil =>
      have hnil : (l.routes.flatMap (·.backends)) = [] :=
        flatMap_eq_nil_iff.2 fun y hy => congrArg L4Route.backends (hall y hy)
      rw [firstBackend, hnil]
    | cons be backends =>
      obtain ⟨y, ys, hroutes⟩ := exists_cons_of_ne_nil hne
      rw [firstBackend, hroutes, flatMap_cons, hall y (hroutes ▸ mem_cons_self)]
      rfl
  rw [tcpCluster_eq, hfirst]
  cases backends.head? <;> rfl

theorem servicePort_of_kept {route : Route} {refs : List BackendRef} {be : BackendRef}
    (h : be ∈ keptRefs id input route refs) :
    ∃ sp, servicePort (backendToModelBackend be route.toCommonRoute.ns) = some sp := by
  obtain ⟨b, hb⟩ := Option.isSome_iff_exists.1 (mem_filter.1 h).2
  rw [← Option.isSome_iff_exists, servicePort, Option.isSome_map]
  exact Option.isSome_map.trans (ingestBackend_eq_some.1 hb).1.port

variable (hreach : Reaches l s (.tcp r)) (hr : r ∈ input.tcpRoutes) (hrule : rule ∈ r.rules)
  (hunshared : UnsharedTCP input l s r rule)

include hreach hr hrule hunshared

theorem routes_of_unsharedTCP :
    (tcpListenerFor input l s).routes ≠ [] ∧ ∀ y ∈ (tcpListenerFor input l s).routes,
      y = ⟨(keptRefs id input (.tcp r) rule.backendRefs).map
        fun be => backendToModelBackend be r.ns⟩ := by
  constructor
  · obtain ⟨y, hy, _⟩ := ingestL4Route_block.of_rule hreach.2 rule hrule
    exact ne_nil_of_mem (mem_flatMap.2 ⟨r, hr, hy⟩)
  · intro y hy
    obtain ⟨r', hr', hy⟩ := mem_flatMap.1 hy
    obtain ⟨rule', hrule', rfl⟩ := ingestL4Route_block.from_rule y hy
    obtain ⟨rfl, rfl⟩ := hunshared r' rule' hr' hrule'
      ⟨hreach.1, ingestL4Route_block.attached_of_mem _ hy⟩
    exact congrArg L4Route.mk (ingestBackends_eq_map input (.tcp r') rule'.backendRefs)

theorem tcpWeights_iff : Proportional (tcpWeights (tcpListenerFor input l s))
        (ruleWeights input (.tcp r) rule.backendRefs) ↔
      TCPWeightsKept (ruleWeights input (.tcp r) rule.backendRefs) := by
  obtain ⟨hne, hall⟩ := routes_of_unsharedTCP hreach hr hrule hunshared
  rw [tcpWeights_eq, tcpCluster_of_const hne hall, ruleWeights]
  cases hkept : keptRefs id input (.tcp r) rule.backendRefs with
  | nil =>
    refine iff_of_true (fun _ => rfl) fun c w rest heq => ?_
    exact absurd heq (cons_ne_nil _ _).symm
  | cons be refs =>
    obtain ⟨sp, hsp⟩ := servicePort_of_kept (hkept ▸ mem_cons_self)
    have hcluster : clusterOf (backendToModelBackend be r.ns) = sp.clusterName :=
      clusterOf_eq (backendCluster_eq_ok.2 ⟨sp, hsp, rfl⟩)
    rw [map_cons, head?_cons, Option.map_some, Option.getD_some,
      if_neg (hcluster ▸ clusterName_ne_empty sp)]
    refine proportional_single_iff.trans ⟨fun hall c w rest heq => ?_, fun hkept => hkept _ _ _ rfl⟩
    rw [← (Prod.mk.inj (List.cons.inj heq).1).1]
    exact hall

end

/-- When the weights of rules that are alone in what they match are honoured, by protocol. -/
theorem weightsHonoured_iff {input : Input} {m : Model} (hm : gatewayAPI input = .ok m)
    (slices : Slices) (orders : ListenerOrders) (t : DefaultTranslator) :
    (∀ (rule : HTTPRule) (secure : Bool) (h : String) (x : Model.HTTPRoute)
      (e : Option Envoy.Route), Serves input secure h rule x → Unshared input secure h rule x →
        AdmittedWeights (rule.kept input) → MergedInto t m secure h x e →
          (Proportional (Envoy.Route.weights e) (rule.weights input) ↔
            HTTPWeightsKept input m secure h rule x)) ∧
    (∀ (n : String) (r : Gatewayv1.TLSRoute) (rule : L4RouteRule) (rs : List Envoy.XDSResource)
      (l : Envoy.Listener), ServesTLS input n r rule → UnsharedTLS input n r rule →
        getListener slices orders t m = .ok rs → .listener l ∈ rs →
          (Proportional (l.tlsWeights n) (ruleWeights input (.tls r) rule.backendRefs) ↔
            TLSWeightsKept m n (ruleWeights input (.tls r) rule.backendRefs))) ∧
    ∀ (l : Listener) (s : FullyQualifiedResource) (r : Gatewayv1.TCPRoute) (rule : L4RouteRule),
      (l, s) ∈ input.sourced → r ∈ input.tcpRoutes → rule ∈ r.rules → Reaches l s (.tcp r) →
        UnsharedTCP input l s r rule →
          getTCPRouteListeners { tcp := [tcpListenerFor input l s] } <:+: getTCPRouteListeners m ∧
          (Proportional (tcpWeights (tcpListenerFor input l s))
              (ruleWeights input (.tcp r) rule.backendRefs) ↔
            TCPWeightsKept (ruleWeights input (.tcp r) rule.backendRefs)) := by
  refine ⟨?_, ?_, ?_⟩
  · intro rule secure h x e _ hunshared hadm he
    exact httpWeights_iff hm hunshared hadm he
  · intro n r rule rs l hserves hunshared hrs hl
    exact tlsWeights_iff hm hserves hunshared hrs hl
  · intro l s r rule hl hr hrule hreach hunshared
    exact ⟨tcpListenerFor_emitted hm hl hreach.1, tcpWeights_iff hreach hr hrule hunshared⟩

/-! ## A Gateway for HTTP, TLS and TCP -/

def backendRef (name : String) (weight : Int) : BackendRef :=
  { name := name, port := some 80, weight := some weight }

def parentSection (name : String) : ParentReference :=
  { name := "gw", ns := some "infra", sectionName := some name }

def splitRule (refs : List BackendRef) : HTTPRouteRule where
  backendRefs := refs.map fun be => { toBackendRef := be }

def splitRoute (refs : List BackendRef) : Gatewayv1.HTTPRoute where
  name := "split"
  ns := "team"
  parentRefs := [parentSection "web"]
  hostnames := ["split.shop.example"]
  rules := [splitRule refs]

def splitTLSRoute (refs : List BackendRef) : Gatewayv1.TLSRoute where
  name := "split"
  ns := "team"
  parentRefs := [parentSection "sni"]
  hostnames := ["split.shop.example"]
  rules := [⟨refs⟩]

def splitTCPRoute (refs : List BackendRef) : Gatewayv1.TCPRoute where
  name := "split"
  ns := "team"
  parentRefs := [parentSection "db"]
  rules := [⟨refs⟩]

def sniListener : Listener where
  name := "sni"
  port := 8443
  protocol := .tls

def dbListener : Listener where
  name := "db"
  port := 5432
  protocol := .tcp

/-- One route of each kind, with its own listener. -/
def splitInput (http tls tcp : List BackendRef) : Input where
  gateway := { name := "gw", ns := "infra", listeners := [shopListener, sniListener, dbListener] }
  httpRoutes := [splitRoute http]
  tlsRoutes := [splitTLSRoute tls]
  tcpRoutes := [splitTCPRoute tcp]
  services := [⟨"old", "team"⟩, ⟨"new", "team"⟩]

def splitHTTPRule (refs : List BackendRef) : HTTPRule := .http (splitRoute refs) (splitRule refs)

def splitModelRoute (backends : List Backend) : Model.HTTPRoute where
  hostnames := ["split.shop.example"]
  backends := backends

/-- An Envoy route for all paths that forwards to several clusters or one. -/
def splitEnvoyRoute (specifier : Envoy.ClusterSpecifier) (maxStreamDuration : Option Nat) :
    Envoy.Route where
  routeMatch := { pathSpecifier := .prefixed "/", headers := [], queryParameters := [] }
  action := .route { clusterSpecifier := specifier, maxStreamDuration := maxStreamDuration }

section

variable (http tls tcp : List BackendRef)

theorem splitInput_unshared (x : Model.HTTPRoute) :
    Unshared (splitInput http tls tcp) false "split.shop.example" (splitHTTPRule http) x := by
  intro rule y hserves _
  obtain ⟨l, s, _, hmakes, _, _⟩ := hserves
  cases rule with
  | http r rule =>
    obtain rfl := mem_singleton.1 hmakes.mem.1
    obtain rfl := mem_singleton.1 hmakes.mem.2
    rfl
  | grpc r rule => exact absurd hmakes.mem.1 not_mem_nil

theorem splitInput_merged (backends : List Backend) (e : Option Envoy.Route)
    (hm : gatewayAPI (splitInput http tls tcp) = .ok m)
    (hmade : (splitHTTPRule http).ingest (splitInput http tls tcp) shopListener =
      .ok [splitModelRoute backends])
    (hgroup : groupAt (routesFor m false "split.shop.example")
      (splitModelRoute backends).getMatchKey = [splitModelRoute backends])
    (he : envoyHTTPRoute ["split.shop.example"] true (firstPort m) (splitModelRoute backends) []
      (splitModelRoute backends) = .ok (e, true)) :
    Serves (splitInput http tls tcp) false "split.shop.example" (splitHTTPRule http)
        (splitModelRoute backends) ∧
      MergedInto shopTranslator m false "split.shop.example" (splitModelRoute backends) e := by
  have hserves : Serves (splitInput http tls tcp) false "split.shop.example" (splitHTTPRule http)
      (splitModelRoute backends) :=
    ⟨shopListener, gatewaySource (splitInput http tls tcp).gateway, mem_cons_self,
      ⟨⟨mem_singleton_self _, mem_singleton_self _⟩,
        ⟨rfl, rfl, cons_ne_nil _ _⟩, _, hmade, mem_singleton_self _⟩, rfl,
      mem_singleton_self _⟩
  have hmem := (mem_routesFor_iff_serves hm).2 ⟨_, hserves⟩
  exact ⟨hserves, hmem, _, hmem, rfl, _, _, true, hgroup, he⟩

theorem splitInput_servesTLS :
    ServesTLS (splitInput http tls tcp) "split.shop.example" (splitTLSRoute tls) ⟨tls⟩ ∧
      UnsharedTLS (splitInput http tls tcp) "split.shop.example" (splitTLSRoute tls) ⟨tls⟩ := by
  refine ⟨⟨⟨mem_singleton_self _, mem_singleton_self _⟩, sniListener,
    gatewaySource (splitInput http tls tcp).gateway, by simp [Input.sourced, splitInput],
    ⟨rfl, rfl, cons_ne_nil _ _⟩, mem_singleton_self _⟩, ?_⟩
  intro r rule hserves
  obtain rfl := mem_singleton.1 hserves.1.1
  exact ⟨rfl, mem_singleton.1 hserves.1.2⟩

theorem splitInput_unsharedTCP : UnsharedTCP (splitInput http tls tcp) dbListener
      (gatewaySource (splitInput http tls tcp).gateway) (splitTCPRoute tcp) ⟨tcp⟩ := by
  intro r rule hr hrule _
  obtain rfl := mem_singleton.1 hr
  exact ⟨rfl, mem_singleton.1 hrule⟩

end

/-- Weights that are all where the traffic is sent to. -/
def evenInput : Input :=
  splitInput [backendRef "old" 3, backendRef "new" 1] [backendRef "old" 1]
    [backendRef "old" 1, backendRef "new" 0]

def evenRule : HTTPRule := splitHTTPRule [backendRef "old" 3, backendRef "new" 1]

def evenModelRoute : Model.HTTPRoute :=
  splitModelRoute [⟨"old", "team", some ⟨80, ""⟩, some 3⟩, ⟨"new", "team", some ⟨80, ""⟩, some 1⟩]

def evenEnvoyRoute : Envoy.Route :=
  splitEnvoyRoute (.weightedClusters [⟨{}, "team:old:80", 3⟩, ⟨{}, "team:new:80", 1⟩]) none

theorem evenInput_httpKept (m : Model) : AdmittedWeights (evenRule.kept evenInput) ∧
      HTTPWeightsKept evenInput m false "split.shop.example" evenRule evenModelRoute := by
  have hkept : evenRule.kept evenInput = [backendRef "old" 3, backendRef "new" 1] := rfl
  refine ⟨?_, fun h => absurd h Bool.false_ne_true, ?_⟩
  · simp [AdmittedWeights, hkept, backendRef]
  · simp [hkept]

theorem evenInput_tlsKept (hcertificates : certificates m = [])
    (hpassthroughs : passthroughs m = [("team:old:80", ["split.shop.example"])]) :
    TLSWeightsKept m "split.shop.example" [("team:old:80", 1)] := by
  have honly : OnlyChain m "split.shop.example" [("team:old:80", 1)] "team:old:80" := by
    simp +contextual [OnlyChain, hcertificates, passthroughHosts, hpassthroughs, Covers]
  refine ⟨fun c hc => ?_, fun hno => absurd honly (hno _)⟩
  rw [(honly.2 c).1 ((hc.2 c).2 rfl)]
  decide

theorem evenInput_tcpKept : TCPWeightsKept [("team:old:80", 1), ("team:new:80", 0)] := by
  intro c w rest heq
  obtain ⟨rfl, _⟩ := Prod.mk.inj (List.cons.inj heq).1
  decide

/-- The weights are honoured for all three protocols. -/
theorem weightsHonoured_evenInput :
    ∃ m l, gatewayAPI evenInput = .ok m ∧
      MergedInto shopTranslator m false "split.shop.example" evenModelRoute
        (some evenEnvoyRoute) ∧
      Proportional (Envoy.Route.weights (some evenEnvoyRoute)) (evenRule.weights evenInput) ∧
      getListener .reference RangeOrders.entries.listener shopTranslator m = .ok [.listener l] ∧
      Proportional (l.tlsWeights "split.shop.example") [("team:old:80", 1)] ∧
      Proportional (tcpWeights (tcpListenerFor evenInput dbListener
        (gatewaySource evenInput.gateway))) [("team:old:80", 1), ("team:new:80", 0)] := by
  have hm : gatewayAPI evenInput = .ok _ := rfl
  obtain ⟨hserves, hmerged⟩ := splitInput_merged _ _ _
    [⟨"old", "team", some ⟨80, ""⟩, some 3⟩, ⟨"new", "team", some ⟨80, ""⟩, some 1⟩]
    (some evenEnvoyRoute) hm rfl rfl rfl
  obtain ⟨hhttp, htls, htcp⟩ :=
    weightsHonoured_iff hm .reference RangeOrders.entries.listener shopTranslator
  obtain ⟨hadm, hkept⟩ := evenInput_httpKept _
  obtain ⟨hservesTLS, hunsharedTLS⟩ := splitInput_servesTLS
    [backendRef "old" 3, backendRef "new" 1] [backendRef "old" 1]
    [backendRef "old" 1, backendRef "new" 0]
  refine ⟨_, _, hm, hmerged, ?_, rfl, ?_, ?_⟩
  · exact (hhttp _ _ _ _ _ hserves (splitInput_unshared _ _ _ _) hadm hmerged).2 hkept
  · exact (htls _ _ _ _ _ hservesTLS hunsharedTLS rfl (mem_singleton_self _)).2
      (evenInput_tlsKept rfl rfl)
  · exact (htcp dbListener _ _ _ (by decide) (mem_singleton_self _)
      (mem_singleton_self _) ⟨rfl, rfl⟩ (splitInput_unsharedTCP _ _ _)).2.2 evenInput_tcpKept

/-- An only backend without weight, two backends for TLS, and a first backend for TCP without
    weight. -/
def unevenInput : Input :=
  splitInput [backendRef "old" 0] [backendRef "old" 1, backendRef "new" 1]
    [backendRef "old" 0, backendRef "new" 1]

def unevenRule : HTTPRule := splitHTTPRule [backendRef "old" 0]

def unevenModelRoute : Model.HTTPRoute := splitModelRoute [⟨"old", "team", some ⟨80, ""⟩, some 0⟩]

def unevenEnvoyRoute : Envoy.Route := splitEnvoyRoute (.cluster "team:old:80") (some 0)

/-- Backends without weight get all the traffic for HTTP and TCP, and two backends for TLS get
    none. -/
theorem weights_not_honoured :
    ∃ m l, gatewayAPI unevenInput = .ok m ∧
      Serves unevenInput false "split.shop.example" unevenRule unevenModelRoute ∧
      Unshared unevenInput false "split.shop.example" unevenRule unevenModelRoute ∧
      MergedInto shopTranslator m false "split.shop.example" unevenModelRoute
        (some unevenEnvoyRoute) ∧
      unevenRule.weights unevenInput = [("team:old:80", 0)] ∧
      ¬ Proportional (Envoy.Route.weights (some unevenEnvoyRoute)) [("team:old:80", 0)] ∧
      getListener .reference RangeOrders.entries.listener shopTranslator m = .ok [.listener l] ∧
      ruleWeights unevenInput (.tls (splitTLSRoute [backendRef "old" 1, backendRef "new" 1]))
        [backendRef "old" 1, backendRef "new" 1] = [("team:old:80", 1), ("team:new:80", 1)] ∧
      ¬ Proportional (l.tlsWeights "split.shop.example")
        [("team:old:80", 1), ("team:new:80", 1)] ∧
      ruleWeights unevenInput (.tcp (splitTCPRoute [backendRef "old" 0, backendRef "new" 1]))
        [backendRef "old" 0, backendRef "new" 1] = [("team:old:80", 0), ("team:new:80", 1)] ∧
      ¬ Proportional (tcpWeights (tcpListenerFor unevenInput dbListener
        (gatewaySource unevenInput.gateway))) [("team:old:80", 0), ("team:new:80", 1)] := by
  have hmerged := splitInput_merged [backendRef "old" 0] [backendRef "old" 1, backendRef "new" 1]
    [backendRef "old" 0, backendRef "new" 1] [⟨"old", "team", some ⟨80, ""⟩, some 0⟩]
    (some unevenEnvoyRoute) rfl rfl rfl rfl
  refine ⟨_, _, rfl, hmerged.1, splitInput_unshared _ _ _ _, hmerged.2, rfl, ?_, rfl, rfl, ?_, rfl,
    ?_⟩
  · intro h
    exact absurd (proportional_single_iff.1 h).1 (by decide)
  · intro h
    exact absurd (proportional_nil_iff.1 h) (by decide)
  · intro h
    exact absurd (proportional_single_iff.1 h).2 (by decide)

end Pipeline
