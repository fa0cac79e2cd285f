import Dolphin.IngressController.Tenancy
import Dolphin.Translation.FilterChains

/-!
# Passthrough by host

An Ingress with passthrough is to send the connections with TLS for the host of a rule to the
backend of its path `/`, and no others (`RoutedByHost`). But its model has routes without host
names, and so the filter chain to a backend has no server names: it takes every connection.

* `sharedModel_eq_passthroughModel`, `ingest_eq_passthroughModel`: what the Ingresses are translated
  from in both modes;
* `chain_of_passthroughModel`: all filter chains are like this;
* `routedByHost_iff`: so the Ingresses are routed by host only if they pass nothing through.
-/

namespace IngressController

open Model Go Networkingv1 Annotations Ingestion Translation Envoy Gatewayv1 List

/-- The hosts of the rules with a path `/`, each with the Service of the path. -/
def passthroughRules (ing : Ingress) : List (String × IngressServiceBackend) :=
  (ing.rules.filter fun rule => rule.host ≠ "").flatMap fun rule =>
    ((rule.http.getD []).filter fun path => path.path = "/").filterMap fun path =>
      path.backend.service.map fun service => (rule.host, service)

/-- The model of Ingresses with passthrough. -/
def passthroughModel (ings : List Ingress) : Result Model := do
  let blocks ← ings.mapM ingressPassthrough
  pure { tls := blocks.flatten }

/-- The connections for a host are passed to its backends, and those for no host are not. -/
structure RoutedByHost (ings : List Ingress) (resources : List XDSResource) : Prop where
  routed : ∀ ing ∈ ings, ∀ p ∈ passthroughRules ing, ∃ l : Envoy.Listener,
    .listener l ∈ resources ∧ ∃ chain ∈ l.filterChains, chain.transportProtocol = "tls" ∧
        (∃ statPrefix, chain.filter = .tcpProxy statPrefix (clusterOf (backendOf ing p.2))) ∧
        p.1 ∈ chain.serverNames
  refused : ∀ n, (∀ ing ∈ ings, ∀ p ∈ passthroughRules ing, serverNameMatches p.1 n = false) →
    ∀ l : Envoy.Listener, .listener l ∈ resources → ∀ chain ∈ l.filterChains, ∀ statPrefix cluster,
      chain.filter = .tcpProxy statPrefix cluster → chain.admits n = false

section

variable {r : IngressReconciler} {dolphinClass : Option IngressClass} {ings : List Ingress}
  {ing : Ingress} {m : Model}

/-! ## The model -/

theorem ingest_eq_passthroughModel (ports : Nat × Nat × Nat)
    (hpass : getAnnotationTLSPassthroughEnabled ing = true) :
    r.ingest ports ing = passthroughModel [ing] := by
  rw [IngressReconciler.ingest, if_pos hpass, passthroughModel, mapM_cons, mapM_nil]
  cases ingressPassthrough ing with
  | error e => rfl
  | ok ls => exact congrArg Except.ok (by simp)

/-- Ingresses in shared mode are translated to this model, in their order. -/
theorem sharedModel_eq_passthroughModel
    (h : ∀ ing ∈ ings, Shares r dolphinClass ing ∧ getAnnotationTLSPassthroughEnabled ing = true) :
    r.sharedModel dolphinClass ings = passthroughModel (sortIngresses ings) := by
  have hblock (ing : Ingress) (hing : ing ∈ sortIngresses ings) : r.ingestShared dolphinClass ing =
        (ingressPassthrough ing >>= fun ls => pure { tls := ls }) := by
    obtain ⟨hshares, hpass⟩ := h ing (mem_sortIngresses.1 hing)
    rw [IngressReconciler.ingestShared, hshares.managed, IngressReconciler.ingest, if_pos hpass,
      hshares.mode, hshares.present]
    rfl
  rw [IngressReconciler.sharedModel, mapM_congr hblock, mapM_bind_pure, passthroughModel]
  cases (sortIngresses ings).mapM ingressPassthrough with
  | error e => rfl
  | ok blocks =>
    have hhttp : (blocks.map fun ls => ({ tls := ls } : Model)).flatMap (·.http) = [] := by
      simp [flatMap_map]
    have htls : (blocks.map fun ls => ({ tls := ls } : Model)).flatMap (·.tls) = blocks.flatten := by
      rw [flatMap_map, flatMap_id']
    change Except.ok _ = Except.ok _
    rw [hhttp, htls]

theorem passthroughModel_eq_ok (h : passthroughModel ings = .ok m) :
    m.http = [] ∧ m.tcp = [] ∧ ∀ l, l ∈ m.tls ↔ ∃ ing ∈ ings, ∃ ls,
      ingressPassthrough ing = .ok ls ∧ l ∈ ls := by
  obtain ⟨blocks, hblocks, rfl⟩ := bind_pure_eq_ok.1 h
  refine ⟨rfl, rfl, fun l => ?_⟩
  simp only [mem_flatten, mem_mapM hblocks]
  constructor
  · rintro ⟨ls, ⟨ing, hing, hls⟩, hl⟩
    exact ⟨ing, hing, ls, hls, hl⟩
  · rintro ⟨ing, hing, ls, hls, hl⟩
    exact ⟨ls, ⟨ing, hing, hls⟩, hl⟩

/-! ## Its filter chains -/

theorem passthroughHosts_passthroughModel (h : passthroughModel ings = .ok m) (cluster : String) :
    passthroughHosts m cluster = [] := by
  refine flatMap_eq_nil_iff.2 fun p hp => ?_
  obtain ⟨l, hl, hp⟩ := mem_flatMap.1 (mem_filter.1 hp).1
  obtain ⟨route, hroute, hp⟩ := mem_flatMap.1 hp
  obtain ⟨be, _, rfl⟩ := mem_map.1 hp
  obtain ⟨ing, _, ls, hls, hl⟩ := ((passthroughModel_eq_ok h).2.2 l).1 hl
  exact ((ownedBy_of_ingressPassthrough hls hl).routes route hroute).1

variable {slices : Slices} {orders : RangeOrders} {t : DefaultTranslator}
  {config : DolphinEnvoyConfig}

theorem chain_of_passthroughModel (hm : passthroughModel ings = .ok m)
    (hconfig : t.translate slices orders m = .ok config) {l : Envoy.Listener}
    (hl : .listener l ∈ config.resources) {chain : FilterChain} (hchain : chain ∈ l.filterChains) :
    chain.serverNames = [] ∧ m.tls ≠ [] := by
  obtain ⟨hhttp, htcp, _⟩ := passthroughModel_eq_ok hm
  obtain ⟨rs, hrs, rfl⟩ := bind_pure_eq_ok.1 hconfig
  rcases listener_mem_getResources hrs hl with ⟨ls, hls, hl⟩ | hl
  · rcases getListener_cases hls with ⟨_, _, rfl⟩ | ⟨hne, l', secrets, clusters, rfl, hof⟩
    · cases hl
    · obtain rfl := XDSResource.listener.inj (mem_singleton.1 hl)
      refine ⟨?_, fun htls => hne ⟨hhttp, htls⟩⟩
      obtain ⟨statPrefix, hchains⟩ := hof.filterChains
      have hsecrets : secrets = [] := eq_nil_iff_forall_not_mem.2 fun secret hsecret => by
        obtain ⟨_, hcertificate⟩ := (hof.secretKeys.mem_iff secret).1 hsecret
        rw [certificates, hhttp] at hcertificate
        cases hcertificate
      rw [hchains, if_pos hhttp, hsecrets, map_nil, nil_append, nil_append] at hchain
      obtain ⟨cluster, _, rfl⟩ := mem_map.1 hchain
      rw [passthroughChain, passthroughHosts_passthroughModel hm]
      exact (serverNames_cases slices []).elim And.left fun h =>
        absurd h.2.1 (by simp)
  · rw [getTCPRouteListeners, htcp] at hl
    cases hl

theorem tls_eq_nil (hm : passthroughModel ings = .ok m)
    (h : ∀ ing ∈ ings, passthroughRules ing = []) : m.tls = [] := by
  refine eq_nil_iff_forall_not_mem.2 fun l hl => ?_
  obtain ⟨ing, hing, ls, hls, hl⟩ := ((passthroughModel_eq_ok hm).2.2 l).1 hl
  have hpaths : rootPaths ing.rules l.hostname ≠ [] := by
    intro hnil
    have hat := (mem_ingressPassthrough hls).1 hl
    rw [hnil] at hat
    cases hat
  obtain ⟨path, hpath⟩ := exists_mem_of_ne_nil _ hpaths
  obtain ⟨hpath, hroot⟩ := mem_filter.1 hpath
  obtain ⟨rule, hrule, hpath⟩ := mem_flatMap.1 hpath
  obtain ⟨hrule, hhost⟩ := mem_filter.1 hrule
  have hhost := (of_decide_eq_true hhost).1
  cases hhttp : rule.http with
  | none =>
    rw [hhttp] at hpath
    cases hpath
  | some paths =>
    rw [hhttp] at hpath
    have hservice := exists_ingressPassthrough_iff.1 ⟨ls, hls⟩ rule hrule hhost paths hhttp path
      hpath (of_decide_eq_true hroot)
    obtain ⟨service, hservice⟩ := Option.isSome_iff_exists.1 hservice
    have hmem : (rule.host, service) ∈ passthroughRules ing := by
      refine mem_flatMap.2 ⟨rule, mem_filter.2 ⟨hrule, decide_eq_true hhost⟩, ?_⟩
      refine mem_filterMap.2 ⟨path, mem_filter.2 ⟨?_, hroot⟩, by rw [hservice]; rfl⟩
      rw [hhttp]
      exact hpath
    rw [h ing hing] at hmem
    cases hmem

end

theorem routedByHost_iff {ings : List Ingress} {m : Model} (hm : passthroughModel ings = .ok m)
    {slices : Slices} {orders : RangeOrders} {t : DefaultTranslator} {config : DolphinEnvoyConfig}
    (hconfig : t.translate slices orders m = .ok config) :
    RoutedByHost ings config.resources ↔ ∀ ing ∈ ings, passthroughRules ing = [] := by
  constructor
  · intro h ing hing
    refine eq_nil_iff_forall_not_mem.2 fun p hp => ?_
    obtain ⟨l, hl, chain, hchain, _, _, hname⟩ := h.routed ing hing p hp
    rw [(chain_of_passthroughModel hm hconfig hl hchain).1] at hname
    cases hname
  · intro h
    have htls := tls_eq_nil hm h
    refine ⟨fun ing hing p hp => ?_, fun n _ l hl chain hchain => ?_⟩
    · rw [h ing hing] at hp
      cases hp
    · exact absurd htls (chain_of_passthroughModel hm hconfig hl hchain).2

/-! ## A mail server -/

/-- An Ingress with passthrough for a host, with one path. -/
def mailIngress (path : String) : Ingress where
  name := "mail"
  ns := "team"
  annotations := .ofList [("ingress.dolphin.io/tls-passthrough", "enabled")]
  ingressClassName := some "dolphin"
  rules := [{
    host := "mail.example"
    http := some [{
      path := path
      pathType := some .pathPrefix
      backend := ⟨some ⟨"mail", { number := 993 }⟩⟩ }] }]

theorem routedByHost_mailIngress :
    ∃ m config, passthroughModel [mailIngress "/inbox"] = .ok m ∧
      webReconciler.sharedTranslator.translate .reference .entries m = .ok config ∧
      RoutedByHost [mailIngress "/inbox"] config.resources := by
  obtain ⟨m, config, hm, hconfig⟩ : ∃ m config, passthroughModel [mailIngress "/inbox"] = .ok m ∧
      webReconciler.sharedTranslator.translate .reference .entries m = .ok config := ⟨_, _, rfl, rfl⟩
  refine ⟨m, config, hm, hconfig, (routedByHost_iff hm hconfig).2 fun ing hing => ?_⟩
  rw [mem_singleton.1 hing]
  rfl

/-- The only filter chain takes the connections for all server names. -/
theorem not_routedByHost_mailIngress :
    ∃ (config : DolphinEnvoyConfig) (l : Envoy.Listener) (chain : FilterChain),
      webReconciler.buildSharedResources .reference .entries none [mailIngress "/"] = .ok config ∧
      .listener l ∈ config.resources ∧ l.filterChains = [chain] ∧
      chain.filter = .tcpProxy "team:mail:993" "team:mail:993" ∧
      chain.admits "other.example" = true ∧
      ¬ RoutedByHost [mailIngress "/"] config.resources := by
  refine ⟨_, _, _, rfl, mem_cons_self, rfl, rfl, rfl, fun h => ?_⟩
  have hrefused := h.refused "other.example" (fun ing hing p hp => ?_) _ mem_cons_self _
    mem_cons_self _ _ rfl
  · cases hrefused
  · obtain rfl := mem_singleton.1 hing
    obtain rfl := mem_singleton.1 hp
    decide

end IngressController
