import Dolphin.IngressController.Tenancy
import Dolphin.Translation.Isolation
import Dolphin.Translation.Order

/-!
# Shared Ingresses with disjoint hosts

All Ingresses in shared mode end up in one Envoy configuration. What it has of one of them should
not change when others come, go or change, as long as they have no host in common with it
(`Undisturbed`): the virtual hosts of its hosts, with and without TLS, and the clusters of its
backends.

A virtual host is made from the routes for its host, and these come from the Ingresses with a
listener for it, in the order of their names (`routesFor_eq_of_agree`). It depends on the rest of
the model in two more ways. The port of the first listener is only used in redirects, which
Ingresses do not have (`newVirtualHost_port`). And there is no redirect to HTTPS if no listener
without TLS has a route, but one has if one with TLS does
(`exists_insecure_of_sharedModel`).

* `undisturbed_of_agree`: so an Ingress is undisturbed.
* `buildSharedResources_eq_of_perm`: and the order in which the Ingresses are listed does not matter.
-/

namespace IngressController

open Model Go Networkingv1 Annotations Ingestion Translation Envoy List

/-- Ingresses as the API server lists them: their names are distinct, and they are made of
    characters that neither the order of Ingresses nor the names of clusters use. -/
structure Listed (ings : List Ingress) : Prop where
  nodup : (ings.map (·.key)).Nodup
  namespaces : ∀ ing ∈ ings, '/' ∉ ing.ns.toList ∧ ':' ∉ ing.ns.toList
  services : ∀ ing ∈ ings, ∀ service ∈ backendServices ing, ':' ∉ service.name.toList

/-- Both lists have the Ingress, and they differ in Ingresses with no host in common with it. -/
structure AgreeFor (r : IngressReconciler) (ing : Ingress) (ings ings' : List Ingress) : Prop where
  left : ing ∈ ings
  right : ing ∈ ings'
  differ : ∀ other, ¬ (other ∈ ings ↔ other ∈ ings') → ∀ h, UsesHost r ing h → ¬ UsesHost r other h

/-- The virtual hosts and the clusters of the Ingress are the same. -/
structure Undisturbed (r : IngressReconciler) (ing : Ingress)
    (resources resources' : List XDSResource) : Prop where
  hosts : ∀ h, UsesHost r ing h → ∀ secure vh, vh.name = h →
    (HasVirtualHost resources secure vh ↔ HasVirtualHost resources' secure vh)
  clusters : ∀ service ∈ backendServices ing, ∀ c : Envoy.Cluster,
    backendCluster (backendOf ing service) = .ok c.name →
      (.cluster c ∈ resources ↔ .cluster c ∈ resources')

section

variable {r : IngressReconciler} {dolphinClass : Option IngressClass} {ings ings' : List Ingress}
  {ing : Ingress} {m m' : Model}

/-! ## The routes for a host -/

theorem Listed.nodup_names (h : Listed ings) :
    (ings.map fun ing => ing.ns ++ "/" ++ ing.name).Nodup := by
  refine Nodup.map_on (fun a ha b hb heq => ?_) h.nodup.of_map
  have hslash : "/".toList = ['/'] := rfl
  obtain ⟨hns, hname⟩ := append_char_inj hslash (h.namespaces a ha).1 (h.namespaces b hb).1 heq
  refine inj_on_of_nodup_map h.nodup ha hb ?_
  rw [Ingress.key, Ingress.key, hns, hname]

theorem routesFor_sharedModel (h : r.sharedModel dolphinClass ings = .ok m) (secure : Bool)
    (host : String) :
    routesFor m secure host = (sortIngresses ings).flatMap fun ing =>
      routesFor ((r.ingestShared dolphinClass ing).toOption.getD {}) secure host := by
  obtain ⟨blocks, hblocks, rfl⟩ := bind_pure_eq_ok.1 h
  rw [eq_map_of_mapM hblocks {}]
  simp only [routesFor, listenersOf, filter_flatMap, flatMap_assoc, flatMap_map]

variable {host : String}

theorem usesHost_of_routesFor {secure : Bool}
    (h : routesFor ((r.ingestShared dolphinClass ing).toOption.getD {}) secure host ≠ []) :
    UsesHost r ing host := by
  obtain ⟨x, hx⟩ := exists_mem_of_ne_nil _ h
  obtain ⟨l, hl, _, hx, hhost⟩ := mem_routesFor.1 hx
  cases hblock : r.ingestShared dolphinClass ing with
  | error e =>
    rw [hblock] at hl
    cases hl
  | ok b =>
    rw [hblock] at hl
    rcases ingestShared_eq_ok.1 hblock with ⟨_, hb⟩ | ⟨_, _, rfl⟩
    · have hb := ingest_eq_ok.1 hb
      split_ifs at hb
      · obtain ⟨_, _, rfl⟩ := hb
        cases hl
      · obtain ⟨ls, hls, rfl⟩ := hb
        have hnone := ((ownedBy_of_ingress hls hl).routes x hx).hostnames
        rw [effectiveHosts, if_pos hnone, mem_singleton] at hhost
        exact ⟨_, ls, hls, l, hl, hhost.symm⟩
    · cases hl

theorem routesFor_eq_of_agree (hm : r.sharedModel dolphinClass ings = .ok m)
    (hm' : r.sharedModel dolphinClass ings' = .ok m') (hlisted : Listed ings)
    (hlisted' : Listed ings') (hagree : AgreeFor r ing ings ings') (hhost : UsesHost r ing host)
    (secure : Bool) :
    routesFor m secure host = routesFor m' secure host := by
  have hfilter (f : Ingress → List HTTPRoute) (ings : List Ingress) :
      ings.flatMap f = (ings.filter fun ing => f ing ≠ []).flatMap f :=
    (flatMap_filter_eq fun _ _ hnil => not_not.1 (of_decide_eq_false hnil)).symm
  rw [routesFor_sharedModel hm, routesFor_sharedModel hm', hfilter, hfilter _ (sortIngresses ings')]
  congr 1
  refine filter_insertionSort_congr (fun _ _ => Iff.rfl) hlisted.nodup_names hlisted'.nodup_names
    fun other hother => ?_
  by_contra hdiffer
  exact hagree.differ other hdiffer host hhost (usesHost_of_routesFor (of_decide_eq_true hother))

/-! ## Virtual hosts -/

theorem exists_insecure_of_sharedModel (hm : r.sharedModel dolphinClass ings = .ok m)
    {l : HTTPListener} (hl : l ∈ m.http) : ∃ l' ∈ m.http, l'.tls = none ∧ l'.routes = l.routes := by
  obtain ⟨ing, hing, hshares, hpass, ls, hls, hmem⟩ := (mem_sharedModel_http hm).1 hl
  obtain ⟨l', hmem', hsame⟩ := exists_insecure_of_ingress hls hmem
  exact ⟨l', (mem_sharedModel_http hm).2 ⟨ing, hing, hshares, hpass, ls, hls, hmem'⟩, hsame⟩

theorem configuredHost_congr (t : DefaultTranslator) (hplain : PlainModel m)
    (hroutes : ∀ secure, routesFor m secure host = routesFor m' secure host) (secure : Bool) :
    configuredHost t m secure host = configuredHost t m' secure host := by
  have hnone (secure : Bool) : ∀ x ∈ routesFor m' secure host, x.requestRedirect = none := by
    intro x hx
    obtain ⟨_, hx⟩ := hplain.routesFor x (hroutes secure ▸ hx)
    exact hx.requestRedirect
  have hredirected : Redirected t m secure host ↔ Redirected t m' secure host := by
    rw [Redirected, Redirected, ← routesFor_ne_nil_iff, ← routesFor_ne_nil_iff, hroutes]
  rw [configuredHost, configuredHost, virtualHostFor, virtualHostFor, hroutes, hroutes,
    newVirtualHost_port (hnone true) _ _ _ (firstPort m) (firstPort m'),
    newVirtualHost_port (hnone secure) _ _ _ (firstPort m) (firstPort m')]
  exact if_congr hredirected rfl rfl

/-! ## Clusters -/

theorem PlainModel.upstreamHostname (h : PlainModel m) : upstreamHostname m = "" := by
  rw [upstreamHostname_eq, filterMap_eq_nil_iff.2]
  · rfl
  · intro x hx
    obtain ⟨l, hl, hx⟩ := mem_flatMap.1 hx
    obtain ⟨_, hplain⟩ := h.http l hl x hx
    rw [hplain.hostnames]
    rfl

theorem Listed.backends (hlisted : Listed ings) (hm : r.sharedModel dolphinClass ings = .ok m)
    {be : Backend} (hbe : be ∈ backendsOf m) : ':' ∉ be.ns.toList ∧ ':' ∉ be.name.toList := by
  have hplain {ing : Ingress} (hing : ing ∈ ings) {service : IngressServiceBackend}
      (hservice : service ∈ backendServices ing) (hbe : be = backendOf ing service) :
      ':' ∉ be.ns.toList ∧ ':' ∉ be.name.toList := by
    rw [hbe]
    exact ⟨(hlisted.namespaces ing hing).2, hlisted.services ing hing service hservice⟩
  have htcp : m.tcp = [] := by
    obtain ⟨_, _, h⟩ := bind_pure_eq_ok.1 hm
    rw [← h]
  rw [backendsOf, tcpBackends, htcp, flatMap_nil, append_nil, mem_append] at hbe
  rcases hbe with hbe | hbe
  · obtain ⟨l, hl, x, hx, hbe⟩ := mem_httpBackends.1 hbe
    obtain ⟨ing, hing, _, _, ls, hls, hl⟩ := (mem_sharedModel_http hm).1 hl
    have hx := (ownedBy_of_ingress hls hl).routes x hx
    obtain ⟨service, hservice, hbackends⟩ := hx.backends
    rw [routeBackends, hbackends, hx.requestMirrors] at hbe
    exact hplain hing hservice (mem_singleton.1 hbe)
  · obtain ⟨l, hl, hbe⟩ := mem_flatMap.1 hbe
    obtain ⟨x, hx, hbe⟩ := mem_flatMap.1 hbe
    obtain ⟨ing, hing, _, _, ls, hls, hl⟩ := (mem_sharedModel_tls hm).1 hl
    obtain ⟨_, service, hservice, hbackends⟩ :=
      (ownedBy_of_ingressPassthrough hls hl).routes x hx
    rw [hbackends] at hbe
    exact hplain hing hservice (mem_singleton.1 hbe)

/-- The cluster of a Service of the Ingress is made from nothing else. -/
theorem cluster_mem_iff {slices : Slices} {orders : RangeOrders} {config : DolphinEnvoyConfig}
    (hm : r.sharedModel dolphinClass ings = .ok m)
    (hconfig : r.sharedTranslator.translate slices orders m = .ok config)
    (hlisted : Listed ings) (hing : ing ∈ ings) (hshares : Shares r dolphinClass ing)
    (hpass : getAnnotationTLSPassthroughEnabled ing = false) {service : IngressServiceBackend}
    (hservice : service ∈ backendServices ing) {c : Envoy.Cluster} {sp : ServicePort}
    (hsp : servicePort (backendOf ing service) = some sp) (hname : c.name = sp.clusterName) :
    .cluster c ∈ config.resources ↔ c = newHTTPCluster r.sharedTranslator m sp := by
  have hrefers : RefersToPort sp (httpBackends m) := by
    obtain ⟨ls, hls⟩ := exists_ingress_of_shares hm hing hshares hpass
    obtain ⟨l, hl, x, hx, hbackends⟩ := exists_route_of_service hls hservice
    have hmem := (mem_sharedModel_http hm).2 ⟨ing, hing, hshares, hpass, ls, hls, hl⟩
    refine mem_filterMap.2 ⟨_, mem_httpBackends.2 ⟨l, hmem, x, hx, ?_⟩, hsp⟩
    exact mem_append_left _ (hbackends ▸ mem_singleton_self _)
  obtain ⟨rs, hrs, hconfig⟩ := bind_pure_eq_ok.1 hconfig
  rw [← hconfig]
  exact (cluster_mem_getResources hrs).trans
    (cluster_mem_getClusters_iff _ _ _
      (namesDistinct_of_backends fun _ hbe => hlisted.backends hm hbe) hrefers hname)

end

theorem undisturbed_of_agree {r : IngressReconciler} {dolphinClass : Option IngressClass}
    {slices slices' : Slices} {orders orders' : RangeOrders} {ings ings' : List Ingress}
    {config config' : DolphinEnvoyConfig}
    (hconfig : r.buildSharedResources slices orders dolphinClass ings = .ok config)
    (hconfig' : r.buildSharedResources slices' orders' dolphinClass ings' = .ok config')
    (hlisted : Listed ings) (hlisted' : Listed ings') {ing : Ingress}
    (hshares : Shares r dolphinClass ing)
    (hpass : getAnnotationTLSPassthroughEnabled ing = false)
    (hagree : AgreeFor r ing ings ings') :
    Undisturbed r ing config.resources config'.resources := by
  obtain ⟨m, hm, hconfig⟩ := bind_eq_ok.1 hconfig
  obtain ⟨m', hm', hconfig'⟩ := bind_eq_ok.1 hconfig'
  have hplain := plainModel_of_sharedModel hm
  constructor
  · rintro _ hhost secure vh rfl
    have hroutes := routesFor_eq_of_agree hm hm' hlisted hlisted' hagree hhost
    rw [hasVirtualHost_iff hconfig, hasVirtualHost_iff hconfig',
      configuredHosts_iff_of_insecure fun _ => exists_insecure_of_sharedModel hm,
      configuredHosts_iff_of_insecure fun _ => exists_insecure_of_sharedModel hm',
      configuredHost_congr _ hplain hroutes, Redirected, Redirected]
    simp only [← routesFor_ne_nil_iff, hroutes]
  · intro service hservice c hc
    obtain ⟨sp, hsp, hname⟩ := backendCluster_eq_ok.1 hc
    rw [cluster_mem_iff hm hconfig hlisted hagree.left hshares hpass hservice hsp hname.symm,
      cluster_mem_iff hm' hconfig' hlisted' hagree.right hshares hpass hservice hsp hname.symm,
      newHTTPCluster_eq_iff.2]
    intro _
    rw [hplain.upstreamHostname, (plainModel_of_sharedModel hm').upstreamHostname]

/-! ## An Ingress that comes -/

theorem listed_webIngresses : Listed webIngresses := ⟨by decide, by decide, by decide⟩

/-- One of two Ingresses, before and after the other one comes. -/
theorem undisturbed_webIngress :
    ∃ slices orders config config',
      webReconciler.buildSharedResources slices orders none
        [webIngress "team" "shop.example"] = .ok config ∧
      webReconciler.buildSharedResources slices orders none webIngresses = .ok config' ∧
      Undisturbed webReconciler (webIngress "team" "shop.example") config.resources
        config'.resources := by
  let orders : RangeOrders := .entries
  have hlisted : Listed [webIngress "team" "shop.example"] := ⟨by decide, by decide, by decide⟩
  have hconfig : webReconciler.buildSharedResources .reference orders none
    [webIngress "team" "shop.example"] = .ok _ := rfl
  have hconfig' : webReconciler.buildSharedResources .reference orders none webIngresses =
    .ok _ := rfl
  refine ⟨.reference, orders, _, _, hconfig, hconfig', undisturbed_of_agree hconfig hconfig' hlisted
    listed_webIngresses ⟨rfl, rfl, rfl⟩ rfl
      ⟨mem_cons_self, mem_cons_self, fun other hother h hshop hops => ?_⟩⟩
  -- the lists differ in the other Ingress only
  have hmem : other ∈ webIngresses ∧ other ∉ [webIngress "team" "shop.example"] := by
    simp only [webIngresses, mem_cons, not_mem_nil, or_false] at hother ⊢
    tauto
  rcases mem_cons.1 hmem.1 with rfl | hother
  · exact hmem.2 (mem_singleton_self _)
  · obtain rfl := mem_singleton.1 hother
    obtain ⟨_, _, hls, l, hl, rfl⟩ := hshop
    obtain ⟨_, _, hls', l', hl', hsame⟩ := hops
    obtain rfl := Except.ok.inj hls
    obtain rfl := Except.ok.inj hls'
    have hshop : l.hostname ∈ ["shop.example", "shop.example"] := mem_map_of_mem hl
    have hops : l'.hostname ∈ ["ops.example", "ops.example"] := mem_map_of_mem hl'
    simp_all

end IngressController

/-! ## The order in which Ingresses are listed

They are sorted by namespace and name before they are read, which leaves no choice, as namespaces
have no slash. Their model has names that no two clusters and certificates share, so that the orders
in which the translation visits its maps do not matter either. -/

namespace IngressController

open Model Go Networkingv1 Annotations Ingestion Translation

variable {r : IngressReconciler} {dolphinClass : Option IngressClass} {ings ings' : List Ingress}
  {m : Model}

theorem sortIngresses_eq_of_perm (hperm : ings.Perm ings') (hlisted : Listed ings) :
    sortIngresses ings = sortIngresses ings' :=
  insertionSort_eq_of_perm (fun _ _ => Iff.rfl) hperm hlisted.nodup_names

theorem sharedModel_eq_of_perm (hperm : ings.Perm ings') (hlisted : Listed ings) :
    r.sharedModel dolphinClass ings = r.sharedModel dolphinClass ings' := by
  rw [IngressReconciler.sharedModel, IngressReconciler.sharedModel,
    sortIngresses_eq_of_perm hperm hlisted]

theorem plainNames_of_listed (hlisted : Listed ings)
    (hdefault : '/' ∉ r.defaultSecretNamespace.toList)
    (hm : r.sharedModel dolphinClass ings = .ok m) : PlainNames m := by
  refine ⟨fun be hbe => hlisted.backends hm hbe, fun p hp => ?_⟩
  obtain ⟨l, hl, hp⟩ := List.mem_flatMap.1 hp
  obtain ⟨secret, hsecret, rfl⟩ := List.mem_map.1 hp
  obtain ⟨ing, hing, _, _, ls, hls, hl⟩ := (mem_sharedModel_http hm).1 hl
  cases htls : l.tls with
  | none =>
    rw [htls] at hsecret
    cases hsecret
  | some secrets =>
    rw [htls] at hsecret
    rcases (ownedBy_of_ingress hls hl).secrets secrets htls secret hsecret with ⟨hns, _⟩ | rfl
    · rw [hns]
      exact (hlisted.namespaces ing hing).1
    · exact hdefault

theorem buildSharedResources_eq_of_perm (r : IngressReconciler)
    (dolphinClass : Option IngressClass) (slices : Slices) (orders orders' : RangeOrders)
    {ings ings' : List Ingress} (hperm : ings.Perm ings') (hlisted : Listed ings)
    (hdefault : '/' ∉ r.defaultSecretNamespace.toList) :
    r.buildSharedResources slices orders dolphinClass ings =
      r.buildSharedResources slices orders' dolphinClass ings' := by
  rw [IngressReconciler.buildSharedResources, IngressReconciler.buildSharedResources,
    ← sharedModel_eq_of_perm hperm hlisted]
  cases hm : r.sharedModel dolphinClass ings with
  | error e => rfl
  | ok m =>
    have hplain := plainNames_of_listed hlisted hdefault hm
    exact (translate_eq_entries hplain slices orders r.sharedTranslator).trans
      (translate_eq_entries hplain slices orders' r.sharedTranslator).symm

theorem buildSharedResources_webIngresses :
    ∃ config,
      webReconciler.buildSharedResources .reference .entries none webIngresses = .ok config ∧
      webReconciler.buildSharedResources .reference
        ⟨.reversed, .reversed, ⟨.reversed, .reversed, .reversed⟩, ⟨.reversed, .reversed, .reversed⟩⟩
        none webIngresses.reverse = .ok config := by
  refine ⟨_, rfl, Eq.trans ?_ rfl⟩
  exact (buildSharedResources_eq_of_perm _ _ _ _ _ (List.reverse_perm webIngresses).symm
    listed_webIngresses (by decide)).symm

end IngressController
