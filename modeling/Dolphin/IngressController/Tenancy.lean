import Dolphin.IngressController.SharedModel
import Dolphin.Translation.References

/-!
# Tenants

The Ingresses of all namespaces end up in one model, each of whose listeners has an Ingress as
its source. What such a listener forwards to is in the namespace of the Ingress, and its secrets
are those that the Ingress names, in its namespace, or the default secret (`Tenant`). So the
virtual host of a host that only one Ingress uses has no clusters of other namespaces.

* `tenant_of_translated`: this holds for every Ingress, be it translated together with others or
  alone.
-/

namespace IngressController

open Model Go Networkingv1 Annotations Ingestion Translation Envoy List

variable {ing : Ingress}

/-- The backends of the listeners whose source is the Ingress. -/
def backendsFrom (m : Model) (ing : Ingress) : List Backend :=
  (m.http.filter fun l => sourceResource ing ∈ l.sources).flatMap
      (fun l => l.routes.flatMap routeBackends) ++
    (m.tls.filter fun l => sourceResource ing ∈ l.sources).flatMap
      (fun l => l.routes.flatMap (·.backends))

/-- The secrets of these listeners. Those for passthrough have none. -/
def secretsFrom (m : Model) (ing : Ingress) : List TLSSecret :=
  (m.http.filter fun l => sourceResource ing ∈ l.sources).flatMap fun l => l.tls.getD []

/-- The Ingress has a listener for the host, whatever the ports. -/
def UsesHost (r : IngressReconciler) (ing : Ingress) (h : String) : Prop :=
  ∃ ports ls, ingress (r.options ports) ing = .ok ls ∧ ∃ l ∈ ls, l.hostname = h

/-- The Ingresses are translated together in shared mode, or the only one of them alone, to the
    resources, by way of the model. -/
inductive TranslatedTo (r : IngressReconciler) (dolphinClass : Option IngressClass)
    (slices : Slices) (orders : RangeOrders) :
    List Ingress → Model → List XDSResource → Prop
  | shared {ings : List Ingress} {m : Model} {config : DolphinEnvoyConfig}
      (hm : r.sharedModel dolphinClass ings = .ok m)
      (hconfig : r.buildSharedResources slices orders dolphinClass ings = .ok config) :
      TranslatedTo r dolphinClass slices orders ings m config.resources
  | dedicated {ing : Ingress} {m : Model} {res : DedicatedResources}
      (hm : r.ingest (r.getDedicatedListenerPorts ing) ing = .ok m)
      (hres : r.buildDedicatedResources slices orders ing = .ok (.ok res)) :
      TranslatedTo r dolphinClass slices orders [ing] m res.config.resources

/-- What the model and the resources have of the Ingress is its own. -/
structure Tenant (r : IngressReconciler) (ings : List Ingress) (m : Model)
    (resources : List XDSResource) (ing : Ingress) : Prop where
  backends : ∀ be ∈ backendsFrom m ing, be.ns = ing.ns
  secrets : ∀ secret ∈ secretsFrom m ing,
    (secret.ns = ing.ns ∧ ∃ tlsConfig ∈ ing.tls, secret.name = tlsConfig.secretName) ∨
      secret = ⟨r.defaultSecretName, r.defaultSecretNamespace⟩
  routes : ∀ h, (∀ ing' ∈ ings, UsesHost r ing' h → ing' = ing) →
    ∀ secure vh, HasVirtualHost resources secure vh → vh.name = h → ∀ name ∈ vh.clusterRefs,
      ∃ be ∈ backendsFrom m ing, be.ns = ing.ns ∧ backendCluster be = .ok name

section

variable {r : IngressReconciler} {dolphinClass : Option IngressClass} {slices : Slices}
  {orders : RangeOrders} {ings : List Ingress} {m : Model} {resources : List XDSResource}

theorem translateDedicated_eq_ok {res : DedicatedResources}
    (h : r.translateDedicated slices orders m = .ok (.ok res)) :
    ∃ source service config, firstSource m = .ok (source, service) ∧
      (r.translator (resourceName source.name) source.ns).translate slices orders m = .ok config ∧
      res = ⟨{ config with name := configName source.ns source.name }, getService source service,
        getEndpoints source⟩ := by
  rw [IngressReconciler.translateDedicated] at h
  split_ifs at h
  · cases h
  · obtain ⟨⟨source, service⟩, hsource, h⟩ := bind_eq_ok.1 h
    obtain ⟨config, hconfig, h⟩ := bind_eq_ok.1 h
    exact ⟨source, service, config, hsource, hconfig, (Except.ok.inj (pure_eq_ok.1 h)).symm⟩

theorem propagateIngressAnnotationsAndLabels_spec (ing : Ingress) (svc : IngressService) :
    ∃ labels annotations, r.propagateIngressAnnotationsAndLabels ing svc =
      { svc with labels := labels, annotations := annotations } := by
  rw [IngressReconciler.propagateIngressAnnotationsAndLabels]
  split_ifs
  · exact ⟨_, _, rfl⟩
  · exact ⟨_, _, rfl⟩

theorem buildDedicatedResources_eq_ok {res : DedicatedResources}
    (h : r.buildDedicatedResources slices orders ing = .ok (.ok res)) :
    ∃ m res', r.ingest (r.getDedicatedListenerPorts ing) ing = .ok m ∧
      r.translateDedicated slices orders m = .ok (.ok res') ∧
      res = { res' with
        service := r.propagateIngressAnnotationsAndLabels ing res'.service
        config := { res'.config with
          ownerReferences := res'.config.ownerReferences ++ [r.controllerReference ing] } } := by
  obtain ⟨m, hm, h⟩ := bind_eq_ok.1 h
  obtain ⟨translated, htranslated, h⟩ := bind_eq_ok.1 h
  cases translated with
  | error e => cases h
  | ok res' => exact ⟨m, res', hm, htranslated, (Except.ok.inj (pure_eq_ok.1 h)).symm⟩

theorem key_of_sourceResource {ing' : Ingress} (h : sourceResource ing = sourceResource ing') :
    ing.key = ing'.key := by
  have hname : ing.name = ing'.name := congrArg FullyQualifiedResource.name h
  have hns : ing.ns = ing'.ns := congrArg FullyQualifiedResource.ns h
  rw [Ingress.key, Ingress.key, hname, hns]

namespace TranslatedTo

variable (h : TranslatedTo r dolphinClass slices orders ings m resources)

include h

theorem translated : ∃ t : DefaultTranslator, ∃ config, t.translate slices orders m = .ok config ∧
      config.resources = resources := by
  cases h with
  | shared hm hconfig =>
    obtain ⟨m', hm', hconfig⟩ := bind_eq_ok.1 hconfig
    obtain rfl := Except.ok.inj (hm.symm.trans hm')
    exact ⟨_, _, hconfig, rfl⟩
  | dedicated hm hres =>
    obtain ⟨m', res', hm', hres', rfl⟩ := buildDedicatedResources_eq_ok hres
    obtain rfl := Except.ok.inj (hm.symm.trans hm')
    obtain ⟨_, _, config, _, hconfig, rfl⟩ := translateDedicated_eq_ok hres'
    exact ⟨_, config, hconfig, rfl⟩

theorem exists_of_mem_http {l : HTTPListener} (hl : l ∈ m.http) :
    ∃ ing ∈ ings, ∃ ports ls, ingress (r.options ports) ing = .ok ls ∧ l ∈ ls := by
  cases h with
  | shared hm hconfig =>
    obtain ⟨ing, hing, _, _, ls, hls, hl⟩ := (mem_sharedModel_http hm).1 hl
    exact ⟨ing, hing, _, ls, hls, hl⟩
  | dedicated hm hres =>
    have hm := ingest_eq_ok.1 hm
    split_ifs at hm
    · obtain ⟨ls, _, rfl⟩ := hm
      cases hl
    · obtain ⟨ls, hls, rfl⟩ := hm
      exact ⟨_, mem_cons_self, _, ls, hls, hl⟩

theorem exists_of_mem_tls {l : TLSListener} (hl : l ∈ m.tls) :
    ∃ ing ∈ ings, ∃ ls, ingressPassthrough ing = .ok ls ∧ l ∈ ls := by
  cases h with
  | shared hm hconfig =>
    obtain ⟨ing, hing, _, _, ls, hls, hl⟩ := (mem_sharedModel_tls hm).1 hl
    exact ⟨ing, hing, ls, hls, hl⟩
  | dedicated hm hres =>
    have hm := ingest_eq_ok.1 hm
    split_ifs at hm
    · obtain ⟨ls, hls, rfl⟩ := hm
      exact ⟨_, mem_cons_self, ls, hls, hl⟩
    · obtain ⟨ls, _, rfl⟩ := hm
      cases hl

theorem ownedBy (hkeys : (ings.map (·.key)).Nodup) (hing : ing ∈ ings) {l : HTTPListener}
    (hl : l ∈ m.http) (hsource : sourceResource ing ∈ l.sources) :
    ∃ ports, OwnedBy (r.options ports) ing l := by
  obtain ⟨ing', hing', ports, ls, hls, hmem⟩ := h.exists_of_mem_http hl
  have howned := ownedBy_of_ingress hls hmem
  rw [howned.sources, mem_singleton] at hsource
  rw [inj_on_of_nodup_map hkeys hing hing' (key_of_sourceResource hsource)]
  exact ⟨ports, howned⟩

theorem passthroughOwnedBy (hkeys : (ings.map (·.key)).Nodup) (hing : ing ∈ ings) {l : TLSListener}
    (hl : l ∈ m.tls) (hsource : sourceResource ing ∈ l.sources) :
    PassthroughOwnedBy ing l := by
  obtain ⟨ing', hing', ls, hls, hmem⟩ := h.exists_of_mem_tls hl
  have howned := ownedBy_of_ingressPassthrough hls hmem
  rw [howned.sources, mem_singleton] at hsource
  rwa [inj_on_of_nodup_map hkeys hing hing' (key_of_sourceResource hsource)]

end TranslatedTo

theorem clusterRefs_configuredHost {t : DefaultTranslator} {secure : Bool} {h : String}
    {vh : VirtualHost} (hvh : configuredHost t m secure h = .ok vh) {name : String}
    (hname : name ∈ vh.clusterRefs) :
    ∃ secure', ∃ x ∈ routesFor m secure' h, ∃ be ∈ routeBackends x,
      backendCluster be = .ok name := by
  have hrefs (secure' : Bool) (hmem : name ∈ clusterNames ((routesFor m secure' h).flatMap
      routeBackends)) : ∃ secure', ∃ x ∈ routesFor m secure' h, ∃ be ∈ routeBackends x,
        backendCluster be = .ok name := by
    obtain ⟨be, hbe, hcluster⟩ := mem_clusterNames.1 hmem
    obtain ⟨x, hx, hbe⟩ := mem_flatMap.1 hbe
    exact ⟨secure', x, hx, be, hbe, hcluster⟩
  rw [configuredHost] at hvh
  split_ifs at hvh
  · exact hrefs true (clusterRefs_newVirtualHost hvh hname)
  · exact hrefs secure (clusterRefs_newVirtualHost hvh hname)

theorem TranslatedTo.exists_of_mem_routesFor
    (h : TranslatedTo r dolphinClass slices orders ings m resources) {secure : Bool}
    {host : String} {x : HTTPRoute} (hx : x ∈ routesFor m secure host) :
    ∃ ing ∈ ings, UsesHost r ing host ∧
      ∃ l ∈ m.http, sourceResource ing ∈ l.sources ∧ x ∈ l.routes := by
  obtain ⟨l, hl, _, hx, hhost⟩ := mem_routesFor.1 hx
  obtain ⟨ing, hing, ports, ls, hls, hmem⟩ := h.exists_of_mem_http hl
  have howned := ownedBy_of_ingress hls hmem
  rw [effectiveHosts, if_pos (howned.routes x hx).hostnames, mem_singleton] at hhost
  refine ⟨ing, hing, ⟨ports, ls, hls, l, hmem, hhost.symm⟩, l, hl, ?_, hx⟩
  rw [howned.sources]
  exact mem_singleton_self _

end

theorem mem_backendsFrom {m : Model} {be : Backend} : be ∈ backendsFrom m ing ↔
      (∃ l ∈ m.http, sourceResource ing ∈ l.sources ∧ ∃ x ∈ l.routes, be ∈ routeBackends x) ∨
      (∃ l ∈ m.tls, sourceResource ing ∈ l.sources ∧ ∃ x ∈ l.routes, be ∈ x.backends) := by
  simp only [backendsFrom, mem_append, mem_flatMap, mem_filter, decide_eq_true_eq, and_assoc]

theorem tenant_of_translated {r : IngressReconciler} {dolphinClass : Option IngressClass}
    {slices : Slices} {orders : RangeOrders} {ings : List Ingress} {m : Model}
    {resources : List XDSResource}
    (h : TranslatedTo r dolphinClass slices orders ings m resources)
    (hkeys : (ings.map (·.key)).Nodup) {ing : Ingress} (hing : ing ∈ ings) :
    Tenant r ings m resources ing := by
  have hbackends : ∀ be ∈ backendsFrom m ing, be.ns = ing.ns := by
    intro be hfrom
    rcases mem_backendsFrom.1 hfrom with ⟨l, hl, hsource, x, hx, hbe⟩ | ⟨l, hl, hsource, x, hx, hbe⟩
    · obtain ⟨_, howned⟩ := h.ownedBy hkeys hing hl hsource
      have hplain := howned.routes x hx
      obtain ⟨service, _, hbe'⟩ := hplain.backends
      rw [routeBackends, hbe', hplain.requestMirrors] at hbe
      rw [mem_singleton.1 hbe]
      rfl
    · obtain ⟨_, service, _, hbe'⟩ := (h.passthroughOwnedBy hkeys hing hl hsource).routes x hx
      rw [hbe'] at hbe
      rw [mem_singleton.1 hbe]
      rfl
  refine ⟨hbackends, fun secret hsecret => ?_, fun host honly secure vh hvh hname ref href => ?_⟩
  · obtain ⟨l, hl, hsecret⟩ := mem_flatMap.1 hsecret
    obtain ⟨hl, hsource⟩ := mem_filter.1 hl
    obtain ⟨_, howned⟩ := h.ownedBy hkeys hing hl (of_decide_eq_true hsource)
    obtain ⟨tls, htls, hsecret⟩ : ∃ tls, l.tls = some tls ∧ secret ∈ tls := by
      cases htls : l.tls with
      | none =>
        rw [htls] at hsecret
        cases hsecret
      | some tls =>
        rw [htls] at hsecret
        exact ⟨tls, rfl, hsecret⟩
    rcases howned.secrets tls htls secret hsecret with ⟨hns, entry, hentry, _, hname⟩ | hdefault
    · exact .inl ⟨hns, entry, hentry, hname⟩
    · exact .inr hdefault
  · obtain ⟨t, config, hconfig, rfl⟩ := h.translated
    obtain ⟨_, x, hx, be, hbe, hcluster⟩ :=
      clusterRefs_configuredHost ((hasVirtualHost_iff hconfig).1 hvh).2 href
    rw [hname] at hx
    obtain ⟨ing', hing', huses, l, hl, hsource, hx⟩ := h.exists_of_mem_routesFor hx
    obtain rfl := honly ing' hing' huses
    have hfrom := mem_backendsFrom.2 (.inl ⟨l, hl, hsource, x, hx, hbe⟩)
    exact ⟨be, hfrom, hbackends be hfrom, hcluster⟩

/-! ## Two namespaces -/

open Gatewayv1 (ne_empty_of_test) in
/-- An Ingress for one host with TLS, all of whose paths go to the Service `web`. -/
def webIngress (ns host : String) : Ingress where
  name := "web"
  ns := ns
  ingressClassName := some "dolphin"
  tls := [{ hosts := [host], secretName := "cert" }]
  rules := [{
    host := host
    http := some [{
      path := "/"
      pathType := some .pathPrefix
      backend := ⟨some ⟨"web", { number := 80 }⟩⟩ }] }]

def webIngresses : List Ingress :=
  [webIngress "team" "shop.example", webIngress "ops" "ops.example"]

def webReconciler : IngressReconciler where
  sharedLBServiceName := "dolphin-ingress"
  dolphinNamespace := "dolphin"
  enforcedHTTPS := true

theorem tenant_webIngress :
    ∃ slices orders m resources,
      TranslatedTo webReconciler none slices orders webIngresses m resources ∧
      (backendsFrom m (webIngress "team" "shop.example")).map (·.ns) = ["team", "team"] ∧
      secretsFrom m (webIngress "team" "shop.example") = [⟨"cert", "team"⟩] ∧
      Tenant webReconciler webIngresses m resources (webIngress "team" "shop.example") := by
  obtain ⟨m, hm, hbackends, hsecrets⟩ : ∃ m, webReconciler.sharedModel none webIngresses = .ok m ∧
      (backendsFrom m (webIngress "team" "shop.example")).map (·.ns) = ["team", "team"] ∧
      secretsFrom m (webIngress "team" "shop.example") = [⟨"cert", "team"⟩] :=
    ⟨_, rfl, rfl, rfl⟩
  obtain ⟨config, hconfig⟩ : ∃ config, webReconciler.buildSharedResources .reference
      .entries none webIngresses = .ok config := ⟨_, rfl⟩
  have htranslated := TranslatedTo.shared hm hconfig
  exact ⟨_, _, m, config.resources, htranslated, hbackends, hsecrets,
    tenant_of_translated htranslated (by decide) mem_cons_self⟩

end IngressController
