import Dolphin.Pipeline.Plaintext
import Dolphin.Translation.FilterChains

/-!
# Names of resources

The resources of a configuration are applied by type and name, and refer to one another by
name: the filter chains for HTTP get their routes from a route configuration.

* `routeConfigurationsExist_iff`: the filter chains of certificates refer to `listener-secure`,
  which is only there when a listener with TLS has a route. (`listener-insecure` is made without
  a route, too.)
* `uniqueNames_iff`: all TCP listeners have the same name, so there may be only one of them;
  other names are unique as long as those of clusters tell the ports of services apart.
-/

namespace Pipeline

open Gatewayv1 Ingestion Model Translation Go List

variable {slices : Slices} {orders : RangeOrders} {t : DefaultTranslator} {m : Model}

/-! ## References to route configurations -/

/-- The route configurations that the filter chains of the listener for HTTP refer to are
    there. -/
def RouteConfigurationsExist (rs : List Envoy.XDSResource) : Prop :=
  ∀ l, .listener l ∈ rs → l.name = "listener" → ∀ chain ∈ l.filterChains,
    ∀ name ∈ chain.filter.routeConfigRefs, ∃ rc, .routeConfiguration rc ∈ rs ∧ rc.name = name

section

variable {rs : List Envoy.XDSResource} (h : getResources slices orders t m = .ok rs)

include h

theorem exists_routeConfiguration_iff (secure : Bool) :
    (∃ rc, .routeConfiguration rc ∈ rs ∧ rc.name = "listener-" ++ classPort secure) ↔
      Emitted m secure := by
  obtain ⟨listener, rcs, hlistener, hrcs, hrs⟩ := getResources_eq_ok.1 h
  rw [← (names_getEnvoyHTTPRouteConfiguration hrcs).2 secure, mem_map]
  constructor
  · intro hrc
    obtain ⟨rc, hrc, hname⟩ := hrc
    obtain ⟨rcs', hrcs', hrc⟩ := routeConfiguration_mem_getResources h hrc
    obtain rfl := Except.ok.inj (hrcs.symm.trans hrcs')
    exact ⟨rc, hrc, hname⟩
  · intro hrc
    obtain ⟨rc, hrc, hname⟩ := hrc
    refine ⟨rc, ?_, hname⟩
    rw [hrs]
    simp [hrc]

theorem exists_listenerOf {l : Envoy.Listener} (hl : .listener l ∈ rs) (hname : l.name = "listener") :
    ∃ secrets clusters, ListenerOf slices t m secrets clusters l := by
  rcases listener_mem_getResources h hl with ⟨ls, hls, hl⟩ | htcp
  · exact exists_listenerOf_getListener hls hl
  · obtain ⟨_, _, heq⟩ := mem_map.1 htcp
    obtain rfl := Envoy.XDSResource.listener.inj heq
    exact absurd hname (by decide : "tcp-listener" ≠ "listener")

theorem exists_listener (hhttp : m.http ≠ []) : ∃ l, .listener l ∈ rs ∧ l.name = "listener" := by
  obtain ⟨listener, rcs, hlistener, _, rfl⟩ := getResources_eq_ok.1 h
  rcases getListener_cases hlistener with ⟨hnil, _, _⟩ | ⟨_, l, secrets, clusters, rfl, hof⟩
  · exact absurd hnil hhttp
  · exact ⟨l, by simp, hof.name⟩

end

section

variable {secrets : List TLSSecret} {clusters : List String} {l : Envoy.Listener}

theorem exists_mem_certificates : (∃ p, p ∈ certificates m) ↔ ∃ l ∈ m.http, l.tls.getD [] ≠ [] := by
  rw [← not_iff_not, not_exists, ← eq_nil_iff_forall_not_mem, certificates, flatMap_eq_nil_iff]
  simp only [map_eq_nil_iff, not_exists, not_and, not_not]

/-- The filter chain without TLS refers to `listener-insecure`, those of certificates refer to
    `listener-secure`. -/
theorem routeConfigRefs_listener (h : ListenerOf slices t m secrets clusters l) (name : String) :
    (∃ chain ∈ l.filterChains, name ∈ chain.filter.routeConfigRefs) ↔
      (m.http ≠ [] ∧ name = "listener-" ++ classPort false) ∨
        ((∃ l ∈ m.http, l.tls.getD [] ≠ []) ∧ name = "listener-" ++ classPort true) := by
  obtain ⟨statPrefix, hchains⟩ := h.filterChains
  have hsecrets : (∃ secret, secret ∈ secrets) ↔ ∃ l ∈ m.http, l.tls.getD [] ≠ [] := by
    rw [← exists_mem_certificates]
    simp only [h.secretKeys.mem_iff, Prod.exists]
  rw [hchains, ← hsecrets]
  constructor
  · intro hname
    obtain ⟨chain, hchain, hname⟩ := hname
    rcases mem_append.1 hchain with hchain | hpass
    · rcases mem_append.1 hchain with hhttp | hhttps
      · split_ifs at hhttp with hnil
        · cases hhttp
        · obtain rfl := mem_singleton.1 hhttp
          exact .inl ⟨hnil, mem_singleton.1 hname⟩
      · obtain ⟨secret, hsecret, rfl⟩ := mem_map.1 hhttps
        exact .inr ⟨⟨secret, hsecret⟩, mem_singleton.1 hname⟩
    · obtain ⟨cluster, _, rfl⟩ := mem_map.1 hpass
      cases hname
  · intro hname
    rcases hname with ⟨hhttp, rfl⟩ | ⟨⟨secret, hsecret⟩, rfl⟩
    · exact ⟨httpFilterChain "listener" t.ipv4Enabled t.ipv6Enabled, by simp [hhttp],
        mem_singleton_self _⟩
    · refine ⟨certificateChain slices t m secret, ?_, mem_singleton_self _⟩
      exact mem_append_left _ (mem_append_right _ (mem_map_of_mem hsecret))

end

/-- Every route configuration that is referred to exists exactly if there is no certificate, or
    a route on a listener with TLS. -/
theorem routeConfigurationsExist_iff {slices : Slices} {orders : RangeOrders}
    {t : DefaultTranslator} {m : Model} {rs : List Envoy.XDSResource}
    (h : getResources slices orders t m = .ok rs) :
    RouteConfigurationsExist rs ↔
      ((∃ l ∈ m.http, l.tls.getD [] ≠ []) → ∃ l ∈ m.http, l.secure = true ∧ l.routes ≠ []) := by
  constructor
  · intro hexist hcertificate
    obtain ⟨l, hl, hname⟩ := exists_listener h (fun hnil => by simp [hnil] at hcertificate)
    obtain ⟨secrets, clusters, hof⟩ := exists_listenerOf h hl hname
    obtain ⟨chain, hchain, href⟩ :=
      (routeConfigRefs_listener hof _).2 (.inr ⟨hcertificate, rfl⟩)
    exact (exists_routeConfiguration_iff h true).1 (hexist l hl hname chain hchain _ href)
  · intro hroute l hl hname chain hchain name href
    obtain ⟨secrets, clusters, hof⟩ := exists_listenerOf h hl hname
    rcases (routeConfigRefs_listener hof name).1 ⟨chain, hchain, href⟩ with
      ⟨hhttp, rfl⟩ | ⟨hcertificate, rfl⟩
    · exact (exists_routeConfiguration_iff h false).2 hhttp
    · exact (exists_routeConfiguration_iff h true).2 (hroute hcertificate)

/-- A listener with a certificate, and routes for it. -/
def certificateInput (routes : List Gatewayv1.HTTPRoute) : Input where
  gateway := { name := "gw", ns := "infra", listeners := [
    { name := "web", port := 443, protocol := .https
      tls := some { certificateRefs := [{ name := "shop" }] } }] }
  httpRoutes := routes
  services := [⟨"cart", "infra"⟩]

def checkoutRoute : Gatewayv1.HTTPRoute where
  name := "checkout"
  ns := "infra"
  parentRefs := [{ name := "gw" }]
  rules := [{ backendRefs := [{ toBackendRef := { name := "cart", port := some 80 } }] }]

theorem routeConfigurationsExist_checkoutRoute :
    ∃ m rs, gatewayAPI (certificateInput [checkoutRoute]) = .ok m ∧
      getResources .reference .entries shopTranslator m = .ok rs ∧
      (∃ l ∈ m.http, l.tls = some [⟨"shop", "infra"⟩]) ∧ RouteConfigurationsExist rs := by
  obtain ⟨m, rs, hm, hrs, l, hl, htls, hroutes⟩ : ∃ m rs,
      gatewayAPI (certificateInput [checkoutRoute]) = .ok m ∧
      getResources .reference .entries shopTranslator m = .ok rs ∧
      ∃ l, m.http = [l] ∧ l.tls = some [⟨"shop", "infra"⟩] ∧ l.routes.length = 1 :=
    ⟨_, _, rfl, rfl, _, rfl, rfl, rfl⟩
  have hmem : l ∈ m.http := hl ▸ mem_cons_self
  refine ⟨m, rs, hm, hrs, ⟨l, hmem, htls⟩, (routeConfigurationsExist_iff hrs).2 fun _ => ?_⟩
  refine ⟨l, hmem, ?_, ne_nil_of_length_pos (hroutes ▸ Nat.one_pos)⟩
  rw [HTTPListener.secure, htls]
  rfl

/-- Without a route, the filter chain of the certificate refers to a route configuration that
    does not exist. -/
theorem routeConfiguration_missing :
    ∃ m rs, gatewayAPI (certificateInput []) = .ok m ∧
      getResources .reference .entries shopTranslator m = .ok rs ∧
      rs.map (·.key) = [(.listener, "listener"), (.routeConfiguration, "listener-insecure")] ∧
      ¬ RouteConfigurationsExist rs := by
  refine ⟨_, _, rfl, rfl, rfl, fun hexist => ?_⟩
  obtain ⟨rc, hrc, hname⟩ := hexist _ mem_cons_self rfl _
    (mem_cons_of_mem _ mem_cons_self) "listener-secure" (mem_singleton_self _)
  have hkey := mem_map_of_mem (f := Envoy.XDSResource.key) hrc
  rw [Envoy.XDSResource.key, hname] at hkey
  exact absurd hkey (by decide)

/-! ## Unique names -/

/-- The first backend of the routes of a TCP listener has a port. -/
def Forwards (l : L4Listener) : Prop := ∃ be, firstBackend l = some be ∧ be.port.isSome = true

theorem tcpCluster_ne_iff_forwards {l : L4Listener} : tcpCluster l ≠ "" ↔ Forwards l := by
  constructor
  · intro h
    obtain ⟨sp, hsp, _⟩ := tcpCluster_ne_iff.1 h
    obtain ⟨be, hbe, hsp⟩ := Option.bind_eq_some_iff.1 hsp
    obtain ⟨port, hport, _⟩ := Option.map_eq_some_iff.1 hsp
    exact ⟨be, hbe, hport ▸ rfl⟩
  · intro h
    obtain ⟨be, hbe, hport⟩ := h
    obtain ⟨port, hport⟩ := Option.isSome_iff_exists.1 hport
    rw [tcpCluster_eq, hbe, Option.bind_some, servicePort, hport]
    exact clusterName_ne_empty _

theorem nodup_tcp_iff (m : Model) : ((getTCPRouteListeners m).map (·.key)).Nodup ↔
      m.tcp.Pairwise fun l l' => ¬ (Forwards l ∧ Forwards l') := by
  rw [getTCPRouteListeners, map_map, List.Nodup, pairwise_map, pairwise_filter]
  refine Pairwise.iff fun l l' => ?_
  rw [decide_eq_true_eq, decide_eq_true_eq, tcpCluster_ne_iff_forwards, tcpCluster_ne_iff_forwards,
    not_and]
  exact forall_congr' fun _ => forall_congr' fun _ => iff_of_false (fun hne => hne rfl) id

theorem keys_getListener {rs : List Envoy.XDSResource}
    (h : getListener slices orders.listener t m = .ok rs) :
    rs.map (·.key) = [] ∨ rs.map (·.key) = [(.listener, "listener")] := by
  rcases getListener_cases h with ⟨_, _, rfl⟩ | ⟨_, l, secrets, clusters, rfl, hof⟩
  · exact .inl rfl
  · exact .inr (by rw [map_singleton, Envoy.XDSResource.key, hof.name])

theorem nodup_configurations {rcs : List Envoy.RouteConfiguration}
    (h : getEnvoyHTTPRouteConfiguration slices t m = .ok rcs) :
    ((rcs.map Envoy.XDSResource.routeConfiguration).map (·.key)).Nodup := by
  refine Nodup.of_map Prod.snd ?_
  rw [map_map, map_map]
  exact (names_getEnvoyHTTPRouteConfiguration h).1

theorem nodup_clusters_iff (slices : Slices) (orders : RangeOrders) (t : DefaultTranslator)
    (m : Model) :
    ((getClusters slices orders.clusters t m).map (·.key)).Nodup ↔
      NamesDistinct ((httpBackends m).filterMap servicePort) := by
  constructor
  · intro h
    exact namesDistinct_of_nodup slices orders.clusters t (Nodup.of_map _ h)
  · intro h
    obtain ⟨cs, hcs, hsorted, _, _⟩ := getClusters_spec slices orders.clusters t h
    refine Nodup.of_map Prod.snd ?_
    rw [hcs, map_map, map_map]
    exact hsorted.imp ne_of_lt

/-- No two resources have the same type and name exactly if at most one TCP listener forwards
    and the names of clusters tell the ports of services apart. -/
theorem uniqueNames_iff {slices : Slices} {orders : RangeOrders}
    {t : DefaultTranslator} {m : Model} {rs : List Envoy.XDSResource}
    (h : getResources slices orders t m = .ok rs) :
    (rs.map (·.key)).Nodup ↔ m.tcp.Pairwise (fun l l' => ¬ (Forwards l ∧ Forwards l')) ∧
      NamesDistinct ((httpBackends m).filterMap servicePort) := by
  obtain ⟨listener, rcs, hlistener, hrcs, rfl⟩ := getResources_eq_ok.1 h
  rw [← nodup_tcp_iff, ← nodup_clusters_iff slices orders t, map_append, map_append, map_append]
  constructor
  · intro hnodup
    obtain ⟨hrest, htcp, _⟩ := nodup_append.1 hnodup
    exact ⟨htcp, (nodup_append.1 hrest).2.1⟩
  · intro hunique
    -- what the keys of the four lists have for a type, or for a name
    have hconfiguration : ∀ k ∈ (rcs.map Envoy.XDSResource.routeConfiguration).map (·.key),
        k.1 = .routeConfiguration := by
      simp [Envoy.XDSResource.key]
    have hcluster : ∀ k ∈ (getClusters slices orders.clusters t m).map (·.key),
        k.1 = .cluster ∨ k.1 = .unset := by
      intro k hk
      obtain ⟨r, hr, rfl⟩ := mem_map.1 hk
      rcases mem_getClusters _ _ _ hr with rfl | ⟨c, rfl⟩
      · exact .inr rfl
      · exact .inl rfl
    have htcp : ∀ k ∈ (getTCPRouteListeners m).map (·.key), k = (.listener, "tcp-listener") := by
      intro k hk
      obtain ⟨_, hr, rfl⟩ := mem_map.1 hk
      obtain ⟨l, _, rfl⟩ := mem_map.1 hr
      rfl
    have hhttp : ∀ k ∈ listener.map (·.key), k = (.listener, "listener") := by
      intro k hk
      rcases keys_getListener hlistener with hnil | hone
      · exact absurd hk (hnil ▸ not_mem_nil)
      · exact mem_singleton.1 (hone ▸ hk)
    have hlisteners : (listener.map (·.key)).Nodup := by
      rcases keys_getListener hlistener with hnil | hone
      · exact hnil ▸ nodup_nil
      · exact hone ▸ nodup_singleton _
    refine nodup_append.2 ⟨nodup_append.2 ⟨nodup_append.2
      ⟨hlisteners, nodup_configurations hrcs, ?_⟩, hunique.2, ?_⟩, hunique.1, ?_⟩
    · intro a ha b hb heq
      exact absurd (hconfiguration b hb) (by rw [← heq, hhttp a ha]; decide)
    · intro a ha b hb heq
      rcases mem_append.1 ha with ha | ha
      · exact absurd (hcluster b hb) (by rw [← heq, hhttp a ha]; decide)
      · exact absurd (hcluster b hb) (by rw [← heq, hconfiguration a ha]; decide)
    · intro a ha b hb heq
      obtain rfl : b = _ := htcp b hb
      rcases mem_append.1 ha with ha | ha
      · rcases mem_append.1 ha with ha | ha
        · exact absurd (hhttp a ha) (by rw [heq]; decide)
        · exact absurd (hconfiguration a ha) (by rw [heq]; decide)
      · exact absurd (hcluster a ha) (by rw [heq]; decide)

/-- TCP listeners, and a route to a store that is attached to all of them. -/
def storeInput (listeners : List Listener) : Input where
  gateway := { name := "gw", ns := "infra", listeners := listeners }
  tcpRoutes := [{
    name := "store"
    ns := "infra"
    parentRefs := [{ name := "gw" }]
    rules := [⟨[{ name := "store", port := some 6379 }]⟩] }]
  services := [⟨"store", "infra"⟩]

theorem uniqueNames_storeInput :
    ∃ m rs, gatewayAPI (storeInput [{ name := "store", port := 6379, protocol := .tcp }]) = .ok m ∧
      getResources .reference .entries shopTranslator m = .ok rs ∧
      rs.map (·.key) = [(.cluster, "infra:store:6379"), (.listener, "tcp-listener")] ∧
      (rs.map (·.key)).Nodup := by
  obtain ⟨m, rs, hm, hrs, hkeys, l, htcp, hhttp⟩ : ∃ m rs,
      gatewayAPI (storeInput [{ name := "store", port := 6379, protocol := .tcp }]) = .ok m ∧
      getResources .reference .entries shopTranslator m = .ok rs ∧
      rs.map (·.key) = [(.cluster, "infra:store:6379"), (.listener, "tcp-listener")] ∧
      ∃ l, m.tcp = [l] ∧ m.http = [] :=
    ⟨_, _, rfl, rfl, rfl, _, rfl, rfl⟩
  refine ⟨m, rs, hm, hrs, hkeys, (uniqueNames_iff hrs).2 ⟨?_, fun sp hsp => ?_⟩⟩
  · rw [htcp]
    exact pairwise_singleton _ _
  · rw [httpBackends, hhttp] at hsp
    cases hsp

/-- Two TCP listeners of a Gateway have the same name. -/
theorem names_not_unique :
    ∃ m rs, gatewayAPI (storeInput [{ name := "store", port := 6379, protocol := .tcp },
        { name := "replica", port := 6380, protocol := .tcp }]) = .ok m ∧
      getResources .reference .entries shopTranslator m = .ok rs ∧
      rs.map (·.key) = [(.cluster, "infra:store:6379"), (.listener, "tcp-listener"),
        (.listener, "tcp-listener")] ∧
      ¬ (rs.map (·.key)).Nodup :=
  ⟨_, _, rfl, rfl, rfl, by decide⟩

end Pipeline
