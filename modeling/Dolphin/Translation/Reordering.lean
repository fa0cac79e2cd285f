import Dolphin.Translation.Emission
import Dolphin.Translation.Translator

/-!
# The order of the routes of a model

Two models that differ in nothing but the order of the routes of their HTTP listeners
(`Reordered`) need not have the same Envoy configuration. The order decides which of two
equally specific Envoy routes is first, in which order the backends of merged routes are, and
which host name the clusters for port 443 expect.

* `translate_reordered`: the configuration is the same if these are the same (`OrderAgrees`),
  since nothing else is left of the order.
-/

namespace Translation

open Model Go Envoy List

/-- The listeners differ at most in the order of their routes. -/
structure SameListener (l l' : HTTPListener) : Prop where
  rest : l' = { l with routes := l'.routes }
  routes : l.routes.Perm l'.routes

structure Reordered (m m' : Model) : Prop where
  http : List.Forall₂ SameListener m.http m'.http
  tls : m'.tls = m.tls
  tcp : m'.tcp = m.tcp
  udp : m'.udp = m.udp

/-- What the order of routes decides is the same for both models. -/
structure OrderAgrees (hostNameSuffixMatch : Bool) (m m' : Model) : Prop where
  keys : ∀ secure h k, (routesFor m secure h).filter (fun x => x.getMatchKey = k) =
    (routesFor m' secure h).filter fun x => x.getMatchKey = k
  specificity : ∀ secure h s,
    (routesFor m secure h).filter (fun x => groupSpecificity [h] hostNameSuffixMatch
        (routesFor m secure h) x.getMatchKey = s) =
      (routesFor m' secure h).filter fun x => groupSpecificity [h] hostNameSuffixMatch
        (routesFor m secure h) x.getMatchKey = s
  upstream : (∀ sp ∈ (httpBackends m).filterMap servicePort, sp.port ≠ "443") ∨
    upstreamHostname m = upstreamHostname m'

namespace Reordered

variable {m m' : Model} (h : Reordered m m')

include h

theorem symm : Reordered m' m := by
  refine ⟨h.http.flip.imp fun l' l hl => ?_, h.tls.symm, h.tcp.symm, h.udp.symm⟩
  refine ⟨?_, hl.routes.symm⟩
  rw [hl.rest]

theorem map_http {β : Type} {f : HTTPListener → β}
    (hf : ∀ l routes, f { l with routes := routes } = f l) : m'.http.map f = m.http.map f := by
  have hforall := h.http
  generalize m.http = ls at hforall ⊢
  generalize m'.http = ls' at hforall ⊢
  induction hforall with
  | nil => rfl
  | cons hl _ ih => rw [map_cons, map_cons, ih, hl.rest, hf]

theorem http_eq_nil : m'.http = [] ↔ m.http = [] := by
  rw [← length_eq_zero_iff, ← length_eq_zero_iff, h.http.length_eq]

theorem firstPort_eq : firstPort m' = firstPort m := by
  rw [firstPort, firstPort, ← head?_map, ← head?_map, h.map_http fun l routes => rfl]

theorem listenerSummaries_eq : listenerSummaries m' = listenerSummaries m := by
  rw [listenerSummaries, listenerSummaries, h.map_http fun l routes => rfl, h.tls, h.tcp, h.udp]

theorem getServices_eq (orders : RangeOrders) (t : DefaultTranslator) :
    getServices orders t m' = getServices orders t m := by
  rw [getServices, getServices, h.map_http fun l routes => rfl, h.tls, h.tcp]

theorem getListener_eq (slices : Slices) (orders : ListenerOrders) (t : DefaultTranslator) :
    getListener slices orders t m' = getListener slices orders t m := by
  have hsecrets : tlsSecretsToHostnames m'.http = tlsSecretsToHostnames m.http := by
    have hmap (ls : List HTTPListener) : tlsSecretsToHostnames ls =
        (ls.map fun l => (l.tls, l.hostname)).foldl (fun secrets p =>
          (p.1.getD []).foldl (fun secrets s => secrets.appendAt s p.2) secrets) ∅ := by
      rw [foldl_map]
      rfl
    rw [hmap, hmap, h.map_http fun l routes => rfl]
  simp only [getListener, hsecrets, h.http_eq_nil, h.tls]

theorem exists_listener {l : HTTPListener} (hl : l ∈ m.http) :
    ∃ l' ∈ m'.http, SameListener l l' := by
  have hforall := h.http
  generalize m.http = ls at hforall hl
  generalize m'.http = ls' at hforall ⊢
  induction hforall with
  | nil => cases hl
  | cons hsame _ ih =>
    rcases mem_cons.1 hl with rfl | hl
    · exact ⟨_, mem_cons_self, hsame⟩
    · obtain ⟨l', hl', hsame⟩ := ih hl
      exact ⟨l', mem_cons_of_mem _ hl', hsame⟩

theorem mem_hostsFor_iff {secure : Bool} {host : String} :
    host ∈ hostsFor m' secure ↔ host ∈ hostsFor m secure := by
  have hsub {m m' : Model} (h : Reordered m m') (hhost : host ∈ hostsFor m secure) :
      host ∈ hostsFor m' secure := by
    obtain ⟨l, hl, hsecure, r, hr, hmem⟩ := mem_hostsFor.1 hhost
    obtain ⟨l', hl', hsame⟩ := h.exists_listener hl
    refine mem_hostsFor.2 ⟨l', hl', ?_, r, hsame.routes.mem_iff.1 hr, ?_⟩
    · rwa [hsame.rest]
    · rwa [hsame.rest]
  exact ⟨hsub h.symm, hsub h⟩

theorem mem_httpBackends_iff {be : Backend} : be ∈ httpBackends m' ↔ be ∈ httpBackends m := by
  have hsub {m m' : Model} (h : Reordered m m') (hbe : be ∈ httpBackends m) :
      be ∈ httpBackends m' := by
    obtain ⟨l, hl, hbe⟩ := mem_flatMap.1 hbe
    obtain ⟨r, hr, hbe⟩ := mem_flatMap.1 hbe
    obtain ⟨l', hl', hsame⟩ := h.exists_listener hl
    exact mem_flatMap.2 ⟨l', hl', mem_flatMap.2 ⟨r, hsame.routes.mem_iff.1 hr, hbe⟩⟩
  exact ⟨hsub h.symm, hsub h⟩

/-! ## Route configurations -/

variable {slices : Slices} {t : DefaultTranslator}

theorem virtualHostFor_eq (ha : OrderAgrees t.hostNameSuffixMatch m m') (secure : Bool)
    (host : String) : virtualHostFor t m secure host = virtualHostFor t m' secure host := by
  rw [virtualHostFor, virtualHostFor, h.firstPort_eq]
  exact newVirtualHost_congr rfl (ha.keys secure host) (ha.specificity secure host)

/-- The virtual hosts are sorted, so that the order of host names does not matter. -/
theorem portConfiguration_eq (ht : t.enforceHTTPs = false)
    (ha : OrderAgrees t.hostNameSuffixMatch m m') (secure : Bool) :
    portConfiguration slices t m (classPort secure) =
      portConfiguration slices t m' (classPort secure) := by
  have : Nonempty VirtualHost := ⟨⟨"", [], []⟩⟩
  have hnil : hostsFor m' secure = [] ↔ hostsFor m secure = [] := by
    simp only [eq_nil_iff_forall_not_mem, h.mem_hostsFor_iff]
  by_cases hhosts : hostsFor m secure = []
  · rw [portConfiguration, portConfiguration, get?_portHostName, get?_portHostName, if_pos hhosts,
      if_pos (hnil.2 hhosts)]
    simp only [ne_eq, h.http_eq_nil]
  · obtain ⟨hosts, hnodup, hmem, heq⟩ := portConfiguration_eq_mapM slices t hhosts
    obtain ⟨hosts', hnodup', hmem', heq'⟩ := portConfiguration_eq_mapM slices t (mt hnil.1 hhosts)
    have hperm : hosts.Perm hosts' := by
      refine (perm_ext_iff_of_nodup hnodup hnodup').2 fun a => ?_
      rw [hmem, hmem', configuredHosts_iff ht, configuredHosts_iff ht, h.mem_hostsFor_iff]
    rw [heq, heq', configuredHost_eq ht, configuredHost_eq ht,
      ← funext (h.virtualHostFor_eq ha secure)]
    rcases mapM_perm (virtualHostFor t m secure) hperm with ⟨vh, hvhs, hvhs', hmade⟩ | hpanic
    case inr => rw [hpanic]
    have hnames : ((hosts.map vh).map (·.name)).Nodup := by
      rwa [names_of_virtualHosts (fun _ _ hvh => (name_newVirtualHost hvh).1) hvhs]
    have hsorted := insertionSort_eq_of_perm (r := fun a b : VirtualHost => a.name ≤ b.name)
      (fun a b => Iff.rfl) (hperm.map vh) hnames
    rw [hvhs, hvhs']
    exact congrArg (fun vhs => Except.ok [RouteConfiguration.mk _ vhs]) hsorted

theorem getEnvoyHTTPRouteConfiguration_eq (ht : t.enforceHTTPs = false)
    (ha : OrderAgrees t.hostNameSuffixMatch m m') :
    getEnvoyHTTPRouteConfiguration slices t m = getEnvoyHTTPRouteConfiguration slices t m' := by
  refine eq_of_forall_ok fun rcs => ?_
  rw [getEnvoyHTTPRouteConfiguration_eq_ok, getEnvoyHTTPRouteConfiguration_eq_ok,
    h.portConfiguration_eq ht ha, h.portConfiguration_eq ht ha]

/-! ## Services and clusters -/

theorem mem_servicePorts_iff {sp : ServicePort} :
    sp ∈ (httpBackends m').filterMap servicePort ↔ sp ∈ (httpBackends m).filterMap servicePort := by
  simp only [mem_filterMap, h.mem_httpBackends_iff]

theorem mem_servicePortsOf_iff {sp : ServicePort} :
    sp ∈ servicePortsOf m' ↔ sp ∈ servicePortsOf m := by
  simp only [servicePortsOf, backendsOf, filterMap_append, mem_append,
    h.mem_servicePorts_iff, tlsBackends, tcpBackends, h.tls, h.tcp]

theorem namesDistinct (hnames : NamesDistinct (servicePortsOf m)) :
    NamesDistinct (servicePortsOf m') :=
  hnames.subset fun _ hsp => h.mem_servicePortsOf_iff.1 hsp

theorem clusterOf (ha : OrderAgrees t.hostNameSuffixMatch m m') {c : Cluster} (hc : ClusterOf t m c) :
    ClusterOf t m' c := by
  cases hc with
  | http sp hsp =>
    have hsame : newHTTPCluster t m sp = newHTTPCluster t m' sp := by
      rw [newHTTPCluster, newHTTPCluster]
      rcases ha.upstream with hport | hupstream
      · rw [if_neg (hport sp hsp), if_neg (hport sp hsp)]
      · rw [hupstream]
    rw [hsame]
    exact .http sp (h.mem_servicePorts_iff.2 hsp)
  | tcp sp hsp hname =>
    refine .tcp sp ?_ fun hmem => hname ?_
    · rw [tlsBackends, tcpBackends, h.tls, h.tcp]
      exact hsp
    · obtain ⟨sp', hsp', heq⟩ := mem_map.1 hmem
      exact mem_map.2 ⟨sp', h.mem_servicePorts_iff.1 hsp', heq⟩

end Reordered

/-! ## The configuration -/

namespace OrderAgrees

variable {hostNameSuffixMatch : Bool} {m m' : Model}

theorem symm (ha : OrderAgrees hostNameSuffixMatch m m') (h : Reordered m m') :
    OrderAgrees hostNameSuffixMatch m' m := by
  have hgroups (secure : Bool) (host : String) :
      groupSpecificity [host] hostNameSuffixMatch (routesFor m' secure host) =
        groupSpecificity [host] hostNameSuffixMatch (routesFor m secure host) := by
    funext k
    rw [groupSpecificity, groupSpecificity, groupAt, groupAt, ha.keys]
  refine ⟨fun secure host k => (ha.keys secure host k).symm, fun secure host s => ?_, ?_⟩
  · rw [hgroups]
    exact (ha.specificity secure host s).symm
  · refine ha.upstream.imp (fun hport sp hsp => ?_) Eq.symm
    exact hport sp (h.mem_servicePorts_iff.1 hsp)

end OrderAgrees

theorem translate_reordered {m m' : Model} (h : Reordered m m') {t : DefaultTranslator}
    (ht : t.enforceHTTPs = false) (ha : OrderAgrees t.hostNameSuffixMatch m m')
    (hnames : NamesDistinct (servicePortsOf m)) (slices : Slices) (orders : RangeOrders) :
    t.translate slices orders m = t.translate slices orders m' := by
  have hservices : getBackendServices slices orders.services m =
      getBackendServices slices orders.services m' :=
    getBackendServices_congr (fun sp => h.mem_servicePortsOf_iff.symm) _ _
  have hclusters :
      getClusters slices orders.clusters t m = getClusters slices orders.clusters t m' :=
    getClusters_congr _ hnames (h.namesDistinct hnames)
      (fun c => ⟨h.clusterOf ha, h.symm.clusterOf (ha.symm h)⟩) _
  have htcp : getTCPRouteListeners m' = getTCPRouteListeners m := by
    rw [getTCPRouteListeners, getTCPRouteListeners, h.tcp]
  rw [DefaultTranslator.translate, DefaultTranslator.translate, getResources, getResources,
    hservices, hclusters, h.getListener_eq, h.getServices_eq,
    h.getEnvoyHTTPRouteConfiguration_eq ht ha, htcp]

theorem GatewayTranslator.translate_reordered {m m' : Model} (h : Reordered m m')
    (ha : OrderAgrees true m m') (hnames : NamesDistinct (servicePortsOf m))
    (hash : String → String) (slices : Slices) (orders : RangeOrders) (t : GatewayTranslator)
    (nodePort : Bool) :
    t.translate hash slices orders nodePort m = t.translate hash slices orders nodePort m' := by
  have hconfig (source : FullyQualifiedResource) :
      t.envoyConfig slices orders source m = t.envoyConfig slices orders source m' := by
    simp only [envoyConfig, h.http_eq_nil, h.tls, h.tcp,
      Translation.translate_reordered h (t := t.toDefault source) rfl ha hnames]
  simp only [translate, modelSource, h.listenerSummaries_eq, hconfig]

end Translation
