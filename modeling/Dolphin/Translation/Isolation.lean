import Dolphin.Translation.References

/-!
# Clusters of other tenants

The routes of all tenants end up in one model. The cluster of a backend should be a matter of the
routes that refer to the backend: two models that agree on these should contact it in the same
way (`Isolated`).

A cluster is made from its backend, except for the server name with which backends at port 443
are contacted: that is `upstreamHostname`, the first host name of the last HTTP route of the
whole model that has host names. `isolated_iff` says that this is the only leak.
-/

namespace Translation

open Model Go Envoy List

/-! ## What a model says of a backend -/

/-- The backend is one of the list. -/
def RefersToPort (sp : ServicePort) (backends : List Backend) : Prop :=
  sp ∈ backends.filterMap servicePort

instance (sp : ServicePort) (backends : List Backend) : Decidable (RefersToPort sp backends) :=
  inferInstanceAs (Decidable (_ ∈ _))

/-- The routes that refer to the backend are the same in both models, in whatever order. -/
structure SameRoutes (sp : ServicePort) (m m' : Model) : Prop where
  http : ∀ r, RefersToPort sp (routeBackends r) →
    (r ∈ m.http.flatMap (·.routes) ↔ r ∈ m'.http.flatMap (·.routes))
  tls : ∀ r : TLSRoute, RefersToPort sp r.backends →
    (r ∈ m.tls.flatMap (·.routes) ↔ r ∈ m'.tls.flatMap (·.routes))
  tcp : ∀ r : L4Route, RefersToPort sp r.backends →
    (r ∈ m.tcp.flatMap (·.routes) ↔ r ∈ m'.tcp.flatMap (·.routes))

/-- No other backend of the model has the cluster name. -/
def Unambiguous (sp : ServicePort) (m : Model) : Prop :=
  ∀ sp' ∈ servicePortsOf m, sp'.clusterName = sp.clusterName → sp' = sp

instance (sp : ServicePort) (m : Model) : Decidable (Unambiguous sp m) :=
  inferInstanceAs (Decidable (∀ sp' ∈ _, _))

/-- The cluster that is emitted for the backend, which is its own. -/
structure EmittedFor (t : DefaultTranslator) (m : Model) (sp : ServicePort) (c : Cluster) :
    Prop where
  name_eq : c.name = sp.clusterName
  unambiguous : Unambiguous sp m
  emitted : ∃ slices orders, .cluster c ∈ getClusters slices orders t m

/-- The cluster of the backend is the same in models with the same routes to it. -/
def Isolated (t : DefaultTranslator) (sp : ServicePort) (m m' : Model) : Prop :=
  SameRoutes sp m m' → ∀ c c', EmittedFor t m sp c → EmittedFor t m' sp c' → c = c'

/-! ## The cluster of a backend -/

/-- The names of a table have clusters, and these have the names, also if a name was put in
    twice. -/
structure ClusterTable.Named (table : ClusterTable) : Prop where
  found : ∀ name ∈ table.sortedClusterNames, ∃ c, table.envoyClusters.get? name = some c
  named : ∀ name c, table.envoyClusters.get? name = some c → c.name = name

variable {table : ClusterTable}

theorem ClusterTable.Named.add (h : table.Named) (c : Cluster) : (table.add c).Named := by
  constructor
  · intro name hname
    rw [ClusterTable.add, Map.get?_set]
    split_ifs with heq
    · exact ⟨c, rfl⟩
    · rcases mem_append.1 hname with hname | hname
      · exact h.found name hname
      · exact absurd (mem_singleton.1 hname) heq
  · intro name c' hget
    rw [ClusterTable.add, Map.get?_set] at hget
    split_ifs at hget with heq
    · rw [heq, Option.some_inj.1 hget]
    · exact h.named name c' hget

theorem ClusterTable.Named.foldl_add (h : table.Named) (cs : List Cluster) :
    (cs.foldl ClusterTable.add table).Named := by
  induction cs generalizing table with
  | nil => exact h
  | cons c cs ih => exact ih (h.add c)

theorem ClusterTable.Named.foldl_addTCP (h : table.Named) (sps : List ServicePort) :
    (sps.foldl ClusterTable.addTCP table).Named := by
  induction sps generalizing table with
  | nil => exact h
  | cons sp sps ih =>
    refine ih ?_
    rw [ClusterTable.addTCP]
    cases table.envoyClusters.get? sp.clusterName with
    | some c => exact h
    | none => exact h.add _

section

variable {t : DefaultTranslator} {m m' : Model} {sp : ServicePort} {c : Cluster}

theorem named_empty : ({} : ClusterTable).Named := ⟨by simp, fun _ _ hget => by simp at hget⟩

theorem EmittedFor.eq (h : EmittedFor t m sp c) :
    RefersToPort sp (httpBackends m) ∧ c = newHTTPCluster t m sp ∨
      ¬ RefersToPort sp (httpBackends m) ∧ c = newTCPClusterWithDefaults sp := by
  obtain ⟨hname, hunambiguous, slices, orders, hmem⟩ := h
  obtain ⟨http, others, _, hhttp, hothers, htable⟩ := exists_clusterTable slices orders t m
  have hnamed := named_empty.foldl_add (http.map (newHTTPCluster t m))
  have hnamed' := hnamed.foldl_addTCP others
  -- the cluster is in the table, under its name
  obtain ⟨name, _, hc⟩ := mem_map.1 hmem
  rw [htable] at hc
  cases hget : (others.foldl ClusterTable.addTCP
      ((http.map (newHTTPCluster t m)).foldl ClusterTable.add {})).envoyClusters.get? name with
  | none =>
    rw [hget] at hc
    cases hc
  | some c' =>
    rw [hget] at hc
    obtain rfl := XDSResource.cluster.inj hc
    obtain rfl : name = sp.clusterName := (hnamed'.named name c' hget).symm.trans hname
    rcases ClusterTable.get?_foldl_addTCP hget with hget | ⟨hnone, sp', hsp', hname', rfl⟩
    · rcases ClusterTable.get?_foldl_add hget with hget | hmem
      · simp at hget
      · obtain ⟨sp', hsp', rfl⟩ := mem_map.1 hmem
        have hrefers := (hhttp sp').1 hsp'
        obtain rfl := hunambiguous sp' (http_mem_servicePortsOf hrefers) hname
        exact .inl ⟨hrefers, rfl⟩
    · obtain rfl := hunambiguous sp' (tcp_mem_servicePortsOf ((hothers sp').1 hsp')) hname'
      refine .inr ⟨fun hrefers => ?_, rfl⟩
      have hlisted : sp'.clusterName ∈
          ((http.map (newHTTPCluster t m)).foldl ClusterTable.add {}).sortedClusterNames := by
        rw [ClusterTable.names_foldl_add, map_map]
        exact mem_append_right _ (mem_map.2 ⟨sp', (hhttp sp').2 hrefers, rfl⟩)
      obtain ⟨c, hc⟩ := hnamed.found _ hlisted
      rw [hnone] at hc
      cases hc

theorem exists_emittedFor (t : DefaultTranslator) (hrefers : RefersToPort sp (httpBackends m))
    (hunambiguous : Unambiguous sp m) : EmittedFor t m sp (newHTTPCluster t m sp) := by
  let orders : ClusterOrders := ⟨.entries, .entries, .entries⟩
  obtain ⟨http, others, _, hhttp, _, htable⟩ := exists_clusterTable .reference orders t m
  have hnamed := (named_empty.foldl_add (http.map (newHTTPCluster t m))).foldl_addTCP others
  have hlisted : sp.clusterName ∈ (clusterTable .reference orders t m).sortedClusterNames := by
    rw [htable]
    refine (ClusterTable.names_foldl_addTCP _ _).subset ?_
    rw [ClusterTable.names_foldl_add, map_map]
    exact mem_append_right _ (mem_map.2 ⟨sp, (hhttp sp).2 hrefers, rfl⟩)
  rw [← htable] at hnamed
  obtain ⟨c, hc⟩ := hnamed.found _ hlisted
  have hemitted : EmittedFor t m sp c := by
    refine ⟨hnamed.named _ c hc, hunambiguous, .reference, orders, ?_⟩
    exact mem_map.2 ⟨sp.clusterName, mem_sortStrings.2 hlisted, by rw [hc]⟩
  rcases hemitted.eq with ⟨_, rfl⟩ | ⟨hnot, _⟩
  · exact hemitted
  · exact absurd hrefers hnot

/-- It is the only one with its name, if no two backends share a name. -/
theorem cluster_mem_getClusters_iff (slices : Slices) (orders : ClusterOrders)
    (t : DefaultTranslator) (hnames : NamesDistinct (servicePortsOf m))
    (hrefers : RefersToPort sp (httpBackends m)) (hname : c.name = sp.clusterName) :
    .cluster c ∈ getClusters slices orders t m ↔ c = newHTTPCluster t m sp := by
  have hhttp : ∀ sp ∈ (httpBackends m).filterMap servicePort, sp ∈ servicePortsOf m := by
    intro sp hsp
    obtain ⟨be, hbe, hsp⟩ := mem_filterMap.1 hsp
    exact mem_filterMap.2 ⟨be, mem_append_left _ (mem_append_left _ hbe), hsp⟩
  have hunique (c : Cluster) (hname : c.name = sp.clusterName)
      (hc : .cluster c ∈ getClusters slices orders t m) : c = newHTTPCluster t m sp := by
    have hemitted : EmittedFor t m sp c :=
      ⟨hname, fun sp' hsp' => hnames sp' hsp' sp (hhttp sp hrefers), slices, orders, hc⟩
    rcases hemitted.eq with ⟨_, hc⟩ | ⟨hnot, _⟩
    · exact hc
    · exact absurd hrefers hnot
  refine ⟨hunique c hname, fun hc => ?_⟩
  obtain ⟨cs, hcs, _, hmem, _⟩ := getClusters_spec slices orders t (hnames.subset hhttp)
  obtain ⟨c', hc', hname'⟩ := mem_map.1 ((hmem sp.clusterName).2
    (mem_map.2 ⟨sp, hhttp sp hrefers, rfl⟩))
  have hc' : .cluster c' ∈ getClusters slices orders t m := hcs ▸ mem_map_of_mem hc'
  rw [hc, ← hunique c' hname' hc']
  exact hc'

/-- Which backends HTTP routes refer to is a matter of the routes that refer to them. -/
theorem SameRoutes.refersToPort (h : SameRoutes sp m m')
    (hrefers : RefersToPort sp (httpBackends m)) : RefersToPort sp (httpBackends m') := by
  obtain ⟨be, hbe, hsp⟩ := mem_filterMap.1 hrefers
  obtain ⟨l, hl, r, hr, hbe⟩ := mem_httpBackends.1 hbe
  have hroute := (h.http r (mem_filterMap.2 ⟨be, hbe, hsp⟩)).1
    (mem_flatMap.2 ⟨l, hl, hr⟩)
  obtain ⟨l', hl', hr'⟩ := mem_flatMap.1 hroute
  exact mem_filterMap.2 ⟨be, mem_httpBackends.2 ⟨l', hl', r, hr', hbe⟩, hsp⟩

theorem SameRoutes.symm (h : SameRoutes sp m m') : SameRoutes sp m' m :=
  ⟨fun r hr => (h.http r hr).symm, fun r hr => (h.tls r hr).symm, fun r hr => (h.tcp r hr).symm⟩

theorem newHTTPCluster_eq_iff : newHTTPCluster t m sp = newHTTPCluster t m' sp ↔
      (sp.port = "443" → upstreamHostname m = upstreamHostname m') := by
  rw [newHTTPCluster, newHTTPCluster]
  by_cases hport : sp.port = "443"
  · simp [hport]
  · simp [hport]

end

/-- The clusters of a backend agree except if HTTP routes refer to its port 443, and the server
    name that the models have for all such backends is another. -/
theorem isolated_iff (t : DefaultTranslator) (sp : ServicePort) (m m' : Model) :
    Isolated t sp m m' ↔
      (SameRoutes sp m m' → Unambiguous sp m → Unambiguous sp m' →
        RefersToPort sp (httpBackends m) → sp.port = "443" →
        upstreamHostname m = upstreamHostname m') := by
  constructor
  · intro h hsame hunambiguous hunambiguous' hrefers
    refine newHTTPCluster_eq_iff.1 (h hsame _ _ (exists_emittedFor t hrefers hunambiguous) ?_)
    exact exists_emittedFor t (hsame.refersToPort hrefers) hunambiguous'
  · intro h hsame c c' hc hc'
    rcases hc.eq with ⟨hrefers, rfl⟩ | ⟨hrefers, rfl⟩ <;>
      rcases hc'.eq with ⟨hrefers', rfl⟩ | ⟨hrefers', rfl⟩
    · exact newHTTPCluster_eq_iff.2 (h hsame hc.unambiguous hc'.unambiguous hrefers)
    · exact absurd (hsame.refersToPort hrefers) hrefers'
    · exact absurd (hsame.symm.refersToPort hrefers') hrefers
    · rfl

def vaultPort : ServicePort := ⟨"secure", "vault", "443"⟩

def vaultRoute : Model.HTTPRoute where
  hostnames := ["vault.example"]
  backends := [⟨"vault", "secure", some ⟨443, ""⟩, none⟩]

def blogRoute : Model.HTTPRoute where
  hostnames := ["blog.example"]
  backends := [⟨"blog", "web", some ⟨80, ""⟩, none⟩]

def tenantModel (routes : List Model.HTTPRoute) : Model where
  http := [{ name := "edge", port := 80, hostname := "*", routes := routes }]

def tenantTranslator : DefaultTranslator :=
  ⟨"edge", "infra", "secrets", false, false, true, 60, true, true⟩

theorem sameRoutes_vaultRoute :
    SameRoutes vaultPort (tenantModel [vaultRoute]) (tenantModel [vaultRoute, blogRoute]) := by
  refine ⟨fun r hr => ?_, fun _ _ => Iff.rfl, fun _ _ => Iff.rfl⟩
  have hne : r ≠ blogRoute := by
    rintro rfl
    exact absurd hr (by decide)
  simp [tenantModel, hne]

/-- A route of another tenant changes the server name with which the backend is contacted. -/
theorem not_isolated_vault :
    ¬ Isolated tenantTranslator vaultPort (tenantModel [vaultRoute])
      (tenantModel [vaultRoute, blogRoute]) := by
  intro h
  have hunambiguous : Unambiguous vaultPort (tenantModel [vaultRoute]) := by decide
  have hunambiguous' : Unambiguous vaultPort (tenantModel [vaultRoute, blogRoute]) := by decide
  have heq := h sameRoutes_vaultRoute _ _ (exists_emittedFor _ (by decide) hunambiguous)
    (exists_emittedFor _ (by decide) hunambiguous')
  exact absurd (congrArg Cluster.transportSocket heq) (by decide)

end Translation
