import Dolphin.Translation.Translator

/-!
# References to clusters

Several loops over the model put names of clusters in Envoy resources: those that make route
actions and mirror policies, the filter chains for passthrough, and the TCP listeners. The
clusters themselves are made by yet other loops. All these names are built from backends of
the model, and the clusters are those of all backends of the model: `clusterIntegrity`.

For routes, the names are followed through the definitions: through the mutations of an
action, the merging of the routes with the same match, and the virtual hosts.
-/

namespace Translation

open Model Go Envoy List

/-! ## Route actions -/

def routeBackends (r : Model.HTTPRoute) : List Backend :=
  r.backends ++ r.requestMirrors.filterMap (·.backend)

theorem mem_httpBackends {m : Model} {be : Backend} :
    be ∈ httpBackends m ↔ ∃ l ∈ m.http, ∃ r ∈ l.routes, be ∈ routeBackends r := by
  simp only [httpBackends, routeBackends, mem_flatMap]

theorem clusterNames_mono {as bs : List Backend} (h : ∀ be ∈ as, be ∈ bs) {name : String}
    (hname : name ∈ clusterNames as) : name ∈ clusterNames bs := by
  obtain ⟨be, hbe, hok⟩ := mem_clusterNames.1 hname
  exact mem_clusterNames.2 ⟨be, h be hbe, hok⟩

section

variable (rewrite : Option HTTPURLRewriteFilter)

@[simp]
theorem clusterRefs_hostRewriteMutation (action : RouteAction) :
    (hostRewriteMutation rewrite action).clusterRefs = action.clusterRefs := by
  rw [hostRewriteMutation]
  split <;> rfl

@[simp]
theorem clusterRefs_pathPrefixMutation (route : Model.HTTPRoute) (action : RouteAction) :
    (pathPrefixMutation rewrite route action).clusterRefs = action.clusterRefs := by
  rw [pathPrefixMutation]
  split
  · rfl
  · split_ifs <;> rfl

@[simp]
theorem clusterRefs_pathFullReplaceMutation (action : RouteAction) :
    (pathFullReplaceMutation rewrite action).clusterRefs = action.clusterRefs := by
  rw [pathFullReplaceMutation]
  split
  · rfl
  · split_ifs <;> rfl

end

@[simp]
theorem clusterRefs_timeoutMutation (backend request : Option Int) (action : RouteAction) :
    (timeoutMutation backend request action).clusterRefs = action.clusterRefs := by
  cases backend <;> cases request <;> rfl

section

variable {action action' : RouteAction} {name : String}

theorem clusterRefs_requestMirrorMutation {mirrors : List HttpRequestMirror}
    (h : requestMirrorMutation mirrors action = .ok action') (hname : name ∈ action'.clusterRefs) :
    name ∈ action.clusterRefs ∨ name ∈ clusterNames (mirrors.filterMap (·.backend)) := by
  rw [requestMirrorMutation] at h
  obtain ⟨policies, hpolicies, h⟩ := bind_eq_ok.1 h
  split_ifs at h
  · rw [← pure_eq_ok.1 h] at hname
    exact .inl hname
  · rw [← pure_eq_ok.1 h] at hname
    rcases mem_append.1 hname with hname | hname
    · exact .inl (mem_append_left _ hname)
    · obtain ⟨policy, hpolicy, rfl⟩ := mem_map.1 hname
      obtain ⟨be, hbe, hok⟩ := (mem_mapM hpolicies).1 hpolicy
      obtain ⟨cluster, hcluster, hok⟩ := bind_pure_eq_ok.1 hok
      rw [← hok]
      exact .inr (mem_clusterNames.2 ⟨be, hbe, hcluster⟩)

theorem clusterRefs_mutateAction {route : Model.HTTPRoute}
    (h : mutateAction route action = .ok action') (hname : name ∈ action'.clusterRefs) :
    name ∈ action.clusterRefs ∨
      name ∈ clusterNames (route.requestMirrors.filterMap (·.backend)) := by
  rw [mutateAction] at h
  obtain ⟨mirrored, hmirrored, h⟩ := bind_pure_eq_ok.1 h
  rw [← h, clusterRefs_timeoutMutation] at hname
  simpa using clusterRefs_requestMirrorMutation hmirrored hname

theorem clusterRefs_getRouteAction {route : Model.HTTPRoute} {backends : List Backend}
    (h : getRouteAction route backends = .ok action) (hname : name ∈ action.clusterRefs) :
    name ∈ clusterNames (backends ++ route.requestMirrors.filterMap (·.backend)) := by
  have hmirrors (hmem : name ∈ clusterNames (route.requestMirrors.filterMap (·.backend))) :
      name ∈ clusterNames (backends ++ route.requestMirrors.filterMap (·.backend)) :=
    clusterNames_mono (fun be hbe => mem_append_right _ hbe) hmem
  unfold getRouteAction at h
  split at h
  · -- a single backend
    rename_i be
    obtain ⟨cluster, hcluster, h⟩ := bind_eq_ok.1 h
    rcases clusterRefs_mutateAction h hname with hname | hname
    · obtain rfl : name = cluster := by
        simpa [RouteAction.clusterRefs, ClusterSpecifier.clusterRefs] using hname
      exact mem_clusterNames.2 ⟨be, mem_append_left _ mem_cons_self, hcluster⟩
    · exact hmirrors hname
  · -- weighted clusters
    obtain ⟨clusters, hclusters, h⟩ := bind_eq_ok.1 h
    rcases clusterRefs_mutateAction h hname with hname | hname
    · obtain ⟨weight, hweight, rfl⟩ : ∃ weight ∈ clusters, weight.name = name := by
        simpa [RouteAction.clusterRefs, ClusterSpecifier.clusterRefs] using hname
      obtain ⟨be, hbe, hok⟩ := (mem_mapM hclusters).1 hweight
      obtain ⟨cluster, hcluster, hok⟩ := bind_pure_eq_ok.1 hok
      rw [← hok]
      exact mem_clusterNames.2 ⟨be, mem_append_left _ hbe, hcluster⟩
    · exact hmirrors hname

end

/-! ## Virtual hosts -/

section

variable {httpRoutes : List Model.HTTPRoute} {e : Option Route} {name : String}

theorem MadeBy.clusterRefs {hostnames : List String} {suffixMatch : Bool} {port : Nat}
    {r : Model.HTTPRoute} (hr : r ∈ httpRoutes)
    (h : MadeBy httpRoutes hostnames suffixMatch port r e) (hname : name ∈ Route.clusterRefs e) :
    name ∈ clusterNames (httpRoutes.flatMap routeBackends) := by
  obtain ⟨first, rest, deleted, hgroup, h⟩ := h
  rcases envoyHTTPRoute_cases h with ⟨_, _, rfl, _⟩ | ⟨_, action, haction, rfl, _⟩
  · -- without a backend there is at most a direct response
    rw [envoyHTTPRouteNoBackend] at hname
    cases hresponse : first.directResponse with
    | none =>
      rw [hresponse] at hname
      cases hname
    | some response =>
      rw [hresponse] at hname
      cases hname
  · rw [groupAction] at haction
    split at haction
    · rw [← pure_eq_ok.1 haction] at hname
      cases hname
    · obtain ⟨action', haction', rfl⟩ := map_eq_ok.1 haction
      refine clusterNames_mono (fun be hbe => ?_) (clusterRefs_getRouteAction haction' hname)
      rcases mem_append.1 hbe with hbe | hbe
      · -- the backends are those of all routes with the same match
        obtain ⟨x, hx, hbe⟩ := mem_flatMap.1 hbe
        obtain ⟨r', hr', _, rfl⟩ := mem_groupAt.1 (hgroup ▸ hx)
        exact mem_flatMap.2 ⟨r', hr', mem_append_left _ hbe⟩
      · -- the mirrors are those of the route at hand
        exact mem_flatMap.2 ⟨r, hr, mem_append_right _ hbe⟩

theorem clusterRefs_envoyHTTPSRoutes {hostnames : List String} {suffixMatch : Bool}
    (he : e ∈ envoyHTTPSRoutes httpRoutes hostnames suffixMatch) : Route.clusterRefs e = [] := by
  rw [envoyHTTPSRoutes] at he
  revert he
  -- every route that the loop has appended so far is a redirect
  refine List.foldlRecOn (motive := fun acc : Go.Map String (List Model.HTTPRoute) ×
      List (Option Route) => e ∈ acc.2 → Route.clusterRefs e = []) _ _
    (by simp) fun acc ih r _ he => ?_
  split at he
  · exact ih he
  · exact ih he
  · rcases mem_append.1 he with he | he
    · exact ih he
    · rw [mem_singleton.1 he]
      rfl

theorem clusterRefs_newVirtualHost {param : VirtualHostParameter} {vh : VirtualHost}
    (h : newVirtualHost httpRoutes param = .ok vh) (hname : name ∈ vh.clusterRefs) :
    name ∈ clusterNames (httpRoutes.flatMap routeBackends) := by
  obtain ⟨e, he, hname⟩ := mem_flatMap.1 hname
  rcases mem_newVirtualHost h he with he | ⟨routes, hroutes, he⟩
  · rw [clusterRefs_envoyHTTPSRoutes he] at hname
    cases hname
  · obtain ⟨r, hr, hmade⟩ := mem_envoyHTTPRoutes hroutes he
    exact hmade.clusterRefs hr hname

end

/-! ## All resources -/

/-- Every backend has a port, and no colon is in its namespace, name and port. -/
def Addressable (m : Model) : Prop :=
  ∀ be ∈ backendsOf m, be.port.isSome ∧ ':' ∉ be.ns.toList ∧ ':' ∉ be.name.toList ∧
    ∀ port ∈ be.port, ':' ∉ port.getPort.toList

instance (m : Model) : Decidable (Addressable m) :=
  inferInstanceAs (Decidable (∀ be ∈ backendsOf m, be.port.isSome ∧ ':' ∉ be.ns.toList ∧
    ':' ∉ be.name.toList ∧ ∀ port ∈ be.port, ':' ∉ port.getPort.toList))

/-- The clusters are distinct, sorted, and those of the backends; whatever refers to a cluster
    refers to one of them; and the backend services have the same ports. -/
structure ClusterIntegrity (slices : Slices) (orders : RangeOrders) (t : DefaultTranslator)
    (m : Model) : Prop where
  clusters : ∃ cs : List Cluster, getClusters slices orders.clusters t m = cs.map .cluster ∧
    (cs.map (·.name)).Pairwise (· < ·) ∧ ∀ name, name ∈ cs.map (·.name) ↔
      ∃ be ∈ backendsOf m, ∃ port, be.port = some port ∧
        getClusterName be.ns be.name port.getPort = name
  returns : (∃ rs, getResources slices orders t m = .ok rs) ↔
    ∃ rcs, getEnvoyHTTPRouteConfiguration slices t m = .ok rcs
  references : ∀ rs, getResources slices orders t m = .ok rs → ∀ r ∈ rs, ∀ name ∈ r.clusterRefs,
    ∃ c, .cluster c ∈ getClusters slices orders.clusters t m ∧ c.name = name
  services : ((getBackendServices slices orders.services m).flatMap (·.servicePorts)).Nodup ∧
    ∀ sp, sp ∈ (getBackendServices slices orders.services m).flatMap (·.servicePorts) ↔
      ∃ be ∈ backendsOf m, ∃ port, be.port = some port ∧ sp = ⟨be.ns, be.name, port.getPort⟩

section

variable {slices : Slices} {orders : RangeOrders} {t : DefaultTranslator} {m : Model}

variable {be : Backend}

theorem servicePort_eq_some {sp : ServicePort} : servicePort be = some sp ↔
      ∃ port, be.port = some port ∧ sp = ⟨be.ns, be.name, port.getPort⟩ := by
  simp only [servicePort, Option.map_eq_some_iff, eq_comm (b := sp)]

theorem Addressable.plain (h : Addressable m) (hbe : be ∈ backendsOf m) {sp : ServicePort}
    (hsp : servicePort be = some sp) : sp.Plain := by
  obtain ⟨_, hns, hname, hport⟩ := h be hbe
  obtain ⟨port, hbeport, rfl⟩ := servicePort_eq_some.1 hsp
  exact ⟨hns, hname, hport port hbeport⟩

theorem Addressable.exists_backendCluster (h : Addressable m) (hbe : be ∈ backendsOf m) :
    ∃ name, backendCluster be = .ok name := by
  obtain ⟨port, hport⟩ := Option.isSome_iff_exists.1 (h be hbe).1
  rw [backendCluster, hport]
  exact ⟨_, rfl⟩

theorem mem_backendsOf :
    be ∈ backendsOf m ↔ be ∈ httpBackends m ∨ be ∈ tlsBackends m ∨ be ∈ tcpBackends m := by
  rw [backendsOf, mem_append, mem_append, or_assoc]

/-- Whatever refers to a cluster refers to one of the backends of the model. -/
theorem clusterRefs_getResources {rs : List XDSResource}
    (h : getResources slices orders t m = .ok rs)
    (hclusters : ∀ r ∈ getClusters slices orders.clusters t m, r.clusterRefs = [])
    {r : XDSResource} (hr : r ∈ rs) {name : String} (hname : name ∈ r.clusterRefs) :
    name ∈ clusterNames (backendsOf m) := by
  obtain ⟨listener, rcs, hlistener, hrcs, rfl⟩ := getResources_eq_ok.1 h
  rcases mem_append.1 hr with hr | hr
  · rcases mem_append.1 hr with hr | hr
    · rcases mem_append.1 hr with hr | hr
      · refine clusterNames_mono (fun be hbe => ?_) (clusterRefs_getListener hlistener hr hname)
        exact mem_backendsOf.2 (.inr (.inl hbe))
      · -- a virtual host of a route configuration
        obtain ⟨rc, hrc, rfl⟩ := mem_map.1 hr
        obtain ⟨vh, hvh, hname⟩ := mem_flatMap.1 hname
        obtain ⟨routes, param, hnew, hroutes⟩ := exists_newVirtualHost hrcs hrc hvh
        refine clusterNames_mono (fun be hbe => ?_) (clusterRefs_newVirtualHost hnew hname)
        obtain ⟨route, hroute, hbe⟩ := mem_flatMap.1 hbe
        obtain ⟨l, hl, hroute⟩ := hroutes route hroute
        exact mem_backendsOf.2 (.inl (mem_httpBackends.2 ⟨l, hl, route, hroute, hbe⟩))
    · rw [hclusters r hr] at hname
      cases hname
  · refine clusterNames_mono (fun be hbe => ?_) (clusterRefs_getTCPRouteListeners hr hname)
    exact mem_backendsOf.2 (.inr (.inr hbe))

end

/-- Every reference to a cluster is to one that exists. -/
theorem clusterIntegrity (slices : Slices) (orders : RangeOrders) (t : DefaultTranslator)
    (m : Model) (h : Addressable m) : ClusterIntegrity slices orders t m := by
  have hplain : ∀ sp ∈ (httpBackends m).filterMap servicePort, sp.Plain := by
    intro sp hsp
    obtain ⟨be, hbe, hsp⟩ := mem_filterMap.1 hsp
    exact h.plain (mem_backendsOf.2 (.inl hbe)) hsp
  obtain ⟨cs, hcs, hsorted, hnames, _⟩ :=
    getClusters_spec slices orders.clusters t (namesDistinct_of_plain hplain)
  constructor
  case clusters =>
    refine ⟨cs, hcs, hsorted, fun name => (hnames name).trans ?_⟩
    simp only [mem_clusterNames, backendCluster, bind_eq_ok, deref_eq_ok, pure_eq_ok]
  case returns =>
    simp only [getResources_eq_ok]
    constructor
    · intro hrs
      obtain ⟨_, _, rcs, _, hrcs, _⟩ := hrs
      exact ⟨rcs, hrcs⟩
    · intro hrcs
      obtain ⟨rcs, hrcs⟩ := hrcs
      obtain ⟨listener, hlistener⟩ := exists_getListener slices orders.listener t
        fun be hbe => h.exists_backendCluster (mem_backendsOf.2 (.inr (.inl hbe)))
      exact ⟨_, listener, rcs, hlistener, hrcs, rfl⟩
  case references =>
    intro rs hrs r hr name hname
    have hnone : ∀ r ∈ getClusters slices orders.clusters t m, r.clusterRefs = [] := by
      intro r hr
      rw [hcs] at hr
      obtain ⟨c, _, rfl⟩ := mem_map.1 hr
      rfl
    have hmem := (hnames name).2 (clusterRefs_getResources hrs hnone hr hname)
    obtain ⟨c, hc, hcname⟩ := mem_map.1 hmem
    exact ⟨c, hcs ▸ mem_map_of_mem hc, hcname⟩
  case services =>
    obtain ⟨hnodup, hmem⟩ := getBackendServices_spec slices orders.services m
    refine ⟨hnodup, fun sp => (hmem sp).trans ?_⟩
    simp only [servicePortsOf, mem_filterMap, servicePort_eq_some]

/-- A model with a mirror, a TLS route and a TCP route to ports of two services. -/
def shopModel : Model where
  http := [{ name := "web", hostname := "*", routes := [
    { backends := [⟨"cart", "shop", some ⟨8080, ""⟩, none⟩, ⟨"cart", "shop", some ⟨9090, ""⟩, none⟩]
      requestMirrors := [⟨some ⟨"audit", "shop", some ⟨0, "http"⟩, none⟩⟩] }] }]
  tls := [{ name := "tls", routes := [{ backends := [⟨"cart", "shop", some ⟨8080, ""⟩, none⟩] }] }]
  tcp := [{ name := "db", port := 5432, routes := [
    { backends := [⟨"audit", "shop", some ⟨0, "http"⟩, none⟩] }] }]

theorem clusterIntegrity_shopModel :
    Addressable shopModel ∧ ClusterIntegrity Slices.reference .entries
      ⟨"shop", "shop", "secrets", true, true, true, 60, true, true⟩ shopModel :=
  ⟨by decide, clusterIntegrity _ _ _ _ (by decide)⟩

end Translation
