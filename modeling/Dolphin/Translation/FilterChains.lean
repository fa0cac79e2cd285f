import Dolphin.Translation.Listeners

/-!
# Filter chains and their server names

The listener has a filter chain for each certificate of the HTTP listeners, and one for each
backend of the TLS routes. Both collect host names in a map first; what the maps hold is said
here without them: `certificateHosts` and `passthroughHosts`.

* `httpsFilterChains_spec`, `tlsPassthroughFilterChains_spec`: the filter chains, up to their
  order, from the host names of certificates and backends;
* `getListener_cases`: the listener with its filter chains;
* `serverNames_cases`: the server names of a chain are its host names, unless these are only
  `*`.
-/

namespace Translation

open Model Go Envoy List

variable {m : Model} {slices : Slices}

variable {backends : Go.Map String TLSPassthroughBackend}

/-! ## Host names by certificate and by backend -/

/-- The certificates of the HTTP listeners, each with the host name of its listener. -/
def certificates (m : Model) : List (TLSSecret × String) :=
  m.http.flatMap fun l => (l.tls.getD []).map fun secret => (secret, l.hostname)

/-- The host names of the listeners with a certificate. -/
def certificateHosts (m : Model) (secret : TLSSecret) : List String :=
  ((certificates m).filter fun p => p.1 = secret).map Prod.snd

/-- The cluster of a backend, if it has a port. -/
def clusterOf (be : Backend) : String := ((servicePort be).map (·.clusterName)).getD ""

/-- The clusters of the backends of TLS routes, each with the host names of its route. -/
def passthroughs (m : Model) : List (String × List String) :=
  m.tls.flatMap fun l => l.routes.flatMap fun r => r.backends.map fun be =>
    (clusterOf be, r.hostnames)

/-- The host names of the TLS routes to a cluster. -/
def passthroughHosts (m : Model) (cluster : String) : List String :=
  ((passthroughs m).filter fun p => p.1 = cluster).flatMap Prod.snd

theorem clusterOf_eq {be : Backend} {name : String} (h : backendCluster be = .ok name) :
    clusterOf be = name := by
  obtain ⟨sp, hsp, rfl⟩ := backendCluster_eq_ok.1 h
  rw [clusterOf, hsp]
  rfl

theorem get?_tlsSecretsToHostnames (m : Model) (secret : TLSSecret) :
    (tlsSecretsToHostnames m.http).get? secret =
      if ((certificates m).filter fun p => p.1 = secret) = [] then none
      else some (certificateHosts m secret) := by
  have hfold : tlsSecretsToHostnames m.http =
      (certificates m).foldl (fun acc p => acc.appendAt p.1 p.2) ∅ := by
    rw [tlsSecretsToHostnames, certificates, foldl_flatMap]
    simp only [foldl_map]
  rw [hfold]
  exact Map.get?_foldl_appendAt Prod.fst Prod.snd (certificates m) secret

/-- What the iteration for a backend of a TLS route makes of the entry of the backend. -/
def updatePassthrough (p : TLSListener × TLSRoute × Backend) (entry : TLSPassthroughBackend) :
    TLSPassthroughBackend where
  hostnames := entry.hostnames ++ p.2.1.hostnames
  statPrefix :=
    match p.2.1.hostnames with
    | [] => entry.statPrefix
    | h :: _ => p.1.name ++ ":" ++ h

/-- The backends of TLS routes with their listeners and routes. -/
def tlsEvents (m : Model) : List (TLSListener × TLSRoute × Backend) :=
  m.tls.flatMap fun l => l.routes.flatMap fun r => r.backends.map fun be => (l, r, be)

theorem tlsPassthroughBackends_eq (h : tlsPassthroughBackendsToHostnames m.tls = .ok backends) :
    backends = (tlsEvents m).foldl (fun backends p =>
      backends.alter (clusterOf p.2.2) fun entry => updatePassthrough p (entry.getD {})) ∅ := by
  simp only [tlsEvents, foldl_flatMap, foldl_map]
  refine foldl_of_foldlM (fun s l _ s' h => ?_) h
  refine foldl_of_foldlM (fun s r _ s' h => ?_) h
  refine foldl_of_foldlM (fun s be _ s' h => ?_) h
  obtain ⟨name, hname, h⟩ := bind_pure_eq_ok.1 h
  rw [← h, clusterOf_eq hname]
  rfl

/-- The host names that updates leave in an entry. -/
theorem hostnames_foldl_updatePassthrough (es : List (TLSListener × TLSRoute × Backend))
    (entry : TLSPassthroughBackend) :
    (es.foldl (fun entry p => updatePassthrough p entry) entry).hostnames =
      entry.hostnames ++ es.flatMap fun p => p.2.1.hostnames := by
  induction es generalizing entry with
  | nil => exact (append_nil _).symm
  | cons p es ih => rw [foldl_cons, ih, flatMap_cons, ← append_assoc]; rfl

theorem map_tlsEvents (m : Model) :
    (tlsEvents m).map (fun e => (clusterOf e.2.2, e.2.1.hostnames)) = passthroughs m := by
  simp only [tlsEvents, passthroughs, map_flatMap, map_map]
  rfl

theorem get?_tlsPassthroughBackends (h : tlsPassthroughBackendsToHostnames m.tls = .ok backends)
    (cluster : String) :
    (backends.get? cluster).map (·.hostnames) =
      if ((passthroughs m).filter fun p => p.1 = cluster) = [] then none
      else some (passthroughHosts m cluster) := by
  have hfilter : (passthroughs m).filter (fun p => p.1 = cluster) =
      ((tlsEvents m).filter fun p => clusterOf p.2.2 = cluster).map
        fun p => (clusterOf p.2.2, p.2.1.hostnames) := by
    rw [← map_tlsEvents, filter_map]
    rfl
  rw [tlsPassthroughBackends_eq h, Map.get?_foldl_alter
    (fun p : TLSListener × TLSRoute × Backend => clusterOf p.2.2)
    fun p entry => updatePassthrough p (entry.getD {}), Map.get?_empty,
    Map.foldl_some_getD updatePassthrough, passthroughHosts, hfilter, flatMap_map]
  by_cases hnil : ((tlsEvents m).filter fun p => clusterOf p.2.2 = cluster) = []
  · rw [hnil]
    rfl
  · rw [if_neg hnil, if_neg (mt map_eq_nil_iff.1 hnil), Option.map_some,
      hostnames_foldl_updatePassthrough]
    rfl

/-! ## The filter chains -/

theorem serverNames_cases (slices : Slices) (hosts : List String) :
    (serverNames slices hosts = [] ∧ ∀ h ∈ hosts, h = "*") ∨
      (serverNames slices hosts ≠ [] ∧ (∃ h ∈ hosts, h ≠ "*") ∧
        ∀ n, n ∈ serverNames slices hosts ↔ n ∈ hosts) := by
  have hmem (n : String) : n ∈ slices.sortedUnique hosts ↔ n ∈ hosts := slices.mem_sortedUnique
  have hsorted := slices.sorted_sortedUnique hosts
  rw [serverNames]
  generalize slices.sortedUnique hosts = names at hmem hsorted
  match names with
  | [] =>
    exact .inl ⟨by simp, fun h hh => absurd ((hmem h).2 hh) not_mem_nil⟩
  | [a] =>
    by_cases ha : a = "*"
    · exact .inl ⟨by simp [ha], fun h hh => ha ▸ mem_singleton.1 ((hmem h).2 hh)⟩
    · rw [if_pos (by simp [ha])]
      exact .inr ⟨cons_ne_nil _ _, ⟨a, (hmem a).1 mem_cons_self, ha⟩, hmem⟩
  | a :: b :: rest =>
    -- two distinct names are not both the wildcard
    have hab : a < b := (pairwise_cons.1 hsorted).1 b mem_cons_self
    rw [if_pos (by simp)]
    refine .inr ⟨cons_ne_nil _ _, ?_, hmem⟩
    by_cases ha : a = "*"
    · exact ⟨b, (hmem b).1 (by simp), fun hb => hab.ne (ha.trans hb.symm)⟩
    · exact ⟨a, (hmem a).1 mem_cons_self, ha⟩

/-- The filter chain for a certificate. -/
def certificateChain (slices : Slices) (t : DefaultTranslator) (m : Model) (secret : TLSSecret) :
    FilterChain where
  transportProtocol := "tls"
  serverNames := serverNames slices (certificateHosts m secret)
  filter := .httpConnectionManager ("listener" ++ "-secure") ("listener" ++ "-secure") false
    t.ipv4Enabled t.ipv6Enabled
  transportSocket := [t.secretsNamespace ++ "/" ++ secret.name]

/-- The filter chain for a cluster of TLS routes. -/
def passthroughChain (slices : Slices) (m : Model) (statPrefix : String → String)
    (cluster : String) : FilterChain where
  transportProtocol := "tls"
  serverNames := serverNames slices (passthroughHosts m cluster)
  filter := .tcpProxy (statPrefix cluster) cluster

/-- The list has the keys of the pairs, each of them once. -/
structure KeysOf {α β : Type} (ps : List (α × β)) (keys : List α) : Prop where
  nodup : keys.Nodup
  mem_iff : ∀ k, k ∈ keys ↔ ∃ v, (k, v) ∈ ps

/-- The keys of a map that groups pairs by key. -/
theorem keysOf_of_lists {α β ν : Type} [DecidableEq α] {ps : List (α × β)} {table : Go.Map α ν}
    {keys : List α} (hkeys : table.Lists keys)
    (hget : ∀ k, (table.get? k).isSome = true ↔ (ps.filter fun p => p.1 = k) ≠ []) :
    KeysOf ps keys := by
  refine ⟨hkeys.nodup, fun k => ?_⟩
  rw [hkeys.mem_iff, ← Option.isSome_iff_exists, hget, Ne, filter_eq_nil_iff]
  simp

theorem KeysOf.pairwise_iff {α β : Type} {ps : List (α × β)} {keys : List α} (h : KeysOf ps keys)
    {R : α → α → Prop} (hsymm : ∀ a b, R a b → R b a) :
    keys.Pairwise R ↔ ∀ p ∈ ps, ∀ q ∈ ps, p.1 ≠ q.1 → R p.1 q.1 := by
  constructor
  · intro hpairs p hp q hq hne
    have : Std.Symm R := ⟨hsymm⟩
    exact hpairs.forall ((h.mem_iff p.1).2 ⟨p.2, hp⟩) ((h.mem_iff q.1).2 ⟨q.2, hq⟩) hne
  · intro hall
    refine h.nodup.pairwise_of_forall_ne fun a ha b hb hne => ?_
    obtain ⟨v, hv⟩ := (h.mem_iff a).1 ha
    obtain ⟨w, hw⟩ := (h.mem_iff b).1 hb
    exact hall _ hv _ hw hne

variable {t : DefaultTranslator}

theorem keysOf_certificates {secrets : List TLSSecret}
    (h : (tlsSecretsToHostnames m.http).Lists secrets) : KeysOf (certificates m) secrets := by
  refine keysOf_of_lists h fun secret => ?_
  rw [get?_tlsSecretsToHostnames]
  split_ifs with hnil <;> simp [hnil]

theorem newTransportSocket_singleton (order : RangeOrder String) (secretsNamespace : String)
    (secret : TLSSecret) : newTransportSocket order secretsNamespace [secret] =
      [secretsNamespace ++ "/" ++ secret.name] :=
  perm_singleton.1 (order.perm _)

theorem httpsFilterChains_spec (slices : Slices) (orders : ListenerOrders)
    (t : DefaultTranslator) (m : Model) :
    ∃ secrets, KeysOf (certificates m) secrets ∧
      httpsFilterChains slices orders "listener" t.secretsNamespace (tlsSecretsToHostnames m.http)
        t.ipv4Enabled t.ipv6Enabled = secrets.map (certificateChain slices t m) := by
  have hlists := Map.lists_of_perm ((perm_insertionSort
    (fun a b : TLSSecret => a.ns ++ "/" ++ a.name ≤ b.ns ++ "/" ++ b.name) _).trans
    (orders.secrets.perm ((tlsSecretsToHostnames m.http).toPairs.map Prod.fst)))
  refine ⟨_, keysOf_certificates hlists, map_congr_left fun secret hsecret => ?_⟩
  obtain ⟨hosts, hhosts⟩ := (hlists.mem_iff secret).1 hsecret
  have hget := get?_tlsSecretsToHostnames m secret
  rw [hhosts] at hget
  split_ifs at hget
  rw [hhosts, Option.some_inj.1 hget, newTransportSocket_singleton]
  rfl

theorem tlsPassthroughFilterChains_spec (slices : Slices) (order : RangeOrder String)
    (h : tlsPassthroughBackendsToHostnames m.tls = .ok backends) :
    ∃ clusters statPrefix, KeysOf (passthroughs m) clusters ∧
      tlsPassthroughFilterChains slices order backends =
        clusters.map (passthroughChain slices m statPrefix) := by
  have hlists := Map.lists_of_perm ((sortStrings_perm _).trans
    (order.perm (backends.toPairs.map Prod.fst)))
  refine ⟨_, fun cluster =>
      let entry := (backends.get? cluster).getD {}
      if entry.statPrefix = "" then cluster else entry.statPrefix,
    keysOf_of_lists hlists fun cluster => ?_, map_congr_left fun cluster hcluster => ?_⟩
  · rw [← Option.isSome_map, get?_tlsPassthroughBackends h]
    split_ifs with hnil <;> simp [hnil]
  · obtain ⟨entry, hentry⟩ := (hlists.mem_iff cluster).1 hcluster
    have hget := get?_tlsPassthroughBackends h cluster
    rw [hentry, Option.map_some] at hget
    split_ifs at hget
    have hhosts : entry.hostnames = passthroughHosts m cluster := Option.some_inj.1 hget
    simp only [passthroughChain, hentry, Option.getD_some, hhosts]

/-- The listener has the filter chain for HTTP, if there is an HTTP listener, those for the
    certificates, and those for the clusters of TLS routes. -/
structure ListenerOf (slices : Slices) (t : DefaultTranslator) (m : Model)
    (secrets : List TLSSecret) (clusters : List String) (l : Listener) : Prop where
  name : l.name = "listener"
  secretKeys : KeysOf (certificates m) secrets
  clusterKeys : KeysOf (passthroughs m) clusters
  filterChains : ∃ statPrefix, l.filterChains =
    (if m.http = [] then [] else [httpFilterChain "listener" t.ipv4Enabled t.ipv6Enabled]) ++
      secrets.map (certificateChain slices t m) ++
        clusters.map (passthroughChain slices m statPrefix)

section

variable {secrets : List TLSSecret} {clusters : List String} {l : Listener}
  (h : ListenerOf slices t m secrets clusters l)

include h

/-- The filter chains with a property that the one for HTTP does not have. -/
theorem ListenerOf.filter_eq : ∃ statPrefix, ∀ p : FilterChain → Bool,
    p (httpFilterChain "listener" t.ipv4Enabled t.ipv6Enabled) = false → l.filterChains.filter p =
        (secrets.filter fun s => p (certificateChain slices t m s)).map
            (certificateChain slices t m) ++
          (clusters.filter fun c => p (passthroughChain slices m statPrefix c)).map
            (passthroughChain slices m statPrefix) := by
  obtain ⟨statPrefix, hchains⟩ := h.filterChains
  refine ⟨statPrefix, fun p hp => ?_⟩
  have hhttp : (if m.http = [] then []
      else [httpFilterChain "listener" t.ipv4Enabled t.ipv6Enabled]).filter p = [] := by
    split_ifs <;> simp [hp]
  rw [hchains, filter_append, filter_append, hhttp, nil_append, filter_map, filter_map]
  rfl

theorem ListenerOf.tlsChains : ∃ statPrefix, l.filterChains.filter (·.transportProtocol = "tls") =
      secrets.map (certificateChain slices t m) ++
        clusters.map (passthroughChain slices m statPrefix) := by
  obtain ⟨statPrefix, hfilter⟩ := h.filter_eq
  refine ⟨statPrefix, ?_⟩
  rw [hfilter _ rfl]
  congr 2 <;> exact filter_eq_self.2 fun _ _ => rfl

end

section

variable {orders : ListenerOrders} {rs : List XDSResource}
  (h : getListener slices orders t m = .ok rs)

include h

theorem getListener_cases : (m.http = [] ∧ m.tls = [] ∧ rs = []) ∨
      (¬ (m.http = [] ∧ m.tls = []) ∧ ∃ l secrets clusters, rs = [.listener l] ∧
        ListenerOf slices t m secrets clusters l) := by
  rw [getListener] at h
  by_cases hnone : m.http = [] ∧ m.tls = []
  · rw [if_pos hnone] at h
    exact .inl ⟨hnone.1, hnone.2, (pure_eq_ok.1 h).symm⟩
  · rw [if_neg hnone] at h
    obtain ⟨backends, hbackends, h⟩ := bind_eq_ok.1 h
    obtain ⟨secrets, hsecrets, hhttps⟩ := httpsFilterChains_spec slices orders t m
    obtain ⟨clusters, statPrefix, hclusters, hpass⟩ :=
      tlsPassthroughFilterChains_spec slices orders.backends hbackends
    refine .inr ⟨hnone, _, secrets, clusters, (pure_eq_ok.1 h).symm, rfl, hsecrets, hclusters,
      statPrefix, ?_⟩
    rw [← hhttps, ← hpass]

theorem exists_listenerOf_getListener {l : Listener} (hl : .listener l ∈ rs) :
    ∃ secrets clusters, ListenerOf slices t m secrets clusters l := by
  rcases getListener_cases h with ⟨_, _, rfl⟩ | ⟨_, l', secrets, clusters, rfl, hof⟩
  · cases hl
  · obtain rfl := XDSResource.listener.inj (mem_singleton.1 hl)
    exact ⟨secrets, clusters, hof⟩

end

end Translation
