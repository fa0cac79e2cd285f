import Dolphin.Translation.Clusters

/-!
# Listeners

Translation makes one Envoy listener for all HTTP and TLS listeners of the model
(`getListener`), with a filter chain for each kind of traffic it may find on a connection,
and an Envoy listener for each TCP listener (`getTCPRouteListeners`):

* traffic without TLS is served by an HTTP connection manager with the routes of
  `listener-insecure`;
* traffic with TLS is, for each certificate, served by an HTTP connection manager with the
  routes of `listener-secure`;
* other traffic with TLS is passed through to a cluster, by the server name.

The filter chains are made from maps, whose keys are sorted first.

* `routeConfigName_of_mem_getListener`: a connection without TLS never gets the routes of
  listeners with TLS, and conversely;
* `clusterRefs_getListener`, `clusterRefs_getTCPRouteListeners`: the clusters that listeners
  refer to are those of backends.
-/

namespace Translation

open Model Go Envoy List

/-! ## Filter chains -/

def httpFilterChain (name : String) (enableIpv4 enableIpv6 : Bool) : FilterChain where
  transportProtocol := "raw_buffer"
  filter := .httpConnectionManager (name ++ "-insecure") (name ++ "-insecure") true enableIpv4
    enableIpv6

section

variable (slices : Slices)

/-- A match for TLS; Envoy does not support a lone wildcard as server name. -/
def serverNames (hostNames : List String) : List String :=
  let names := slices.sortedUnique hostNames
  if names.length > 1 ∨ (names.length = 1 ∧ names.head? ≠ some "*") then names else []

/-- The hostnames of the listeners by certificate. -/
def tlsSecretsToHostnames (httpListeners : List HTTPListener) : Go.Map TLSSecret (List String) :=
  httpListeners.foldl
    (fun m l => (l.tls.getD []).foldl (fun m s => m.appendAt s l.hostname) m) ∅

/-- The orders in which the maps for filter chains are visited, or their keys returned. -/
structure ListenerOrders where
  secrets : RangeOrder TLSSecret
  sockets : RangeOrder String
  backends : RangeOrder String

/-- The certificates are looked up in the namespace for secrets, in which they are found by
    their name alone. -/
def newTransportSocket (order : RangeOrder String) (secretsNamespace : String)
    (tls : List TLSSecret) : List String :=
  order.visit (tls.map fun secret => secretsNamespace ++ "/" ++ secret.name).dedup

/-- A filter chain for each certificate. -/
def httpsFilterChains (orders : ListenerOrders) (name secretsNamespace : String)
    (secrets : Go.Map TLSSecret (List String)) (enableIpv4 enableIpv6 : Bool) : List FilterChain :=
  let orderedSecrets := (orders.secrets.visit (secrets.toPairs.map Prod.fst)).insertionSort
    fun a b => a.ns ++ "/" ++ a.name ≤ b.ns ++ "/" ++ b.name
  orderedSecrets.map fun secret =>
    { transportProtocol := "tls"
      serverNames := serverNames slices ((secrets.get? secret).getD [])
      filter := .httpConnectionManager (name ++ "-secure") (name ++ "-secure") false enableIpv4
        enableIpv6
      transportSocket := newTransportSocket orders.sockets secretsNamespace [secret] }

structure TLSPassthroughBackend where
  hostnames : List String := []
  statPrefix : String := ""
  deriving DecidableEq, Repr

/-- The iteration for a backend of a TLS route. -/
def addPassthroughBackend (listener : TLSListener) (route : TLSRoute)
    (m : Go.Map String TLSPassthroughBackend) (be : Backend) :
    Result (Go.Map String TLSPassthroughBackend) := do
  let key ← backendCluster be
  pure (m.alter key fun entry =>
    { hostnames := (entry.getD {}).hostnames ++ route.hostnames
      statPrefix :=
        match route.hostnames with
        | [] => (entry.getD {}).statPrefix
        | h :: _ => listener.name ++ ":" ++ h })

/-- The hostnames of TLS routes by backend. -/
def tlsPassthroughBackendsToHostnames (tlsListeners : List TLSListener) :
    Result (Go.Map String TLSPassthroughBackend) :=
  tlsListeners.foldlM
    (fun m l => l.routes.foldlM (fun m r => r.backends.foldlM (addPassthroughBackend l r) m) m) ∅

def tlsPassthroughFilterChains (order : RangeOrder String)
    (backends : Go.Map String TLSPassthroughBackend) : List FilterChain :=
  (sortStrings (order.visit (backends.toPairs.map Prod.fst))).map fun backend =>
    let entry := (backends.get? backend).getD {}
    { transportProtocol := "tls"
      serverNames := serverNames slices entry.hostnames
      filter := .tcpProxy (if entry.statPrefix = "" then backend else entry.statPrefix) backend }

/-! ## Listeners -/

/-- The keep-alive options of sockets: enabled, idle time, probe interval, failures. -/
def socketOptions : List SocketOption := [⟨1, 9, 1⟩, ⟨6, 4, 10⟩, ⟨6, 5, 5⟩, ⟨6, 6, 10⟩]

def getListener (orders : ListenerOrders) (t : DefaultTranslator) (m : Model) :
    Result (List XDSResource) :=
  if m.http = [] ∧ m.tls = [] then pure []
  else do
    let secrets := tlsSecretsToHostnames m.http
    let backends ← tlsPassthroughBackendsToHostnames m.tls
    let http :=
      if m.http = [] then [] else [httpFilterChain "listener" t.ipv4Enabled t.ipv6Enabled]
    let https := httpsFilterChains slices orders "listener" t.secretsNamespace secrets
      t.ipv4Enabled t.ipv6Enabled
    let passthrough := tlsPassthroughFilterChains slices orders.backends backends
    pure [.listener
      { name := "listener"
        filterChains := http ++ https ++ passthrough
        listenerFilters :=
          (if t.useProxyProtocol then ["envoy.filters.listener.proxy_protocol"] else []) ++
            ["envoy.filters.listener.tls_inspector"]
        socketOptions := socketOptions }]

end

def newTCPListenerWithDefaults (name : String) (port : Nat) (cluster : String) : Listener where
  name := name
  portValue := some port
  filterChains := [{ filter := .tcpProxy "tcp" cluster }]
  socketOptions := socketOptions

/-- The cluster of a TCP listener, that of the first backend of the first route that has
    one. -/
def tcpCluster (l : L4Listener) : String :=
  match l.routes.find? fun r => !r.backends.isEmpty with
  | none => ""
  | some r =>
    match r.backends.head?.bind servicePort with
    | none => ""
    | some sp => sp.clusterName

def getTCPRouteListeners (m : Model) : List XDSResource :=
  (m.tcp.filter fun l => tcpCluster l ≠ "").map fun l =>
    .listener (newTCPListenerWithDefaults "tcp-listener" l.port (tcpCluster l))

/-! ## Which routes and clusters they use -/

section

variable {slices : Slices} {orders : ListenerOrders} {t : DefaultTranslator} {m : Model}
  {rs : List XDSResource}

theorem key_of_tlsPassthroughBackends {backends : Go.Map String TLSPassthroughBackend}
    (h : tlsPassthroughBackendsToHostnames m.tls = .ok backends) {key : String}
    {entry : TLSPassthroughBackend} (hkey : backends.get? key = some entry) :
    key ∈ clusterNames (tlsBackends m) := by
  let Inv (backends : Go.Map String TLSPassthroughBackend) : Prop :=
    ∀ key entry, backends.get? key = some entry → key ∈ clusterNames (tlsBackends m)
  have hempty : Inv ∅ := fun key entry hget => by simp at hget
  -- an iteration of the innermost loop adds the key of its backend
  have hstep (l : TLSListener) (hl : l ∈ m.tls) (r : TLSRoute) (hr : r ∈ l.routes) :
      ∀ s, ∀ be ∈ r.backends, ∀ s', Inv s → addPassthroughBackend l r s be = .ok s' → Inv s' := by
    intro s be hbe s' hs hadd key' entry' hget
    obtain ⟨name, hname, hpure⟩ := bind_pure_eq_ok.1 hadd
    rw [← hpure, Map.get?_alter] at hget
    split_ifs at hget with hkey'
    · have hmem : be ∈ tlsBackends m :=
        mem_flatMap.2 ⟨l, hl, mem_flatMap.2 ⟨r, hr, hbe⟩⟩
      exact mem_clusterNames.2 ⟨be, hmem, hkey' ▸ hname⟩
    · exact hs key' entry' hget
  have hinv : Inv backends :=
    foldlM_preserves (fun s l hl s' hs hloop =>
      foldlM_preserves (fun s r hr s' hs hloop =>
        foldlM_preserves (hstep l hl r hr) hs hloop) hs hloop) hempty h
  exact hinv key entry hkey

/-- What the listener is when there is one. -/
theorem mem_getListener (h : getListener slices orders t m = .ok rs) {r : XDSResource}
    (hr : r ∈ rs) :
    ∃ l backends, r = .listener l ∧ tlsPassthroughBackendsToHostnames m.tls = .ok backends ∧
      ∀ chain ∈ l.filterChains, chain = httpFilterChain "listener" t.ipv4Enabled t.ipv6Enabled ∨
        chain ∈ httpsFilterChains slices orders "listener" t.secretsNamespace
          (tlsSecretsToHostnames m.http) t.ipv4Enabled t.ipv6Enabled ∨
        chain ∈ tlsPassthroughFilterChains slices orders.backends backends := by
  rw [getListener] at h
  by_cases hnone : m.http = [] ∧ m.tls = []
  · rw [if_pos hnone] at h
    rw [← pure_eq_ok.1 h] at hr
    cases hr
  · rw [if_neg hnone] at h
    obtain ⟨backends, hbackends, h⟩ := bind_pure_eq_ok.1 h
    rw [← h] at hr
    refine ⟨_, backends, mem_singleton.1 hr, hbackends, fun chain hchain => ?_⟩
    rcases mem_append.1 hchain with hchain | hpass
    · rcases mem_append.1 hchain with hhttp | hhttps
      · split_ifs at hhttp
        · cases hhttp
        · exact .inl (mem_singleton.1 hhttp)
      · exact .inr (.inl hhttps)
    · exact .inr (.inr hpass)

variable {name : String} {chain : FilterChain}

theorem mem_httpsFilterChains {secretsNamespace : String} {secrets : Go.Map TLSSecret (List String)}
    {ipv4 ipv6 : Bool}
    (h : chain ∈ httpsFilterChains slices orders name secretsNamespace secrets ipv4 ipv6) :
    chain.transportProtocol = "tls" ∧ ∃ statPrefix xff,
      chain.filter = .httpConnectionManager statPrefix (name ++ "-secure") xff ipv4 ipv6 := by
  obtain ⟨secret, _, rfl⟩ := mem_map.1 h
  exact ⟨rfl, _, _, rfl⟩

theorem mem_tlsPassthroughFilterChains {order : RangeOrder String}
    {backends : Go.Map String TLSPassthroughBackend}
    (h : chain ∈ tlsPassthroughFilterChains slices order backends) :
    ∃ key entry statPrefix, backends.get? key = some entry ∧
      chain.filter = .tcpProxy statPrefix key := by
  obtain ⟨key, hkey, rfl⟩ := mem_map.1 h
  rw [mem_sortStrings, (order.perm _).mem_iff] at hkey
  obtain ⟨⟨_, entry⟩, hentry, rfl⟩ := mem_map.1 hkey
  exact ⟨_, entry, _, Map.mem_toPairs.1 hentry, rfl⟩

theorem routeConfigName_of_mem_getListener (h : getListener slices orders t m = .ok rs)
    {l : Listener} (hl : .listener l ∈ rs) (hchain : chain ∈ l.filterChains) {statPrefix : String}
    {xff ipv4 ipv6 : Bool}
    (hfilter : chain.filter = .httpConnectionManager statPrefix name xff ipv4 ipv6) :
    (chain.transportProtocol = "raw_buffer" ∧ name = "listener-insecure") ∨
      (chain.transportProtocol = "tls" ∧ name = "listener-secure") := by
  obtain ⟨_, backends, heq, _, hchains⟩ := mem_getListener h hl
  obtain rfl := XDSResource.listener.inj heq
  rcases hchains chain hchain with rfl | hhttps | hpass
  · simp only [httpFilterChain, Filter.httpConnectionManager.injEq] at hfilter
    exact .inl ⟨rfl, hfilter.2.1.symm⟩
  · obtain ⟨htls, _, _, hsecure⟩ := mem_httpsFilterChains hhttps
    rw [hfilter, Filter.httpConnectionManager.injEq] at hsecure
    exact .inr ⟨htls, hsecure.2.1⟩
  · obtain ⟨_, _, _, _, hproxy⟩ := mem_tlsPassthroughFilterChains hpass
    rw [hfilter] at hproxy
    cases hproxy

theorem clusterRefs_getListener (h : getListener slices orders t m = .ok rs) {r : XDSResource}
    (hr : r ∈ rs) (hname : name ∈ r.clusterRefs) :
    name ∈ clusterNames (tlsBackends m) := by
  obtain ⟨l, backends, rfl, hbackends, hchains⟩ := mem_getListener h hr
  obtain ⟨chain, hchain, hname⟩ := mem_flatMap.1 hname
  rcases hchains chain hchain with rfl | hhttps | hpass
  · cases hname
  · obtain ⟨_, _, _, hfilter⟩ := mem_httpsFilterChains hhttps
    rw [hfilter] at hname
    cases hname
  · obtain ⟨key, entry, _, hkey, hfilter⟩ := mem_tlsPassthroughFilterChains hpass
    rw [hfilter] at hname
    rw [mem_singleton.1 hname]
    exact key_of_tlsPassthroughBackends hbackends hkey

theorem exists_getListener (slices : Slices) (orders : ListenerOrders) (t : DefaultTranslator)
    (h : ∀ be ∈ tlsBackends m, ∃ name, backendCluster be = .ok name) :
    ∃ rs, getListener slices orders t m = .ok rs := by
  have hbackends : ∃ backends, tlsPassthroughBackendsToHostnames m.tls = .ok backends := by
    refine exists_foldlM_eq_ok (fun s l hl => ?_) _
    refine exists_foldlM_eq_ok (fun s r hr => ?_) _
    refine exists_foldlM_eq_ok (fun s be hbe => ?_) _
    obtain ⟨name, hname⟩ := h be (mem_flatMap.2 ⟨l, hl, mem_flatMap.2 ⟨r, hr, hbe⟩⟩)
    rw [addPassthroughBackend, hname]
    exact ⟨_, rfl⟩
  obtain ⟨backends, hbackends⟩ := hbackends
  rw [getListener, hbackends]
  by_cases hnone : m.http = [] ∧ m.tls = []
  · exact ⟨_, if_pos hnone⟩
  · exact ⟨_, if_neg hnone⟩

theorem getListener_orders (h : getListener slices orders t m = .ok rs) (orders' : ListenerOrders) :
    ∃ rs', getListener slices orders' t m = .ok rs' := by
  rw [getListener] at h ⊢
  by_cases hnone : m.http = [] ∧ m.tls = []
  · exact ⟨_, if_pos hnone⟩
  · rw [if_neg hnone] at h ⊢
    obtain ⟨backends, hbackends, _⟩ := bind_eq_ok.1 h
    exact ⟨_, bind_eq_ok.2 ⟨backends, hbackends, rfl⟩⟩

/-- The backend that a TCP listener forwards to, if it has a port. -/
def firstBackend (l : L4Listener) : Option Backend := (l.routes.flatMap (·.backends)).head?

theorem tcpCluster_eq (l : L4Listener) :
    tcpCluster l = (((firstBackend l).bind servicePort).map (·.clusterName)).getD "" := by
  rw [tcpCluster, firstBackend]
  induction l.routes with
  | nil => rfl
  | cons r rs ih =>
    rw [find?_cons, flatMap_cons]
    cases hbackends : r.backends with
    | nil => exact ih
    | cons be bes =>
      simp only [isEmpty_cons, Bool.not_false, cons_append, head?_cons, Option.bind_some, hbackends]
      cases servicePort be <;> rfl

theorem clusterName_ne_empty (sp : ServicePort) : sp.clusterName ≠ "" := by
  intro h
  have hchars := congrArg String.toList h
  simp [ServicePort.clusterName, getClusterName] at hchars

theorem tcpCluster_ne_iff {l : L4Listener} :
    tcpCluster l ≠ "" ↔ ∃ sp, (firstBackend l).bind servicePort = some sp ∧
      tcpCluster l = sp.clusterName := by
  rw [tcpCluster_eq]
  cases (firstBackend l).bind servicePort with
  | none => simp
  | some sp => simp [clusterName_ne_empty sp]

theorem tcpCluster_mem {l : L4Listener} (hl : l ∈ m.tcp) (hne : tcpCluster l ≠ "") :
    tcpCluster l ∈ clusterNames (tcpBackends m) := by
  obtain ⟨sp, hsp, heq⟩ := tcpCluster_ne_iff.1 hne
  obtain ⟨be, hbe, hsp⟩ := Option.bind_eq_some_iff.1 hsp
  have hmem : be ∈ tcpBackends m := mem_flatMap.2 ⟨l, hl, mem_of_head? hbe⟩
  exact mem_clusterNames.2 ⟨be, hmem, backendCluster_eq_ok.2 ⟨sp, hsp, heq.symm⟩⟩

theorem clusterRefs_getTCPRouteListeners {r : XDSResource} (hr : r ∈ getTCPRouteListeners m)
    (hname : name ∈ r.clusterRefs) : name ∈ clusterNames (tcpBackends m) := by
  obtain ⟨l, hl, rfl⟩ := mem_map.1 hr
  obtain ⟨hl, hne⟩ := mem_filter.1 hl
  obtain rfl : name = tcpCluster l := by
    simpa [XDSResource.clusterRefs, newTCPListenerWithDefaults, Filter.clusterRefs] using hname
  exact tcpCluster_mem hl (of_decide_eq_true hne)

end

end Translation
