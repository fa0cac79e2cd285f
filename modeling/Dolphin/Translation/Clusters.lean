import Mathlib.Data.Prod.Lex
import Dolphin.Translation.RouteConfigurations

/-!
# Clusters

Translation makes an Envoy cluster for every port of a service that some backend stands
for (`getClusters`), and lists these services (`getBackendServices`). Both go through maps
from namespaces and names to ports, one for each protocol and one for all of them, over
which they `range`: the order in which they are visited is a parameter.

Whatever that order, the services listed are those of the backends of the model
(`getBackendServices_spec`), and so are the clusters, which are sorted by name
(`getClusters_spec`). The clusters are distinct as long as a name stands for one port of one
service (`NamesDistinct`), and it does when its parts have no colon in them. Then services and
clusters are determined by what the backends stand for (`getBackendServices_congr`,
`getClusters_congr`), however the maps are visited.
-/

namespace Translation

open Model Go Envoy List

/-! ## Ports of services -/

/-- A port of a service. -/
structure ServicePort where
  ns : String
  name : String
  port : String
  deriving DecidableEq, Repr

/-- What a backend stands for, if it has a port. -/
def servicePort (be : Backend) : Option ServicePort :=
  be.port.map fun port => ⟨be.ns, be.name, port.getPort⟩

def ServicePort.clusterName (sp : ServicePort) : String := getClusterName sp.ns sp.name sp.port

def getClusterServiceName (ns name port : String) : String := ns ++ "/" ++ name ++ ":" ++ port

abbrev NamespaceNamePortMap := Go.Map String (Go.Map String (List String))

section

variable (slices : Slices)

def mergeBackendsInNamespaceNamePortMap (backends : List Backend) (m : NamespaceNamePortMap) :
    NamespaceNamePortMap :=
  backends.foldl
    (fun m be =>
      match be.port with
      | none => m
      | some port => m.alter be.ns fun namePortMap =>
          (namePortMap.getD ∅).alter be.name fun ports =>
            slices.sortedUnique (ports.getD [] ++ [port.getPort]))
    m

/-- The loop over the HTTP listeners; a mirror without a backend is skipped. -/
def mergeHTTP (listeners : List HTTPListener) (m : NamespaceNamePortMap) : NamespaceNamePortMap :=
  listeners.foldl
    (fun m l => l.routes.foldl
      (fun m r => r.requestMirrors.foldl
        (fun m mirror =>
          match mirror.backend with
          | none => m
          | some be => mergeBackendsInNamespaceNamePortMap slices [be] m)
        (mergeBackendsInNamespaceNamePortMap slices r.backends m))
      m)
    m

/-- The loop over the TLS listeners. -/
def mergeTLS (listeners : List TLSListener) (m : NamespaceNamePortMap) : NamespaceNamePortMap :=
  listeners.foldl
    (fun m l => l.routes.foldl
      (fun m r => mergeBackendsInNamespaceNamePortMap slices r.backends m) m)
    m

/-- The loop over the TCP listeners. -/
def mergeTCP (listeners : List L4Listener) (m : NamespaceNamePortMap) : NamespaceNamePortMap :=
  listeners.foldl
    (fun m l => l.routes.foldl
      (fun m r => mergeBackendsInNamespaceNamePortMap slices r.backends m) m)
    m

def getNamespaceNamePortsMap (m : Model) : NamespaceNamePortMap :=
  mergeTCP slices m.tcp (mergeTLS slices m.tls (mergeHTTP slices m.http ∅))

def getNamespaceNamePortsMapForHTTP (m : Model) : NamespaceNamePortMap := mergeHTTP slices m.http ∅

def getNamespaceNamePortsMapForTLS (m : Model) : NamespaceNamePortMap := mergeTLS slices m.tls ∅

def getNamespaceNamePortsMapForTCP (m : Model) : NamespaceNamePortMap := mergeTCP slices m.tcp ∅

end

/-! ## Backend services -/

structure Service where
  name : String
  ns : String
  ports : List String
  deriving DecidableEq, Repr

def Service.servicePorts (s : Service) : List ServicePort :=
  s.ports.map fun port => ⟨s.ns, s.name, port⟩

/-- What nested loops over the namespaces and names of a map visit. -/
def services (m : NamespaceNamePortMap) : List Service :=
  m.toTriples.map fun t => ⟨t.2.1, t.1, t.2.2⟩

/-- The order of services. None of them is without a port. -/
def serviceLess (a b : Service) : Bool :=
  if a.ns ≠ b.ns then a.ns < b.ns
  else if a.name ≠ b.name then a.name < b.name
  else a.ports.headD "" < b.ports.headD ""

def getBackendServices (slices : Slices) (order : RangeOrder Service) (m : Model) : List Service :=
  (order.visit (services (getNamespaceNamePortsMap slices m))).insertionSort
    fun a b => serviceLess b a = false

/-! ## Clusters -/

/-- The first host name of the last route that has one. -/
def upstreamHostname (m : Model) : String :=
  m.http.foldl (fun hostname l => l.routes.foldl
    (fun hostname r => r.hostnames.head?.getD hostname) hostname) ""

def newHTTPCluster (t : DefaultTranslator) (m : Model) (sp : ServicePort) : Cluster where
  name := sp.clusterName
  serviceName := getClusterServiceName sp.ns sp.name sp.port
  httpIdleTimeout := some t.idleTimeoutSeconds
  transportSocket :=
    if sp.port = "443" then some ⟨upstreamHostname m, t.secretsNamespace ++ "/" ++ "example-cert"⟩
    else none

def newTCPClusterWithDefaults (sp : ServicePort) : Cluster where
  name := sp.clusterName
  serviceName := getClusterServiceName sp.ns sp.name sp.port

/-- The variables of `getClusters`. -/
structure ClusterTable where
  envoyClusters : Go.Map String Cluster := ∅
  sortedClusterNames : List String := []

def ClusterTable.add (table : ClusterTable) (c : Cluster) : ClusterTable where
  envoyClusters := table.envoyClusters.set c.name c
  sortedClusterNames := table.sortedClusterNames ++ [c.name]

/-- A cluster for a TLS or TCP route is made only if there is none with its name. -/
def ClusterTable.addTCP (table : ClusterTable) (sp : ServicePort) : ClusterTable :=
  match table.envoyClusters.get? sp.clusterName with
  | some _ => table
  | none => table.add (newTCPClusterWithDefaults sp)

/-- The orders in which the loops of `getClusters` visit their maps. -/
structure ClusterOrders where
  http : RangeOrder Service
  tls : RangeOrder Service
  tcp : RangeOrder Service

/-- What the nested loops over namespaces, names and ports visit. -/
def visitPorts (order : RangeOrder Service) (m : NamespaceNamePortMap) : List ServicePort :=
  (order.visit (services m)).flatMap (·.servicePorts)

section

variable (slices : Slices) (orders : ClusterOrders) (t : DefaultTranslator) (m : Model)

def clusterTable : ClusterTable :=
  let http := visitPorts orders.http (getNamespaceNamePortsMapForHTTP slices m)
  let tls := visitPorts orders.tls (getNamespaceNamePortsMapForTLS slices m)
  let tcp := visitPorts orders.tcp (getNamespaceNamePortsMapForTCP slices m)
  let table := http.foldl (fun table sp => table.add (newHTTPCluster t m sp)) {}
  let table := tls.foldl ClusterTable.addTCP table
  tcp.foldl ClusterTable.addTCP table

def getClusters : List XDSResource :=
  let table := clusterTable slices orders t m
  (sortStrings table.sortedClusterNames).map fun name =>
    match table.envoyClusters.get? name with
    | some c => .cluster c
    | none => .empty

end

/-! ## The backends of the model -/

def httpBackends (m : Model) : List Backend :=
  m.http.flatMap fun l => l.routes.flatMap fun r =>
    r.backends ++ r.requestMirrors.filterMap (·.backend)

def tlsBackends (m : Model) : List Backend := m.tls.flatMap fun l => l.routes.flatMap (·.backends)

def tcpBackends (m : Model) : List Backend := m.tcp.flatMap fun l => l.routes.flatMap (·.backends)

/-- The backends and mirror backends of the routes that are translated. -/
def backendsOf (m : Model) : List Backend := httpBackends m ++ tlsBackends m ++ tcpBackends m

/-- No colon is in a part of the cluster name. -/
structure ServicePort.Plain (sp : ServicePort) : Prop where
  ns : ':' ∉ sp.ns.toList
  name : ':' ∉ sp.name.toList
  port : ':' ∉ sp.port.toList

/-- The ports of services that the backends stand for. -/
def servicePortsOf (m : Model) : List ServicePort := (backendsOf m).filterMap servicePort

/-- Ports of services with the same cluster name are the same if no colon is in their
    namespaces, and none in their names or none in their ports. -/
theorem ServicePort.eq_of_clusterName {sp sp' : ServicePort} (hns : ':' ∉ sp.ns.toList)
    (hns' : ':' ∉ sp'.ns.toList)
    (hrest : ':' ∉ sp.name.toList ∧ ':' ∉ sp'.name.toList ∨
      ':' ∉ sp.port.toList ∧ ':' ∉ sp'.port.toList)
    (h : sp.clusterName = sp'.clusterName) : sp = sp' := by
  -- the name splits at its first colon, and what is left of it at its first or last
  have hsplit (sp : ServicePort) :
      sp.clusterName = sp.ns ++ ":" ++ (sp.name ++ ":" ++ sp.port) := by
    simp only [clusterName, getClusterName, String.append_assoc]
  rw [hsplit, hsplit] at h
  obtain ⟨hns, htail⟩ := append_colon_inj hns hns' h
  obtain ⟨hname, hport⟩ : sp.name = sp'.name ∧ sp.port = sp'.port := by
    rcases hrest with ⟨hname, hname'⟩ | ⟨hport, hport'⟩
    · exact append_colon_inj hname hname' htail
    · exact append_char_inj_right rfl hport hport' htail
  cases sp
  cases sp'
  simp_all

theorem colon_notMem_getPort {port : BackendPort} (h : port.name = "") :
    ':' ∉ port.getPort.toList := by
  rw [BackendPort.getPort, h]
  split_ifs
  · rw [Nat.toString_eq_repr, Nat.toList_repr]
    intro hc
    exact absurd (Nat.isDigit_of_mem_toDigits (by decide) (by decide) hc) (by decide)
  · decide

/-- A cluster name stands for one port of one service. -/
def NamesDistinct (sps : List ServicePort) : Prop :=
  ∀ sp ∈ sps, ∀ sp' ∈ sps, sp.clusterName = sp'.clusterName → sp = sp'

variable {sps : List ServicePort} {name : String} {table : ClusterTable}

theorem namesDistinct_of_plain (h : ∀ sp ∈ sps, sp.Plain) : NamesDistinct sps := by
  intro sp hsp sp' hsp' heq
  exact ServicePort.eq_of_clusterName (h sp hsp).ns (h sp' hsp').ns
    (.inl ⟨(h sp hsp).name, (h sp' hsp').name⟩) heq

theorem namesDistinct_of_backends {m : Model}
    (h : ∀ be ∈ backendsOf m, ':' ∉ be.ns.toList ∧ ':' ∉ be.name.toList) :
    NamesDistinct (servicePortsOf m) := by
  have hplain (sp : ServicePort) (hsp : sp ∈ servicePortsOf m) :
      ':' ∉ sp.ns.toList ∧ ':' ∉ sp.name.toList := by
    obtain ⟨be, hbe, hsp⟩ := mem_filterMap.1 hsp
    obtain ⟨port, _, rfl⟩ := Option.map_eq_some_iff.1 hsp
    exact h be hbe
  intro sp hsp sp' hsp' heq
  obtain ⟨hns, hname⟩ := hplain sp hsp
  obtain ⟨hns', hname'⟩ := hplain sp' hsp'
  exact ServicePort.eq_of_clusterName hns hns' (.inl ⟨hname, hname'⟩) heq

/-- The names of backends may have colons if their ports are numbers. -/
theorem namesDistinct_of_numbers {m : Model}
    (h : ∀ be ∈ backendsOf m, ':' ∉ be.ns.toList ∧ ∀ port ∈ be.port, port.name = "") :
    NamesDistinct (servicePortsOf m) := by
  have hplain (sp : ServicePort) (hsp : sp ∈ servicePortsOf m) :
      ':' ∉ sp.ns.toList ∧ ':' ∉ sp.port.toList := by
    obtain ⟨be, hbe, hsp⟩ := mem_filterMap.1 hsp
    obtain ⟨port, hport, rfl⟩ := Option.map_eq_some_iff.1 hsp
    exact ⟨(h be hbe).1, colon_notMem_getPort ((h be hbe).2 port hport)⟩
  intro sp hsp sp' hsp' heq
  obtain ⟨hns, hport⟩ := hplain sp hsp
  obtain ⟨hns', hport'⟩ := hplain sp' hsp'
  exact ServicePort.eq_of_clusterName hns hns' (.inr ⟨hport, hport'⟩) heq

theorem NamesDistinct.subset {sps' : List ServicePort} (h : NamesDistinct sps')
    (hsub : ∀ sp ∈ sps, sp ∈ sps') : NamesDistinct sps :=
  fun sp hsp sp' hsp' => h sp (hsub sp hsp) sp' (hsub sp' hsp')

theorem backendCluster_eq_ok {be : Backend} :
    backendCluster be = .ok name ↔ ∃ sp, servicePort be = some sp ∧ sp.clusterName = name := by
  rw [backendCluster, servicePort, bind_eq_ok]
  simp only [deref_eq_ok, pure_eq_ok, Option.map_eq_some_iff]
  constructor
  · intro h
    obtain ⟨port, hport, hname⟩ := h
    exact ⟨_, ⟨port, hport, rfl⟩, hname⟩
  · intro h
    obtain ⟨_, ⟨port, hport, rfl⟩, hname⟩ := h
    exact ⟨port, hport, hname⟩

/-- The names of the clusters of backends. -/
def clusterNames (backends : List Backend) : List String :=
  (backends.filterMap servicePort).map (·.clusterName)

theorem mem_clusterNames {backends : List Backend} :
    name ∈ clusterNames backends ↔ ∃ be ∈ backends, backendCluster be = .ok name := by
  simp only [clusterNames, mem_map, mem_filterMap, backendCluster_eq_ok]
  constructor
  · intro h
    obtain ⟨sp, ⟨be, hbe, hsp⟩, hname⟩ := h
    exact ⟨be, hbe, sp, hsp, hname⟩
  · intro h
    obtain ⟨be, hbe, sp, hsp, hname⟩ := h
    exact ⟨sp, ⟨be, hbe, hsp⟩, hname⟩

/-! ## The maps hold the ports of the backends -/

section

variable {slices : Slices}

/-- `m[ns][name]` gets another port. -/
def addServicePort (slices : Slices) (m : NamespaceNamePortMap) (sp : ServicePort) :
    NamespaceNamePortMap :=
  m.alter sp.ns fun namePortMap => (namePortMap.getD ∅).alter sp.name fun ports =>
    slices.sortedUnique (ports.getD [] ++ [sp.port])

theorem mergeBackends_eq (backends : List Backend) (m : NamespaceNamePortMap) :
    mergeBackendsInNamespaceNamePortMap slices backends m =
      (backends.filterMap servicePort).foldl (addServicePort slices) m := by
  rw [mergeBackendsInNamespaceNamePortMap, foldl_filterMap]
  congr 1
  funext m be
  rw [servicePort]
  cases be.port with
  | none => rfl
  | some port => rfl

theorem mergeBackends_append (as bs : List Backend) (m : NamespaceNamePortMap) :
    mergeBackendsInNamespaceNamePortMap slices (as ++ bs) m =
      mergeBackendsInNamespaceNamePortMap slices bs
        (mergeBackendsInNamespaceNamePortMap slices as m) :=
  foldl_append

theorem mergeBackends_flatMap {α : Type} (xs : List α) (f : α → List Backend)
    (m : NamespaceNamePortMap) :
    mergeBackendsInNamespaceNamePortMap slices (xs.flatMap f) m =
      xs.foldl (fun m x => mergeBackendsInNamespaceNamePortMap slices (f x) m) m :=
  foldl_flatMap

theorem mergeBackends_mirrors (mirrors : List HttpRequestMirror) (m : NamespaceNamePortMap) :
    mergeBackendsInNamespaceNamePortMap slices (mirrors.filterMap (·.backend)) m = mirrors.foldl
        (fun m mirror =>
          match mirror.backend with
          | none => m
          | some be => mergeBackendsInNamespaceNamePortMap slices [be] m) m := by
  induction mirrors generalizing m with
  | nil => rfl
  | cons mirror mirrors ih =>
    rw [filterMap_cons, foldl_cons]
    cases mirror.backend with
    | none => exact ih m
    | some be => exact ih _

theorem getNamespaceNamePortsMapForHTTP_eq (m : Model) : getNamespaceNamePortsMapForHTTP slices m =
      mergeBackendsInNamespaceNamePortMap slices (httpBackends m) ∅ := by
  simp only [getNamespaceNamePortsMapForHTTP, mergeHTTP, httpBackends, mergeBackends_flatMap,
    mergeBackends_append, mergeBackends_mirrors]

theorem getNamespaceNamePortsMapForTLS_eq (m : Model) : getNamespaceNamePortsMapForTLS slices m =
      mergeBackendsInNamespaceNamePortMap slices (tlsBackends m) ∅ := by
  simp only [getNamespaceNamePortsMapForTLS, mergeTLS, tlsBackends, mergeBackends_flatMap]

theorem getNamespaceNamePortsMapForTCP_eq (m : Model) : getNamespaceNamePortsMapForTCP slices m =
      mergeBackendsInNamespaceNamePortMap slices (tcpBackends m) ∅ := by
  simp only [getNamespaceNamePortsMapForTCP, mergeTCP, tcpBackends, mergeBackends_flatMap]

theorem getNamespaceNamePortsMap_eq (m : Model) : getNamespaceNamePortsMap slices m =
      mergeBackendsInNamespaceNamePortMap slices (backendsOf m) ∅ := by
  simp only [getNamespaceNamePortsMap, mergeHTTP, mergeTLS, mergeTCP, backendsOf, httpBackends,
    tlsBackends, tcpBackends, mergeBackends_append, mergeBackends_flatMap, mergeBackends_mirrors]

variable {backends : List Backend}

/-- The ports of the backends with a namespace and name. -/
def servicePortsAt (backends : List Backend) (ns name : String) : List ServicePort :=
  ((backends.filterMap servicePort).filter fun sp => sp.ns = ns).filter fun sp => sp.name = name

theorem mem_servicePortsAt {ns : String} {sp : ServicePort} : sp ∈ servicePortsAt backends ns name ↔
      sp ∈ backends.filterMap servicePort ∧ sp.ns = ns ∧ sp.name = name := by
  simp only [servicePortsAt, mem_filter, decide_eq_true_eq, and_assoc]

/-- The ports at a namespace and name are those of the backends, put in one after the other. -/
theorem get?_mergeBackends (slices : Slices) (backends : List Backend) (ns name : String) :
    ((mergeBackendsInNamespaceNamePortMap slices backends ∅).get? ns).bind (·.get? name) =
      if servicePortsAt backends ns name = [] then none
      else some ((servicePortsAt backends ns name).foldl
        (fun ports sp => slices.sortedUnique (ports ++ [sp.port])) []) := by
  rw [mergeBackends_eq]
  refine (Map.get?_foldl_alter_alter (fun sp : ServicePort => sp.ns) (fun sp => sp.name)
    (fun sp ports => slices.sortedUnique (ports.getD [] ++ [sp.port])) _ ns name).trans ?_
  exact Map.foldl_some_getD
    (fun (sp : ServicePort) ports => slices.sortedUnique (ports ++ [sp.port])) [] _

theorem mem_services {m : NamespaceNamePortMap} {s : Service} :
    s ∈ services m ↔ (m.get? s.ns).bind (·.get? s.name) = some s.ports := by
  rw [← Map.mem_toTriples, services, mem_map]
  constructor
  · intro h
    obtain ⟨⟨ns, name, ports⟩, ht, rfl⟩ := h
    exact ht
  · intro h
    exact ⟨_, h, rfl⟩

/-- A service of the backends has the ports of the backends with its namespace and name,
    sorted. -/
theorem ports_of_mem_services {s : Service}
    (hs : s ∈ services (mergeBackendsInNamespaceNamePortMap slices backends ∅)) :
    s.ports.Pairwise (· < ·) ∧
      ∀ port, port ∈ s.ports ↔ ⟨s.ns, s.name, port⟩ ∈ backends.filterMap servicePort := by
  rw [mem_services, get?_mergeBackends] at hs
  split_ifs at hs
  obtain ⟨hsorted, hmem⟩ := slices.foldl_sortedUnique (fun sp : ServicePort => sp.port)
    (servicePortsAt backends s.ns s.name)
  rw [Option.some_inj.1 hs] at hsorted hmem
  refine ⟨hsorted, fun port => (hmem port).trans ?_⟩
  rw [mem_map]
  constructor
  · intro h
    obtain ⟨sp, hsp, rfl⟩ := h
    obtain ⟨hsp, hns, hname⟩ := mem_servicePortsAt.1 hsp
    rw [← hns, ← hname]
    exact hsp
  · intro h
    exact ⟨_, mem_servicePortsAt.2 ⟨h, rfl, rfl⟩, rfl⟩

theorem exists_mem_services (slices : Slices) {sp : ServicePort}
    (hsp : sp ∈ backends.filterMap servicePort) :
    ∃ s ∈ services (mergeBackendsInNamespaceNamePortMap slices backends ∅),
      sp ∈ s.servicePorts := by
  have hne : servicePortsAt backends sp.ns sp.name ≠ [] :=
    ne_nil_of_mem (mem_servicePortsAt.2 ⟨hsp, rfl, rfl⟩)
  have hget := get?_mergeBackends slices backends sp.ns sp.name
  rw [if_neg hne] at hget
  have hs := mem_services (s := ⟨sp.name, sp.ns, _⟩) |>.2 hget
  refine ⟨_, hs, mem_map.2 ⟨sp.port, ?_, rfl⟩⟩
  exact ((ports_of_mem_services hs).2 sp.port).2 hsp

/-- However the services of backends are visited, their ports are those of the backends, and
    each of them is visited once. -/
theorem servicePorts_of_perm {ss : List Service}
    (hss : ss.Perm (services (mergeBackendsInNamespaceNamePortMap slices backends ∅))) :
    (ss.flatMap (·.servicePorts)).Nodup ∧
      ∀ sp, sp ∈ ss.flatMap (·.servicePorts) ↔ sp ∈ backends.filterMap servicePort := by
  constructor
  · rw [nodup_flatMap]
    constructor
    · -- the ports of one service
      intro s hs
      have hports : s.ports.Nodup := (ports_of_mem_services (hss.mem_iff.1 hs)).1.imp ne_of_lt
      exact hports.map fun port port' h => congrArg ServicePort.port h
    · -- different services differ in their namespace or name
      have hkeys : (ss.map fun s => (s.ns, s.name)).Nodup := by
        rw [(hss.map _).nodup_iff, services, map_map]
        exact Map.nodup_keys_toTriples _
      refine (pairwise_map.1 hkeys).imp fun {s s'} hne sp hsp hsp' => ?_
      obtain ⟨_, _, rfl⟩ := mem_map.1 hsp
      obtain ⟨_, _, heq⟩ := mem_map.1 hsp'
      simp only [ServicePort.mk.injEq] at heq
      exact hne (Prod.ext heq.1.symm heq.2.1.symm)
  · intro sp
    rw [mem_flatMap]
    constructor
    · intro h
      obtain ⟨s, hs, hsp⟩ := h
      obtain ⟨port, hport, rfl⟩ := mem_map.1 hsp
      exact ((ports_of_mem_services (hss.mem_iff.1 hs)).2 port).1 hport
    · intro h
      obtain ⟨s, hs, hsp⟩ := exists_mem_services slices h
      exact ⟨s, hss.mem_iff.2 hs, hsp⟩

theorem visitPorts_spec (slices : Slices) (order : RangeOrder Service) (backends : List Backend) :
    let sps := visitPorts order (mergeBackendsInNamespaceNamePortMap slices backends ∅)
    sps.Nodup ∧ ∀ sp, sp ∈ sps ↔ sp ∈ backends.filterMap servicePort :=
  servicePorts_of_perm (order.perm _)

theorem getBackendServices_spec (slices : Slices) (order : RangeOrder Service) (m : Model) :
    ((getBackendServices slices order m).flatMap (·.servicePorts)).Nodup ∧
      ∀ sp, sp ∈ (getBackendServices slices order m).flatMap (·.servicePorts) ↔
        sp ∈ servicePortsOf m := by
  have hperm : (getBackendServices slices order m).Perm
      (services (mergeBackendsInNamespaceNamePortMap slices (backendsOf m) ∅)) := by
    rw [getBackendServices, getNamespaceNamePortsMap_eq]
    exact (perm_insertionSort _ _).trans (order.perm _)
  exact servicePorts_of_perm hperm

end

/-! ## What determines the services -/

/-- What the backend services are sorted by. -/
def serviceKey (s : Service) : String ×ₗ String ×ₗ String :=
  toLex (s.ns, toLex (s.name, s.ports.headD ""))

theorem serviceLess_eq_false {a b : Service} :
    serviceLess b a = false ↔ serviceKey a ≤ serviceKey b := by
  rw [serviceLess, serviceKey, serviceKey, Prod.Lex.toLex_le_toLex, Prod.Lex.toLex_le_toLex,
    lexLess_eq_false, lexLess_eq_false, decide_eq_false_iff_not, not_lt]

/-- A service with all the ports that the backends have for it. -/
structure ServiceOf (m : Model) (s : Service) : Prop where
  ports_ne : s.ports ≠ []
  sorted : s.ports.Pairwise (· < ·)
  mem_iff : ∀ port, port ∈ s.ports ↔ ⟨s.ns, s.name, port⟩ ∈ servicePortsOf m

theorem mem_services_iff {slices : Slices} {m : Model} {s : Service} :
    s ∈ services (mergeBackendsInNamespaceNamePortMap slices (backendsOf m) ∅) ↔ ServiceOf m s := by
  constructor
  · intro h
    obtain ⟨hsorted, hmem⟩ := ports_of_mem_services h
    refine ⟨fun hnil => ?_, hsorted, hmem⟩
    rw [mem_services, get?_mergeBackends] at h
    split_ifs at h with hnone
    obtain ⟨sp, hsp⟩ := exists_mem_of_ne_nil _ hnone
    obtain ⟨hsp, hns, hname⟩ := mem_servicePortsAt.1 hsp
    have hport := (hmem sp.port).2 (by rw [← hns, ← hname]; exact hsp)
    exact absurd hport (hnil ▸ not_mem_nil)
  · intro h
    obtain ⟨port, hport⟩ := exists_mem_of_ne_nil _ h.ports_ne
    obtain ⟨s', hs', hsp⟩ := exists_mem_services slices ((h.mem_iff port).1 hport)
    obtain ⟨_, _, heq⟩ := mem_map.1 hsp
    obtain ⟨hns, hname, _⟩ := ServicePort.mk.inj heq
    -- the ports are sorted, so there is one list of them
    obtain ⟨hsorted, hmem⟩ := ports_of_mem_services hs'
    have hports : s.ports = s'.ports := by
      refine eq_of_keys_lt id h.sorted hsorted fun port => ?_
      rw [h.mem_iff, hmem, hns, hname]
      exact Iff.rfl
    have hs : s = s' := by
      cases s
      cases s'
      simp_all
    exact hs ▸ hs'

/-- The backend services are sorted by namespace and name, and all those of the model. -/
theorem mem_getBackendServices (slices : Slices) (order : RangeOrder Service) (m : Model) :
    (getBackendServices slices order m).Pairwise (fun a b => serviceKey a < serviceKey b) ∧
      ∀ s, s ∈ getBackendServices slices order m ↔ ServiceOf m s := by
  have hkeys : ((order.visit (services (getNamespaceNamePortsMap slices m))).map
      fun s => (s.ns, s.name)).Nodup := by
    rw [((order.perm _).map _).nodup_iff, services, map_map]
    exact Map.nodup_keys_toTriples _
  have hnodup : ((order.visit (services (getNamespaceNamePortsMap slices m))).map
      serviceKey).Nodup := by
    refine Nodup.of_map (fun k => ((ofLex k).1, (ofLex (ofLex k).2).1)) ?_
    rw [map_map]
    exact hkeys
  refine ⟨insertionSort_keys_lt (fun a b => serviceLess_eq_false) hnodup, fun s => ?_⟩
  rw [getBackendServices, mem_insertionSort, (order.perm _).mem_iff, getNamespaceNamePortsMap_eq,
    mem_services_iff]

theorem getBackendServices_congr {slices : Slices} {m m' : Model}
    (h : ∀ sp, sp ∈ servicePortsOf m ↔ sp ∈ servicePortsOf m') (order order' : RangeOrder Service) :
    getBackendServices slices order m = getBackendServices slices order' m' := by
  obtain ⟨hsorted, hmem⟩ := mem_getBackendServices slices order m
  obtain ⟨hsorted', hmem'⟩ := mem_getBackendServices slices order' m'
  refine eq_of_keys_lt serviceKey hsorted hsorted' fun s => ?_
  rw [hmem, hmem']
  constructor
  · intro hs
    exact ⟨hs.ports_ne, hs.sorted, fun port => (hs.mem_iff port).trans (h _)⟩
  · intro hs
    exact ⟨hs.ports_ne, hs.sorted, fun port => (hs.mem_iff port).trans (h _).symm⟩

/-! ## The clusters -/

/-- The names of the table are its keys, and a cluster is at its name. -/
structure ClusterTable.Indexed (table : ClusterTable) : Prop where
  lists : table.envoyClusters.Lists table.sortedClusterNames
  named : ∀ name c, table.envoyClusters.get? name = some c → c.name = name

theorem ClusterTable.Indexed.add (h : table.Indexed) {c : Cluster}
    (hc : c.name ∉ table.sortedClusterNames) : (table.add c).Indexed := by
  refine ⟨h.lists.set hc c, fun name c' hget => ?_⟩
  rw [ClusterTable.add, Map.get?_set] at hget
  split_ifs at hget with hname
  · rw [hname, Option.some_inj.1 hget]
  · exact h.named name c' hget

/-- Clusters with other names than those so far are all put in the table. -/
theorem ClusterTable.Indexed.foldl_add (h : table.Indexed) (cs : List Cluster)
    (hcs : (table.sortedClusterNames ++ cs.map (·.name)).Nodup) :
    (cs.foldl ClusterTable.add table).Indexed := by
  induction cs generalizing table with
  | nil => exact h
  | cons c cs ih =>
    have hc : c.name ∉ table.sortedClusterNames := fun hmem =>
      (nodup_append.1 hcs).2.2 _ hmem _ mem_cons_self rfl
    refine ih (h.add hc) ?_
    rw [ClusterTable.add, append_assoc, singleton_append]
    exact hcs

theorem ClusterTable.Indexed.addTCP (h : table.Indexed) (sp : ServicePort) :
    (table.addTCP sp).Indexed ∧ ∀ name, name ∈ (table.addTCP sp).sortedClusterNames ↔
      name ∈ table.sortedClusterNames ∨ sp.clusterName = name := by
  rw [ClusterTable.addTCP]
  cases hget : table.envoyClusters.get? sp.clusterName with
  | some c =>
    have hmem : sp.clusterName ∈ table.sortedClusterNames := (h.lists.mem_iff _).2 ⟨c, hget⟩
    exact ⟨h, fun name => (or_iff_left_of_imp fun heq => heq ▸ hmem).symm⟩
  | none =>
    have hnot : sp.clusterName ∉ table.sortedClusterNames := by
      rw [h.lists.mem_iff, hget]
      simp
    refine ⟨h.add hnot, fun name => ?_⟩
    rw [ClusterTable.add, mem_append, mem_singleton]
    exact or_congr_right eq_comm

/-- The loops for TLS and TCP routes add the names that are not there. -/
theorem ClusterTable.Indexed.foldl_addTCP (h : table.Indexed) (sps : List ServicePort) :
    (sps.foldl ClusterTable.addTCP table).Indexed ∧
      ∀ name, name ∈ (sps.foldl ClusterTable.addTCP table).sortedClusterNames ↔
        name ∈ table.sortedClusterNames ∨ name ∈ sps.map (·.clusterName) := by
  induction sps generalizing table with
  | nil => exact ⟨h, fun name => by simp⟩
  | cons sp sps ih =>
    obtain ⟨hadd, hnames⟩ := h.addTCP sp
    obtain ⟨hall, hmem⟩ := ih hadd
    refine ⟨hall, fun name => (hmem name).trans ?_⟩
    rw [hnames, map_cons, mem_cons, or_assoc, eq_comm (a := name)]

theorem ClusterTable.names_foldl_add (table : ClusterTable) (cs : List Cluster) :
    (cs.foldl ClusterTable.add table).sortedClusterNames =
      table.sortedClusterNames ++ cs.map (·.name) := by
  induction cs generalizing table with
  | nil => exact (append_nil _).symm
  | cons c cs ih =>
    rw [foldl_cons, ih, ClusterTable.add, append_assoc]
    rfl

/-- What the loop for HTTP routes leaves in the table. -/
theorem ClusterTable.get?_foldl_add {cs : List Cluster} {c : Cluster}
    (h : (cs.foldl ClusterTable.add table).envoyClusters.get? name = some c) :
    table.envoyClusters.get? name = some c ∨ c ∈ cs := by
  induction cs generalizing table with
  | nil => exact .inl h
  | cons c' cs ih =>
    rcases ih h with hget | hmem
    · rw [ClusterTable.add, Map.get?_set] at hget
      split_ifs at hget
      · exact .inr (Option.some_inj.1 hget ▸ mem_cons_self)
      · exact .inl hget
    · exact .inr (mem_cons_of_mem _ hmem)

/-- What the loops for TLS and TCP routes leave in the table: what was there, and new clusters
    at other names. -/
theorem ClusterTable.get?_foldl_addTCP {c : Cluster}
    (h : (sps.foldl ClusterTable.addTCP table).envoyClusters.get? name = some c) :
    table.envoyClusters.get? name = some c ∨ (table.envoyClusters.get? name = none ∧
      ∃ sp ∈ sps, sp.clusterName = name ∧ c = newTCPClusterWithDefaults sp) := by
  induction sps generalizing table with
  | nil => exact .inl h
  | cons sp sps ih =>
    cases hsp : table.envoyClusters.get? sp.clusterName with
    | some c' =>
      have hsame : table.addTCP sp = table := by rw [ClusterTable.addTCP, hsp]
      rw [foldl_cons, hsame] at h
      rcases ih h with hget | ⟨hnone, sp', hsp', hc⟩
      · exact .inl hget
      · exact .inr ⟨hnone, sp', mem_cons_of_mem _ hsp', hc⟩
    | none =>
      have hadd : table.addTCP sp = table.add (newTCPClusterWithDefaults sp) := by
        rw [ClusterTable.addTCP, hsp]
      have hget (name : String) : (table.addTCP sp).envoyClusters.get? name =
          if name = sp.clusterName then some (newTCPClusterWithDefaults sp)
          else table.envoyClusters.get? name := by
        rw [hadd, ClusterTable.add, Map.get?_set]
        rfl
      rcases ih h with hc | ⟨hnone, sp', hsp', hc⟩
      · rw [hget] at hc
        split_ifs at hc with hname
        · exact .inr ⟨hname ▸ hsp, sp, mem_cons_self, hname.symm, (Option.some_inj.1 hc).symm⟩
        · exact .inl hc
      · rw [hget] at hnone
        split_ifs at hnone
        exact .inr ⟨hnone, sp', mem_cons_of_mem _ hsp', hc⟩

theorem ClusterTable.names_foldl_addTCP (table : ClusterTable) (sps : List ServicePort) :
    table.sortedClusterNames <+: (sps.foldl ClusterTable.addTCP table).sortedClusterNames := by
  induction sps generalizing table with
  | nil => exact prefix_rfl
  | cons sp sps ih =>
    refine List.IsPrefix.trans ?_ (ih (table.addTCP sp))
    rw [ClusterTable.addTCP]
    cases table.envoyClusters.get? sp.clusterName with
    | some c => exact prefix_rfl
    | none => exact prefix_append _ _

/-- The resources of a table are its clusters, sorted by name. -/
theorem ClusterTable.Indexed.exists_clusters (h : table.Indexed) {names : List String}
    (hnames : ∀ name ∈ names, name ∈ table.sortedClusterNames) :
    ∃ cs : List Cluster, cs.map (·.name) = names ∧
      (∀ c ∈ cs, table.envoyClusters.get? c.name = some c) ∧
      (names.map fun name =>
        match table.envoyClusters.get? name with
        | some c => XDSResource.cluster c
        | none => .empty) = cs.map .cluster := by
  induction names with
  | nil => exact ⟨[], rfl, by simp, rfl⟩
  | cons name names ih =>
    obtain ⟨cs, hcs, hfound, hres⟩ := ih fun n hn => hnames n (mem_cons_of_mem _ hn)
    obtain ⟨c, hc⟩ := (h.lists.mem_iff name).1 (hnames name mem_cons_self)
    have hname := h.named name c hc
    refine ⟨c :: cs, ?_, forall_mem_cons.2 ⟨hname ▸ hc, hfound⟩, ?_⟩
    · rw [map_cons, hcs, hname]
    · rw [map_cons, map_cons, hres, hc]

theorem foldl_newHTTPCluster (t : DefaultTranslator) (m : Model) {http : List ServicePort}
    (h : (http.map (·.clusterName)).Nodup) :
    let table := (http.map (newHTTPCluster t m)).foldl ClusterTable.add {}
    table.Indexed ∧ table.sortedClusterNames = http.map (·.clusterName) ∧
      ∀ name c, table.envoyClusters.get? name = some c →
        ∃ sp ∈ http, c = newHTTPCluster t m sp := by
  have hnames : ((http.map (newHTTPCluster t m)).map (·.name)) = http.map (·.clusterName) := by
    rw [map_map]
    rfl
  have hempty : ({} : ClusterTable).Indexed := ⟨Map.Lists.empty, fun name c hget => by simp at hget⟩
  refine ⟨hempty.foldl_add _ (by rw [hnames]; exact h), ?_, fun name c hc => ?_⟩
  · rw [ClusterTable.names_foldl_add, hnames]
    rfl
  · rcases ClusterTable.get?_foldl_add hc with hc | hc
    · simp at hc
    · obtain ⟨sp, hsp, rfl⟩ := mem_map.1 hc
      exact ⟨sp, hsp, rfl⟩

/-- The clusters of the model: those of HTTP routes, and those of TLS and TCP routes that have
    other names. -/
inductive ClusterOf (t : DefaultTranslator) (m : Model) : Cluster → Prop
  | http (sp : ServicePort) (hsp : sp ∈ (httpBackends m).filterMap servicePort) :
    ClusterOf t m (newHTTPCluster t m sp)
  | tcp (sp : ServicePort) (hsp : sp ∈ (tlsBackends m ++ tcpBackends m).filterMap servicePort)
    (hname : sp.clusterName ∉ clusterNames (httpBackends m)) :
    ClusterOf t m (newTCPClusterWithDefaults sp)

theorem upstreamHostname_eq (m : Model) : upstreamHostname m =
      ((m.http.flatMap (·.routes)).filterMap (·.hostnames.head?)).getLast?.getD "" := by
  rw [upstreamHostname, ← foldl_getD, foldl_flatMap]

section

variable (slices : Slices) (orders : ClusterOrders) (t : DefaultTranslator) {m : Model}

/-- The table is filled with clusters of HTTP backends, and then with those of others. -/
theorem exists_clusterTable (m : Model) : ∃ http others : List ServicePort,
    http.Nodup ∧ (∀ sp, sp ∈ http ↔ sp ∈ (httpBackends m).filterMap servicePort) ∧
      (∀ sp, sp ∈ others ↔ sp ∈ (tlsBackends m ++ tcpBackends m).filterMap servicePort) ∧
      clusterTable slices orders t m = others.foldl ClusterTable.addTCP
        ((http.map (newHTTPCluster t m)).foldl ClusterTable.add {}) := by
  obtain ⟨hnodup, hhttp⟩ := visitPorts_spec slices orders.http (httpBackends m)
  obtain ⟨_, htls⟩ := visitPorts_spec slices orders.tls (tlsBackends m)
  obtain ⟨_, htcp⟩ := visitPorts_spec slices orders.tcp (tcpBackends m)
  refine ⟨_, visitPorts orders.tls (mergeBackendsInNamespaceNamePortMap slices (tlsBackends m) ∅) ++
    visitPorts orders.tcp (mergeBackendsInNamespaceNamePortMap slices (tcpBackends m) ∅), hnodup,
    hhttp, fun sp => ?_, ?_⟩
  · rw [filterMap_append, mem_append, mem_append, ← htls, ← htcp]
  · rw [clusterTable, getNamespaceNamePortsMapForHTTP_eq, getNamespaceNamePortsMapForTLS_eq,
      getNamespaceNamePortsMapForTCP_eq, foldl_append, foldl_map]

/-- The table has a cluster for every port of the backends. It is only in the loop for HTTP
    routes that a name could be put in twice. -/
theorem clusterTable_spec (h : NamesDistinct ((httpBackends m).filterMap servicePort)) :
    (clusterTable slices orders t m).Indexed ∧
      (∀ name, name ∈ (clusterTable slices orders t m).sortedClusterNames ↔
        name ∈ clusterNames (backendsOf m)) ∧
      ∀ name c, (clusterTable slices orders t m).envoyClusters.get? name = some c →
        ClusterOf t m c := by
  obtain ⟨http, others, hnodup, hhttp, hothers, htable⟩ := exists_clusterTable slices orders t m
  rw [htable]
  have hdistinct : (http.map (·.clusterName)).Nodup := by
    refine hnodup.map_on fun sp hsp sp' hsp' heq => ?_
    exact h sp ((hhttp sp).1 hsp) sp' ((hhttp sp').1 hsp') heq
  obtain ⟨hindexed, hnames, hmade⟩ := foldl_newHTTPCluster t m hdistinct
  obtain ⟨hindexed', hmem⟩ := hindexed.foldl_addTCP others
  refine ⟨hindexed', fun name => (hmem name).trans ?_, fun name c hc => ?_⟩
  · rw [hnames]
    simp only [mem_map, hhttp, hothers, clusterNames, backendsOf, filterMap_append, mem_append,
      or_assoc, or_and_right, exists_or]
  · rcases ClusterTable.get?_foldl_addTCP hc with hc | ⟨hnone, sp, hsp, rfl, rfl⟩
    · obtain ⟨sp, hsp, rfl⟩ := hmade name c hc
      exact .http sp ((hhttp sp).1 hsp)
    · refine .tcp sp ((hothers sp).1 hsp) fun hname => ?_
      -- the names of HTTP routes have a cluster after the first loop
      obtain ⟨sp', hsp', heq⟩ := mem_map.1 hname
      have hlisted := (hindexed.lists.mem_iff sp.clusterName).1
        (by rw [hnames]; exact mem_map.2 ⟨sp', (hhttp sp').2 hsp', heq⟩)
      obtain ⟨c, hc⟩ := hlisted
      rw [hnone] at hc
      cases hc

theorem mem_getClusters {r : XDSResource} (hr : r ∈ getClusters slices orders t m) :
    r = .empty ∨ ∃ c, r = .cluster c := by
  obtain ⟨name, _, rfl⟩ := mem_map.1 hr
  cases (clusterTable slices orders t m).envoyClusters.get? name with
  | none => exact .inl rfl
  | some c => exact .inr ⟨c, rfl⟩

theorem getClusters_spec (h : NamesDistinct ((httpBackends m).filterMap servicePort)) :
    ∃ cs : List Cluster, getClusters slices orders t m = cs.map .cluster ∧
      (cs.map (·.name)).Pairwise (· < ·) ∧
      (∀ name, name ∈ cs.map (·.name) ↔ name ∈ clusterNames (backendsOf m)) ∧
      ∀ c ∈ cs, ClusterOf t m c := by
  obtain ⟨htable, hnames, hmade⟩ := clusterTable_spec slices orders t h
  have hsorted : ∀ name ∈ sortStrings (clusterTable slices orders t m).sortedClusterNames,
      name ∈ (clusterTable slices orders t m).sortedClusterNames :=
    fun name hname => mem_sortStrings.1 hname
  obtain ⟨cs, hcs, hfound, hres⟩ := htable.exists_clusters hsorted
  refine ⟨cs, hres, ?_, fun name => ?_, fun c hc => ?_⟩
  · rw [hcs]
    exact sortStrings_strict htable.lists.nodup
  · rw [hcs, mem_sortStrings, hnames]
  · exact hmade c.name c (hfound c hc)

theorem namesDistinct_of_nodup (h : (getClusters slices orders t m).Nodup) :
    NamesDistinct ((httpBackends m).filterMap servicePort) := by
  have hnames := (sortStrings_perm _).nodup_iff.1 (Nodup.of_map _ h)
  obtain ⟨_, hhttp⟩ := visitPorts_spec slices orders.http (httpBackends m)
  rw [clusterTable, getNamespaceNamePortsMapForHTTP_eq, ← foldl_append] at hnames
  have hadded := (ClusterTable.names_foldl_addTCP _ _).sublist.nodup hnames
  rw [← foldl_map, ClusterTable.names_foldl_add, map_map] at hadded
  intro sp hsp sp' hsp' heq
  exact inj_on_of_nodup_map hadded ((hhttp sp).2 hsp) ((hhttp sp').2 hsp') heq

variable {slices t}

theorem http_mem_servicePortsOf {sp : ServicePort}
    (hsp : sp ∈ (httpBackends m).filterMap servicePort) : sp ∈ servicePortsOf m := by
  rw [servicePortsOf, backendsOf, append_assoc, filterMap_append]
  exact mem_append_left _ hsp

theorem tcp_mem_servicePortsOf {sp : ServicePort}
    (hsp : sp ∈ (tlsBackends m ++ tcpBackends m).filterMap servicePort) :
    sp ∈ servicePortsOf m := by
  rw [servicePortsOf, backendsOf, append_assoc, filterMap_append]
  exact mem_append_right _ hsp

theorem ClusterOf.eq_of_name (h : NamesDistinct (servicePortsOf m)) {c c' : Cluster}
    (hc : ClusterOf t m c) (hc' : ClusterOf t m c') (hname : c.name = c'.name) : c = c' := by
  cases hc with
  | http sp hsp =>
    cases hc' with
    | http sp' hsp' =>
      rw [h sp (http_mem_servicePortsOf hsp) sp' (http_mem_servicePortsOf hsp') hname]
    | tcp sp' hsp' hnot => exact absurd (mem_map.2 ⟨sp, hsp, hname⟩) hnot
  | tcp sp hsp hnot =>
    cases hc' with
    | http sp' hsp' => exact absurd (mem_map.2 ⟨sp', hsp', hname.symm⟩) hnot
    | tcp sp' hsp' _ =>
      rw [h sp (tcp_mem_servicePortsOf hsp) sp' (tcp_mem_servicePortsOf hsp') hname]

theorem ClusterOf.name_mem {c : Cluster} (hc : ClusterOf t m c) :
    c.name ∈ clusterNames (backendsOf m) := by
  cases hc with
  | http sp hsp => exact mem_map_of_mem (http_mem_servicePortsOf hsp)
  | tcp sp hsp _ => exact mem_map_of_mem (tcp_mem_servicePortsOf hsp)

theorem getClusters_congr {m' : Model} (h : NamesDistinct (servicePortsOf m))
    (h' : NamesDistinct (servicePortsOf m')) (hcs : ∀ c, ClusterOf t m c ↔ ClusterOf t m' c)
    (orders' : ClusterOrders) :
    getClusters slices orders t m = getClusters slices orders' t m' := by
  have hhttp {m : Model} (h : NamesDistinct (servicePortsOf m)) :
      NamesDistinct ((httpBackends m).filterMap servicePort) :=
    h.subset fun sp hsp => http_mem_servicePortsOf hsp
  -- with distinct names, the clusters listed are those of the model
  have hmem {m : Model} (h : NamesDistinct (servicePortsOf m)) {cs : List Cluster}
      (hnames : ∀ name, name ∈ cs.map (·.name) ↔ name ∈ clusterNames (backendsOf m))
      (hmade : ∀ c ∈ cs, ClusterOf t m c) (c : Cluster) : c ∈ cs ↔ ClusterOf t m c := by
    refine ⟨hmade c, fun hc => ?_⟩
    obtain ⟨c', hc', hname⟩ := mem_map.1 ((hnames c.name).2 hc.name_mem)
    exact (hmade c' hc').eq_of_name h hc hname ▸ hc'
  obtain ⟨cs, hres, hsorted, hnames, hmade⟩ := getClusters_spec slices orders t (hhttp h)
  obtain ⟨cs', hres', hsorted', hnames', hmade'⟩ := getClusters_spec slices orders' t (hhttp h')
  have hlists : cs = cs' := by
    refine eq_of_keys_lt (·.name) (pairwise_map.1 hsorted) (pairwise_map.1 hsorted')
      fun c => ?_
    rw [hmem h hnames hmade, hmem h' hnames' hmade', hcs]
  rw [hres, hres', hlists]

end

end Translation
