import Dolphin.Go.Slices
import Dolphin.Go.Sort
import Dolphin.Translation.VirtualHosts

/-!
# Route configurations

`getEnvoyHTTPRouteConfiguration` makes a route configuration for the routes of the listeners
without TLS, `listener-insecure`, and one for those of the listeners with TLS,
`listener-secure`. It fills two maps, the host names of each of these two classes and the
routes of each host name and class, and then makes a virtual host for every distinct host
name.

What it is for can be said without maps. The *effective hosts* of a route are its host
names, or that of its listener (`effectiveHosts`); `hostsFor` are those of a class and
`routesFor` the routes of a class with a given effective host, in the order of the model and
with multiplicity.

With enforcement of HTTPS, the configuration of the listeners without TLS has a redirect for
every host with a route on a listener with TLS, in the place of whatever routes the host has
without TLS (`configuredHost`). It has none if no listener without TLS has a route.

* `portConfiguration_configured`: with and without enforcement, a configuration has one virtual
  host for each of its hosts, sorted by name;
* `routeConfigurations_refine`: without enforcement, the result is exactly the virtual hosts made
  from `routesFor`, for all of `hostsFor`.
-/

namespace Translation

open Model Go Envoy List

variable {rc : RouteConfiguration}

structure DefaultTranslator where
  name : String
  ns : String
  secretsNamespace : String
  enforceHTTPs : Bool := false
  useProxyProtocol : Bool := false
  hostNameSuffixMatch : Bool := false
  idleTimeoutSeconds : Int := 0
  ipv4Enabled : Bool := false
  ipv6Enabled : Bool := false

/-! ## The maps -/

def secureHost : String := "secure"

def insecureHost : String := "insecure"

/-- The class of a listener. -/
def portOf (l : HTTPListener) : String := if l.tls.isSome then secureHost else insecureHost

/-- The variables `portHostName` and `hostNamePortRoutes`. -/
structure HostMaps where
  portHostName : Go.Map String (List String) := ∅
  hostNamePortRoutes : Go.Map String (Go.Map String (List Model.HTTPRoute)) := ∅

/-- A route of the class `port` with the host name `h` is put in both maps. -/
def addHost (maps : HostMaps) (port h : String) (r : Model.HTTPRoute) : HostMaps where
  portHostName := maps.portHostName.appendAt port h
  hostNamePortRoutes := maps.hostNamePortRoutes.alter h fun routes =>
    (routes.getD ∅).appendAt port r

def addRoute (l : HTTPListener) (maps : HostMaps) (r : Model.HTTPRoute) : HostMaps :=
  match r.hostnames with
  | [] => addHost maps (portOf l) l.hostname r
  | hostnames => hostnames.foldl (fun maps h => addHost maps (portOf l) h r) maps

def fillHostMaps (m : Model) : HostMaps :=
  m.http.foldl (fun maps l => l.routes.foldl (addRoute l) maps) {}

/-! ## The configurations -/

section

variable (slices : Slices) (t : DefaultTranslator) (m : Model)

/-- The virtual host for `h`, as a redirect to HTTPS or not. -/
def hostVirtualHost (routes : List Model.HTTPRoute) (h : String) (httpsRedirect : Bool) :
    Result VirtualHost := do
  let first ← deref m.http.head?
  newVirtualHost routes
    { hostNames := [h]
      httpsRedirect := httpsRedirect
      hostNameSuffixMatch := t.hostNameSuffixMatch
      listenerPort := first.port }

/-- `hostNamePortRoutes[h][port]`. -/
def HostMaps.routesAt (maps : HostMaps) (h port : String) : Option (List Model.HTTPRoute) :=
  (maps.hostNamePortRoutes.get? h).bind (·.get? port)

/-- The iteration for the host name `h`, which is skipped if it has no routes. -/
def hostIteration (maps : HostMaps) (port h : String) : Result (List VirtualHost) :=
  match maps.routesAt h port with
  | none => pure []
  | some routes => hostVirtualHost t m routes h false >>= fun vh => pure [vh]

/-- The iteration for one of the two classes. -/
def portConfiguration (port : String) : Result (List RouteConfiguration) :=
  let maps := fillHostMaps m
  match maps.portHostName.get? port with
  | none => pure (if port = insecureHost ∧ m.http ≠ [] then [⟨"listener-insecure", []⟩] else [])
  | some hostNames => do
    let redirected :=
      if port = insecureHost ∧ t.enforceHTTPs = true then
        slices.unique ((maps.portHostName.get? secureHost).getD [])
      else []
    let redirects ← redirected.mapM fun h =>
      hostVirtualHost t m ((maps.routesAt h secureHost).getD []) h true
    let hosts := (slices.unique hostNames).filter fun h =>
      !(port == insecureHost && redirected.contains h)
    let virtualHosts ← collect (hostIteration t m maps port) hosts
    let sorted := (redirects ++ virtualHosts).insertionSort fun a b => a.name ≤ b.name
    pure [⟨"listener-" ++ port, sorted⟩]

def getEnvoyHTTPRouteConfiguration : Result (List RouteConfiguration) :=
  collect (portConfiguration slices t m) [insecureHost, secureHost]

end

/-! ## What the configurations are for -/

/-- The host names of a route, or that of its listener. -/
def effectiveHosts (l : HTTPListener) (r : Model.HTTPRoute) : List String :=
  if r.hostnames = [] then [l.hostname] else r.hostnames

def listenersOf (m : Model) (secure : Bool) : List HTTPListener :=
  m.http.filter fun l => l.secure = secure

/-- The effective hosts of the routes of a class. -/
def hostsFor (m : Model) (secure : Bool) : List String :=
  (listenersOf m secure).flatMap fun l => l.routes.flatMap (effectiveHosts l)

/-- The routes of a class with the effective host `h`, in the order of the model and with
    multiplicity. -/
def routesFor (m : Model) (secure : Bool) (h : String) : List Model.HTTPRoute :=
  (listenersOf m secure).flatMap fun l => l.routes.flatMap fun r =>
    List.replicate ((effectiveHosts l r).count h) r

def firstPort (m : Model) : Nat := (m.http.head?.map (·.port)).getD 0

/-- The virtual host that a configuration has for the effective host `h`. -/
def virtualHostFor (t : DefaultTranslator) (m : Model) (secure : Bool) (h : String) :
    Result VirtualHost :=
  newVirtualHost (routesFor m secure h) ⟨[h], false, t.hostNameSuffixMatch, firstPort m⟩

/-- The class of a listener as a string. -/
def classPort (secure : Bool) : String := if secure then secureHost else insecureHost

section

variable (t : DefaultTranslator) (m : Model) (secure : Bool)

/-- The host is redirected to HTTPS. -/
def Redirected (h : String) : Prop := secure = false ∧ t.enforceHTTPs = true ∧ h ∈ hostsFor m true

instance (h : String) : Decidable (Redirected t m secure h) :=
  inferInstanceAs (Decidable (_ ∧ _ ∧ _))

/-- The virtual host that the configuration of a class has for a host. -/
def configuredHost (h : String) : Result VirtualHost :=
  if Redirected t m secure h then
    newVirtualHost (routesFor m true h) ⟨[h], true, t.hostNameSuffixMatch, firstPort m⟩
  else virtualHostFor t m secure h

/-- The hosts that the configuration of a class has a virtual host for. -/
def configuredHosts (h : String) : Prop :=
  hostsFor m secure ≠ [] ∧ (h ∈ hostsFor m secure ∨ Redirected t m secure h)

/-- `rc` is the configuration of a class. -/
structure ConfiguredAs (rc : RouteConfiguration) : Prop where
  name : rc.name = "listener-" ++ classPort secure
  sorted : (rc.virtualHosts.map (·.name)).Pairwise (· < ·)
  hosts : ∀ h, h ∈ rc.virtualHosts.map (·.name) ↔ configuredHosts t m secure h
  routes : ∀ vh ∈ rc.virtualHosts, configuredHost t m secure vh.name = .ok vh

end

/-- `rc` is the configuration of a class: it has one virtual host for each distinct effective
    host of the class, sorted by name, which is made from the routes of that host. -/
structure ConfigurationOf (t : DefaultTranslator) (m : Model) (secure : Bool)
    (rc : RouteConfiguration) : Prop where
  name : rc.name = "listener-" ++ classPort secure
  sorted : (rc.virtualHosts.map (·.name)).Pairwise (· < ·)
  hosts : ∀ h, h ∈ rc.virtualHosts.map (·.name) ↔ h ∈ hostsFor m secure
  routes : ∀ vh ∈ rc.virtualHosts, virtualHostFor t m secure vh.name = .ok vh

/-- The class has a configuration: that without TLS as soon as there is a listener, that with
    TLS when one of its listeners has a route. -/
def Emitted (m : Model) : Bool → Prop
  | false => m.http ≠ []
  | true => ∃ l ∈ m.http, l.secure = true ∧ l.routes ≠ []

/-- `rcs` is the configuration of the class, or nothing when the class has none. -/
def Configurations (t : DefaultTranslator) (m : Model) (secure : Bool)
    (rcs : List RouteConfiguration) : Prop :=
  (Emitted m secure → ∃ rc, rcs = [rc] ∧ ConfigurationOf t m secure rc) ∧
    (¬ Emitted m secure → rcs = [])

/-- The route configurations refine the model: they are made when all virtual hosts can be
    made, they are those of the two classes, the virtual hosts of a configuration share no
    domain, and a virtual host depends only on the routes with its effective host and on the
    port of the first listener. -/
structure RefinesModel (slices : Slices) (t : DefaultTranslator) (m : Model) : Prop where
  returns : (∃ rcs, getEnvoyHTTPRouteConfiguration slices t m = .ok rcs) ↔
    ∀ secure, ∀ h ∈ hostsFor m secure, ∃ vh, virtualHostFor t m secure h = .ok vh
  configurations : ∀ rcs, getEnvoyHTTPRouteConfiguration slices t m = .ok rcs →
    ∃ insecure secure, rcs = insecure ++ secure ∧ Configurations t m false insecure ∧
      Configurations t m true secure
  disjoint : ∀ secure rc, ConfigurationOf t m secure rc →
    (∀ h ∈ hostsFor m secure, ':' ∉ h.toList) →
      rc.virtualHosts.Pairwise fun a b => a.domains.Disjoint b.domains
  depends : ∀ m' secure rc rc', ConfigurationOf t m secure rc → ConfigurationOf t m' secure rc' →
    ∀ vh ∈ rc.virtualHosts, ∀ vh' ∈ rc'.virtualHosts, vh.name = vh'.name →
      routesFor m secure vh.name = routesFor m' secure vh.name → firstPort m = firstPort m' →
        vh = vh'

/-! ## What the maps hold -/

/-- What the routes of a listener put in the maps, in order: class, host name and route. -/
def listenerEvents (l : HTTPListener) : List (String × String × Model.HTTPRoute) :=
  l.routes.flatMap fun r => (effectiveHosts l r).map fun h => (portOf l, h, r)

def events (m : Model) : List (String × String × Model.HTTPRoute) := m.http.flatMap listenerEvents

section

variable {m : Model}

theorem addRoute_eq (l : HTTPListener) :
    addRoute l = fun maps r =>
      (effectiveHosts l r).foldl (fun maps h => addHost maps (portOf l) h r) maps := by
  funext maps r
  rw [addRoute, effectiveHosts]
  cases r.hostnames <;> rfl

theorem fillHostMaps_eq (m : Model) :
    fillHostMaps m = (events m).foldl (fun maps e => addHost maps e.1 e.2.1 e.2.2) {} := by
  simp only [fillHostMaps, events, listenerEvents, foldl_flatMap, foldl_map, addRoute_eq]

theorem foldl_addHost (es : List (String × String × Model.HTTPRoute)) (maps : HostMaps) :
    es.foldl (fun maps e => addHost maps e.1 e.2.1 e.2.2) maps =
      { portHostName := es.foldl (fun m e => m.appendAt e.1 e.2.1) maps.portHostName
        hostNamePortRoutes := es.foldl (fun m e => m.alter e.2.1 fun routes =>
          (routes.getD ∅).appendAt e.1 e.2.2) maps.hostNamePortRoutes } := by
  induction es generalizing maps with
  | nil => rfl
  | cons e es ih =>
    rw [foldl_cons, ih]
    rfl

variable {secure : Bool} {h : String} {rcs : List RouteConfiguration}

theorem portOf_eq_classPort {l : HTTPListener} :
    portOf l = classPort secure ↔ l.secure = secure := by
  rw [portOf, classPort, HTTPListener.secure]
  cases l.tls.isSome <;> cases secure <;> decide

section

variable (m : Model) (secure : Bool)

theorem filter_events : ((events m).filter fun e => e.1 = classPort secure) =
      (listenersOf m secure).flatMap listenerEvents := by
  have hport (l : HTTPListener) (e : String × String × Model.HTTPRoute)
      (he : e ∈ listenerEvents l) : e.1 = portOf l := by
    obtain ⟨r, _, he⟩ := mem_flatMap.1 he
    obtain ⟨h, _, rfl⟩ := mem_map.1 he
    rfl
  rw [events, listenersOf]
  induction m.http with
  | nil => rfl
  | cons l ls ih =>
    rw [flatMap_cons, filter_append, ih]
    by_cases h : l.secure = secure
    · have hall : (listenerEvents l).filter (fun e => e.1 = classPort secure) = listenerEvents l :=
        filter_eq_self.2 fun e he => by
          rw [hport l e he, portOf_eq_classPort.2 h, decide_eq_true rfl]
      rw [filter_cons_of_pos (by simpa using h), flatMap_cons, hall]
    · have hnone : (listenerEvents l).filter (fun e => e.1 = classPort secure) = [] :=
        filter_eq_nil_iff.2 fun e he => by
          rw [hport l e he, decide_eq_true_eq]
          exact mt portOf_eq_classPort.1 h
      rw [filter_cons_of_neg (by simpa using h), hnone, nil_append]

theorem map_host_events :
    ((events m).filter fun e => e.1 = classPort secure).map (·.2.1) = hostsFor m secure := by
  rw [filter_events, hostsFor]
  simp [listenerEvents, map_flatMap, Function.comp_def]

theorem map_route_events (h : String) :
    (((events m).filter fun e => e.2.1 = h).filter fun e => e.1 = classPort secure).map (·.2.2) =
      routesFor m secure h := by
  rw [filter_comm, filter_events, routesFor, filter_flatMap, map_flatMap]
  refine flatMap_congr fun l _ => ?_
  rw [listenerEvents, filter_flatMap, map_flatMap]
  refine flatMap_congr fun r _ => ?_
  -- every occurrence of the host name puts the route once
  rw [filter_map, map_map, count_eq_length_filter]
  exact map_const'

theorem get?_portHostName : (fillHostMaps m).portHostName.get? (classPort secure) =
      if hostsFor m secure = [] then none else some (hostsFor m secure) := by
  rw [fillHostMaps_eq, foldl_addHost, ← map_host_events]
  simp only [Map.get?_foldl_appendAt (fun e : String × String × Model.HTTPRoute => e.1)
    (fun e => e.2.1), map_eq_nil_iff]

theorem routesAt_fillHostMaps (h : String) : (fillHostMaps m).routesAt h (classPort secure) =
      if routesFor m secure h = [] then none else some (routesFor m secure h) := by
  rw [HostMaps.routesAt, fillHostMaps_eq, foldl_addHost, ← map_route_events]
  simp only [map_eq_nil_iff, ← Map.foldl_append_getD]
  exact Map.get?_foldl_alter_alter (fun e : String × String × Model.HTTPRoute => e.2.1)
    (fun e => e.1) (fun e routes => routes.getD [] ++ [e.2.2]) (events m) h (classPort secure)

end

theorem mem_routesFor {r : Model.HTTPRoute} : r ∈ routesFor m secure h ↔
      ∃ l ∈ m.http, l.secure = secure ∧ r ∈ l.routes ∧ h ∈ effectiveHosts l r := by
  simp only [routesFor, listenersOf, mem_flatMap, mem_filter, mem_replicate,
    decide_eq_true_eq, ne_eq, count_eq_zero, not_not]
  constructor
  · rintro ⟨l, ⟨hl, hsecure⟩, r', hr, hmem, rfl⟩
    exact ⟨l, hl, hsecure, hr, hmem⟩
  · rintro ⟨l, hl, hsecure, hr, hmem⟩
    exact ⟨l, ⟨hl, hsecure⟩, r, hr, hmem, rfl⟩

theorem mem_hostsFor : h ∈ hostsFor m secure ↔ ∃ l ∈ m.http, l.secure = secure ∧ ∃ r ∈ l.routes,
      h ∈ effectiveHosts l r := by
  simp only [hostsFor, listenersOf, mem_flatMap, mem_filter, decide_eq_true_eq, and_assoc]

theorem routesFor_ne_nil (hh : h ∈ hostsFor m secure) : routesFor m secure h ≠ [] := by
  obtain ⟨l, hl, hsecure, r, hr, hmem⟩ := mem_hostsFor.1 hh
  exact ne_nil_of_mem (mem_routesFor.2 ⟨l, hl, hsecure, hr, hmem⟩)

theorem routesFor_ne_nil_iff : routesFor m secure h ≠ [] ↔ h ∈ hostsFor m secure := by
  refine ⟨fun hne => ?_, routesFor_ne_nil⟩
  obtain ⟨r, hr⟩ := exists_mem_of_ne_nil _ hne
  obtain ⟨l, hl, hsecure, hr, hh⟩ := mem_routesFor.1 hr
  exact mem_hostsFor.2 ⟨l, hl, hsecure, r, hr, hh⟩

theorem hostsFor_eq_nil_iff :
    hostsFor m secure = [] ↔ ∀ l ∈ m.http, l.secure = secure → l.routes = [] := by
  rw [eq_nil_iff_forall_not_mem]
  constructor
  · intro h l hl hsecure
    by_contra hroutes
    obtain ⟨r, hr⟩ := exists_mem_of_ne_nil _ hroutes
    have hne : effectiveHosts l r ≠ [] := by
      rw [effectiveHosts]
      split_ifs with hnil
      · exact cons_ne_nil _ _
      · exact hnil
    obtain ⟨host, hhost⟩ := exists_mem_of_ne_nil _ hne
    exact h host (mem_hostsFor.2 ⟨l, hl, hsecure, r, hr, hhost⟩)
  · intro h host hhost
    obtain ⟨l, hl, hsecure, r, hr, _⟩ := mem_hostsFor.1 hhost
    exact absurd hr (h l hl hsecure ▸ not_mem_nil)

/-! ## The configurations -/

variable {slices : Slices} {t : DefaultTranslator}

/-- If what listeners with TLS serve is served without TLS too, no host is left out. -/
theorem configuredHosts_iff_of_insecure
    (hinsecure : ∀ l ∈ m.http, ∃ l' ∈ m.http, l'.tls = none ∧ l'.routes = l.routes) :
    configuredHosts t m secure h ↔ h ∈ hostsFor m secure ∨ Redirected t m secure h := by
  refine and_iff_right_of_imp ?_
  rintro (hmem | ⟨rfl, _, hmem⟩)
  · exact ne_nil_of_mem hmem
  · intro hnil
    obtain ⟨l, hl, _, x, hx, _⟩ := mem_hostsFor.1 hmem
    obtain ⟨l', hl', htls, hroutes⟩ := hinsecure l hl
    have hempty := hostsFor_eq_nil_iff.1 hnil l' hl' (by rw [HTTPListener.secure, htls]; rfl)
    exact ne_nil_of_mem hx (hroutes ▸ hempty)

theorem hostVirtualHost_eq {secure' : Bool} (hh : h ∈ hostsFor m secure')
    (routes : List Model.HTTPRoute) (redirect : Bool) :
    hostVirtualHost t m routes h redirect =
      newVirtualHost routes ⟨[h], redirect, t.hostNameSuffixMatch, firstPort m⟩ := by
  obtain ⟨l, hl, _⟩ := mem_hostsFor.1 hh
  obtain ⟨first, rest, hhttp⟩ := exists_cons_of_ne_nil (ne_nil_of_mem hl)
  rw [hostVirtualHost, firstPort, hhttp]
  rfl

theorem hostIteration_eq (hh : h ∈ hostsFor m secure) :
    hostIteration t m (fillHostMaps m) (classPort secure) h =
      virtualHostFor t m secure h >>= fun vh => pure [vh] := by
  rw [hostIteration, routesAt_fillHostMaps, if_neg (routesFor_ne_nil hh)]
  exact congrArg (· >>= fun vh => pure [vh]) (hostVirtualHost_eq hh _ false)

/-- The redirects and the other virtual hosts are made in one loop over distinct hosts. -/
theorem portConfiguration_eq_mapM (slices : Slices) (t : DefaultTranslator)
    (hne : hostsFor m secure ≠ []) :
    ∃ hosts : List String, hosts.Nodup ∧ (∀ h, h ∈ hosts ↔ configuredHosts t m secure h) ∧
      portConfiguration slices t m (classPort secure) =
        hosts.mapM (configuredHost t m secure) >>= fun vhs =>
          pure [⟨"listener-" ++ classPort secure,
            vhs.insertionSort fun a b => a.name ≤ b.name⟩] := by
  have hport : classPort secure = insecureHost ↔ secure = false := by
    cases secure <;> decide
  have hsecure : ((fillHostMaps m).portHostName.get? secureHost).getD [] = hostsFor m true := by
    have hget := get?_portHostName m true
    rw [classPort, if_pos rfl] at hget
    rw [hget]
    split_ifs with hnil
    · rw [hnil]
      rfl
    · rfl
  obtain ⟨redirected, hdef⟩ : ∃ redirected, redirected =
      if classPort secure = insecureHost ∧ t.enforceHTTPs = true then
        slices.unique (((fillHostMaps m).portHostName.get? secureHost).getD [])
      else [] := ⟨_, rfl⟩
  have hredirected (h : String) : h ∈ redirected ↔ Redirected t m secure h := by
    rw [hdef, Redirected, ← hport, hsecure]
    by_cases hcond : classPort secure = insecureHost ∧ t.enforceHTTPs = true
    · rw [if_pos hcond, slices.mem_unique, ← and_assoc, and_iff_right hcond]
    · rw [if_neg hcond, ← and_assoc, eq_false hcond, false_and]
      exact iff_of_false not_mem_nil id
  obtain ⟨others, hothers⟩ : ∃ others, others = (slices.unique (hostsFor m secure)).filter
      fun h => !(classPort secure == insecureHost && redirected.contains h) := ⟨_, rfl⟩
  have hmem (h : String) : h ∈ others ↔ h ∈ hostsFor m secure ∧ ¬ Redirected t m secure h := by
    rw [hothers, mem_filter, slices.mem_unique, ← hredirected]
    refine and_congr_right fun _ => ?_
    by_cases hin : h ∈ redirected
    · have hclass : classPort secure = insecureHost := hport.2 ((hredirected h).1 hin).1
      simp [hin, hclass]
    · simp [hin]
  refine ⟨redirected ++ others, ?_, fun h => ?_, ?_⟩
  · refine nodup_append.2 ⟨?_, hothers ▸ (slices.nodup_unique _).filter _, ?_⟩
    · rw [hdef]
      split_ifs
      · exact slices.nodup_unique _
      · exact nodup_nil
    · rintro h hin _ hout rfl
      exact ((hmem h).1 hout).2 ((hredirected h).1 hin)
  · rw [mem_append, hredirected, hmem, configuredHosts, and_iff_right hne]
    tauto
  · have hloop : redirected.mapM (fun h => hostVirtualHost t m
        (((fillHostMaps m).routesAt h secureHost).getD []) h true) =
          redirected.mapM (configuredHost t m secure) := by
      refine mapM_congr fun h hh => ?_
      have hh := (hredirected h).1 hh
      have hroutes : (fillHostMaps m).routesAt h secureHost = _ := routesAt_fillHostMaps m true h
      rw [configuredHost, if_pos hh, hroutes, if_neg (routesFor_ne_nil hh.2.2),
        hostVirtualHost_eq hh.2.2]
      rfl
    have hloop' : collect (hostIteration t m (fillHostMaps m) (classPort secure)) others =
        others.mapM (configuredHost t m secure) := by
      rw [← collect_singleton]
      refine collect_congr fun h hh => ?_
      have hh := (hmem h).1 hh
      rw [configuredHost, if_neg hh.2, hostIteration_eq hh.1]
    rw [portConfiguration, get?_portHostName, if_neg hne]
    simp only [← hdef, ← hothers, hloop, hloop', mapM_append, bind_assoc, pure_bind]

theorem name_configuredHost {vh : VirtualHost} (hvh : configuredHost t m secure h = .ok vh) :
    vh.name = h := by
  rw [configuredHost] at hvh
  split_ifs at hvh
  · exact (name_newVirtualHost hvh).1
  · exact (name_newVirtualHost hvh).1

theorem names_of_virtualHosts {f : String → Result VirtualHost} {hosts : List String}
    {vhs : List VirtualHost} (hname : ∀ h vh, f h = .ok vh → vh.name = h)
    (hvhs : hosts.mapM f = .ok vhs) : vhs.map (·.name) = hosts := by
  induction mapM_eq_ok.1 hvhs with
  | nil => rfl
  | cons hvh hrest ih => rw [map_cons, ih (mapM_eq_ok.2 hrest), hname _ _ hvh]

theorem emitted_of_hosts (h : hostsFor m secure ≠ []) : Emitted m secure := by
  obtain ⟨host, hhost⟩ := exists_mem_of_ne_nil _ h
  obtain ⟨l, hl, hsecure, r, hr, _⟩ := mem_hostsFor.1 hhost
  cases secure with
  | false => exact ne_nil_of_mem hl
  | true => exact ⟨l, hl, hsecure, ne_nil_of_mem hr⟩

theorem portConfiguration_configured
    (h : portConfiguration slices t m (classPort secure) = .ok rcs) :
    (Emitted m secure ∧ ∃ rc, rcs = [rc] ∧ ConfiguredAs t m secure rc) ∨
      (¬ Emitted m secure ∧ rcs = []) := by
  by_cases hnil : hostsFor m secure = []
  · have hhosts (host : String) : ¬ configuredHosts t m secure host := fun hc => hc.1 hnil
    rw [portConfiguration, get?_portHostName, if_pos hnil] at h
    dsimp only at h
    cases secure with
    | false =>
      split_ifs at h with hhttp
      · -- listeners, but no route: the configuration is there and empty
        refine .inl ⟨hhttp.2, _, (pure_eq_ok.1 h).symm, rfl, .nil, fun host => ?_, fun vh hvh => ?_⟩
        · exact iff_of_false not_mem_nil (hhosts host)
        · cases hvh
      · exact .inr ⟨fun hemitted => hhttp ⟨rfl, hemitted⟩, (pure_eq_ok.1 h).symm⟩
    | true =>
      refine .inr ⟨?_, (pure_eq_ok.1 h).symm⟩
      rintro ⟨l, hl, hsecure, hroutes⟩
      exact hroutes (hostsFor_eq_nil_iff.1 hnil l hl hsecure)
  · obtain ⟨hosts, hnodup, hmem, heq⟩ := portConfiguration_eq_mapM slices t hnil
    rw [heq] at h
    obtain ⟨vhs, hvhs, rfl⟩ := bind_pure_eq_ok.1 h
    have hnames := names_of_virtualHosts (fun _ _ => name_configuredHost) hvhs
    have hperm := perm_insertionSort (fun a b : VirtualHost => a.name ≤ b.name) vhs
    refine .inl ⟨emitted_of_hosts hnil, _, rfl, rfl, ?_, fun host => ?_, fun vh hvh => ?_⟩
    · exact pairwise_map.2 (insertionSort_keys_lt (fun a b => Iff.rfl) (hnames ▸ hnodup))
    · rw [(hperm.map _).mem_iff, hnames, hmem]
    · obtain ⟨host, _, hok⟩ := (mem_mapM hvhs).1 (hperm.mem_iff.1 hvh)
      rwa [name_configuredHost hok]

/-- A class can be configured when the virtual hosts of its hosts can be made. -/
theorem exists_portConfiguration_configured_iff (slices : Slices) :
    (∃ rcs, portConfiguration slices t m (classPort secure) = .ok rcs) ↔
      ∀ h, configuredHosts t m secure h → ∃ vh, configuredHost t m secure h = .ok vh := by
  by_cases hnil : hostsFor m secure = []
  · rw [portConfiguration, get?_portHostName, if_pos hnil]
    exact iff_of_true ⟨_, rfl⟩ fun h hh => absurd hnil hh.1
  · obtain ⟨hosts, _, hmem, heq⟩ := portConfiguration_eq_mapM slices t hnil
    have hloop : (∃ vhs, hosts.mapM (configuredHost t m secure) = .ok vhs) ↔
        ∀ h, configuredHosts t m secure h → ∃ vh, configuredHost t m secure h = .ok vh := by
      rw [exists_mapM_eq_ok]
      exact forall_congr' fun h => imp_congr (hmem h) Iff.rfl
    rw [heq, ← hloop]
    simp only [bind_eq_ok, pure_eq_ok]
    constructor
    · rintro ⟨_, vhs, hvhs, _⟩
      exact ⟨vhs, hvhs⟩
    · rintro ⟨vhs, hvhs⟩
      exact ⟨_, vhs, hvhs, rfl⟩

theorem getEnvoyHTTPRouteConfiguration_eq_ok : getEnvoyHTTPRouteConfiguration slices t m = .ok rcs ↔
      ∃ insecure secure, portConfiguration slices t m (classPort false) = .ok insecure ∧
        portConfiguration slices t m (classPort true) = .ok secure ∧ rcs = insecure ++ secure := by
  rw [getEnvoyHTTPRouteConfiguration, collect_cons, collect_cons]
  simp only [bind_eq_ok, pure_eq_ok]
  constructor
  · rintro ⟨insecure, hinsecure, _, ⟨secure, hsecure, _, hnil, rfl⟩, rfl⟩
    obtain rfl : [] = _ := pure_eq_ok.1 hnil
    exact ⟨insecure, secure, hinsecure, hsecure, by rw [append_nil]⟩
  · rintro ⟨insecure, secure, hinsecure, hsecure, rfl⟩
    exact ⟨insecure, hinsecure, secure, ⟨secure, hsecure, [], rfl, append_nil _⟩, rfl⟩

theorem exists_getEnvoyHTTPRouteConfiguration_iff (slices : Slices) :
    (∃ rcs, getEnvoyHTTPRouteConfiguration slices t m = .ok rcs) ↔
      ∀ secure h, configuredHosts t m secure h → ∃ vh, configuredHost t m secure h = .ok vh := by
  rw [Bool.forall_bool, ← exists_portConfiguration_configured_iff slices,
    ← exists_portConfiguration_configured_iff slices]
  simp only [getEnvoyHTTPRouteConfiguration_eq_ok]
  constructor
  · rintro ⟨_, insecure, secure, hinsecure, hsecure, _⟩
    exact ⟨⟨insecure, hinsecure⟩, ⟨secure, hsecure⟩⟩
  · rintro ⟨⟨insecure, hinsecure⟩, ⟨secure, hsecure⟩⟩
    exact ⟨_, insecure, secure, hinsecure, hsecure, rfl⟩

theorem exists_configuredAs (h : getEnvoyHTTPRouteConfiguration slices t m = .ok rcs)
    (hrc : rc ∈ rcs) : ∃ secure, ConfiguredAs t m secure rc := by
  have hclass {secure : Bool} {rcs : List RouteConfiguration}
      (h : portConfiguration slices t m (classPort secure) = .ok rcs) (hrc : rc ∈ rcs) :
      ConfiguredAs t m secure rc := by
    rcases portConfiguration_configured h with ⟨_, rc', rfl, hrc'⟩ | ⟨_, rfl⟩
    · exact mem_singleton.1 hrc ▸ hrc'
    · cases hrc
  obtain ⟨insecure, secure, hinsecure, hsecure, rfl⟩ := getEnvoyHTTPRouteConfiguration_eq_ok.1 h
  rcases mem_append.1 hrc with hrc | hrc
  · exact ⟨false, hclass hinsecure hrc⟩
  · exact ⟨true, hclass hsecure hrc⟩

theorem names_getEnvoyHTTPRouteConfiguration
    (h : getEnvoyHTTPRouteConfiguration slices t m = .ok rcs) :
    (rcs.map (·.name)).Nodup ∧
      ∀ secure, "listener-" ++ classPort secure ∈ rcs.map (·.name) ↔ Emitted m secure := by
  obtain ⟨insecure, secure, hinsecure, hsecure, rfl⟩ := getEnvoyHTTPRouteConfiguration_eq_ok.1 h
  rw [map_append, Bool.forall_bool]
  rcases portConfiguration_configured hinsecure with ⟨he, rc, rfl, hrc⟩ | ⟨he, rfl⟩ <;>
    rcases portConfiguration_configured hsecure with ⟨he', rc', rfl, hrc'⟩ | ⟨he', rfl⟩
  · rw [map_singleton, map_singleton, hrc.name, hrc'.name]
    exact ⟨by decide, iff_of_true (by decide) he, iff_of_true (by decide) he'⟩
  · rw [map_singleton, hrc.name]
    exact ⟨by decide, iff_of_true (by decide) he, iff_of_false (by decide) he'⟩
  · rw [map_singleton, hrc'.name]
    exact ⟨by decide, iff_of_false (by decide) he, iff_of_true (by decide) he'⟩
  · exact ⟨nodup_nil, iff_of_false not_mem_nil he, iff_of_false not_mem_nil he'⟩

/-- With and without enforcement of HTTPS, a virtual host is made from routes of the model. -/
theorem exists_newVirtualHost (h : getEnvoyHTTPRouteConfiguration slices t m = .ok rcs)
    (hrc : rc ∈ rcs) {vh : VirtualHost} (hvh : vh ∈ rc.virtualHosts) :
    ∃ routes param, newVirtualHost routes param = .ok vh ∧
      ∀ r ∈ routes, ∃ l ∈ m.http, r ∈ l.routes := by
  obtain ⟨secure, hconf⟩ := exists_configuredAs h hrc
  have hroutes {secure : Bool} {r : Model.HTTPRoute} (hr : r ∈ routesFor m secure vh.name) :
      ∃ l ∈ m.http, r ∈ l.routes := by
    obtain ⟨l, hl, _, hr, _⟩ := mem_routesFor.1 hr
    exact ⟨l, hl, hr⟩
  have hmade := hconf.routes vh hvh
  rw [configuredHost] at hmade
  split_ifs at hmade
  · exact ⟨_, _, hmade, fun _ => hroutes⟩
  · exact ⟨_, _, hmade, fun _ => hroutes⟩

/-! ## Without enforcement -/

theorem configuredHost_eq (ht : t.enforceHTTPs = false) :
    configuredHost t m secure = virtualHostFor t m secure := by
  funext h
  rw [configuredHost, if_neg]
  rintro ⟨_, henforced, _⟩
  exact Bool.false_ne_true (ht.symm.trans henforced)

theorem configuredHosts_iff (ht : t.enforceHTTPs = false) :
    configuredHosts t m secure h ↔ h ∈ hostsFor m secure := by
  simp only [configuredHosts, Redirected, ht, Bool.false_eq_true, false_and, and_false, or_false]
  exact and_iff_right_of_imp ne_nil_of_mem

theorem ConfiguredAs.configurationOf (h : ConfiguredAs t m secure rc) (ht : t.enforceHTTPs = false) :
    ConfigurationOf t m secure rc :=
  ⟨h.name, h.sorted, fun host => (h.hosts host).trans (configuredHosts_iff ht),
    configuredHost_eq (m := m) ht ▸ h.routes⟩

theorem portConfiguration_spec (ht : t.enforceHTTPs = false)
    (h : portConfiguration slices t m (classPort secure) = .ok rcs) :
    Configurations t m secure rcs := by
  rcases portConfiguration_configured h with ⟨he, rc, hrc, hconf⟩ | ⟨he, hnil⟩
  · exact ⟨fun _ => ⟨rc, hrc, hconf.configurationOf ht⟩, fun hnot => absurd he hnot⟩
  · exact ⟨fun hyes => absurd hyes he, fun _ => hnil⟩

theorem ConfigurationOf.disjoint (h : ConfigurationOf t m secure rc)
    (hcolon : ∀ h ∈ hostsFor m secure, ':' ∉ h.toList) :
    rc.virtualHosts.Pairwise fun a b => a.domains.Disjoint b.domains := by
  refine (pairwise_map.1 h.sorted).imp_of_mem fun {a b} ha hb hlt => ?_
  have hcolon' {vh : VirtualHost} (hvh : vh ∈ rc.virtualHosts) : ':' ∉ vh.name.toList :=
    hcolon _ ((h.hosts _).1 (mem_map_of_mem hvh))
  rw [(name_newVirtualHost (h.routes a ha)).2, (name_newVirtualHost (h.routes b hb)).2]
  exact disjoint_hostDomains (hcolon' ha) (hcolon' hb) (ne_of_lt hlt)

/-- Without enforcement of HTTPS, the route configurations refine the model. -/
theorem routeConfigurations_refine (slices : Slices) (t : DefaultTranslator) (m : Model) :
    RefinesModel slices { t with enforceHTTPs := false } m := by
  constructor
  case returns =>
    rw [exists_getEnvoyHTTPRouteConfiguration_iff]
    simp only [configuredHosts_iff, configuredHost_eq]
  case configurations =>
    intro rcs h
    obtain ⟨insecure, secure, hinsecure, hsecure, rfl⟩ :=
      getEnvoyHTTPRouteConfiguration_eq_ok.1 h
    exact ⟨insecure, secure, rfl, portConfiguration_spec rfl hinsecure,
      portConfiguration_spec rfl hsecure⟩
  case disjoint =>
    intro secure rc hrc hcolon
    exact hrc.disjoint hcolon
  case depends =>
    intro m' secure rc rc' hrc hrc' vh hvh vh' hvh' hname hroutes hport
    -- the virtual host is a function of the routes and of the port
    have hok := hrc.routes vh hvh
    have hok' := hrc'.routes vh' hvh'
    rw [virtualHostFor, hroutes, hport] at hok
    rw [virtualHostFor, ← hname, hok] at hok'
    exact Except.ok.inj hok'

end

end Translation
