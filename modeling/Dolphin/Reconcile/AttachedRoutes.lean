import Dolphin.Reconcile.GatewayStatus
import Dolphin.Reconcile.Parents
import Mathlib.Data.Set.Card

/-!
# The number of attached routes

The number of attached routes in the status of a listener should be that of the routes which
contribute to it (`CountsProgrammed`). But the routes are counted by tests of their own
(`Counted`), which ask for the Gateway also if the listener is one of a ListenerSet, do not look at
the protocol of the listener, and do not count TLSRoutes and GRPCRoutes of ListenerSets.

`Overcounted` and `Missed` compare these tests with those of the filters and of ingestion, for each
kind of routes and owner of the listener. A number is right exactly if as many routes are
overcounted as are missed (`countsProgrammed_iff`).
-/

namespace Reconcile

open Gatewayv1 Go Ingestion List Option

variable {conflicted : List (Model.FullyQualifiedResource × String)}

/-- All routes of a listing. -/
def Listing.routes (listing : Listing) : List Route :=
  listing.httpRoutes.map .http ++ listing.tlsRoutes.map .tls ++ listing.grpcRoutes.map .grpc ++
    listing.tcpRoutes.map .tcp ++ listing.udpRoutes.map .udp

theorem Listing.mem_routes {listing : Listing} {route : Route} :
    route ∈ listing.routes ↔ listing.Has route := by
  cases route <;> simp [Listing.routes, Listing.Has]

/-- The number of routes that contribute to a listener. -/
noncomputable def programmedRoutes (input : Input) (m : Model) (l : Listener)
    (s : Model.FullyQualifiedResource) : Nat :=
  Set.ncard {route | Contributes input m l s route}

section

variable (c : Cluster) (gw : Gateway)

/-- The test by which a route is counted as attached to a listener of the owner. -/
def Counted (l : Listener) : Owner → Route → Prop
  | _, .http r => isAttachable gw r.toCommonRoute = true ∧
      isAllowed c gw r.ns "HTTPRoute" gw.listeners = .ok true ∧
      Model.computeHosts r.hostnames l.hostname ≠ [] ∧
      parentRefMatched gw l r.ns r.parentRefs = true
  | .gateway _, .tls r => isAttachable gw r.toCommonRoute = true ∧
      isAllowed c gw r.ns "TLSRoute" gw.listeners = .ok true ∧
      Model.computeHosts r.hostnames l.hostname ≠ [] ∧
      parentRefMatched gw l r.ns r.parentRefs = true
  | .gateway _, .grpc r => isAttachable gw r.toCommonRoute = true ∧
      listenerisAllowed c gw l r.ns "unknown" (namespaceLabels c gw) = true ∧
      Model.computeHosts r.hostnames l.hostname ≠ [] ∧
      parentRefMatched gw l r.ns r.parentRefs = true
  | .listenerSet _, .tls _ | .listenerSet _, .grpc _ => False
  | _, .tcp r => listenerisAllowed c gw l r.ns "TCPRoute" (namespaceLabels c gw) = true ∧
      parentRefMatched gw l r.ns r.parentRefs = true
  | _, .udp r => listenerisAllowed c gw l r.ns "UDPRoute" (namespaceLabels c gw) = true ∧
      parentRefMatched gw l r.ns r.parentRefs = true

variable (attached : List ListenerSet) (ctx : ListenerWithContext)

/-- The route is counted for the listener, but does not get through to it. The protocol of the
    listener is another one; or it is an HTTPRoute none of whose parentRefs with the section is to the
    ListenerSet or, for a listener of the Gateway, to a Gateway, or which no listener that it
    designates lets in. -/
def Overcounted (o : Owner) (route : Route) : Prop :=
  Counted c gw ctx.listener o route ∧
    match route with
    | .http r => servesHTTP ctx.listener.protocol = false ∨
        httpAttached ctx.listener ctx.source r.ns r.parentRefs = false ∨ ¬ LetIn c gw attached r
    | .tls _ | .grpc _ => servesHTTP ctx.listener.protocol = false
    | .tcp _ => ctx.listener.protocol ≠ .tcp
    | .udp _ => ctx.listener.protocol ≠ .udp

/-- The route gets through to the listener, but is not counted for it. None of its parentRefs has the
    name and the namespace of the Gateway, and the section and the port of the listener; or it is an
    HTTPRoute that the Gateway has not accepted, or that `isAllowed` refuses; or a GRPCRoute, TCPRoute
    or UDPRoute that this listener does not allow; or a TLSRoute or GRPCRoute on a listener of a
    ListenerSet. -/
def Missed (o : Owner) (route : Route) : Prop :=
  Reaches ctx.listener ctx.source route ∧
    match o, route with
    | _, .http r => LetIn c gw attached r ∧ (isAttachable gw r.toCommonRoute = false ∨
        isAllowed c gw r.ns "HTTPRoute" gw.listeners ≠ .ok true ∨
        parentRefMatched gw ctx.listener r.ns r.parentRefs = false)
    | .gateway _, .tls r => isAttachable gw r.toCommonRoute = true ∧
        isAllowed c gw r.ns "TLSRoute" gw.listeners = .ok true ∧
        parentRefMatched gw ctx.listener r.ns r.parentRefs = false
    | .gateway _, .grpc r => isAttachable gw r.toCommonRoute = true ∧
        isGRPCAllowed c gw r.toCommonRoute (namespaceLabels c gw) = true ∧
        (listenerisAllowed c gw ctx.listener r.ns "unknown" (namespaceLabels c gw) = false ∨
          parentRefMatched gw ctx.listener r.ns r.parentRefs = false)
    | .listenerSet _, .tls r => isAttachable gw r.toCommonRoute = true ∧
        isAllowed c gw r.ns "TLSRoute" gw.listeners = .ok true ∧ computeHosts gw r.hostnames ≠ []
    | .listenerSet _, .grpc r => isAttachable gw r.toCommonRoute = true ∧
        isGRPCAllowed c gw r.toCommonRoute (namespaceLabels c gw) = true ∧
        computeHosts gw r.hostnames ≠ []
    | _, .tcp r =>
        listenerisAllowed c gw ctx.listener r.ns "TCPRoute" (namespaceLabels c gw) = false ∨
          parentRefMatched gw ctx.listener r.ns r.parentRefs = false
    | _, .udp r =>
        listenerisAllowed c gw ctx.listener r.ns "UDPRoute" (namespaceLabels c gw) = false ∨
          parentRefMatched gw ctx.listener r.ns r.parentRefs = false

end

/-- The numbers of attached routes that are reported, for the listeners of the Gateway and of the
    attached ListenerSets, are those of the routes that contribute. -/
structure CountsProgrammed (c : Cluster) (gw : Gateway) (attached : List ListenerSet)
    (answers : Answers) (conflicted : List (Model.FullyQualifiedResource × String))
    (grants : List ReferenceGrant) (input : Input) (m : Model) (statuses : List ListenerStatus) :
    Prop where
  gateway : ∀ l ∈ gw.listeners,
    (statuses.find? (·.name == l.name)).map (·.attachedRoutes) =
      some (programmedRoutes input m l (gatewayFQR gw))
  listenerSet : ∀ ls ∈ attached, ∀ ls' valid,
    withListenerSetStatus c gw answers conflicted grants ls = .ok (ls', valid) →
      ∀ (i : Nat) l, ls.listeners[i]? = some l → ls'.status.listeners[i]?.map (·.attachedRoutes) =
          some (programmedRoutes input m l (listenerSetFQR ls))

/-! ## What is counted -/

section

variable {c : Cluster} {gw : Gateway} {listing filtered : Listing} {l : Listener}

theorem mem_filterHTTPRoutesByListener {routes filtered : List HTTPRoute} (o : Owner)
    (h : filterHTTPRoutesByListener c gw l routes = .ok filtered) :
    filtered.Sublist routes ∧ ∀ r, r ∈ filtered ↔ r ∈ routes ∧ Counted c gw l o (.http r) := by
  rw [filterHTTPRoutesByListener_eq] at h
  obtain ⟨hsublist, hmem⟩ := collect_keepIf h
  exact ⟨hsublist, fun r => (hmem r).trans (by rw [Counted, Bool.and_eq_true, decide_eq_true_eq])⟩

theorem mem_filterTLSRoutesByListener {routes filtered : List TLSRoute}
    (h : filterTLSRoutesByListener c gw l routes = .ok filtered) :
    filtered.Sublist routes ∧ ∀ r, r ∈ filtered ↔
      r ∈ routes ∧ Counted c gw l (.gateway gw) (.tls r) := by
  rw [filterTLSRoutesByListener_eq] at h
  obtain ⟨hsublist, hmem⟩ := collect_keepIf h
  exact ⟨hsublist, fun r => (hmem r).trans (by rw [Counted, Bool.and_eq_true, decide_eq_true_eq])⟩

theorem mem_filterGRPCRoutesByListener {routes : List GRPCRoute} {r : GRPCRoute} :
    r ∈ filterGRPCRoutesByListener c gw l (namespaceLabels c gw) routes ↔
      r ∈ routes ∧ Counted c gw l (.gateway gw) (.grpc r) := by
  simp only [filterGRPCRoutesByListener, mem_filter, Bool.and_eq_true, decide_eq_true_eq,
    and_assoc, Counted]

theorem mem_filterTCPRoutesByListener {attached : List ListenerSet} {routes : List TCPRoute}
    {r : TCPRoute} (o : Owner) :
    r ∈ filterTCPRoutesByListener c gw l attached (namespaceLabels c gw) routes ↔
      r ∈ routes ∧ Counted c gw l o (.tcp r) := by
  simp only [filterTCPRoutesByListener, l4RouteOnListener, isParentAttachable, mem_filter,
    Bool.true_and, Bool.and_eq_true, Counted]

theorem mem_filterUDPRoutesByListener {attached : List ListenerSet} {routes : List UDPRoute}
    {r : UDPRoute} (o : Owner) :
    r ∈ filterUDPRoutesByListener c gw l attached (namespaceLabels c gw) routes ↔
      r ∈ routes ∧ Counted c gw l o (.udp r) := by
  simp only [filterUDPRoutesByListener, l4RouteOnListener, isParentAttachable, mem_filter,
    Bool.true_and, Bool.and_eq_true, Counted]

/-- A listing of some of the routes has as many as there are different ones. -/
theorem length_routes_eq_ncard (hroutes : listing.routes.Nodup)
    (hsublist : filtered.routes.Sublist listing.routes) {P : Route → Prop}
    (hmem : ∀ route, filtered.Has route ↔ P route) :
    filtered.routes.length = Set.ncard {route | P route} := by
  classical
  have hset : {route | P route} = (filtered.routes.toFinset : Set Route) := by
    ext route
    rw [Set.mem_ofPred_eq, ← hmem, ← Listing.mem_routes]
    simp
  rw [hset, Set.ncard_coe_finset, toFinset_card_of_nodup (hroutes.sublist hsublist)]

theorem Listing.routes_sublist (hhttp : filtered.httpRoutes.Sublist listing.httpRoutes)
    (htls : filtered.tlsRoutes.Sublist listing.tlsRoutes)
    (hgrpc : filtered.grpcRoutes.Sublist listing.grpcRoutes)
    (htcp : filtered.tcpRoutes.Sublist listing.tcpRoutes)
    (hudp : filtered.udpRoutes.Sublist listing.udpRoutes) :
    filtered.routes.Sublist listing.routes :=
  ((((hhttp.map _).append (htls.map _)).append (hgrpc.map _)).append (htcp.map _)).append
    (hudp.map _)

theorem attachedRoutes_eq (hroutes : listing.routes.Nodup) {n : Nat}
    (h : attachedRoutes c gw listing l = .ok n) :
    n = Set.ncard {route | listing.Has route ∧ Counted c gw l (.gateway gw) route} := by
  obtain ⟨http, hhttp, h⟩ := bind_eq_ok.1 h
  obtain ⟨tls, htls, rfl⟩ := bind_pure_eq_ok.1 h
  obtain ⟨hhttpSub, hhttpMem⟩ := mem_filterHTTPRoutesByListener (.gateway gw) hhttp
  obtain ⟨htlsSub, htlsMem⟩ := mem_filterTLSRoutesByListener htls
  let filtered : Listing :=
    { httpRoutes := http
      tlsRoutes := tls
      grpcRoutes := filterGRPCRoutesByListener c gw l (namespaceLabels c gw) listing.grpcRoutes
      tcpRoutes := filterTCPRoutesByListener c gw l [] (namespaceLabels c gw) listing.tcpRoutes
      udpRoutes := filterUDPRoutesByListener c gw l [] (namespaceLabels c gw) listing.udpRoutes }
  have hsublist : filtered.routes.Sublist listing.routes :=
    Listing.routes_sublist hhttpSub htlsSub filter_sublist filter_sublist
      filter_sublist
  rw [← length_routes_eq_ncard hroutes hsublist]
  · simp [filtered, Listing.routes, Nat.add_assoc]
  · rintro (r | r | r | r | r)
    · exact hhttpMem r
    · exact mem_filterGRPCRoutesByListener
    · exact htlsMem r
    · exact mem_filterTCPRoutesByListener _
    · exact mem_filterUDPRoutesByListener _

/-- For a listener of a ListenerSet, TLSRoutes and GRPCRoutes are not counted. -/
theorem attachedRoutes_listenerEntryStatus {answers : Answers} {grants : List ReferenceGrant}
    {ls : ListenerSet} (hroutes : answers.listing.routes.Nodup) {status : ListenerEntryStatus}
    {valid : Bool}
    (h : listenerEntryStatus c gw answers conflicted grants ls l = .ok (status, valid)) :
    status.attachedRoutes =
      Set.ncard {route | answers.listing.Has route ∧ Counted c gw l (.listenerSet ls) route} := by
  obtain ⟨http, hhttp, h⟩ := bind_eq_ok.1 h
  obtain ⟨hhttpSub, hhttpMem⟩ := mem_filterHTTPRoutesByListener (.listenerSet ls) hhttp
  let filtered : Listing :=
    { httpRoutes := http
      tcpRoutes := filterTCPRoutesByListener c gw l [ls] (namespaceLabels c gw)
        answers.listing.tcpRoutes
      udpRoutes := filterUDPRoutesByListener c gw l [ls] (namespaceLabels c gw)
        answers.listing.udpRoutes }
  have hsublist : filtered.routes.Sublist answers.listing.routes :=
    Listing.routes_sublist hhttpSub (nil_sublist _) (nil_sublist _) filter_sublist
      filter_sublist
  have hstatus : status.attachedRoutes = filtered.routes.length := by
    obtain ⟨rfl, _⟩ := Prod.mk.inj (pure_eq_ok.1 h)
    simp [filtered, Listing.routes, Nat.add_assoc]
  rw [hstatus]
  refine length_routes_eq_ncard hroutes hsublist ?_
  rintro (r | r | r | r | r)
  · exact hhttpMem r
  · exact iff_of_false not_mem_nil fun h => h.2
  · exact iff_of_false not_mem_nil fun h => h.2
  · exact mem_filterTCPRoutesByListener _
  · exact mem_filterUDPRoutesByListener _

end

/-! ## What is reported -/

section

variable {c : Cluster} {gw : Gateway} {attached : List ListenerSet} {listing : Listing}
  {input : Input} {m : Model}

theorem getElem?_withListenerSetStatus {answers : Answers} {grants : List ReferenceGrant}
    {ls ls' : ListenerSet} {valid : Bool}
    (h : withListenerSetStatus c gw answers conflicted grants ls = .ok (ls', valid)) {i : Nat}
    {l : Listener} (hl : ls.listeners[i]? = some l) :
    ∃ status valid, listenerEntryStatus c gw answers conflicted grants ls l = .ok (status, valid) ∧
      ls'.status.listeners[i]? = some status := by
  obtain ⟨entries, hentries, h⟩ := bind_eq_ok.1 h
  obtain rfl : _ = ls' := congrArg Prod.fst (pure_eq_ok.1 h)
  obtain ⟨⟨status, valid⟩, hentry, hstatus⟩ := getElem?_mapM hentries hl
  refine ⟨status, valid, hstatus, ?_⟩
  show (entries.map (·.1))[i]? = some status
  rw [getElem?_map, hentry, map_some]

/-! ## The two families of tests -/

section

variable {ctx : ListenerWithContext} {o : Owner} {l : Listener} {route : Route}

theorem sectionAttached_of_matched {ns : String} {refs : List ParentReference}
    (h : parentRefMatched gw l ns refs = true) : sectionAttached l refs = true := by
  obtain ⟨ref, href, hmatched⟩ := any_eq_true.1 h
  simp only [Bool.and_eq_true] at hmatched
  exact any_eq_true.2 ⟨ref, href, hmatched.1.2⟩

theorem computeHosts_ne_nil (hl : l ∈ gw.listeners) {hostnames : List String}
    (h : Model.computeHosts hostnames l.hostname ≠ []) : computeHosts gw hostnames ≠ [] :=
  fun hnil => h (flatMap_eq_nil_iff.1 hnil l hl)

variable (ho : o.declares c gw attached ctx)

include ho

theorem overcounted_iff : Overcounted c gw attached ctx o route ↔
    Counted c gw ctx.listener o route ∧
      ¬ (FilterPasses c gw attached route ∧ Reaches ctx.listener ctx.source route) := by
  refine and_congr_right fun hcounted => ?_
  cases route with
  | http r =>
    obtain ⟨_, _, hhosts, _⟩ := hcounted
    simp only [FilterPasses, Reaches, Served, ← Bool.not_eq_true]
    tauto
  | tls r =>
    cases o with
    | listenerSet ls => exact hcounted.elim
    | gateway gw' =>
      obtain ⟨rfl, hl, _⟩ := ho
      obtain ⟨hattachable, hallowed, hhosts, hmatched⟩ := hcounted
      have hpass : FilterPasses c gw' attached (.tls r) :=
        ⟨hattachable, hallowed, computeHosts_ne_nil hl hhosts⟩
      simp [hpass, Reaches, Served, hhosts, sectionAttached_of_matched hmatched]
  | grpc r =>
    cases o with
    | listenerSet ls => exact hcounted.elim
    | gateway gw' =>
      obtain ⟨rfl, hl, _⟩ := ho
      obtain ⟨hattachable, hallowed, hhosts, hmatched⟩ := hcounted
      have hpass : FilterPasses c gw' attached (.grpc r) :=
        ⟨hattachable, any_eq_true.2 ⟨_, hl, hallowed⟩, computeHosts_ne_nil hl hhosts⟩
      simp [hpass, Reaches, Served, hhosts, sectionAttached_of_matched hmatched]
  | tcp r | udp r =>
    have hmatched : parentRefMatched gw ctx.listener r.ns r.parentRefs = true := by
      cases o <;> exact hcounted.2
    simp [FilterPasses, isParentAttachable, Reaches, sectionAttached_of_matched hmatched]

theorem missed_iff : Missed c gw attached ctx o route ↔
    (FilterPasses c gw attached route ∧ Reaches ctx.listener ctx.source route) ∧
      ¬ Counted c gw ctx.listener o route := by
  rw [and_comm (a := FilterPasses c gw attached route), and_assoc]
  refine and_congr_right fun hreaches => ?_
  cases route with
  | http r =>
    obtain ⟨_, _, hhosts⟩ := hreaches
    simp only [FilterPasses, Counted, ← Bool.not_eq_true]
    tauto
  | tls r | grpc r =>
    obtain ⟨_, _, hhosts⟩ := hreaches
    cases o with
    | listenerSet ls => simp [FilterPasses, Counted]
    | gateway gw' =>
      obtain ⟨rfl, hl, _⟩ := ho
      have hgwHosts := computeHosts_ne_nil hl hhosts
      simp only [FilterPasses, Counted, ← Bool.not_eq_true]
      tauto
  | tcp r | udp r =>
    simp only [FilterPasses, isParentAttachable, Counted, ← Bool.not_eq_true]
    tauto

end

/-! ## The two numbers -/

theorem finite_listed (P : Route → Prop) : {route | listing.Has route ∧ P route}.Finite := by
  refine (finite_toSet listing.routes).subset ?_
  rintro route ⟨hhas, _⟩
  exact Listing.mem_routes.2 hhas

section

variable (hin : buildInput c gw attached listing = .ok input) (hm : gatewayAPI input = .ok m)
  (hrules : ∀ route, listing.Has route → route.rules ≠ []) {ctx : ListenerWithContext} {o : Owner}
  (ho : o.declares c gw attached ctx)

include hin hm hrules ho

theorem programmedRoutes_eq : programmedRoutes input m ctx.listener ctx.source =
      Set.ncard {route | listing.Has route ∧ FilterPasses c gw attached route ∧
        Reaches ctx.listener ctx.source route} := by
  have hl := mem_sourced_buildInput hin (mem_mergeListeners.2 ⟨o, ho⟩)
  rw [programmedRoutes]
  congr 1
  ext route
  rw [Set.mem_ofPred_eq, Set.mem_ofPred_eq, contributes_iff hm hl, buildInput_has hin]
  constructor
  · rintro ⟨⟨hhas, hpass⟩, hreach, _⟩
    exact ⟨hhas, hpass, hreach⟩
  · rintro ⟨hhas, hpass, hreach⟩
    exact ⟨⟨hhas, hpass⟩, hreach, hrules route hhas⟩

/-- The two numbers agree if the routes by which they differ are as many on either side. -/
theorem counted_eq_programmed_iff :
    Set.ncard {route | listing.Has route ∧ Counted c gw ctx.listener o route} =
        programmedRoutes input m ctx.listener ctx.source ↔
      Set.ncard {route | listing.Has route ∧ Overcounted c gw attached ctx o route} =
        Set.ncard {route | listing.Has route ∧ Missed c gw attached ctx o route} := by
  rw [programmedRoutes_eq hin hm hrules ho,
    Set.ncard_eq_ncard_iff_ncard_sdiff_eq_ncard_sdiff (finite_listed _) (finite_listed _)]
  have hover : {route | listing.Has route ∧ Counted c gw ctx.listener o route} \
      {route | listing.Has route ∧ FilterPasses c gw attached route ∧
        Reaches ctx.listener ctx.source route} =
      {route | listing.Has route ∧ Overcounted c gw attached ctx o route} := by
    ext route
    simp only [Set.mem_sdiff, Set.mem_ofPred_eq, overcounted_iff ho]
    tauto
  have hmissed : {route | listing.Has route ∧ FilterPasses c gw attached route ∧
        Reaches ctx.listener ctx.source route} \
      {route | listing.Has route ∧ Counted c gw ctx.listener o route} =
      {route | listing.Has route ∧ Missed c gw attached ctx o route} := by
    ext route
    simp only [Set.mem_sdiff, Set.mem_ofPred_eq, missed_iff ho]
    tauto
  rw [hover, hmissed]

end

/-- The reported numbers are right exactly if, on every listener, as many listed routes are
    overcounted as are missed. -/
theorem countsProgrammed_iff {answers : Answers}
    (hin : buildInput c gw attached answers.listing = .ok input) (hm : gatewayAPI input = .ok m)
    (hroutes : answers.listing.routes.Nodup)
    (hrules : ∀ route, answers.listing.Has route → route.rules ≠ [])
    (hnames : (gw.listeners.map (·.name)).Nodup) {params : ListenerStatusParams}
    {listeners statuses : List ListenerStatus}
    (hstatuses : setListenerStatus c gw params answers.listing listeners = .ok statuses)
    {conflicted : List (Model.FullyQualifiedResource × String)} {grants : List ReferenceGrant}
    (hsets : ∀ ls ∈ attached, ∃ result,
      withListenerSetStatus c gw answers conflicted grants ls = .ok result) :
    CountsProgrammed c gw attached answers conflicted grants input m statuses ↔
      ∀ ctx o, Owner.declares c gw attached ctx o →
        Set.ncard {route | answers.listing.Has route ∧ Overcounted c gw attached ctx o route} =
          Set.ncard {route | answers.listing.Has route ∧ Missed c gw attached ctx o route} := by
  have hgateway : ∀ l ∈ gw.listeners, (statuses.find? (·.name == l.name)).map (·.attachedRoutes) =
      some (Set.ncard {route | answers.listing.Has route ∧ Counted c gw l (.gateway gw) route}) := by
    intro l hl
    obtain ⟨status, hstatus, hfind⟩ := find?_setListenerStatus hnames hstatuses hl
    obtain ⟨n, hn, hstatus⟩ := bind_eq_ok.1 hstatus
    rw [hfind, map_some, ← attachedRoutes_eq hroutes hn, ← pure_eq_ok.1 hstatus]
  have hset : ∀ ls ls' valid,
      withListenerSetStatus c gw answers conflicted grants ls = .ok (ls', valid) →
      ∀ (i : Nat) l, ls.listeners[i]? = some l →
        ls'.status.listeners[i]?.map (·.attachedRoutes) = some (Set.ncard
          {route | answers.listing.Has route ∧ Counted c gw l (.listenerSet ls) route}) := by
    intro ls ls' valid hls' i l hl
    obtain ⟨status, _, hstatus, hget⟩ := getElem?_withListenerSetStatus hls' hl
    rw [hget, map_some, attachedRoutes_listenerEntryStatus hroutes hstatus]
  constructor
  · intro h ctx o ho
    rw [← counted_eq_programmed_iff hin hm hrules ho]
    cases o with
    | gateway gw' =>
      obtain ⟨rfl, hl, hctx⟩ := ho
      have hreported := h.gateway _ hl
      rw [hgateway _ hl, some_inj] at hreported
      rw [hreported, hctx]
      rfl
    | listenerSet ls =>
      obtain ⟨hls, hl, hctx⟩ := ho
      obtain ⟨⟨ls', valid⟩, hls'⟩ := hsets ls hls
      obtain ⟨i, hi⟩ := getElem?_of_mem hl
      have hreported := h.listenerSet ls hls ls' valid hls' i _ hi
      rw [hset ls ls' valid hls' i _ hi, some_inj] at hreported
      rw [hreported, hctx]
      rfl
  · intro h
    refine ⟨fun l hl => ?_, fun ls hls ls' valid hls' i l hi => ?_⟩
    · have ho : Owner.declares c gw attached (gatewayListener gw l) (.gateway gw) := ⟨rfl, hl, rfl⟩
      rw [hgateway l hl, some_inj]
      exact (counted_eq_programmed_iff hin hm hrules ho).2 (h _ _ ho)
    · have ho : Owner.declares c gw attached (listenerSetListener c ls l) (.listenerSet ls) :=
        ⟨hls, mem_of_getElem? hi, rfl⟩
      rw [hset ls ls' valid hls' i l hi, some_inj]
      exact (counted_eq_programmed_iff hin hm hrules ho).2 (h _ _ ho)

end

/-! ## Routes of a Gateway and of a ListenerSet -/

/-- An HTTPRoute that the Gateway has accepted. -/
def gatewayRoute : HTTPRoute where
  name := "web"
  ns := "infra"
  parentRefs := [{ name := "gw" }]
  parents := [{
    parentRef := { name := "gw" }
    controllerName := gatewayControllerName
    conditions := [⟨"Accepted", .true, "Accepted", "Accepted HTTPRoute", 0, 0⟩] }]
  rules := [{}]

def gatewayRouteAnswers : Answers where
  listenerSets := some []
  listing := { httpRoutes := [gatewayRoute] }

theorem eq_of_has {r : HTTPRoute} {route : Route} (h : Listing.Has { httpRoutes := [r] } route) :
    route = .http r := by
  cases route with
  | http r => rw [mem_singleton.1 h]
  | grpc r | tls r | tcp r | udp r => cases h

/-- The route is counted, and it gets through to the listener. -/
theorem countsProgrammed_gatewayRoute : ∃ input m statuses,
    buildInput bareCluster openGateway [] gatewayRouteAnswers.listing = .ok input ∧
      gatewayAPI input = .ok m ∧
      setListenerStatus bareCluster openGateway {} gatewayRouteAnswers.listing [] = .ok statuses ∧
      CountsProgrammed bareCluster openGateway [] gatewayRouteAnswers [] [] input m statuses := by
  have hin : buildInput bareCluster openGateway [] gatewayRouteAnswers.listing = .ok _ := rfl
  have hstatuses : setListenerStatus bareCluster openGateway {} gatewayRouteAnswers.listing [] =
    .ok _ := rfl
  refine ⟨_, _, _, hin, rfl, hstatuses, (countsProgrammed_iff hin rfl (nodup_singleton _)
    (fun route h => eq_of_has h ▸ cons_ne_nil _ _) (by decide) hstatuses (by simp)).2
      fun ctx o ho => ?_⟩
  cases o with
  | listenerSet ls => exact absurd ho.1 not_mem_nil
  | gateway gw =>
    obtain ⟨rfl, hl, hctx⟩ := ho
    rw [mem_singleton.1 hl] at hctx
    subst hctx
    have ho : Owner.declares bareCluster openGateway [] (gatewayListener openGateway openListener)
        (.gateway openGateway) := ⟨rfl, mem_cons_self, rfl⟩
    -- the route that is listed is counted, and gets through
    have hall : ∀ route, gatewayRouteAnswers.listing.Has route →
        Counted bareCluster openGateway openListener (.gateway openGateway) route ∧
          FilterPasses bareCluster openGateway [] route ∧
            Reaches openListener (gatewayFQR openGateway) route := by
      intro route hroute
      obtain rfl := eq_of_has hroute
      refine ⟨⟨by decide, rfl, by decide, by decide⟩, ⟨gatewayListener openGateway openListener,
        .gateway openGateway, ⟨rfl, mem_cons_self, rfl⟩,
        ⟨_, mem_cons_self, ⟨by decide, by decide, by decide⟩, .inl rfl, .inl rfl⟩,
        by decide, by decide⟩, rfl, by decide, by decide⟩
    have hempty {s : Set Route} (h : ∀ route ∈ s, False) : s.ncard = 0 := by
      rw [Set.eq_empty_of_forall_notMem h, Set.ncard_empty]
    exact (hempty fun route h => ((overcounted_iff ho).1 h.2).2 (hall route h.1).2).trans
      (hempty fun route h => ((missed_iff ho).1 h.2).2 (hall route h.1).1).symm

/-- A listener of a ListenerSet. -/
def extraListener : Listener where
  name := "extra"
  port := 8080
  protocol := .http
  allowedRoutes := some { namespaces := some { fromNamespaces := some .all } }

def ownListenerSet : ListenerSet where
  name := "extra"
  ns := "infra"
  parentRef := { name := "gw" }
  listeners := [extraListener]

/-- An HTTPRoute that has the ListenerSet as its parent. -/
def listenerSetRoute : HTTPRoute where
  name := "web"
  ns := "infra"
  parentRefs := [{ name := "extra", kind := some "ListenerSet", group := some groupName }]
  rules := [{}]

def listenerSetRouteAnswers : Answers where
  listenerSets := some [ownListenerSet]
  listing := { httpRoutes := [listenerSetRoute] }

/-- The route contributes to the listener of the ListenerSet, but it is not counted: its parentRef
    does not name the Gateway. -/
theorem not_countsProgrammed_listenerSetRoute : ∃ input m statuses,
    buildInput bareCluster openGateway [ownListenerSet] listenerSetRouteAnswers.listing =
        .ok input ∧
      gatewayAPI input = .ok m ∧
      setListenerStatus bareCluster openGateway {} listenerSetRouteAnswers.listing [] =
        .ok statuses ∧
      ¬ CountsProgrammed bareCluster openGateway [ownListenerSet] listenerSetRouteAnswers [] []
        input m statuses := by
  have hin : buildInput bareCluster openGateway [ownListenerSet] listenerSetRouteAnswers.listing =
    .ok _ := rfl
  refine ⟨_, _, _, hin, rfl, rfl, fun h => ?_⟩
  have ho : Owner.declares bareCluster openGateway [ownListenerSet]
      (listenerSetListener bareCluster ownListenerSet extraListener)
      (.listenerSet ownListenerSet) := ⟨mem_cons_self, mem_cons_self, rfl⟩
  have hreported : some 0 = _ := h.listenerSet _ mem_cons_self _ _ rfl 0 extraListener rfl
  have hpass : FilterPasses bareCluster openGateway [ownListenerSet] (.http listenerSetRoute) :=
    ⟨_, _, ho, ⟨_, mem_cons_self, ⟨by decide, by decide, by decide⟩, .inl rfl, .inl rfl⟩,
      by decide, by decide⟩
  have hprogrammed := programmedRoutes_eq hin rfl (fun _ h => eq_of_has h ▸ cons_ne_nil _ _) ho
  refine Set.ncard_ne_zero_of_mem (a := .http listenerSetRoute) ?_ (finite_listed _)
    (hprogrammed.symm.trans (some.inj hreported).symm)
  exact ⟨mem_cons_self, hpass, rfl, by decide, by decide⟩

end Reconcile
