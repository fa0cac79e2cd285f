import Dolphin.Reconcile.GatewayStatus
import Dolphin.Reconcile.StatusPass

/-!
# What a run reads of statuses

A run of `Reconcile` for a Gateway reads the statuses of HTTPRoutes, TLSRoutes and GRPCRoutes, but not
the times in them, and neither those of TCPRoutes and UDPRoutes nor those of ListenerSets. So what
the last run has written is of no consequence: listings with the same `core` lead to the same
model (`gatewayAPI_core`) and to the same numbers of routes (`attachedRoutes_core`), and the pass over
the HTTPRoutes keeps the core (`setRouteStatuses_again`). Made again, it sends no update
(`setHTTPRouteStatuses_idempotent`).
-/

namespace Reconcile

open Gatewayv1 Go Ingestion List

/-- A route without the times in its status. -/
def timelessRoute (hr : HTTPRoute) : HTTPRoute :=
  { hr with parents := hr.parents.map timelessParent }

/-- A listing without what is not read of statuses. -/
def Listing.core (listing : Listing) : Listing :=
  { listing with
    httpRoutes := listing.httpRoutes.map timelessRoute
    tcpRoutes := listing.tcpRoutes.map fun r => { r with parents := [] }
    udpRoutes := listing.udpRoutes.map fun r => { r with parents := [] } }

/-- The input of ingestion without what is not read of statuses. -/
def inputCore (input : Input) : Input :=
  { input with
    httpRoutes := input.httpRoutes.map timelessRoute
    tcpRoutes := input.tcpRoutes.map fun r => { r with parents := [] }
    udpRoutes := input.udpRoutes.map fun r => { r with parents := [] } }

/-- A ListenerSet without its status. -/
def noStatus (ls : ListenerSet) : ListenerSet := { ls with status := {} }

/-- The answers of the API server without the clock and what is not read of statuses. -/
def RouteAPI.core (api : RouteAPI) : RouteAPI :=
  { api with
    getListenerSet := fun key => (api.getListenerSet key).map noStatus
    now := 0 }

/-! ## Ingestion -/

section

variable {c : Cluster} {gw : Gateway} {attached attached' : List ListenerSet}

theorem buildInput_core (listing : Listing) :
    buildInput c gw attached listing.core = inputCore <$> buildInput c gw attached listing := by
  rw [buildInput, buildInput]
  have hhttp : filterHTTPRoutesByGateway c gw attached (listing.httpRoutes.map timelessRoute) =
      (filterHTTPRoutesByGateway c gw attached listing.httpRoutes).map timelessRoute :=
    filter_map
  have htcp : filterTCPRoutesByGateway gw attached
      (listing.tcpRoutes.map fun r => { r with parents := [] }) =
        (filterTCPRoutesByGateway gw attached listing.tcpRoutes).map
          fun r => { r with parents := [] } := filter_map
  have hudp : filterUDPRoutesByGateway gw attached
      (listing.udpRoutes.map fun r => { r with parents := [] }) =
        (filterUDPRoutesByGateway gw attached listing.udpRoutes).map
          fun r => { r with parents := [] } := filter_map
  simp only [Listing.core, hhttp, htcp, hudp]
  cases filterTLSRoutesByGateway c gw listing.tlsRoutes <;> rfl

theorem gatewayAPI_core (input : Input) : gatewayAPI (inputCore input) = gatewayAPI input := by
  have hblock (p : Listener × Model.FullyQualifiedResource) :
      ingestListener (inputCore input) p.1 p.2 = ingestListener input p.1 p.2 := by
    have hhttp : toHTTPRoutes p.1 (input.httpRoutes.map timelessRoute) input.services
        input.referenceGrants p.2 =
          toHTTPRoutes p.1 input.httpRoutes input.services input.referenceGrants p.2 :=
      collect_map _ _ _
    have htcp : toTCPRoutes p.1 (input.tcpRoutes.map fun r => { r with parents := [] })
        input.services input.referenceGrants =
          toTCPRoutes p.1 input.tcpRoutes input.services input.referenceGrants :=
      flatMap_map _ _ _
    have hudp : toUDPRoutes p.1 (input.udpRoutes.map fun r => { r with parents := [] })
        input.services input.referenceGrants =
          toUDPRoutes p.1 input.udpRoutes input.services input.referenceGrants :=
      flatMap_map _ _ _
    simp only [ingestListener, inputCore, hhttp, htcp, hudp]
    rfl
  have hsourced : (inputCore input).sourced = input.sourced := rfl
  simp only [gatewayAPI, hblock, hsourced]

variable {listing listing' : Listing}

/-- Routes with the same core and listeners that are merged to the same lead to the same model. -/
theorem gatewayAPI_again {input : Input} (hin : buildInput c gw attached listing = .ok input)
    (hcore : listing'.core = listing.core)
    (hmerged : mergeListeners c gw attached' = mergeListeners c gw attached) :
    ∃ input', buildInput c gw attached' listing' = .ok input' ∧
      gatewayAPI input' = gatewayAPI input := by
  have hattached : buildInput c gw attached' listing' = buildInput c gw attached listing' := by
    simp only [buildInput, hmerged, filterHTTPRoutesByGateway, filterTCPRoutesByGateway,
      filterUDPRoutesByGateway, isParentAttachable]
  have hmap : buildInput c gw attached listing'.core = _ := buildInput_core listing'
  rw [hcore, buildInput_core, hin] at hmap
  obtain ⟨input', hin', hinput⟩ := map_eq_ok.1 hmap.symm
  refine ⟨input', hattached.trans hin', ?_⟩
  rw [← gatewayAPI_core input', hinput, gatewayAPI_core]

/-! ## ListenerSets -/

theorem mergeListeners_noStatus (h : attached'.map noStatus = attached.map noStatus) :
    mergeListeners c gw attached' = mergeListeners c gw attached := by
  have hmap (attached : List ListenerSet) :
      mergeListeners c gw (attached.map noStatus) = mergeListeners c gw attached := by
    rw [mergeListeners, flatMap_map]
    rfl
  rw [← hmap, h, hmap]

theorem sortListenerSets_noStatus (sets : List ListenerSet) :
    (sortListenerSets sets).map noStatus = sortListenerSets (sets.map noStatus) :=
  map_insertionSort _ _ noStatus sets fun _ _ _ _ => Iff.rfl

/-! ## The numbers of routes -/

theorem isAttachable_timelessRoute (gw : Gateway) (hr : HTTPRoute) :
    isAttachable gw (timelessRoute hr).toCommonRoute = isAttachable gw hr.toCommonRoute := by
  simp only [isAttachable, timelessRoute, timelessParent, any_map, Function.comp_def]
  rfl

theorem filterHTTPRoutesByListener_timeless (l : Listener) (routes : List HTTPRoute) :
    filterHTTPRoutesByListener c gw l (routes.map timelessRoute) =
      List.map timelessRoute <$> filterHTTPRoutesByListener c gw l routes := by
  rw [filterHTTPRoutesByListener_eq, filterHTTPRoutesByListener_eq]
  refine collect_keepIf_map ?_ ?_ ?_ routes
  · exact isAttachable_timelessRoute gw
  · exact fun _ => rfl
  · exact fun _ => rfl

theorem attachedRoutes_core (l : Listener) (listing : Listing) :
    attachedRoutes c gw listing.core l = attachedRoutes c gw listing l := by
  have htcp : (filterTCPRoutesByListener c gw l [] (namespaceLabels c gw)
      (listing.tcpRoutes.map fun r => { r with parents := [] })).length =
        (filterTCPRoutesByListener c gw l [] (namespaceLabels c gw) listing.tcpRoutes).length := by
    rw [filterTCPRoutesByListener, filter_map, length_map]
    rfl
  have hudp : (filterUDPRoutesByListener c gw l [] (namespaceLabels c gw)
      (listing.udpRoutes.map fun r => { r with parents := [] })).length =
        (filterUDPRoutesByListener c gw l [] (namespaceLabels c gw) listing.udpRoutes).length := by
    rw [filterUDPRoutesByListener, filter_map, length_map]
    rfl
  simp only [attachedRoutes, Listing.core, filterHTTPRoutesByListener_timeless, htcp, hudp]
  cases filterHTTPRoutesByListener c gw l listing.httpRoutes with
  | error p => rfl
  | ok http =>
    cases filterTLSRoutesByListener c gw l listing.tlsRoutes with
    | error p => rfl
    | ok tls =>
      refine congrArg Except.ok ?_
      rw [length_map]

/-! ## The number of ListenerSets -/

/-- The ListenerSet has a listener that is valid and has no conflict. -/
def hasValidListener (conflicted : List (Model.FullyQualifiedResource × String))
    (grants : List ReferenceGrant) (validateTLSSecret : String → String → Option String)
    (ls : ListenerSet) : Bool :=
  ls.listeners.any fun l => !conflicted.contains (listenerSetFQR ls, l.name) &&
    (validateListener (listenerSetParams ls grants validateTLSSecret 0) l).isValid

theorem isValid_validateListener (params : ListenerValidationParams) (now : Nat) (l : Listener) :
    (validateListener { params with now := now } l).isValid =
      (validateListener params l).isValid := by
  have hkinds : (validateKinds { params with now := now } l).isValid =
      (validateKinds params l).isValid := by
    cases hk : (l.allowedRoutes.bind (·.kinds)).getD [] with
    | nil => simp only [validateKinds, hk]
    | cons k ks =>
      simp only [validateKinds, hk]
      split_ifs <;> rfl
  have hcerts (tls : ListenerTLSConfig) (res res' : ListenerValidationResult)
      (hres : res'.isValid = res.isValid) :
      (validateCertificateRefs { params with now := now } tls res').isValid =
        (validateCertificateRefs params tls res).isValid := by
    have hsame : validateCertificateRef { params with now := now } =
      validateCertificateRef params := rfl
    rw [validateCertificateRefs, validateCertificateRefs, hsame]
    cases tls.certificateRefs.findSome? (validateCertificateRef params) with
    | none => exact hres
    | some failure => rfl
  rw [validateListener, validateListener]
  cases l.tls with
  | none => exact hkinds
  | some tls =>
    dsimp only
    split_ifs
    · rfl
    · exact hcerts tls _ _ hkinds

section

variable {answers : Answers} {conflicted : List (Model.FullyQualifiedResource × String)}
  {grants : List ReferenceGrant}

theorem valid_of_listenerEntryStatus {ls : ListenerSet} {l : Listener}
    {entry : ListenerEntryStatus × Bool}
    (h : listenerEntryStatus c gw answers conflicted grants ls l = .ok entry) :
    entry.2 = (!conflicted.contains (listenerSetFQR ls, l.name) &&
      (validateListener (listenerSetParams ls grants answers.validateTLSSecret 0) l).isValid) := by
  obtain ⟨http, _, h⟩ := bind_pure_eq_ok.1 h
  rw [← h]
  exact congrArg (!conflicted.contains (listenerSetFQR ls, l.name) && ·)
    (isValid_validateListener (listenerSetParams ls grants answers.validateTLSSecret 0)
      answers.now l)

/-- The status of a ListenerSet can be made if the HTTPRoutes of its listeners can be counted. -/
theorem withListenerSetStatus_eq_ok {ls : ListenerSet} {valid : Bool} :
    (∃ new, withListenerSetStatus c gw answers conflicted grants ls = .ok (new, valid)) ↔
      (∀ l ∈ ls.listeners, ∃ routes,
        filterHTTPRoutesByListener c gw l answers.listing.httpRoutes = .ok routes) ∧
      valid = hasValidListener conflicted grants answers.validateTLSSecret ls := by
  constructor
  · rintro ⟨new, h⟩
    obtain ⟨entries, hentries, h⟩ := bind_eq_ok.1 h
    obtain ⟨_, rfl⟩ := Prod.mk.inj (pure_eq_ok.1 h)
    refine ⟨fun l hl => ?_, any_mapM (fun l entry => valid_of_listenerEntryStatus) hentries⟩
    obtain ⟨entry, hentry⟩ := exists_mapM_eq_ok.1 ⟨entries, hentries⟩ l hl
    obtain ⟨routes, hroutes, _⟩ := bind_eq_ok.1 hentry
    exact ⟨routes, hroutes⟩
  · rintro ⟨hroutes, rfl⟩
    obtain ⟨entries, hentries⟩ : ∃ entries, ls.listeners.mapM
        (listenerEntryStatus c gw answers conflicted grants ls) = .ok entries := by
      refine exists_mapM_eq_ok.2 fun l hl => ?_
      obtain ⟨routes, hroutes⟩ := hroutes l hl
      exact ⟨_, bind_eq_ok.2 ⟨routes, hroutes, rfl⟩⟩
    have hvalid : entries.any (·.2) =
        hasValidListener conflicted grants answers.validateTLSSecret ls :=
      any_mapM (fun l entry => valid_of_listenerEntryStatus) hentries
    rw [← hvalid]
    exact ⟨_, bind_eq_ok.2 ⟨entries, hentries, rfl⟩⟩

/-- The number of ListenerSets with a valid listener. -/
theorem count_setListenerSetStatuses {sets : List ListenerSet} {n : Nat} :
    (setListenerSetStatuses c gw answers conflicted grants sets).2 = .ok n ↔
      (∀ ls ∈ sets, ∀ l ∈ ls.listeners, ∃ routes,
        filterHTTPRoutesByListener c gw l answers.listing.httpRoutes = .ok routes) ∧
      n = sets.countP (hasValidListener conflicted grants answers.validateTLSSecret) := by
  induction sets generalizing n with
  | nil =>
    rw [setListenerSetStatuses, pure_eq_ok]
    simp [eq_comm]
  | cons ls rest ih =>
    rw [forall_mem_cons, countP_cons, setListenerSetStatuses]
    cases hset : withListenerSetStatus c gw answers conflicted grants ls with
    | error p =>
      refine iff_of_false ?_ ?_
      · intro h
        cases h
      · rintro ⟨⟨hroutes, _⟩, _⟩
        obtain ⟨new, hnew⟩ := withListenerSetStatus_eq_ok.2 ⟨hroutes, rfl⟩
        rw [hset] at hnew
        cases hnew
    | ok made =>
      obtain ⟨new, valid⟩ := made
      obtain ⟨hroutes, rfl⟩ := withListenerSetStatus_eq_ok.1 ⟨new, hset⟩
      refine map_eq_ok.trans ?_
      constructor
      · rintro ⟨n, hn, rfl⟩
        obtain ⟨hrest, rfl⟩ := ih.1 hn
        exact ⟨⟨hroutes, hrest⟩, rfl⟩
      · rintro ⟨⟨_, hrest⟩, rfl⟩
        exact ⟨_, ih.2 ⟨hrest, rfl⟩, rfl⟩

/-- The number does not depend on what is not read of statuses. -/
theorem count_again {answers' : Answers} {sets sets' : List ListenerSet} {n : Nat}
    (hcore : answers'.listing.core = answers.listing.core)
    (hvalidate : answers'.validateTLSSecret = answers.validateTLSSecret)
    (hsets : sets'.map noStatus = sets.map noStatus)
    (h : (setListenerSetStatuses c gw answers conflicted grants sets).2 = .ok n) :
    (setListenerSetStatuses c gw answers' conflicted grants sets').2 = .ok n := by
  obtain ⟨hroutes, rfl⟩ := count_setListenerSetStatuses.1 h
  refine count_setListenerSetStatuses.2 ⟨?_, ?_⟩
  · have hlisteners : ∀ ls ∈ sets'.map noStatus, ∀ l ∈ ls.listeners, ∃ routes,
        filterHTTPRoutesByListener c gw l answers.listing.httpRoutes = .ok routes := by
      rw [hsets]
      exact forall_mem_map.2 hroutes
    intro ls hls l hl
    obtain ⟨routes, hroutes⟩ := forall_mem_map.1 hlisteners ls hls l hl
    have htimeless : filterHTTPRoutesByListener c gw l
        (answers'.listing.httpRoutes.map timelessRoute) = _ :=
      filterHTTPRoutesByListener_timeless l answers'.listing.httpRoutes
    have hhttp : answers'.listing.httpRoutes.map timelessRoute =
        answers.listing.httpRoutes.map timelessRoute := congrArg Listing.httpRoutes hcore
    rw [hhttp, filterHTTPRoutesByListener_timeless, hroutes] at htimeless
    obtain ⟨routes', hroutes', _⟩ := map_eq_ok.1 htimeless.symm
    exact ⟨routes', hroutes'⟩
  · have hmap (sets : List ListenerSet) :
        (sets.map noStatus).countP (hasValidListener conflicted grants answers.validateTLSSecret) =
          sets.countP (hasValidListener conflicted grants answers.validateTLSSecret) := by
      rw [countP_map]
      rfl
    rw [hvalidate, ← hmap, ← hsets, hmap]

end

/-! ## The statuses of listeners, made again -/

theorem timeless_listenerConditions (params : ListenerStatusParams) (now : Nat) (l : Listener) :
    (listenerConditions gw { params with now := now } l).map timeless =
      (listenerConditions gw params l).map timeless := by
  have hcerts : validateCertificateRef (gatewayParams gw { params with now := now }) =
      validateCertificateRef (gatewayParams gw params) := rfl
  simp only [listenerConditions, hcerts]
  -- up to times, the conditions are recorded by their types
  generalize ((l.allowedRoutes.bind (·.kinds)).getD []).any (fun k => !supportsKind l k) = invalid
  generalize ((l.tls.map (·.certificateRefs)).getD []).findSome?
    (validateCertificateRef (gatewayParams gw params)) = failure
  cases invalid <;> cases failure <;> simp only [timeless_merge, apply_ite (List.map timeless)] <;>
    rfl

section

variable {params : ListenerStatusParams} (hcore : listing'.core = listing.core) (now : Nat)

include hcore

theorem listenerStatus_again {l : Listener} {status : ListenerStatus}
    (h : listenerStatus c gw params listing l = .ok status) :
    ∃ status', listenerStatus c gw { params with now := now } listing' l = .ok status' ∧
      timelessListener status' = timelessListener status := by
  obtain ⟨n, hn, rfl⟩ := bind_pure_eq_ok.1 h
  rw [← attachedRoutes_core, ← hcore, attachedRoutes_core] at hn
  refine ⟨_, bind_eq_ok.2 ⟨n, hn, rfl⟩, ?_⟩
  simp only [timelessListener, timeless_listenerConditions]

/-- Statuses that have been made before, up to times, are made again. -/
theorem setListenerStatus_again {before listeners listeners' : List ListenerStatus}
    (h : setListenerStatus c gw params listing before = .ok listeners)
    (hlisteners : listeners'.map timelessListener = listeners.map timelessListener) :
    ∃ listeners'', setListenerStatus c gw { params with now := now } listing' listeners' =
        .ok listeners'' ∧ listeners''.map timelessListener = listeners.map timelessListener := by
  obtain ⟨made, hmade, rfl⟩ := bind_pure_eq_ok.1 h
  obtain ⟨made', hmade', hsame⟩ := mapM_agrees
    (fun l _ status hstatus => listenerStatus_again hcore now hstatus) hmade
  refine ⟨_, bind_eq_ok.2 ⟨made', hmade', rfl⟩, ?_⟩
  have hfilter (statuses : List ListenerStatus) :
      (statuses.filter fun status => gw.listeners.any (·.name == status.name)).map
        timelessListener =
      (statuses.map timelessListener).filter fun status =>
        gw.listeners.any (·.name == status.name) := by
    rw [filter_map]
    rfl
  have hrecord (us statuses : List ListenerStatus) :
      (us.foldl (fun l u => record (·.name) u l) statuses).map timelessListener =
        (us.map timelessListener).foldl (fun l u => record (·.name) u l)
          (statuses.map timelessListener) := by
    refine map_foldl_record ?_ us
    exact fun _ => rfl
  rw [hfilter, hrecord, hsame, hlisteners, hfilter, hrecord, foldl_record_eq_iff.2, filter_filter]
  · simp only [Bool.and_self]
  · -- the last status of a name has been recorded, and the filter keeps it
    intro u hu
    obtain ⟨status, hstatus, rfl⟩ := mem_map.1
      (mem_reverse.1 (mem_of_find?_eq_some hu))
    obtain ⟨l, hl, hmade⟩ := (mem_mapM hmade).1 hstatus
    have hname : status.name = l.name := name_of_listenerStatus hmade
    have hname : (timelessListener status).name = l.name := hname
    rw [hname] at hu ⊢
    rw [find?_filter_name hl, find?_foldl_record, hu, Option.some_or]

end

/-! ## The pass over the HTTPRoutes, made again -/

theorem timelessRoute_eq_iff {hr hr' : HTTPRoute} :
    timelessRoute hr' = timelessRoute hr ↔ hr' = { hr with parents := hr'.parents } ∧
      hr'.parents.map timelessParent = hr.parents.map timelessParent := by
  constructor
  · intro h
    obtain ⟨⟨object', refs', parents'⟩, hostnames', rules', gvk'⟩ := hr'
    obtain ⟨⟨object, refs, parents⟩, hostnames, rules, gvk⟩ := hr
    simp only [timelessRoute, HTTPRoute.mk.injEq, CommonRoute.mk.injEq] at h
    obtain ⟨⟨rfl, rfl, hparents⟩, rfl, rfl, rfl⟩ := h
    exact ⟨rfl, hparents⟩
  · rintro ⟨heq, hparents⟩
    rw [heq, timelessRoute, hparents]
    rfl

theorem setHTTPRouteStatuses_again {api : RouteAPI} {routes made routes' : List HTTPRoute}
    (h : setHTTPRouteStatuses api routes = .ok made)
    (hroutes : routes'.map timelessRoute = made.map timelessRoute) (now : Nat) :
    ∃ made', setHTTPRouteStatuses { api with now := now } routes' = .ok made' ∧
      made'.map timelessRoute = made.map timelessRoute := by
  simp only [setHTTPRouteStatuses, mapM_eq_ok] at h ⊢
  induction h generalizing routes' with
  | nil =>
    obtain rfl := map_eq_nil_iff.1 hroutes
    exact ⟨[], .nil, rfl⟩
  | @cons hr made routes mades hmade _ ih =>
    obtain ⟨hr', rest, rfl, hhr', hrest⟩ := map_eq_cons_iff.1 hroutes
    obtain ⟨parents, hparents, rfl⟩ := bind_pure_eq_ok.1 hmade
    obtain ⟨hsame, htimeless⟩ := timelessRoute_eq_iff.1 hhr'
    obtain ⟨parents', hparents', hagain⟩ := setHTTPRouteStatus_again hparents htimeless now
    obtain ⟨mades', hmades', hrest⟩ := ih hrest
    refine ⟨{ hr with parents := parents' } :: mades', .cons ?_ hmades', ?_⟩
    · rw [hsame]
      exact bind_eq_ok.2 ⟨parents', hparents', rfl⟩
    · rw [map_cons, map_cons, hrest]
      exact congrArg (· :: _) (timelessRoute_eq_iff.2 ⟨rfl, hagain⟩)

/-- The update that is sent to the API server for a route: none if only times changed. -/
def updateHTTPRouteStatus (original new : HTTPRoute) : List HTTPRoute :=
  if original.parents.map timelessParent = new.parents.map timelessParent then [] else [new]

/-- The updates of a pass that has made `made` of the routes. -/
def httpRouteStatusUpdates (routes made : List HTTPRoute) : List HTTPRoute :=
  (List.zipWith updateHTTPRouteStatus routes made).flatten

theorem httpRouteStatusUpdates_eq_nil {routes made : List HTTPRoute}
    (h : made.map timelessRoute = routes.map timelessRoute) :
    httpRouteStatusUpdates routes made = [] := by
  induction routes generalizing made with
  | nil => rfl
  | cons hr routes ih =>
    obtain ⟨hr', rest, rfl, hhr, hrest⟩ := map_eq_cons_iff.1 h
    have hupdate : updateHTTPRouteStatus hr hr' = [] :=
      if_pos (timelessRoute_eq_iff.1 hhr).2.symm
    rw [httpRouteStatusUpdates, zipWith_cons_cons, flatten_cons, hupdate,
      nil_append, ← httpRouteStatusUpdates, ih hrest]

/-- After a pass, the entries of this controller are for parentRefs of the route. -/
theorem parentRef_of_setHTTPRouteStatus {api : RouteAPI} {hr : HTTPRoute}
    {parents : List RouteParentStatus} (h : setHTTPRouteStatus api hr = .ok parents)
    {e : RouteParentStatus} (he : e ∈ parents)
    (hown : e.controllerName = gatewayControllerName) : e.parentRef ∈ hr.parentRefs := by
  obtain ⟨ws, hws, h⟩ := bind_eq_ok.1 h
  have hparents := congrArg (List.map timelessParent) (pure_eq_ok.1 h).symm
  -- pruning the status that was made removes nothing
  obtain ⟨_, hpruned⟩ :
      httpRouteWrites { api with now := api.now } { hr with parents := parents } = .ok ws ∧
        prunedParents { hr with parents := parents } = parents :=
    httpRouteWrites_again hws hparents
  have hkept := filter_eq_self.1 hpruned e he
  simpa [hown] using hkept

/-- The pass over the HTTPRoutes is idempotent: made again, it leaves the statuses as they are but
    for times, and sends no update. -/
theorem setHTTPRouteStatuses_idempotent {api : RouteAPI} {routes made : List HTTPRoute}
    (h : setHTTPRouteStatuses api routes = .ok made) (now : Nat) :
    (∃ made', setHTTPRouteStatuses { api with now := now } made = .ok made' ∧
      made'.map timelessRoute = made.map timelessRoute ∧ httpRouteStatusUpdates made made' = []) ∧
    ∀ hr ∈ made, ∀ e ∈ hr.parents, e.controllerName = gatewayControllerName →
      e.parentRef ∈ hr.parentRefs := by
  constructor
  · obtain ⟨made', hmade', hsame⟩ := setHTTPRouteStatuses_again h rfl now
    exact ⟨made', hmade', hsame, httpRouteStatusUpdates_eq_nil hsame⟩
  · intro hr hhr e he hown
    obtain ⟨original, _, hmade⟩ := (mem_mapM h).1 hhr
    obtain ⟨parents, hparents, rfl⟩ := bind_pure_eq_ok.1 hmade
    exact parentRef_of_setHTTPRouteStatus hparents he hown

/-- A route with an entry of another controller, and one of this controller for a parent that the
    route no longer has. -/
def staleRoute : HTTPRoute where
  name := "shop"
  ns := "infra"
  parentRefs := [{ name := "gw" }, { name := "other-gw" }]
  parents := [otherEntry, ⟨{ name := "gone" }, gatewayControllerName, []⟩]
  hostnames := []
  rules := []

theorem setHTTPRouteStatuses_staleRoute :
    ∃ made, setHTTPRouteStatuses twoControllers [staleRoute] = .ok made ∧
      (∃ made', setHTTPRouteStatuses { twoControllers with now := 1 } made = .ok made' ∧
        made'.map timelessRoute = made.map timelessRoute ∧
        httpRouteStatusUpdates made made' = []) ∧
      ∀ hr ∈ made, ∀ e ∈ hr.parents, e.controllerName = gatewayControllerName →
        e.parentRef ∈ hr.parentRefs := by
  obtain ⟨made, hmade⟩ : ∃ made, setHTTPRouteStatuses twoControllers [staleRoute] = .ok made :=
    ⟨_, rfl⟩
  exact ⟨made, hmade, setHTTPRouteStatuses_idempotent hmade 1⟩

theorem setRouteStatuses_core (api : RouteAPI) (listing : Listing) :
    setRouteStatuses { api.core with now := api.now } listing = setRouteStatuses api listing := by
  have hset (hr : HTTPRoute) : parentIsMatchingListenerSet { api.core with now := api.now } hr =
      parentIsMatchingListenerSet api hr := by
    funext parent
    simp only [parentIsMatchingListenerSet, RouteAPI.core]
    cases api.getListenerSet (parentKey (.http hr) parent) <;> rfl
  have hwrites (hr : HTTPRoute) : runCommonRouteChecks { api.core with now := api.now } hr =
      runCommonRouteChecks api hr := by
    funext parent
    rw [runCommonRouteChecks, runCommonRouteChecks, hset]
    rfl
  simp only [setRouteStatuses, setHTTPRouteStatuses, setHTTPRouteStatus, httpRouteWrites, hwrites]
  rfl

theorem setRouteStatuses_again {api api' : RouteAPI} {made : Listing}
    (h : setRouteStatuses api listing = .ok made) (hapi : api'.core = api.core)
    (hcore : listing'.core = made.core) :
    ∃ made', setRouteStatuses api' listing' = .ok made' ∧ made'.core = made.core := by
  rw [← setRouteStatuses_core] at h
  rw [← setRouteStatuses_core api', hapi]
  obtain ⟨routes, hroutes, rfl⟩ := bind_pure_eq_ok.1 h
  simp only [Listing.core, Listing.mk.injEq] at hcore
  obtain ⟨routes', hroutes', hagain⟩ := setHTTPRouteStatuses_again hroutes hcore.1 api'.now
  refine ⟨_, bind_eq_ok.2 ⟨routes', hroutes', rfl⟩, ?_⟩
  simp only [Listing.core, Listing.mk.injEq]
  exact ⟨hagain, hcore.2⟩

end

end Reconcile
