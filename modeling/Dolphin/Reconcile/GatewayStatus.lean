import Dolphin.Reconcile.ListenerSets
import Dolphin.Reconcile.RouteStatus

/-!
# The statuses of the listeners of a Gateway

`setListenerStatus` makes the status of each listener of the Gateway: the kinds of route that it
supports, its conditions, and the number of routes that are attached to it. They are recorded by the
name of the listener among those that the Gateway has, and statuses of listeners that it no
longer has are dropped. What is found by the name of a listener is the status that was made for it
(`find?_setListenerStatus`), and the list has one status for each listener, those that were there
before first (`mirrorsSpec_setListenerStatus`).
-/

namespace Reconcile

open Gatewayv1 Go Ingestion List

structure ListenerStatus where
  name : String
  supportedKinds : List RouteGroupKind := []
  attachedRoutes : Nat := 0
  conditions : List Condition := []
  deriving DecidableEq, Repr

/-- The status of a listener without the times of transition. -/
def timelessListener (listener : ListenerStatus) : ListenerStatus :=
  { listener with conditions := listener.conditions.map timeless }

/-- The one kind of route that the status of a Gateway knows for a protocol. -/
def getSupportedGroupKind : ProtocolType → RouteGroupKind
  | .http | .https => ⟨some groupName, "HTTPRoute"⟩
  | .tls => ⟨some groupName, "TLSRoute"⟩
  | .tcp => ⟨some groupName, "TCPRoute"⟩
  | .udp => ⟨some groupName, "UDPRoute"⟩
  | .other _ => ⟨some "Unknown", "unkown"⟩

/-- What the statuses of listeners depend on besides the routes. -/
structure ListenerStatusParams where
  grants : List ReferenceGrant := []
  validateTLSSecret : String → String → Option String := fun _ _ => none
  now : Nat := 0

variable {c : Cluster} {gw : Gateway} {params : ListenerStatusParams} {listing : Listing}
  {l : Listener}

section

variable (c : Cluster) (gw : Gateway) (params : ListenerStatusParams)

/-- The parameters for the listeners of a Gateway, which is their owner. -/
def gatewayParams : ListenerValidationParams where
  ownerNamespace := gw.ns
  ownerKind := "Gateway"
  generation := gw.generation
  grants := params.grants
  validateTLSSecret := params.validateTLSSecret
  now := params.now

/-- Whether the kind is the one that the protocol of the listener supports. -/
def supportsKind (l : Listener) (k : RouteGroupKind) : Bool :=
  some (groupDerefOr k.group groupName) == (getSupportedGroupKind l.protocol).group &&
    k.kind == (getSupportedGroupKind l.protocol).kind

def supportedKinds (l : Listener) : List RouteGroupKind :=
  match (l.allowedRoutes.bind (·.kinds)).getD [] with
  | [] => [getSupportedGroupKind l.protocol]
  | kinds => kinds.filter (supportsKind l)

/-- The conditions of a listener. Those that are not made by a function of their own have no
    observed generation. -/
def listenerConditions (l : Listener) : List Condition :=
  let invalidRouteKinds :=
    ((l.allowedRoutes.bind (·.kinds)).getD []).any fun k => !supportsKind l k
  let conds : List Condition :=
    if invalidRouteKinds then
      [⟨"ResolvedRefs", .true, "InvalidRouteKinds", "Invalid Route Kinds", gw.generation, params.now⟩]
    else
      [⟨"Programmed", .true, "Programmed", "Listener Programmed", gw.generation, params.now⟩,
        ⟨"Accepted", .true, "Accepted", "Listener Accepted", gw.generation, params.now⟩,
        ⟨"ResolvedRefs", .true, "ResolvedRefs", "Resolved Refs", 0, params.now⟩]
  let failure := (l.tls.map (·.certificateRefs)).getD [] |>.findSome?
    (validateCertificateRef (gatewayParams gw params))
  let conds := match failure with
    | some failure =>
      merge conds [⟨"ResolvedRefs", .false, failure.reason, failure.message, 0, params.now⟩]
    | none => conds
  if invalidRouteKinds || failure.isSome then
    merge conds [⟨"Programmed", .false, "Invalid", "Invalid CertificateRef", 0, params.now⟩]
  else conds

/-- The number of routes that are counted as attached to a listener of the Gateway. -/
def attachedRoutes (listing : Listing) (l : Listener) : Result Nat := do
  let http ← filterHTTPRoutesByListener c gw l listing.httpRoutes
  let tls ← filterTLSRoutesByListener c gw l listing.tlsRoutes
  let labels := namespaceLabels c gw
  let grpc := filterGRPCRoutesByListener c gw l labels listing.grpcRoutes
  let tcp := filterTCPRoutesByListener c gw l [] labels listing.tcpRoutes
  let udp := filterUDPRoutesByListener c gw l [] labels listing.udpRoutes
  pure (http.length + tls.length + grpc.length + tcp.length + udp.length)

def listenerStatus (listing : Listing) (l : Listener) : Result ListenerStatus := do
  let attachedRoutes ← attachedRoutes c gw listing l
  pure
    { name := l.name
      supportedKinds := supportedKinds l
      conditions := listenerConditions gw params l
      attachedRoutes := attachedRoutes }

/-- The statuses of the listeners, made from those before. -/
def setListenerStatus (listing : Listing) (listeners : List ListenerStatus) :
    Result (List ListenerStatus) := do
  let statuses ← gw.listeners.mapM (listenerStatus c gw params listing)
  let listeners := statuses.foldl (fun listeners status => record (·.name) status listeners)
    listeners
  -- only those of listeners that the Gateway has
  pure (listeners.filter fun status => gw.listeners.any (·.name == status.name))

end

/-! ## The statuses by name -/

theorem name_of_listenerStatus {status : ListenerStatus}
    (h : listenerStatus c gw params listing l = .ok status) :
    status.name = l.name := by
  obtain ⟨_, _, h⟩ := bind_pure_eq_ok.1 h
  rw [← h]

theorem names_of_mapM {ls : List Listener} {made : List ListenerStatus}
    (h : ls.mapM (listenerStatus c gw params listing) = .ok made) :
    made.map (·.name) = ls.map (·.name) := by
  induction mapM_eq_ok.1 h with
  | nil => rfl
  | cons hstatus hrest ih =>
    rw [map_cons, map_cons, name_of_listenerStatus hstatus, ih (mapM_eq_ok.2 hrest)]

theorem find?_filter_name (hl : l ∈ gw.listeners) (statuses : List ListenerStatus) :
    (statuses.filter fun status => gw.listeners.any (·.name == status.name)).find?
      (·.name == l.name) = statuses.find? (·.name == l.name) := by
  rw [find?_filter]
  congr 1
  funext status
  by_cases heq : status.name = l.name
  · have hany : gw.listeners.any (·.name == status.name) = true :=
      any_eq_true.2 ⟨l, hl, by simp [heq]⟩
    rw [hany, heq]
    simp
  · simp [heq]

theorem find?_setListenerStatus {listeners statuses : List ListenerStatus}
    (hnames : (gw.listeners.map (·.name)).Nodup)
    (h : setListenerStatus c gw params listing listeners = .ok statuses) (hl : l ∈ gw.listeners) :
    ∃ status, listenerStatus c gw params listing l = .ok status ∧
      statuses.find? (·.name == l.name) = some status := by
  obtain ⟨made, hmade, rfl⟩ := bind_pure_eq_ok.1 h
  obtain ⟨status, hstatus⟩ := exists_mapM_eq_ok.1 ⟨made, hmade⟩ l hl
  refine ⟨status, hstatus, ?_⟩
  have hmem : status ∈ made.reverse := mem_reverse.2 ((mem_mapM hmade).2 ⟨l, hl, hstatus⟩)
  have hnodup : (made.reverse.map (·.name)).Nodup := by
    rwa [map_reverse, nodup_reverse, names_of_mapM hmade]
  have hfind := find?_key_of_nodup hnodup hmem
  rw [name_of_listenerStatus hstatus] at hfind
  rw [find?_filter_name hl, find?_foldl_record, hfind, Option.some_or]

/-! ## The statuses as a list -/

/-- The statuses after are one for each listener of the Gateway: those that were there before come
    first, in the order that they had, then the new ones in the order of the listeners. The
    conditions of each have different types. -/
structure MirrorsSpec (gw : Gateway) (before after : List ListenerStatus) : Prop where
  names : (after.map (·.name)).Perm (gw.listeners.map (·.name))
  order : after.map (·.name) = (before.map (·.name)).filter (· ∈ gw.listeners.map (·.name)) ++
      (gw.listeners.map (·.name)).filter (· ∉ before.map (·.name))
  types : ∀ status ∈ after, (status.conditions.map (·.type)).Nodup

section

variable {before after : List ListenerStatus}

theorem nodup_types_listenerConditions (l : Listener) :
    ((listenerConditions gw params l).map (·.type)).Nodup := by
  -- the conditions that the kinds of route give have different types, and the rest are merged
  unfold listenerConditions
  extract_lets invalidRouteKinds conds failure merged
  have hconds : (conds.map (·.type)).Nodup := by
    by_cases hinvalid : invalidRouteKinds = true
    · simp [conds, hinvalid]
    · simp [conds, hinvalid]
  have hmerged : (merged.map (·.type)).Nodup := by
    cases hfailure : failure with
    | none => simpa only [merged, hfailure] using hconds
    | some failure => simpa only [merged, hfailure] using nodup_types_merge _ hconds
  split_ifs
  · exact nodup_types_merge _ hmerged
  · exact hmerged

/-- The names of the statuses: the filter takes away those of listeners that are gone, and never
    one that was just made. -/
theorem names_setListenerStatus (hnames : (gw.listeners.map (·.name)).Nodup)
    (h : setListenerStatus c gw params listing before = .ok after) :
    after.map (·.name) = (before.map (·.name)).filter (· ∈ gw.listeners.map (·.name)) ++
        (gw.listeners.map (·.name)).filter (· ∉ before.map (·.name)) := by
  obtain ⟨made, hmade, rfl⟩ := bind_pure_eq_ok.1 h
  have hmap (statuses : List ListenerStatus) :
      (statuses.filter fun status => gw.listeners.any (·.name == status.name)).map (·.name) =
        (statuses.map (·.name)).filter (· ∈ gw.listeners.map (·.name)) := by
    rw [filter_map]
    congr 2
    funext status
    rw [Bool.eq_iff_iff]
    simp
  have hkept : ((gw.listeners.map (·.name)).filter (· ∉ before.map (·.name))).filter
      (· ∈ gw.listeners.map (·.name)) =
        (gw.listeners.map (·.name)).filter (· ∉ before.map (·.name)) :=
    filter_eq_self.2 fun name hname => by
      simpa using mem_map.1 (mem_of_mem_filter hname)
  have hmadeNames := names_of_mapM hmade
  rw [hmap, map_key_foldl_record (hmadeNames ▸ hnames), filter_append, hmadeNames, hkept]

section

variable (hnames : (gw.listeners.map (·.name)).Nodup) (hbefore : (before.map (·.name)).Nodup)
  (h : setListenerStatus c gw params listing before = .ok after)

include hnames hbefore h

theorem nodup_names_setListenerStatus : (after.map (·.name)).Nodup := by
  rw [names_setListenerStatus hnames h]
  refine nodup_append.2 ⟨hbefore.filter _, hnames.filter _, fun name hold name' hnew => ?_⟩
  rintro rfl
  exact (of_decide_eq_true (mem_filter.1 hnew).2) (mem_of_mem_filter hold)

/-- The statuses mirror the listeners of the Gateway. -/
theorem mirrorsSpec_setListenerStatus :
    MirrorsSpec gw before after := by
  have horder := names_setListenerStatus hnames h
  have hnodup := nodup_names_setListenerStatus hnames hbefore h
  have hmem (name : String) :
      name ∈ after.map (·.name) ↔ name ∈ gw.listeners.map (·.name) := by
    simp only [horder, mem_append, mem_filter, decide_eq_true_eq]
    tauto
  refine ⟨(perm_ext_iff_of_nodup hnodup hnames).2 hmem, horder, fun status hstatus => ?_⟩
  -- what is in the list is what is found by its name
  obtain ⟨l, hl, hname⟩ := mem_map.1 ((hmem status.name).1 (mem_map_of_mem hstatus))
  obtain ⟨made, hmade, hfind⟩ := find?_setListenerStatus hnames h hl
  have hself := find?_key_of_nodup hnodup hstatus
  rw [← hname, hfind] at hself
  obtain ⟨_, _, hmade⟩ := bind_pure_eq_ok.1 hmade
  rw [← Option.some.inj hself, ← hmade]
  exact nodup_types_listenerConditions l

end

/-- A Gateway with a listener that is new, one that had a status, and one that is gone. -/
theorem mirrorsSpec_sharedGateway : ∃ after,
    setListenerStatus bareCluster sharedGateway {} {} [{ name := "gone" }, { name := "private" }] =
        .ok after ∧
      MirrorsSpec sharedGateway [{ name := "gone" }, { name := "private" }] after := by
  have hset : setListenerStatus bareCluster sharedGateway {} {}
      [{ name := "gone" }, { name := "private" }] = .ok _ := rfl
  exact ⟨_, hset, mirrorsSpec_setListenerStatus (by decide) (by decide) hset⟩

end

end Reconcile
