import Dolphin.Go.Upsert
import Dolphin.Reconcile.Routes

/-!
# The status of listeners

The conditions that `Reconcile` keeps in the status of the objects it looks at, and how
it validates a listener.

* `merge` puts conditions in a list of conditions, at most one of each type. Merging
  leaves the list as it was, up to the times of transition, exactly when the conditions
  have been recorded before (`merge_merge_unchanged_iff`).
* `validateListener` makes the conditions of a listener. Its checks of the
  certificateRefs are relative to the owner of the listener (`validateCertificateRef`).
-/

namespace Reconcile

open Gatewayv1 Go Ingestion List

/-- The name of this controller, in GatewayClasses and in the statuses that it writes. -/
def gatewayControllerName : String := "io.dolphin/gateway-controller"

/-! ## Conditions -/

def conditionChanged (a b : Condition) : Bool :=
  a.status != b.status || a.reason != b.reason || a.message != b.message ||
    a.observedGeneration != b.observedGeneration

/-- Update the first condition of the type of `update`, if it changed. -/
def updateFirst : List Condition → Condition → List Condition
  | [], _ => []
  | cond :: conds, update =>
    if cond.type = update.type then
      (if conditionChanged cond update then
        { cond with
          status := update.status
          reason := update.reason
          message := update.message
          observedGeneration := update.observedGeneration
          lastTransitionTime := update.lastTransitionTime }
      else cond) :: conds
    else cond :: updateFirst conds update

/-- Combine conditions: those of a type that exists are updated, the others added. -/
def merge (existingConditions updates : List Condition) : List Condition :=
  updates.foldl updateFirst existingConditions ++
    updates.filter fun update => !existingConditions.any (·.type == update.type)

def isConditionPresent (conds : List Condition) (condType : String) : Bool :=
  conds.any (·.type == condType)

/-- A condition without the time of its transition, which comparisons ignore. -/
def timeless (cond : Condition) : Condition :=
  { cond with lastTransitionTime := 0 }

/-- The first condition of the type of `update` says the same as `update`. -/
def Recorded (conds : List Condition) (update : Condition) : Prop :=
  ∃ cond, conds.find? (·.type == update.type) = some cond ∧ conditionChanged cond update = false

/-- `update` in place of `cond`, whose time it keeps if nothing else changes. -/
def stamped (update cond : Condition) : Condition :=
  { update with
    lastTransitionTime :=
      if conditionChanged cond update then update.lastTransitionTime else cond.lastTransitionTime }

variable {conds us : List Condition} {u cond : Condition}

theorem conditionChanged_stamped : conditionChanged (stamped u cond) u = false := by
  simp [conditionChanged, stamped]

theorem stamped_of_unchanged (htype : cond.type = u.type) (h : conditionChanged cond u = false) :
    stamped u cond = cond := by
  simp only [conditionChanged, Bool.or_eq_false_iff, bne_eq_false_iff_eq] at h
  simp [stamped, conditionChanged, ← htype, ← h]

theorem updateFirst_cons : updateFirst (cond :: conds) u =
    if cond.type = u.type then stamped u cond :: conds else cond :: updateFirst conds u := by
  rw [updateFirst]
  split_ifs with htype hchanged
  · rw [stamped, if_pos hchanged, htype]
  · rw [stamped_of_unchanged htype (Bool.not_eq_true _ ▸ hchanged)]
  · rfl

theorem merge_eq_upsert (conds : List Condition) (u : Condition) :
    merge conds [u] = upsert (·.type == u.type) u (stamped u) conds := by
  rw [merge, foldl_cons, foldl_nil]
  induction conds with
  | nil => simp [upsert, updateFirst, stamped]
  | cons cond conds ih =>
    rw [updateFirst_cons, upsert, ← ih]
    by_cases htype : cond.type = u.type <;> simp [htype, filter_cons]

theorem find_merge_of_ne {t : String} (ht : u.type ≠ t) :
    (merge conds [u]).find? (·.type == t) = conds.find? (·.type == t) := by
  rw [merge_eq_upsert]
  refine find?_upsert_of_not (fun a ha => ?_) (beq_eq_false_iff_ne.2 ht)
  rw [beq_iff_eq] at ha
  exact ⟨beq_eq_false_iff_ne.2 (ha ▸ ht), beq_eq_false_iff_ne.2 ht⟩

theorem mem_of_mem_merge (ht : cond.type ≠ u.type) (h : cond ∈ merge conds [u]) : cond ∈ conds := by
  rw [merge_eq_upsert] at h
  refine (mem_of_mem_upsert h).resolve_right ?_
  rintro ⟨a, rfl⟩
  exact ht rfl

theorem recorded_merge (conds : List Condition) (u : Condition) : Recorded (merge conds [u]) u := by
  rw [merge_eq_upsert]
  exact ⟨_, find?_upsert (fun _ _ => beq_self_eq_true u.type) (beq_self_eq_true u.type),
    conditionChanged_stamped⟩

theorem timeless_merge (conds : List Condition) (u : Condition) :
    (merge conds [u]).map timeless = record (·.type) (timeless u) (conds.map timeless) := by
  rw [merge_eq_upsert]
  exact map_upsert (fun _ => rfl) fun _ => rfl

theorem nodup_types_merge (u : Condition) (h : (conds.map (·.type)).Nodup) :
    ((merge conds [u]).map (·.type)).Nodup := by
  have htypes : (merge conds [u]).map (·.type) = ((merge conds [u]).map timeless).map (·.type) := by
    rw [map_map]
    rfl
  have hconds : ((conds.map timeless).map (·.type)).Nodup := by rwa [map_map]
  rw [htypes, timeless_merge]
  exact nodup_key_record hconds

theorem timeless_foldl_merge (us conds : List Condition) :
    (us.foldl (fun conds u => merge conds [u]) conds).map timeless =
      (us.map timeless).foldl (fun conds u => record (·.type) u conds) (conds.map timeless) := by
  induction us generalizing conds with
  | nil => rfl
  | cons u us ih => rw [foldl_cons, ih, timeless_merge, map_cons, foldl_cons]

theorem recorded_iff : Recorded conds u ↔
      (conds.map timeless).find? (·.type == (timeless u).type) = some (timeless u) := by
  rw [find?_map, Option.map_eq_some_iff]
  refine exists_congr fun cond => and_congr_right fun hfind => ?_
  have htype : cond.type = u.type := beq_iff_eq.1
    (find?_some (p := fun cond : Condition => cond.type == u.type) hfind)
  simp [conditionChanged, timeless, htype, and_assoc]

/-- Merging conditions changes nothing but times exactly when the last one of each type is
    recorded. -/
theorem foldl_merge_unchanged_iff :
    (us.foldl (fun conds u => merge conds [u]) conds).map timeless = conds.map timeless ↔
      ∀ u, us.reverse.find? (·.type == u.type) = some u → Recorded conds u := by
  have hlast (type : String) : (us.map timeless).reverse.find? (·.type == type) =
      (us.reverse.find? (·.type == type)).map timeless := by
    rw [← map_reverse, find?_map]
    rfl
  rw [timeless_foldl_merge, foldl_record_eq_iff]
  constructor
  · intro h u hu
    rw [recorded_iff]
    refine h (timeless u) ?_
    rw [hlast]
    exact congrArg (Option.map timeless) hu
  · intro h v hv
    rw [hlast, Option.map_eq_some_iff] at hv
    obtain ⟨u, hu, rfl⟩ := hv
    exact recorded_iff.1 (h u hu)

theorem merge_merge_unchanged_iff (conds : List Condition) {v : Condition} (hne : u.type ≠ v.type) :
    (merge (merge conds [u]) [v]).map timeless = conds.map timeless ↔
      Recorded conds u ∧ Recorded conds v := by
  refine (@foldl_merge_unchanged_iff conds [u, v]).trans ⟨fun h => ⟨h u ?_, h v ?_⟩, ?_⟩
  · simp [hne.symm]
  · simp
  · rintro ⟨hu, hv⟩ w hw
    rcases mem_cons.1 (mem_of_find?_eq_some hw) with rfl | hw
    · exact hv
    · exact mem_singleton.1 hw ▸ hu

/-! ### Merging several conditions -/

/-- The helper of the checks of routes and policies, which is written as `merge` is. -/
def mergeConditions (existingConditions updates : List Condition) : List Condition :=
  merge existingConditions updates

/-- A condition after the update of its type. -/
def refreshed (us : List Condition) (cond : Condition) : Condition :=
  ((us.find? (·.type == cond.type)).map (stamped · cond)).getD cond

/-- Merging is a well-behaved update of a list of conditions. -/
structure MergeLaw (merge : List Condition → List Condition → List Condition)
    (conds us : List Condition) : Prop where
  distinct : ((merge conds us).map (·.type)).Nodup
  recorded : ∀ u ∈ us, Recorded (merge conds us) u
  /-- Existing conditions stay where they are, and updates of other types follow. -/
  inPlace : merge conds us =
    conds.map (refreshed us) ++ us.filter fun u => !conds.any (·.type == u.type)
  again : merge (merge conds us) us = merge conds us

theorem refreshed_of_ne (h : ∀ u ∈ us, u.type ≠ cond.type) : refreshed us cond = cond := by
  rw [refreshed, find?_eq_none.2 fun u hu => by simpa using h u hu]
  rfl

theorem refreshed_cons_of_eq (h : u.type = cond.type) :
    refreshed (u :: us) cond = stamped u cond := by
  rw [refreshed, find?_cons_of_pos (by simpa using h)]
  rfl

theorem refreshed_cons_of_ne (h : u.type ≠ cond.type) :
    refreshed (u :: us) cond = refreshed us cond := by
  rw [refreshed, find?_cons_of_neg (by simpa using h), refreshed]

theorem type_refreshed (us : List Condition) (cond : Condition) :
    (refreshed us cond).type = cond.type := by
  induction us with
  | nil => rfl
  | cons u us ih =>
    by_cases h : u.type = cond.type
    · rw [refreshed_cons_of_eq h, ← h, stamped]
    · rw [refreshed_cons_of_ne h, ih]

theorem map_type_map_refreshed (us conds : List Condition) :
    (conds.map (refreshed us)).map (·.type) = conds.map (·.type) := by
  rw [map_map]
  exact map_congr_left fun cond _ => type_refreshed us cond

section

variable (hconds : (conds.map (·.type)).Nodup)

include hconds

theorem updateFirst_eq_map : updateFirst conds u = conds.map (refreshed [u]) := by
  induction conds with
  | nil => rfl
  | cons cond conds ih =>
    obtain ⟨hnew, hconds⟩ := nodup_cons.1 hconds
    rw [updateFirst_cons, map_cons]
    by_cases htype : cond.type = u.type
    · have hrest : conds.map (refreshed [u]) = conds.map id := by
        refine map_congr_left fun c hc => refreshed_of_ne fun v hv hsame => hnew ?_
        exact mem_map.2 ⟨c, hc, (mem_singleton.1 hv ▸ hsame).symm.trans htype.symm⟩
      rw [if_pos htype, refreshed_cons_of_eq htype.symm, hrest, map_id]
    · rw [if_neg htype, refreshed_cons_of_ne (Ne.symm htype), ih hconds]
      rfl

variable (hus : (us.map (·.type)).Nodup)

include hus

theorem merge_eq_map : merge conds us =
    conds.map (refreshed us) ++ us.filter fun u => !conds.any (·.type == u.type) := by
  rw [merge]
  congr 1
  induction us generalizing conds with
  | nil => exact (map_id conds).symm
  | cons u us ih =>
    obtain ⟨hu, hus⟩ := nodup_cons.1 hus
    rw [foldl_cons, updateFirst_eq_map hconds, ih (map_type_map_refreshed [u] conds ▸ hconds) hus,
      map_map]
    refine map_congr_left fun cond _ => ?_
    rw [Function.comp_apply]
    by_cases h : u.type = cond.type
    · rw [refreshed_cons_of_eq h, refreshed_cons_of_eq h]
      exact refreshed_of_ne fun v hv hsame => hu (mem_map.2 ⟨v, hv, hsame⟩)
    · rw [refreshed_cons_of_ne h, refreshed_cons_of_ne h]
      rfl

theorem nodup_merge : ((merge conds us).map (·.type)).Nodup := by
  rw [merge_eq_map hconds hus, map_append, map_type_map_refreshed]
  refine nodup_append.2 ⟨hconds, hus.sublist (filter_sublist.map _), ?_⟩
  rintro _ hc _ hu rfl
  obtain ⟨u, hu, htype⟩ := mem_map.1 hu
  obtain ⟨c, hc, hsame⟩ := mem_map.1 hc
  have hnone := (mem_filter.1 hu).2
  rw [Bool.not_eq_true', any_eq_false] at hnone
  exact hnone c hc (beq_iff_eq.2 (hsame.trans htype.symm))

theorem recorded_merge_of_mem (hu : u ∈ us) : Recorded (merge conds us) u := by
  have hfind : (conds.map (refreshed us)).find? (·.type == u.type) =
      (conds.find? (·.type == u.type)).map (refreshed us) := by
    rw [find?_map]
    simp only [Function.comp_def, type_refreshed]
  rw [Recorded, merge_eq_map hconds hus, find?_append, hfind]
  cases h : conds.find? (·.type == u.type) with
  | some c =>
    have htype := beq_iff_eq.1 (find?_some (p := fun c : Condition => c.type == u.type) h)
    refine ⟨refreshed us c, rfl, ?_⟩
    rw [refreshed, htype, find?_key_of_nodup hus hu]
    exact conditionChanged_stamped
  | none =>
    refine ⟨u, ?_, by simp [conditionChanged]⟩
    exact find?_key_of_nodup (hus.sublist (filter_sublist.map _))
      (mem_filter.2 ⟨hu, by simpa using h⟩)

theorem mergeLaw_merge : MergeLaw merge conds us where
  distinct := nodup_merge hconds hus
  recorded _ := recorded_merge_of_mem hconds hus
  inPlace := merge_eq_map hconds hus
  again := by
    have hnodup := nodup_merge hconds hus
    have hrecorded u hu := recorded_merge_of_mem (u := u) hconds hus hu
    rw [merge_eq_map hnodup hus, filter_eq_nil_iff.2 ?_, append_nil]
    · refine (map_congr_left fun cond hcond => ?_).trans (map_id _)
      rw [refreshed]
      cases hfind : us.find? (·.type == cond.type) with
      | none => rfl
      | some u =>
        have htype := beq_iff_eq.1 (find?_some (p := fun u : Condition => u.type == cond.type) hfind)
        obtain ⟨c, hc, hsame⟩ := hrecorded u (mem_of_find?_eq_some hfind)
        rw [htype, find?_key_of_nodup hnodup hcond, Option.some_inj] at hc
        exact stamped_of_unchanged htype.symm (hc ▸ hsame)
    · intro u hu
      obtain ⟨c, hc, _⟩ := hrecorded u hu
      have htype := find?_some (p := fun c : Condition => c.type == u.type) hc
      rw [any_eq_true.2 ⟨c, mem_of_find?_eq_some hc, htype⟩]
      exact Bool.false_ne_true

theorem mergeLaw : MergeLaw merge conds us ∧ MergeLaw mergeConditions conds us :=
  ⟨mergeLaw_merge hconds hus, mergeLaw_merge hconds hus⟩

end

/-- One condition of three is updated, one is added and one stays. -/
theorem mergeLaw_programmed : let conds : List Condition :=
      [⟨"Accepted", .true, "Accepted", "", 1, 5⟩, ⟨"Programmed", .false, "Pending", "", 1, 5⟩]
    let us : List Condition :=
      [⟨"Programmed", .true, "Programmed", "", 1, 7⟩, ⟨"Ready", .true, "Ready", "", 1, 7⟩]
    MergeLaw merge conds us ∧ MergeLaw mergeConditions conds us :=
  mergeLaw (by decide) (by decide)

/-! ## Validation -/

def groupDerefOr (group : Option String) (defaultGroup : String) : String :=
  match group with
  | some g => if g ≠ "" then g else defaultGroup
  | none => defaultGroup

/-- The kinds of route that a protocol supports, nil for a protocol that is not supported. -/
def getSupportedRouteKinds : ProtocolType → Option (List RouteGroupKind)
  | .http | .https => some [⟨some groupName, "HTTPRoute"⟩, ⟨some groupName, "GRPCRoute"⟩]
  | .tls => some [⟨some groupName, "TLSRoute"⟩]
  | .tcp => some [⟨some groupName, "TCPRoute"⟩]
  | .udp => some [⟨some groupName, "UDPRoute"⟩]
  | .other _ => none

/-- `listenerValidationParams`: the owner of the listener and what is known of the cluster.
    The check of a Secret by `validateTLSSecret` is an error text or `none`. -/
structure ListenerValidationParams where
  ownerNamespace : String
  ownerKind : String
  generation : Int
  grants : List ReferenceGrant
  validateTLSSecret : String → String → Option String
  now : Nat

/-- The parameters for the listeners of a ListenerSet, which is their owner. -/
def listenerSetParams (ls : ListenerSet) (grants : List ReferenceGrant)
    (validateTLSSecret : String → String → Option String) (now : Nat) :
    ListenerValidationParams where
  ownerNamespace := ls.ns
  ownerKind := ls.gvk.kind
  generation := ls.generation
  grants := grants
  validateTLSSecret := validateTLSSecret
  now := now

/-- `listenerValidationResult`. -/
structure ListenerValidationResult where
  isValid : Bool := true
  supportedKinds : Option (List RouteGroupKind) := none
  invalidReason : String := "Invalid"
  invalidMessages : List String := []
  conds : List Condition := []

/-- Why a certificateRef is not valid: the reason and message of the condition, and the
    message for the listener. -/
structure CertificateRefFailure where
  reason : String
  message : String
  invalidMessage : String

section

variable (params : ListenerValidationParams)

/-- Whether the owner of the listener may refer to the Secret. -/
def permitsCertificateRef (cert : SecretObjectReference) : Bool :=
  isSecretReferenceAllowed params.ownerNamespace cert (gatewayV1GVK params.ownerKind) params.grants

def validateCertificateRef (cert : SecretObjectReference) : Option CertificateRefFailure :=
  if !isSecret cert then
    some ⟨"InvalidCertificateRef", "Invalid CertificateRef",
      "Invalid CertificateRef, must be a Secret."⟩
  else if !permitsCertificateRef params cert then
    some ⟨"RefNotPermitted", "CertificateRef is not permitted",
      "Invalid CertificateRef, not permitted."⟩
  else
    (params.validateTLSSecret (namespaceDerefOr cert.ns params.ownerNamespace) cert.name).map
      fun err => ⟨"InvalidCertificateRef", "Invalid CertificateRef",
        "Invalid CertificateRef, " ++ err⟩

/-- The condition that the references of a listener are not resolved. -/
def unresolvedRefs (reason message : String) : Condition where
  type := "ResolvedRefs"
  status := .false
  reason := reason
  message := message
  observedGeneration := params.generation
  lastTransitionTime := params.now

/-- The check of the protocol and of `allowedRoutes.kinds`. -/
def validateKinds (l : Listener) : ListenerValidationResult :=
  let allSupported := getSupportedRouteKinds l.protocol
  let res : ListenerValidationResult :=
    if allSupported.isNone then
      { isValid := false
        invalidReason := "UnsupportedProtocol"
        invalidMessages := ["Unsupported Listener Protocol."] }
    else {}
  match (l.allowedRoutes.bind (·.kinds)).getD [] with
  | [] => { res with supportedKinds := allSupported }
  | kinds =>
    let supportedKinds := (allSupported.getD []).filter fun supported => kinds.any fun allowed =>
      supported.kind == allowed.kind && some (groupDerefOr allowed.group groupName) == supported.group
    let res := { res with supportedKinds := some supportedKinds }
    if supportedKinds.length = kinds.length then res
    else
      let res := { res with
        conds := merge res.conds
          [unresolvedRefs params "InvalidRouteKinds" "Unsupported Route Kinds in allowedRoutes.kinds"] }
      if supportedKinds.isEmpty then
        { res with
          isValid := false
          invalidMessages :=
            res.invalidMessages ++ ["None of the Allowed Route Kinds are supported."] }
      else res

/-- The check of the certificateRefs, which ends at the first that fails. -/
def validateCertificateRefs (tls : ListenerTLSConfig) (res : ListenerValidationResult) :
    ListenerValidationResult :=
  match tls.certificateRefs.findSome? (validateCertificateRef params) with
  | none => res
  | some failure =>
    { res with
      isValid := false
      invalidMessages := res.invalidMessages ++ [failure.invalidMessage]
      conds := merge res.conds [unresolvedRefs params failure.reason failure.message] }

def validateListener (l : Listener) : ListenerValidationResult :=
  let res := validateKinds params l
  match l.tls with
  | none => res
  | some tls =>
    let res := validateCertificateRefs params tls res
    if l.protocol = .tls ∧ tls.mode = some .terminate then
      { res with
        isValid := false
        invalidMessages :=
          res.invalidMessages ++ ["Using TLSRoute with TLS.mode Terminate is unsupported."]
        invalidReason := "UnsupportedValue"
        supportedKinds := some [] }
    else res

end

/-! ## Routes on a listener -/

section

variable (c : Cluster) (gw : Gateway) (listener : Listener)

/-- Whether some parentRef names the Gateway and, if given, the listener and its port. -/
def parentRefMatched (routeNamespace : String) (refs : List ParentReference) : Bool :=
  refs.any fun ref => ref.name == gw.name && gw.ns == namespaceDerefOr ref.ns routeNamespace &&
    sectionMatches listener ref && ref.port.all (· == listener.port)

/-- The HTTPRoutes that are counted as attached to a listener. -/
def filterHTTPRoutesByListener (routes : List HTTPRoute) : Result (List HTTPRoute) :=
  collect (fun route =>
    if isAttachable gw route.toCommonRoute then do
      let allowed ← isAllowed c gw route.ns "HTTPRoute" gw.listeners
      pure (if allowed && Model.computeHosts route.hostnames listener.hostname ≠ [] &&
        parentRefMatched gw listener route.ns route.parentRefs then [route] else [])
    else pure []) routes

def filterTLSRoutesByListener (routes : List TLSRoute) : Result (List TLSRoute) :=
  collect (fun route =>
    if isAttachable gw route.toCommonRoute then do
      let allowed ← isAllowed c gw route.ns "TLSRoute" gw.listeners
      pure (if allowed && Model.computeHosts route.hostnames listener.hostname ≠ [] &&
        parentRefMatched gw listener route.ns route.parentRefs then [route] else [])
    else pure []) routes

/-- For GRPCRoutes it is the listener itself that has to allow the route. -/
def filterGRPCRoutesByListener (namespaceLabels : NamespaceLabelIndex) (routes : List GRPCRoute) :
    List GRPCRoute :=
  routes.filter fun route => isAttachable gw route.toCommonRoute &&
    listenerisAllowed c gw listener route.ns "unknown" namespaceLabels &&
    Model.computeHosts route.hostnames listener.hostname ≠ [] &&
    parentRefMatched gw listener route.ns route.parentRefs

section

variable (attached : List ListenerSet) (namespaceLabels : NamespaceLabelIndex)

/-- The test of the TCPRoutes and UDPRoutes that are counted as attached to a listener. -/
def l4RouteOnListener (kind : String) (route : CommonRoute) : Bool :=
  isParentAttachable gw route attached &&
    listenerisAllowed c gw listener route.ns kind namespaceLabels &&
    parentRefMatched gw listener route.ns route.parentRefs

def filterTCPRoutesByListener (routes : List TCPRoute) : List TCPRoute :=
  routes.filter fun route =>
    l4RouteOnListener c gw listener attached namespaceLabels "TCPRoute" route.toCommonRoute

def filterUDPRoutesByListener (routes : List UDPRoute) : List UDPRoute :=
  routes.filter fun route =>
    l4RouteOnListener c gw listener attached namespaceLabels "UDPRoute" route.toCommonRoute

end

end

section

variable {c : Cluster} {gw : Gateway} {listener : Listener}

theorem filterHTTPRoutesByListener_eq (routes : List HTTPRoute) :
    filterHTTPRoutesByListener c gw listener routes =
      collect (keepIf (fun route => isAttachable gw route.toCommonRoute)
        (fun route => isAllowed c gw route.ns "HTTPRoute" gw.listeners)
        fun route => Model.computeHosts route.hostnames listener.hostname ≠ [] &&
          parentRefMatched gw listener route.ns route.parentRefs) routes := by
  simp only [filterHTTPRoutesByListener, Bool.and_assoc]
  rfl

theorem filterTLSRoutesByListener_eq (routes : List TLSRoute) :
    filterTLSRoutesByListener c gw listener routes =
      collect (keepIf (fun route => isAttachable gw route.toCommonRoute)
        (fun route => isAllowed c gw route.ns "TLSRoute" gw.listeners)
        fun route => Model.computeHosts route.hostnames listener.hostname ≠ [] &&
          parentRefMatched gw listener route.ns route.parentRefs) routes := by
  simp only [filterTLSRoutesByListener, Bool.and_assoc]
  rfl

end

end Reconcile
