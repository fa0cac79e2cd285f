import Dolphin.Reconcile.GatewayStatus
import Dolphin.Ingestion.Grants

/-!
# Kinds of routes

A listener may be one of a Gateway or one of a ListenerSet. Whether its list of route kinds is valid
should not depend on that: the kinds that are reported as supported should be the same, and both
should report `InvalidRouteKinds` exactly if the protocol does not support some kind in the list
(`KindsUniform`).

The code has two validations, which agree on little. For a Gateway (`supportedKinds`,
`listenerConditions`) there is one kind for each protocol, and the condition that reports invalid
kinds has the status `True`. For a ListenerSet (`validateListener`) a list is invalid if it is
longer than the list of the supported kinds that are in it. `kindsUniform_iff` says for which
listeners all is well.

Ingestion looks at neither. It makes an HTTP listener and a TLS listener of the model for
every listener whose protocol is HTTP, HTTPS or TLS, and gives the one all HTTPRoutes and
GRPCRoutes, the other all TLSRoutes. Only TCP and UDP listeners are told apart.
`kindFollows_iff` says which routes get where they should not.
-/

namespace Reconcile

open Gatewayv1 Go Ingestion List

attribute [ext] RouteGroupKind

/-- A kind with the default group. -/
def resolvedKind (k : RouteGroupKind) : RouteGroupKind :=
  ⟨some (groupDerefOr k.group groupName), k.kind⟩

def listedKinds (l : Listener) : List RouteGroupKind :=
  ((l.allowedRoutes.bind (·.kinds)).getD []).map resolvedKind

def protocolKinds (l : Listener) : List RouteGroupKind :=
  (getSupportedRouteKinds l.protocol).getD []

/-- The protocol does not support some kind in the list. -/
def ListsUnsupported (l : Listener) : Prop := ∃ kind ∈ listedKinds l, kind ∉ protocolKinds l

/-- The references are not resolved, because of route kinds. -/
def ReportsInvalidKinds (conds : List Condition) : Prop :=
  ∃ cond ∈ conds, cond.type = "ResolvedRefs" ∧ cond.status = .false ∧
    cond.reason = "InvalidRouteKinds"

/-- The listener without its certificates, which have a say in the same condition. -/
def withoutTLS (l : Listener) : Listener := { l with tls := none }

/-- The kinds that are supported are the same for a Gateway and for a ListenerSet. -/
def SameKinds (lsParams : ListenerValidationParams) (l : Listener) : Prop :=
  ∀ kind, kind ∈ (supportedKinds l).map resolvedKind ↔
    kind ∈ ((validateListener lsParams l).supportedKinds.getD []).map resolvedKind

/-- The validation of a listener for a Gateway and for a ListenerSet. -/
structure KindsUniform (gw : Gateway) (gwParams : ListenerStatusParams)
    (lsParams : ListenerValidationParams) (l : Listener) : Prop where
  supported : SameKinds lsParams l
  gateway_iff : ReportsInvalidKinds (listenerConditions gw gwParams (withoutTLS l)) ↔
    ListsUnsupported l
  listenerSet_iff : ReportsInvalidKinds (validateListener lsParams (withoutTLS l)).conds ↔
    ListsUnsupported l

/-- A TLS listener that terminates, for which a ListenerSet supports no routes. -/
def Terminates (l : Listener) : Prop := l.protocol = .tls ∧ l.tls.bind (·.mode) = some .terminate

/-- The supported kinds that are in the list. -/
def supportedListed (l : Listener) : List RouteGroupKind :=
  (protocolKinds l).filter (· ∈ listedKinds l)

/-- The kind is one that the list does not exclude. -/
def Considered (l : Listener) (kind : RouteGroupKind) : Prop :=
  listedKinds l = [] ∨ kind ∈ listedKinds l

section

variable {gw : Gateway} {gwParams : ListenerStatusParams} {lsParams : ListenerValidationParams}
  {l : Listener} {kind : RouteGroupKind}

theorem nodup_protocolKinds : (protocolKinds l).Nodup := by
  unfold protocolKinds
  cases l.protocol <;> simp [getSupportedRouteKinds]

theorem resolvedKind_of_mem (h : kind ∈ protocolKinds l) : resolvedKind kind = kind := by
  have hgroup : kind.group = some groupName := by
    revert h
    unfold protocolKinds
    cases l.protocol <;> simp +contextual [getSupportedRouteKinds, or_imp]
  have hderef : groupDerefOr (some groupName) groupName = groupName := by decide
  rw [resolvedKind, hgroup, hderef, ← hgroup]

theorem mem_supportedListed :
    kind ∈ supportedListed l ↔ kind ∈ protocolKinds l ∧ kind ∈ listedKinds l := by
  rw [supportedListed, mem_filter, decide_eq_true_eq]

theorem eq_singleton_of_nodup {kinds : List RouteGroupKind} (hnodup : kinds.Nodup)
    (h : ∀ k, k = kind ↔ k ∈ kinds) : kinds = [kind] :=
  perm_singleton.1 ((perm_ext_iff_of_nodup hnodup (nodup_singleton kind)).2 fun k => by
    rw [← h, mem_singleton])

theorem supportedListed_eq_singleton (hkind : kind ∈ protocolKinds l) (hlisted : kind ∈ listedKinds l)
    (hall : ∀ k ∈ listedKinds l, k = kind) : supportedListed l = [kind] := by
  refine eq_singleton_of_nodup (nodup_protocolKinds.filter _) fun k => ?_
  rw [mem_supportedListed]
  constructor
  · rintro rfl
    exact ⟨hkind, hlisted⟩
  · exact fun hk => hall k hk.2

/-! ## What is reported -/

theorem not_reportsInvalidKinds_gateway :
    ¬ ReportsInvalidKinds (listenerConditions gw gwParams (withoutTLS l)) := by
  rintro ⟨cond, hcond, htype, hstatus, _⟩
  have hne : cond.type ≠ "Programmed" := by
    rw [htype]
    decide
  have htls : (withoutTLS l).tls = none := rfl
  simp only [listenerConditions, htls, Option.map_none, Option.getD_none, findSome?_nil,
    Option.isSome_none, Bool.or_false] at hcond
  by_cases hinvalid : (((withoutTLS l).allowedRoutes.bind (·.kinds)).getD []).any
      (fun k => !supportsKind (withoutTLS l) k) = true
  · -- the only condition besides `Programmed`, and its status is `True`
    simp only [hinvalid, if_true] at hcond
    rw [mem_singleton.1 (mem_of_mem_merge hne hcond)] at hstatus
    cases hstatus
  · simp only [hinvalid, Bool.false_eq_true, if_false, mem_cons, not_mem_nil, or_false] at hcond
    rcases hcond with rfl | rfl | rfl <;> cases hstatus

/-- For a ListenerSet, the lengths of lists are compared. -/
theorem validateKinds_spec : (validateKinds lsParams l).supportedKinds.getD [] =
      (if listedKinds l = [] then protocolKinds l else supportedListed l) ∧
    (validateKinds lsParams l).conds =
      if (supportedListed l).length = (listedKinds l).length then []
      else [unresolvedRefs lsParams "InvalidRouteKinds"
        "Unsupported Route Kinds in allowedRoutes.kinds"] := by
  have hfilter (kinds : List RouteGroupKind) : (protocolKinds l).filter (fun supported =>
      kinds.any fun allowed => supported.kind == allowed.kind &&
        some (groupDerefOr allowed.group groupName) == supported.group) =
      (protocolKinds l).filter (· ∈ kinds.map resolvedKind) := by
    refine filter_congr fun supported _ => Bool.eq_iff_iff.2 ?_
    simp only [any_eq_true, Bool.and_eq_true, beq_iff_eq, decide_eq_true_eq, mem_map, resolvedKind,
      RouteGroupKind.ext_iff]
    refine exists_congr fun allowed => and_congr_right fun _ => ?_
    rw [and_comm, eq_comm (a := supported.kind)]
  have hkinds : (getSupportedRouteKinds l.protocol).getD [] = protocolKinds l := rfl
  unfold validateKinds supportedListed listedKinds
  simp only [hkinds, hfilter]
  cases (l.allowedRoutes.bind (·.kinds)).getD [] with
  | nil =>
    refine ⟨by simp [hkinds], ?_⟩
    simp only [map_nil, not_mem_nil, decide_false, filter_false, length_nil, if_true]
    split_ifs <;> rfl
  | cons k ks =>
    simp only [List.isEmpty_iff, map_eq_nil_iff, length_map, reduceCtorEq, if_false]
    constructor
    · split_ifs <;> rfl
    · split_ifs <;> rfl

theorem reportsInvalidKinds_listenerSet_iff :
    ReportsInvalidKinds (validateListener lsParams (withoutTLS l)).conds ↔
      (supportedListed l).length ≠ (listedKinds l).length := by
  have hconds : (validateListener lsParams (withoutTLS l)).conds = _ :=
    (validateKinds_spec (l := withoutTLS l)).2
  have hsame : supportedListed (withoutTLS l) = supportedListed l ∧
      listedKinds (withoutTLS l) = listedKinds l := ⟨rfl, rfl⟩
  rw [hconds, hsame.1, hsame.2]
  split_ifs with hlength
  · refine iff_of_false ?_ (not_not.2 hlength)
    rintro ⟨cond, hcond, _⟩
    exact not_mem_nil hcond
  · exact iff_of_true ⟨_, mem_singleton_self _, rfl, rfl, rfl⟩ hlength

/-! ## What is supported -/

theorem mem_supportedKinds_iff : kind ∈ (supportedKinds l).map resolvedKind ↔
    kind = getSupportedGroupKind l.protocol ∧ Considered l kind := by
  have hresolved : resolvedKind (getSupportedGroupKind l.protocol) =
      getSupportedGroupKind l.protocol := by
    cases l.protocol <;> simp [resolvedKind, getSupportedGroupKind, groupDerefOr, groupName]
  have hsupports (k : RouteGroupKind) : supportsKind l k = true ↔
      resolvedKind k = getSupportedGroupKind l.protocol := by
    rw [supportsKind, Bool.and_eq_true, beq_iff_eq, beq_iff_eq, resolvedKind,
      RouteGroupKind.ext_iff]
  unfold supportedKinds Considered listedKinds
  cases (l.allowedRoutes.bind (·.kinds)).getD [] with
  | nil => simp [hresolved]
  | cons k ks =>
    simp only [mem_map, mem_filter, hsupports, map_eq_nil_iff, reduceCtorEq, false_or]
    constructor
    · rintro ⟨k', ⟨hmem, hkind⟩, rfl⟩
      exact ⟨hkind, k', hmem, rfl⟩
    · rintro ⟨hkind, k', hmem, rfl⟩
      exact ⟨k', ⟨hmem, hkind⟩, rfl⟩

/-- For a ListenerSet, it is any kind of the protocol, unless the listener terminates TLS. -/
theorem mem_supportedKinds_validateListener_iff :
    kind ∈ ((validateListener lsParams l).supportedKinds.getD []).map resolvedKind ↔
      ¬ Terminates l ∧ kind ∈ protocolKinds l ∧ Considered l kind := by
  have hkinds : (validateListener lsParams l).supportedKinds.getD [] =
      if l.protocol = .tls ∧ l.tls.bind (·.mode) = some .terminate then []
      else (validateKinds lsParams l).supportedKinds.getD [] := by
    unfold validateListener
    cases l.tls with
    | none => simp
    | some tls =>
      simp only [Option.bind_some, validateCertificateRefs]
      split_ifs
      · rfl
      · split <;> rfl
  have hmap {kinds : List RouteGroupKind} (h : ∀ k ∈ kinds, k ∈ protocolKinds l) :
      kinds.map resolvedKind = kinds :=
    (map_congr_left fun k hk => resolvedKind_of_mem (h k hk)).trans (map_id kinds)
  rw [hkinds, validateKinds_spec.1, Considered, Terminates]
  split_ifs with hterminates hlisted
  · simp [hterminates]
  · rw [hmap fun k hk => hk, and_iff_right hterminates, and_iff_left (.inl hlisted)]
  · rw [hmap fun k hk => (mem_supportedListed.1 hk).1, mem_supportedListed,
      and_iff_right hterminates, or_iff_right hlisted]

/-- As a Gateway does not report invalid kinds, there may be none, and a ListenerSet may not report
    any. -/
theorem kindsUniform_iff_unreported : KindsUniform gw gwParams lsParams l ↔
      ¬ ListsUnsupported l ∧ (supportedListed l).length = (listedKinds l).length ∧
        SameKinds lsParams l := by
  constructor
  · intro h
    have hnot : ¬ ListsUnsupported l := fun hunsupported =>
      not_reportsInvalidKinds_gateway (h.gateway_iff.2 hunsupported)
    refine ⟨hnot, ?_, h.supported⟩
    by_contra hne
    exact hnot (h.listenerSet_iff.1 (reportsInvalidKinds_listenerSet_iff.2 hne))
  · rintro ⟨hnot, hlength, hsupported⟩
    refine ⟨hsupported, iff_of_false not_reportsInvalidKinds_gateway hnot, ?_⟩
    exact iff_of_false (fun h => reportsInvalidKinds_listenerSet_iff.1 h hlength) hnot

/-- Both support the same exactly if, of the kinds that the list does not exclude, the protocol
    supports the one that the status of a Gateway knows. -/
theorem sameKinds_iff : SameKinds lsParams l ↔ ∀ kind, Considered l kind →
    (kind = getSupportedGroupKind l.protocol ↔ ¬ Terminates l ∧ kind ∈ protocolKinds l) := by
  simp only [SameKinds, mem_supportedKinds_iff, mem_supportedKinds_validateListener_iff,
    ← and_assoc, and_congr_left_iff]

end

/-- The two validations of a listener agree and are exact if and only if the listener lists no
    kinds and its protocol supports just the one that the status of a Gateway knows, or it lists
    that kind, once. And it may not be a TLS listener that terminates. -/
theorem kindsUniform_iff (gw : Gateway) (gwParams : ListenerStatusParams)
    (lsParams : ListenerValidationParams) (l : Listener) :
    KindsUniform gw gwParams lsParams l ↔ ¬ Terminates l ∧
      ((listedKinds l = [] ∧ protocolKinds l = [getSupportedGroupKind l.protocol]) ∨
        (listedKinds l = [getSupportedGroupKind l.protocol] ∧
          getSupportedGroupKind l.protocol ∈ protocolKinds l)) := by
  rw [kindsUniform_iff_unreported, sameKinds_iff]
  constructor
  · rintro ⟨hlisted, hlength, hagree⟩
    have hmem {kind : RouteGroupKind} (hkind : kind ∈ listedKinds l) : kind ∈ protocolKinds l :=
      not_not.1 fun hnot => hlisted ⟨kind, hkind, hnot⟩
    by_cases hnil : listedKinds l = []
    · have hterminates := ((hagree _ (.inl hnil)).1 rfl).1
      refine ⟨hterminates, .inl ⟨hnil, eq_singleton_of_nodup nodup_protocolKinds fun kind => ?_⟩⟩
      rw [hagree kind (.inl hnil), and_iff_right hterminates]
    · obtain ⟨kind, hkind⟩ := exists_mem_of_ne_nil _ hnil
      have hterminates : ¬ Terminates l := by
        intro hterminates
        -- the only kind that is supported is the one that the Gateway knows
        have hone := hmem hkind
        rw [protocolKinds, hterminates.1] at hone
        refine ((hagree kind (.inr hkind)).1 ?_).1 hterminates
        rw [hterminates.1]
        exact mem_singleton.1 hone
      have hall : ∀ kind ∈ listedKinds l, kind = getSupportedGroupKind l.protocol :=
        fun kind hkind => (hagree kind (.inr hkind)).2 ⟨hterminates, hmem hkind⟩
      obtain rfl := hall kind hkind
      rw [supportedListed_eq_singleton (hmem hkind) hkind hall] at hlength
      refine ⟨hterminates, .inr ⟨?_, hmem hkind⟩⟩
      rw [eq_replicate_of_mem hall, ← hlength]
      rfl
  · rintro ⟨hterminates, ⟨hnil, hkinds⟩ | ⟨hlisted, hmem⟩⟩
    · refine ⟨?_, ?_, fun kind _ => ?_⟩
      · simp [ListsUnsupported, hnil]
      · simp [supportedListed, hnil]
      · rw [hkinds, mem_singleton, and_iff_right hterminates]
    · refine ⟨?_, ?_, fun kind hkind => ?_⟩
      · simp [ListsUnsupported, hlisted, hmem]
      · rw [supportedListed_eq_singleton hmem (by simp [hlisted]) (by simp [hlisted]), hlisted]
      · have heq : kind = getSupportedGroupKind l.protocol := by
          simpa [Considered, hlisted] using hkind
        exact iff_of_true heq ⟨hterminates, heq ▸ hmem⟩

/-! ## Listeners for HTTP -/

/-- A listener for HTTP with a list of kinds. -/
def kindsListener (kinds : List String) : Listener where
  name := "web"
  port := 80
  protocol := .http
  allowedRoutes := some { kinds := some (kinds.map fun kind => ⟨some groupName, kind⟩) }

/-- The validations do not agree on the kinds of a listener that lists none. They agree that a kind
    is not supported, but a Gateway does not say so. And a ListenerSet rejects a kind that is listed
    twice. -/
theorem not_kindsUniform_web :
    ¬ KindsUniform sharedGateway {} (gatewayParams sharedGateway {}) (kindsListener []) ∧
      ¬ KindsUniform sharedGateway {} (gatewayParams sharedGateway {})
        (kindsListener ["TCPRoute"]) ∧
      ¬ KindsUniform sharedGateway {} (gatewayParams sharedGateway {})
        (kindsListener ["HTTPRoute", "HTTPRoute"]) := by
  refine ⟨fun h => ?_, fun h => ?_, fun h => ?_⟩
  · exact absurd ((h.supported ⟨some groupName, "GRPCRoute"⟩).2 (by decide)) (by decide)
  · obtain ⟨hlisted, _⟩ := kindsUniform_iff_unreported.1 h
    exact hlisted ⟨_, mem_singleton_self _, by decide⟩
  · obtain ⟨_, hlength, _⟩ := kindsUniform_iff_unreported.1 h
    exact absurd hlength (by decide)

end Reconcile

/-! ## Routes that get where they should not -/

namespace Reconcile

open Gatewayv1 Ingestion List

/-- The protocol of the listener supports the kind of the route. -/
def SupportsKind (l : Listener) (route : Route) : Prop :=
  ⟨some groupName, route.kind⟩ ∈ (getSupportedRouteKinds l.protocol).getD []

/-- The listener allows all kinds, or that of the route is among those it lists. -/
def AllowsKind (l : Listener) (route : Route) : Prop :=
  (l.allowedRoutes.bind (·.kinds)).getD [] = [] ∨ ∃ k ∈ (l.allowedRoutes.bind (·.kinds)).getD [],
      groupDerefOr k.group groupName = groupName ∧ k.kind = route.kind

/-- The route contributes to the listener only if the listener supports and allows its
    kind. -/
def KindFollows (input : Input) (m : Model) (l : Listener) (s : Model.FullyQualifiedResource)
    (route : Route) : Prop :=
  Contributes input m l s route → SupportsKind l route ∧ AllowsKind l route

/-- A listener that ingestion tells apart from the others it makes HTTP and TLS listeners of:
    for HTTPRoutes and GRPCRoutes one whose protocol is not TLS, for TLSRoutes one whose
    protocol is. -/
def OnOwnProtocol (l : Listener) : Route → Prop
  | .http _ | .grpc _ => l.protocol ≠ .tls
  | .tls _ => l.protocol = .tls
  | .tcp _ | .udp _ => True

theorem servesHTTP_iff {p : ProtocolType} :
    servesHTTP p = true ↔ p = .http ∨ p = .https ∨ p = .tls := by
  cases p <;> simp [servesHTTP]

theorem supportsKind_iff {l : Listener} {s : Model.FullyQualifiedResource} {route : Route}
    (h : Reaches l s route) : SupportsKind l route ↔ OnOwnProtocol l route := by
  rw [SupportsKind]
  cases route with
  | http r | grpc r | tls r =>
    rcases servesHTTP_iff.1 h.1 with hp | hp | hp <;>
      simp [hp, OnOwnProtocol, getSupportedRouteKinds, Route.kind]
  | tcp r | udp r => simp [OnOwnProtocol, h.1, getSupportedRouteKinds, Route.kind]

/-- A route follows the kinds of a listener exactly when, if it passes the tests of ingestion
    and has a rule, the listener is one of its own protocol and allows its kind. -/
theorem kindFollows_iff {input : Input} {m : Model} (hm : gatewayAPI input = .ok m) {l : Listener}
    {s : Model.FullyQualifiedResource} (hl : (l, s) ∈ input.sourced) {route : Route}
    (hr : input.Has route) :
    KindFollows input m l s route ↔
      (Reaches l s route → route.rules ≠ [] → OnOwnProtocol l route ∧ AllowsKind l route) := by
  rw [KindFollows, contributes_iff hm hl]
  constructor
  · intro h hreach hrules
    obtain ⟨hsupports, hallows⟩ := h ⟨hr, hreach, hrules⟩
    exact ⟨(supportsKind_iff hreach).1 hsupports, hallows⟩
  · intro h hcontributes
    obtain ⟨_, hreach, hrules⟩ := hcontributes
    obtain ⟨hown, hallows⟩ := h hreach hrules
    exact ⟨(supportsKind_iff hreach).2 hown, hallows⟩

/-- An HTTPRoute on a listener for HTTP that allows every kind. -/
theorem kindFollows_mirrorRoute :
    ∃ m, gatewayAPI (mirrorInput []) = .ok m ∧
      Contributes (mirrorInput []) m webListener webSource (.http mirrorRoute) ∧
      KindFollows (mirrorInput []) m webListener webSource (.http mirrorRoute) := by
  obtain ⟨m, hm⟩ := mirrorInput_run []
  refine ⟨m, hm, (contributes_iff hm (mirrorInput_sourced []) _).2 ?_, ?_⟩
  · exact ⟨mem_cons_self, mirrorRoute_reaches, cons_ne_nil _ _⟩
  · refine (kindFollows_iff hm (mirrorInput_sourced []) mem_cons_self).2 fun _ _ => ?_
    exact ⟨ProtocolType.noConfusion, .inl rfl⟩

/-- A listener that passes TLS through, and allows TLSRoutes only. -/
def sniListener : Listener where
  name := "sni"
  port := 8443
  protocol := .tls
  tls := some { mode := some .passthrough }
  allowedRoutes := some { kinds := some [⟨some groupName, "TLSRoute"⟩] }

def everywhereRoute : HTTPRoute where
  name := "everywhere"
  ns := "infra"
  parentRefs := [{ name := "gw" }]
  rules := [{}]

def sniInput : Input where
  gateway := { name := "gw", ns := "infra", listeners := [sniListener] }
  httpRoutes := [everywhereRoute]

/-- The HTTPRoute contributes to the listener for TLS, which allows TLSRoutes only. -/
theorem kind_not_followed :
    ∃ m, gatewayAPI sniInput = .ok m ∧
      ¬ KindFollows sniInput m sniListener (gatewaySource sniInput.gateway)
        (.http everywhereRoute) := by
  have hl : (sniListener, gatewaySource sniInput.gateway) ∈ sniInput.sourced := mem_cons_self
  obtain ⟨m, hm⟩ : ∃ m, gatewayAPI sniInput = .ok m := ⟨_, rfl⟩
  refine ⟨m, hm, fun h => ?_⟩
  have hcontributes := (contributes_iff hm hl (.http everywhereRoute)).2
    ⟨mem_cons_self, ⟨rfl, by decide, by decide⟩, cons_ne_nil _ _⟩
  have hsupports := (h hcontributes).1
  simp [SupportsKind, getSupportedRouteKinds, sniListener, Route.kind] at hsupports

end Reconcile
