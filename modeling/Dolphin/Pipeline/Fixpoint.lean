import Dolphin.Pipeline.GatewayRun
import Dolphin.Reconcile.StatusReads

/-!
# The next run of `Reconcile`

After a run without errors, the status of the Gateway should be the one that the run has computed, and
a run on the same cluster should not write it again (`ReachesFixpoint`). Between the runs, statuses
have changed, as the first run has written them, and the clock (`Rerun`).

The conditions, the addresses and the statuses of the listeners are computed as before
(`reconcile_again`). But the number of ListenerSets is set in the copy that was read and not in the one
that is written. It never changes in the status, and if it is not the right one already, the copies
differ in every run: `reachesFixpoint_iff`.
-/

namespace Pipeline

open Gatewayv1 Go Ingestion Reconcile Translation

/-- The number of ListenerSets that the Gateway allows and that have a valid listener. -/
def validListenerSets (v : ClusterView) (gw : Gateway) : Nat :=
  (v.attached gw).countP
    (hasValidListener (v.conflicted gw) v.listing.referenceGrants v.validateTLSSecret)

/-- What the next run sees if the cluster is the same but for what the first run has written. The
    orders of maps are free. -/
structure Rerun (v v' : ClusterView) : Prop where
  api : v'.api.core = v.api.core
  listing : ∀ listing, setRouteStatuses v.api v.listing = .ok listing →
    v'.listing.core = listing.core
  hasListenerSetSupport : v'.hasListenerSetSupport = v.hasListenerSetSupport
  listenerSets : v'.listenerSets.map noStatus = v.listenerSets.map noStatus
  validateTLSSecret : v'.validateTLSSecret = v.validateTLSSecret
  services : v'.services = v.services
  error : v'.error = v.error
  listenerSetGrantsFail : v'.listenerSetGrantsFail = v.listenerSetGrantsFail

/-- The statuses differ in no more than times and the number of ListenerSets. -/
structure Agree (status status' : GatewayStatus) : Prop where
  conditions : status.conditions.map timeless = status'.conditions.map timeless
  listeners : status.listeners.map timelessListener = status'.listeners.map timelessListener
  addresses : status.addresses = status'.addresses

/-- The status after the run is the one that was computed, with the number of ListenerSets, and the
    next run does not write it. -/
structure ReachesFixpoint (settings : Settings) (v : ClusterView) (gw : Gateway)
    (before : GatewayStatus) (o : Outcome) : Prop where
  computed : ∀ original modified, o.update = some (original, modified) →
    Agree (o.persisted before) modified ∧
      (o.persisted before).attachedListenerSets.getD 0 = validListenerSets v gw
  stable : ∀ v', Rerun v v' → ∃ o', reconcile settings v' gw (o.persisted before) = .ok o' ∧
    o'.failure = none ∧ o'.written = none

theorem timelessGatewayStatus_eq_iff {s s' : GatewayStatus} :
    timelessGatewayStatus s = timelessGatewayStatus s' ↔
      Agree s s' ∧ s.attachedListenerSets = s'.attachedListenerSets := by
  simp only [timelessGatewayStatus, GatewayStatus.mk.injEq]
  constructor
  · rintro ⟨haddresses, hconditions, hlisteners, hnumber⟩
    exact ⟨⟨hconditions, hlisteners, haddresses⟩, hnumber⟩
  · rintro ⟨hagree, hnumber⟩
    exact ⟨hagree.addresses, hagree.conditions, hagree.listeners, hnumber⟩

theorem updateStatus_eq_none {original modified : GatewayStatus} :
    updateStatus original modified = none ↔
      timelessGatewayStatus original = timelessGatewayStatus modified := by
  simp [updateStatus]

/-! ## A run without errors -/

/-- The status that a run computes. -/
def reconciled (gw : Gateway) (now : Nat) (listeners : List ListenerStatus)
    (addresses : List GatewayStatusAddress) (status : GatewayStatus) : GatewayStatus :=
  setGatewayProgrammed gw now true "reconciled successfully"
    { setGatewayAccepted gw now true "Gateway successfully scheduled"
        { status with listeners := listeners } with addresses := addresses }

/-- Conditions that have been set before are not changed by the next run. -/
theorem agree_reconciled_again {gw : Gateway} {now now' : Nat}
    {listeners listeners' : List ListenerStatus} {found : List GatewayStatusAddress}
    {before status : GatewayStatus} (h : Agree status (reconciled gw now listeners found before))
    (hlisteners : listeners'.map timelessListener = listeners.map timelessListener) :
    Agree status (reconciled gw now' listeners' found status) where
  conditions := by
    have hconditions (now : Nat) (listeners : List ListenerStatus) (status : GatewayStatus) :
        (reconciled gw now listeners found status).conditions.map timeless =
          [timeless (gatewayStatusAcceptedCondition gw 0 true "Gateway successfully scheduled"),
            timeless (gwStsProgrmCondition gw 0 true "reconciled successfully")].foldl
              (fun conds u => record (·.type) u conds) (status.conditions.map timeless) := by
      simp only [reconciled, setGatewayProgrammed, setGatewayAccepted, timeless_merge]
      rfl
    rw [hconditions, h.conditions, hconditions, foldl_record_foldl_record]
  listeners := h.listeners.trans hlisteners.symm
  addresses := h.addresses

section

variable {settings : Settings} {v v' : ClusterView} {gw : Gateway} {before status : GatewayStatus}
  {o : Outcome} {p p' : Prepared}

theorem calls_eq_ok {α : Type} {steps : List Step} {rest : Result (Except Failure α)} {a : α} :
    v.calls steps rest = .ok (.ok a) ↔ steps.findSome? v.failure = none ∧ rest = .ok (.ok a) := by
  rw [ClusterView.calls]
  cases steps.findSome? v.failure with
  | none => exact (and_iff_right rfl).symm
  | some f =>
    refine iff_of_false ?_ ?_
    · intro h
      cases pure_eq_ok.1 h
    · rintro ⟨hnone, _⟩
      cases hnone

theorem listing_of_prepare (h : prepare v gw = .ok (.ok p)) :
    setRouteStatuses v.api v.listing = .ok p.listing := by
  obtain ⟨_, h⟩ := calls_eq_ok.1 h
  obtain ⟨listing, hlisting, h⟩ := bind_eq_ok.1 h
  obtain ⟨_, h⟩ := calls_eq_ok.1 h
  obtain ⟨input, _, h⟩ := bind_eq_ok.1 h
  obtain ⟨model, _, h⟩ := bind_eq_ok.1 h
  obtain ⟨_, h⟩ := calls_eq_ok.1 h
  obtain rfl := Except.ok.inj (pure_eq_ok.1 h)
  exact hlisting

theorem finish_eq_ok : finish settings v gw status p = .ok o ∧ o.failure = none ↔
    v.failure .setListenerStatus = none ∧
    ∃ listeners count res found, listenerStatuses v gw status p = .ok listeners ∧
      countListenerSets v gw p = .ok count ∧
      settings.translator.translate settings.hash settings.slices v.orders settings.nodePort
        p.model = .ok (.ok res) ∧
      (ensureSteps res).findSome? v.failure = none ∧
      addresses settings v gw = .ok found ∧
      o = ⟨none, some ({ status with attachedListenerSets := count },
        reconciled gw v.api.now listeners found status)⟩ := by
  constructor
  · rintro ⟨h, hok⟩
    simp only [finish] at h
    split at h
    · rw [← pure_eq_ok.1 h] at hok
      cases hok
    · rename_i hfailure
      obtain ⟨listeners, hlisteners, h⟩ := bind_eq_ok.1 h
      obtain ⟨count, hcount, h⟩ := bind_eq_ok.1 h
      obtain ⟨resources, hresources, h⟩ := bind_eq_ok.1 h
      -- each failure would be that of the run
      cases resources with
      | error err =>
        rw [← pure_eq_ok.1 h] at hok
        cases hok
      | ok res =>
        dsimp only at h
        split at h
        · rw [← pure_eq_ok.1 h] at hok
          cases hok
        · rename_i hensure
          split at h
          · rw [← pure_eq_ok.1 h] at hok
            cases hok
          · rename_i found hfound
            exact ⟨hfailure, listeners, count, res, found, hlisteners, hcount, hresources, hensure,
              hfound, (pure_eq_ok.1 h).symm⟩
  · rintro ⟨hfailure, listeners, count, res, found, hlisteners, hcount, hres, hensure, hfound, rfl⟩
    refine ⟨?_, rfl⟩
    rw [finish, hfailure]
    refine bind_eq_ok.2 ⟨listeners, hlisteners, bind_eq_ok.2 ⟨count, hcount,
      bind_eq_ok.2 ⟨.ok res, hres, ?_⟩⟩⟩
    simp only [hensure, hfound]
    rfl

theorem reconcile_eq_ok (hgw : hasMatchingController v.api gw = true) :
    reconcile settings v gw status = .ok o ∧ o.failure = none ↔
      ∃ p, prepare v gw = .ok (.ok p) ∧ finish settings v gw status p = .ok o ∧
        o.failure = none := by
  rw [reconcile, if_pos hgw]
  constructor
  · rintro ⟨h, hok⟩
    obtain ⟨prepared, hprepared, h⟩ := bind_eq_ok.1 h
    cases prepared with
    | error f =>
      rw [← pure_eq_ok.1 h, failure_prepareError] at hok
      cases hok
    | ok p => exact ⟨p, hprepared, h, hok⟩
  · rintro ⟨p, hprepared, h, hok⟩
    exact ⟨bind_eq_ok.2 ⟨.ok p, hprepared, h⟩, hok⟩

theorem countListenerSets_eq_ok {count : Option Nat} (h : countListenerSets v gw p = .ok count) :
    count = if v.listenerSetGrantsFail = true ∨ validListenerSets v gw = 0 then none
      else some (validListenerSets v gw) := by
  rw [countListenerSets] at h
  cases hfail : v.listenerSetGrantsFail with
  | true =>
    rw [hfail, if_pos rfl] at h
    rw [← pure_eq_ok.1 h, if_pos (.inl rfl)]
  | false =>
    rw [hfail, if_neg Bool.false_ne_true] at h
    obtain ⟨n, hn, h⟩ := bind_eq_ok.1 h
    obtain ⟨_, rfl⟩ := count_setListenerSetStatuses.1 hn
    rw [← pure_eq_ok.1 h]
    change (if validListenerSets v gw > 0 then _ else _) = _
    by_cases hzero : validListenerSets v gw = 0
    · rw [if_neg (by omega), if_pos (.inr hzero)]
    · rw [if_pos (by omega), if_neg (by simp [hzero])]
      rfl

/-! ## The next run -/

namespace Rerun

theorem toCluster_eq (h : Rerun v v') : v'.api.toCluster = v.api.toCluster := by
  have hcluster : v'.api.core.toCluster = v.api.core.toCluster := by rw [h.api]
  exact hcluster

theorem hasMatchingController_eq (h : Rerun v v') (gw : Gateway) :
    hasMatchingController v'.api gw = hasMatchingController v.api gw := by
  have hclass : hasMatchingController v'.api.core gw = hasMatchingController v.api.core gw := by
    rw [h.api]
  exact hclass

theorem failure_eq (h : Rerun v v') : v'.failure = v.failure := by
  funext step
  rw [ClusterView.failure, ClusterView.failure, h.error]

theorem attached_noStatus (h : Rerun v v') (gw : Gateway) :
    (v'.attached gw).map noStatus = (v.attached gw).map noStatus := by
  have hattached (v : ClusterView) : (v.attached gw).map noStatus =
      (if v.hasListenerSetSupport then sortListenerSets (v.listenerSets.map noStatus)
        else []).filter (v.api.toCluster.isListenerSetAllowed gw) := by
    rw [ClusterView.attached, filterToAllowedListenerSets, listenerSetsForGateway]
    cases hsupport : v.hasListenerSetSupport with
    | true =>
      simp only [ClusterView.answers, hsupport, if_true, ← sortListenerSets_noStatus]
      rw [List.filter_map]
      rfl
    | false =>
      simp only [ClusterView.answers, hsupport]
      rfl
  rw [hattached, hattached, h.hasListenerSetSupport, h.listenerSets, h.toCluster_eq]

theorem conflicted_eq (h : Rerun v v') (gw : Gateway) : v'.conflicted gw = v.conflicted gw := by
  rw [ClusterView.conflicted, ClusterView.conflicted, h.toCluster_eq,
    mergeListeners_noStatus (h.attached_noStatus gw)]

theorem prepare_again (hrun : Rerun v v') (h : prepare v gw = .ok (.ok p)) :
    ∃ p', prepare v' gw = .ok (.ok p') ∧ p'.model = p.model ∧ p'.listing.core = p.listing.core := by
  obtain ⟨hlists, h⟩ := calls_eq_ok.1 h
  obtain ⟨listing, hlisting, h⟩ := bind_eq_ok.1 h
  obtain ⟨hstatuses, h⟩ := calls_eq_ok.1 h
  obtain ⟨input, hin, h⟩ := bind_eq_ok.1 h
  obtain ⟨model, hmodel, h⟩ := bind_eq_ok.1 h
  obtain ⟨hpolicies, h⟩ := calls_eq_ok.1 h
  obtain rfl := Except.ok.inj (pure_eq_ok.1 h)
  obtain ⟨listing', hlisting', hcore⟩ :=
    setRouteStatuses_again hlisting hrun.api (hrun.listing listing hlisting)
  obtain ⟨input', hin', hsame⟩ := gatewayAPI_again hin hcore
    (mergeListeners_noStatus (hrun.attached_noStatus gw))
  rw [← hrun.failure_eq] at hlists hstatuses hpolicies
  rw [← hrun.toCluster_eq] at hin'
  refine ⟨⟨listing', model⟩, calls_eq_ok.2 ⟨hlists, ?_⟩, rfl, hcore⟩
  refine bind_eq_ok.2 ⟨listing', hlisting', calls_eq_ok.2 ⟨hstatuses, ?_⟩⟩
  refine bind_eq_ok.2 ⟨input', hin', bind_eq_ok.2 ⟨model, hsame.trans hmodel, ?_⟩⟩
  exact calls_eq_ok.2 ⟨hpolicies, rfl⟩

theorem referenceGrants_eq (hrun : Rerun v v') (h : prepare v gw = .ok (.ok p)) :
    v'.listing.referenceGrants = v.listing.referenceGrants := by
  have hlisting := listing_of_prepare h
  have hcore := congrArg Listing.referenceGrants (hrun.listing _ hlisting)
  obtain ⟨routes, _, hmade⟩ := bind_pure_eq_ok.1 hlisting
  rw [← hmade] at hcore
  exact hcore

theorem countListenerSets_again (hrun : Rerun v v') (hprepare : prepare v gw = .ok (.ok p))
    (hcore : p'.listing.core = p.listing.core) {count : Option Nat}
    (h : countListenerSets v gw p = .ok count) : countListenerSets v' gw p' = .ok count := by
  rw [countListenerSets] at h ⊢
  rw [hrun.listenerSetGrantsFail]
  split_ifs at h ⊢
  · exact h
  · obtain ⟨n, hn, h⟩ := bind_eq_ok.1 h
    refine bind_eq_ok.2 ⟨n, ?_, h⟩
    have hlisting : (v'.answers p'.listing).listing.core = (v.answers p.listing).listing.core :=
      hcore
    rw [hrun.toCluster_eq, hrun.conflicted_eq, hrun.referenceGrants_eq hprepare]
    exact count_again hlisting hrun.validateTLSSecret (hrun.attached_noStatus gw) hn

theorem addresses_eq (hrun : Rerun v v') : addresses settings v' gw = addresses settings v gw := by
  rw [addresses, addresses, hrun.failure_eq, hrun.services]

end Rerun

/-- The status after a run agrees with the one that was computed, and its number of ListenerSets is
    the one before. -/
theorem persisted_agree (hgw : hasMatchingController v.api gw = true)
    (h : reconcile settings v gw before = .ok o) (hok : o.failure = none) :
    ∃ original modified, o.update = some (original, modified) ∧ original.attachedListenerSets =
        (if v.listenerSetGrantsFail = true ∨ validListenerSets v gw = 0 then none
          else some (validListenerSets v gw)) ∧
      Agree (o.persisted before) modified ∧
      (o.persisted before).attachedListenerSets = before.attachedListenerSets := by
  obtain ⟨p, _, hfinish⟩ := (reconcile_eq_ok hgw).1 ⟨h, hok⟩
  obtain ⟨_, listeners, count, res, found, _, hcount, _, _, _, rfl⟩ := finish_eq_ok.1 hfinish
  refine ⟨_, _, rfl, countListenerSets_eq_ok hcount, ?_⟩
  rw [Outcome.persisted, Outcome.written_of_update rfl, updateStatus]
  split_ifs with hsame
  · obtain ⟨hagree, _⟩ := timelessGatewayStatus_eq_iff.1 hsame
    exact ⟨⟨hagree.conditions, hagree.listeners, hagree.addresses⟩, rfl⟩
  · exact ⟨⟨rfl, rfl, rfl⟩, rfl⟩

/-- From a status that agrees with the one that a run has computed, the next run computes the same.
    It is written unless it has the number that is set in the copy that was read. -/
theorem reconcile_again (hrun : Rerun v v') (hgw : hasMatchingController v.api gw = true)
    (h : reconcile settings v gw before = .ok o) (hok : o.failure = none)
    {original modified : GatewayStatus} (hupdate : o.update = some (original, modified))
    (hstatus : Agree status modified) :
    ∃ o', reconcile settings v' gw status = .ok o' ∧ o'.failure = none ∧
      (o'.written = none ↔ original.attachedListenerSets = status.attachedListenerSets) := by
  obtain ⟨p, hprepare, hfinish⟩ := (reconcile_eq_ok hgw).1 ⟨h, hok⟩
  obtain ⟨hfailure, listeners, count, res, found, hlisteners, hcount, hres, hensure, hfound, rfl⟩ :=
    finish_eq_ok.1 hfinish
  obtain ⟨rfl, rfl⟩ := Prod.mk.inj (Option.some_inj.1 hupdate)
  -- the steps of the next run
  obtain ⟨p', hprepare', hmodel, hcore⟩ := hrun.prepare_again hprepare
  obtain ⟨made, hmade, hsame⟩ :=
    setListenerStatus_again hcore v'.api.now hlisteners hstatus.listeners
  obtain ⟨res', hres', hsome⟩ := GatewayTranslator.translate_orders hres v'.orders
  have hmade' : listenerStatuses v' gw status p' = .ok made := by
    rw [listenerStatuses, hrun.toCluster_eq, hrun.referenceGrants_eq hprepare,
      hrun.validateTLSSecret]
    exact hmade
  have hcount' := hrun.countListenerSets_again hprepare hcore hcount
  have hensure' : (ensureSteps res').findSome? v'.failure = none := by
    rw [ensureSteps, hsome, hrun.failure_eq]
    exact hensure
  rw [← hmodel] at hres'
  rw [← hrun.failure_eq] at hfailure
  rw [← hrun.addresses_eq] at hfound
  rw [← hrun.hasMatchingController_eq] at hgw
  obtain ⟨hreconcile', hok'⟩ := (reconcile_eq_ok hgw).2 ⟨p', hprepare', finish_eq_ok.2
    ⟨hfailure, made, count, res', found, hmade', hcount', hres', hensure', hfound, rfl⟩⟩
  refine ⟨_, hreconcile', hok', ?_⟩
  -- the two copies differ at most in the number of ListenerSets
  have hagree : Agree status (reconciled gw v'.api.now made found status) :=
    agree_reconciled_again hstatus hsame
  rw [Outcome.written_of_update rfl, updateStatus_eq_none, timelessGatewayStatus_eq_iff]
  exact and_iff_right ⟨hagree.conditions, hagree.listeners, hagree.addresses⟩

theorem rerun_listing (h : prepare v gw = .ok (.ok p)) :
    Rerun v { v with listing := p.listing } where
  api := rfl
  listing := by
    intro listing hlisting
    rw [Except.ok.inj ((listing_of_prepare h).symm.trans hlisting)]
  hasListenerSetSupport := rfl
  listenerSets := rfl
  validateTLSSecret := rfl
  services := rfl
  error := rfl
  listenerSetGrantsFail := rfl

/-- The number in the status is right, and it is the one that is set, exactly if it was set before and
    is not lost. -/
theorem number_iff {number : Option Nat} {n : Nat} {fails : Bool} :
    (number.getD 0 = n ∧ (if fails = true ∨ n = 0 then none else some n) = number) ↔
      number = (if n = 0 then none else some n) ∧ (fails = true → n = 0) := by
  by_cases hzero : n = 0
  · simp only [hzero, or_true, if_true, implies_true, and_true]
    constructor
    · rintro ⟨_, rfl⟩
      rfl
    · rintro rfl
      exact ⟨rfl, rfl⟩
  · cases fails with
    | true =>
      simp only [hzero, if_true, true_or, imp_false, not_true, and_false, iff_false]
      rintro ⟨hn, rfl⟩
      exact hzero hn.symm
    | false =>
      simp only [hzero, or_false, Bool.false_eq_true, if_false, false_imp_iff, and_true]
      constructor
      · rintro ⟨_, rfl⟩
        rfl
      · rintro rfl
        exact ⟨rfl, rfl⟩

end

/-! ## A Gateway with a ListenerSet -/

theorem edge_run : ∃ o,
    reconcile edgeSettings (edgeView none [{ ip := "10.0.0.1" }]) edgeGateway {} = .ok o ∧
      o.failure = none :=
  ⟨_, rfl, rfl⟩

/-- A Gateway that allows ListenerSets of all namespaces. -/
def sharedEdgeGateway : Gateway where
  name := "edge"
  ns := "infra"
  listeners := [edgeListener]
  allowedListeners := some { namespaces := some { fromNamespaces := some .all } }

def extraListenerSet : ListenerSet where
  name := "extra"
  ns := "infra"
  parentRef := { name := "edge" }
  listeners := [{ name := "extra", port := 8080, protocol := .http }]

/-- The cluster has one ListenerSet, for the Gateway. -/
def extraView : ClusterView where
  api := edgeAPI
  listenerSets := [extraListenerSet]
  services := [edgeService [{ ip := "10.0.0.1" }]]
  orders := .entries
  keys_nodup := List.nodup_singleton _

theorem extra_run : ∃ o update, reconcile edgeSettings extraView sharedEdgeGateway {} = .ok o ∧
    o.failure = none ∧ o.update = some update ∧ (o.persisted {}).attachedListenerSets = none ∧
    validListenerSets extraView sharedEdgeGateway = 1 :=
  ⟨_, _, rfl, rfl, rfl, rfl, rfl⟩

end Pipeline
