import Dolphin.Reconcile.PolicyOrder

/-!
# The ancestors of BackendTLSPolicies

A Gateway should be an ancestor of a policy only if it uses a Service that the policy targets:
if some HTTPRoute that is attached to it refers to the Service as a backend, or as the backend of
external authorization (`Used`).

`setBackendTLSPolicyStatuses` was meant to list the HTTPRoutes of each Service, but lists all
those of the cluster. The policies of a Service are thus visited as soon as any route that is
attached to the Gateway is found in the cluster (`Visited`), whatever its backends are.

* `finalRun_run`: what each visit preserves holds of the run, whether it fails or not;
* `sound_run`: a run that visits only policies for which `U` holds, or which have their status
  already, sends updates of such policies only;
* `onlyUsedAncestors_iff`: the lookups for which this is as it should be.
-/

namespace Reconcile

open Gatewayv1 Go List Option

variable {svcName : NamespacedName} {p : BackendTLSPolicy} {lookup : BackendTLSPolicyServiceMap}
  {hrList httpRoutes : List HTTPRoute}

/-- The reference is to the Service. -/
def RefersTo (be : BackendObjectReference) (ns : String) (svcName : NamespacedName) : Prop :=
  isService be = true ∧ be.name = svcName.name ∧ namespaceDerefOr be.ns ns = svcName.ns

/-- The route refers to the Service, as a backend or for external authorization. -/
def ReferencesService (hr : HTTPRoute) (svcName : NamespacedName) : Prop :=
  ∃ rule ∈ hr.rules,
    (∃ be ∈ rule.backendRefs, RefersTo be.toBackendObjectReference hr.ns svcName) ∨
      ∃ f ∈ rule.filters, f.type = .other "ExternalAuth" ∧
        ∃ externalAuth ∈ f.externalAuth, RefersTo externalAuth.backendRef hr.ns svcName

/-- Some of the routes refers to a Service that the policy targets. -/
def Used (httpRoutes : List HTTPRoute) (btlsp : BackendTLSPolicy) : Prop :=
  ∃ svcName sectionName, Targets btlsp svcName sectionName ∧
    ∃ hr ∈ httpRoutes, ReferencesService hr svcName

/-- The iteration for the Service gets to its policies. -/
def Visited (hrList httpRoutes : List HTTPRoute) (svcName : NamespacedName) : Prop :=
  ∃ found, containsCommonHTTPRoute hrList httpRoutes = .ok found ∧
    (found = true ∨ isExternalAuthBackend httpRoutes svcName = true)

/-- Up to times, the status of the policy says already that it has a conflict. -/
def AlreadyConflicted (ref : ParentReference) (btlsp : BackendTLSPolicy) : Prop :=
  timelessAncestors (setAncestorCondition 0 btlsp ref policyConflicted).ancestors =
    timelessAncestors btlsp.ancestors

/-- Whatever else the API server answers, and whether the run fails or not, updates are sent only of
    policies that are used. -/
def OnlyUsedAncestors (gatewayName : NamespacedName) (hrList httpRoutes : List HTTPRoute)
    (lookup : BackendTLSPolicyServiceMap) : Prop :=
  ∀ api orders, api.listHTTPRoutes = .ok hrList →
    ∀ btlsp ∈ (finalRun (setBackendTLSPolicyStatuses api (currentGatewayRef gatewayName) httpRoutes
      orders lookup)).updates, Used httpRoutes btlsp

section

variable {api : PolicyAPI} {ref : ParentReference} {run : PolicyRun}

/-! ## Invariants of a run that may fail -/

section Preserves

variable {α : Type} {P : PolicyRun → Prop}

theorem finalRun_bind {x : Except PolicyFailure PolicyRun}
    {f : PolicyRun → Except PolicyFailure PolicyRun} (hx : P (finalRun x))
    (hf : ∀ run, P run → P (finalRun (f run))) : P (finalRun (x >>= f)) := by
  cases x with
  | error failure => exact hx
  | ok run => exact hf run hx

theorem finalRun_foldlM {f : PolicyRun → α → Except PolicyFailure PolicyRun} {xs : List α}
    (hf : ∀ a ∈ xs, ∀ run, P run → P (finalRun (f run a))) (h : P run) :
    P (finalRun (xs.foldlM f run)) := by
  induction xs generalizing run with
  | nil => exact h
  | cons a xs ih =>
    rw [foldlM_cons]
    exact finalRun_bind (hf a mem_cons_self run h)
      fun _ => ih fun b hb => hf b (mem_cons_of_mem a hb)

/-- A call that fails leaves the run as it is. -/
theorem finalRun_call {x : Except String α} {message : String → String}
    {f : α → Except PolicyFailure PolicyRun} (h : P run)
    (hf : ∀ a, x = .ok a → P (finalRun (f a))) :
    P (finalRun ((x.mapError fun e => (⟨message e, run⟩ : PolicyFailure)) >>= f)) := by
  cases x with
  | error e => exact h
  | ok a => exact hf a rfl

variable (api) in
/-- Whatever status a visit of the policy ends with, it preserves `P`. -/
def Stores (P : PolicyRun → Prop) (p : BackendTLSPolicy) : Prop :=
  ∀ run, P run → ∀ confirmed ancestors, P (finalRun (PolicyRun.store api
    { run with confirmedValidBTLSPs := confirmed } (run.load p) { p with ancestors := ancestors }))

theorem finalRun_visitValid (hP : Stores api P p) (h : P run) :
    P (finalRun (visitValid api ref run p)) := by
  refine finalRun_call h fun a ha => ?_
  rw [validateSpec] at ha
  obtain ⟨r, _, ha⟩ := bind_eq_ok.1 ha
  cases r with
  | none =>
    obtain rfl := Except.ok.inj ha
    exact hP run h _ _
  | some r =>
    obtain rfl := Except.ok.inj ha
    exact hP run h _ _

theorem finalRun_visitMissingValid (hP : Stores api P p) (h : P run) :
    P (finalRun (visitMissingValid api ref svcName run p)) := by
  rw [visitMissingValid]
  split_ifs
  · exact h
  · exact hP run h _ _

variable {b : BackendTLSPolicyTargetServiceCollection} {orders : PolicyOrders}

/-- The iteration for a Service. -/
theorem finalRun_visitService (hlist : api.listHTTPRoutes = .ok hrList)
    (hvalid : Visited hrList httpRoutes svcName → ∀ p ∈ validPolicies b, Stores api P p)
    (hconflicted : Visited hrList httpRoutes svcName → ∀ p ∈ conflictedPolicies b, ∀ run, P run →
      P (finalRun (visitConflicted api ref run p)))
    (h : P run) : P (finalRun (visitService api ref httpRoutes orders run (svcName, b))) := by
  refine finalRun_call h fun _ hok => ?_
  obtain rfl := Except.ok.inj (hlist.symm.trans hok)
  refine finalRun_call h fun found hfound => ?_
  split_ifs with hskip
  · exact h
  have hvisited : Visited hrList httpRoutes svcName := by
    refine ⟨found, hfound, ?_⟩
    simpa only [Bool.not_eq_true', Bool.not_eq_false', Bool.not_eq_false, Bool.or_eq_true] using hskip
  have hvalid {p : BackendTLSPolicy}
      (hp : p ∈ ((orders.valid svcName).visit b.valid.toPairs).map Prod.snd) : Stores api P p :=
    hvalid hvisited p ((((orders.valid svcName).perm _).map Prod.snd).mem_iff.1 hp)
  have hconflicted {p : BackendTLSPolicy}
      (hp : p ∈ ((orders.conflicted svcName).visit b.conflicted.toPairs).map Prod.snd) :
      ∀ run, P run → P (finalRun (visitConflicted api ref run p)) :=
    hconflicted hvisited p ((((orders.conflicted svcName).perm _).map Prod.snd).mem_iff.1 hp)
  refine finalRun_call h fun exist _ => ?_
  split_ifs
  · exact finalRun_bind (finalRun_foldlM (fun p hp _ h => finalRun_visitValid (hvalid hp) h) h)
      fun _ h => finalRun_foldlM (fun p hp => hconflicted hp) h
  · refine finalRun_bind (finalRun_foldlM (fun p hp _ h => finalRun_visitMissingValid (hvalid hp) h) h)
      fun _ h => finalRun_foldlM (fun p hp run h => ?_) h
    rw [visitMissingConflicted]
    split_ifs
    · exact h
    · exact hconflicted hp run h

end Preserves

/-- What each visit of a policy preserves, a run does. -/
theorem finalRun_run {P : PolicyRun → Prop} {orders : PolicyOrders}
    (hlist : api.listHTTPRoutes = .ok hrList) (hinitial : P {})
    (hvalid : ∀ svcName p, Visited hrList httpRoutes svcName → ValidAt lookup svcName p →
      Stores api P p)
    (hconflicted : ∀ svcName p, Visited hrList httpRoutes svcName → ConflictedAt lookup svcName p →
      ∀ run, P run → P (finalRun (visitConflicted api ref run p))) :
    P (finalRun (setBackendTLSPolicyStatuses api ref httpRoutes orders lookup)) := by
  refine finalRun_foldlM (fun e he run h => ?_) hinitial
  obtain ⟨svcName, b⟩ := e
  have hb : lookup.get? svcName = some b :=
    Map.mem_toPairs.1 ((orders.services.perm _).mem_iff.1 he)
  refine finalRun_visitService hlist (fun hvisited p hp => ?_) (fun hvisited p hp => ?_) h
  · obtain ⟨sectionName, hget⟩ := mem_validPolicies.1 hp
    exact hvalid svcName p hvisited ⟨sectionName, bind_eq_some_iff.2 ⟨b, hb, hget⟩⟩
  · obtain ⟨name, hget⟩ := mem_conflictedPolicies.1 hp
    exact hconflicted svcName p hvisited ⟨name, bind_eq_some_iff.2 ⟨b, hb, hget⟩⟩

theorem mem_lookupPolicies_of_conflictedAt (h : ConflictedAt lookup svcName p) :
    p ∈ lookupPolicies lookup := by
  obtain ⟨name, h⟩ := h
  obtain ⟨b, hb, hconflicted⟩ := bind_eq_some_iff.1 h
  exact ⟨(svcName, b), Map.mem_toPairs.2 hb, .inr (mem_conflictedPolicies.2 ⟨name, hconflicted⟩)⟩

/-! ## What a run sends -/

section Sound

variable {policies : Set BackendTLSPolicy} {U : BackendTLSPolicy → Prop}

/-- Updates were sent of policies with `U` only, and a policy of which none was sent has its
    status, up to times. -/
structure Sound (policies : Set BackendTLSPolicy) (U : BackendTLSPolicy → Prop)
    (run : PolicyRun) : Prop where
  sent : ∀ btlsp ∈ run.updates, U btlsp
  recorded : ∀ p ∈ policies, (∃ ancestors version,
      { p with ancestors := ancestors, resourceVersion := version } ∈ run.updates) ∨
    timelessAncestors (run.load p).ancestors = timelessAncestors p.ancestors

/-- What the end of a visit does with the updates. -/
theorem finalRun_store (api : PolicyAPI) (run : PolicyRun) (original btlsp : BackendTLSPolicy) :
    (finalRun (run.store api original btlsp) = run ∨ ∃ updates,
      finalRun (run.store api original btlsp) = { run with
        statuses := run.statuses.set (objectKey original) btlsp.ancestors
        updates := updates } ∧
      (updates = run.updates ∧
          timelessAncestors original.ancestors = timelessAncestors btlsp.ancestors ∨
        timelessAncestors original.ancestors ≠ timelessAncestors btlsp.ancestors ∧
          ∃ version, updates = { btlsp with resourceVersion := version } :: run.updates)) := by
  rw [PolicyRun.store, updateBackendTLSPolicyStatus]
  split_ifs with hsame
  · exact .inr ⟨_, rfl, .inl ⟨rfl, hsame⟩⟩
  · cases api.updateStatus (run.stored btlsp).resourceVersion btlsp with
    | error message => exact .inl rfl
    | ok version => exact .inr ⟨_, rfl, .inr ⟨hsame, version, rfl⟩⟩

variable (hkeys : Set.InjOn objectKey policies)

include hkeys in
/-- The end of a visit of a policy that has `U` if its status changes. -/
theorem Sound.store (h : Sound policies U run) (hp : p ∈ policies)
    {confirmed : Go.Map NamespacedName Unit} {ancestors : List PolicyAncestorStatus}
    (hU : timelessAncestors (run.load p).ancestors ≠ timelessAncestors ancestors →
      ∀ version, U { p with ancestors := ancestors, resourceVersion := version }) :
    Sound policies U (finalRun (PolicyRun.store api { run with confirmedValidBTLSPs := confirmed }
      (run.load p) { p with ancestors := ancestors })) := by
  rcases finalRun_store api { run with confirmedValidBTLSPs := confirmed } (run.load p)
    { p with ancestors := ancestors } with hrun | ⟨updates, hrun, hcases⟩
  · rw [hrun]
    exact ⟨h.sent, h.recorded⟩
  rw [hrun]
  constructor
  · intro btlsp hbtlsp
    rcases hcases with ⟨rfl, _⟩ | ⟨hne, version, rfl⟩
    · exact h.sent btlsp hbtlsp
    · rcases mem_cons.1 hbtlsp with rfl | hbtlsp
      · exact hU hne version
      · exact h.sent btlsp hbtlsp
  · intro q hq
    show (∃ ancestors' version, _ ∈ updates) ∨ timelessAncestors
      (((run.statuses.set (objectKey p) ancestors).get? (objectKey q)).getD q.ancestors) = _
    rw [Map.get?_set]
    by_cases hkey : objectKey q = objectKey p
    · obtain rfl := hkeys hq hp hkey
      rw [if_pos rfl, getD_some]
      rcases hcases with ⟨rfl, hsame⟩ | ⟨_, version, rfl⟩
      · -- nothing is sent: the status is what it was before the visit
        exact (h.recorded q hq).imp_right hsame.symm.trans
      · exact .inl ⟨ancestors, version, mem_cons_self⟩
    · rw [if_neg hkey]
      refine (h.recorded q hq).imp_left fun ⟨ancestors', version', hsent⟩ =>
        ⟨ancestors', version', ?_⟩
      rcases hcases with ⟨rfl, _⟩ | ⟨_, version, rfl⟩
      · exact hsent
      · exact mem_cons_of_mem _ hsent

theorem sound_run
    (hkeys : Set.InjOn objectKey (lookupPolicies lookup))
    (hU : ∀ p ancestors version,
      U { p with ancestors := ancestors, resourceVersion := version } ↔ U p)
    {orders : PolicyOrders} (hlist : api.listHTTPRoutes = .ok hrList)
    (h : ∀ svcName, Visited hrList httpRoutes svcName → ∀ p,
      (ValidAt lookup svcName p → U p) ∧
        (ConflictedAt lookup svcName p → U p ∨ AlreadyConflicted ref p)) :
    Sound (lookupPolicies lookup) U
      (finalRun (setBackendTLSPolicyStatuses api ref httpRoutes orders lookup)) := by
  refine finalRun_run hlist ⟨by simp, fun _ _ => .inr rfl⟩ ?_ ?_
  · intro svcName p hvisited hvalid run hs confirmed ancestors
    exact hs.store hkeys (mem_lookupPolicies_of_validAt hvalid)
      fun _ version => (hU p _ _).2 ((h svcName hvisited p).1 hvalid)
  · intro svcName p hvisited hconflicted run hs
    have hp := mem_lookupPolicies_of_conflictedAt hconflicted
    refine hs.store hkeys hp fun hne version => (hU p _ _).2 ?_
    rcases hs.recorded p hp with ⟨ancestors, version, hsent⟩ | hrecorded
    · exact (hU p _ _).1 (hs.sent _ hsent)
    · -- the visit finds the status that the policy came with, and leaves it
      refine ((h svcName hvisited p).2 hconflicted).resolve_right fun halready => hne ?_
      have hset := timelessAncestors_set api.now (run.load p) ref policyConflicted
      have hset' := timelessAncestors_set 0 p ref policyConflicted
      rw [hrecorded] at hset ⊢
      exact (hset.trans (hset'.symm.trans halready)).symm

end Sound

end

/-! ## What is sent first -/

section First

variable {api : PolicyAPI} {gatewayName : NamespacedName} {L : Ledger} {run : PolicyRun}
  {orders : PolicyOrders} {u : BackendTLSPolicy}

theorem configMapRejection_reason {key : NamespacedName} {data : Option (Go.Map String String)}
    {r : Rejection} (h : configMapRejection api key data = some r) :
    r.resolvedRefsReason = "InvalidCACertificateRef" := by
  cases data with
  | none =>
    obtain rfl := some_inj.1 h
    rfl
  | some data =>
    rw [configMapRejection] at h
    split at h
    · obtain rfl := some_inj.1 h
      rfl
    · split_ifs at h
      obtain rfl := some_inj.1 h
      rfl

/-- A rejection does not say that the Service does not exist. -/
theorem resolvedRefsReason_ne {r : Rejection} (h : rejection api p = .ok (some r)) :
    r.resolvedRefsReason ≠ "BackendNotFound" := by
  rw [rejection] at h
  split at h
  · cases h
  · split_ifs at h
    · obtain rfl := some_inj.1 (Except.ok.inj h)
      decide
    · obtain rfl := some_inj.1 (Except.ok.inj h)
      decide
    · obtain rfl := some_inj.1 (Except.ok.inj h)
      decide
    · obtain ⟨data, _, hdata⟩ := bind_eq_ok.1 h
      rw [configMapRejection_reason (some_inj.1 (congrArg some (Except.ok.inj hdata)))]
      decide

/-- Updates that were sent stay so. -/
theorem stores_mem (api : PolicyAPI) (u p : BackendTLSPolicy) :
    Stores api (fun run => u ∈ run.updates) p := by
  intro run hu confirmed ancestors
  rcases finalRun_store api { run with confirmedValidBTLSPs := confirmed } (run.load p)
    { p with ancestors := ancestors } with hrun | ⟨updates, hrun, hcases⟩
  · rw [hrun]
    exact hu
  · rw [hrun]
    rcases hcases with ⟨rfl, _⟩ | ⟨_, version, rfl⟩
    · exact hu
    · exact mem_cons_of_mem _ hu

/-- What is sent in the iteration for the Service that comes first. -/
theorem mem_updates_of_first (hlist : api.listHTTPRoutes = .ok hrList) {ref : ParentReference}
    {e : NamespacedName × BackendTLSPolicyTargetServiceCollection}
    {rest : List (NamespacedName × BackendTLSPolicyTargetServiceCollection)}
    (hfirst : orders.services.visit lookup.toPairs = e :: rest)
    (hu : u ∈ (finalRun (visitService api ref httpRoutes orders {} e)).updates) :
    u ∈ (finalRun (setBackendTLSPolicyStatuses api ref httpRoutes orders lookup)).updates := by
  rw [setBackendTLSPolicyStatuses, hfirst, foldlM_cons]
  refine finalRun_bind (P := fun run => u ∈ run.updates) hu fun run hu => ?_
  refine finalRun_foldlM (P := fun run => u ∈ run.updates) (fun e _ run hu => ?_) hu
  exact finalRun_visitService (P := fun run => u ∈ run.updates) hlist
    (fun _ p _ => stores_mem api u p) (fun _ p _ run hu => stores_mem api u p run hu _ _) hu

theorem mem_updates_conflicted {exist : Bool} {ref : ParentReference} {q : BackendTLSPolicy}
    (hu : u ∈ run.updates) : u ∈ (finalRun ((if exist then visitConflicted api ref
      else visitMissingConflicted api ref) run q)).updates := by
  have hvisit : u ∈ (finalRun (visitConflicted api ref run q)).updates :=
    stores_mem api u q run hu _ _
  cases exist with
  | true => exact hvisit
  | false =>
    show u ∈ (finalRun (visitMissingConflicted api ref run q)).updates
    rw [visitMissingConflicted]
    split_ifs
    · exact hu
    · exact hvisit

/-- The first loop over the valid policies of a Service does not fail. -/
theorem exists_validRun (ans : PolicyAnswers api httpRoutes) (orders : PolicyOrders)
    (ref : ParentReference) (hresponds : api.Responds)
    (hkeys : Set.InjOn objectKey (lookupPolicies lookup))
    (svcName : NamespacedName) {b : BackendTLSPolicyTargetServiceCollection}
    (hvalid : ∀ q ∈ validPolicies b, q ∈ lookupPolicies lookup) :
    ∃ run, (((orders.valid svcName).visit b.valid.toPairs).map Prod.snd).foldlM
        (if ans.exist svcName then visitValid api ref else visitMissingValid api ref svcName) {} =
          .ok run ∧
      ∀ q ∈ lookupPolicies lookup, Records ref q run (if q ∈ validPolicies b then
        if ans.exist svcName then ({} : Ledger).visitValid (ans.rejected q)
        else ({} : Ledger).visitMissingValid svcName else {}) := by
  have hinitial : ∀ q ∈ lookupPolicies lookup, Records ref q {} {} :=
    fun q _ => ⟨rfl, rfl, rfl, iff_of_true rfl rfl⟩
  have hparts := byParts_valid ans orders hresponds hkeys hinitial svcName (ans.exist svcName) hvalid
  refine (hparts.congr fun q _ => ?_).exists_eq_ok
  split_ifs <;> first | rfl | exact advance_of_initial rfl

variable
  (hkeys : Set.InjOn objectKey (lookupPolicies lookup))
  (h : OnlyUsedAncestors gatewayName hrList httpRoutes lookup)

include hkeys h

/-- The status of a policy that is not used is not changed. -/
theorem OnlyUsedAncestors.ancestors_eq (hp : p ∈ lookupPolicies lookup)
    (hused : ¬ Used httpRoutes p) (hlist : api.listHTTPRoutes = .ok hrList)
    (hrecords : Records (currentGatewayRef gatewayName) p run L)
    (hsent : ∀ u ∈ run.updates, u ∈ (finalRun (setBackendTLSPolicyStatuses api
      (currentGatewayRef gatewayName) httpRoutes orders lookup)).updates) :
    L.ancestors (currentGatewayRef gatewayName) p = timelessAncestors p.ancestors := by
  rw [← hrecords.stored, PolicyRun.stored]
  cases hfind : run.updates.find? fun update => objectKey update = objectKey p with
  | none => rfl
  | some u =>
    have hu := hsent u (mem_of_find?_eq_some hfind)
    have hkey : objectKey u = objectKey p := by simpa using find?_some hfind
    -- it is an update of the policy
    have hsound : Sound (lookupPolicies lookup) (fun u => ∃ q ∈ lookupPolicies lookup,
        objectKey u = objectKey q ∧ (Used httpRoutes u → Used httpRoutes q))
        (finalRun (setBackendTLSPolicyStatuses api (currentGatewayRef gatewayName) httpRoutes orders
          lookup)) :=
      sound_run hkeys (fun _ _ _ => Iff.rfl) hlist fun svcName _ q =>
        ⟨fun hvalid => ⟨q, mem_lookupPolicies_of_validAt hvalid, rfl, id⟩,
          fun hconflicted => .inl ⟨q, mem_lookupPolicies_of_conflictedAt hconflicted, rfl, id⟩⟩
    obtain ⟨q, hq, hkey', himp⟩ := hsound.sent u hu
    obtain rfl := hkeys hq hp (hkey'.symm.trans hkey)
    exact absurd (himp (h api orders hlist u hu)) hused

/-- The policies that are valid for the Service that comes first are written. -/
theorem OnlyUsedAncestors.ancestors_of_validAt {exist : Bool}
    (ans : PolicyAnswers (uniformAPI hrList exist) httpRoutes)
    (hvisits : ans.visits svcName = true) (hvalid : ValidAt lookup svcName p)
    (hused : ¬ Used httpRoutes p) :
    (if exist then ({} : Ledger).visitValid (ans.rejected p)
      else ({} : Ledger).visitMissingValid svcName).ancestors (currentGatewayRef gatewayName) p =
        timelessAncestors p.ancestors := by
  obtain ⟨sectionName, hvalid⟩ := hvalid
  obtain ⟨b, hb, hget⟩ := bind_eq_some_iff.1 hvalid
  have hp : p ∈ validPolicies b := mem_validPolicies.2 ⟨sectionName, hget⟩
  have he : (svcName, b) ∈ lookup.toPairs := Map.mem_toPairs.2 hb
  have hexist : ans.exist svcName = exist := (exist_iff ans).2 rfl
  let orders : PolicyOrders :=
    ⟨.last fun e => e.1 ≠ svcName, fun _ => .entries, fun _ => .entries⟩
  obtain ⟨run, hrun, hrecords⟩ := exists_validRun ans orders (currentGatewayRef gatewayName)
    (responds_uniformAPI hrList exist) hkeys svcName fun q hq => ⟨_, he, .inl hq⟩
  have hL := hrecords p ⟨_, he, .inl hp⟩
  rw [if_pos hp, hexist] at hL
  have hlist : (uniformAPI hrList exist).listHTTPRoutes = .ok hrList := rfl
  have hfirst : orders.services.visit lookup.toPairs = (svcName, b) :: _ :=
    RangeOrder.visit_last_toPairs hb
  refine h.ancestors_eq hkeys ⟨_, he, .inl hp⟩ hused hlist hL fun u hu =>
    mem_updates_of_first hlist hfirst ?_
  rw [visitService_eq ans, if_pos hvisits, hrun]
  exact finalRun_foldlM (P := fun run => u ∈ run.updates)
    (fun q _ run hu => mem_updates_conflicted hu) hu

/-- So is a conflicted one, if it is not valid for the Service. -/
theorem OnlyUsedAncestors.ancestors_of_conflictedAt
    (ans : PolicyAnswers (uniformAPI hrList true) httpRoutes)
    (hvisits : ans.visits svcName = true) (hvalid : ¬ ValidAt lookup svcName p)
    (hconflicted : ConflictedAt lookup svcName p) (hused : ¬ Used httpRoutes p) :
    ({} : Ledger).visitConflicted.ancestors (currentGatewayRef gatewayName) p =
        timelessAncestors p.ancestors := by
  obtain ⟨name, hconflicted⟩ := hconflicted
  obtain ⟨b, hb, hget⟩ := bind_eq_some_iff.1 hconflicted
  have he : (svcName, b) ∈ lookup.toPairs := Map.mem_toPairs.2 hb
  have hp : p ∈ lookupPolicies lookup := ⟨_, he, .inr (mem_conflictedPolicies.2 ⟨name, hget⟩)⟩
  have hnot : p ∉ validPolicies b := fun hmem => hvalid <| by
    obtain ⟨sectionName, hget⟩ := mem_validPolicies.1 hmem
    exact ⟨sectionName, bind_eq_some_iff.2 ⟨b, hb, hget⟩⟩
  have hexist : ans.exist svcName = true := (exist_iff ans).2 rfl
  let orders : PolicyOrders :=
    ⟨.last fun e => e.1 ≠ svcName, fun _ => .entries, fun _ => .last fun e => e.1 ≠ name⟩
  obtain ⟨run, hrun, hrecords⟩ := exists_validRun ans orders (currentGatewayRef gatewayName)
    (responds_uniformAPI hrList true) hkeys svcName fun q hq => ⟨_, he, .inl hq⟩
  have hvisit := byParts_visitConflicted (responds_uniformAPI hrList true) hkeys hrecords hp
  rw [if_neg hnot, advance_of_initial (L := {}) rfl] at hvisit
  simp only [← apply_ite some] at hvisit
  obtain ⟨run', hrun', hrecords'⟩ := hvisit.exists_eq_ok
  have hL := hrecords' p hp
  rw [if_pos rfl] at hL
  have hlist : (uniformAPI hrList true).listHTTPRoutes = .ok hrList := rfl
  have hfirst : orders.services.visit lookup.toPairs = (svcName, b) :: _ :=
    RangeOrder.visit_last_toPairs hb
  have hfirst' : (orders.conflicted svcName).visit b.conflicted.toPairs = (name, p) :: _ :=
    RangeOrder.visit_last_toPairs hget
  refine h.ancestors_eq hkeys hp hused hlist hL fun u hu => mem_updates_of_first hlist hfirst ?_
  rw [visitService_eq ans, if_pos hvisits, hrun]
  show u ∈ (finalRun (foldlM _ run (((orders.conflicted svcName).visit _).map _))).updates
  rw [hfirst', map_cons, foldlM_cons, hexist, if_pos rfl, hrun']
  exact finalRun_foldlM (P := fun run => u ∈ run.updates)
    (fun q _ run hu => stores_mem _ u q run hu _ _) hu

/-- A policy that is valid for a Service has a condition that says whether the Service exists, so
    that its status changes in one of two clusters. -/
theorem OnlyUsedAncestors.used_of_validAt (hvisited : Visited hrList httpRoutes svcName)
    (hvalid : ValidAt lookup svcName p) : Used httpRoutes p := by
  by_contra hused
  obtain ⟨found, hfound, hvisits⟩ := hvisited
  let ans (exist : Bool) := (responds_uniformAPI hrList exist).answers hfound
  have hvisits (exist : Bool) : (ans exist).visits svcName = true := Bool.or_eq_true_iff.2 hvisits
  have hmissing := h.ancestors_of_validAt hkeys (ans false) (hvisits false) hvalid hused
  have hexists := h.ancestors_of_validAt hkeys (ans true) (hvisits true) hvalid hused
  obtain ⟨v, hv, hreason⟩ : ∃ v : Verdict,
      (({} : Ledger).visitValid ((ans true).rejected p)).resolvedRefs = some v ∧
      v.reason ≠ "BackendNotFound" := by
    cases hr : (ans true).rejected p with
    | none => exact ⟨_, rfl, by decide⟩
    | some r =>
      exact ⟨_, rfl, resolvedRefsReason_ne (((ans true).rejected_eq p).trans (congrArg _ hr))⟩
  have hcond := (conditionIn_resolvedRefs rfl).symm.trans ((congrArg
    (conditionIn "ResolvedRefs" (currentGatewayRef gatewayName)) (hmissing.trans hexists.symm)).trans
    (conditionIn_resolvedRefs hv))
  exact hreason (congrArg Condition.reason (some_inj.1 hcond)).symm

/-- The status of a policy that has a conflict and is valid nowhere says so. -/
theorem OnlyUsedAncestors.used_of_conflictedAt (hvisited : Visited hrList httpRoutes svcName)
    (hconflicted : ConflictedAt lookup svcName p) :
    Used httpRoutes p ∨ AlreadyConflicted (currentGatewayRef gatewayName) p := by
  by_cases hused : Used httpRoutes p
  · exact .inl hused
  · have hvalid : ¬ ValidAt lookup svcName p :=
      fun hvalid => hused (h.used_of_validAt hkeys hvisited hvalid)
    obtain ⟨found, hfound, hvisits⟩ := hvisited
    have hsame := h.ancestors_of_conflictedAt hkeys
      ((responds_uniformAPI hrList true).answers hfound) (Bool.or_eq_true_iff.2 hvisits) hvalid
      hconflicted hused
    exact .inr ((status_accept (L := {}) 0 rfl rfl rfl).trans hsame)

end First

/-- The Gateway becomes an ancestor only of policies that it uses exactly if it uses those of all
    Services that are visited, except for conflicts that are known. -/
theorem onlyUsedAncestors_iff {lookup : BackendTLSPolicyServiceMap}
    (hkeys : Set.InjOn objectKey (lookupPolicies lookup))
    (gatewayName : NamespacedName) (hrList httpRoutes : List HTTPRoute) :
    OnlyUsedAncestors gatewayName hrList httpRoutes lookup ↔
      ∀ svcName, Visited hrList httpRoutes svcName → ∀ p,
        (ValidAt lookup svcName p → Used httpRoutes p) ∧
          (ConflictedAt lookup svcName p →
            Used httpRoutes p ∨ AlreadyConflicted (currentGatewayRef gatewayName) p) := by
  constructor
  · intro h svcName hvisited p
    exact ⟨h.used_of_validAt hkeys hvisited, h.used_of_conflictedAt hkeys hvisited⟩
  · intro h api orders hlist
    exact (sound_run hkeys (fun _ _ _ => Iff.rfl) hlist h).sent

def paymentRoute : HTTPRoute :=
  { name := "payment", ns := "shop", rules := [{ backendRefs := [{ name := "checkout" }] }] }

theorem onlyUsedAncestors_narrowPolicy :
    OnlyUsedAncestors ⟨"shop", "edge"⟩ [paymentRoute] [paymentRoute]
      (buildBackendTLSPolicyLookup [narrowPolicy]) := by
  have hnodup : ([narrowPolicy].map objectKey).Nodup := by decide
  have hused : Used [paymentRoute] narrowPolicy :=
    ⟨⟨"shop", "checkout"⟩, "", ⟨_, mem_cons_self, rfl, rfl, rfl⟩, _, mem_cons_self, _,
      mem_cons_self, .inl ⟨_, mem_cons_self, rfl, rfl, rfl⟩⟩
  have heq {p : BackendTLSPolicy}
      (hp : p ∈ lookupPolicies (buildBackendTLSPolicyLookup [narrowPolicy])) : p = narrowPolicy :=
    mem_singleton.1 (mem_of_lookupPolicies hnodup hp)
  refine (onlyUsedAncestors_iff (injOn_lookupPolicies hnodup) _ _ _).2 fun svcName _ p =>
    ⟨fun hvalid => ?_, fun hconflicted => .inl ?_⟩
  · exact heq (mem_lookupPolicies_of_validAt hvalid) ▸ hused
  · exact heq (mem_lookupPolicies_of_conflictedAt hconflicted) ▸ hused

def catalogRoute : HTTPRoute :=
  { name := "catalog", ns := "shop", rules := [{ backendRefs := [{ name := "catalog" }] }] }

/-- A policy gets a Gateway as an ancestor to which only the route to another Service is
    attached. -/
theorem not_onlyUsedAncestors_catalogRoute :
    ¬ OnlyUsedAncestors ⟨"shop", "edge"⟩ [catalogRoute] [catalogRoute]
      (buildBackendTLSPolicyLookup [narrowPolicy]) := by
  intro h
  have htargets : (finalRun (setBackendTLSPolicyStatuses (uniformAPI [catalogRoute] true)
      (currentGatewayRef ⟨"shop", "edge"⟩) [catalogRoute]
      ⟨.entries, fun _ => .entries, fun _ => .entries⟩
      (buildBackendTLSPolicyLookup [narrowPolicy]))).updates.map (·.targetRefs) =
      [narrowPolicy.targetRefs] := by
    decide +kernel
  obtain ⟨btlsp, hbtlsp, htarget⟩ := mem_map.1 (htargets ▸ mem_cons_self)
  obtain ⟨svcName, _, ⟨ref, href, _, rfl, _⟩, hr, hmem, rule, hrule, hreference⟩ :=
    h _ _ rfl btlsp hbtlsp
  rw [htarget] at href
  obtain rfl := mem_singleton.1 href
  obtain rfl := mem_singleton.1 hmem
  obtain rfl := mem_singleton.1 hrule
  -- the only reference of the route is to the Service catalog
  rcases hreference with ⟨be, hbe, _, hname, _⟩ | ⟨f, hf, _⟩
  · rw [mem_singleton.1 hbe] at hname
    exact absurd hname (by decide : "catalog" ≠ "checkout")
  · cases hf

end Reconcile
