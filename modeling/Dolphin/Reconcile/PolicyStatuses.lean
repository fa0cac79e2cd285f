import Dolphin.Reconcile.Listeners
import Dolphin.Reconcile.PolicyLookup

/-!
# The statuses of BackendTLSPolicies

`setBackendTLSPolicyStatuses` goes over the Services of a lookup and over the policies of each,
and sets conditions of the policies for the Gateway as their ancestor. All of this is in Go
maps, so that every order is possible, and a policy that several Services are targets of is
visited several times.

The policies of the lookup are pointers: a visit sees the status that the visits before have
left (`PolicyRun.load`). But only the status is copied back after an update, and the resourceVersion
is still the one that was listed. So the API server takes one update of a policy in a run, and
refuses a second one, which ends the run (`Ledger.advance`).
-/

namespace Reconcile

open Gatewayv1 Go

/-- `IsValidPemFormat`, the answers of the API server, and the clock. -/
structure PolicyAPI where
  listHTTPRoutes : Except String (List HTTPRoute)
  /-- Whether the Service exists. -/
  getService : NamespacedName → Except String Bool
  /-- The data of a ConfigMap, if it exists. -/
  getConfigMap : NamespacedName → Except String (Option (Go.Map String String))
  isValidPemFormat : String → Bool
  /-- The answer to an update of a policy of which the API server has some resourceVersion: the
      next one. -/
  updateStatus : String → BackendTLSPolicy → Except String String
  now : Nat

/-! ## Conditions of a policy -/

/-- `SetAncestorCondition`. -/
def setAncestorCondition (now : Nat) (btlsp : BackendTLSPolicy) (parentRef : ParentReference)
    (condition : Condition) : BackendTLSPolicy :=
  let condition :=
    { condition with lastTransitionTime := now, observedGeneration := btlsp.generation }
  { btlsp with
    ancestors := upsert (fun ancestor => ancestor.ancestorRef = parentRef)
      ⟨parentRef, gatewayControllerName, []⟩
      (fun ancestor =>
        { ancestor with conditions := merge ancestor.conditions [condition] })
      btlsp.ancestors }

def policyAccepted : Condition := ⟨"Accepted", .true, "Accepted", "Accepted BackendTLSPolicy", 0, 0⟩

def policyResolvedRefs : Condition :=
  ⟨"ResolvedRefs", .true, "ResolvedRefs", "All references are valid", 0, 0⟩

def policyConflicted : Condition :=
  ⟨"Accepted", .false, "Conflicted", "BackendTLSPolicy conflicts with another", 0, 0⟩

def targetRefMissing (svcName : NamespacedName) : String :=
  "TargetRef does not exist: " ++ namespacedNameString svcName

def policyTargetMissing (svcName : NamespacedName) : Condition :=
  ⟨"Accepted", .false, "Invalid", targetRefMissing svcName, 0, 0⟩

def policyBackendNotFound (svcName : NamespacedName) : Condition :=
  ⟨"ResolvedRefs", .false, "BackendNotFound", targetRefMissing svcName, 0, 0⟩

/-- Why a policy is rejected, with the reasons for both conditions. -/
structure Rejection where
  message : String
  acceptedReason : String
  resolvedRefsReason : String
  deriving DecidableEq, Repr

def Rejection.accepted (r : Rejection) : Condition :=
  ⟨"Accepted", .false, r.acceptedReason, r.message, 0, 0⟩

def Rejection.resolvedRefs (r : Rejection) : Condition :=
  ⟨"ResolvedRefs", .false, r.resolvedRefsReason, r.message, 0, 0⟩

def setRejectedConditions (now : Nat) (btlsp : BackendTLSPolicy) (ancestorRef : ParentReference)
    (r : Rejection) : BackendTLSPolicy :=
  setAncestorCondition now (setAncestorCondition now btlsp ancestorRef r.accepted) ancestorRef
    r.resolvedRefs

/-- The checks of the ConfigMap that should have the CA certificate. -/
def configMapRejection (api : PolicyAPI) (caCertRefKey : NamespacedName) :
    Option (Go.Map String String) → Option Rejection
  | none =>
    some ⟨"CA Certificate does not exist: " ++ namespacedNameString caCertRefKey,
      "NoValidCACertificate", "InvalidCACertificateRef"⟩
  | some data =>
    match data.get? "ca.crt" with
    | none =>
      some ⟨"CA Certificate ConfigMap does not contain a `ca.crt` key",
        "NoValidCACertificate", "InvalidCACertificateRef"⟩
    | some caCert =>
      if api.isValidPemFormat caCert then none
      else
        some ⟨"CA Certificate ConfigMap does not contain at least one valid PEM-encoded certificate",
          "NoValidCACertificate", "InvalidCACertificateRef"⟩

/-- The checks of `ValidateSpec`: what is wrong with the CA certificates of a policy. -/
def rejection (api : PolicyAPI) (btlsp : BackendTLSPolicy) : Except String (Option Rejection) :=
  match btlsp.validation.caCertificateRefs with
  | [] => .ok none
  | caCertRef :: more =>
    if btlsp.validation.wellKnownCACertificates.isSome then
      .ok (some ⟨"Cannot have both CACertificateRefs and wellKnownCACertificates set",
        "Invalid", "Invalid"⟩)
    else if more ≠ [] then
      .ok (some ⟨"Having more than one CA Certificate Ref is not supported", "Invalid", "Invalid"⟩)
    else if caCertRef.group ≠ "" ∨ caCertRef.kind ≠ "ConfigMap" then
      .ok (some ⟨"Only ConfigMaps are supported for CA Certificate Refs",
        "NoValidCACertificate", "InvalidKind"⟩)
    else
      let caCertRefKey : NamespacedName := ⟨btlsp.ns, caCertRef.name⟩
      (api.getConfigMap caCertRefKey).map (configMapRejection api caCertRefKey)

/-- Whether the spec is valid, and the policy with the conditions that say it is not. -/
def validateSpec (api : PolicyAPI) (btlsp : BackendTLSPolicy) (ancestorRef : ParentReference) :
    Except String (Bool × BackendTLSPolicy) := do
  match ← rejection api btlsp with
  | none => pure (true, btlsp)
  | some r => pure (false, setRejectedConditions api.now btlsp ancestorRef r)

/-! ## Visits -/

/-- What the loops have changed: the statuses of the policies they have visited, those that
    were confirmed as valid, and the updates that the API server has taken, the last one first. -/
structure PolicyRun where
  statuses : Go.Map NamespacedName (List PolicyAncestorStatus) := ∅
  confirmedValidBTLSPs : Go.Map NamespacedName Unit := ∅
  updates : List BackendTLSPolicy := []

/-- An error, and the run up to it. -/
structure PolicyFailure where
  message : String
  run : PolicyRun

/-- The policy with its present status. -/
def PolicyRun.load (run : PolicyRun) (btlsp : BackendTLSPolicy) : BackendTLSPolicy :=
  { btlsp with ancestors := (run.statuses.get? (objectKey btlsp)).getD btlsp.ancestors }

/-- The policy as the API server has it, if it had it as it was listed. -/
def PolicyRun.stored (run : PolicyRun) (btlsp : BackendTLSPolicy) : BackendTLSPolicy :=
  (run.updates.find? fun update => objectKey update = objectKey btlsp).getD btlsp

def PolicyRun.isConfirmed (run : PolicyRun) (btlsp : BackendTLSPolicy) : Bool :=
  (run.confirmedValidBTLSPs.get? (objectKey btlsp)).isSome

def timelessAncestors (ancestors : List PolicyAncestorStatus) : List PolicyAncestorStatus :=
  ancestors.map fun ancestor => { ancestor with conditions := ancestor.conditions.map timeless }

def updateBackendTLSPolicyStatus (api : PolicyAPI) (run : PolicyRun)
    (original new : BackendTLSPolicy) : Except String PolicyRun :=
  if timelessAncestors original.ancestors = timelessAncestors new.ancestors then .ok run
  else do
    let resourceVersion ← api.updateStatus (run.stored new).resourceVersion new
    pure { run with updates := { new with resourceVersion := resourceVersion } :: run.updates }

/-- The end of each visit: the status is written, and that of the original updated. -/
def PolicyRun.store (api : PolicyAPI) (run : PolicyRun) (original btlsp : BackendTLSPolicy) :
    Except PolicyFailure PolicyRun := do
  let run ← (updateBackendTLSPolicyStatus api run original btlsp).mapError
    fun message => ⟨"failed to update BackendTLSPolicy status: " ++ message, run⟩
  pure { run with statuses := run.statuses.set (objectKey original) btlsp.ancestors }

section

variable (api : PolicyAPI) (gatewayRef : ParentReference)

/-- A valid policy of a Service that exists. -/
def visitValid (run : PolicyRun) (original : BackendTLSPolicy) :
    Except PolicyFailure PolicyRun := do
  let original := run.load original
  let btlsp := setAncestorCondition api.now original gatewayRef policyAccepted
  let btlsp := setAncestorCondition api.now btlsp gatewayRef policyResolvedRefs
  let (valid, btlsp) ← (validateSpec api btlsp gatewayRef).mapError
    fun message => ⟨"failed to validate BackendTLSPolicy spec: " ++ message, run⟩
  let run := if valid then
      { run with confirmedValidBTLSPs := run.confirmedValidBTLSPs.set (objectKey btlsp) () }
    else run
  run.store api original btlsp

/-- A conflicted policy of a Service that exists. -/
def visitConflicted (run : PolicyRun) (original : BackendTLSPolicy) :
    Except PolicyFailure PolicyRun :=
  let original := run.load original
  run.store api original (setAncestorCondition api.now original gatewayRef policyConflicted)

/-- A valid policy of a Service that does not exist. -/
def visitMissingValid (svcName : NamespacedName) (run : PolicyRun) (original : BackendTLSPolicy) :
    Except PolicyFailure PolicyRun :=
  if run.isConfirmed original then pure run
  else
    let original := run.load original
    let btlsp := setAncestorCondition api.now original gatewayRef (policyTargetMissing svcName)
    run.store api original
      (setAncestorCondition api.now btlsp gatewayRef (policyBackendNotFound svcName))

/-- A conflicted policy of a Service that does not exist. -/
def visitMissingConflicted (run : PolicyRun) (original : BackendTLSPolicy) :
    Except PolicyFailure PolicyRun :=
  if run.isConfirmed original then pure run else visitConflicted api gatewayRef run original

end

/-! ## The loops -/

/-- The same object, which is an error if its generations are different. -/
def objectsEqual (aGVK bGVK : GroupVersionKind) (a b : ObjectMeta) : Except String Bool :=
  if aGVK = bGVK ∧ a.name = b.name ∧ a.ns = b.ns then
    if a.generation = b.generation then .ok true
    else .error "Same object, different generations, retry reconciliation"
  else .ok false

def containsCommonHTTPRoute (a b : List HTTPRoute) : Except String Bool :=
  a.anyM fun hrA => b.anyM fun hrB =>
    objectsEqual hrA.gvk hrB.gvk hrA.toObjectMeta hrB.toObjectMeta

/-- Whether the Service is the backend of an external authorization filter. -/
def isExternalAuthBackend (httpRoutes : List HTTPRoute) (svcName : NamespacedName) : Bool :=
  httpRoutes.any fun hr => hr.rules.any fun rule => rule.filters.any fun f =>
    f.type = .other "ExternalAuth" && f.externalAuth.any fun externalAuth =>
      externalAuth.backendRef.name = svcName.name &&
        namespaceDerefOr externalAuth.backendRef.ns hr.ns = svcName.ns

/-- The orders in which the maps are visited, those of a collection for each Service. -/
structure PolicyOrders where
  services : RangeOrder (NamespacedName × BackendTLSPolicyTargetServiceCollection)
  valid : NamespacedName → RangeOrder (String × BackendTLSPolicy)
  conflicted : NamespacedName → RangeOrder (NamespacedName × BackendTLSPolicy)

section

variable (api : PolicyAPI) (gatewayRef : ParentReference) (httpRoutes : List HTTPRoute)
  (orders : PolicyOrders)

/-- The iteration for one Service. -/
def visitService (run : PolicyRun)
    (entry : NamespacedName × BackendTLSPolicyTargetServiceCollection) :
    Except PolicyFailure PolicyRun := do
  let (svcName, collection) := entry
  let hrList ← api.listHTTPRoutes.mapError (⟨·, run⟩)
  let found ← (containsCommonHTTPRoute hrList httpRoutes).mapError (⟨·, run⟩)
  if !(found || isExternalAuthBackend httpRoutes svcName) then
    pure run
  else
    let valid := ((orders.valid svcName).visit collection.valid.toPairs).map Prod.snd
    let conflicted :=
      ((orders.conflicted svcName).visit collection.conflicted.toPairs).map Prod.snd
    let exist ← (api.getService svcName).mapError
      fun message => ⟨"error while checking Backend Service: " ++ message, run⟩
    if exist then
      let run ← valid.foldlM (visitValid api gatewayRef) run
      conflicted.foldlM (visitConflicted api gatewayRef) run
    else
      let run ← valid.foldlM (visitMissingValid api gatewayRef svcName) run
      conflicted.foldlM (visitMissingConflicted api gatewayRef) run

def setBackendTLSPolicyStatuses (btlspMap : BackendTLSPolicyServiceMap) :
    Except PolicyFailure PolicyRun :=
  (orders.services.visit btlspMap.toPairs).foldlM
    (visitService api gatewayRef httpRoutes orders) {}

end

/-- What a run has come to, whether it fails or not. -/
def finalRun : Except PolicyFailure PolicyRun → PolicyRun
  | .ok run => run
  | .error failure => failure.run

/-- The Gateway as the ancestor of policies. -/
def currentGatewayRef (gatewayName : NamespacedName) : ParentReference where
  group := some "gateway.networking.k8s.io"
  kind := some "Gateway"
  ns := some gatewayName.ns
  name := gatewayName.name

/-! ## What a run leaves in a status -/

/-- What a condition says. -/
structure Verdict where
  status : ConditionStatus
  reason : String
  message : String
  deriving DecidableEq, Repr

def Verdict.condition (v : Verdict) (type : String) (generation : Int) : Condition :=
  ⟨type, v.status, v.reason, v.message, generation, 0⟩

/-- The conditions that a run has set for a policy: Accepted, and maybe ResolvedRefs, which is
    never set before. -/
structure Outcome where
  accepted : Verdict
  resolvedRefs : Option Verdict
  deriving DecidableEq, Repr

/-- What a run has done with a policy. -/
structure Ledger where
  confirmed : Bool := false
  outcome : Option Outcome := none
  deriving DecidableEq, Repr, Inhabited

def Ledger.accept (L : Ledger) (v : Verdict) : Ledger :=
  { L with outcome := some ⟨v, L.outcome.bind (·.resolvedRefs)⟩ }

def Ledger.settle (L : Ledger) (v w : Verdict) : Ledger :=
  { L with outcome := some ⟨v, some w⟩ }

/-- The conditions in the status of a policy, up to times. -/
def Outcome.conditions (o : Outcome) (generation : Int) (conds : List Condition) : List Condition :=
  let conds := record (·.type) (o.accepted.condition "Accepted" generation) conds
  match o.resolvedRefs with
  | none => conds
  | some v => record (·.type) (v.condition "ResolvedRefs" generation) conds

/-- Record a condition for the Gateway. -/
def recordAncestor (ref : ParentReference) (f : List Condition → List Condition)
    (ancestors : List PolicyAncestorStatus) : List PolicyAncestorStatus :=
  upsert (fun ancestor => ancestor.ancestorRef = ref) ⟨ref, gatewayControllerName, []⟩
    (fun ancestor => { ancestor with conditions := f ancestor.conditions }) ancestors

/-- The status of a policy, up to times. -/
def Ledger.ancestors (L : Ledger) (ref : ParentReference) (btlsp : BackendTLSPolicy) :
    List PolicyAncestorStatus :=
  match L.outcome with
  | none => timelessAncestors btlsp.ancestors
  | some o => recordAncestor ref (o.conditions btlsp.generation) (timelessAncestors btlsp.ancestors)

theorem recordAncestor_recordAncestor (ref : ParentReference)
    (f g : List Condition → List Condition) (ancestors : List PolicyAncestorStatus) :
    recordAncestor ref g (recordAncestor ref f ancestors) =
      recordAncestor ref (fun conds => g (f conds)) ancestors :=
  upsert_upsert (fun _ h => h) (decide_eq_true rfl)

/-- Up to times, setting a condition records it for the Gateway. -/
theorem timelessAncestors_set (now : Nat) (btlsp : BackendTLSPolicy) (ref : ParentReference)
    (c : Condition) :
    timelessAncestors (setAncestorCondition now btlsp ref c).ancestors = recordAncestor ref
        (record (·.type) (timeless { c with observedGeneration := btlsp.generation }))
        (timelessAncestors btlsp.ancestors) := by
  rw [setAncestorCondition, timelessAncestors]
  dsimp only
  refine map_upsert (fun ancestor => rfl) fun ancestor => ?_
  rw [timeless_merge]
  rfl

section

variable (L : Ledger) (ref : ParentReference) (btlsp : BackendTLSPolicy) (v w : Verdict)

theorem conditions_accept (o : Outcome) (generation : Int) (conds : List Condition) :
    record (·.type) (v.condition "Accepted" generation) (o.conditions generation conds) =
      Outcome.conditions ⟨v, o.resolvedRefs⟩ generation conds := by
  obtain ⟨accepted, resolvedRefs⟩ := o
  cases resolvedRefs with
  | none => exact record_record rfl
  | some w =>
    -- the condition is there, so that it stays where it is
    have hne : (v.condition "Accepted" generation).type ≠
        (w.condition "ResolvedRefs" generation).type :=
      (by decide : "Accepted" ≠ "ResolvedRefs")
    have hfound : ((record (·.type) (accepted.condition "Accepted" generation) conds).find?
        fun cond => cond.type == (v.condition "Accepted" generation).type).isSome = true :=
      Option.isSome_iff_exists.2 ⟨_, find?_record_of_eq rfl⟩
    have hlast : record (·.type) (v.condition "Accepted" generation)
        (record (·.type) (accepted.condition "Accepted" generation) conds) =
        record (·.type) (v.condition "Accepted" generation) conds := record_record rfl
    rw [Outcome.conditions, Outcome.conditions]
    dsimp only
    rw [record_comm hne hfound, hlast]

theorem ancestors_accept :
    recordAncestor ref (record (·.type) (v.condition "Accepted" btlsp.generation))
      (L.ancestors ref btlsp) = (L.accept v).ancestors ref btlsp := by
  rw [Ledger.accept, Ledger.ancestors, Ledger.ancestors]
  cases L.outcome with
  | none => rfl
  | some o =>
    dsimp only
    rw [recordAncestor_recordAncestor]
    simp only [conditions_accept]
    rfl

theorem ancestors_settle :
    recordAncestor ref (record (·.type) (w.condition "ResolvedRefs" btlsp.generation))
      ((L.accept v).ancestors ref btlsp) = (L.settle v w).ancestors ref btlsp := by
  rw [Ledger.accept, Ledger.settle, Ledger.ancestors, Ledger.ancestors]
  dsimp only
  rw [recordAncestor_recordAncestor]
  cases L.outcome.bind (·.resolvedRefs) with
  | none => rfl
  | some w' =>
    refine congrArg (recordAncestor ref · _) (funext fun conds => ?_)
    exact record_record rfl

end

/-! ## Visits of ledgers -/

def verdictOf (c : Condition) : Verdict := ⟨c.status, c.reason, c.message⟩

/-- A valid policy of a Service that exists is visited; `r` is what is wrong with it. -/
def Ledger.visitValid (r : Option Rejection) (L : Ledger) : Ledger :=
  match r with
  | none =>
    { L.settle (verdictOf policyAccepted) (verdictOf policyResolvedRefs) with confirmed := true }
  | some r => L.settle (verdictOf r.accepted) (verdictOf r.resolvedRefs)

def Ledger.visitConflicted (L : Ledger) : Ledger := L.accept (verdictOf policyConflicted)

def Ledger.visitMissingValid (svcName : NamespacedName) (L : Ledger) : Ledger :=
  if L.confirmed then L
  else L.settle (verdictOf (policyTargetMissing svcName))
    (verdictOf (policyBackendNotFound svcName))

def Ledger.visitMissingConflicted (L : Ledger) : Ledger :=
  if L.confirmed then L else L.visitConflicted

/-- The ledger of a policy after a visit. The visit fails if it changes the status of a policy that
    was written before. -/
def Ledger.advance (ref : ParentReference) (q : BackendTLSPolicy) (L L' : Ledger) :
    Option Ledger :=
  if L'.ancestors ref q = L.ancestors ref q ∨ L.ancestors ref q = timelessAncestors q.ancestors then
    some L'
  else none

/-- No call to the API server fails, except that an update has to be one of the resourceVersion that
    it has. -/
structure PolicyAPI.Responds (api : PolicyAPI) : Prop where
  services : ∀ svcName, ∃ exist, api.getService svcName = .ok exist
  configMaps : ∀ key, ∃ data, api.getConfigMap key = .ok data
  taken : ∀ btlsp, ∃ next, api.updateStatus btlsp.resourceVersion btlsp = .ok next ∧
    next ≠ btlsp.resourceVersion
  refused : ∀ version btlsp, btlsp.resourceVersion ≠ version →
    ∃ message, api.updateStatus version btlsp = .error message

/-- The ledger says what the run has done with the policy, which was written if its status is not
    the one that it came with. -/
structure Records (ref : ParentReference) (q : BackendTLSPolicy) (run : PolicyRun) (L : Ledger) :
    Prop where
  confirmed : run.isConfirmed q = L.confirmed
  loaded : timelessAncestors (run.load q).ancestors = L.ancestors ref q
  stored : timelessAncestors (run.stored q).ancestors = L.ancestors ref q
  fresh : (run.stored q).resourceVersion = q.resourceVersion ↔
    L.ancestors ref q = timelessAncestors q.ancestors

section Tracks

variable {api : PolicyAPI} {ref : ParentReference} {policies : Set BackendTLSPolicy}
  {run : PolicyRun} {ledgers : BackendTLSPolicy → Ledger} {p : BackendTLSPolicy}

theorem advance_self (L : Ledger) : L.advance ref p L = some L := if_pos (.inl rfl)

theorem rejection_eq_ok (hresponds : api.Responds) (btlsp : BackendTLSPolicy) :
    ∃ r, rejection api btlsp = .ok r := by
  rw [rejection]
  split
  · exact ⟨_, rfl⟩
  · split_ifs
    · exact ⟨_, rfl⟩
    · exact ⟨_, rfl⟩
    · exact ⟨_, rfl⟩
    · obtain ⟨data, hdata⟩ := hresponds.configMaps ⟨btlsp.ns, _⟩
      exact ⟨_, congrArg (Except.map _) hdata⟩

/-- An update is taken if it is the first one of the policy. -/
theorem updateStatus_cases (hresponds : api.Responds) {L : Ledger} (h : Records ref p run L)
    (btlsp : BackendTLSPolicy) (hkey : objectKey btlsp = objectKey p)
    (hversion : btlsp.resourceVersion = p.resourceVersion) :
    (L.ancestors ref p = timelessAncestors p.ancestors ∧ ∃ next,
        api.updateStatus (run.stored btlsp).resourceVersion btlsp = .ok next ∧
        next ≠ p.resourceVersion) ∨
      L.ancestors ref p ≠ timelessAncestors p.ancestors ∧ ∃ message,
        api.updateStatus (run.stored btlsp).resourceVersion btlsp = .error message := by
  have hstored : (run.stored btlsp).resourceVersion = (run.stored p).resourceVersion := by
    rw [PolicyRun.stored, PolicyRun.stored, hkey]
    cases run.updates.find? fun update => objectKey update = objectKey p with
    | none => exact hversion
    | some update => rfl
  rw [hstored]
  by_cases hfirst : L.ancestors ref p = timelessAncestors p.ancestors
  · left
    rw [h.fresh.2 hfirst, ← hversion]
    exact ⟨hfirst, hresponds.taken btlsp⟩
  · refine .inr ⟨hfirst, hresponds.refused _ _ ?_⟩
    rw [hversion]
    exact fun heq => hfirst (h.fresh.1 heq.symm)

/-- A visit that ends with a status changes the ledger of the policy only. -/
theorem byParts_store (hresponds : api.Responds)
    (hkeys : Set.InjOn objectKey policies)
    (h : ∀ q ∈ policies, Records ref q run (ledgers q)) (hp : p ∈ policies)
    {ancestors : List PolicyAncestorStatus} {L : Ledger} {confirmed : Go.Map NamespacedName Unit}
    (hconfirmed : ∀ q ∈ policies, (confirmed.get? (objectKey q)).isSome =
      if q = p then L.confirmed else run.isConfirmed q)
    (hstatus : timelessAncestors ancestors = L.ancestors ref p) :
    ByParts (Records ref) policies
      (PolicyRun.store api { run with confirmedValidBTLSPs := confirmed } (run.load p)
        { p with ancestors := ancestors })
      fun q => if q = p then (ledgers p).advance ref p L else some (ledgers q) := by
  have hL := h p hp
  have hne {q : BackendTLSPolicy} (hq : q ∈ policies) (hqp : q ≠ p) : objectKey q ≠ objectKey p :=
    fun hkey => hqp (hkeys hq hp hkey)
  -- the other policies are as they were
  have hother {updates : List BackendTLSPolicy} {q : BackendTLSPolicy} (hq : q ∈ policies)
      (hqp : q ≠ p) (hupdates : updates.find? (fun update => objectKey update = objectKey q) =
        run.updates.find? fun update => objectKey update = objectKey q) :
      Records ref q ⟨run.statuses.set (objectKey p) ancestors, confirmed, updates⟩ (ledgers q) := by
    obtain ⟨hconfirmedq, hloaded, hstored, hfresh⟩ := h q hq
    refine ⟨(hconfirmed q hq).trans ((if_neg hqp).trans hconfirmedq), ?_, ?_, ?_⟩
    · rw [← hloaded, PolicyRun.load, PolicyRun.load, Map.get?_set, if_neg (hne hq hqp)]
    · rw [← hstored, PolicyRun.stored, PolicyRun.stored, hupdates]
    · rw [← hfresh, PolicyRun.stored, PolicyRun.stored, hupdates]
  have hpconfirmed : (confirmed.get? (objectKey p)).isSome = L.confirmed :=
    (hconfirmed p hp).trans (if_pos rfl)
  have hploaded (updates : List BackendTLSPolicy) : timelessAncestors (PolicyRun.load
      ⟨run.statuses.set (objectKey p) ancestors, confirmed, updates⟩ p).ancestors =
      L.ancestors ref p := by
    rw [PolicyRun.load, Map.get?_set, if_pos rfl]
    exact hstatus
  rw [PolicyRun.store, updateBackendTLSPolicyStatus, hL.loaded, hstatus]
  by_cases hsame : (ledgers p).ancestors ref p = L.ancestors ref p
  · -- nothing is sent
    rw [if_pos hsame]
    intro q hq
    by_cases hqp : q = p
    · subst hqp
      refine ⟨L, (if_pos rfl).trans (if_pos (.inl hsame.symm)), hpconfirmed, hploaded _, ?_, ?_⟩
      · exact hL.stored.trans hsame
      · rw [← hsame]
        exact hL.fresh
    · exact ⟨_, if_neg hqp, hother hq hqp rfl⟩
  · rw [if_neg hsame]
    have hstored : PolicyRun.stored { run with confirmedValidBTLSPs := confirmed } = run.stored := rfl
    rw [hstored]
    rcases updateStatus_cases hresponds hL { p with ancestors := ancestors } rfl rfl with
      ⟨hfirst, next, hnext, hversion⟩ | ⟨hwritten, message, hmessage⟩
    · rw [hnext]
      intro q hq
      by_cases hqp : q = p
      · subst hqp
        have hfind : PolicyRun.stored ⟨run.statuses.set (objectKey q) ancestors, confirmed,
            { q with ancestors := ancestors, resourceVersion := next } :: run.updates⟩ q =
            { q with ancestors := ancestors, resourceVersion := next } :=
          congrArg (Option.getD · q) (List.find?_cons_of_pos (decide_eq_true rfl))
        refine ⟨L, (if_pos rfl).trans (if_pos (.inr hfirst)), hpconfirmed, hploaded _, ?_, ?_⟩
        · exact (congrArg (fun btlsp => timelessAncestors btlsp.ancestors) hfind).trans hstatus
        · refine iff_of_false (fun heq => hversion ?_) fun heq => hsame (hfirst.trans heq.symm)
          exact (congrArg BackendTLSPolicy.resourceVersion hfind).symm.trans heq
      · refine ⟨_, if_neg hqp, hother hq hqp (List.find?_cons_of_neg ?_)⟩
        exact fun hkey => hne hq hqp (of_decide_eq_true hkey).symm
    · rw [hmessage]
      refine ⟨p, hp, (if_pos rfl).trans (if_neg ?_)⟩
      rintro (heq | heq)
      · exact hsame heq.symm
      · exact hwritten heq

section Status

variable {L : Ledger} {btlsp : BackendTLSPolicy} {c : Condition} {v : Verdict} (now : Nat)

theorem status_accept (hgeneration : btlsp.generation = p.generation)
    (h : timelessAncestors btlsp.ancestors = L.ancestors ref p) (hc : c.type = "Accepted") :
    timelessAncestors (setAncestorCondition now btlsp ref c).ancestors =
      (L.accept (verdictOf c)).ancestors ref p := by
  rw [timelessAncestors_set, h, ← ancestors_accept, hgeneration, timeless, hc]
  rfl

theorem status_settle (hgeneration : btlsp.generation = p.generation)
    (h : timelessAncestors btlsp.ancestors = (L.accept v).ancestors ref p)
    (hc : c.type = "ResolvedRefs") :
    timelessAncestors (setAncestorCondition now btlsp ref c).ancestors =
      (L.settle v (verdictOf c)).ancestors ref p := by
  rw [timelessAncestors_set, h, ← ancestors_settle, hgeneration, timeless, hc]
  rfl

end Status

variable (hresponds : api.Responds)
  (hkeys : Set.InjOn objectKey policies)
  (h : ∀ q ∈ policies, Records ref q run (ledgers q)) (hp : p ∈ policies)

include h hp in
theorem isConfirmed_of_records {L : Ledger} (hL : L.confirmed = (ledgers p).confirmed) :
    ∀ q ∈ policies, (run.confirmedValidBTLSPs.get? (objectKey q)).isSome =
      if q = p then L.confirmed else run.isConfirmed q := by
  intro q _
  split_ifs with hqp
  · subst hqp
    rw [hL, ← (h q hp).confirmed]
    rfl
  · rfl

include h in
/-- A visit that is skipped. -/
theorem byParts_skipped : ByParts (Records ref) policies (pure run : Except PolicyFailure PolicyRun)
    fun q => if q = p then (ledgers p).advance ref p (ledgers p) else some (ledgers q) := by
  refine (byParts_pure h).congr fun q _ => ?_
  split_ifs with hqp
  · rw [advance_self, hqp]
  · rfl

include hresponds hkeys h hp

theorem byParts_visitConflicted : ByParts (Records ref) policies (visitConflicted api ref run p)
    fun q => if q = p then (ledgers p).advance ref p (ledgers p).visitConflicted
      else some (ledgers q) :=
  byParts_store hresponds hkeys h hp (isConfirmed_of_records h hp rfl)
    (status_accept api.now rfl (h p hp).loaded rfl)

theorem byParts_visitMissingConflicted :
    ByParts (Records ref) policies (visitMissingConflicted api ref run p)
      fun q => if q = p then (ledgers p).advance ref p (ledgers p).visitMissingConflicted
        else some (ledgers q) := by
  rw [visitMissingConflicted, (h p hp).confirmed, Ledger.visitMissingConflicted]
  split_ifs
  · exact byParts_skipped h
  · exact byParts_visitConflicted hresponds hkeys h hp

theorem byParts_visitMissingValid (svcName : NamespacedName) :
    ByParts (Records ref) policies (visitMissingValid api ref svcName run p)
      fun q => if q = p then (ledgers p).advance ref p ((ledgers p).visitMissingValid svcName)
        else some (ledgers q) := by
  rw [visitMissingValid, (h p hp).confirmed, Ledger.visitMissingValid]
  split_ifs
  · exact byParts_skipped h
  · exact byParts_store hresponds hkeys h hp (isConfirmed_of_records h hp rfl)
      (status_settle api.now rfl (status_accept api.now rfl (h p hp).loaded rfl) rfl)

theorem byParts_visitValid {r : Option Rejection} (hr : rejection api p = .ok r) :
    ByParts (Records ref) policies (visitValid api ref run p)
      fun q => if q = p then (ledgers p).advance ref p ((ledgers p).visitValid r)
        else some (ledgers q) := by
  have hsettled : timelessAncestors (setAncestorCondition api.now
      (setAncestorCondition api.now (run.load p) ref policyAccepted) ref
        policyResolvedRefs).ancestors =
      ((ledgers p).settle (verdictOf policyAccepted) (verdictOf policyResolvedRefs)).ancestors
        ref p :=
    status_settle api.now rfl (status_accept api.now rfl (h p hp).loaded rfl) rfl
  rw [visitValid, validateSpec]
  dsimp only
  have hr' : rejection api (setAncestorCondition api.now
      (setAncestorCondition api.now (run.load p) ref policyAccepted) ref policyResolvedRefs) =
      .ok r := hr
  rw [hr']
  cases r with
  | none =>
    refine byParts_store hresponds hkeys h hp (fun q hq => ?_) hsettled
    show ((run.confirmedValidBTLSPs.set (objectKey p) ()).get? (objectKey q)).isSome = _
    rw [Map.get?_set]
    by_cases hqp : q = p
    · rw [if_pos hqp, if_pos (congrArg objectKey hqp)]
      rfl
    · rw [if_neg hqp, if_neg fun hkey => hqp (hkeys hq hp hkey)]
      rfl
  | some r =>
    -- the conditions that say that the policy is valid are overwritten
    refine byParts_store hresponds hkeys h hp (isConfirmed_of_records h hp rfl) ?_
    exact status_settle
      (L := (ledgers p).settle (verdictOf policyAccepted) (verdictOf policyResolvedRefs))
      api.now rfl (status_accept api.now rfl hsettled rfl) rfl

end Tracks

end Reconcile
