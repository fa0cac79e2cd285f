import Dolphin.Pipeline.Ownership
import Dolphin.Reconcile.GatewayStatus
import Dolphin.Reconcile.RouteChecks

/-!
# A run of `Reconcile` for a Gateway

`reconcile` is what a run does about the status of its Gateway. There are two copies of it: the
Gateway as it was read, and the one that is modified. A run ends by comparing them, and the
modified one is written if they differ in more than times (`updateStatus`).

If translation, one of the resources or the addresses fail, the status should say so
(`FailureVisible`). But the conditions that say so are set in the copy that was read, which is
never written. What is written says that the Gateway is accepted; that it is not programmed, it says
only if this was so before (`failureVisible_iff`).
-/

namespace Pipeline

open Gatewayv1 Go Ingestion Reconcile Translation List Option

/-! ## The status of a Gateway -/

structure GatewayStatus where
  addresses : List GatewayStatusAddress := []
  conditions : List Condition := []
  listeners : List ListenerStatus := []
  attachedListenerSets : Option Nat := none
  deriving DecidableEq, Repr

/-- A status without the times of transition. -/
def timelessGatewayStatus (status : GatewayStatus) : GatewayStatus :=
  { status with
    conditions := status.conditions.map timeless
    listeners := status.listeners.map timelessListener }

/-- The status that is written, if any. -/
def updateStatus (original modified : GatewayStatus) : Option GatewayStatus :=
  if timelessGatewayStatus original = timelessGatewayStatus modified then none else some modified

section

variable (gw : Gateway) (now : Nat)

/-- A condition of a Gateway, whose reason depends on whether it holds. -/
def gatewayCondition (type trueReason falseReason : String) (holds : Bool) (msg : String) :
    Condition where
  type := type
  status := if holds then .true else .false
  reason := if holds then trueReason else falseReason
  message := msg
  observedGeneration := gw.generation
  lastTransitionTime := now

def gatewayStatusAcceptedCondition : Bool → String → Condition :=
  gatewayCondition gw now "Accepted" "Accepted" "NoResources"

def gwStsProgrmCondition : Bool → String → Condition :=
  gatewayCondition gw now "Programmed" "Accepted" "ListenersNotReady"

def setGatewayAccepted (accepted : Bool) (msg : String) (status : GatewayStatus) : GatewayStatus :=
  { status with
    conditions := merge status.conditions [gatewayStatusAcceptedCondition gw now accepted msg] }

def setGatewayProgrammed (ready : Bool) (msg : String) (status : GatewayStatus) : GatewayStatus :=
  { status with
    conditions := merge status.conditions [gwStsProgrmCondition gw now ready msg] }

end

/-! ## What a run sees -/

/-- The steps of a run that may end it with an error. -/
inductive Step
  | listHTTPRoutes | listTLSRoutes | listServices | listGRPCRoutes | listTCPRoutes | listUDPRoutes
  | listReferenceGrants | setRouteStatuses | setTCPRouteStatuses | setUDPRouteStatuses
  | listListenerSets | listNamespaces | listBackendTLSPolicies | setBackendTLSPolicyStatuses
  | setListenerStatus | translate | ensureService | ensureEndpoints | ensureEnvoyConfig
  | ensureCiliumEnvoyConfig | deleteEnvoyConfigs | setAddressStatus
  deriving DecidableEq, Repr

structure Failure where
  step : Step
  err : String
  deriving DecidableEq, Repr

/-- What a run sees of the cluster. Calls of the API server that fail have an error; those that are
    not made, as there is no such resource, have none. -/
structure ClusterView where
  api : RouteAPI
  listing : Listing := {}
  hasListenerSetSupport : Bool := true
  listenerSets : List ListenerSet := []
  validateTLSSecret : String → String → Option String := fun _ _ => none
  /-- The Services, when the addresses are looked up. -/
  services : List LiveService := []
  error : Step → Option String := fun _ => none
  /-- The ReferenceGrants are listed once more for the statuses of ListenerSets. If this fails,
      the run goes on. -/
  listenerSetGrantsFail : Bool := false
  orders : RangeOrders
  keys_nodup : (listenerSets.map listenerSetKey).Nodup

/-- What does not change from run to run. -/
structure Settings where
  hash : String → String
  slices : Slices
  translator : GatewayTranslator
  nodePort : Bool := false

namespace ClusterView

variable (v : ClusterView)

def failure (step : Step) : Option Failure := (v.error step).map (⟨step, ·⟩)

/-- Go on with `rest` if none of the calls fails. -/
def calls {α : Type} (steps : List Step) (rest : Result (Except Failure α)) :
    Result (Except Failure α) :=
  match steps.findSome? v.failure with
  | some f => pure (.error f)
  | none => rest

/-- What the run sees of ListenerSets, and of the routes with the statuses made in the run. -/
def answers (listing : Listing) : Answers where
  hasListenerSetSupport := v.hasListenerSetSupport
  listenerSets := some v.listenerSets
  referenceGrants := if v.listenerSetGrantsFail then none else some v.listing.referenceGrants
  validateTLSSecret := v.validateTLSSecret
  listing := listing
  now := v.api.now
  keys_nodup := v.keys_nodup

/-- The ListenerSets that the Gateway allows. -/
def attached (gw : Gateway) : List ListenerSet :=
  (filterToAllowedListenerSets v.api.toCluster gw v.api.now
    (listenerSetsForGateway (v.answers v.listing))).1

/-- The listeners that conflict with others. -/
def conflicted (gw : Gateway) : List (Model.FullyQualifiedResource × String) :=
  conflictsAcrossSources (mergeListeners v.api.toCluster gw (v.attached gw))

end ClusterView

/-! ## The run -/

/-- How a run ends: its error, if it fails, and the two copies that are compared in the end. -/
structure Outcome where
  failure : Option Failure := none
  update : Option (GatewayStatus × GatewayStatus) := none

/-- The status that a run writes. -/
def Outcome.written (o : Outcome) : Option GatewayStatus :=
  o.update.bind fun (original, modified) => updateStatus original modified

theorem Outcome.written_of_update {o : Outcome} {original modified : GatewayStatus}
    (h : o.update = some (original, modified)) : o.written = updateStatus original modified := by
  rw [Outcome.written, h]
  rfl

/-- The status of the Gateway after the run, if it can be written. -/
def Outcome.persisted (o : Outcome) (before : GatewayStatus) : GatewayStatus :=
  o.written.getD before

/-- `handleReconcileErrorWithStatus`. -/
def handleReconcileErrorWithStatus (f : Failure) (original modified : GatewayStatus) : Outcome :=
  ⟨some f, some (original, modified)⟩

section

variable (settings : Settings) (v : ClusterView) (gw : Gateway) (status : GatewayStatus)

/-- What the run has made when it comes to the status of the Gateway. -/
structure Prepared where
  listing : Listing
  model : Model

/-- The run up to the status of the Gateway. -/
def prepare : Result (Except Failure Prepared) :=
  v.calls [.listHTTPRoutes, .listTLSRoutes, .listServices, .listGRPCRoutes, .listTCPRoutes,
      .listUDPRoutes, .listReferenceGrants, .setRouteStatuses] do
    let listing ← setRouteStatuses v.api v.listing
    v.calls [.setTCPRouteStatuses, .setUDPRouteStatuses, .listListenerSets, .listNamespaces] do
      let input ← buildInput v.api.toCluster gw (v.attached gw) listing
      let model ← gatewayAPI input
      v.calls [.listBackendTLSPolicies, .setBackendTLSPolicyStatuses] (pure (.ok ⟨listing, model⟩))

/-- An error in the preparation, when the two copies are still the same. Errors of the statuses of
    other objects are not handled with the status of the Gateway. -/
def prepareError (f : Failure) : Outcome :=
  if f.step ∈ [.setRouteStatuses, .setTCPRouteStatuses, .setUDPRouteStatuses,
      .setBackendTLSPolicyStatuses] then ⟨some f, none⟩
  else handleReconcileErrorWithStatus f status status

/-- The statuses of the listeners of the Gateway. -/
def listenerStatuses (p : Prepared) : Result (List ListenerStatus) :=
  setListenerStatus v.api.toCluster gw
    ⟨v.listing.referenceGrants, v.validateTLSSecret, v.api.now⟩ p.listing status.listeners

/-- The number of attached ListenerSets with a valid listener, unless it is none. -/
def countListenerSets (p : Prepared) : Result (Option Nat) :=
  if v.listenerSetGrantsFail then pure none
  else do
    let count ← (setListenerSetStatuses v.api.toCluster gw (v.answers p.listing) (v.conflicted gw)
      v.listing.referenceGrants (v.attached gw)).2
    pure (if count > 0 then some count else none)

/-- The calls that store the resources. -/
def ensureSteps (res : GatewayResources) : List Step :=
  [.ensureService, .ensureEndpoints] ++
    if res.config.isSome then [.ensureEnvoyConfig, .ensureCiliumEnvoyConfig]
    else [.deleteEnvoyConfigs]

/-- The message with which the Gateway is not accepted if the step fails. -/
def ensureMessage : Step → Option String
  | .translate => some "Unable to translate resources"
  | .ensureService => some "Unable to create Service resource"
  | .ensureEndpoints => some "Unable to ensure Endpoints resource"
  | .ensureEnvoyConfig => some "Unable to ensure CEC resource"
  | .ensureCiliumEnvoyConfig => some "Unable to ensure CiliumEnvoyConfig resource"
  | _ => none

/-- The copy that was read, after the step has failed. -/
def notAccepted (step : Step) (original : GatewayStatus) : GatewayStatus :=
  match ensureMessage step with
  | some msg => setGatewayAccepted gw v.api.now false msg original
  | none => original

/-- The addresses of the Gateway. -/
def addresses : Except Failure (List GatewayStatusAddress) :=
  match v.failure .setAddressStatus with
  | some f => .error f
  | none => (setAddressStatus settings.hash gw v.services).mapError (⟨.setAddressStatus, ·⟩)

/-- The run from the statuses of the listeners on. -/
def finish (p : Prepared) : Result Outcome :=
  match v.failure .setListenerStatus with
  | some f =>
    pure (handleReconcileErrorWithStatus f status
      (setGatewayAccepted gw v.api.now false "Unable to set listener status" status))
  | none => do
    let listeners ← listenerStatuses v gw status p
    let modified := setGatewayAccepted gw v.api.now true "Gateway successfully scheduled"
      { status with listeners := listeners }
    -- this is set in the copy that was read
    let count ← countListenerSets v gw p
    let original := { status with attachedListenerSets := count }
    let resources ← settings.translator.translate settings.hash settings.slices v.orders
      settings.nodePort p.model
    match resources with
    | .error err =>
      pure (handleReconcileErrorWithStatus ⟨.translate, err⟩ (notAccepted v gw .translate original)
        modified)
    | .ok res =>
      match (ensureSteps res).findSome? v.failure with
      | some f => pure (handleReconcileErrorWithStatus f (notAccepted v gw f.step original) modified)
      | none =>
        match addresses settings v gw with
        | .error f =>
          pure (handleReconcileErrorWithStatus f
            (setGatewayProgrammed gw v.api.now false "Address is not ready" original) modified)
        | .ok addresses =>
          let modified := setGatewayProgrammed gw v.api.now true "reconciled successfully"
            { modified with addresses := addresses }
          pure ⟨none, some (original, modified)⟩

/-- A run for a Gateway that exists and is not being deleted. -/
def reconcile : Result Outcome :=
  if hasMatchingController v.api gw then do
    match ← prepare v gw with
    | .error f => pure (prepareError status f)
    | .ok p => finish settings v gw status p
  else pure {}

end

/-! ## Failures that the status should show -/

/-- What the status says about the condition of a type, for a generation. -/
def Reports (status : GatewayStatus) (type : String) (generation : Int) (value : ConditionStatus) :
    Prop :=
  ∃ cond, status.conditions.find? (·.type == type) = some cond ∧ cond.status = value ∧
    cond.observedGeneration = generation

/-- The steps whose failure the status should show. -/
def reportedSteps : List Step :=
  [.translate, .ensureService, .ensureEndpoints, .ensureEnvoyConfig, .ensureCiliumEnvoyConfig,
    .setAddressStatus]

/-- The condition that should not hold after the step has failed. -/
def reportedType (step : Step) : String :=
  if step = .setAddressStatus then "Programmed" else "Accepted"

/-- A condition of this type that holds contradicts the failure of the step. -/
def Contradicts (step : Step) (type : String) : Prop :=
  type = "Programmed" ∨ step ≠ .setAddressStatus ∧ type = "Accepted"

/-- After a run that ends with the failure of a step, the status says for the generation of the
    Gateway that the condition does not hold, and the run has written no condition to the
    contrary. -/
structure FailureVisible (gw : Gateway) (before : GatewayStatus) (step : Step) (o : Outcome) :
    Prop where
  reported : Reports (o.persisted before) (reportedType step) gw.generation .false
  consistent : ∀ written, o.written = some written → ∀ cond ∈ written.conditions,
    cond.status = .true → Contradicts step cond.type →
      timeless cond ∈ before.conditions.map timeless

section

variable {s s' : GatewayStatus} {type : String} {generation : Int} {value value' : ConditionStatus}

theorem Reports.unique (h : Reports s type generation value) (h' : Reports s type generation value') :
    value = value' := by
  obtain ⟨cond, hfind, rfl, _⟩ := h
  obtain ⟨cond', hfind', rfl, _⟩ := h'
  rw [some_inj.1 (hfind.symm.trans hfind')]

theorem reports_of_recorded {u : Condition} (h : Recorded s.conditions u) :
    Reports s u.type u.observedGeneration u.status := by
  obtain ⟨cond, hfind, hsame⟩ := h
  simp only [conditionChanged, Bool.or_eq_false_iff, bne_eq_false_iff_eq] at hsame
  exact ⟨cond, hfind, hsame.1.1.1, hsame.2⟩

theorem Reports.of_timeless (h : timelessGatewayStatus s = timelessGatewayStatus s')
    (hs : Reports s type generation value) : Reports s' type generation value := by
  have hconds : s.conditions.map timeless = s'.conditions.map timeless :=
    congrArg GatewayStatus.conditions h
  have hfind (conds : List Condition) : (conds.map timeless).find? (·.type == type) =
      (conds.find? (·.type == type)).map timeless := by
    rw [find?_map]
    rfl
  obtain ⟨cond, hcond, rfl, rfl⟩ := hs
  have hcond' := hfind s'.conditions
  rw [← hconds, hfind, hcond] at hcond'
  obtain ⟨cond', hcond', htimeless⟩ := map_eq_some_iff.1 hcond'.symm
  simp only [timeless, Condition.mk.injEq] at htimeless
  exact ⟨cond', hcond', htimeless.2.1, htimeless.2.2.2.2.1⟩

variable {gw : Gateway} {now : Nat}

theorem reports_setGatewayAccepted (accepted : Bool) (msg : String) (s : GatewayStatus) :
    Reports (setGatewayAccepted gw now accepted msg s) "Accepted" gw.generation
      (if accepted then .true else .false) := by
  have hrecorded : Recorded (setGatewayAccepted gw now accepted msg s).conditions
      (gatewayStatusAcceptedCondition gw now accepted msg) := recorded_merge _ _
  exact reports_of_recorded hrecorded

theorem reports_setGatewayAccepted_of_ne (h : "Accepted" ≠ type) {accepted : Bool} {msg : String} :
    Reports (setGatewayAccepted gw now accepted msg s) type generation value ↔
      Reports s type generation value := by
  have hfind : (setGatewayAccepted gw now accepted msg s).conditions.find? (·.type == type) =
      s.conditions.find? (·.type == type) :=
    find_merge_of_ne (u := gatewayStatusAcceptedCondition gw now accepted msg) h
  rw [Reports, Reports, hfind]

end

section

variable {settings : Settings} {v : ClusterView} {gw : Gateway} {before : GatewayStatus}
  {o : Outcome} {f : Failure}

theorem step_of_failure {steps : List Step} (h : steps.findSome? v.failure = some f) :
    f.step ∈ steps := by
  obtain ⟨step, hstep, hf⟩ := exists_of_findSome?_eq_some h
  obtain ⟨err, _, rfl⟩ := map_eq_some_iff.1 hf
  exact hstep

theorem calls_eq_error {α : Type} {steps : List Step} {rest : Result (Except Failure α)}
    (h : v.calls steps rest = .ok (.error f)) : f.step ∈ steps ∨ rest = .ok (.error f) := by
  rw [ClusterView.calls] at h
  split at h
  · rename_i f' hf'
    obtain rfl := Except.error.inj (pure_eq_ok.1 h)
    exact .inl (step_of_failure hf')
  · exact .inr h

theorem step_of_prepare (h : prepare v gw = .ok (.error f)) : f.step ∉ reportedSteps := by
  have hdisjoint {steps : List Step} (hdisjoint : ∀ step ∈ steps, step ∉ reportedSteps)
      (hstep : f.step ∈ steps) : f.step ∉ reportedSteps := hdisjoint _ hstep
  rcases calls_eq_error h with hstep | h
  · exact hdisjoint (by decide) hstep
  · obtain ⟨listing, _, h⟩ := bind_eq_ok.1 h
    rcases calls_eq_error h with hstep | h
    · exact hdisjoint (by decide) hstep
    · obtain ⟨input, _, h⟩ := bind_eq_ok.1 h
      obtain ⟨model, _, h⟩ := bind_eq_ok.1 h
      rcases calls_eq_error h with hstep | h
      · exact hdisjoint (by decide) hstep
      · cases h

theorem failure_prepareError : (prepareError before f).failure = some f := by
  rw [prepareError]
  split_ifs <;> rfl

theorem step_of_addresses (h : addresses settings v gw = .error f) :
    f.step = .setAddressStatus := by
  rw [addresses] at h
  split at h
  · rename_i f' hf'
    obtain rfl := Except.error.inj h
    obtain ⟨err, _, rfl⟩ := map_eq_some_iff.1 hf'
    rfl
  · cases haddress : setAddressStatus settings.hash gw v.services with
    | error err =>
      rw [haddress] at h
      obtain rfl := Except.error.inj h
      rfl
    | ok addresses =>
      rw [haddress] at h
      cases h

theorem exists_ensureMessage {step : Step} (h : step ∈ reportedSteps)
    (hne : step ≠ .setAddressStatus) : ∃ msg, ensureMessage step = some msg := by
  simp only [reportedSteps, mem_cons, not_mem_nil, or_false, hne] at h
  rcases h with rfl | rfl | rfl | rfl | rfl <;> exact ⟨_, rfl⟩

section

variable (h : reconcile settings v gw before = .ok o) (hf : o.failure = some f)
  (hreported : f.step ∈ reportedSteps)

include h hf hreported

/-- The copies that are compared after a failure: the modified one accepts the Gateway, and only the
    one that was read says that it is not accepted. -/
theorem update_of_failure : ∃ original listeners, o.update = some (original,
        setGatewayAccepted gw v.api.now true "Gateway successfully scheduled"
          { before with listeners := listeners }) ∧
      (f.step ≠ .setAddressStatus → Reports original "Accepted" gw.generation .false) := by
  rw [reconcile] at h
  split_ifs at h
  · obtain ⟨prepared, hprepared, h⟩ := bind_eq_ok.1 h
    cases prepared with
    | error f' =>
      rw [← pure_eq_ok.1 h, failure_prepareError, some_inj] at hf
      exact absurd hreported (step_of_prepare (hf ▸ hprepared))
    | ok p =>
      have hnotAccepted (original : GatewayStatus) (hne : f.step ≠ .setAddressStatus) :
          Reports (notAccepted v gw f.step original) "Accepted" gw.generation .false := by
        obtain ⟨msg, hmsg⟩ := exists_ensureMessage hreported hne
        rw [notAccepted, hmsg]
        exact reports_setGatewayAccepted false msg original
      simp only [finish] at h
      split at h
      · rename_i f' hf'
        obtain rfl := pure_eq_ok.1 h
        obtain rfl : f' = f := some_inj.1 hf
        obtain ⟨err, _, rfl⟩ := map_eq_some_iff.1 hf'
        have hnot : Step.setListenerStatus ∉ reportedSteps := by decide
        exact absurd hreported hnot
      · obtain ⟨listeners, _, h⟩ := bind_eq_ok.1 h
        obtain ⟨count, _, h⟩ := bind_eq_ok.1 h
        obtain ⟨resources, _, h⟩ := bind_eq_ok.1 h
        -- the steps in turn; each failure hands over the same modified copy
        cases resources with
        | error err =>
          obtain rfl := pure_eq_ok.1 h
          obtain rfl := some_inj.1 hf
          exact ⟨_, listeners, rfl, hnotAccepted _⟩
        | ok res =>
          dsimp only at h
          split at h
          · obtain rfl := pure_eq_ok.1 h
            obtain rfl := some_inj.1 hf
            exact ⟨_, listeners, rfl, hnotAccepted _⟩
          · split at h
            · rename_i f' hf'
              obtain rfl := pure_eq_ok.1 h
              obtain rfl : f' = f := some_inj.1 hf
              exact ⟨_, listeners, rfl, fun hne => absurd (step_of_addresses hf') hne⟩
            · rw [← pure_eq_ok.1 h] at hf
              cases hf
  · rw [← pure_eq_ok.1 h] at hf
    cases hf

/-- A failure shows exactly if it is one of the addresses, and the status said for the generation of
    the Gateway already that it is not programmed. -/
theorem failureVisible_iff :
    FailureVisible gw before f.step o ↔
      f.step = .setAddressStatus ∧ Reports before "Programmed" gw.generation .false := by
  obtain ⟨original, listeners, hupdate, hnot⟩ := update_of_failure h hf hreported
  have haccepted : Reports (setGatewayAccepted gw v.api.now true "Gateway successfully scheduled"
      { before with listeners := listeners }) "Accepted" gw.generation .true :=
    reports_setGatewayAccepted true _ _
  have hwritten : o.written = updateStatus original (setGatewayAccepted gw v.api.now true
      "Gateway successfully scheduled" { before with listeners := listeners }) :=
    Outcome.written_of_update hupdate
  by_cases haddress : f.step = .setAddressStatus
  · have hprogrammed : Reports (o.persisted before) "Programmed" gw.generation .false ↔
        Reports before "Programmed" gw.generation .false := by
      rw [Outcome.persisted, hwritten, updateStatus]
      split_ifs
      · exact Iff.rfl
      · exact reports_setGatewayAccepted_of_ne (s := { before with listeners := listeners })
          (by decide)
    rw [haddress]
    constructor
    · intro hvisible
      exact ⟨rfl, hprogrammed.1 hvisible.reported⟩
    · rintro ⟨_, hbefore⟩
      refine ⟨hprogrammed.2 hbefore, fun written hsome cond hcond _ hcontradicts => ?_⟩
      rcases hcontradicts with htype | ⟨hne, _⟩
      · -- only the acceptance is new
        rw [hwritten, updateStatus] at hsome
        split_ifs at hsome
        obtain rfl := some_inj.1 hsome
        have hne : cond.type ≠ "Accepted" := by
          rw [htype]
          decide
        exact mem_map_of_mem (mem_of_mem_merge hne hcond)
      · exact absurd rfl hne
  · refine iff_of_false (fun hvisible => ?_) fun hand => haddress hand.1
    have hreports := hvisible.reported
    rw [reportedType, if_neg haddress, Outcome.persisted, hwritten, updateStatus] at hreports
    split_ifs at hreports with hsame
    · -- the two copies are not the same, as only one of them is accepted
      exact absurd ((hnot haddress).of_timeless hsame |>.unique haccepted) (by decide)
    · exact absurd (hreports.unique haccepted) (by decide)

end

end

/-! ## A Gateway whose resources fail -/

def edgeAPI : RouteAPI := .ofGateway edgeGateway

/-- The Service of the Gateway, with what its load balancer reports. -/
def edgeService (ingress : List LoadBalancerIngress) : LiveService where
  ns := "infra"
  labels := Map.ofList [(owningGatewayLabel, "edge")]
  ingress := ingress

/-- The calls of the run do not fail, but for those of the given step. -/
def edgeView (failing : Option Step) (ingress : List LoadBalancerIngress) : ClusterView where
  api := edgeAPI
  listenerSets := []
  services := [edgeService ingress]
  error step := if failing = some step then some "conflict" else none
  orders := .entries
  keys_nodup := nodup_nil

def edgeSettings : Settings where
  hash s := s
  slices := .reference
  translator := gatewayTranslator

def waitingStatus : GatewayStatus where
  conditions := [⟨"Programmed", .false, "ListenersNotReady", "Address is not ready", 1, 0⟩]

theorem waiting_run : ∃ o f,
    reconcile edgeSettings (edgeView none []) edgeGateway waitingStatus = .ok o ∧
      o.failure = some f ∧ f.step = .setAddressStatus :=
  ⟨_, _, rfl, rfl, rfl⟩

/-- If the Gateway was not programmed before, the status is left at that. -/
theorem failureVisible_waiting : ∃ o f,
    reconcile edgeSettings (edgeView none []) edgeGateway waitingStatus = .ok o ∧
      o.failure = some f ∧ FailureVisible edgeGateway waitingStatus f.step o := by
  obtain ⟨o, f, hrun, hf, hstep⟩ := waiting_run
  refine ⟨o, f, hrun, hf, (failureVisible_iff hrun hf ?_).2 ⟨hstep, _, rfl, rfl, rfl⟩⟩
  rw [hstep]
  decide

/-- The Service cannot be stored, but the status that is written says that the Gateway is
    accepted. -/
theorem failure_not_visible : ∃ o f,
    reconcile edgeSettings (edgeView (some .ensureService) []) edgeGateway {} = .ok o ∧
      o.failure = some f ∧ f.step ∈ reportedSteps ∧
      ¬ FailureVisible edgeGateway {} f.step o := by
  refine ⟨_, _, rfl, rfl, by decide, fun hvisible => ?_⟩
  exact absurd (hvisible.reported.unique ⟨_, rfl, rfl, rfl⟩) (by decide)

end Pipeline
