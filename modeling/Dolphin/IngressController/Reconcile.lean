import Dolphin.Go.Acts
import Dolphin.IngressController.Tenancy

/-!
# Reconciling an Ingress

`reconcile` is the `Reconcile` of Ingresses, as a change of the cluster: it writes the shared Envoy
configuration, and writes or deletes the Envoy configuration, the Service and the Endpoints of the
Ingress. Every call of the API server may fail, which ends the run and leaves what it did before.

* `buildDedicatedResources_spec`: what is written for an Ingress has the names under which it is
  deleted;
* `reconcile_succeeds`: what a run that succeeds did, for an Ingress that is there.
-/

namespace IngressController

open Model Go Networkingv1 Gatewayv1 Annotations Ingestion Translation Option

/-! ## The cluster -/

/-- The kinds of objects that are written for an Ingress. -/
inductive Kind
  | service | endpoints | config
  deriving DecidableEq, Repr

/-- The Ingresses of a cluster, whose names are distinct. -/
structure IngressTable where
  items : List Ingress
  nodup : (items.map (·.key)).Nodup

theorem nodup_keys_singleton (ing : Ingress) : ([ing].map (·.key)).Nodup := List.nodup_singleton _

def IngressTable.get? (table : IngressTable) (key : NamespacedName) : Option Ingress :=
  table.items.find? fun ing => ing.key = key

/-- What the operator reads and writes. The status of an Ingress, which is written but not read, is
    left out. -/
structure Cluster where
  ingresses : IngressTable
  dolphinClass : Option IngressClass := none
  services : NamespacedName → Option IngressService := fun _ => none
  endpoints : NamespacedName → Option IngressEndpoints := fun _ => none
  configs : NamespacedName → Option DolphinEnvoyConfig := fun _ => none

/-- An object is there. -/
def Cluster.has (s : Cluster) : Kind → NamespacedName → Bool
  | .service, key => (s.services key).isSome
  | .endpoints, key => (s.endpoints key).isSome
  | .config, key => (s.configs key).isSome

/-- The owners of an object that is there. -/
def Cluster.owners (s : Cluster) : Kind → NamespacedName → Option (List OwnerReference)
  | .service, key => (s.services key).map (·.ownerReferences)
  | .endpoints, key => (s.endpoints key).map (·.ownerReferences)
  | .config, key => (s.configs key).map (·.ownerReferences)

def Cluster.delete (s : Cluster) : Kind → NamespacedName → Cluster
  | .service, key => { s with services := Function.update s.services key none }
  | .endpoints, key => { s with endpoints := Function.update s.endpoints key none }
  | .config, key => { s with configs := Function.update s.configs key none }

/-- The name of the object of a kind for an Ingress, as it is computed where objects are deleted. -/
def dedicatedKey (key : NamespacedName) : Kind → NamespacedName
  | .service | .endpoints => ⟨key.ns, dolphinIngressPrefix ++ "-" ++ key.name⟩
  | .config => ⟨key.ns, dolphinIngressPrefix ++ "-" ++ key.ns ++ "-" ++ key.name⟩

/-! ## Calls that may fail -/

/-- The calls of a run. A run of `CreateOrUpdate` counts as one. -/
inductive Step
  | getIngress | listIngresses | writeShared | writeConfig | writeService | writeEndpoints
  | get (kind : Kind) | delete (kind : Kind) | getLoadBalancer | updateStatus
  deriving DecidableEq, Repr

inductive APIError
  | namespaceTerminating
  | other (message : String)
  deriving DecidableEq, Repr

inductive Failure
  | api (step : Step) (err : APIError)
  | build (message : String)
  | panicked
  deriving DecidableEq, Repr

/-- A write is forbidden as the namespace is being terminated. -/
def Failure.isTerminating : Failure → Bool
  | .api _ .namespaceTerminating => true
  | _ => false

/-- What differs from run to run: the orders in which maps are visited, and which calls fail. -/
structure Environment where
  slices : Slices
  orders : RangeOrders
  cleanupOrder : RangeOrder Kind := .entries
  faults : Step → Option APIError := fun _ => none

abbrev ClusterAct := Act Cluster Failure

/-- The call, unless it fails. -/
def Environment.call (env : Environment) (step : Step) (act : ClusterAct) : ClusterAct :=
  match env.faults step with
  | some err => .fail (.api step err)
  | none => act

/-! ## The run -/

/-- An operator whose shared configuration has a name of its own: one with the name of that of an
    Ingress would be the same object. -/
structure Operator extends IngressReconciler where
  shared_ne : ∀ name, sharedLBServiceName ≠ configName dolphinNamespace name

def Operator.sharedKey (r : Operator) : NamespacedName := ⟨r.dolphinNamespace, r.sharedLBServiceName⟩

section

variable (r : Operator) (env : Environment)

def createOrUpdateDolphinEnvoyConfig (step : Step) (desired : DolphinEnvoyConfig) : ClusterAct :=
  env.call step <| .modify fun s =>
    let key : NamespacedName := ⟨desired.ns, desired.name⟩
    let dec := (s.configs key).getD desired
    { s with
      configs := Function.update s.configs key (some
        { desired with
          annotations := mergeMap dec.annotations desired.annotations []
          labels := mergeMap dec.labels desired.labels [] }) }

/-- The class of the load balancer stays. -/
def createOrUpdateService (desired : IngressService) : ClusterAct :=
  env.call .writeService <| .modify fun s =>
    let key : NamespacedName := ⟨desired.ns, desired.name⟩
    let svc := (s.services key).getD desired
    { s with
      services := Function.update s.services key (some
        { desired with
          loadBalancerClass := svc.loadBalancerClass
          annotations := mergeMap svc.annotations desired.annotations []
          labels := mergeMap svc.labels desired.labels [] }) }

def createOrUpdateEndpoints (desired : IngressEndpoints) : ClusterAct :=
  env.call .writeEndpoints <| .modify fun s =>
    let key : NamespacedName := ⟨desired.ns, desired.name⟩
    let ep := (s.endpoints key).getD desired
    { s with
      endpoints := Function.update s.endpoints key (some
        { desired with
          annotations := mergeMap ep.annotations desired.annotations []
          labels := mergeMap ep.labels desired.labels [] }) }

def createOrUpdateDedicatedResources (ing : Ingress) : ClusterAct :=
  match r.buildDedicatedResources env.slices env.orders ing with
  | .error _ => .fail .panicked
  | .ok (.error message) => .fail (.build message)
  | .ok (.ok res) =>
    ((createOrUpdateDolphinEnvoyConfig env .writeConfig res.config).andThen
      (createOrUpdateService env res.service)).andThen
      (createOrUpdateEndpoints env res.endpoints)

def createOrUpdateSharedResources : ClusterAct :=
  env.call .listIngresses fun s =>
    match r.buildSharedResources env.slices env.orders s.dolphinClass s.ingresses.items with
    | .error _ => (.error .panicked, s)
    | .ok desired => createOrUpdateDolphinEnvoyConfig env .writeShared desired s

/-- The cleanup writes the configuration without the Ingress. -/
def tryCleanupSharedResources : ClusterAct := createOrUpdateSharedResources r env

def tryDeletingResource (kind : Kind) (key : NamespacedName) : ClusterAct :=
  env.call (.get kind) fun s =>
    if s.has kind key then env.call (.delete kind) (.modify fun s => s.delete kind key) s
    else Act.done s

/-- The loop is over a map from objects to names. -/
def tryCleanupDedicatedResources (key : NamespacedName) : ClusterAct :=
  .forEach (fun kind => tryDeletingResource env kind (dedicatedKey key kind))
    (env.cleanupOrder.visit [.service, .endpoints, .config])

def tryCleanupIngressStatus : ClusterAct := env.call .updateStatus .done

/-- The status is written if the Service of the load balancer is there. -/
def updateIngressLoadbalancerStatus (ing : Ingress) : ClusterAct :=
  let key : NamespacedName :=
    if r.isEffectiveLoadbalancerModeDedicated ing then
      ⟨ing.ns, dolphinIngressPrefix ++ "-" ++ ing.name⟩
    else ⟨r.dolphinNamespace, r.sharedLBServiceName⟩
  env.call .getLoadBalancer fun s =>
    if s.has .service key then env.call .updateStatus .done s else Act.done s

def reconcile (key : NamespacedName) : ClusterAct :=
  env.call .getIngress fun s =>
    match s.ingresses.get? key with
    | none => tryCleanupSharedResources r env s
    | some ing =>
      if ing.deletionTimestamp.isSome then Act.done s
      else match isdolphinManagedIngress s.dolphinClass ing with
      | .error _ => (.error .panicked, s)
      | .ok false =>
        (((tryCleanupSharedResources r env).andThen (tryCleanupDedicatedResources env key)).andThen
          (tryCleanupIngressStatus env).attempt) s
      | .ok true =>
        if r.isEffectiveLoadbalancerModeDedicated ing then
          match createOrUpdateDedicatedResources r env ing s with
          | (.error e, s') => (if e.isTerminating then .ok () else .error e, s')
          | (.ok (), s') =>
            ((tryCleanupSharedResources r env).andThen
              (updateIngressLoadbalancerStatus r env ing)) s'
        else
          (((createOrUpdateSharedResources r env).andThen
            (tryCleanupDedicatedResources env key)).andThen
            (updateIngressLoadbalancerStatus r env ing)) s

end

/-! ## Histories -/

/-- What happens to a cluster: Ingresses and their class are edited, or one is reconciled. -/
inductive Event
  | edit (ingresses : IngressTable) (dolphinClass : Option IngressClass)
  | reconcile (env : Environment) (key : NamespacedName)

def Event.apply (r : Operator) (s : Cluster) : Event → Cluster
  | edit ingresses dolphinClass => { s with ingresses := ingresses, dolphinClass := dolphinClass }
  | reconcile env key => (IngressController.reconcile r env key s).2

/-! ## What the steps do -/

/-- The cluster with a configuration written. -/
def Cluster.withConfig (s : Cluster) (key : NamespacedName) (config : DolphinEnvoyConfig) :
    Cluster :=
  { s with configs := Function.update s.configs key (some config) }

/-- The cluster without the objects of an Ingress. -/
def Cluster.cleaned (s : Cluster) (key : NamespacedName) : Cluster :=
  [Kind.service, .endpoints, .config].foldl (fun s kind => s.delete kind (dedicatedKey key kind)) s

section

variable {r : Operator} {env : Environment} {s s' : Cluster} {key : NamespacedName} {ing : Ingress}

theorem call_succeeds {step : Step} {act : ClusterAct} :
    (env.call step act).Succeeds s s' ↔ env.faults step = none ∧ act.Succeeds s s' := by
  rw [Environment.call]
  cases env.faults step with
  | some err => exact iff_of_false Act.not_fail_succeeds fun h => some_ne_none _ h.1
  | none => exact (and_iff_right rfl).symm

theorem mergeMap_nil (src dst : Go.Map String String) : mergeMap src dst [] = dst := by
  simp [mergeMap]

theorem createOrUpdateDolphinEnvoyConfig_succeeds {step : Step} {desired : DolphinEnvoyConfig}
    (h : (createOrUpdateDolphinEnvoyConfig env step desired).Succeeds s s') :
    s' = s.withConfig ⟨desired.ns, desired.name⟩ desired := by
  obtain rfl := Act.modify_succeeds.1 (call_succeeds.1 h).2
  simp only [mergeMap_nil]
  rfl

theorem createOrUpdateSharedResources_succeeds
    (h : (createOrUpdateSharedResources r env).Succeeds s s') :
    ∃ config, r.buildSharedResources env.slices env.orders s.dolphinClass s.ingresses.items =
      .ok config ∧ s' = s.withConfig r.sharedKey config := by
  have h := (call_succeeds.1 h).2
  rw [Act.Succeeds] at h
  cases hbuild : r.buildSharedResources env.slices env.orders s.dolphinClass s.ingresses.items with
  | error e =>
    rw [hbuild] at h
    cases congrArg Prod.fst h
  | ok config =>
    rw [hbuild] at h
    obtain ⟨_, _, hconfig⟩ := bind_eq_ok.1 hbuild
    obtain ⟨_, _, rfl⟩ := bind_pure_eq_ok.1 hconfig
    exact ⟨_, rfl, createOrUpdateDolphinEnvoyConfig_succeeds h⟩

theorem delete_of_not_has {kind : Kind} (h : ¬ s.has kind key = true) : s.delete kind key = s := by
  cases kind with
  | service =>
    have hnone : s.services key = none := not_isSome_iff_eq_none.1 h
    rw [Cluster.delete, ← hnone, Function.update_eq_self]
  | endpoints =>
    have hnone : s.endpoints key = none := not_isSome_iff_eq_none.1 h
    rw [Cluster.delete, ← hnone, Function.update_eq_self]
  | config =>
    have hnone : s.configs key = none := not_isSome_iff_eq_none.1 h
    rw [Cluster.delete, ← hnone, Function.update_eq_self]

theorem tryDeletingResource_succeeds {kind : Kind}
    (h : (tryDeletingResource env kind key).Succeeds s s') : s' = s.delete kind key := by
  have h := (call_succeeds.1 h).2
  rw [Act.Succeeds] at h
  split_ifs at h with hhas
  · exact Act.modify_succeeds.1 (call_succeeds.1 h).2
  · rw [delete_of_not_has hhas]
    exact Act.done_succeeds.1 h

theorem tryCleanupDedicatedResources_succeeds
    (h : (tryCleanupDedicatedResources env key).Succeeds s s') : s' = s.cleaned key := by
  have hloop : s' = (env.cleanupOrder.visit [.service, .endpoints, .config]).foldl
      (fun s kind => s.delete kind (dedicatedKey key kind)) s :=
    Act.forEach_succeeds (fun _ _ _ _ hs => tryDeletingResource_succeeds hs) h
  have hcomm : RightCommutative fun (s : Cluster) kind => s.delete kind (dedicatedKey key kind) := by
    refine ⟨fun s a b => ?_⟩
    cases a <;> cases b <;> rfl
  rw [hloop, Cluster.cleaned]
  exact (env.cleanupOrder.perm _).foldl_eq s

theorem updateIngressLoadbalancerStatus_succeeds
    (h : (updateIngressLoadbalancerStatus r env ing).Succeeds s s') : s' = s := by
  have h := (call_succeeds.1 h).2
  rw [Act.Succeeds] at h
  split_ifs at h
  · exact Act.done_succeeds.1 (call_succeeds.1 h).2
  · exact Act.done_succeeds.1 h
  · exact Act.done_succeeds.1 (call_succeeds.1 h).2
  · exact Act.done_succeeds.1 h

theorem tryCleanupIngressStatus_snd : (tryCleanupIngressStatus env s).2 = s := by
  rw [tryCleanupIngressStatus, Environment.call]
  cases env.faults .updateStatus <;> rfl

/-- What is written for an Ingress, with the class of the load balancer that the Service has. -/
def Cluster.withDedicated (s : Cluster) (res : DedicatedResources) : Cluster :=
  let key : NamespacedName := ⟨res.service.ns, res.service.name⟩
  { s with
    configs := Function.update s.configs ⟨res.config.ns, res.config.name⟩ (some res.config)
    services := Function.update s.services key (some
      { res.service with
        loadBalancerClass := ((s.services key).getD res.service).loadBalancerClass })
    endpoints := Function.update s.endpoints ⟨res.endpoints.ns, res.endpoints.name⟩
      (some res.endpoints) }

theorem createOrUpdateDedicatedResources_succeeds
    (h : (createOrUpdateDedicatedResources r env ing).Succeeds s s') :
    ∃ res, r.buildDedicatedResources env.slices env.orders ing = .ok (.ok res) ∧
      s' = s.withDedicated res := by
  rw [createOrUpdateDedicatedResources] at h
  split at h
  · exact absurd h Act.not_fail_succeeds
  · exact absurd h Act.not_fail_succeeds
  · rename_i res hbuild
    obtain ⟨t₂, h, hendpoints⟩ := Act.andThen_succeeds.1 h
    obtain ⟨t₁, hconfig, hservice⟩ := Act.andThen_succeeds.1 h
    obtain rfl := createOrUpdateDolphinEnvoyConfig_succeeds hconfig
    obtain rfl := Act.modify_succeeds.1 (call_succeeds.1 hservice).2
    obtain rfl := Act.modify_succeeds.1 (call_succeeds.1 hendpoints).2
    refine ⟨res, hbuild, ?_⟩
    simp only [mergeMap_nil]
    rfl

variable {res : DedicatedResources}

theorem buildDedicatedResources_spec
    (h : r.buildDedicatedResources env.slices env.orders ing = .ok (.ok res)) :
    ∃ (service : Option Model.Service) (config : DolphinEnvoyConfig), config.ns = ing.ns ∧ res =
        { config := { config with
            name := configName ing.ns ing.name
            ownerReferences := [r.controllerReference ing] }
          service := r.propagateIngressAnnotationsAndLabels ing
            (getService (sourceResource ing) service)
          endpoints := getEndpoints (sourceResource ing) } := by
  obtain ⟨m, res', hm, hres', rfl⟩ := buildDedicatedResources_eq_ok h
  have hne : ¬ (m.http = [] ∧ m.tls = []) := by
    intro hnil
    rw [IngressReconciler.translateDedicated, if_pos hnil] at hres'
    cases hres'
  obtain ⟨source, service, config, hsource, hconfig, rfl⟩ := translateDedicated_eq_ok hres'
  obtain ⟨_, hsource'⟩ := firstSource_of_ingest hm hne
  obtain ⟨rfl, rfl⟩ := Prod.mk.inj (Except.ok.inj (hsource.symm.trans hsource'))
  obtain ⟨_, _, hconfig⟩ := bind_pure_eq_ok.1 hconfig
  rw [← hconfig]
  exact ⟨service, _, rfl, rfl⟩

theorem dedicatedKey_ne_sharedKey (r : Operator) (key : NamespacedName) :
    dedicatedKey key .config ≠ r.sharedKey := by
  intro h
  obtain ⟨hns, hname⟩ := NamespacedName.mk.inj h
  rw [hns] at hname
  exact r.shared_ne key.name hname.symm

theorem has_eq_isSome_owners (kind : Kind) (key : NamespacedName) :
    s.has kind key = (s.owners kind key).isSome := by
  cases kind <;> exact isSome_map.symm

/-- The objects of an Ingress are there after they are written, with their owners. -/
theorem owners_withDedicated
    (h : r.buildDedicatedResources env.slices env.orders ing = .ok (.ok res)) (s : Cluster)
    (config : DolphinEnvoyConfig) (kind : Kind) :
    ((s.withDedicated res).withConfig r.sharedKey config).owners kind
        (dedicatedKey ing.key kind) =
      some [if kind = .config then r.controllerReference ing
        else ownerReferenceOf (sourceResource ing)] := by
  obtain ⟨service, config', hns, rfl⟩ := buildDedicatedResources_spec h
  obtain ⟨labels, annotations, hpropagate⟩ := propagateIngressAnnotationsAndLabels_spec
    (r := r.toIngressReconciler) ing (getService (sourceResource ing) service)
  simp only [Cluster.withConfig, Cluster.withDedicated, hpropagate, hns]
  cases kind with
  | service =>
    have hwritten (svc : IngressService) :=
      Function.update_self (dedicatedKey ing.key .service) (some svc) s.services
    exact congrArg (Option.map _) (hwritten _)
  | endpoints =>
    have hwritten (ep : IngressEndpoints) :=
      Function.update_self (dedicatedKey ing.key .endpoints) (some ep) s.endpoints
    exact congrArg (Option.map _) (hwritten _)
  | config =>
    have hwritten := Function.update_self (dedicatedKey ing.key .config)
      (some { config' with
        name := configName ing.ns ing.name, ns := ing.ns
        ownerReferences := [r.controllerReference ing] }) s.configs
    exact congrArg (Option.map _)
      ((Function.update_of_ne (dedicatedKey_ne_sharedKey r ing.key) _ _).trans hwritten)

/-- If no namespace is being terminated, no write is forbidden for this reason. -/
theorem failsOnly_call (hterm : ∀ step, env.faults step ≠ some .namespaceTerminating) (step : Step)
    (f : Cluster → Cluster) :
    Act.FailsOnly (fun e => e.isTerminating = false) (env.call step (.modify f)) := by
  rw [Environment.call]
  cases hfault : env.faults step with
  | none => exact Act.failsOnly_modify f
  | some err =>
    refine Act.failsOnly_fail ?_
    cases err with
    | namespaceTerminating => exact absurd hfault (hterm step)
    | other message => rfl

theorem failsOnly_createOrUpdateDedicatedResources
    (hterm : ∀ step, env.faults step ≠ some .namespaceTerminating) :
    Act.FailsOnly (fun e => e.isTerminating = false) (createOrUpdateDedicatedResources r env ing) := by
  rw [createOrUpdateDedicatedResources]
  split
  · exact Act.failsOnly_fail rfl
  · exact Act.failsOnly_fail rfl
  · exact ((failsOnly_call hterm _ _).andThen (failsOnly_call hterm _ _)).andThen
      (failsOnly_call hterm _ _)

/-- The shared configuration is written, and the objects of the Ingress are written if it is
    managed in dedicated mode, and deleted otherwise. -/
theorem reconcile_succeeds (hterm : ∀ step, env.faults step ≠ some .namespaceTerminating)
    (hing : s.ingresses.get? key = some ing) (hpresent : ing.deletionTimestamp = none)
    (h : (reconcile r env key).Succeeds s s') :
    ∃ managed config, isdolphinManagedIngress s.dolphinClass ing = .ok managed ∧
      r.buildSharedResources env.slices env.orders s.dolphinClass s.ingresses.items = .ok config ∧
      if managed && r.isEffectiveLoadbalancerModeDedicated ing then
        ∃ res, r.buildDedicatedResources env.slices env.orders ing = .ok (.ok res) ∧
          s' = (s.withDedicated res).withConfig r.sharedKey config
      else s' = (s.withConfig r.sharedKey config).cleaned key := by
  have h := (call_succeeds.1 h).2
  simp only [Act.Succeeds, hing, hpresent, isSome_none, Bool.false_eq_true, if_false] at h
  cases hmanaged : isdolphinManagedIngress s.dolphinClass ing with
  | error e =>
    rw [hmanaged] at h
    cases congrArg Prod.fst h
  | ok managed =>
    rw [hmanaged] at h
    cases managed with
    | false =>
      obtain ⟨t₂, h, hstatus⟩ := Act.andThen_succeeds.1 h
      obtain ⟨t₁, hshared, hcleanup⟩ := Act.andThen_succeeds.1 h
      obtain ⟨config, hconfig, rfl⟩ := createOrUpdateSharedResources_succeeds hshared
      obtain rfl := tryCleanupDedicatedResources_succeeds hcleanup
      refine ⟨false, config, rfl, hconfig, ?_⟩
      rw [Act.attempt_succeeds.1 hstatus, tryCleanupIngressStatus_snd]
      rfl
    | true =>
      dsimp only at h
      cases hmode : r.isEffectiveLoadbalancerModeDedicated ing with
      | true =>
        rw [if_pos hmode] at h
        split at h
        · -- the run would succeed if the error were that the namespace is being terminated
          rename_i e t hfails
          have hother := failsOnly_createOrUpdateDedicatedResources hterm s e
            (congrArg Prod.fst hfails)
          rw [hother] at h
          cases congrArg Prod.fst h
        · rename_i t hwritten
          obtain ⟨res, hres, rfl⟩ := createOrUpdateDedicatedResources_succeeds hwritten
          obtain ⟨t₁, hshared, hstatus⟩ := Act.andThen_succeeds.1 h
          obtain ⟨config, hconfig, rfl⟩ := createOrUpdateSharedResources_succeeds hshared
          obtain rfl := updateIngressLoadbalancerStatus_succeeds hstatus
          exact ⟨true, config, rfl, hconfig, res, hres, rfl⟩
      | false =>
        rw [if_neg (by rw [hmode]; exact Bool.false_ne_true)] at h
        obtain ⟨t₂, h, hstatus⟩ := Act.andThen_succeeds.1 h
        obtain ⟨t₁, hshared, hcleanup⟩ := Act.andThen_succeeds.1 h
        obtain ⟨config, hconfig, rfl⟩ := createOrUpdateSharedResources_succeeds hshared
        obtain rfl := tryCleanupDedicatedResources_succeeds hcleanup
        obtain rfl := updateIngressLoadbalancerStatus_succeeds hstatus
        exact ⟨true, config, rfl, hconfig, rfl⟩

end

end IngressController
