import Dolphin.IngressController.Owners

/-!
# Histories of a cluster

Runs for many Ingresses are interleaved with edits, and each of them may fail at any call. However it
ends, a run for an Ingress writes nothing but the shared Envoy configuration and the objects with the
names of the Ingress (`frames_reconcile`). So in every history

* the objects of an Ingress stay as they are while it is not reconciled (`dedicated_unreconciled`);
* they also stay while it is not in the cluster, even if it is reconciled (`dedicated_of_absent`). The
  Service and the Endpoints, which are not reclaimed either, stay for good.
-/

namespace IngressController

open Model Go Networkingv1 Gatewayv1 Annotations Ingestion Translation

abbrev Kind.Object : Kind → Type
  | .service => IngressService
  | .endpoints => IngressEndpoints
  | .config => DolphinEnvoyConfig

/-- The objects for an Ingress that are there. -/
def Cluster.dedicated (key : NamespacedName) (s : Cluster) : (kind : Kind) → Option kind.Object
  | .service => s.services (dedicatedKey key .service)
  | .endpoints => s.endpoints (dedicatedKey key .endpoints)
  | .config => s.configs (dedicatedKey key .config)

def Cluster.put (name : NamespacedName) (s : Cluster) : (kind : Kind) → Option kind.Object → Cluster
  | .service, svc => { s with services := Function.update s.services name svc }
  | .endpoints, ep => { s with endpoints := Function.update s.endpoints name ep }
  | .config, dec => { s with configs := Function.update s.configs name dec }

/-- The object of a kind and a name does not belong to the part. -/
def Ignores {τ : Type} (part : Cluster → τ) (kind : Kind) (name : NamespacedName) : Prop :=
  ∀ s object, part (s.put name kind object) = part s

section

variable {τ : Type} {part : Cluster → τ} {r : Operator} {env : Environment} {key : NamespacedName}
  {ing : Ingress}

/-! ## What a run leaves alone -/

theorem frames_call {step : Step} {act : ClusterAct} (h : act.Frames part) :
    (env.call step act).Frames part := by
  rw [Environment.call]
  cases env.faults step with
  | some err => exact fun s => rfl
  | none => exact h

theorem frames_createOrUpdateSharedResources (h : Ignores part .config r.sharedKey) :
    (createOrUpdateSharedResources r env).Frames part := by
  refine frames_call fun s => ?_
  split
  · rfl
  · rename_i desired hbuild
    obtain ⟨_, _, hconfig⟩ := bind_eq_ok.1 hbuild
    obtain ⟨_, _, rfl⟩ := bind_pure_eq_ok.1 hconfig
    exact frames_call (fun s => h s _) s

theorem frames_createOrUpdateDedicatedResources
    (h : ∀ kind, Ignores part kind (dedicatedKey ing.key kind)) :
    (createOrUpdateDedicatedResources r env ing).Frames part := by
  rw [createOrUpdateDedicatedResources]
  split
  · exact fun s => rfl
  · exact fun s => rfl
  · rename_i res hbuild
    obtain ⟨service, config, hns, rfl⟩ := buildDedicatedResources_spec hbuild
    obtain ⟨labels, annotations, hpropagate⟩ := propagateIngressAnnotationsAndLabels_spec
      (r := r.toIngressReconciler) ing (getService (sourceResource ing) service)
    rw [hpropagate]
    -- what is built has the names of the Ingress
    refine (Act.Frames.andThen (frames_call fun s => ?_) (frames_call fun s => h .service s _)).andThen
      (frames_call fun s => h .endpoints s _)
    rw [hns]
    exact h .config s _

theorem frames_tryCleanupDedicatedResources (h : ∀ kind, Ignores part kind (dedicatedKey key kind)) :
    (tryCleanupDedicatedResources env key).Frames part := by
  refine Act.Frames.forEach (fun kind => frames_call fun s => ?_) _
  split_ifs
  · refine frames_call (fun s => ?_) s
    have hdelete : s.delete kind (dedicatedKey key kind) = s.put (dedicatedKey key kind) kind none := by
      cases kind <;> rfl
    exact (congrArg part hdelete).trans (h kind s none)
  · rfl

theorem frames_updateIngressLoadbalancerStatus :
    (updateIngressLoadbalancerStatus r env ing).Frames part := by
  have hstatus : (env.call .updateStatus .done).Frames part := frames_call fun s => rfl
  refine frames_call fun s => ?_
  split_ifs
  · exact hstatus s
  · rfl
  · exact hstatus s
  · rfl

theorem frames_reconcile (h : ∀ kind, Ignores part kind (dedicatedKey key kind))
    (hshared : Ignores part .config r.sharedKey) : (reconcile r env key).Frames part := by
  have hwrite : (createOrUpdateSharedResources r env).Frames part :=
    frames_createOrUpdateSharedResources hshared
  have hcleanup : (tryCleanupDedicatedResources env key).Frames part :=
    frames_tryCleanupDedicatedResources h
  have hstatus : (tryCleanupIngressStatus env).attempt.Frames part := fun s =>
    congrArg part tryCleanupIngressStatus_snd
  refine frames_call fun s => ?_
  split
  · exact hwrite s
  · rename_i ing hing
    obtain ⟨_, rfl⟩ := IngressTable.get?_eq_some.1 hing
    split
    · rfl
    split
    · rfl
    · exact (hwrite.andThen hcleanup).andThen hstatus s
    · split
      · have hdedicated : part (createOrUpdateDedicatedResources r env ing s).2 = part s :=
          frames_createOrUpdateDedicatedResources h s
        split
        · rename_i e t ht
          rw [ht] at hdedicated
          exact hdedicated
        · rename_i t ht
          rw [ht] at hdedicated
          exact (hwrite.andThen frames_updateIngressLoadbalancerStatus t).trans hdedicated
      · exact (hwrite.andThen hcleanup).andThen frames_updateIngressLoadbalancerStatus s

/-! ## What stays in a history -/

variable {key' : NamespacedName} {s start : Cluster} {events : List Event}

theorem dedicatedKey_inj {kind : Kind} (h : dedicatedKey key kind = dedicatedKey key' kind) :
    key = key' := by
  have hns : key.ns = key'.ns := by
    have hns := congrArg NamespacedName.ns h
    cases kind <;> exact hns
  have hname : key.name = key'.name := by
    have hname := congrArg NamespacedName.name h
    cases kind <;> simpa [dedicatedKey, hns] using hname
  cases key
  cases key'
  exact congrArg₂ _ hns hname

theorem ignores_dedicated {kind : Kind} {name : NamespacedName} (h : dedicatedKey key kind ≠ name) :
    Ignores (Cluster.dedicated key) kind name := by
  intro s object
  funext kind'
  cases kind <;> cases kind' <;> first | rfl | exact Function.update_of_ne h _ _

/-- A run for another Ingress leaves the objects of this one, and so does a run without it. -/
theorem dedicated_reconcile (h : key' = key → s.ingresses.get? key = none) :
    (reconcile r env key' s).2.dedicated key = s.dedicated key := by
  have hshared : Ignores (Cluster.dedicated key) .config r.sharedKey :=
    ignores_dedicated (dedicatedKey_ne_sharedKey r key)
  by_cases hkey : key' = key
  · rw [reconcile, Environment.call, hkey]
    cases env.faults .getIngress with
    | some err => rfl
    | none =>
      -- all that is done is to write the shared configuration without the Ingress
      simp only [h hkey]
      exact frames_createOrUpdateSharedResources hshared s
  · exact frames_reconcile (fun _ => ignores_dedicated fun heq => hkey (dedicatedKey_inj heq).symm)
      hshared s

/-- The objects of an Ingress stay as they are while it is not reconciled. -/
theorem dedicated_unreconciled (h : ∀ env, Event.reconcile env key ∉ events) :
    (events.foldl (Event.apply r) start).dedicated key = start.dedicated key := by
  refine List.foldlRecOn (motive := fun s : Cluster => s.dedicated key = start.dedicated key) events _
    rfl fun s hs e he => ?_
  cases e with
  | edit ingresses dolphinClass => exact hs
  | reconcile env key' => exact (dedicated_reconcile fun heq => absurd (heq ▸ he) (h env)).trans hs

/-- The objects of an Ingress stay as they are while it is not there, whatever is reconciled. -/
theorem dedicated_of_absent (hstart : start.ingresses.get? key = none)
    (hedits : ∀ table dolphinClass, Event.edit table dolphinClass ∈ events → table.get? key = none) :
    (events.foldl (Event.apply r) start).dedicated key = start.dedicated key := by
  refine (List.foldlRecOn (motive := fun s : Cluster => s.ingresses.get? key = none ∧
    s.dedicated key = start.dedicated key) events _ ⟨hstart, rfl⟩ fun s hs e he => ?_).2
  cases e with
  | edit ingresses dolphinClass => exact ⟨hedits ingresses dolphinClass he, hs.2⟩
  | reconcile env key' =>
    -- a run does not change which Ingresses there are
    have hingresses : (reconcile r env key').Frames (·.ingresses) :=
      frames_reconcile (fun kind _ _ => by cases kind <;> rfl) fun _ _ => rfl
    refine ⟨?_, (dedicated_reconcile fun _ => hs.1).trans hs.2⟩
    exact (congrArg (IngressTable.get? · key) (hingresses s)).trans hs.1

end

/-- A run for the Ingress of another team. -/
theorem dedicated_unreconciled_other :
    ([Event.reconcile webEnvironment ⟨"other", "web"⟩].foldl (Event.apply webOperator)
      ownCluster).dedicated ⟨"team", "web"⟩ = ownCluster.dedicated ⟨"team", "web"⟩ :=
  dedicated_unreconciled (by simp)

/-- The cluster of `ownCluster` after a run, from which the Ingress is then deleted. -/
def orphanedCluster : Cluster :=
  { (reconcile webOperator webEnvironment ⟨"team", "web"⟩ ownCluster).2 with
    ingresses := ⟨[], List.nodup_nil⟩ }

/-- The Service is still there after the next run. -/
theorem dedicated_of_absent_orphaned :
    (([Event.reconcile webEnvironment ⟨"team", "web"⟩].foldl (Event.apply webOperator)
      orphanedCluster).dedicated ⟨"team", "web"⟩ .service).isSome = true := by
  rw [dedicated_of_absent rfl (by simp)]
  decide +kernel

end IngressController
