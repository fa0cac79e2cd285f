import Dolphin.IngressController.Modes

/-!
# Owners of the objects of an Ingress

The objects that are written for an Ingress in dedicated mode are to go when it is deleted, and
their changes are to be mapped back to it. Both are done by others, which read the owner references
of the objects: the garbage collector and the watches of the controller (`collected`,
`ownerRequest`). Only the Envoy configuration has a reference to the Ingress. Those of the Service
and of the Endpoints name a kind `Ingress` of the core group, which is not there.

* `reclaimed_iff`: what is reclaimed is the Envoy configuration.
-/

namespace IngressController

open Model Go Networkingv1 Gatewayv1 Annotations Ingestion Translation Option

/-- `schema.ParseGroupVersion`: the group is before the slash, and empty without one. -/
def groupOf (apiVersion : String) : String :=
  if '/' ∈ apiVersion.toList then .ofList (apiVersion.toList.takeWhile (· ≠ '/')) else ""

/-- The reference is to the Ingress, as garbage collection and watches resolve it. -/
def refersTo (ref : OwnerReference) (ing : Ingress) : Bool :=
  groupOf ref.apiVersion = "networking.k8s.io" && ref.kind = "Ingress" && ref.name = ing.name &&
    ref.uid = ing.uid

/-- The object goes when the Ingress is deleted. -/
def collected (refs : List OwnerReference) (ing : Ingress) : Bool :=
  refs.any fun ref => refersTo ref ing

/-- What the watch of owned objects asks for when an object of the namespace changes. -/
def ownerRequest (ns : String) (refs : List OwnerReference) : Option NamespacedName :=
  (refs.find? (·.controller)).bind fun ref =>
    if groupOf ref.apiVersion = "networking.k8s.io" ∧ ref.kind = "Ingress" then some ⟨ns, ref.name⟩
    else none

/-- The reference is that of a controlling Ingress. -/
structure Identifies (ref : OwnerReference) (ing : Ingress) : Prop where
  controller : ref.controller = true
  apiVersion : ref.apiVersion = "networking.k8s.io/v1"
  kind : ref.kind = "Ingress"
  name : ref.name = ing.name
  uid : ref.uid = ing.uid

/-- The object of a kind goes with the Ingress, and its changes are mapped back to it. -/
structure Reclaimed (s : Cluster) (ing : Ingress) (kind : Kind) : Prop where
  identified : ∃ refs, s.owners kind (dedicatedKey ing.key kind) = some refs ∧
    ∃ ref ∈ refs, Identifies ref ing
  gone : ∃ refs, s.owners kind (dedicatedKey ing.key kind) = some refs ∧ collected refs ing = true
  mapped : ∃ refs, s.owners kind (dedicatedKey ing.key kind) = some refs ∧
    ownerRequest ing.ns refs = some ing.key

/-- `SetControllerReference` refers to the Ingress, as the controller. -/
def SetsController (r : IngressReconciler) : Prop := ∀ ing, Identifies (r.controllerReference ing) ing

theorem Identifies.group {ref : OwnerReference} {ing : Ingress} (h : Identifies ref ing) :
    groupOf ref.apiVersion = "networking.k8s.io" := by
  rw [h.apiVersion]
  decide

section

variable {r : Operator} {env : Environment} {s s' : Cluster} {key : NamespacedName} {ing : Ingress}

theorem owners_of_reconcile (hterm : ∀ step, env.faults step ≠ some .namespaceTerminating)
    (hing : s.ingresses.get? key = some ing) (hpresent : ing.deletionTimestamp = none)
    (hmanaged : isdolphinManagedIngress s.dolphinClass ing = .ok true)
    (hmode : r.isEffectiveLoadbalancerModeDedicated ing = true)
    (h : (reconcile r env key).Succeeds s s') (kind : Kind) :
    s'.owners kind (dedicatedKey ing.key kind) =
      some [if kind = .config then r.controllerReference ing
        else ownerReferenceOf (sourceResource ing)] := by
  obtain ⟨managed, config, hmanaged', _, hs'⟩ := reconcile_succeeds hterm hing hpresent h
  obtain rfl := Except.ok.inj (hmanaged'.symm.trans hmanaged)
  rw [Bool.true_and, if_pos hmode] at hs'
  obtain ⟨res, hres, rfl⟩ := hs'
  exact owners_withDedicated hres s config kind

theorem reclaimed_iff_of_owners (hsets : SetsController r.toIngressReconciler) {kind : Kind}
    (h : s.owners kind (dedicatedKey ing.key kind) =
      some [if kind = .config then r.controllerReference ing
        else ownerReferenceOf (sourceResource ing)]) :
    Reclaimed s ing kind ↔ kind = .config := by
  by_cases hkind : kind = .config
  · rw [if_pos hkind] at h
    have hidentifies := hsets ing
    refine iff_of_true
      ⟨⟨_, h, _, List.mem_singleton_self _, hidentifies⟩, ⟨_, h, ?_⟩, ⟨_, h, ?_⟩⟩ hkind
    · simp [collected, refersTo, hidentifies.group, hidentifies.kind, hidentifies.name,
        hidentifies.uid]
    · simp [ownerRequest, hidentifies.controller, hidentifies.group, hidentifies.kind,
        hidentifies.name, Ingress.key]
  · rw [if_neg hkind] at h
    refine iff_of_false (fun hreclaimed => ?_) hkind
    obtain ⟨refs, hrefs, ref, href, hidentifies⟩ := hreclaimed.identified
    obtain rfl := some.inj (h.symm.trans hrefs)
    rw [List.mem_singleton.1 href] at hidentifies
    -- the version is that of core objects
    exact absurd hidentifies.apiVersion (by decide : "v1" ≠ "networking.k8s.io/v1")

end

/-- After any history, a run for a managed Ingress in dedicated mode leaves all its objects, of
    which the Envoy configuration is reclaimed. -/
theorem reclaimed_iff (r : Operator) (hsets : SetsController r.toIngressReconciler)
    (start : Cluster) (events : List Event) (env : Environment)
    (hterm : ∀ step, env.faults step ≠ some .namespaceTerminating)
    {key : NamespacedName} {ing : Ingress} {s' : Cluster}
    (hing : (events.foldl (Event.apply r) start).ingresses.get? key = some ing)
    (hpresent : ing.deletionTimestamp = none)
    (hmanaged : isdolphinManagedIngress (events.foldl (Event.apply r) start).dolphinClass ing =
      .ok true)
    (hmode : r.isEffectiveLoadbalancerModeDedicated ing = true)
    (h : reconcile r env key (events.foldl (Event.apply r) start) = (.ok (), s')) (kind : Kind) :
    s'.has kind (dedicatedKey ing.key kind) = true ∧
      (Reclaimed s' ing kind ↔ kind = .config) := by
  have howners := owners_of_reconcile hterm hing hpresent hmanaged hmode h kind
  refine ⟨?_, reclaimed_iff_of_owners hsets howners⟩
  rw [has_eq_isSome_owners, howners]
  rfl

/-! ## An Ingress in dedicated mode -/

def ownCluster : Cluster where
  ingresses := ⟨[ownIngress], nodup_keys_singleton ownIngress⟩

theorem setsController_web : SetsController webReconciler := fun _ => ⟨rfl, rfl, rfl, rfl, rfl⟩

theorem reconcile_ownIngress :
    (reconcile webOperator webEnvironment ⟨"team", "web"⟩ ownCluster).1 = .ok () := by
  decide +kernel

theorem reclaimed_ownIngress :
    ∃ s', reconcile webOperator webEnvironment ⟨"team", "web"⟩ ownCluster = (.ok (), s') ∧
      Reclaimed s' ownIngress .config := by
  have hreclaimed := reclaimed_iff webOperator setsController_web ownCluster [] webEnvironment
    (fun _ => some_ne_none _ |>.symm) rfl rfl rfl rfl (Prod.ext reconcile_ownIngress rfl)
    .config
  exact ⟨_, Prod.ext reconcile_ownIngress rfl, hreclaimed.2.2 rfl⟩

/-- The Service is there, and is not reclaimed. -/
theorem not_reclaimed_ownIngress :
    ∃ s', reconcile webOperator webEnvironment ⟨"team", "web"⟩ ownCluster = (.ok (), s') ∧
      s'.owners .service ⟨"team", "dolphin-ingress-web"⟩ =
        some [⟨"v1", "Ingress", "web", "7c1f", true⟩] ∧
      ¬ Reclaimed s' ownIngress .service := by
  have howners := owners_of_reconcile (fun _ => some_ne_none _ |>.symm) rfl rfl rfl rfl
    (Prod.ext reconcile_ownIngress rfl) .service
  refine ⟨_, Prod.ext reconcile_ownIngress rfl, howners, fun hreclaimed => ?_⟩
  cases (reclaimed_iff_of_owners setsController_web howners).1 hreclaimed

end IngressController
