import Dolphin.IngressController.Reconcile

/-!
# Shared and dedicated mode

After a run that succeeds, what the cluster has of an Ingress is that of its mode
(`ModeHolds`): in dedicated mode its Envoy configuration, its Service and its Endpoints, in shared
mode none of these, but its part in the shared Envoy configuration, and neither if it is not
managed. In all three cases, the shared configuration is that of the Ingresses in shared mode.

* `modeHolds_of_reconcile`: this is so whatever happened to the cluster before.
-/

namespace IngressController

open Model Go Networkingv1 Gatewayv1 Annotations Ingestion Translation List

/-- The managed Ingresses in shared mode that are not being deleted. -/
def sharing (r : Operator) (s : Cluster) : List Ingress :=
  s.ingresses.items.filter fun ing => Shares r.toIngressReconciler s.dolphinClass ing

/-- The shared configuration is the translation of these Ingresses. -/
def SharedTranslated (r : Operator) (env : Environment) (s : Cluster) : Prop :=
  ∃ config, r.buildSharedResources env.slices env.orders s.dolphinClass (sharing r s) =
    .ok config ∧ s.configs r.sharedKey = some config

/-- The cluster has of the Ingress what its mode asks for. -/
structure ModeHolds (r : Operator) (env : Environment) (s : Cluster) (ing : Ingress) : Prop where
  dedicated : isdolphinManagedIngress s.dolphinClass ing = .ok true →
    r.isEffectiveLoadbalancerModeDedicated ing = true →
      (∀ kind, s.has kind (dedicatedKey ing.key kind) = true) ∧ SharedTranslated r env s ∧
        ing ∉ sharing r s
  shared : isdolphinManagedIngress s.dolphinClass ing = .ok true →
    r.isEffectiveLoadbalancerModeDedicated ing = false →
      (∀ kind, s.has kind (dedicatedKey ing.key kind) = false) ∧ SharedTranslated r env s ∧
        ing ∈ sharing r s
  unmanaged : isdolphinManagedIngress s.dolphinClass ing = .ok false →
    (∀ kind, s.has kind (dedicatedKey ing.key kind) = false) ∧ SharedTranslated r env s ∧
      ing ∉ sharing r s

section

variable {r : Operator} {env : Environment} {s : Cluster} {key : NamespacedName} {ing : Ingress}

theorem IngressTable.get?_eq_some {table : IngressTable} :
    table.get? key = some ing ↔ ing ∈ table.items ∧ ing.key = key := by
  rw [IngressTable.get?]
  constructor
  · intro h
    have hkey := find?_some h
    exact ⟨mem_of_find?_eq_some h, by simpa using hkey⟩
  · rintro ⟨hmem, rfl⟩
    cases hfind : table.items.find? fun ing' => ing'.key = ing.key with
    | none => exact absurd (decide_eq_true rfl) (find?_eq_none.1 hfind ing hmem)
    | some ing' =>
      have hkey := find?_some hfind
      have hmem' := mem_of_find?_eq_some hfind
      rw [inj_on_of_nodup_map table.nodup hmem' hmem (by simpa using hkey)]

theorem has_cleaned (kind : Kind) : (s.cleaned key).has kind (dedicatedKey key kind) = false := by
  cases kind <;> simp [Cluster.cleaned, Cluster.delete, Cluster.has]

theorem configs_cleaned : (s.cleaned key).configs r.sharedKey = s.configs r.sharedKey :=
  Function.update_of_ne (dedicatedKey_ne_sharedKey r key).symm _ _

variable {config : DolphinEnvoyConfig}

theorem sharedTranslated_of_build
    (h : r.buildSharedResources env.slices env.orders s.dolphinClass s.ingresses.items = .ok config)
    (hconfig : s.configs r.sharedKey = some config) : SharedTranslated r env s := by
  obtain ⟨m, hm, h⟩ := bind_eq_ok.1 h
  exact ⟨config, bind_eq_ok.2 ⟨m, sharedModel_filter hm, h⟩, hconfig⟩

/-- After a run for a managed Ingress in dedicated mode. -/
theorem modeHolds_of_written {res : DedicatedResources}
    (hmanaged : isdolphinManagedIngress s.dolphinClass ing = .ok true)
    (hmode : r.isEffectiveLoadbalancerModeDedicated ing = true)
    (hres : r.buildDedicatedResources env.slices env.orders ing = .ok (.ok res))
    (hconfig : r.buildSharedResources env.slices env.orders s.dolphinClass s.ingresses.items =
      .ok config) :
    ModeHolds r env ((s.withDedicated res).withConfig r.sharedKey config) ing := by
  constructor
  case dedicated =>
    refine fun _ _ => ⟨fun kind => ?_, ?_, fun hmem => ?_⟩
    · rw [has_eq_isSome_owners, owners_withDedicated hres]
      rfl
    · exact sharedTranslated_of_build hconfig (Function.update_self _ _ _)
    · have hshares := of_decide_eq_true (mem_filter.1 hmem).2
      exact absurd (hmode.symm.trans hshares.mode) Bool.false_ne_true.symm
  case shared => exact fun _ hshared => absurd (hmode.symm.trans hshared) Bool.false_ne_true.symm
  case unmanaged =>
    exact fun hnot => absurd (Except.ok.inj (hmanaged.symm.trans hnot)) Bool.false_ne_true.symm

/-- After a run for any other Ingress. -/
theorem modeHolds_of_cleaned {managed : Bool}
    (hing : ing ∈ s.ingresses.items) (hpresent : ing.deletionTimestamp = none)
    (hmanaged : isdolphinManagedIngress s.dolphinClass ing = .ok managed)
    (hmode : ¬ (managed && r.isEffectiveLoadbalancerModeDedicated ing) = true)
    (hconfig : r.buildSharedResources env.slices env.orders s.dolphinClass s.ingresses.items =
      .ok config) :
    ModeHolds r env ((s.withConfig r.sharedKey config).cleaned ing.key) ing := by
  have htranslated : SharedTranslated r env ((s.withConfig r.sharedKey config).cleaned ing.key) :=
    sharedTranslated_of_build hconfig (configs_cleaned.trans (Function.update_self _ _ _))
  constructor
  case dedicated =>
    intro htrue hdedicated
    rw [Except.ok.inj (hmanaged.symm.trans htrue), hdedicated] at hmode
    exact absurd rfl hmode
  case shared =>
    intro htrue hshared
    have hshares : Shares r.toIngressReconciler s.dolphinClass ing := ⟨htrue, hshared, hpresent⟩
    exact ⟨has_cleaned, htranslated, mem_filter.2 ⟨hing, decide_eq_true hshares⟩⟩
  case unmanaged =>
    intro hfalse
    refine ⟨has_cleaned, htranslated, fun hmem => ?_⟩
    have hshares := of_decide_eq_true (mem_filter.1 hmem).2
    exact absurd (Except.ok.inj (hfalse.symm.trans hshares.managed)) Bool.false_ne_true

end

theorem modeHolds_of_reconcile (r : Operator) (start : Cluster) (events : List Event)
    (env : Environment) (hterm : ∀ step, env.faults step ≠ some .namespaceTerminating)
    {key : NamespacedName} {ing : Ingress} {s' : Cluster}
    (hing : (events.foldl (Event.apply r) start).ingresses.get? key = some ing)
    (hpresent : ing.deletionTimestamp = none)
    (h : reconcile r env key (events.foldl (Event.apply r) start) = (.ok (), s')) :
    ModeHolds r env s' ing := by
  obtain ⟨managed, config, hmanaged, hconfig, hs'⟩ := reconcile_succeeds hterm hing hpresent h
  obtain ⟨hmem, rfl⟩ := IngressTable.get?_eq_some.1 hing
  split_ifs at hs' with hmode
  · obtain ⟨res, hres, rfl⟩ := hs'
    obtain ⟨rfl, hmode⟩ := Bool.and_eq_true_iff.1 hmode
    exact modeHolds_of_written hmanaged hmode hres hconfig
  · rw [hs']
    exact modeHolds_of_cleaned hmem hpresent hmanaged hmode hconfig

/-! ## An Ingress that changes its mode -/

def webOperator : Operator where
  toIngressReconciler := webReconciler
  shared_ne name h := by
    have hlength := congrArg String.length h
    simp only [webReconciler, dolphinIngressPrefix, configName, String.length_append] at hlength
    have hdash : "-".length = 1 := rfl
    omega

/-- No call fails. -/
def webEnvironment : Environment where
  slices := .reference
  orders := .entries

/-- An Ingress in dedicated mode. -/
def ownIngress : Ingress :=
  { webIngress "team" "shop.example" with
    uid := "7c1f"
    annotations := .ofList [("ingress.dolphin.io/loadbalancer-mode", "dedicated")] }

/-- The Ingress was reconciled in dedicated mode, and is then in shared mode. -/
def webHistory : List Event :=
  [.edit ⟨[ownIngress], nodup_keys_singleton ownIngress⟩ none,
    .reconcile webEnvironment ⟨"team", "web"⟩,
    .edit ⟨[webIngress "team" "shop.example"], nodup_keys_singleton _⟩ none]

theorem modeHolds_webIngress :
    ∃ s', reconcile webOperator webEnvironment ⟨"team", "web"⟩
        (webHistory.foldl (Event.apply webOperator) { ingresses := ⟨[], nodup_nil⟩ }) =
          (.ok (), s') ∧
      ModeHolds webOperator webEnvironment s' (webIngress "team" "shop.example") := by
  have hok : (reconcile webOperator webEnvironment ⟨"team", "web"⟩
      (webHistory.foldl (Event.apply webOperator) { ingresses := ⟨[], nodup_nil⟩ })).1 =
        .ok () := by
    decide +kernel
  exact ⟨_, Prod.ext hok rfl, modeHolds_of_reconcile webOperator _ webHistory webEnvironment
    (fun _ => Option.some_ne_none _ |>.symm) rfl rfl (Prod.ext hok rfl)⟩

end IngressController
