import Dolphin.IngressController.Modes

/-!
# Annotations and labels

`mergeMap` is called for two things, with the wrong arguments for both:

* the Service of an Ingress should get those annotations and labels of the Ingress that have a
  configured prefix. But the maps are passed the other way around: the Service gets all entries of
  the Ingress and keeps its own ones with a prefix, and these are also written to the Ingress, whose
  map it is (`propagateInPlace`);
* an object in the cluster should keep its entries unless others are desired. But as no prefixes are
  passed, nothing is merged, and it has only the desired ones (`metadata_createOrUpdate`).

`metadataKept_iff` says when this makes no difference.
-/

namespace IngressController

open Go Networkingv1 Gatewayv1 Ingestion Translation

/-- What is done for annotations is also done for labels. -/
inductive Field
  | annotations | labels

/-- The annotations and labels of an object, each of which may be nil. -/
abbrev Metadata := Field → Option (Go.Map String String)

def metadataOf (annotations labels : Go.Map String String) : Metadata
  | .annotations => some annotations
  | .labels => some labels

/-- What a map has at a key, where nil has nothing. -/
def lookup (m : Option (Go.Map String String)) (k : String) : Option String := m.bind (·.get? k)

/-! ## Propagation -/

/-- The map that `mergeMap` returns, and `dst` afterwards: it is the same map, unless that was
    nil. -/
def mergeMapInPlace (src dst : Option (Go.Map String String)) (prefixes : List String) :
    Option (Go.Map String String) × Option (Go.Map String String) :=
  if (src.getD ∅).toPairs = [] then (dst, dst)
  else
    let merged := mergeMap (src.getD ∅) (dst.getD ∅) prefixes
    (some merged, dst.map fun _ => merged)

/-- The metadata of the Service and of the Ingress after `propagateIngressAnnotationsAndLabels`. -/
def propagateInPlace (prefixes : List String) (svc ing : Metadata) : Metadata × Metadata :=
  if prefixes = [] then (svc, ing)
  else (fun f => (mergeMapInPlace (svc f) (ing f) prefixes).1,
    fun f => (mergeMapInPlace (svc f) (ing f) prefixes).2)

def IngressService.metadata (svc : IngressService) : Metadata :=
  metadataOf svc.annotations svc.labels

/-- The Service is as in the model, in which maps are not written in place. -/
theorem metadata_propagateIngressAnnotationsAndLabels (r : IngressReconciler) (ing : Ingress)
    (svc : IngressService) :
    (r.propagateIngressAnnotationsAndLabels ing svc).metadata =
      (propagateInPlace r.lbAnnotationPrefixes svc.metadata
        (metadataOf ing.annotations ing.labels)).1 := by
  have hmerge (src dst : Go.Map String String) : some (mergeMap src dst r.lbAnnotationPrefixes) =
        (mergeMapInPlace (some src) (some dst) r.lbAnnotationPrefixes).1 := by
    rw [mergeMapInPlace]
    split_ifs with hnil
    · rw [mergeMap, show src.toPairs = [] from hnil]
      rfl
    · rfl
  rw [IngressReconciler.propagateIngressAnnotationsAndLabels, propagateInPlace]
  split_ifs
  · rfl
  · funext f
    cases f with
    | annotations => exact hmerge svc.annotations ing.annotations
    | labels => exact hmerge svc.labels ing.labels

/-- The map `after` has the entries of the map `own` and those of `ing` with a prefix, whichever of
    them it has for a key of both, and `ing'` is as `ing`. -/
def Propagated (prefixes : List String) (own ing after ing' : Option (Go.Map String String)) :
    Prop :=
  (∀ k, let added := if prefixes.any (hasPrefix k) then lookup ing k else none
    lookup after k = (lookup own k).or added ∨ lookup after k = added.or (lookup own k)) ∧
    ∀ k, lookup ing' k = lookup ing k

/-- The maps agree where there is no prefix, and nothing else is written to that of the Ingress. -/
structure Agree (prefixes : List String) (own ing : Option (Go.Map String String)) : Prop where
  unprefixed : ∀ k, prefixes.any (hasPrefix k) = false → lookup own k = lookup ing k
  written : ing ≠ none → ∀ k v, prefixes.any (hasPrefix k) = true → lookup own k = some v →
    lookup ing k = some v

theorem get?_mergeMap (src dst : Go.Map String String) (prefixes : List String) (k : String) :
    (mergeMap src dst prefixes).get? k =
      (if prefixes.any (hasPrefix k) then src.get? k else none).or (dst.get? k) := by
  rw [mergeMap, Map.get?_foldl_set]
  congr 1
  ext v
  rw [Map.get?_ofList (src.nodup_keys_toPairs.sublist (List.filter_sublist.map Prod.fst)),
    List.mem_filter, Map.mem_toPairs]
  split_ifs with hpre
  · simp [hpre]
  · simp [hpre]

variable {prefixes : List String} {own ing : Option (Go.Map String String)}

/-- What the Service gets: its own entries with a prefix, and all of the Ingress. -/
theorem lookup_mergeMapInPlace (k : String) : lookup (mergeMapInPlace own ing prefixes).1 k =
      (if prefixes.any (hasPrefix k) then lookup own k else none).or (lookup ing k) := by
  have hlookup (m : Option (Go.Map String String)) : (m.getD ∅).get? k = lookup m k := by
    cases m with
    | none => exact Map.get?_empty k
    | some m => rfl
  by_cases hnil : (own.getD ∅).toPairs = []
  · -- nil or empty, so that there is nothing at the key
    have hnone : lookup own k = none := by
      refine Option.eq_none_iff_forall_ne_some.2 fun v hv => ?_
      have hmem := Map.mem_toPairs.2 ((hlookup own).trans hv)
      rw [hnil] at hmem
      cases hmem
    rw [mergeMapInPlace, if_pos hnil, hnone, ite_self, Option.none_or]
  · rw [mergeMapInPlace, if_neg hnil, ← hlookup own, ← hlookup ing, ← get?_mergeMap]
    rfl

theorem propagated_mergeMapInPlace_iff :
    Propagated prefixes own ing (mergeMapInPlace own ing prefixes).1
      (mergeMapInPlace own ing prefixes).2 ↔ Agree prefixes own ing := by
  have hwritten : (∀ k, lookup (mergeMapInPlace own ing prefixes).2 k = lookup ing k) ↔
      (ing ≠ none → ∀ k, lookup (mergeMapInPlace own ing prefixes).1 k = lookup ing k) := by
    cases ing with
    | none =>
      refine iff_of_true (fun k => ?_) fun h => absurd rfl h
      rw [mergeMapInPlace]
      split_ifs <;> rfl
    | some ing =>
      rw [mergeMapInPlace]
      split_ifs <;> simp
  rw [Propagated, hwritten]
  simp only [lookup_mergeMapInPlace]
  constructor
  · rintro ⟨hunion, hing⟩
    refine ⟨fun k hk => ?_, fun hne k v hk hv => ?_⟩
    · have hk' := hunion k
      simp only [hk, Bool.false_eq_true, if_false, Option.none_or, Option.or_none, or_self] at hk'
      exact hk'.symm
    · have hk' := hing hne k
      rw [if_pos hk, hv] at hk'
      exact hk'.symm
  · intro h
    refine ⟨fun k => ?_, fun hne k => ?_⟩
    · cases hk : prefixes.any (hasPrefix k) with
      | true => exact .inl rfl
      | false => exact .inr (h.unprefixed k hk).symm
    · cases hk : prefixes.any (hasPrefix k) with
      | false => rfl
      | true =>
        cases hv : lookup own k with
        | none => rfl
        | some v => exact (h.written hne k v hk hv).symm

/-! ## Updates -/

/-- An object that is to be in the cluster. -/
inductive Desired
  | service (svc : IngressService)
  | endpoints (ep : IngressEndpoints)
  | config (step : Step) (dec : DolphinEnvoyConfig)

namespace Desired

def createOrUpdate (env : Environment) : Desired → ClusterAct
  | service svc => createOrUpdateService env svc
  | endpoints ep => createOrUpdateEndpoints env ep
  | config step dec => createOrUpdateDolphinEnvoyConfig env step dec

def metadata : Desired → Metadata
  | service svc => svc.metadata
  | endpoints ep => metadataOf ep.annotations ep.labels
  | config _ dec => metadataOf dec.annotations dec.labels

/-- The metadata of the object of the same kind and name in a cluster. -/
def metadataIn (s : Cluster) : Desired → Option Metadata
  | service svc => (s.services ⟨svc.ns, svc.name⟩).map (·.metadata)
  | endpoints ep =>
    (s.endpoints ⟨ep.ns, ep.name⟩).map fun ep => metadataOf ep.annotations ep.labels
  | config _ dec =>
    (s.configs ⟨dec.ns, dec.name⟩).map fun dec => metadataOf dec.annotations dec.labels

end Desired

theorem metadata_createOrUpdate {env : Environment} {desired : Desired} {s s' : Cluster}
    (h : (desired.createOrUpdate env).Succeeds s s') :
    desired.metadataIn s' = some desired.metadata := by
  cases desired with
  | service svc =>
    obtain rfl := Act.modify_succeeds.1 (call_succeeds.1 h).2
    simp [Desired.metadataIn, Desired.metadata, IngressService.metadata, mergeMap_nil]
  | endpoints ep =>
    obtain rfl := Act.modify_succeeds.1 (call_succeeds.1 h).2
    simp [Desired.metadataIn, Desired.metadata, mergeMap_nil]
  | config step dec =>
    obtain rfl := createOrUpdateDolphinEnvoyConfig_succeeds h
    simp [Desired.metadataIn, Desired.metadata, Cluster.withConfig]

/-- Nothing is lost and nothing leaks: where the metadata of an Ingress is propagated to a Service,
    and where an object is written to a cluster, which had `existing` there. -/
structure MetadataKept (prefixes : List String) (svc ing : Metadata) (desired : Desired)
    (s s' : Cluster) : Prop where
  propagated : ∀ f, Propagated prefixes (svc f) (ing f) ((propagateInPlace prefixes svc ing).1 f)
    ((propagateInPlace prefixes svc ing).2 f)
  updated : ∀ existing, desired.metadataIn s = some existing →
    ∃ after, desired.metadataIn s' = some after ∧ ∀ f k,
      lookup (after f) k = (lookup (desired.metadata f) k).or (lookup (existing f) k)

/-- The metadata is right exactly if the Service and the Ingress have the same entries without a
    prefix, the Ingress has those of the Service with one, unless it has nil, and an object that is
    in the cluster has only entries for keys that are desired. -/
theorem metadataKept_iff {prefixes : List String} (hprefixes : prefixes ≠ []) (svc ing : Metadata)
    {env : Environment} {desired : Desired} {s s' : Cluster}
    (hrun : (desired.createOrUpdate env).Succeeds s s') :
    MetadataKept prefixes svc ing desired s s' ↔ (∀ f, Agree prefixes (svc f) (ing f)) ∧
      ∀ existing, desired.metadataIn s = some existing →
        ∀ f k, lookup (desired.metadata f) k = none → lookup (existing f) k = none := by
  have hpropagated : (∀ f, Propagated prefixes (svc f) (ing f)
      ((propagateInPlace prefixes svc ing).1 f) ((propagateInPlace prefixes svc ing).2 f)) ↔
        ∀ f, Agree prefixes (svc f) (ing f) := by
    rw [propagateInPlace, if_neg hprefixes]
    exact forall_congr' fun f => propagated_mergeMapInPlace_iff
  have hlost (existing : Metadata) (f : Field) (k : String) :
      lookup (desired.metadata f) k = (lookup (desired.metadata f) k).or (lookup (existing f) k) ↔
        (lookup (desired.metadata f) k = none → lookup (existing f) k = none) := by
    cases lookup (desired.metadata f) k with
    | none => simp [eq_comm]
    | some v => simp
  have hupdated (existing : Metadata) : (∃ after, desired.metadataIn s' = some after ∧ ∀ f k,
      lookup (after f) k = (lookup (desired.metadata f) k).or (lookup (existing f) k)) ↔
        ∀ f k, lookup (desired.metadata f) k = none → lookup (existing f) k = none := by
    simp only [metadata_createOrUpdate hrun, Option.some.injEq, exists_eq_left', hlost]
  constructor
  · intro h
    exact ⟨hpropagated.1 h.propagated, fun existing he =>
      (hupdated existing).1 (h.updated existing he)⟩
  · intro h
    exact ⟨hpropagated.2 h.1, fun existing he => (hupdated existing).2 (h.2 existing he)⟩

/-! ## An Ingress and its Endpoints -/

def ownEndpoints : IngressEndpoints := getEndpoints (sourceResource ownIngress)

/-- A cluster with the Endpoints, which have some annotations. -/
def annotatedCluster (annotations : Go.Map String String) : Cluster where
  ingresses := ⟨[ownIngress], nodup_keys_singleton ownIngress⟩
  endpoints _ := some { ownEndpoints with annotations := annotations }

/-- The cluster after they are written. -/
def writtenCluster (annotations : Go.Map String String) : Cluster :=
  (createOrUpdateEndpoints webEnvironment ownEndpoints (annotatedCluster annotations)).2

/-- An Ingress with an annotation with a prefix, and a Service without any. -/
theorem metadataKept_zone :
    MetadataKept ["lb."] (fun _ => none) (metadataOf (Map.ofList [("lb.zone", "a")]) ∅)
      (.endpoints ownEndpoints) (annotatedCluster ∅) (writtenCluster ∅) := by
  have hrun : (Desired.createOrUpdate webEnvironment (.endpoints ownEndpoints)).Succeeds
      (annotatedCluster ∅) (writtenCluster ∅) := rfl
  refine (metadataKept_iff (by decide) _ _ hrun).2 ⟨fun f => ⟨fun k hk => ?_, ?_⟩, ?_⟩
  · cases f with
    | labels => rfl
    | annotations =>
      have hne : k ≠ "lb.zone" := by
        rintro rfl
        exact absurd hk (by decide)
      simp [metadataOf, lookup, Map.ofList, Map.get?_set, hne]
  · exact fun _ _ _ _ hv => by cases hv
  · rintro existing h f k hk
    obtain rfl := Option.some_inj.1 h
    cases f <;> exact hk

/-- The Service loses its label, and the Endpoints an annotation. -/
theorem not_metadataKept_own :
    ¬ MetadataKept ["lb."] (getService (sourceResource ownIngress) none).metadata (fun _ => none)
        (.endpoints ownEndpoints) (annotatedCluster ∅) (writtenCluster ∅) ∧
      ¬ MetadataKept ["lb."] (fun _ => none) (fun _ => none) (.endpoints ownEndpoints)
        (annotatedCluster (Map.ofList [("owner", "me")]))
        (writtenCluster (Map.ofList [("owner", "me")])) := by
  constructor
  · intro h
    exact absurd ((h.propagated .labels).1 dolphinIngressLabelKey) (by decide)
  · intro h
    obtain ⟨after, hafter, hkept⟩ := h.updated _ rfl
    obtain rfl : _ = after := Option.some_inj.1 hafter
    exact absurd (hkept .annotations "owner") (by decide)

end IngressController
