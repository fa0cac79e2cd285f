import Dolphin.Go.Maps
import Dolphin.GatewayAPI.Helpers

/-!
# Namespace policies

Which namespaces a listener admits routes from (`allowedRoutes.namespaces`), and
which ListenerSets a Gateway admits (`allowedListeners`).

The namespaces and their labels are those of a `Cluster`. Selectors are evaluated
by the Kubernetes machinery, which is not part of this code:
`Cluster.labelSelectorAsSelector` stands for it, and is arbitrary.

The code has two readings of a listener's policy. `isListenerNamespaceAllowed`
looks up the labels of the route's namespace in an index;
`resolveAllowedNamespaces` lists the admitted namespaces beforehand. What both
are for is `Admits`, the policy as the API documents it, which the first decides
when the index holds all namespaces (`isListenerNamespaceAllowed_iff`) and the second
when the namespaces can be listed (`mem_resolveAllowedNamespaces_iff`).
-/

namespace Gatewayv1

open List

/-- What the code sees of the cluster when it evaluates a policy: the labelled
    namespaces, whose names are distinct, and how Kubernetes evaluates a selector
    (`none` where `metav1.LabelSelectorAsSelector` returns an error). -/
structure Cluster where
  namespaces : List Corev1.Namespace
  labelSelectorAsSelector : Option LabelSelector → Option (Labels → Bool)
  /-- The API server may fail to list the namespaces that a selector selects. -/
  listNamespacesFails : Option LabelSelector → Bool := fun _ => false
  names_nodup : (namespaces.map (·.name)).Nodup

/-- `client.MatchingLabels`: the labels have all the pairs. -/
def matchingLabels (pairs labels : Labels) : Bool :=
  pairs.all fun p => labels.lookup p.1 == some p.2

/-- `NamespaceLabelIndex`: the labels of the namespaces, by name. -/
abbrev NamespaceLabelIndex := Go.Map String Labels

def newNamespaceLabelIndex (namespaces : List Corev1.Namespace) : NamespaceLabelIndex :=
  .ofList (namespaces.map fun n => (n.name, n.labels))

namespace Cluster

variable (c : Cluster)

/-- `Client.List` of the namespaces that match a selector; a selector that does not
    parse is passed on as nil, which selects nothing. -/
def listNamespaces (s : Option LabelSelector) : Option (List Corev1.Namespace) :=
  if c.listNamespacesFails s then none
  else some (c.namespaces.filter fun n => (c.labelSelectorAsSelector s).any (· n.labels))

/-- The namespace `ns` exists and its labels match the selector. -/
def Selected (s : Option LabelSelector) (ns : String) : Prop :=
  ∃ n ∈ c.namespaces, n.name = ns ∧ ∃ m, c.labelSelectorAsSelector s = some m ∧ m n.labels = true

variable {ns : String}

theorem mem_listNamespaces_iff {s : Option LabelSelector} {l : List Corev1.Namespace}
    (h : c.listNamespaces s = some l) :
    ns ∈ l.map (·.name) ↔ c.Selected s ns := by
  have hfails : c.listNamespacesFails s = false := by
    by_contra hf
    simp [listNamespaces, hf] at h
  simp only [listNamespaces, hfails, Bool.false_eq_true, if_false, Option.some_inj] at h
  subst h
  simp only [mem_map, mem_filter, Option.any_eq_true, Selected]
  constructor
  · rintro ⟨n, ⟨hn, m, hm, hl⟩, rfl⟩
    exact ⟨n, hn, rfl, m, hm, hl⟩
  · rintro ⟨n, hn, rfl, m, hm, hl⟩
    exact ⟨n, ⟨hn, m, hm, hl⟩, rfl⟩

theorem listNamespaces_eq (hlist : ∀ s, c.listNamespacesFails s = false)
    (s : Option LabelSelector) : c.listNamespaces s =
      some (c.namespaces.filter fun n => (c.labelSelectorAsSelector s).any (· n.labels)) := by
  rw [listNamespaces, hlist, if_neg Bool.false_ne_true]

/-! ## Routes -/

def isNamespaceSelected (selector : Option LabelSelector) (routeNamespace : String)
    (namespaces : NamespaceLabelIndex) : Bool :=
  match namespaces.get? routeNamespace, c.labelSelectorAsSelector selector with
  | some labels, some selectorMatcher => selectorMatcher labels
  | _, _ => false

/-- Whether a route in `routeNamespace` may attach to a listener owned by an object
    in `gatewayNamespace`. -/
def isListenerNamespaceAllowed (listener : Listener) (routeNamespace gatewayNamespace : String)
    (namespaces : NamespaceLabelIndex) : Bool :=
  match listener.allowedRoutes.bind (·.namespaces) with
  | none => routeNamespace == gatewayNamespace
  | some routeNamespaces =>
    match routeNamespaces.fromNamespaces with
    | none =>
      match routeNamespaces.selector with
      | some s => c.isNamespaceSelected (some s) routeNamespace namespaces
      | none => routeNamespace == gatewayNamespace
    | some .all => true
    | some .same => routeNamespace == gatewayNamespace
    | some .none => false
    | some .selector => c.isNamespaceSelected routeNamespaces.selector routeNamespace namespaces
    | some (.other _) => false

/-- The set of namespaces a listener admits; `none` (a nil map) means all. -/
def resolveAllowedNamespaces (listenerNamespace : String) (listener : Listener) :
    Option (List String) :=
  match listener.allowedRoutes.bind (·.namespaces) with
  | none => some [listenerNamespace]
  | some routeNamespaces =>
    match routeNamespaces.fromNamespaces with
    | some .all => none
    | some .selector =>
      match c.listNamespaces routeNamespaces.selector with
      | none => some [listenerNamespace]
      | some nsList => some (nsList.map (·.name))
    | _ => some [listenerNamespace]

/-- The namespace policy of a listener whose owner is in the namespace `owner`: it
    admits all namespaces, that of its owner (the default), or those that match a
    selector. -/
def Admits (listener : Listener) (owner routeNamespace : String) : Prop :=
  match listener.allowedRoutes.bind (·.namespaces) with
  | none => routeNamespace = owner
  | some policy =>
    match policy.fromNamespaces, policy.selector with
    | none, none => routeNamespace = owner
    | none, some s => c.Selected (some s) routeNamespace
    | some .all, _ => True
    | some .same, _ => routeNamespace = owner
    | some .selector, s => c.Selected s routeNamespace
    | some .none, _ => False
    | some (.other _), _ => False

theorem isNamespaceSelected_iff {s : Option LabelSelector} :
    c.isNamespaceSelected s ns (newNamespaceLabelIndex c.namespaces) = true ↔ c.Selected s ns := by
  have hnodup : ((c.namespaces.map fun n => (n.name, n.labels)).map Prod.fst).Nodup := by
    rw [map_map]
    exact c.names_nodup
  have hget (labels : Labels) : (newNamespaceLabelIndex c.namespaces).get? ns = some labels ↔
      ∃ n ∈ c.namespaces, n.name = ns ∧ n.labels = labels := by
    rw [newNamespaceLabelIndex, Go.Map.get?_ofList hnodup, mem_map]
    simp only [Prod.mk.injEq]
  constructor
  · intro h
    unfold isNamespaceSelected at h
    split at h
    · rename_i labels m hlabels hm
      obtain ⟨n, hn, hname, rfl⟩ := (hget labels).1 hlabels
      exact ⟨n, hn, hname, m, hm, h⟩
    · exact absurd h (by simp)
  · rintro ⟨n, hn, hname, m, hm, h⟩
    rw [isNamespaceSelected, (hget n.labels).2 ⟨n, hn, hname, rfl⟩, hm]
    exact h

theorem isListenerNamespaceAllowed_iff {l : Listener} {owner : String} :
    c.isListenerNamespaceAllowed l ns owner (newNamespaceLabelIndex c.namespaces) = true ↔
      c.Admits l owner ns := by
  unfold isListenerNamespaceAllowed Admits
  cases l.allowedRoutes.bind (·.namespaces) with
  | none => exact beq_iff_eq
  | some policy =>
    obtain ⟨fromNamespaces, selector⟩ := policy
    rcases fromNamespaces with _ | (_ | _ | _ | _ | _)
    · cases selector with
      | none => exact beq_iff_eq
      | some s => exact c.isNamespaceSelected_iff
    · exact iff_of_true rfl trivial
    · exact beq_iff_eq
    · exact c.isNamespaceSelected_iff
    · exact iff_of_false Bool.false_ne_true id
    · exact iff_of_false Bool.false_ne_true id

/-- A policy with a value of `from` that the API server admits for routes, be it the default
    `Same`. -/
def AdmittedPolicy (policy : RouteNamespaces) : Prop :=
  policy.fromNamespaces ∈ [some .all, some .same, some .selector]

section

variable (l : Listener) (owner ns : String) (hlist : ∀ s, c.listNamespacesFails s = false)
  (hpolicy : ∀ policy ∈ l.allowedRoutes.bind (·.namespaces), AdmittedPolicy policy)

include hlist hpolicy

theorem mem_resolveAllowedNamespaces_iff :
    (∀ allowed ∈ c.resolveAllowedNamespaces owner l, ns ∈ allowed) ↔ c.Admits l owner ns := by
  unfold resolveAllowedNamespaces Admits
  cases hp : l.allowedRoutes.bind (·.namespaces) with
  | none => simp
  | some policy =>
    have hadmitted := hpolicy policy hp
    obtain ⟨fromNamespaces, selector⟩ := policy
    simp only [AdmittedPolicy, mem_cons, not_mem_nil, or_false] at hadmitted
    rcases hadmitted with rfl | rfl | rfl
    · simp
    · simp
    · -- a selector that does not parse selects nothing, in both readings
      have hsome := c.listNamespaces_eq hlist selector
      simp only [hsome, Option.mem_some_iff, forall_eq']
      exact c.mem_listNamespaces_iff hsome

/-- Both readings of the policy of a listener are the same. -/
theorem resolveAllowedNamespaces_alike :
    (∀ allowed ∈ c.resolveAllowedNamespaces owner l, ns ∈ allowed) ↔
      c.isListenerNamespaceAllowed l ns owner (newNamespaceLabelIndex c.namespaces) = true := by
  rw [isListenerNamespaceAllowed_iff]
  exact c.mem_resolveAllowedNamespaces_iff l owner ns hlist hpolicy

end

theorem tiers_nodup : ["web", "audit"].Nodup := by decide

/-- A cluster with two namespaces, where a selector asks for its match labels. -/
def tieredCluster : Cluster where
  namespaces := [⟨"web", [("tier", "front")]⟩, ⟨"audit", [("tier", "back")]⟩]
  labelSelectorAsSelector := fun s => some fun labels => s.any fun s =>
    matchingLabels s.matchLabels labels
  names_nodup := tiers_nodup

/-- A listener for the namespaces of the front tier. -/
def frontListener : Listener where
  name := "front"
  port := 80
  protocol := .http
  allowedRoutes := some
    { namespaces := some
        { fromNamespaces := some .selector
          selector := some { matchLabels := [("tier", "front")] } } }

/-- The namespace of the front tier is listed, as it is selected. -/
theorem resolveAllowedNamespaces_front :
    (∀ allowed ∈ tieredCluster.resolveAllowedNamespaces "infra" frontListener, "web" ∈ allowed) ∧
      ¬ ∀ allowed ∈ tieredCluster.resolveAllowedNamespaces "infra" frontListener,
        "audit" ∈ allowed := by
  have hpolicy (policy : RouteNamespaces)
      (h : policy ∈ frontListener.allowedRoutes.bind (·.namespaces)) : AdmittedPolicy policy := by
    obtain rfl := Option.some.inj h
    simp [AdmittedPolicy]
  have halike (ns : String) :=
    tieredCluster.resolveAllowedNamespaces_alike frontListener "infra" ns (fun _ => rfl) hpolicy
  exact ⟨(halike "web").2 (by decide), fun h => absurd ((halike "audit").1 h) (by decide)⟩

/-! ## ListenerSets -/

/-- Whether a Gateway allows a given ListenerSet. -/
def isListenerSetAllowed (gw : Gateway) (ls : ListenerSet) : Bool :=
  match gw.allowedListeners.bind (·.namespaces) with
  | none => false
  | some policy =>
    match policy.fromNamespaces with
    | some .all => true
    | some .same => ls.ns == gw.ns
    | some .selector =>
      if (c.labelSelectorAsSelector policy.selector).isNone then false
      else match c.listNamespaces policy.selector with
        | none => false
        | some nsList => nsList.any (·.name == ls.ns)
    | _ => false

/-- The `allowedListeners` policy of a Gateway for the namespace of a ListenerSet. -/
def AdmitsListeners (gw : Gateway) (ns : String) : Prop :=
  match gw.allowedListeners.bind (·.namespaces) with
  | none => False
  | some policy =>
    match policy.fromNamespaces with
    | some .all => True
    | some .same => ns = gw.ns
    | some .selector => c.Selected policy.selector ns
    | _ => False

theorem admitsListeners_of_allowed {gw : Gateway} {ls : ListenerSet}
    (h : c.isListenerSetAllowed gw ls = true) : c.AdmitsListeners gw ls.ns := by
  unfold isListenerSetAllowed at h
  unfold AdmitsListeners
  cases hpolicy : gw.allowedListeners.bind (·.namespaces) with
  | none =>
    rw [hpolicy] at h
    exact absurd h Bool.false_ne_true
  | some policy =>
    rw [hpolicy] at h
    obtain ⟨fromNamespaces, selector⟩ := policy
    rcases fromNamespaces with _ | (_ | _ | _ | _ | _)
    · exact absurd h Bool.false_ne_true
    · trivial
    · exact beq_iff_eq.1 h
    · dsimp only at h
      split_ifs at h with hparse
      split at h
      · exact absurd h Bool.false_ne_true
      · rename_i nsList hlist
        obtain ⟨n, hn, hname⟩ := any_eq_true.1 h
        exact (c.mem_listNamespaces_iff hlist).1 (mem_map.2 ⟨n, hn, beq_iff_eq.1 hname⟩)
    · exact absurd h Bool.false_ne_true
    · exact absurd h Bool.false_ne_true

end Cluster

end Gatewayv1
