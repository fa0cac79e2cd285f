import Dolphin.GatewayAPI.Namespaces
import Dolphin.Go.Panic

/-!
# Events of namespaces

When a namespace is created or changed, the Gateways should be reconciled that have a listener whose
policy admits routes from it (`Affected`). `getGatewaysForNamespace` goes over all listeners of all
Gateways and collects names.

Listeners with a selector make it go wrong. The code lists the namespaces with the match labels of
the selector, leaving the match expressions out, and what it collects for the one of the event is the
name of the namespace, not that of the Gateway. So the right Gateways are found exactly if no selector
has match labels that the namespace has, and if none of the pointers is nil that the code dereferences
(`wakesAffected_iff`).
-/

namespace Watch

open Gatewayv1 Go List Option

/-- The name under which a Gateway is reconciled. -/
def gatewayKey (gw : Gateway) : NamespacedName := ⟨gw.ns, gw.name⟩

/-- The policy of a listener for the namespaces of routes. -/
def policyOf (l : Listener) : Option RouteNamespaces := l.allowedRoutes.bind (·.namespaces)

section

variable (c : Cluster)

/-- `Client.List` of the namespaces with `client.MatchingLabels`. -/
def listMatchingLabels (pairs : Labels) : Option (List Corev1.Namespace) :=
  if c.listNamespacesFails (some { matchLabels := pairs }) then none
  else some (c.namespaces.filter fun n => matchingLabels pairs n.labels)

/-- The loop over the listeners of the Gateways, for a namespace with the name `ns`, after it has
    collected `ret`. -/
def collectGateways (ns : String) :
    List (Gateway × Listener) → List NamespacedName → Result (List NamespacedName)
  | [], ret => pure ret
  | (gw, listener) :: rest, ret =>
    match policyOf listener with
    | none => collectGateways ns rest ret
    | some namespaces => do
      let fromNamespaces ← deref namespaces.fromNamespaces
      match fromNamespaces with
      | .all => collectGateways ns rest (ret ++ [gatewayKey gw])
      | .same =>
        collectGateways ns rest (if gw.ns = ns then ret ++ [gatewayKey gw] else ret)
      | .selector => do
        let selector ← deref namespaces.selector
        match listMatchingLabels c selector.matchLabels with
        -- what has been collected is dropped
        | none => pure []
        | some nsList =>
          -- a namespace is in no namespace
          collectGateways ns rest
            (ret ++ (nsList.filter (·.name = ns)).map fun nmopt => ⟨"", nmopt.name⟩)
      | _ => collectGateways ns rest ret

/-- The Gateways for a namespace, where `gateways` are those that are listed, if they can be. -/
def getGatewaysForNamespace (gateways : Option (List Gateway)) (ns : String) :
    Result (List NamespacedName) :=
  match gateways with
  | none => pure []
  | some gws => collectGateways c ns (gws.flatMap fun gw => gw.listeners.map fun l => (gw, l)) []

/-- The policy is for all namespaces, for that of the Gateway, which is `n`, or for those with labels
    like `n`. -/
def Concerns (n : Corev1.Namespace) (gw : Gateway) (policy : RouteNamespaces) : Prop :=
  policy.fromNamespaces = some .all ∨ (policy.fromNamespaces = some .same ∧ gw.ns = n.name) ∨
    (policy.fromNamespaces = some .selector ∧
      ∃ m, c.labelSelectorAsSelector policy.selector = some m ∧ m n.labels = true)

/-- The listener has a policy that concerns the namespace. -/
def Affected (n : Corev1.Namespace) (gw : Gateway) (l : Listener) : Prop :=
  ∃ policy, policyOf l = some policy ∧ Concerns c n gw policy

/-- The Gateways that are returned are those with an affected listener. -/
def WakesAffected (gateways : List Gateway) (n : Corev1.Namespace) : Prop :=
  ∃ ret, getGatewaysForNamespace c (some gateways) n.name = .ok ret ∧
    ∀ key, key ∈ ret ↔ ∃ gw ∈ gateways, gatewayKey gw = key ∧ ∃ l ∈ gw.listeners, Affected c n gw l

/-- How selectors are evaluated: they ask for their match labels. -/
def AsksForMatchLabels : Prop :=
  ∀ s m labels, c.labelSelectorAsSelector (some s) = some m → m labels = true →
    matchingLabels s.matchLabels labels = true

/-- What the iteration for a listener collects, if the namespaces can be listed. -/
def collected (ns : String) (p : Gateway × Listener) : Result (List NamespacedName) :=
  match policyOf p.2 with
  | none => pure []
  | some policy => do
    let fromNamespaces ← deref policy.fromNamespaces
    match fromNamespaces with
    | .all => pure [gatewayKey p.1]
    | .same => pure (if p.1.ns = ns then [gatewayKey p.1] else [])
    | .selector => do
      let selector ← deref policy.selector
      pure (((c.namespaces.filter fun n => matchingLabels selector.matchLabels n.labels).filter
        (·.name = ns)).map fun n => ⟨"", n.name⟩)
    | _ => pure []

/-- The policy has a value for `from` and, where this is `Selector`, a selector with match labels that
    the namespace does not have. -/
def Harmless (n : Corev1.Namespace) (policy : RouteNamespaces) : Prop :=
  policy.fromNamespaces.isSome ∧ (policy.fromNamespaces = some .selector →
    ∃ s, policy.selector = some s ∧ matchingLabels s.matchLabels n.labels = false)

end

section

variable {c : Cluster} {n : Corev1.Namespace} (hn : n ∈ c.namespaces) (gw : Gateway) {l : Listener}

theorem collectGateways_eq_collect (hlist : ∀ s, c.listNamespacesFails s = false) (ns : String)
    (pairs : List (Gateway × Listener)) (ret : List NamespacedName) :
    collectGateways c ns pairs ret = (ret ++ ·) <$> collect (collected c ns) pairs := by
  induction pairs generalizing ret with
  | nil => exact congrArg Except.ok (append_nil ret).symm
  | cons p pairs ih =>
    -- what an iteration collects stands before what the others do
    have hstep (keys : List NamespacedName) :
        collectGateways c ns pairs (ret ++ keys) = (ret ++ ·) <$>
          (collect (collected c ns) pairs >>= fun rest => pure (keys ++ rest)) := by
      rw [ih]
      cases collect (collected c ns) pairs with
      | error e => rfl
      | ok rest => exact congrArg Except.ok (append_assoc ret keys rest)
    have hskip := hstep []
    rw [append_nil] at hskip
    rw [collectGateways, collect_cons, collected]
    rcases policyOf p.2 with _ | ⟨_ | value, selector⟩
    · exact hskip
    · rfl
    · cases value with
      | all => exact hstep _
      | same =>
        rw [show (if p.1.ns = ns then ret ++ [gatewayKey p.1] else ret) =
          ret ++ if p.1.ns = ns then [gatewayKey p.1] else [] by split_ifs <;> simp]
        exact hstep _
      | selector =>
        cases selector with
        | none => rfl
        | some s =>
          simp only [deref, listMatchingLabels, hlist]
          exact hstep _
      | _ => exact hskip

include hn

/-- A listener whose policy is harmless adds its Gateway if it is affected. -/
theorem collected_of_harmless (hselectors : AsksForMatchLabels c)
    (h : ∀ policy, policyOf l = some policy → Harmless n policy) :
    ∃ keys, collected c n.name (gw, l) = .ok keys ∧
      ∀ key, key ∈ keys ↔ gatewayKey gw = key ∧ Affected c n gw l := by
  rw [collected]
  cases hpolicy : policyOf l with
  | none => exact ⟨[], rfl, by simp [Affected, hpolicy]⟩
  | some policy =>
    obtain ⟨hfrom, hselector⟩ := h policy hpolicy
    obtain ⟨fromNamespaces, selector⟩ := policy
    obtain ⟨value, rfl⟩ := isSome_iff_exists.1 hfrom
    simp only [Affected, hpolicy, some.injEq, exists_eq_left', Concerns]
    cases value with
    | selector =>
      obtain ⟨s, rfl, hs⟩ := hselector rfl
      refine ⟨_, rfl, fun key => iff_of_false (fun hkey => ?_) ?_⟩
      · obtain ⟨n', hn', rfl⟩ := mem_map.1 hkey
        simp only [mem_filter, decide_eq_true_eq] at hn'
        -- names of namespaces are distinct
        obtain rfl := inj_on_of_nodup_map c.names_nodup hn'.1.1 hn hn'.2
        exact Bool.false_ne_true (hs.symm.trans hn'.1.2)
      · rintro ⟨_, hall | ⟨hsame, _⟩ | ⟨_, m, hm, hmatches⟩⟩
        · cases hall
        · cases hsame
        · exact Bool.false_ne_true (hs.symm.trans (hselectors s m n.labels hm hmatches))
    | same =>
      refine ⟨_, rfl, fun key => ?_⟩
      by_cases hns : gw.ns = n.name
      · simp [hns, eq_comm (a := key)]
      · simp [hns]
    | _ => exact ⟨_, rfl, fun key => by simp [eq_comm (a := key)]⟩

/-- Any other listener adds the namespace. -/
theorem mem_collected_of_not_harmless {policy : RouteNamespaces} {keys : List NamespacedName}
    (hpolicy : policyOf l = some policy) (h : ¬ Harmless n policy)
    (hkeys : collected c n.name (gw, l) = .ok keys) : ⟨"", n.name⟩ ∈ keys := by
  rw [collected, hpolicy] at hkeys
  obtain ⟨_ | value, selector⟩ := policy
  · cases hkeys
  · by_cases hvalue : value = .selector
    · subst hvalue
      cases selector with
      | none => cases hkeys
      | some s =>
        obtain rfl := Except.ok.inj hkeys
        refine mem_map.2 ⟨n, mem_filter.2 ⟨mem_filter.2 ⟨hn, ?_⟩, decide_eq_true rfl⟩, rfl⟩
        by_contra hs
        exact h ⟨rfl, fun _ => ⟨s, rfl, eq_false_of_ne_true hs⟩⟩
    · exact absurd ⟨rfl, fun h => absurd (some.inj h) hvalue⟩ h

/-- The right Gateways are woken exactly if every policy has a value for `from` and, where this is
    `Selector`, a selector with match labels that the namespace does not have. -/
theorem wakesAffected_iff {gateways : List Gateway}
    (hlist : ∀ s, c.listNamespacesFails s = false) (hselectors : AsksForMatchLabels c)
    (hgateways : ∀ gw ∈ gateways, gw.ns ≠ "") :
    WakesAffected c gateways n ↔
      ∀ gw ∈ gateways, ∀ l ∈ gw.listeners, ∀ policy, policyOf l = some policy →
        Harmless n policy := by
  have hpairs (p : Gateway × Listener) :
      p ∈ gateways.flatMap (fun gw => gw.listeners.map (gw, ·)) ↔
        p.1 ∈ gateways ∧ p.2 ∈ p.1.listeners := by
    simp only [mem_flatMap, List.mem_map, Prod.ext_iff]
    aesop
  simp only [WakesAffected, getGatewaysForNamespace, collectGateways_eq_collect hlist, nil_append,
    id_map']
  constructor
  · rintro ⟨ret, hret, hkeys⟩ gw hgw l hl policy hpolicy
    by_contra hharm
    -- the namespace itself would be among the Gateways
    obtain ⟨keys, hcollected⟩ := (collect_eq_ok_iff.1 hret).1 _ ((hpairs (gw, l)).2 ⟨hgw, hl⟩)
    have hmem := (mem_collect hret).2 ⟨_, (hpairs (gw, l)).2 ⟨hgw, hl⟩, keys, hcollected,
      mem_collected_of_not_harmless hn gw hpolicy hharm hcollected⟩
    obtain ⟨gw', hgw', hkey, _⟩ := (hkeys _).1 hmem
    exact hgateways gw' hgw' (congrArg NamespacedName.ns hkey)
  · intro h
    have hcollected (p) (hp : p ∈ gateways.flatMap fun gw => gw.listeners.map (gw, ·)) :=
      have hp := (hpairs p).1 hp
      collected_of_harmless hn p.1 hselectors (h p.1 hp.1 p.2 hp.2)
    obtain ⟨ret, hret⟩ := exists_collect fun p hp => (hcollected p hp).imp fun _ h => h.1
    refine ⟨ret, hret, fun key => ?_⟩
    rw [mem_collect hret]
    constructor
    · rintro ⟨p, hp, keys, hkeys, hkey⟩
      obtain ⟨hgw, hl⟩ := (hpairs p).1 hp
      obtain ⟨keys', hkeys', hiff⟩ := hcollected p hp
      obtain rfl := Except.ok.inj (hkeys.symm.trans hkeys')
      obtain ⟨hkey, haffected⟩ := (hiff key).1 hkey
      exact ⟨p.1, hgw, hkey, p.2, hl, haffected⟩
    · rintro ⟨gw, hgw, hkey, l, hl, haffected⟩
      obtain ⟨keys, hkeys, hiff⟩ := hcollected (gw, l) ((hpairs _).2 ⟨hgw, hl⟩)
      exact ⟨_, (hpairs _).2 ⟨hgw, hl⟩, keys, hkeys, (hiff key).2 ⟨hkey, haffected⟩⟩

end

theorem asksForMatchLabels_tieredCluster : AsksForMatchLabels Cluster.tieredCluster := by
  rintro s m labels hm hmatches
  obtain rfl := some.inj hm
  simpa using hmatches

def frontTier : Corev1.Namespace := ⟨"web", [("tier", "front")]⟩

/-- A Gateway with one listener, for routes from all namespaces. -/
def openGateway : Gateway where
  name := "open"
  ns := "infra"
  gatewayClassName := "dolphin"
  listeners := [{
    name := "all", port := 80, protocol := .http
    allowedRoutes := some { namespaces := some { fromNamespaces := some .all } } }]

def frontGateway : Gateway where
  name := "edge"
  ns := "infra"
  gatewayClassName := "dolphin"
  listeners := [Cluster.frontListener]

/-- The Gateway that admits routes from everywhere is woken. -/
theorem wakesAffected_open : WakesAffected Cluster.tieredCluster [openGateway] frontTier := by
  refine (wakesAffected_iff mem_cons_self (fun _ => rfl) asksForMatchLabels_tieredCluster ?_).2 ?_
  · simp [openGateway]
  · simp [openGateway, policyOf, Harmless]

/-- The one that admits routes from the front tier is not: what is returned is the namespace. -/
theorem not_wakesAffected_front :
    getGatewaysForNamespace Cluster.tieredCluster (some [frontGateway]) "web" =
        .ok [⟨"", "web"⟩] ∧
      ¬ WakesAffected Cluster.tieredCluster [frontGateway] frontTier := by
  have hret : getGatewaysForNamespace Cluster.tieredCluster (some [frontGateway]) "web" =
      .ok [⟨"", "web"⟩] := by rfl
  refine ⟨hret, ?_⟩
  rintro ⟨ret, h, hkeys⟩
  obtain rfl := Except.ok.inj (hret.symm.trans h)
  obtain ⟨gw, hgw, hkey, _⟩ := (hkeys ⟨"", "web"⟩).1 mem_cons_self
  obtain rfl := mem_singleton.1 hgw
  exact absurd hkey (by decide)

end Watch
