import Dolphin.Reconcile.RouteWrites

/-!
# Which routes are accepted

A TLSRoute or GRPCRoute should be accepted for a parentRef exactly when some listener of the
Gateway fits it in every respect (`Fits`): the parentRef covers it, it has a host name in common
with the route, and it allows the kind and the namespace of the route.

But each check goes over the listeners by itself, the check of the kinds over all of them, and
that of the namespaces keeps the others from running if no listener decides. `acceptanceLaw_iff`
says when this makes no difference.
-/

namespace Reconcile

open Gatewayv1 Go Ingestion List

variable {gw : Gateway} {route : Route} {parentRef : ParentReference} {outcome : CheckOutcome}
  {api : RouteAPI}

/-! ## The law -/

section

variable (c : Cluster) (gw : Gateway) (route : Route) (parentRef : ParentReference)

/-- The listener has no kinds, or the kind of the route is among them. -/
def ListsKind (l : Listener) : Prop :=
  (l.allowedRoutes.bind (·.kinds)).getD [] = [] ∨ ∃ k ∈ (l.allowedRoutes.bind (·.kinds)).getD [],
      (k.group = none ∨ k.group = some groupName) ∧ k.kind = route.kind

/-- The listener fits the route and its parentRef in every respect. -/
structure Fits (l : Listener) : Prop where
  sectionName : parentRef.sectionName = none ∨ parentRef.sectionName = some l.name
  port : parentRef.port = none ∨ parentRef.port = some l.port
  hostnames : HostnamesIntersect (getHostnames route) l.hostname
  kind : ListsKind route l
  ns : c.Admits l gw.ns route.toCommonRoute.ns

/-- The reconciler makes a status, which says that the route is accepted for the parentRef if and
    only if some listener of the Gateway fits. -/
def AcceptanceLaw (api : RouteAPI) (grants : List ReferenceGrant) : Prop :=
  ∃ run, reconcileRoute api route grants = .ok run ∧
    (statusOf "Accepted" parentRef (run.parents api route) = some .true ↔
      ∃ l ∈ gw.listeners, Fits api.toCluster gw route parentRef l)

/-- No listener that the check of the namespaces looks at has a namespace policy. -/
def Unrestricted (ls : List Listener) : Prop :=
  ∀ l ∈ ls, concerns route parentRef l = true → l.allowedRoutes.bind (·.namespaces) = none

/-- The listener has a namespace policy that lets the route in. -/
def Welcomes (l : Listener) : Prop :=
  concerns route parentRef l = true ∧ (l.allowedRoutes.bind (·.namespaces)).isSome = true ∧
    c.Admits l gw.ns route.toCommonRoute.ns

/-- The listener has a selector that does not select the namespace of the route. -/
def TurnsAway (l : Listener) : Prop :=
  concerns route parentRef l = true ∧
    (l.allowedRoutes.bind (·.namespaces)).bind (·.fromNamespaces) = some .selector ∧
    ¬ c.Admits l gw.ns route.toCommonRoute.ns

/-- Some listener lets the route in, and none before it has a selector that does not. -/
def Welcomed (ls : List Listener) : Prop :=
  ∃ before l after, ls = before ++ l :: after ∧ Welcomes c gw route parentRef l ∧
    ∀ l' ∈ before, ¬ TurnsAway c gw route parentRef l'

/-- What the API server fills in: a namespace policy has `from`, a reference to a backend has a
    kind. -/
structure Defaulted (api : RouteAPI) : Prop where
  fromNamespaces : ∀ ref ∈ route.toCommonRoute.parentRefs, ∀ gw,
    api.getGateway (parentKey route ref) = .ok gw → ∀ l ∈ gw.listeners, ∀ policy,
      l.allowedRoutes.bind (·.namespaces) = some policy → policy.fromNamespaces.isSome = true
  kinds : ∀ be ∈ route.getBackendRefs, be.kind.isSome = true

end

/-! ## The check of the namespaces -/

section

variable {c : Cluster} {l : Listener} {ls : List Listener}

theorem not_welcomed_nil : ¬ Welcomed c gw route parentRef [] := by
  rintro ⟨before, l, after, h, _⟩
  exact cons_ne_nil _ _ (append_eq_nil_iff.1 h.symm).2

theorem welcomed_cons : Welcomed c gw route parentRef (l :: ls) ↔ Welcomes c gw route parentRef l ∨
      ¬ TurnsAway c gw route parentRef l ∧ Welcomed c gw route parentRef ls := by
  constructor
  · rintro ⟨before, l', after, heq, hwelcomes, hbefore⟩
    cases before with
    | nil =>
      obtain ⟨rfl, _⟩ := List.cons.inj heq
      exact .inl hwelcomes
    | cons b before =>
      rw [cons_append] at heq
      obtain ⟨rfl, htail⟩ := List.cons.inj heq
      exact .inr ⟨hbefore _ mem_cons_self, before, l', after, htail, hwelcomes,
        fun b hb => hbefore b (mem_cons_of_mem _ hb)⟩
  · rintro (hwelcomes | ⟨hturns, before, l', after, rfl, hwelcomes, hbefore⟩)
    · exact ⟨[], l, ls, rfl, hwelcomes, by simp⟩
    · exact ⟨l :: before, l', after, rfl, hwelcomes, forall_mem_cons.2 ⟨hturns, hbefore⟩⟩

theorem unrestricted_cons : Unrestricted route parentRef (l :: ls) ↔
    (concerns route parentRef l = true → l.allowedRoutes.bind (·.namespaces) = none) ∧
      Unrestricted route parentRef ls :=
  forall_mem_cons

/-- What the check of the namespaces should do with some listeners. -/
structure NamespaceOutcome (c : Cluster) (gw : Gateway) (route : Route)
    (parentRef : ParentReference) (hasNamespaceRestriction : Bool) (ls : List Listener)
    (outcome : CheckOutcome) : Prop where
  welcomed : Welcomed c gw route parentRef ls → outcome = ⟨[], .ok true⟩
  not_welcomed : ¬ Welcomed c gw route parentRef ls → outcome.continueCheck = .ok false ∧
    (outcome.conditions = [] ↔ hasNamespaceRestriction = false ∧ Unrestricted route parentRef ls)
  conditions : ∀ cond ∈ outcome.conditions, cond.type = "Accepted" ∧ cond.status = .false

section

variable {restricted restricted' : Bool}

theorem NamespaceOutcome.welcome (h : Welcomes c gw route parentRef l) :
    NamespaceOutcome c gw route parentRef restricted (l :: ls) ⟨[], .ok true⟩ where
  welcomed _ := rfl
  not_welcomed hnot := absurd (welcomed_cons.2 (.inl h)) hnot
  conditions _ hcond := by cases hcond

theorem TurnsAway.not_unrestricted (h : TurnsAway c gw route parentRef l) :
    ¬ Unrestricted route parentRef (l :: ls) := by
  intro hunrestricted
  have hfrom := h.2.1
  rw [hunrestricted l mem_cons_self h.1] at hfrom
  cases hfrom

/-- A listener with a selector that does not select the namespace of the route. -/
theorem NamespaceOutcome.turnAway (h : TurnsAway c gw route parentRef l) {restrictions : String} :
    NamespaceOutcome c gw route parentRef restricted (l :: ls)
      ⟨[notAllowedByListeners route restrictions], .ok false⟩ where
  welcomed hwelcomed := by
    rcases welcomed_cons.1 hwelcomed with hwelcomes | ⟨hnot, _⟩
    · exact absurd hwelcomes.2.2 h.2.2
    · exact absurd h hnot
  not_welcomed _ :=
    ⟨rfl, iff_of_false (cons_ne_nil _ _) fun hfalse => h.not_unrestricted hfalse.2⟩
  conditions cond hcond := by
    obtain rfl := mem_singleton.1 hcond
    exact ⟨rfl, rfl⟩

/-- A listener after which the loop goes on. -/
theorem NamespaceOutcome.skip
    (h : NamespaceOutcome c gw route parentRef restricted' ls outcome)
    (hwelcomes : ¬ Welcomes c gw route parentRef l) (hturns : ¬ TurnsAway c gw route parentRef l)
    (hrestricted : restricted' = false ∧ Unrestricted route parentRef ls ↔
      restricted = false ∧ Unrestricted route parentRef (l :: ls)) :
    NamespaceOutcome c gw route parentRef restricted (l :: ls) outcome := by
  have hiff : Welcomed c gw route parentRef (l :: ls) ↔ Welcomed c gw route parentRef ls := by
    rw [welcomed_cons, or_iff_right hwelcomes, and_iff_right hturns]
  constructor
  · rw [hiff]
    exact h.welcomed
  · rw [hiff, ← hrestricted]
    exact h.not_welcomed
  · exact h.conditions

/-- A listener with a policy that does not let the route in, but is not a selector. -/
theorem NamespaceOutcome.skip_restricted
    (h : NamespaceOutcome c gw route parentRef true ls outcome)
    (hconcerns : concerns route parentRef l = true) {policy : RouteNamespaces}
    (hpolicy : l.allowedRoutes.bind (·.namespaces) = some policy)
    (hadmits : ¬ c.Admits l gw.ns route.toCommonRoute.ns)
    (hselector : policy.fromNamespaces ≠ some .selector) :
    NamespaceOutcome c gw route parentRef restricted (l :: ls) outcome := by
  refine h.skip (fun hwelcomes => hadmits hwelcomes.2.2) ?_ ?_
  · rintro ⟨_, hfrom, _⟩
    rw [hpolicy, Option.bind_some] at hfrom
    exact hselector hfrom
  · refine iff_of_false (fun hfalse => Bool.noConfusion hfalse.1) fun hunrestricted => ?_
    have hnone := hunrestricted.2 l mem_cons_self hconcerns
    rw [hpolicy] at hnone
    cases hnone

end

theorem namespaceLoop_spec (hlists : ∀ s, api.listNamespacesFails s = false)
    (hfrom : ∀ l ∈ ls, ∀ policy, l.allowedRoutes.bind (·.namespaces) = some policy →
      policy.fromNamespaces.isSome = true) (restricted : Bool) :
    ∃ outcome, namespaceLoop api route parentRef gw restricted ls = .ok outcome ∧
      NamespaceOutcome api.toCluster gw route parentRef restricted ls outcome := by
  induction ls generalizing restricted with
  | nil =>
    refine ⟨_, rfl, fun h => absurd h not_welcomed_nil, fun _ => ⟨rfl, ?_⟩, ?_⟩
    · cases restricted <;> simp [Unrestricted]
    · cases restricted <;> simp [notAllowedByListeners]
  | cons l ls ih =>
    have ih := ih fun l' hl' => hfrom l' (mem_cons_of_mem _ hl')
    rw [namespaceLoop]
    by_cases hconcerns : concerns route parentRef l = true
    · rw [if_neg (by simp [hconcerns])]
      cases hpolicy : l.allowedRoutes.bind (·.namespaces) with
      | none =>
        obtain ⟨outcome, hloop, houtcome⟩ := ih restricted
        refine ⟨outcome, hloop, houtcome.skip ?_ ?_ ?_⟩
        · rintro ⟨_, hsome, _⟩
          rw [hpolicy] at hsome
          cases hsome
        · rintro ⟨_, hsome, _⟩
          rw [hpolicy] at hsome
          cases hsome
        · rw [unrestricted_cons, and_iff_right fun _ => hpolicy]
      | some policy =>
        have hsome := hfrom l mem_cons_self policy hpolicy
        obtain ⟨fromNamespaces, selector⟩ := policy
        have hwelcome (hadmits : api.Admits l gw.ns route.toCommonRoute.ns) :
            NamespaceOutcome api.toCluster gw route parentRef restricted (l :: ls)
              ⟨[], .ok true⟩ :=
          .welcome ⟨hconcerns, by rw [hpolicy]; rfl, hadmits⟩
        obtain ⟨outcome, hloop, houtcome⟩ := ih true
        rcases fromNamespaces with _ | (_ | _ | _ | _ | _)
        · cases hsome
        · exact ⟨_, rfl, hwelcome (by rw [Cluster.Admits, hpolicy]; trivial)⟩
        · -- `Same`
          have hadmits : api.Admits l gw.ns route.toCommonRoute.ns ↔
              route.toCommonRoute.ns = gw.ns := by rw [Cluster.Admits, hpolicy]
          by_cases hns : route.toCommonRoute.ns = gw.ns
          · exact ⟨_, if_pos hns, hwelcome (hadmits.2 hns)⟩
          · exact ⟨outcome, (if_neg hns).trans hloop, houtcome.skip_restricted hconcerns hpolicy
              (fun h => hns (hadmits.1 h)) (by simp)⟩
        · -- a selector decides
          obtain ⟨nsList, hlist⟩ : ∃ nsList, api.listNamespaces selector = some nsList :=
            ⟨_, if_neg (by simp [hlists])⟩
          have hselected : nsList.any (·.name == route.toCommonRoute.ns) = true ↔
              api.Admits l gw.ns route.toCommonRoute.ns := by
            rw [Cluster.Admits, hpolicy]
            change _ ↔ api.Selected selector route.toCommonRoute.ns
            rw [← api.mem_listNamespaces_iff hlist]
            simp [any_eq_true, mem_map]
          simp only [deref_some, hlist, bind, Except.bind]
          cases hany : nsList.any (·.name == route.toCommonRoute.ns) with
          | true => exact ⟨_, rfl, hwelcome (hselected.1 hany)⟩
          | false =>
            have hnot : ¬ api.Admits l gw.ns route.toCommonRoute.ns := by
              rw [← hselected, hany]
              exact Bool.false_ne_true
            exact ⟨_, rfl, .turnAway ⟨hconcerns, by rw [hpolicy]; rfl, hnot⟩⟩
        · exact ⟨outcome, hloop, houtcome.skip_restricted hconcerns hpolicy
            (by rw [Cluster.Admits, hpolicy]; exact id) (by simp)⟩
        · exact ⟨outcome, hloop, houtcome.skip_restricted hconcerns hpolicy
            (by rw [Cluster.Admits, hpolicy]; exact id) (by simp)⟩
    · rw [if_pos (by simpa using hconcerns)]
      obtain ⟨outcome, hloop, houtcome⟩ := ih restricted
      refine ⟨outcome, hloop, houtcome.skip (fun h => hconcerns h.1) (fun h => hconcerns h.1) ?_⟩
      rw [unrestricted_cons, and_iff_right fun h => absurd h hconcerns]

end

/-! ## All checks of a Gateway -/

theorem runChecks_of_pass {rest : List (Result CheckOutcome)} :
    runChecks (.ok ⟨[], .ok true⟩ :: rest) = runChecks rest := by
  rw [runChecks]
  cases runChecks rest <;> rfl

theorem runChecks_of_end {rest : List (Result CheckOutcome)} (h : outcome.continueCheck = .ok false) :
    runChecks (.ok outcome :: rest) = .ok outcome := by
  obtain ⟨conditions, continueCheck⟩ := outcome
  obtain rfl : continueCheck = .ok false := h
  rfl

theorem listsKind_iff {l : Listener} : listsKind route l = true ↔ ListsKind route l := by
  simp only [listsKind, ListsKind, Bool.or_eq_true, List.isEmpty_iff, any_eq_true,
    Bool.and_eq_true, beq_iff_eq, all_beq_iff]
  rfl

theorem withGateway_of_ok (hgw : api.getGateway (parentKey route parentRef) = .ok gw)
    (check : Gateway → Result CheckOutcome) : withGateway api route parentRef check = check gw := by
  rw [withGateway, parentGateway, hgw]
  rfl

theorem concerns_iff {l : Listener} : concerns route parentRef l = true ↔
    (parentRef.sectionName = none ∨ parentRef.sectionName = some l.name) ∧
      (parentRef.port = none ∨ parentRef.port = some l.port) ∧
      Model.computeHosts (getHostnames route) l.hostname ≠ [] := by
  have hhosts : (l.hostname.isNone || Model.computeHosts (getHostnames route) l.hostname ≠ []) =
      true ↔ Model.computeHosts (getHostnames route) l.hostname ≠ [] := by
    cases l.hostname with
    | none => simp [Model.computeHosts_none_ne_nil]
    | some h => simp
  rw [concerns, Bool.and_eq_true, Bool.and_eq_true, sectionMatches_iff, port_all_iff, hhosts,
    and_assoc]

/-- A listener that the check of the namespaces looks at satisfies the last three checks. -/
theorem checks_of_concerns (hgw : api.getGateway (parentKey route parentRef) = .ok gw)
    {l : Listener} (hl : l ∈ gw.listeners) (hconcerns : concerns route parentRef l = true) :
    checkGatewayMatchingPorts api route parentRef = .ok ⟨[], .ok true⟩ ∧
      checkGatewayMatchingHostnames api route parentRef = .ok ⟨[], .ok true⟩ ∧
      checkGatewayMatchingSection api route parentRef = .ok ⟨[], .ok true⟩ := by
  obtain ⟨hsection, hport, hhosts⟩ := concerns_iff.1 hconcerns
  refine ⟨?_, ?_, ?_⟩
  · rw [checkGatewayMatchingPorts, withGateway_of_ok hgw]
    rcases hport with hport | hport
    · rw [hport]
      rfl
    · have hany : gw.listeners.any (·.port == l.port) = true :=
        any_eq_true.2 ⟨l, hl, beq_self_eq_true _⟩
      rw [hport]
      exact congrArg Except.ok (if_pos hany)
  · have hgwHosts : computeHosts gw (getHostnames route) ≠ [] := by
      obtain ⟨h, hh⟩ := exists_mem_of_ne_nil _ hhosts
      exact ne_nil_of_mem (mem_flatMap.2 ⟨l, hl, hh⟩)
    rw [checkGatewayMatchingHostnames, withGateway_of_ok hgw]
    exact congrArg Except.ok (if_neg hgwHosts)
  · rw [checkGatewayMatchingSection, withGateway_of_ok hgw]
    rcases hsection with hsection | hsection
    · rw [hsection]
      rfl
    · have hany : gw.listeners.any (·.name == l.name) = true :=
        any_eq_true.2 ⟨l, hl, beq_self_eq_true _⟩
      rw [hsection]
      exact congrArg Except.ok (if_pos hany)

/-- What the checks do to the condition Accepted: they all set it to False, if at all. -/
structure GatewayOutcome (outcome : CheckOutcome) : Prop where
  conditions : ∀ cond ∈ outcome.conditions, cond.type = "Accepted" ∧ cond.status = .false
  continueCheck : ∃ b, outcome.continueCheck = .ok b

/-- The checks of a Gateway leave Accepted alone if no policy restricts the namespaces, or if
    some listener lets the route in and all of them allow its kind. -/
theorem gatewayChecks_spec (hlists : ∀ s, api.listNamespacesFails s = false)
    (hgw : api.getGateway (parentKey route parentRef) = .ok gw)
    (hfrom : ∀ l ∈ gw.listeners, ∀ policy, l.allowedRoutes.bind (·.namespaces) = some policy →
      policy.fromNamespaces.isSome = true) :
    ∃ outcome, gatewayChecks api route parentRef = .ok outcome ∧ GatewayOutcome outcome ∧
      (outcome.conditions = [] ↔ Unrestricted route parentRef gw.listeners ∨
        Welcomed api.toCluster gw route parentRef gw.listeners ∧
          ∀ l ∈ gw.listeners, ListsKind route l) := by
  obtain ⟨outcome, hloop, houtcome⟩ :
      ∃ outcome, namespaceLoop api route parentRef gw false gw.listeners = .ok outcome ∧
        NamespaceOutcome api.toCluster gw route parentRef false gw.listeners outcome :=
    namespaceLoop_spec hlists hfrom false
  have hns : checkGatewayAllowedForNamespace api route parentRef = .ok outcome := by
    rw [checkGatewayAllowedForNamespace, withGateway_of_ok hgw, hloop]
  rw [gatewayChecks, hns]
  by_cases hwelcomed : Welcomed api.toCluster gw route parentRef gw.listeners
  · obtain rfl := houtcome.welcomed hwelcomed
    obtain ⟨before, l, after, hlisteners, hwelcomes, _⟩ := hwelcomed
    have hl : l ∈ gw.listeners := by simp [hlisteners]
    -- the listener has a policy, so that the kinds decide
    have hrestricted : ¬ Unrestricted route parentRef gw.listeners := by
      intro hunrestricted
      have hsome := hwelcomes.2.1
      rw [hunrestricted l hl hwelcomes.1] at hsome
      cases hsome
    obtain ⟨hports, hhostnames, hsection⟩ := checks_of_concerns hgw hl hwelcomes.1
    have hkinds : gw.listeners.all (listsKind route) = true ↔
        ∀ l ∈ gw.listeners, ListsKind route l := by
      simp only [all_eq_true, listsKind_iff]
    rw [runChecks_of_pass, checkGatewayRouteKindAllowed, withGateway_of_ok hgw, hports, hhostnames,
      hsection]
    by_cases hall : gw.listeners.all (listsKind route) = true
    · rw [if_pos hall]
      exact ⟨_, rfl, ⟨by simp, true, rfl⟩,
        iff_of_true rfl (.inr ⟨⟨before, l, after, hlisteners, hwelcomes, by assumption⟩,
          hkinds.1 hall⟩)⟩
    · rw [if_neg hall]
      refine ⟨_, rfl, ⟨fun cond hcond => ?_, false, rfl⟩, ?_⟩
      · obtain rfl := mem_singleton.1 hcond
        exact ⟨rfl, rfl⟩
      · refine iff_of_false (cons_ne_nil _ _) ?_
        rintro (hunrestricted | ⟨_, hkind⟩)
        · exact hrestricted hunrestricted
        · exact hall (hkinds.2 hkind)
  · obtain ⟨hend, hconditions⟩ := houtcome.not_welcomed hwelcomed
    refine ⟨outcome, runChecks_of_end hend, ⟨houtcome.conditions, false, hend⟩, ?_⟩
    rw [hconditions, and_iff_right rfl, or_iff_left fun h => hwelcomed h.1]

theorem gatewayChecks_of_error {err : APIError}
    (hgw : api.getGateway (parentKey route parentRef) = .error err) :
    ∃ outcome, gatewayChecks api route parentRef = .ok outcome ∧ GatewayOutcome outcome := by
  have hcheck (check : Gateway → Result CheckOutcome) : ∃ message,
      withGateway api route parentRef check =
        .ok ⟨[⟨"Accepted", .false, "Invalid" ++ route.kind, message, 0, 0⟩], .ok false⟩ := by
    rw [withGateway, parentGateway, hgw]
    exact ⟨_, rfl⟩
  obtain ⟨message, hmessage⟩ := hcheck _
  rw [gatewayChecks, checkGatewayAllowedForNamespace, hmessage]
  refine ⟨_, runChecks_of_end rfl, fun cond hcond => ?_, false, rfl⟩
  obtain rfl := mem_singleton.1 hcond
  exact ⟨rfl, rfl⟩

theorem gatewayChecks_eq_ok (hlists : ∀ s, api.listNamespacesFails s = false)
    (hdefaulted : Defaulted route api) {ref : ParentReference}
    (href : ref ∈ route.toCommonRoute.parentRefs) :
    ∃ outcome, gatewayChecks api route ref = .ok outcome ∧ GatewayOutcome outcome := by
  cases hgw : api.getGateway (parentKey route ref) with
  | error err => exact gatewayChecks_of_error hgw
  | ok gw =>
    obtain ⟨outcome, hchecks, houtcome, _⟩ :=
      gatewayChecks_spec hlists hgw (hdefaulted.fromNamespaces ref href gw hgw)
    exact ⟨outcome, hchecks, houtcome⟩

/-! ## The status that the reconcilers make -/

section

variable {r : ParentReference}

theorem not_checksFail (hchecks : gatewayChecks api route r = .ok outcome)
    (houtcome : GatewayOutcome outcome) : checksFail api route r = false := by
  obtain ⟨conditions, continueCheck⟩ := outcome
  obtain ⟨b, rfl⟩ := houtcome.continueCheck
  rw [checksFail, hchecks]

theorem reached_of_not_fail {refs : List ParentReference}
    (h : ∀ ref ∈ refs, checksFail api route ref = false) : reached api route refs = refs := by
  induction refs with
  | nil => rfl
  | cons ref refs ih =>
    obtain ⟨href, hrefs⟩ := forall_mem_cons.1 h
    rw [reached, if_neg (by simp [href]), ih hrefs]

theorem verdict_status (houtcome : GatewayOutcome outcome) :
    (outcome.verdict (acceptedRoute route)).status =
      if outcome.conditions = [] then .true else .false := by
  rw [CheckOutcome.verdict]
  cases hlast : outcome.conditions.getLast? with
  | none => rw [if_pos (getLast?_eq_none_iff.1 hlast)]; rfl
  | some cond =>
    have hmem := mem_of_getLast? hlast
    rw [if_neg (ne_nil_of_mem hmem)]
    exact (houtcome.conditions cond hmem).2

/-- The reconcilers return, and what the status says for a parentRef is what the checks of its
    Gateway have decided. -/
theorem statusOf_reconcileRoute (hlists : ∀ s, api.listNamespacesFails s = false)
    (hdefaulted : Defaulted route api) (href : r ∈ route.toCommonRoute.parentRefs)
    (hchecks : gatewayChecks api route r = .ok outcome) (grants : List ReferenceGrant) :
    ∃ run, reconcileRoute api route grants = .ok run ∧
      statusOf "Accepted" r (run.parents api route) =
        some (if outcome.conditions = [] then .true else .false) := by
  have houtcomes (ref : ParentReference) (href : ref ∈ route.toCommonRoute.parentRefs) :=
    gatewayChecks_eq_ok hlists hdefaulted href
  obtain ⟨run, hrun⟩ := exists_reconcileRoute_eq_ok
    (fun ref href => (houtcomes ref href).imp fun _ h => h.1) hdefaulted.kinds grants
  have hreached : reached api route route.toCommonRoute.parentRefs =
      route.toCommonRoute.parentRefs := by
    refine reached_of_not_fail fun ref href => ?_
    obtain ⟨outcome, hchecks, houtcome⟩ := houtcomes ref href
    exact not_checksFail hchecks houtcome
  have hlast : lastSet "Accepted" r run.writes = some (outcome.verdict (acceptedRoute route)) :=
    (lastSet_reconcileRoute hrun).2
      ⟨.inl ⟨hreached.symm ▸ href, outcome, hchecks, rfl⟩, verdict_type hchecks⟩
  obtain ⟨outcome', hchecks', houtcome⟩ := houtcomes r href
  obtain rfl := Except.ok.inj (hchecks'.symm.trans hchecks)
  refine ⟨run, hrun, ?_⟩
  rw [RouteRun.parents, statusOf_setParentConditions, hlast, Option.map_some, Option.some_or,
    verdict_status houtcome]

end

/-- The law holds for a parentRef that names a Gateway exactly if

    * in case a listener fits the route, no policy restricts the namespaces, or some policy lets
      the route in before a selector turns it away, and every listener lists its kind;
    * some listener fits if no policy restricts the namespaces, and also if one lets the route in
      and every listener lists its kind. -/
theorem acceptanceLaw_iff {api : RouteAPI} (hlists : ∀ s, api.listNamespacesFails s = false)
    {route : Route} (hdefaulted : Defaulted route api) {ref : ParentReference}
    (href : ref ∈ route.toCommonRoute.parentRefs) {gw : Gateway}
    (hgw : api.getGateway (parentKey route ref) = .ok gw) (grants : List ReferenceGrant) :
    AcceptanceLaw gw route ref api grants ↔
      ((∃ l ∈ gw.listeners, Fits api.toCluster gw route ref l) →
        Unrestricted route ref gw.listeners ∨
          Welcomed api.toCluster gw route ref gw.listeners ∧
            ∀ l ∈ gw.listeners, ListsKind route l) ∧
      (Unrestricted route ref gw.listeners →
        ∃ l ∈ gw.listeners, Fits api.toCluster gw route ref l) ∧
      (Welcomed api.toCluster gw route ref gw.listeners →
        (∀ l ∈ gw.listeners, ListsKind route l) →
          ∃ l ∈ gw.listeners, Fits api.toCluster gw route ref l) := by
  obtain ⟨outcome, hchecks, _, hconditions⟩ :=
    gatewayChecks_spec hlists hgw (hdefaulted.fromNamespaces ref href gw hgw)
  obtain ⟨run, hrun, hstatus⟩ := statusOf_reconcileRoute hlists hdefaulted href hchecks grants
  have haccepted : statusOf "Accepted" ref (run.parents api route) = some .true ↔
      outcome.conditions = [] := by
    rw [hstatus, Option.some_inj]
    split_ifs with hnil <;> simp [hnil]
  have hlaw : AcceptanceLaw gw route ref api grants ↔ (outcome.conditions = [] ↔
      ∃ l ∈ gw.listeners, Fits api.toCluster gw route ref l) := by
    rw [← haccepted]
    constructor
    · rintro ⟨run', hrun', hiff⟩
      obtain rfl := Except.ok.inj (hrun'.symm.trans hrun)
      exact hiff
    · intro hiff
      exact ⟨run, hrun, hiff⟩
  rw [hlaw, hconditions]
  constructor
  · intro hiff
    exact ⟨hiff.2, fun h => hiff.1 (.inl h), fun hwelcomed hkinds => hiff.1 (.inr ⟨hwelcomed, hkinds⟩)⟩
  · rintro ⟨hfits, hunrestricted, hwelcomed⟩
    refine ⟨?_, hfits⟩
    rintro (h | ⟨h, hkinds⟩)
    · exact hunrestricted h
    · exact hwelcomed h hkinds

/-! ## A TLSRoute of a Gateway -/

/-- A Gateway with one listener, which admits the namespace of the Gateway. -/
def sniGateway : Gateway where
  name := "gw"
  ns := "infra"
  listeners := [{
    name := "sni"
    port := 8443
    protocol := .tls
    allowedRoutes := some { namespaces := some { fromNamespaces := some .same } } }]

def sniAPI : RouteAPI :=
  { RouteAPI.ofGateway sniGateway with
    getGatewayClass _ := .ok ⟨"dolphin", gatewayControllerName⟩ }

def sniRef (sectionName : String) : ParentReference where
  name := "gw"
  sectionName := some sectionName

def sniRoute (sectionName : String) : Route :=
  .tls { name := "shop", ns := "infra", parentRefs := [sniRef sectionName], rules := [] }

theorem defaulted_sniRoute (sectionName : String) : Defaulted (sniRoute sectionName) sniAPI where
  fromNamespaces ref _ gw hgw l hl policy hpolicy := by
    obtain rfl : sniGateway = gw := Except.ok.inj hgw
    obtain rfl := mem_singleton.1 hl
    obtain rfl := Option.some_inj.1 hpolicy
    rfl
  kinds be hbe := by cases hbe

theorem acceptanceLaw_sni :
    AcceptanceLaw sniGateway (sniRoute "sni") (sniRef "sni") sniAPI [] := by
  have hkinds : ∀ l ∈ sniGateway.listeners, ListsKind (sniRoute "sni") l := by
    intro l hl
    obtain rfl := mem_singleton.1 hl
    exact .inl rfl
  have hwelcomed : Welcomed sniAPI.toCluster sniGateway (sniRoute "sni") (sniRef "sni")
      sniGateway.listeners :=
    ⟨[], _, [], rfl, ⟨by decide, rfl, rfl⟩, by simp⟩
  have hfits : ∃ l ∈ sniGateway.listeners, Fits sniAPI.toCluster sniGateway (sniRoute "sni")
      (sniRef "sni") l :=
    ⟨_, mem_cons_self, .inr rfl, .inl rfl, ⟨"shop.example", fun _ h => (by cases h), .inl rfl⟩,
      .inl rfl, rfl⟩
  exact (acceptanceLaw_iff (fun _ => rfl) (defaulted_sniRoute "sni") mem_cons_self rfl []).2
    ⟨fun _ => .inr ⟨hwelcomed, hkinds⟩, fun _ => hfits, fun _ _ => hfits⟩

/-- A route for a section that the Gateway does not have is accepted: the check of the namespaces
    finds no listener, and keeps the other checks from running. -/
theorem not_acceptanceLaw_missing :
    ¬ AcceptanceLaw sniGateway (sniRoute "missing") (sniRef "missing") sniAPI [] := by
  rintro ⟨run, hrun, hiff⟩
  obtain ⟨_, hrun', haccepted⟩ : ∃ run, reconcileRoute sniAPI (sniRoute "missing") [] = .ok run ∧
      statusOf "Accepted" (sniRef "missing") (run.parents sniAPI (sniRoute "missing")) =
        some .true := ⟨_, rfl, rfl⟩
  obtain rfl := Except.ok.inj (hrun'.symm.trans hrun)
  obtain ⟨l, hl, hfits⟩ := hiff.1 haccepted
  obtain rfl := mem_singleton.1 hl
  exact absurd hfits.sectionName (by decide)

end Reconcile
