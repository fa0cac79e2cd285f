import Dolphin.Reconcile.RouteChecks

/-!
# What the reconcilers of TLSRoutes and GRPCRoutes say

The checks of the Gateways only set the condition Accepted, to False, and those of the backends
only ResolvedRefs (`onlySets_gatewayChecks`, `onlySets_backendChecks`). So the loop over the
parentRefs can be followed for each type by itself: an iteration decides the condition Accepted of
its own parentRef, and sets ResolvedRefs for all. An error of the checks of a Gateway ends the
loop, and the parentRefs after it get no condition Accepted (`reached`).

`lastSet_reconcileRoute` says what is set last for a parentRef.
-/

namespace Reconcile

open Gatewayv1 Go Ingestion List Option

variable {outcome : CheckOutcome} {api : RouteAPI} {route : Route} {type : String}

variable {cond : Condition} {grants : List ReferenceGrant}

/-- The conditions that the check sets satisfy `P`. -/
def OnlySets (P : Condition → Prop) (check : Result CheckOutcome) : Prop :=
  ∀ outcome, check = .ok outcome → ∀ cond ∈ outcome.conditions, P cond

/-- What a sequence of checks says last, if the condition is set to `initial` before. -/
def CheckOutcome.verdict (initial : Condition) (outcome : CheckOutcome) : Condition :=
  outcome.conditions.getLast?.getD initial

section

variable (api : RouteAPI) (route : Route)

/-- The checks for the parentRef end with an error. -/
def checksFail (ref : ParentReference) : Bool :=
  match gatewayChecks api route ref with
  | .ok ⟨_, .error _⟩ => true
  | _ => false

/-- The parentRefs to which the loop of the reconciler comes. -/
def reached : List ParentReference → List ParentReference
  | [] => []
  | ref :: refs => if checksFail api route ref then [ref] else ref :: reached refs

/-- The condition is one that the reconciler leaves for a parentRef. -/
def RouteSets (grants : List ReferenceGrant) (ref : ParentReference) (cond : Condition) : Prop :=
  (ref ∈ reached api route route.toCommonRoute.parentRefs ∧ ∃ outcome,
    gatewayChecks api route ref = .ok outcome ∧ cond = outcome.verdict (acceptedRoute route)) ∨
  (ref ∈ route.toCommonRoute.parentRefs ∧
    (if route.toCommonRoute.parentRefs.any (checksFail api route) then cond = resolvedRefs
    else ∃ outcome, backendChecks api route grants = .ok outcome ∧
      cond = outcome.verdict resolvedRefs))

end

/-! ## The types of the conditions -/

section

variable {P : Condition → Prop} {check : Result CheckOutcome} {checks : List (Result CheckOutcome)}

theorem onlySets_ok : OnlySets P (.ok outcome) ↔ ∀ cond ∈ outcome.conditions, P cond := by
  constructor
  · intro h
    exact h outcome rfl
  · intro h outcome' heq
    obtain rfl := Except.ok.inj heq
    exact h

theorem onlySets_nil {continueCheck : Except String Bool} : OnlySets P (.ok ⟨[], continueCheck⟩) :=
  onlySets_ok.2 fun _ h => by cases h

theorem onlySets_singleton {continueCheck : Except String Bool} (h : P cond) :
    OnlySets P (.ok ⟨[cond], continueCheck⟩) :=
  onlySets_ok.2 (forall_mem_singleton.2 h)

theorem onlySets_runChecks (h : ∀ check ∈ checks, OnlySets P check) :
    OnlySets P (runChecks checks) := by
  induction checks with
  | nil => exact onlySets_nil
  | cons check checks ih =>
    obtain ⟨hcheck, hchecks⟩ := forall_mem_cons.1 h
    intro outcome hrun
    rw [runChecks, bind_eq_ok] at hrun
    obtain ⟨⟨conditions, continueCheck⟩, hfirst, hrun⟩ := hrun
    have hconditions := hcheck _ hfirst
    rcases continueCheck with message | (_ | _)
    · obtain rfl := Except.ok.inj hrun
      exact hconditions
    · obtain rfl := Except.ok.inj hrun
      exact hconditions
    · obtain ⟨more, hmore, hrun⟩ := bind_eq_ok.1 hrun
      obtain rfl := Except.ok.inj hrun
      intro cond hcond
      rcases mem_append.1 hcond with hcond | hcond
      · exact hconditions cond hcond
      · exact ih hchecks more hmore cond hcond

end

section

variable {ref : ParentReference}

/-- The route is not accepted. -/
def IsRejection (cond : Condition) : Prop := cond.type = "Accepted" ∧ cond.status = .false

theorem onlySets_withGateway {check : Gateway → Result CheckOutcome}
    (h : ∀ gw, OnlySets IsRejection (check gw)) :
    OnlySets IsRejection (withGateway api route ref check) := by
  rw [withGateway]
  split
  · exact onlySets_singleton ⟨rfl, rfl⟩
  · exact h _

theorem onlySets_namespaceLoop {gw : Gateway} {ls : List Listener} (restricted : Bool) :
    OnlySets IsRejection (namespaceLoop api route ref gw restricted ls) := by
  induction ls generalizing restricted with
  | nil =>
    cases restricted
    · exact onlySets_nil
    · exact onlySets_singleton ⟨rfl, rfl⟩
  | cons l ls ih =>
    rw [namespaceLoop]
    split
    · exact ih restricted
    · split
      · exact ih restricted
      · intro outcome hrun
        obtain ⟨fromNamespaces, _, hrun⟩ := bind_eq_ok.1 hrun
        refine (?_ : OnlySets IsRejection _) outcome hrun
        split
        · exact onlySets_nil
        · split_ifs
          · exact onlySets_nil
          · exact ih true
        · split
          · exact onlySets_nil
          · refine onlySets_ok.2 ?_
            split_ifs
            · simp
            · exact forall_mem_singleton.2 ⟨rfl, rfl⟩
        · exact ih true

theorem onlySets_ite {P : Condition → Prop} {p : Prop} [Decidable p] (h : P cond) :
    OnlySets P (pure (if p then ⟨[], .ok true⟩ else ⟨[cond], .ok false⟩)) := by
  split_ifs
  · exact onlySets_nil
  · exact onlySets_singleton h

theorem onlySets_gatewayChecks : OnlySets IsRejection (gatewayChecks api route ref) := by
  apply onlySets_runChecks
  simp only [forall_mem_cons]
  refine ⟨?_, ?_, ?_, ?_, ?_, by simp⟩
  · exact onlySets_withGateway fun gw => onlySets_namespaceLoop false
  · exact onlySets_withGateway fun gw => onlySets_ite ⟨rfl, rfl⟩
  · refine onlySets_withGateway fun gw => ?_
    split
    · exact onlySets_nil
    · exact onlySets_ite ⟨rfl, rfl⟩
  · refine onlySets_withGateway fun gw => ?_
    split_ifs
    · exact onlySets_singleton ⟨rfl, rfl⟩
    · exact onlySets_nil
  · refine onlySets_withGateway fun gw => ?_
    split
    · exact onlySets_nil
    · exact onlySets_ite ⟨rfl, rfl⟩

/-- The condition is about the references to the backends. -/
def IsResolution (cond : Condition) : Prop := cond.type = "ResolvedRefs"

theorem onlySets_checkBackendIsService : OnlySets IsResolution (checkBackendIsService route) := by
  intro outcome hrun
  refine foldlM_preserves (P := fun outcome => ∀ cond ∈ outcome.conditions, IsResolution cond)
    (fun outcome be _ next houtcome hnext => ?_) (by simp) hrun
  -- whatever condition is added is of the right type
  have hadd (reason message : String) :
      ∀ cond ∈ outcome.conditions ++ [backendUnresolved reason message], IsResolution cond :=
    forall_mem_append.2 ⟨houtcome, forall_mem_singleton.2 rfl⟩
  rw [checkServiceRef] at hnext
  split_ifs at hnext
  · obtain ⟨kind, _, hnext⟩ := bind_eq_ok.1 hnext
    obtain rfl := Except.ok.inj hnext
    exact hadd _ _
  · obtain rfl := Except.ok.inj hnext
    exact hadd _ _
  · obtain rfl := Except.ok.inj hnext
    exact houtcome

theorem existingServiceLoop_conditions (refs : List BackendObjectReference) :
    ∀ cond ∈ (existingServiceLoop api route refs).conditions, IsResolution cond := by
  induction refs with
  | nil => exact fun _ h => by cases h
  | cons be refs ih =>
    rw [existingServiceLoop]
    split
    · exact ih
    · split_ifs
      · exact forall_mem_cons.2 ⟨rfl, ih⟩
      · simp

theorem crossNamespace_conditions (grants : List ReferenceGrant) :
    ∀ cond ∈ (checkAgainstCrossNamespaceBackendReferences route grants).2, IsResolution cond := by
  rw [checkAgainstCrossNamespaceBackendReferences]
  induction route.getBackendRefs using reverseRecOn with
  | nil => simp
  | append_singleton refs be ih =>
    rw [foldl_concat]
    split_ifs
    · exact ih
    · exact forall_mem_append.2 ⟨ih, forall_mem_singleton.2 rfl⟩

theorem onlySets_backendChecks : OnlySets IsResolution (backendChecks api route grants) := by
  apply onlySets_runChecks
  simp only [forall_mem_cons]
  refine ⟨?_, ?_, ?_, by simp⟩
  · exact onlySets_ok.2 (crossNamespace_conditions grants)
  · exact onlySets_checkBackendIsService
  · exact onlySets_ok.2 (existingServiceLoop_conditions _)

end

/-! ## What is set last -/

section

variable {r : ParentReference}

theorem lastSet_map {parent : ParentReference} {conds : List Condition}
    (h : ∀ cond ∈ conds, cond.type = type) :
    lastSet type r (conds.map fun cond => ⟨parent, cond⟩) =
      if parent = r then conds.getLast? else none := by
  by_cases hparent : parent = r
  · rw [if_pos hparent]
    rcases eq_nil_or_concat conds with rfl | ⟨conds, cond, rfl⟩
    · rfl
    · rw [concat_eq_append, map_append, lastSet_append, map_singleton,
        lastSet_singleton, if_pos ⟨hparent, h cond (by simp)⟩, some_or, getLast?_concat]
  · rw [if_neg hparent]
    refine lastSet_eq_none fun w hw href => ?_
    obtain ⟨cond, _, rfl⟩ := mem_map.1 hw
    exact absurd href hparent

variable {refs : List ParentReference}

theorem lastSet_setAllParentCondition : lastSet type r (setAllParentCondition refs cond) =
      if r ∈ refs ∧ cond.type = type then some cond else none := by
  induction refs with
  | nil => simp [setAllParentCondition, lastSet]
  | cons ref refs ih =>
    have hcons : setAllParentCondition (ref :: refs) cond =
      [⟨ref, cond⟩] ++ setAllParentCondition refs cond := rfl
    rw [hcons, lastSet_append, ih, lastSet_singleton]
    by_cases htype : cond.type = type
    · by_cases hr : r ∈ refs
      · simp [htype, hr]
      · simp [htype, hr, eq_comm]
    · simp [htype]

theorem lastSet_flatMap {conds : List Condition} {t : String} (h : ∀ cond ∈ conds, cond.type = t) :
    lastSet type r (conds.flatMap (setAllParentCondition refs)) =
      if r ∈ refs ∧ type = t then conds.getLast? else none := by
  by_cases hset : r ∈ refs ∧ type = t
  · obtain ⟨hr, rfl⟩ := hset
    rw [if_pos ⟨hr, rfl⟩]
    rcases eq_nil_or_concat conds with rfl | ⟨conds, cond, rfl⟩
    · rfl
    · rw [concat_eq_append, flatMap_append, lastSet_append, flatMap_singleton,
        lastSet_setAllParentCondition, getLast?_concat, if_pos ⟨hr, h cond (by simp)⟩,
        some_or]
  · rw [if_neg hset]
    refine lastSet_eq_none fun w hw href htype => hset ?_
    obtain ⟨cond, hcond, hw⟩ := mem_flatMap.1 hw
    obtain ⟨ref, href', rfl⟩ := mem_map.1 hw
    exact ⟨href ▸ href', htype.symm.trans (h cond hcond)⟩

theorem lastSet_flatMap_self {f : ParentReference → List StatusWrite}
    (hf : ∀ ref, ∀ w ∈ f ref, w.ref = ref) :
    lastSet type r (refs.flatMap f) = if r ∈ refs then lastSet type r (f r) else none := by
  induction refs with
  | nil => simp [lastSet]
  | cons ref refs ih =>
    rw [flatMap_cons, lastSet_append, ih]
    by_cases href : ref = r
    · subst href
      by_cases hr : ref ∈ refs <;> simp [hr]
    · have hnone : lastSet type r (f ref) = none :=
        lastSet_eq_none fun w hw hwr => absurd ((hf ref w hw).symm.trans hwr) href
      rw [hnone, or_none]
      simp [Ne.symm href]

end

section

variable {run run' : RouteRun} {parent r : ParentReference}

theorem verdict_type (hchecks : gatewayChecks api route r = .ok outcome) :
    (outcome.verdict (acceptedRoute route)).type = "Accepted" := by
  rw [CheckOutcome.verdict]
  cases hlast : outcome.conditions.getLast? with
  | none => rfl
  | some cond => exact (onlySets_gatewayChecks _ hchecks cond (mem_of_getLast? hlast)).1

theorem checkParent_eq_ok (herr : run.err = none)
    (h : checkParent api route run parent = .ok run') :
    ∃ outcome, gatewayChecks api route parent = .ok outcome ∧
      run'.writes = run.writes ++ [⟨parent, acceptedRoute route⟩] ++
        setAllParentCondition route.toCommonRoute.parentRefs resolvedRefs ++
        (outcome.conditions.map fun condition => ⟨parent, condition⟩) ∧
      run'.err.isSome = checksFail api route parent := by
  rw [checkParent, if_neg (by rw [herr]; exact Bool.false_ne_true)] at h
  obtain ⟨⟨conditions, continueCheck⟩, hchecks, h⟩ := bind_eq_ok.1 h
  obtain rfl := Except.ok.inj h
  refine ⟨_, hchecks, rfl, ?_⟩
  rw [checksFail, hchecks]
  cases continueCheck <;> rfl

theorem checkParents_of_err {refs : List ParentReference} (herr : run.err.isSome = true) :
    refs.foldlM (checkParent api route) run = .ok run := by
  induction refs with
  | nil => rfl
  | cons ref refs ih =>
    rw [foldlM_cons, checkParent, if_pos herr]
    exact ih

section

variable (hchecks : gatewayChecks api route parent = .ok outcome)
  (hwrites : run'.writes = run.writes ++ [⟨parent, acceptedRoute route⟩] ++
    setAllParentCondition route.toCommonRoute.parentRefs resolvedRefs ++
    (outcome.conditions.map fun condition => ⟨parent, condition⟩))

include hchecks hwrites

theorem lastSet_accepted_step : lastSet "Accepted" r run'.writes =
      if parent = r then some (outcome.verdict (acceptedRoute route))
      else lastSet "Accepted" r run.writes := by
  have hconditions (cond : Condition) (hcond : cond ∈ outcome.conditions) :
      cond.type = "Accepted" := (onlySets_gatewayChecks _ hchecks cond hcond).1
  have hall : lastSet "Accepted" r
      (setAllParentCondition route.toCommonRoute.parentRefs resolvedRefs) = none := by
    rw [lastSet_setAllParentCondition]
    exact if_neg fun h => absurd h.2 (by decide)
  rw [hwrites, lastSet_append, lastSet_append, lastSet_append, hall, none_or,
    lastSet_singleton, lastSet_map hconditions, CheckOutcome.verdict]
  by_cases hparent : parent = r
  · cases outcome.conditions.getLast? <;> simp [hparent, acceptedRoute]
  · simp [hparent]

/-- The iteration sets ResolvedRefs for all parentRefs, and no other condition. -/
theorem lastSet_other_step (htype : type ≠ "Accepted") : lastSet type r run'.writes =
      if r ∈ route.toCommonRoute.parentRefs ∧ type = "ResolvedRefs" then some resolvedRefs
      else lastSet type r run.writes := by
  have hconditions : lastSet type r (outcome.conditions.map fun cond => ⟨parent, cond⟩) = none := by
    refine lastSet_eq_none fun w hw _ => ?_
    obtain ⟨cond, hcond, rfl⟩ := mem_map.1 hw
    exact (onlySets_gatewayChecks _ hchecks cond hcond).1.trans_ne htype.symm
  have hfirst : lastSet type r [⟨parent, acceptedRoute route⟩] = none := by
    rw [lastSet_singleton]
    exact if_neg fun h => htype h.2.symm
  rw [hwrites, lastSet_append, lastSet_append, lastSet_append, hconditions, hfirst,
    lastSet_setAllParentCondition, none_or, none_or]
  by_cases h : r ∈ route.toCommonRoute.parentRefs ∧ type = "ResolvedRefs"
  · rw [if_pos ⟨h.1, h.2.symm⟩, if_pos h, some_or]
  · rw [if_neg fun h' => h ⟨h'.1, h'.2.symm⟩, if_neg h, none_or]

end

/-- What the loop over some parentRefs sets. -/
structure LoopSets (api : RouteAPI) (route : Route) (refs : List ParentReference)
    (run run' : RouteRun) : Prop where
  accepted : ∀ r ∈ reached api route refs, ∃ outcome, gatewayChecks api route r = .ok outcome ∧
    lastSet "Accepted" r run'.writes = some (outcome.verdict (acceptedRoute route))
  not_reached : ∀ r ∉ reached api route refs,
    lastSet "Accepted" r run'.writes = lastSet "Accepted" r run.writes
  other : ∀ type ≠ "Accepted", ∀ r, lastSet type r run'.writes =
    if refs ≠ [] ∧ r ∈ route.toCommonRoute.parentRefs ∧ type = "ResolvedRefs" then
      some resolvedRefs
    else lastSet type r run.writes
  err : run'.err.isSome = refs.any (checksFail api route)

theorem loopSets_checkParents {refs : List ParentReference} (herr : run.err = none)
    (h : refs.foldlM (checkParent api route) run = .ok run') :
    LoopSets api route refs run run' := by
  induction refs generalizing run with
  | nil =>
    obtain rfl := Except.ok.inj h
    exact ⟨fun _ h => (by cases h), fun _ _ => rfl, fun _ _ _ => by simp, by rw [herr]; rfl⟩
  | cons ref refs ih =>
    rw [foldlM_cons] at h
    obtain ⟨next, hnext, h⟩ := bind_eq_ok.1 h
    obtain ⟨outcome, hchecks, hwrites, hfail⟩ := checkParent_eq_ok herr hnext
    have haccepted (r : ParentReference) := lastSet_accepted_step (r := r) hchecks hwrites
    have hother (type : String) (htype : type ≠ "Accepted") (r : ParentReference) :=
      lastSet_other_step (r := r) hchecks hwrites htype
    cases hfails : checksFail api route ref with
    | true =>
      -- the loop ends here
      rw [hfails] at hfail
      obtain rfl := Except.ok.inj ((checkParents_of_err hfail).symm.trans h)
      have hreached : reached api route (ref :: refs) = [ref] := by rw [reached, if_pos hfails]
      refine ⟨fun r hr => ?_, fun r hr => ?_, fun type htype r => ?_, ?_⟩
      · rw [hreached, mem_singleton] at hr
        subst hr
        exact ⟨outcome, hchecks, (haccepted r).trans (if_pos rfl)⟩
      · rw [hreached, mem_singleton] at hr
        exact (haccepted r).trans (if_neg (Ne.symm hr))
      · rw [hother type htype r]
        simp
      · rw [hfail, any_cons, hfails, Bool.true_or]
    | false =>
      rw [hfails] at hfail
      obtain ⟨hacc, hnot, hoth, herr'⟩ := ih (by simpa using hfail) h
      have hreached : reached api route (ref :: refs) = ref :: reached api route refs := by
        rw [reached, if_neg (by simp [hfails])]
      refine ⟨fun r hr => ?_, fun r hr => ?_, fun type htype r => ?_, ?_⟩
      · by_cases hr' : r ∈ reached api route refs
        · exact hacc r hr'
        · rw [hreached, mem_cons, or_iff_left hr'] at hr
          subst hr
          exact ⟨outcome, hchecks, (hnot r hr').trans ((haccepted r).trans (if_pos rfl))⟩
      · rw [hreached, mem_cons, not_or] at hr
        exact (hnot r hr.2).trans ((haccepted r).trans (if_neg (Ne.symm hr.1)))
      · rw [hoth type htype r, hother type htype r]
        split_ifs <;> simp_all
      · rw [herr', any_cons, hfails, Bool.false_or]

theorem reconcileRoute_eq_ok (h : reconcileRoute api route grants = .ok run) :
    ∃ (loop : RouteRun) (late : List Condition),
      LoopSets api route route.toCommonRoute.parentRefs {} loop ∧
      run.writes = loop.writes ++
        late.flatMap (setAllParentCondition route.toCommonRoute.parentRefs) ∧
      (∀ cond ∈ late, IsResolution cond) ∧
      ∀ cond, (if route.toCommonRoute.parentRefs.any (checksFail api route) then
          cond = resolvedRefs
        else ∃ outcome, backendChecks api route grants = .ok outcome ∧
          cond = outcome.verdict resolvedRefs) ↔ cond = late.getLast?.getD resolvedRefs := by
  rw [reconcileRoute] at h
  obtain ⟨loop, hloop, h⟩ := bind_eq_ok.1 h
  have hsets := loopSets_checkParents rfl hloop
  rw [hsets.err] at h
  cases hany : route.toCommonRoute.parentRefs.any (checksFail api route) with
  | true =>
    rw [hany, if_pos rfl] at h
    obtain rfl := Except.ok.inj h
    exact ⟨loop, [], hsets, by simp, by simp, fun cond => by simp⟩
  | false =>
    rw [hany, if_neg Bool.false_ne_true] at h
    obtain ⟨outcome, hbackend, h⟩ := bind_eq_ok.1 h
    obtain rfl := Except.ok.inj h
    refine ⟨loop, outcome.conditions, hsets, rfl, onlySets_backendChecks _ hbackend, fun cond => ?_⟩
    rw [if_neg Bool.false_ne_true]
    constructor
    · rintro ⟨outcome', hbackend', rfl⟩
      obtain rfl := Except.ok.inj (hbackend'.symm.trans hbackend)
      rfl
    · rintro rfl
      exact ⟨outcome, hbackend, rfl⟩

theorem lastSet_reconcileRoute (h : reconcileRoute api route grants = .ok run) :
    lastSet type r run.writes = some cond ↔
      RouteSets api route grants r cond ∧ cond.type = type := by
  obtain ⟨loop, late, hsets, hwrites, hlate, hresolved⟩ := reconcileRoute_eq_ok h
  have hlateType : (late.getLast?.getD resolvedRefs).type = "ResolvedRefs" := by
    cases hlast : late.getLast? with
    | none => rfl
    | some cond => exact hlate cond (mem_of_getLast? hlast)
  rw [RouteSets, hresolved, hwrites, lastSet_append, lastSet_flatMap hlate]
  by_cases htype : type = "Accepted"
  · -- only the loop sets this condition
    subst htype
    rw [if_neg fun h => absurd h.2 (by decide), none_or]
    by_cases hr : r ∈ reached api route route.toCommonRoute.parentRefs
    · obtain ⟨outcome, hchecks, hlast⟩ := hsets.accepted r hr
      rw [hlast, some_inj]
      constructor
      · rintro rfl
        exact ⟨.inl ⟨hr, outcome, hchecks, rfl⟩, verdict_type hchecks⟩
      · rintro ⟨⟨_, outcome', hchecks', rfl⟩ | ⟨_, rfl⟩, htype⟩
        · obtain rfl := Except.ok.inj (hchecks'.symm.trans hchecks)
          rfl
        · exact absurd (hlateType.symm.trans htype) (by decide)
    · rw [hsets.not_reached r hr]
      refine iff_of_false (by simp [lastSet]) ?_
      rintro ⟨⟨hr', _⟩ | ⟨_, rfl⟩, htype⟩
      · exact hr hr'
      · exact absurd (hlateType.symm.trans htype) (by decide)
  · rw [hsets.other type htype r]
    by_cases hres : r ∈ route.toCommonRoute.parentRefs ∧ type = "ResolvedRefs"
    · obtain ⟨hr, rfl⟩ := hres
      have hsome : late.getLast?.or (some resolvedRefs) =
          some (late.getLast?.getD resolvedRefs) := by
        cases late.getLast? <;> rfl
      rw [if_pos ⟨hr, rfl⟩, if_pos ⟨ne_nil_of_mem hr, hr, rfl⟩, hsome, some_inj]
      constructor
      · rintro rfl
        exact ⟨.inr ⟨hr, rfl⟩, hlateType⟩
      · rintro ⟨⟨_, outcome, hchecks, rfl⟩ | ⟨_, rfl⟩, htype⟩
        · exact absurd ((verdict_type hchecks).symm.trans htype) (by decide)
        · rfl
    · rw [if_neg hres, none_or, if_neg fun h => hres h.2]
      refine iff_of_false (by simp [lastSet]) ?_
      rintro ⟨⟨_, outcome, hchecks, rfl⟩ | ⟨hr, rfl⟩, rfl⟩
      · exact htype (verdict_type hchecks)
      · exact hres ⟨hr, hlateType⟩

/-! ## The reconcilers return -/

theorem exists_runChecks_eq_ok {checks : List (Result CheckOutcome)}
    (h : ∀ check ∈ checks, ∃ outcome, check = .ok outcome) :
    ∃ outcome, runChecks checks = .ok outcome := by
  induction checks with
  | nil => exact ⟨_, rfl⟩
  | cons check checks ih =>
    obtain ⟨⟨⟨conditions, continueCheck⟩, rfl⟩, hchecks⟩ := forall_mem_cons.1 h
    obtain ⟨more, hmore⟩ := ih hchecks
    rcases continueCheck with message | (_ | _)
    · exact ⟨_, rfl⟩
    · exact ⟨_, rfl⟩
    · exact ⟨_, by rw [runChecks, hmore]; rfl⟩

variable (api) in
theorem exists_backendChecks_eq_ok
    (hkinds : ∀ be ∈ route.getBackendRefs, be.kind.isSome = true) (grants : List ReferenceGrant) :
    ∃ outcome, backendChecks api route grants = .ok outcome := by
  have hservices : ∃ outcome, checkBackendIsService route = .ok outcome := by
    refine exists_foldlM_eq_ok (fun outcome be hbe => ?_) _
    obtain ⟨kind, hkind⟩ := isSome_iff_exists.1 (hkinds be hbe)
    rw [checkServiceRef, hkind]
    split_ifs <;> exact ⟨_, rfl⟩
  apply exists_runChecks_eq_ok
  simp only [forall_mem_cons]
  exact ⟨⟨_, rfl⟩, hservices, ⟨_, rfl⟩, by simp⟩

theorem exists_reconcileRoute_eq_ok
    (hgateways : ∀ ref ∈ route.toCommonRoute.parentRefs, ∃ outcome,
      gatewayChecks api route ref = .ok outcome)
    (hkinds : ∀ be ∈ route.getBackendRefs, be.kind.isSome = true) (grants : List ReferenceGrant) :
    ∃ run, reconcileRoute api route grants = .ok run := by
  have hloop : ∃ run, route.toCommonRoute.parentRefs.foldlM (checkParent api route) {} =
      .ok run := by
    refine exists_foldlM_eq_ok (fun run ref href => ?_) _
    obtain ⟨outcome, hchecks⟩ := hgateways ref href
    rw [checkParent, hchecks]
    split_ifs <;> exact ⟨_, rfl⟩
  obtain ⟨run, hrun⟩ := hloop
  obtain ⟨outcome, hbackend⟩ := exists_backendChecks_eq_ok api hkinds grants
  rw [reconcileRoute, hrun, hbackend]
  simp only [bind, Except.bind]
  split_ifs <;> exact ⟨_, rfl⟩

end

end Reconcile
