import Dolphin.Go.Slices
import Dolphin.Reconcile.RouteWrites

/-!
# Whose entries a status pass touches

Several controllers write entries of the status of a route. A pass of this controller should leave
those of others alone, and should create and modify entries only for parentRefs that lead to its
own Gateways (`TouchesOnlyOwn`).

But conditions are set in the first entry for a parentRef, whoever has written it. The passes of
TLSRoutes and GRPCRoutes do not look at the class of a Gateway at all, and an invalid HTTPRoute is
marked in all entries. `touchesOnlyOwn_iff` says when no harm is done.
-/

namespace Reconcile

open Gatewayv1 Go Ingestion List
open Option (some_inj none_or)

variable {api : RouteAPI} {ref : ParentReference} {type : String} {cond : Condition}

/-- A route whose status is made by a pass of this controller. -/
inductive CheckedRoute
  | http (hr : HTTPRoute)
  | tls (tr : TLSRoute)
  | grpc (gr : GRPCRoute)

namespace CheckedRoute

def toRoute : CheckedRoute → Route
  | http hr => .http hr
  | tls tr => .tls tr
  | grpc gr => .grpc gr

/-- The status with which the pass starts: that of the route, or what is left after pruning. -/
def start : CheckedRoute → List RouteParentStatus
  | http hr => prunedParents hr
  | tls tr => tr.parents
  | grpc gr => gr.parents

/-- The conditions that the pass sets. -/
def writes (api : RouteAPI) (grants : List ReferenceGrant) :
    CheckedRoute → Result (List StatusWrite)
  | http hr => httpRouteWrites api hr
  | tls tr => (·.writes) <$> tlsrouteReconcile api tr grants
  | grpc gr => (·.writes) <$> grpcrouteReconcile api gr grants

/-- The status that the conditions make. -/
def parentsAfter (api : RouteAPI) (r : CheckedRoute) (ws : List StatusWrite) :
    List RouteParentStatus :=
  setParentConditions api.now r.toRoute.toCommonRoute.generation ws r.start

end CheckedRoute

/-- An entry without the times of transition. -/
def timelessParent (parent : RouteParentStatus) : RouteParentStatus :=
  { parent with conditions := parent.conditions.map timeless }

section

variable (api : RouteAPI) (r : CheckedRoute)

/-- The class of the Gateway names this controller. -/
def OwnGateway (gw : Gateway) : Prop :=
  ∃ gwc, api.getGatewayClass gw.gatewayClassName = .ok gwc ∧
    gwc.controllerName = gatewayControllerName

/-- The parentRef leads to a Gateway of this controller, directly or through a ListenerSet. -/
def LeadsToOwn (route : Route) (ref : ParentReference) : Prop :=
  (isGateway ref = true ∧ ∃ gw, api.getGateway (parentKey route ref) = .ok gw ∧ OwnGateway api gw) ∨
  (isListenerSet ref = true ∧ ∃ ls gw, api.getListenerSet (parentKey route ref) = .ok ls ∧
    api.getGateway ⟨(listenerSetParentGateway ls).1, (listenerSetParentGateway ls).2⟩ = .ok gw ∧
    OwnGateway api gw)

/-- A parentRef of the route that leads to a Gateway of this controller. -/
def OwnRef (ref : ParentReference) : Prop :=
  ref ∈ r.toRoute.toCommonRoute.parentRefs ∧ LeadsToOwn api r.toRoute ref

/-- The entries of other controllers are as before, in the same order, and an entry that is new
    or different is one of this controller for a parentRef that leads to one of its Gateways. -/
structure TouchesOnlyOwn (parents : List RouteParentStatus) : Prop where
  foreign : (parents.filter fun e => e.controllerName ≠ gatewayControllerName).map timelessParent =
    (r.toRoute.toCommonRoute.parents.filter fun e =>
      e.controllerName ≠ gatewayControllerName).map timelessParent
  owned : ∀ (i : Nat) e, parents[i]? = some e →
    r.start[i]?.map timelessParent = some (timelessParent e) ∨
      e.controllerName = gatewayControllerName ∧ OwnRef api r e.parentRef

/-- What the validation of an HTTPRoute says. -/
def invalidity (hr : HTTPRoute) : Result (Option Condition) := do
  let headerModifier ← validateHeaderModifier hr
  pure ((validateMatchRegexps api hr).or headerModifier)

/-- When an HTTPRoute is validated, its status has an entry for the parentRef. -/
def HasEntry (hr : HTTPRoute) (ref : ParentReference) : Prop :=
  ref ∈ (prunedParents hr).map (·.parentRef) ∨ OwnRef api (.http hr) ref

/-- The condition is one that the pass leaves for a parentRef of an HTTPRoute. -/
def HTTPSets (hr : HTTPRoute) (ref : ParentReference) (cond : Condition) : Prop :=
  (OwnRef api (.http hr) ref ∧ (cond = resolvedRefs ∨
    invalidity api hr = .ok none ∧ cond = acceptedRoute (.http hr))) ∨
  (HasEntry api hr ref ∧ invalidity api hr = .ok (some cond))

/-- The condition is one that the pass leaves for a parentRef. -/
def CheckedRoute.Sets (grants : List ReferenceGrant) :
    CheckedRoute → ParentReference → Condition → Prop
  | .http hr => HTTPSets api hr
  | .tls tr => RouteSets api (.tls tr) grants
  | .grpc gr => RouteSets api (.grpc gr) grants

end

/-! ## Positions -/

section

variable {now : Nat} {generation : Int} {ws : List StatusWrite} {parents : List RouteParentStatus}

/-- The update of an entry. -/
def StatusWrite.apply (now : Nat) (generation : Int) (w : StatusWrite)
    (parent : RouteParentStatus) : RouteParentStatus :=
  { parent with conditions := merge parent.conditions [w.update now generation] }

theorem setParentConditions_eq : setParentConditions now generation ws parents =
    upserts (·.parentRef) (·.ref) (fun ref => ⟨ref, gatewayControllerName, []⟩)
      (StatusWrite.apply now generation) ws parents := rfl

theorem updated_entry (e : RouteParentStatus) :
    updated (·.ref) (StatusWrite.apply now generation) ws ref e =
      { e with conditions := ((ws.filter fun w => w.ref = ref).map
          (·.update now generation)).foldl (fun conds u => merge conds [u]) e.conditions } := by
  rw [updated]
  induction ws.filter fun w => w.ref = ref generalizing e with
  | nil => rfl
  | cons w ws ih => rw [foldl_cons, ih]; rfl

/-- An entry stays as it is exactly when it says what is set last for its parentRef. -/
theorem updated_entry_unchanged_iff {e : RouteParentStatus} :
    timelessParent (updated (·.ref) (StatusWrite.apply now generation) ws ref e) =
        timelessParent e ↔
      ∀ type cond, lastSet type ref ws = some cond →
        Recorded e.conditions (StatusWrite.update now generation ⟨ref, cond⟩) := by
  have hconds : timelessParent (updated (·.ref) (StatusWrite.apply now generation) ws ref e) =
      timelessParent e ↔ (((ws.filter fun w => w.ref = ref).map (·.update now generation)).foldl
          (fun conds u => merge conds [u]) e.conditions).map timeless =
            e.conditions.map timeless := by
    rw [updated_entry]
    simp [timelessParent]
  have hlast (type : String) : ((ws.filter fun w => w.ref = ref).map
      (·.update now generation)).reverse.find? (·.type == type) =
        (lastSet type ref ws).map fun cond => StatusWrite.update now generation ⟨ref, cond⟩ := by
    have htest (w : StatusWrite) : decide (decide (w.ref = ref) = true ∧
        ((w.update now generation).type == type) = true) =
          (decide (w.ref = ref) && w.condition.type == type) := by
      rw [Bool.decide_and, Bool.decide_eq_true, Bool.decide_eq_true]
      rfl
    rw [← map_reverse, find?_map, ← filter_reverse, find?_filter, lastSet, Option.map_map]
    simp only [Function.comp_apply, htest]
    rfl
  rw [hconds, foldl_merge_unchanged_iff]
  constructor
  · intro h type cond hcond
    have htype : cond.type = type := by
      obtain ⟨w, hw, rfl⟩ := Option.map_eq_some_iff.1 hcond
      have hfound := find?_some hw
      simp only [Bool.and_eq_true, decide_eq_true_eq, beq_iff_eq] at hfound
      exact hfound.2
    refine h _ ?_
    rw [hlast, show (StatusWrite.update now generation ⟨ref, cond⟩).type = type from htype, hcond]
    rfl
  · intro h u hu
    rw [hlast, Option.map_eq_some_iff] at hu
    obtain ⟨cond, hcond, rfl⟩ := hu
    exact h _ cond hcond

theorem mem_parentRefs_setParentConditions :
    ref ∈ (setParentConditions now generation ws parents).map (·.parentRef) ↔
      ref ∈ parents.map (·.parentRef) ∨ ∃ w ∈ ws, w.ref = ref := by
  have hfound (parents : List RouteParentStatus) : ref ∈ parents.map (·.parentRef) ↔
      (parents.find? fun parent => parent.parentRef = ref).isSome = true := by
    simp [find?_isSome]
  rw [hfound, hfound, setParentConditions]
  induction ws using reverseRecOn with
  | nil => simp
  | append_singleton ws w ih =>
    rw [foldl_concat]
    by_cases hw : w.ref = ref
    · rw [← hw, find_setParentCondition]
      exact iff_of_true rfl (.inr ⟨w, by simp, rfl⟩)
    · rw [find_setParentCondition_of_ne hw]
      exact ih.trans (by simp [hw])

end

/-! ## What the passes set -/

section

variable {hr : HTTPRoute} {ws : List StatusWrite}

theorem not_isListenerSet_of_isGateway (h : isGateway ref = true) : isListenerSet ref = false := by
  rw [isGateway, Bool.and_eq_true] at h
  rw [isListenerSet, Bool.and_eq_false_iff, beq_eq_false_iff_ne]
  refine .inl fun hkind => ?_
  rw [hkind] at h
  exact absurd h.1 (by decide)

theorem hasMatchingController_iff {gw : Gateway} :
    hasMatchingController api gw = true ↔ OwnGateway api gw := by
  rw [hasMatchingController, OwnGateway]
  cases api.getGatewayClass gw.gatewayClassName <;> simp

theorem parentIsMatchingGateway_iff : parentIsMatchingGateway api hr ref = true ↔
    ∃ gw, api.getGateway (parentKey (.http hr) ref) = .ok gw ∧ OwnGateway api gw := by
  rw [parentIsMatchingGateway]
  cases api.getGateway (parentKey (.http hr) ref) <;> simp [hasMatchingController_iff]

theorem parentIsMatchingListenerSet_iff : parentIsMatchingListenerSet api hr ref = true ↔
    ∃ ls gw, api.getListenerSet (parentKey (.http hr) ref) = .ok ls ∧
      api.getGateway ⟨(listenerSetParentGateway ls).1, (listenerSetParentGateway ls).2⟩ = .ok gw ∧
      OwnGateway api gw := by
  rw [parentIsMatchingListenerSet]
  cases api.getListenerSet (parentKey (.http hr) ref) with
  | error err => simp
  | ok ls =>
    cases hgw : api.getGateway ⟨(listenerSetParentGateway ls).1, (listenerSetParentGateway ls).2⟩ with
    | error err => simp [hgw]
    | ok gw => simp [hgw, hasMatchingController_iff]

/-- The pass accepts an HTTPRoute for the parentRefs that lead to own Gateways. -/
theorem runCommonRouteChecks_cases (api : RouteAPI) (hr : HTTPRoute) (ref : ParentReference) :
    LeadsToOwn api (.http hr) ref ∧
        runCommonRouteChecks api hr ref = setInitialRouteConditions hr ref ∨
      ¬ LeadsToOwn api (.http hr) ref ∧ runCommonRouteChecks api hr ref = [] := by
  rw [runCommonRouteChecks, LeadsToOwn, ← parentIsMatchingGateway_iff,
    ← parentIsMatchingListenerSet_iff]
  cases hgateway : isGateway ref with
  | true =>
    have hset : isListenerSet ref = false := not_isListenerSet_of_isGateway hgateway
    cases parentIsMatchingGateway api hr ref <;> simp [hset]
  | false =>
    cases isListenerSet ref <;> cases parentIsMatchingListenerSet api hr ref <;> simp

theorem ref_of_mem_runCommonRouteChecks {w : StatusWrite}
    (h : w ∈ runCommonRouteChecks api hr ref) : w.ref = ref := by
  rcases runCommonRouteChecks_cases api hr ref with ⟨_, heq⟩ | ⟨_, heq⟩
  · rw [heq] at h
    simp only [setInitialRouteConditions, mem_cons, not_mem_nil, or_false] at h
    rcases h with rfl | rfl <;> rfl
  · rw [heq] at h
    cases h

theorem lastSet_setInitialRouteConditions : lastSet type ref (setInitialRouteConditions hr ref) =
    some cond ↔ (cond = resolvedRefs ∨ cond = acceptedRoute (.http hr)) ∧ cond.type = type := by
  have hsplit : setInitialRouteConditions hr ref =
    [⟨ref, acceptedRoute (.http hr)⟩] ++ [⟨ref, resolvedRefs⟩] := rfl
  rw [hsplit, lastSet_append, lastSet_singleton, lastSet_singleton]
  by_cases hresolved : resolvedRefs.type = type
  · have hne : "Accepted" ≠ "ResolvedRefs" := by decide
    have haccepted : ¬ (acceptedRoute (.http hr)).type = type := fun h =>
      hne (h.trans hresolved.symm)
    rw [if_pos ⟨rfl, hresolved⟩, Option.some_or, some_inj]
    constructor
    · rintro rfl
      exact ⟨.inl rfl, hresolved⟩
    · rintro ⟨rfl | rfl, htype⟩
      · rfl
      · exact absurd htype haccepted
  · rw [if_neg fun h => hresolved h.2, none_or]
    constructor
    · intro h
      obtain ⟨⟨_, htype⟩, hsome⟩ := Option.ite_none_right_eq_some.1 h
      obtain rfl := some_inj.1 hsome
      exact ⟨.inr rfl, htype⟩
    · rintro ⟨rfl | rfl, htype⟩
      · exact absurd htype hresolved
      · exact if_pos ⟨rfl, htype⟩

theorem lastSet_runCommonRouteChecks :
    lastSet type ref (hr.parentRefs.flatMap (runCommonRouteChecks api hr)) = some cond ↔
      OwnRef api (.http hr) ref ∧ (cond = resolvedRefs ∨ cond = acceptedRoute (.http hr)) ∧
        cond.type = type := by
  rw [lastSet_flatMap_self fun _ _ => ref_of_mem_runCommonRouteChecks,
    Option.ite_none_right_eq_some, OwnRef, and_assoc]
  refine and_congr_right fun _ => ?_
  rcases runCommonRouteChecks_cases api hr ref with ⟨hown, heq⟩ | ⟨hown, heq⟩
  · rw [heq, lastSet_setInitialRouteConditions]
    exact (and_iff_right hown).symm
  · rw [heq]
    exact iff_of_false (by simp [lastSet]) fun h => hown h.1

theorem lastSet_invalidate {invalid : Option Condition} {parents : List RouteParentStatus}
    (h : ∀ cond, invalid = some cond → cond.type = "Accepted") :
    lastSet type ref (invalidate invalid parents) =
      if ref ∈ parents.map (·.parentRef) ∧ type = "Accepted" then invalid else none := by
  have hwrites : invalidate invalid parents =
      invalid.toList.flatMap (setAllParentCondition (parents.map (·.parentRef))) := by
    cases invalid <;> simp [invalidate, setAllParentCondition]
  rw [hwrites, lastSet_flatMap fun cond hcond => h cond (Option.mem_toList.1 hcond)]
  cases invalid <;> rfl

theorem isRejection_of_headerFilters {filters : List HTTPRouteFilter}
    (h : validateHeaderFilters filters = .ok (some cond)) : IsRejection cond := by
  induction filters with
  | nil => cases h
  | cons f filters ih =>
    rw [validateHeaderFilters] at h
    split_ifs at h
    · obtain ⟨modifier, _, h⟩ := bind_eq_ok.1 h
      split_ifs at h
      · obtain rfl := some_inj.1 (Except.ok.inj h)
        exact ⟨rfl, rfl⟩
      · exact ih h
    · exact ih h

theorem isRejection_of_matchRegexps (h : validateMatchRegexps api hr = some cond) :
    IsRejection cond := by
  obtain ⟨_, ⟨field, value⟩, _, _, hcond, _⟩ := findSome?_eq_some_iff.1 h
  cases hcompile : api.compileRegexp value with
  | ok _ => simp [hcompile] at hcond
  | error err =>
    simp only [hcompile, some_inj] at hcond
    subst hcond
    exact ⟨rfl, rfl⟩

theorem isRejection_of_invalidity (h : invalidity api hr = .ok (some cond)) : IsRejection cond := by
  obtain ⟨headerModifier, hheader, h⟩ := bind_eq_ok.1 h
  rcases Option.or_eq_some_iff.1 (Except.ok.inj h) with hregexp | ⟨_, rfl⟩
  · exact isRejection_of_matchRegexps hregexp
  · exact isRejection_of_headerFilters hheader

theorem mem_parentRefs_common : ref ∈ (setParentConditions api.now hr.generation
      (hr.parentRefs.flatMap (runCommonRouteChecks api hr)) (prunedParents hr)).map (·.parentRef) ↔
        HasEntry api hr ref := by
  rw [mem_parentRefs_setParentConditions, exists_write_iff]
  refine or_congr_right ⟨?_, fun hown => ?_⟩
  · rintro ⟨_, cond, hlast⟩
    exact (lastSet_runCommonRouteChecks.1 hlast).1
  · exact ⟨_, resolvedRefs, lastSet_runCommonRouteChecks.2 ⟨hown, .inl rfl, rfl⟩⟩

theorem ref_of_mem_invalidate {parents : List RouteParentStatus} {cond : Option Condition}
    {w : StatusWrite} (h : w ∈ invalidate cond parents) : w.ref ∈ parents.map (·.parentRef) := by
  cases cond with
  | none => cases h
  | some cond =>
    obtain ⟨e, he, rfl⟩ := mem_map.1 h
    exact mem_map_of_mem he

/-- The first validation adds no entries. -/
theorem mem_parentRefs_invalidate {now : Nat} {generation : Int} {parents : List RouteParentStatus}
    {invalid : Option Condition} :
    ref ∈ (setParentConditions now generation
        (ws ++ invalidate invalid (setParentConditions now generation ws parents)) parents).map
          (·.parentRef) ↔
      ref ∈ (setParentConditions now generation ws parents).map (·.parentRef) := by
  rw [mem_parentRefs_setParentConditions]
  constructor
  · rintro (hparent | ⟨w, hw, rfl⟩)
    · exact mem_parentRefs_setParentConditions.2 (.inl hparent)
    · rcases mem_append.1 hw with hw | hw
      · exact mem_parentRefs_setParentConditions.2 (.inr ⟨w, hw, rfl⟩)
      · exact ref_of_mem_invalidate hw
  · intro h
    refine (mem_parentRefs_setParentConditions.1 h).imp_right ?_
    rintro ⟨w, hw, rfl⟩
    exact ⟨w, mem_append_left _ hw, rfl⟩

/-- What the validation says counts for all entries. -/
theorem lastSet_validation (h : httpRouteWrites api hr = .ok ws) (ref : ParentReference)
    (type : String) :
    ∃ invalid, invalidity api hr = .ok invalid ∧
      (HasEntry api hr ref ∧ type = "Accepted" → lastSet type ref ws = invalid.or
        (lastSet type ref (hr.parentRefs.flatMap (runCommonRouteChecks api hr)))) ∧
      (¬ (HasEntry api hr ref ∧ type = "Accepted") → lastSet type ref ws =
        lastSet type ref (hr.parentRefs.flatMap (runCommonRouteChecks api hr))) := by
  obtain ⟨headerModifier, hheader, h⟩ := bind_eq_ok.1 h
  obtain rfl := Except.ok.inj h
  have hheaderType (cond : Condition) (hcond : headerModifier = some cond) :
      cond.type = "Accepted" := (isRejection_of_headerFilters (hcond ▸ hheader)).1
  have hregexpType (cond : Condition) (hcond : validateMatchRegexps api hr = some cond) :
      cond.type = "Accepted" := (isRejection_of_matchRegexps hcond).1
  refine ⟨_, by rw [invalidity, hheader]; rfl, ?_⟩
  rw [lastSet_append, lastSet_append, lastSet_invalidate hregexpType,
    lastSet_invalidate hheaderType]
  refine ⟨fun hset => ?_, fun hset => ?_⟩
  · rw [if_pos ⟨mem_parentRefs_invalidate.2 (mem_parentRefs_common.2 hset.1), hset.2⟩,
      if_pos ⟨mem_parentRefs_common.2 hset.1, hset.2⟩, Option.or_assoc]
  · rw [if_neg fun h => hset ⟨mem_parentRefs_common.1 (mem_parentRefs_invalidate.1 h.1), h.2⟩,
      if_neg fun h => hset ⟨mem_parentRefs_common.1 h.1, h.2⟩, none_or, none_or]

theorem lastSet_httpRouteWrites (h : httpRouteWrites api hr = .ok ws) :
    lastSet type ref ws = some cond ↔ HTTPSets api hr ref cond ∧ cond.type = type := by
  obtain ⟨invalid, hinvalidity, hset, hnot⟩ := lastSet_validation h ref type
  have hcommon : lastSet type ref (hr.parentRefs.flatMap (runCommonRouteChecks api hr)) =
      some cond ↔ _ := lastSet_runCommonRouteChecks
  by_cases hentry : HasEntry api hr ref ∧ type = "Accepted"
  · rw [hset hentry]
    cases invalid with
    | none =>
      rw [none_or, hcommon]
      constructor
      · rintro ⟨hown, rfl | rfl, htype⟩
        · exact ⟨.inl ⟨hown, .inl rfl⟩, htype⟩
        · exact ⟨.inl ⟨hown, .inr ⟨hinvalidity, rfl⟩⟩, htype⟩
      · rintro ⟨⟨hown, rfl | ⟨_, rfl⟩⟩ | ⟨_, hcond⟩, htype⟩
        · exact ⟨hown, .inl rfl, htype⟩
        · exact ⟨hown, .inr rfl, htype⟩
        · cases Except.ok.inj (hinvalidity.symm.trans hcond)
    | some invalid =>
      obtain ⟨hentry, rfl⟩ := hentry
      rw [Option.some_or, some_inj]
      constructor
      · rintro rfl
        exact ⟨.inr ⟨hentry, hinvalidity⟩, (isRejection_of_invalidity hinvalidity).1⟩
      · rintro ⟨⟨_, rfl | ⟨hnone, _⟩⟩ | ⟨_, hcond⟩, htype⟩
        · exact absurd htype (by decide)
        · cases Except.ok.inj (hinvalidity.symm.trans hnone)
        · exact some_inj.1 (Except.ok.inj (hinvalidity.symm.trans hcond))
  · rw [hnot hentry, hcommon]
    constructor
    · rintro ⟨hown, rfl | rfl, htype⟩
      · exact ⟨.inl ⟨hown, .inl rfl⟩, htype⟩
      · exact absurd ⟨.inr hown, htype.symm⟩ hentry
    · rintro ⟨⟨hown, rfl | ⟨_, rfl⟩⟩ | ⟨hhas, hcond⟩, htype⟩
      · exact ⟨hown, .inl rfl, htype⟩
      · exact ⟨hown, .inr rfl, htype⟩
      · exact absurd ⟨hhas, htype.symm.trans (isRejection_of_invalidity hcond).1⟩ hentry

end

section

variable {grants : List ReferenceGrant} {r : CheckedRoute} {ws : List StatusWrite}

theorem lastSet_writes (hws : r.writes api grants = .ok ws) :
    lastSet type ref ws = some cond ↔ r.Sets api grants ref cond ∧ cond.type = type := by
  cases r with
  | http hr => exact lastSet_httpRouteWrites hws
  | tls tr =>
    obtain ⟨run, hrun, rfl⟩ := map_eq_ok.1 hws
    exact lastSet_reconcileRoute hrun
  | grpc gr =>
    obtain ⟨run, hrun, rfl⟩ := map_eq_ok.1 hws
    exact lastSet_reconcileRoute hrun

theorem exists_sets_iff (hws : r.writes api grants = .ok ws) :
    (∃ w ∈ ws, w.ref = ref) ↔ ∃ cond, r.Sets api grants ref cond := by
  rw [exists_write_iff]
  constructor
  · rintro ⟨type, cond, hlast⟩
    exact ⟨cond, ((lastSet_writes hws).1 hlast).1⟩
  · rintro ⟨cond, hcond⟩
    exact ⟨cond.type, cond, (lastSet_writes hws).2 ⟨hcond, rfl⟩⟩

/-! ## The entries that change -/

theorem filter_start : (r.start.filter fun e => e.controllerName ≠ gatewayControllerName) =
    r.toRoute.toCommonRoute.parents.filter fun e => e.controllerName ≠ gatewayControllerName := by
  cases r with
  | tls tr => rfl
  | grpc gr => rfl
  | http hr =>
    change (prunedParents hr).filter _ = _
    rw [prunedParents, pruneRouteParentStatuses, filter_filter]
    refine filter_congr fun e _ => ?_
    by_cases h : e.controllerName = gatewayControllerName <;> simp [h]

/-- The entries of other controllers are unchanged if only own entries are created or modified. -/
theorem touchesOnlyOwn_of_owned
    (h : ∀ (i : Nat) e, (r.parentsAfter api ws)[i]? = some e →
      r.start[i]?.map timelessParent = some (timelessParent e) ∨
        e.controllerName = gatewayControllerName ∧ OwnRef api r e.parentRef) :
    TouchesOnlyOwn api r (r.parentsAfter api ws) := by
  refine ⟨?_, h⟩
  rw [← filter_start]
  refine map_filter_eq_of_getElem? (fun i e he hforeign => ?_) fun i e he => ?_
  · rcases h i e he with hsame | ⟨hown, _⟩
    · exact hsame
    · simp [hown] at hforeign
  · rw [CheckedRoute.parentsAfter, setParentConditions_eq]
    obtain ⟨ws', hafter⟩ := getElem?_upserts
      (fun (w : StatusWrite) _ => (by rfl : (w.apply _ _ _).parentRef = _)) he
    refine ⟨_, hafter, ?_⟩
    rw [updated_entry]

/-- What the pass does to the first entry for a parentRef for which it sets something. -/
theorem owned_entry_iff (hws : r.writes api grants = .ok ws)
    (hsets : ∃ cond, r.Sets api grants ref cond) {o : Option RouteParentStatus}
    (ho : ∀ e, o = some e → e.parentRef = ref) {after : RouteParentStatus}
    (hafter : after = updated (·.ref)
      (StatusWrite.apply api.now r.toRoute.toCommonRoute.generation) ws ref
      (o.getD ⟨ref, gatewayControllerName, []⟩)) :
    (o.map timelessParent = some (timelessParent after) ∨
        after.controllerName = gatewayControllerName ∧ OwnRef api r after.parentRef) ↔
      ∀ cond, r.Sets api grants ref cond →
        (OwnRef api r ref ∧ ∀ e, o = some e → e.controllerName = gatewayControllerName) ∨
        ∃ e, o = some e ∧ Recorded e.conditions
          (StatusWrite.update api.now r.toRoute.toCommonRoute.generation ⟨ref, cond⟩) := by
  have hname : after.controllerName =
      (o.getD ⟨ref, gatewayControllerName, []⟩).controllerName := by rw [hafter, updated_entry]
  have href : after.parentRef = ref := by
    rw [hafter, updated_entry]
    cases o with
    | none => rfl
    | some e => exact ho e rfl
  rw [hname, href]
  cases o with
  | none =>
    obtain ⟨cond, hcond⟩ := hsets
    constructor
    · rintro (hnone | ⟨_, hown⟩)
      · cases hnone
      · exact fun _ _ => .inl ⟨hown, fun _ h => by cases h⟩
    · intro h
      rcases h cond hcond with ⟨hown, _⟩ | ⟨_, hnone, _⟩
      · exact .inr ⟨rfl, hown⟩
      · cases hnone
  | some e =>
    have hsame : (some e).map timelessParent = some (timelessParent after) ↔
        ∀ cond, r.Sets api grants ref cond → Recorded e.conditions
          (StatusWrite.update api.now r.toRoute.toCommonRoute.generation ⟨ref, cond⟩) := by
      rw [Option.map_some, some_inj, eq_comm, hafter, Option.getD_some, updated_entry_unchanged_iff]
      constructor
      · intro h cond hcond
        exact h cond.type cond ((lastSet_writes hws).2 ⟨hcond, rfl⟩)
      · intro h type cond hlast
        exact h cond ((lastSet_writes hws).1 hlast).1
    rw [hsame]
    constructor
    · rintro (hrecorded | ⟨hown, hlead⟩) cond hcond
      · exact .inr ⟨e, rfl, hrecorded cond hcond⟩
      · exact .inl ⟨hlead, fun e' he' => some_inj.1 he' ▸ hown⟩
    · intro h
      by_cases hown : OwnRef api r ref ∧ e.controllerName = gatewayControllerName
      · exact .inr ⟨hown.2, hown.1⟩
      · refine .inl fun cond hcond => ?_
        rcases h cond hcond with ⟨hlead, hname⟩ | ⟨e', he', hrecorded⟩
        · exact absurd ⟨hlead, hname e rfl⟩ hown
        · obtain rfl := some_inj.1 he'
          exact hrecorded

/-- The entries of others stay as they are exactly if every condition that is set is for a
    parentRef that leads to an own Gateway, without an entry of another controller, or says what
    the entry says already. -/
theorem touchesOnlyOwn_iff (hws : r.writes api grants = .ok ws) :
    TouchesOnlyOwn api r (r.parentsAfter api ws) ↔
      ∀ ref cond, r.Sets api grants ref cond →
        (OwnRef api r ref ∧ ∀ e, (r.start.find? fun e => e.parentRef = ref) = some e →
          e.controllerName = gatewayControllerName) ∨
        ∃ e, (r.start.find? fun e => e.parentRef = ref) = some e ∧ Recorded e.conditions
          (StatusWrite.update api.now r.toRoute.toCommonRoute.generation ⟨ref, cond⟩) := by
  have hfound (ref : ParentReference) (e : RouteParentStatus)
      (he : (r.start.find? fun e => e.parentRef = ref) = some e) : e.parentRef = ref := by
    simpa using find?_some he
  have howned : TouchesOnlyOwn api r (r.parentsAfter api ws) ↔ _ :=
    ⟨TouchesOnlyOwn.owned, touchesOnlyOwn_of_owned⟩
  -- how the entries are related to those before is decided by the first entry for each parentRef
  rw [howned, CheckedRoute.parentsAfter, setParentConditions_eq,
    forall_upserts_iff (fun _ _ => by rfl) (fun _ => by rfl) (R := fun o e =>
      o.map timelessParent = some (timelessParent e) ∨
        e.controllerName = gatewayControllerName ∧ OwnRef api r e.parentRef) fun _ => .inl rfl]
  constructor
  · intro h ref cond hcond
    obtain ⟨w, hw, rfl⟩ := (exists_sets_iff hws).2 ⟨cond, hcond⟩
    exact (owned_entry_iff hws ⟨cond, hcond⟩ (hfound _) rfl).1 (h w hw) cond hcond
  · intro h w hw
    have hsets := (exists_sets_iff hws).1 ⟨w, hw, rfl⟩
    exact (owned_entry_iff hws hsets (hfound _) rfl).2 (h w.ref)

end

/-! ## Two controllers -/

def classGateway (gatewayClassName : String) : Gateway where
  name := "gw"
  ns := "infra"
  listeners := []
  gatewayClassName := gatewayClassName

/-- A cluster with Gateways of this controller and of another one. -/
def twoControllers : RouteAPI :=
  { RouteAPI.ofGateway (classGateway "dolphin") with
    getGateway key := .ok (classGateway (if key.name = "gw" then "dolphin" else "other"))
    getGatewayClass name :=
      .ok ⟨name, if name = "dolphin" then gatewayControllerName else "other/gateway-controller"⟩ }

def otherEntry : RouteParentStatus where
  parentRef := { name := "other-gw" }
  controllerName := "other/gateway-controller"
  conditions := []

/-- An HTTPRoute with a parentRef for each of the Gateways. -/
def sharedRoute : CheckedRoute :=
  .http {
    name := "shop"
    ns := "infra"
    parentRefs := [{ name := "gw" }, { name := "other-gw" }]
    parents := [otherEntry]
    hostnames := []
    rules := [] }

theorem leadsToOwn_sharedRoute (h : OwnRef twoControllers sharedRoute ref) : ref.name = "gw" := by
  have hown (gw : Gateway) (key : NamespacedName) (hgw : twoControllers.getGateway key = .ok gw)
      (hclass : OwnGateway twoControllers gw) : key.name = "gw" := by
    by_contra hname
    obtain rfl : classGateway _ = gw := Except.ok.inj hgw
    obtain ⟨gwc, hgwc, hcontroller⟩ := hclass
    rw [if_neg hname] at hgwc
    obtain rfl := Except.ok.inj hgwc
    exact absurd hcontroller (by decide)
  rcases h.2 with ⟨_, gw, hgw, hclass⟩ | ⟨_, ls, _, hls, _⟩
  · exact hown gw _ hgw hclass
  · cases hls

theorem touchesOnlyOwn_sharedRoute : ∃ ws, sharedRoute.writes twoControllers [] = .ok ws ∧
    TouchesOnlyOwn twoControllers sharedRoute (sharedRoute.parentsAfter twoControllers ws) := by
  obtain ⟨ws, hws⟩ : ∃ ws, sharedRoute.writes twoControllers [] = .ok ws := ⟨_, rfl⟩
  refine ⟨ws, hws, (touchesOnlyOwn_iff hws).2 ?_⟩
  rintro ref cond (⟨hown, _⟩ | ⟨_, hinvalid⟩)
  · refine .inl ⟨hown, fun e he => ?_⟩
    have hname := leadsToOwn_sharedRoute hown
    obtain rfl := mem_singleton.1 (mem_of_find?_eq_some he)
    have href : otherEntry.parentRef = ref := by simpa using find?_some he
    rw [← href] at hname
    exact absurd hname (by decide)
  · cases Except.ok.inj hinvalid

/-- A TLSRoute of the other controller, which has an entry in its status. -/
def foreignRoute : CheckedRoute :=
  .tls {
    name := "sni"
    ns := "infra"
    parentRefs := [{ name := "other-gw" }]
    parents := [otherEntry]
    rules := [] }

/-- The pass sets conditions in the entry of the other controller. -/
theorem not_touchesOnlyOwn_foreignRoute : ∃ ws, foreignRoute.writes twoControllers [] = .ok ws ∧
    ¬ TouchesOnlyOwn twoControllers foreignRoute (foreignRoute.parentsAfter twoControllers ws) := by
  refine ⟨_, rfl, fun h => ?_⟩
  rcases h.owned 0 _ rfl with hsame | ⟨hname, _⟩
  · have hlength := congrArg (Option.map fun e => e.conditions.length) hsame
    exact absurd hlength (by decide)
  · exact absurd hname (by decide)

end Reconcile
