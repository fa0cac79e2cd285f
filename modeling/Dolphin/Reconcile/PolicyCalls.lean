import Dolphin.Reconcile.PolicyStatuses

/-!
# The calls for a policy

What a run of `setBackendTLSPolicyStatuses` does with a policy is a matter of the calls for it:
one for each Service that is visited, with whether the Service exists, and whether the policy is
among its valid and among its conflicted ones (`Call`). Visits of other policies do not matter,
nor how often the policy is visited in a call (`foldlM_advance`), so that the run is a fold over the
calls of each policy, and fails if one of these does (`byParts_run`).
-/

namespace Reconcile

open Gatewayv1 Go List Option

/-! ## Calls -/

/-- What a Service is for a policy. -/
structure Call where
  svcName : NamespacedName
  exist : Bool
  won : Bool
  lost : Bool
  deriving DecidableEq, Repr

section

variable (ref : ParentReference) (q : BackendTLSPolicy)

/-- All visits of a policy in the iteration for a Service. -/
def Ledger.call (r : Option Rejection) (L : Ledger) (c : Call) : Option Ledger :=
  (if c.won then
      L.advance ref q (if c.exist then L.visitValid r else L.visitMissingValid c.svcName)
    else some L) >>= fun L =>
  if c.lost then
    L.advance ref q (if c.exist then L.visitConflicted else L.visitMissingConflicted)
  else some L

/-- Visits of a policy that are repeated. -/
theorem foldlM_advance {f : Ledger → Ledger} (hf : ∀ L, f (f L) = f L) (ps : List BackendTLSPolicy)
    (L : Ledger) :
    ps.foldlM (fun L p => if q = p then L.advance ref q (f L) else some L) L =
      if q ∈ ps then L.advance ref q (f L) else some L := by
  induction ps generalizing L with
  | nil => rfl
  | cons p ps ih =>
    rw [foldlM_cons]
    by_cases hqp : q = p
    · rw [if_pos hqp, if_pos (mem_cons.2 (.inl hqp)), Ledger.advance]
      split_ifs
      · show foldlM _ (f L) ps = _
        rw [ih, hf, advance_self, ite_self]
      · rfl
    · rw [if_neg hqp, bind_eq_bind, bind_some, ih]
      simp only [mem_cons, hqp, false_or]

end

/-! ## Runs -/

/-- The answers of an API server that does not fail. -/
structure PolicyAnswers (api : PolicyAPI) (httpRoutes : List HTTPRoute) where
  common : Bool
  exist : NamespacedName → Bool
  rejected : BackendTLSPolicy → Option Rejection
  common_eq : (api.listHTTPRoutes >>= fun hrList => containsCommonHTTPRoute hrList httpRoutes) =
    .ok common
  exist_eq : ∀ svcName, api.getService svcName = .ok (exist svcName)
  rejected_eq : ∀ btlsp, rejection api btlsp = .ok (rejected btlsp)

/-- The policies of a collection, valid and conflicted ones. -/
def validPolicies (b : BackendTLSPolicyTargetServiceCollection) : List BackendTLSPolicy :=
  b.valid.toPairs.map Prod.snd

def conflictedPolicies (b : BackendTLSPolicyTargetServiceCollection) : List BackendTLSPolicy :=
  b.conflicted.toPairs.map Prod.snd

/-- All policies of the lookup. -/
def lookupPolicies (lookup : BackendTLSPolicyServiceMap) : Set BackendTLSPolicy :=
  {p | ∃ e ∈ lookup.toPairs, p ∈ validPolicies e.2 ∨ p ∈ conflictedPolicies e.2}

section Run

variable {api : PolicyAPI} {httpRoutes : List HTTPRoute} (ans : PolicyAnswers api httpRoutes)

/-- Whether the policies of a Service are visited. -/
def PolicyAnswers.visits (svcName : NamespacedName) : Bool :=
  ans.common || isExternalAuthBackend httpRoutes svcName

/-- The call of a Service for a policy. -/
def PolicyAnswers.callOf (q : BackendTLSPolicy)
    (e : NamespacedName × BackendTLSPolicyTargetServiceCollection) : Call where
  svcName := e.1
  exist := ans.exist e.1
  won := q ∈ validPolicies e.2
  lost := q ∈ conflictedPolicies e.2

/-- The calls for a policy, in the order of the Services. -/
def PolicyAnswers.calls (entries : List (NamespacedName × BackendTLSPolicyTargetServiceCollection))
    (q : BackendTLSPolicy) : List Call :=
  (entries.filter fun e => ans.visits e.1).map (ans.callOf q)

/-- The ledger of a policy after a run, if it has one. -/
def PolicyAnswers.ledger (ref : ParentReference)
    (entries : List (NamespacedName × BackendTLSPolicyTargetServiceCollection))
    (q : BackendTLSPolicy) : Option Ledger :=
  (ans.calls entries q).foldlM (Ledger.call ref q (ans.rejected q)) {}

variable {ans} {ref : ParentReference} {orders : PolicyOrders}
  {policies : Set BackendTLSPolicy} {run : PolicyRun} {ledgers : BackendTLSPolicy → Ledger}

/-- A loop over the policies of one map of a collection. -/
theorem byParts_loop {visit : PolicyRun → BackendTLSPolicy → Except PolicyFailure PolicyRun}
    {f : BackendTLSPolicy → Ledger → Ledger} (hf : ∀ q L, f q (f q L) = f q L)
    (hvisit : ∀ p ∈ policies, ∀ run (ledgers : BackendTLSPolicy → Ledger),
      (∀ q ∈ policies, Records ref q run (ledgers q)) →
      ByParts (Records ref) policies (visit run p)
        fun q => if q = p then (ledgers p).advance ref p (f p (ledgers p)) else some (ledgers q))
    {ps qs : List BackendTLSPolicy} (hperm : qs.Perm ps) (hps : ∀ p ∈ ps, p ∈ policies)
    (h : ∀ q ∈ policies, Records ref q run (ledgers q)) :
    ByParts (Records ref) policies (qs.foldlM visit run) fun q =>
      if q ∈ ps then (ledgers q).advance ref q (f q (ledgers q)) else some (ledgers q) := by
  refine (byParts_foldlM (g := fun q L p => if q = p then L.advance ref q (f q L) else some L)
    (fun p hp run ledgers h => ?_) h).congr fun q _ => ?_
  · refine (hvisit p (hps p (hperm.mem_iff.1 hp)) run ledgers h).congr fun q _ => ?_
    by_cases hqp : q = p
    · rw [if_pos hqp, if_pos hqp, hqp]
    · rw [if_neg hqp, if_neg hqp]
  · rw [foldlM_advance ref q (hf q) qs]
    simp only [hperm.mem_iff]

/-- What the iterations for the Services make of the ledger of one policy. -/
theorem foldlM_ledgers (entries : List (NamespacedName × BackendTLSPolicyTargetServiceCollection))
    (q : BackendTLSPolicy) (L : Ledger) :
    entries.foldlM (fun L e => if ans.visits e.1 then
        L.call ref q (ans.rejected q) (ans.callOf q e) else some L) L =
      (ans.calls entries q).foldlM (Ledger.call ref q (ans.rejected q)) L := by
  induction entries generalizing L with
  | nil => rfl
  | cons e entries ih =>
    rw [foldlM_cons, PolicyAnswers.calls, filter_cons]
    split_ifs
    · rw [map_cons, foldlM_cons]
      exact congrArg _ (funext ih)
    · exact ih L

section Visits

variable (r : Option Rejection) (svcName : NamespacedName) (L : Ledger)

theorem visitValid_visitValid : (L.visitValid r).visitValid r = L.visitValid r := by
  cases r <;> rfl

theorem visitMissingValid_visitMissingValid :
    (L.visitMissingValid svcName).visitMissingValid svcName = L.visitMissingValid svcName := by
  cases hconfirmed : L.confirmed <;>
    simp [Ledger.visitMissingValid, Ledger.settle, hconfirmed]

theorem visitMissingConflicted_visitMissingConflicted :
    L.visitMissingConflicted.visitMissingConflicted = L.visitMissingConflicted := by
  cases hconfirmed : L.confirmed <;>
    simp [Ledger.visitMissingConflicted, Ledger.visitConflicted, Ledger.accept, hconfirmed]

end Visits

variable (hresponds : api.Responds)
  (hkeys : Set.InjOn objectKey policies)

include hresponds hkeys

section

variable {b : BackendTLSPolicyTargetServiceCollection}
  (h : ∀ q ∈ policies, Records ref q run (ledgers q)) (svcName : NamespacedName) (exist : Bool)

include h

variable (ans orders) in
theorem byParts_valid (hvalid : ∀ p ∈ validPolicies b, p ∈ policies) :
    ByParts (Records ref) policies
      ((((orders.valid svcName).visit b.valid.toPairs).map Prod.snd).foldlM
        (if exist then visitValid api ref else visitMissingValid api ref svcName) run) fun q =>
      if q ∈ validPolicies b then (ledgers q).advance ref q (if exist then
        (ledgers q).visitValid (ans.rejected q) else (ledgers q).visitMissingValid svcName)
      else some (ledgers q) := by
  have hperm := ((orders.valid svcName).perm b.valid.toPairs).map Prod.snd
  cases exist with
  | true =>
    exact byParts_loop (f := fun q L => L.visitValid (ans.rejected q))
      (fun q L => visitValid_visitValid _ L)
      (fun p hp run ledgers h => byParts_visitValid hresponds hkeys h hp (ans.rejected_eq p))
      hperm hvalid h
  | false =>
    exact byParts_loop (f := fun q L => L.visitMissingValid svcName)
      (fun q L => visitMissingValid_visitMissingValid svcName L)
      (fun p hp run ledgers h => byParts_visitMissingValid hresponds hkeys h hp svcName)
      hperm hvalid h

variable (orders) in
theorem byParts_conflicted (hconflicted : ∀ p ∈ conflictedPolicies b, p ∈ policies) :
    ByParts (Records ref) policies
      ((((orders.conflicted svcName).visit b.conflicted.toPairs).map Prod.snd).foldlM
        (if exist then visitConflicted api ref else visitMissingConflicted api ref) run) fun q =>
      if q ∈ conflictedPolicies b then (ledgers q).advance ref q (if exist then
        (ledgers q).visitConflicted else (ledgers q).visitMissingConflicted)
      else some (ledgers q) := by
  have hperm := ((orders.conflicted svcName).perm b.conflicted.toPairs).map Prod.snd
  cases exist with
  | true =>
    exact byParts_loop (f := fun q L => L.visitConflicted) (fun q L => rfl)
      (fun p hp run ledgers h => byParts_visitConflicted hresponds hkeys h hp) hperm hconflicted h
  | false =>
    exact byParts_loop (f := fun q L => L.visitMissingConflicted)
      (fun q L => visitMissingConflicted_visitMissingConflicted L)
      (fun p hp run ledgers h => byParts_visitMissingConflicted hresponds hkeys h hp)
      hperm hconflicted h

end

variable (ans) in
omit hresponds hkeys in
/-- The iteration for a Service, by what the API server answers. -/
theorem visitService_eq (orders : PolicyOrders) (run : PolicyRun)
    (e : NamespacedName × BackendTLSPolicyTargetServiceCollection) :
    visitService api ref httpRoutes orders run e = if ans.visits e.1 then
        ((((orders.valid e.1).visit e.2.valid.toPairs).map Prod.snd).foldlM (if ans.exist e.1 then
          visitValid api ref else visitMissingValid api ref e.1) run) >>= fun run =>
        (((orders.conflicted e.1).visit e.2.conflicted.toPairs).map Prod.snd).foldlM
          (if ans.exist e.1 then visitConflicted api ref else visitMissingConflicted api ref) run
      else pure run := by
  obtain ⟨svcName, b⟩ := e
  have hcommon := ans.common_eq
  rw [visitService]
  cases hlist : api.listHTTPRoutes with
  | error message =>
    rw [hlist] at hcommon
    cases hcommon
  | ok hrList =>
    rw [hlist] at hcommon
    have hcontains : containsCommonHTTPRoute hrList httpRoutes = .ok ans.common := hcommon
    have hvisits : (ans.common || isExternalAuthBackend httpRoutes svcName) =
      ans.visits svcName := rfl
    simp only [bind, Except.bind, hcontains, hvisits, ans.exist_eq, Except.mapError]
    cases ans.visits svcName <;> cases ans.exist svcName <;> rfl

variable (ans orders) in
/-- The iteration for a Service is its call for every policy. -/
theorem byParts_visitService {e : NamespacedName × BackendTLSPolicyTargetServiceCollection}
    (hvalid : ∀ p ∈ validPolicies e.2, p ∈ policies)
    (hconflicted : ∀ p ∈ conflictedPolicies e.2, p ∈ policies)
    (h : ∀ q ∈ policies, Records ref q run (ledgers q)) :
    ByParts (Records ref) policies (visitService api ref httpRoutes orders run e) fun q =>
      if ans.visits e.1 then (ledgers q).call ref q (ans.rejected q) (ans.callOf q e)
      else some (ledgers q) := by
  rw [visitService_eq ans]
  by_cases hvisits : ans.visits e.1 = true
  · simp only [if_pos hvisits]
    have hboth := (byParts_valid ans orders hresponds hkeys h e.1 (ans.exist e.1) hvalid).bind
      (g := fun q L => if q ∈ conflictedPolicies e.2 then L.advance ref q (if ans.exist e.1 then
        L.visitConflicted else L.visitMissingConflicted) else some L)
      fun run ledgers h => byParts_conflicted orders hresponds hkeys h e.1 _ hconflicted
    refine hboth.congr fun q _ => ?_
    by_cases hwon : q ∈ validPolicies e.2 <;> by_cases hlost : q ∈ conflictedPolicies e.2 <;>
      simp only [Ledger.call, PolicyAnswers.callOf, hwon, hlost, decide_true, decide_false, if_true,
        if_false, Bool.false_eq_true]
  · simp only [if_neg hvisits]
    exact byParts_pure h

/-- A run is a fold over the calls of each policy. -/
theorem byParts_run {lookup : BackendTLSPolicyServiceMap}
    (hpolicies : policies = lookupPolicies lookup) :
    ByParts (Records ref) policies (setBackendTLSPolicyStatuses api ref httpRoutes orders lookup)
      (ans.ledger ref (orders.services.visit lookup.toPairs)) := by
  have hinitial : ∀ q ∈ policies, Records ref q {} {} :=
    fun q _ => ⟨rfl, rfl, rfl, iff_of_true rfl rfl⟩
  have hmem {e : NamespacedName × BackendTLSPolicyTargetServiceCollection}
      (he : e ∈ orders.services.visit lookup.toPairs) : e ∈ lookup.toPairs :=
    (orders.services.perm _).mem_iff.1 he
  rw [setBackendTLSPolicyStatuses]
  refine ByParts.congr ?_ fun q _ => foldlM_ledgers _ q {}
  refine byParts_foldlM (fun e he run ledgers h => ?_) hinitial
  exact byParts_visitService ans orders hresponds hkeys
    (fun p hp => hpolicies ▸ ⟨e, hmem he, .inl hp⟩)
    (fun p hp => hpolicies ▸ ⟨e, hmem he, .inr hp⟩) h

end Run

/-! ## Reading a status -/

def Ledger.accepted (L : Ledger) : Option Verdict := L.outcome.map (·.accepted)

def Ledger.resolvedRefs (L : Ledger) : Option Verdict := L.outcome.bind (·.resolvedRefs)

/-- The condition of a type that the status has for an ancestor. -/
def conditionIn (type : String) (ref : ParentReference) (ancestors : List PolicyAncestorStatus) :
    Option Condition :=
  (ancestors.find? fun ancestor => ancestor.ancestorRef = ref).bind fun ancestor =>
    ancestor.conditions.find? (·.type == type)

theorem conditionIn_timeless (type : String) (ref : ParentReference)
    (ancestors : List PolicyAncestorStatus) :
    conditionIn type ref (timelessAncestors ancestors) =
      (conditionIn type ref ancestors).map timeless := by
  have hrefs : (fun ancestor : PolicyAncestorStatus => decide (ancestor.ancestorRef = ref)) ∘
      (fun ancestor : PolicyAncestorStatus =>
        { ancestor with conditions := ancestor.conditions.map timeless }) =
      fun ancestor => decide (ancestor.ancestorRef = ref) := rfl
  rw [conditionIn, conditionIn, timelessAncestors, find?_map, hrefs]
  cases ancestors.find? fun ancestor => ancestor.ancestorRef = ref with
  | none => rfl
  | some ancestor =>
    rw [map_some, bind_some, bind_some, find?_map]
    rfl

section

variable {L : Ledger} {ref : ParentReference} {q : BackendTLSPolicy} {v : Verdict}

theorem conditionIn_record (ref : ParentReference) (type : String)
    (f : List Condition → List Condition) (ancestors : List PolicyAncestorStatus) :
    ∃ conds, conditionIn type ref (recordAncestor ref f ancestors) =
      (f conds).find? (·.type == type) := by
  have hfind := find?_upsert (l := ancestors) (e := ⟨ref, gatewayControllerName, []⟩)
    (p := fun ancestor : PolicyAncestorStatus => ancestor.ancestorRef = ref)
    (f := fun ancestor => { ancestor with conditions := f ancestor.conditions })
    (fun _ h => h) (decide_eq_true rfl)
  rw [conditionIn, recordAncestor, hfind]
  exact ⟨_, rfl⟩

theorem find?_conditions_accepted (o : Outcome) (generation : Int) (conds : List Condition) :
    (o.conditions generation conds).find? (·.type == "Accepted") =
      some (o.accepted.condition "Accepted" generation) := by
  have hfind : (record (·.type) (o.accepted.condition "Accepted" generation) conds).find?
      (·.type == "Accepted") = some (o.accepted.condition "Accepted" generation) :=
    find?_record_of_eq rfl
  rw [Outcome.conditions]
  cases o.resolvedRefs with
  | none => exact hfind
  | some w => exact (find?_record_of_ne (by decide : "ResolvedRefs" ≠ "Accepted")).trans hfind

theorem conditionIn_accepted (h : L.accepted = some v) :
    conditionIn "Accepted" ref (L.ancestors ref q) =
      some (v.condition "Accepted" q.generation) := by
  obtain ⟨o, ho, rfl⟩ := map_eq_some_iff.1 h
  rw [Ledger.ancestors, ho]
  obtain ⟨conds, hconds⟩ := conditionIn_record ref "Accepted" (o.conditions q.generation)
    (timelessAncestors q.ancestors)
  rw [hconds, find?_conditions_accepted]

theorem conditionIn_resolvedRefs (h : L.resolvedRefs = some v) :
    conditionIn "ResolvedRefs" ref (L.ancestors ref q) =
      some (v.condition "ResolvedRefs" q.generation) := by
  obtain ⟨o, ho, hv⟩ := bind_eq_some_iff.1 h
  rw [Ledger.ancestors, ho]
  obtain ⟨conds, hconds⟩ := conditionIn_record ref "ResolvedRefs" (o.conditions q.generation)
    (timelessAncestors q.ancestors)
  rw [hconds, Outcome.conditions, hv]
  exact find?_record_of_eq rfl

end

end Reconcile
