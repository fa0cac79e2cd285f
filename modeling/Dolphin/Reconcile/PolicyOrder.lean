import Dolphin.Reconcile.PolicyCalls

/-!
# The order in which policies are visited

The final status of a BackendTLSPolicy should not depend on the orders in which
`setBackendTLSPolicyStatuses` visits the maps, and a policy that is valid for some Service that
exists should be accepted (`OrderIndependent`).

But only the first update of a policy is taken, and a run that would send another one fails. A
policy that is valid for one Service and conflicted for another, both of which exist, is accepted or
not depending on which of them is visited first. `orderIndependent_iff` says for which lookups no
run fails and the orders make no difference.
-/

namespace Reconcile

open Gatewayv1 Go List
open Option (some_inj)

variable {p : BackendTLSPolicy} {c c' : Call}

/-! ## Order independence -/

section

variable (api : PolicyAPI) (ref : ParentReference) (httpRoutes : List HTTPRoute)
  (lookup : BackendTLSPolicyServiceMap)

/-- The policy is valid for some section of the Service. -/
def ValidAt (svcName : NamespacedName) (p : BackendTLSPolicy) : Prop :=
  ∃ sectionName, validFor lookup svcName sectionName = some p

/-- The policy is in conflict for the Service. -/
def ConflictedAt (svcName : NamespacedName) (p : BackendTLSPolicy) : Prop :=
  ∃ name, conflictedFor lookup svcName name = some p

/-- The Service matters for the routes of the Gateway, so that its policies are visited. -/
def Relevant (svcName : NamespacedName) : Prop :=
  (api.listHTTPRoutes >>= fun hrList => containsCommonHTTPRoute hrList httpRoutes) = .ok true ∨
    isExternalAuthBackend httpRoutes svcName = true

/-- The status says that the policy is accepted. -/
def AcceptedIn (ancestors : List PolicyAncestorStatus) : Prop :=
  ∃ cond, conditionIn "Accepted" ref ancestors = some cond ∧ cond.status = .true

/-- The statuses that the API server has in the end are the same for all orders, and a policy that is
    valid for a Service that exists and passes validation is accepted. -/
structure OrderIndependent : Prop where
  same : ∀ orders orders', ∀ p ∈ lookupPolicies lookup,
    timelessAncestors ((finalRun (setBackendTLSPolicyStatuses api ref httpRoutes orders
        lookup)).stored p).ancestors =
      timelessAncestors ((finalRun (setBackendTLSPolicyStatuses api ref httpRoutes orders'
        lookup)).stored p).ancestors
  accepted : ∀ orders p svcName, ValidAt lookup svcName p → api.getService svcName = .ok true →
    rejection api p = .ok none → AcceptedIn ref ((finalRun (setBackendTLSPolicyStatuses api ref
      httpRoutes orders lookup)).stored p).ancestors

/-- The run does not fail in any order. -/
def Completes : Prop :=
  ∀ orders, ∃ run, setBackendTLSPolicyStatuses api ref httpRoutes orders lookup = .ok run

/-- What the Services that are visited say of the policy can be said with one update, whichever of
    them comes first. -/
structure Settled (p : BackendTLSPolicy) : Prop where
  /-- It is not valid for one of them and in conflict for one of them. -/
  unanimous : ∀ svcName svcName', Relevant api httpRoutes svcName → Relevant api httpRoutes svcName' →
    ValidAt lookup svcName p → ¬ ConflictedAt lookup svcName' p
  /-- If it is valid for one that does not exist, it is valid for no other one. -/
  missing : ∀ svcName svcName', Relevant api httpRoutes svcName → Relevant api httpRoutes svcName' →
    ValidAt lookup svcName p → ValidAt lookup svcName' p → api.getService svcName = .ok false →
    svcName' = svcName
  /-- If it passes validation and is valid for a Service that exists, such a Service is visited. Or no
      Service that has the policy is, and it was accepted before. -/
  visited : rejection api p = .ok none → ∀ svcName, ValidAt lookup svcName p →
    api.getService svcName = .ok true →
    (∃ svcName', Relevant api httpRoutes svcName' ∧ api.getService svcName' = .ok true ∧
      ValidAt lookup svcName' p) ∨
    AcceptedIn ref p.ancestors ∧ ∀ svcName', Relevant api httpRoutes svcName' →
      ¬ ValidAt lookup svcName' p ∧ ¬ ConflictedAt lookup svcName' p

/-- A call says what the lookup and the API server have of its Service. -/
structure Reads (p : BackendTLSPolicy) (c : Call) : Prop where
  relevant : Relevant api httpRoutes c.svcName
  exist : ∀ {b}, c.exist = b ↔ api.getService c.svcName = .ok b
  won : c.won = true ↔ ValidAt lookup c.svcName p
  lost : c.lost = true ↔ ConflictedAt lookup c.svcName p

end

/-! ## Calls that agree -/

section Calls

variable {ref : ParentReference} {r : Option Rejection} {cs : List Call} {L L' T : Ledger}

theorem advance_of_initial (h : L.ancestors ref p = timelessAncestors p.ancestors) :
    L.advance ref p L' = some L' := if_pos (.inr h)

theorem call_of_idle (h : c.won = false ∧ c.lost = false) : L.call ref p r c = some L := by
  rw [Ledger.call, h.1, h.2]
  rfl

theorem call_of_won (hwon : c.won = true) (hlost : c.lost = false) : L.call ref p r c =
    L.advance ref p (if c.exist then L.visitValid r else L.visitMissingValid c.svcName) := by
  rw [Ledger.call, hwon, hlost]
  exact bind_pure _

theorem call_of_lost (hwon : c.won = false) (hlost : c.lost = true) (hL : L.confirmed = false) :
    L.call ref p r c = L.advance ref p L.visitConflicted := by
  have hvisit : (if c.exist then L.visitConflicted else L.visitMissingConflicted) =
      L.visitConflicted := by
    cases c.exist <;> simp [Ledger.visitMissingConflicted, hL]
  rw [← hvisit, Ledger.call, hwon, hlost]
  rfl

theorem foldlM_idle (h : ∀ c ∈ cs, c.won = false ∧ c.lost = false) (L : Ledger) :
    cs.foldlM (Ledger.call ref p r) L = some L := by
  induction cs with
  | nil => rfl
  | cons c cs ih =>
    rw [foldlM_cons, call_of_idle (h c mem_cons_self)]
    exact ih fun d hd => h d (mem_cons_of_mem c hd)

/-- If all calls that say anything say the same, the first of them leaves what all leave. -/
theorem foldlM_agree (h : ∀ c ∈ cs, c.won = false ∧ c.lost = false ∨
      ({} : Ledger).call ref p r c = some T ∧ T.call ref p r c = some T)
    (hc : ∃ c ∈ cs, ¬ (c.won = false ∧ c.lost = false)) :
    cs.foldlM (Ledger.call ref p r) {} = some T := by
  have hT {cs : List Call} (h : ∀ c ∈ cs, T.call ref p r c = some T) :
      cs.foldlM (Ledger.call ref p r) T = some T := by
    induction cs with
    | nil => rfl
    | cons c cs ih =>
      rw [foldlM_cons, h c mem_cons_self]
      exact ih fun d hd => h d (mem_cons_of_mem c hd)
  induction cs with
  | nil =>
    obtain ⟨c, hc, _⟩ := hc
    cases hc
  | cons c cs ih =>
    rw [foldlM_cons]
    rcases h c mem_cons_self with hidle | ⟨hfirst, _⟩
    · obtain ⟨d, hd, hnot⟩ := hc
      rw [call_of_idle hidle]
      exact ih (fun d hd => h d (mem_cons_of_mem c hd))
        ⟨d, mem_of_ne_of_mem (fun heq => hnot (heq ▸ hidle)) hd, hnot⟩
    · rw [hfirst]
      refine hT fun d hd => ?_
      rcases h d (mem_cons_of_mem c hd) with hidle | ⟨_, hsame⟩
      · exact call_of_idle hidle
      · exact hsame

end Calls

/-! ## The calls of a lookup -/

section Lookup

variable {api : PolicyAPI} {ref : ParentReference} {httpRoutes : List HTTPRoute}
  {lookup : BackendTLSPolicyServiceMap}

/-- The answers of an API server that responds. -/
def PolicyAPI.Responds.answers (hresponds : api.Responds) {common : Bool}
    (hcommon : (api.listHTTPRoutes >>= fun hrList => containsCommonHTTPRoute hrList httpRoutes) =
      .ok common) : PolicyAnswers api httpRoutes where
  common := common
  exist svcName := (api.getService svcName).toOption.getD false
  rejected btlsp := (rejection api btlsp).toOption.getD none
  common_eq := hcommon
  exist_eq svcName := by
    obtain ⟨exist, hexist⟩ := hresponds.services svcName
    rw [hexist]
    rfl
  rejected_eq btlsp := by
    obtain ⟨r, hr⟩ := rejection_eq_ok hresponds btlsp
    rw [hr]
    rfl

section

variable (ans : PolicyAnswers api httpRoutes) {svcName : NamespacedName}
  {b : BackendTLSPolicyTargetServiceCollection}

theorem visits_iff : ans.visits svcName = true ↔ Relevant api httpRoutes svcName := by
  rw [PolicyAnswers.visits, Bool.or_eq_true, Relevant, ans.common_eq, Except.ok.injEq]

theorem exist_iff {b : Bool} : ans.exist svcName = b ↔ api.getService svcName = .ok b := by
  rw [ans.exist_eq, Except.ok.injEq]

theorem rejected_eq_none_iff : ans.rejected p = none ↔ rejection api p = .ok none := by
  rw [ans.rejected_eq, Except.ok.injEq]

theorem mem_validPolicies :
    p ∈ validPolicies b ↔ ∃ sectionName, b.valid.get? sectionName = some p := by
  simp only [validPolicies, mem_map, Prod.exists, exists_eq_right, Map.mem_toPairs]

theorem mem_conflictedPolicies :
    p ∈ conflictedPolicies b ↔ ∃ name, b.conflicted.get? name = some p := by
  simp only [conflictedPolicies, mem_map, Prod.exists, exists_eq_right, Map.mem_toPairs]

theorem reads_of_mem (hc : c ∈ ans.calls lookup.toPairs p) : Reads api httpRoutes lookup p c := by
  obtain ⟨e, he, rfl⟩ := mem_map.1 hc
  obtain ⟨he, hvisits⟩ := mem_filter.1 he
  have hget := Map.mem_toPairs.1 he
  refine ⟨(visits_iff ans).1 hvisits, exist_iff ans, ?_, ?_⟩
  · simp only [PolicyAnswers.callOf, decide_eq_true_eq, mem_validPolicies, ValidAt, validFor, hget,
      Option.bind_some]
  · simp only [PolicyAnswers.callOf, decide_eq_true_eq, mem_conflictedPolicies, ConflictedAt,
      conflictedFor, hget, Option.bind_some]

theorem exists_call (hrelevant : Relevant api httpRoutes svcName)
    (h : ValidAt lookup svcName p ∨ ConflictedAt lookup svcName p) :
    ∃ c ∈ ans.calls lookup.toPairs p, c.svcName = svcName := by
  obtain ⟨b, hb⟩ : ∃ b, lookup.get? svcName = some b := by
    rcases h with ⟨_, h⟩ | ⟨_, h⟩ <;> exact (Option.bind_eq_some_iff.1 h).imp fun _ h => h.1
  have hmem := Map.mem_toPairs.2 hb
  exact ⟨_, mem_map_of_mem (mem_filter.2 ⟨hmem, (visits_iff ans).2 hrelevant⟩), rfl⟩

end

theorem acceptedIn_timeless {ancestors : List PolicyAncestorStatus} :
    AcceptedIn ref (timelessAncestors ancestors) ↔ AcceptedIn ref ancestors := by
  simp only [AcceptedIn, conditionIn_timeless, Option.map_eq_some_iff]
  constructor
  · rintro ⟨_, ⟨cond, hcond, rfl⟩, hstatus⟩
    exact ⟨cond, hcond, hstatus⟩
  · rintro ⟨cond, hcond, hstatus⟩
    exact ⟨_, ⟨cond, hcond, rfl⟩, hstatus⟩

section

variable (ans : PolicyAnswers api httpRoutes)

variable (ref lookup p) in
/-- The calls of a policy leave this ledger in all orders. -/
def PolicyAnswers.CallsLeave (L : Ledger) : Prop :=
  ∀ cs : List Call, cs.Perm (ans.calls lookup.toPairs p) →
    cs.foldlM (Ledger.call ref p (ans.rejected p)) {} = some L

theorem callsLeave_of_idle
    (h : ∀ c ∈ ans.calls lookup.toPairs p, c.won = false ∧ c.lost = false) :
    ans.CallsLeave p ref lookup {} :=
  fun _ hperm => foldlM_idle (fun c hc => h c (hperm.mem_iff.1 hc)) {}

theorem callsLeave_of_agree {T : Ledger}
    (h : ∀ c ∈ ans.calls lookup.toPairs p, c.won = false ∧ c.lost = false ∨
      ({} : Ledger).call ref p (ans.rejected p) c = some T ∧
        T.call ref p (ans.rejected p) c = some T)
    (hc : c ∈ ans.calls lookup.toPairs p) (hnot : ¬ (c.won = false ∧ c.lost = false)) :
    ans.CallsLeave p ref lookup T := fun _ hperm =>
  foldlM_agree (fun d hd => h d (hperm.mem_iff.1 hd)) ⟨c, hperm.mem_iff.2 hc, hnot⟩

section

variable (h : Settled api ref httpRoutes lookup p) (hc : c ∈ ans.calls lookup.toPairs p)

include h hc

theorem lost_eq_false_of_won (hwon : c.won = true) (hc' : c' ∈ ans.calls lookup.toPairs p) :
    c'.lost = false := by
  have hreads := reads_of_mem ans hc
  have hreads' := reads_of_mem ans hc'
  exact Bool.eq_false_iff.2 fun hlost => h.unanimous c.svcName c'.svcName hreads.relevant
    hreads'.relevant (hreads.won.1 hwon) (hreads'.lost.1 hlost)

theorem svcName_eq_of_missing (hwon : c.won = true) (hc' : c' ∈ ans.calls lookup.toPairs p)
    (hwon' : c'.won = true) (hexist : c.exist = false) : c'.svcName = c.svcName := by
  have hreads := reads_of_mem ans hc
  have hreads' := reads_of_mem ans hc'
  exact h.missing c.svcName c'.svcName hreads.relevant hreads'.relevant (hreads.won.1 hwon)
    (hreads'.won.1 hwon') (hreads.exist.1 hexist)

/-- The policy is valid wherever it is visited. -/
theorem callsLeave_of_won (hwon : c.won = true) : ans.CallsLeave p ref lookup
    (if c.exist then ({} : Ledger).visitValid (ans.rejected p)
      else ({} : Ledger).visitMissingValid c.svcName) := by
  refine callsLeave_of_agree ans (fun d hd => ?_) hc fun hidle => by simp [hwon] at hidle
  have hlost := lost_eq_false_of_won ans h hc hwon hd
  cases hdwon : d.won with
  | false => exact .inl ⟨rfl, hlost⟩
  | true =>
    have hvisit (L : Ledger) : L.call ref p (ans.rejected p) d = L.advance ref p
        (if c.exist then L.visitValid (ans.rejected p) else L.visitMissingValid c.svcName) := by
      rw [call_of_won hdwon hlost]
      cases hexist : c.exist with
      | false =>
        have hname := svcName_eq_of_missing ans h hc hwon hd hdwon hexist
        have hdexist : d.exist = false := (reads_of_mem ans hd).exist.2
          (hname ▸ (reads_of_mem ans hc).exist.1 hexist)
        rw [hdexist, hname]
      | true =>
        have hdexist : d.exist = true := Bool.of_not_eq_false fun hdexist => by
          have hname := svcName_eq_of_missing ans h hd hdwon hc hwon hdexist
          have hcexist : c.exist = false := (reads_of_mem ans hc).exist.2
            (hname ▸ (reads_of_mem ans hd).exist.1 hdexist)
          rw [hexist] at hcexist
          cases hcexist
        rw [hdexist]
        rfl
    right
    rw [hvisit, hvisit]
    refine ⟨advance_of_initial rfl, ?_⟩
    cases c.exist with
    | true =>
      simp only [if_true, visitValid_visitValid]
      exact advance_self _
    | false =>
      simp only [Bool.false_eq_true, if_false, visitMissingValid_visitMissingValid]
      exact advance_self _

/-- The policy is in conflict wherever it is visited. -/
theorem callsLeave_of_lost (hlost : c.lost = true) :
    ans.CallsLeave p ref lookup ({} : Ledger).visitConflicted := by
  refine callsLeave_of_agree ans (fun d hd => ?_) hc fun hidle => by simp [hlost] at hidle
  have hwon : d.won = false := Bool.eq_false_iff.2 fun hwon => by
    rw [lost_eq_false_of_won ans h hd hwon hc] at hlost
    cases hlost
  cases hdlost : d.lost with
  | false => exact .inl ⟨hwon, rfl⟩
  | true =>
    right
    rw [call_of_lost hwon hdlost rfl, call_of_lost hwon hdlost rfl]
    exact ⟨advance_of_initial rfl, advance_self _⟩

end

theorem exists_callsLeave (h : Settled api ref httpRoutes lookup p) :
    ∃ L, ans.CallsLeave p ref lookup L := by
  by_cases hwon : ∃ c ∈ ans.calls lookup.toPairs p, c.won = true
  · obtain ⟨c, hc, hwon⟩ := hwon
    exact ⟨_, callsLeave_of_won ans h hc hwon⟩
  · by_cases hlost : ∃ c ∈ ans.calls lookup.toPairs p, c.lost = true
    · obtain ⟨c, hc, hlost⟩ := hlost
      exact ⟨_, callsLeave_of_lost ans h hc hlost⟩
    · refine ⟨{}, callsLeave_of_idle ans fun c hc => ⟨?_, ?_⟩⟩
      · exact Bool.eq_false_iff.2 fun hcwon => hwon ⟨c, hc, hcwon⟩
      · exact Bool.eq_false_iff.2 fun hclost => hlost ⟨c, hc, hclost⟩

/-- A policy that should be accepted is. -/
theorem acceptedIn_of_callsLeave (h : Settled api ref httpRoutes lookup p) {L : Ledger}
    (hL : ans.CallsLeave p ref lookup L) {svcName : NamespacedName}
    (hvalid : ValidAt lookup svcName p) (hexist : api.getService svcName = .ok true)
    (hrejection : rejection api p = .ok none) : AcceptedIn ref (L.ancestors ref p) := by
  have huniq {M : Ledger} (hM : ans.CallsLeave p ref lookup M) : L = M :=
    some_inj.1 ((hL _ (.refl _)).symm.trans (hM _ (.refl _)))
  rcases h.visited hrejection svcName hvalid hexist with
    ⟨svcName', hrelevant, hexist', hvalid'⟩ | ⟨haccepted, hnone⟩
  · obtain ⟨c, hc, rfl⟩ := exists_call ans hrelevant (.inl hvalid')
    have hreads := reads_of_mem ans hc
    have hleft := huniq (callsLeave_of_won ans h hc (hreads.won.2 hvalid'))
    rw [hreads.exist.2 hexist', (rejected_eq_none_iff ans).2 hrejection] at hleft
    subst hleft
    exact ⟨_, conditionIn_accepted rfl, rfl⟩
  · obtain rfl := huniq (callsLeave_of_idle ans fun c hc => by
      have hreads := reads_of_mem ans hc
      obtain ⟨hwon, hlost⟩ := hnone c.svcName hreads.relevant
      exact ⟨Bool.eq_false_iff.2 fun hcwon => hwon (hreads.won.1 hcwon),
        Bool.eq_false_iff.2 fun hclost => hlost (hreads.lost.1 hclost)⟩)
    exact acceptedIn_timeless.2 haccepted

end

/-! ## Runs -/

theorem mem_lookupPolicies_of_validAt {svcName : NamespacedName} (h : ValidAt lookup svcName p) :
    p ∈ lookupPolicies lookup := by
  obtain ⟨sectionName, h⟩ := h
  obtain ⟨b, hb, hvalid⟩ := Option.bind_eq_some_iff.1 h
  exact ⟨(svcName, b), Map.mem_toPairs.2 hb, .inl (mem_validPolicies.2 ⟨sectionName, hvalid⟩)⟩

/-- A run leaves of a settled policy what its calls leave. -/
theorem exists_run_of_settled (ans : PolicyAnswers api httpRoutes) (hresponds : api.Responds)
    (hkeys : Set.InjOn objectKey (lookupPolicies lookup))
    (h : ∀ p ∈ lookupPolicies lookup, Settled api ref httpRoutes lookup p) (orders : PolicyOrders) :
    ∃ run, setBackendTLSPolicyStatuses api ref httpRoutes orders lookup = .ok run ∧
      ∀ p ∈ lookupPolicies lookup, ∀ L, ans.CallsLeave p ref lookup L →
        timelessAncestors (run.stored p).ancestors = L.ancestors ref p := by
  have hparts : ByParts (Records ref) (lookupPolicies lookup)
      (setBackendTLSPolicyStatuses api ref httpRoutes orders lookup)
      (ans.ledger ref (orders.services.visit lookup.toPairs)) := byParts_run hresponds hkeys rfl
  have hledger {p : BackendTLSPolicy} {L : Ledger} (hL : ans.CallsLeave p ref lookup L) :
      ans.ledger ref (orders.services.visit lookup.toPairs) p = some L :=
    hL _ (((orders.services.perm _).filter _).map _)
  cases hrun : setBackendTLSPolicyStatuses api ref httpRoutes orders lookup with
  | error failure =>
    rw [hrun] at hparts
    obtain ⟨p, hp, hnone⟩ := hparts
    obtain ⟨L, hL⟩ := exists_callsLeave ans (h p hp)
    rw [hledger hL] at hnone
    cases hnone
  | ok run =>
    rw [hrun] at hparts
    refine ⟨run, rfl, fun p hp L hL => ?_⟩
    obtain ⟨M, hM, hrecords⟩ := hparts p hp
    obtain rfl := some_inj.1 ((hledger hL).symm.trans hM)
    exact hrecords.stored

/-- If the lists of routes can be compared and every policy is settled, no run fails, and the orders
    make no difference. -/
theorem orderIndependent_of_settled (hresponds : api.Responds)
    (hkeys : Set.InjOn objectKey (lookupPolicies lookup)) {common : Bool}
    (hcommon : (api.listHTTPRoutes >>= fun hrList => containsCommonHTTPRoute hrList httpRoutes) =
      .ok common)
    (h : ∀ p ∈ lookupPolicies lookup, Settled api ref httpRoutes lookup p) :
    Completes api ref httpRoutes lookup ∧ OrderIndependent api ref httpRoutes lookup := by
  let ans := hresponds.answers hcommon
  have hrun := exists_run_of_settled ans hresponds hkeys h
  refine ⟨fun orders => (hrun orders).imp fun _ h => h.1, fun orders orders' p hp => ?_,
    fun orders p svcName hvalid hexist hrejection => ?_⟩
  · obtain ⟨L, hL⟩ := exists_callsLeave ans (h p hp)
    obtain ⟨run, hok, hstored⟩ := hrun orders
    obtain ⟨run', hok', hstored'⟩ := hrun orders'
    rw [hok, hok', finalRun, finalRun, hstored p hp L hL, hstored' p hp L hL]
  · have hp := mem_lookupPolicies_of_validAt hvalid
    obtain ⟨L, hL⟩ := exists_callsLeave ans (h p hp)
    obtain ⟨run, hok, hstored⟩ := hrun orders
    rw [hok, finalRun, ← acceptedIn_timeless, hstored p hp L hL]
    exact acceptedIn_of_callsLeave ans (h p hp) hL hvalid hexist hrejection

end Lookup

theorem mem_of_lookupPolicies {l : List BackendTLSPolicy} (hnodup : (l.map objectKey).Nodup)
    (hp : p ∈ lookupPolicies (buildBackendTLSPolicyLookup l)) : p ∈ l := by
  obtain ⟨⟨svcName, b⟩, he, hp⟩ := hp
  have hb := Map.mem_toPairs.1 he
  have hentry {s : String} (h : (s, p) ∈ entriesFor l svcName) : p ∈ l := (mem_entriesFor.1 h).1
  rcases hp with hp | hp
  · obtain ⟨s, hs⟩ := mem_validPolicies.1 hp
    have hvalid : validFor (buildBackendTLSPolicyLookup l) svcName s = some p := by
      rw [validFor, hb]
      exact hs
    exact hentry ((validFor_eq_some_iff hnodup).1 hvalid).1
  · obtain ⟨name, hname⟩ := mem_conflictedPolicies.1 hp
    have hconflicted : conflictedFor (buildBackendTLSPolicyLookup l) svcName name = some p := by
      rw [conflictedFor, hb]
      exact hname
    obtain ⟨_, s, hs, _⟩ := (conflictedFor_eq_some_iff hnodup).1 hconflicted
    exact hentry hs

theorem injOn_lookupPolicies {l : List BackendTLSPolicy} (hnodup : (l.map objectKey).Nodup) :
    Set.InjOn objectKey (lookupPolicies (buildBackendTLSPolicyLookup l)) := by
  intro p hp q hq hkey
  exact inj_on_of_nodup_map hnodup (mem_of_lookupPolicies hnodup hp)
    (mem_of_lookupPolicies hnodup hq) hkey

/-! ## Samples -/

/-- A cluster in which all Services exist, or none, and no ConfigMap, and which takes updates of the
    resourceVersion that it has. -/
def uniformAPI (hrList : List HTTPRoute) (exist : Bool) : PolicyAPI where
  listHTTPRoutes := .ok hrList
  getService _ := .ok exist
  getConfigMap _ := .ok none
  isValidPemFormat _ := true
  updateStatus version btlsp :=
    if btlsp.resourceVersion = version then .ok (version ++ "+")
    else .error "the object has been modified"
  now := 0

theorem responds_uniformAPI (hrList : List HTTPRoute) (exist : Bool) :
    (uniformAPI hrList exist).Responds where
  services _ := ⟨exist, rfl⟩
  configMaps _ := ⟨none, rfl⟩
  taken btlsp := ⟨_, if_pos rfl, fun h => by
    have hlength := congrArg String.length h
    simp at hlength⟩
  refused _ _ h := ⟨_, if_neg h⟩

def checkoutRoute : HTTPRoute := { name := "checkout", ns := "shop" }

def checkoutAPI : PolicyAPI := uniformAPI [checkoutRoute] true

/-- A policy for two Services, and an older one for one of them. -/
def widePolicy : BackendTLSPolicy :=
  { name := "wide", ns := "shop", creationTimestamp := 20
    targetRefs := [⟨"", "Service", "cart", none⟩, ⟨"", "Service", "checkout", none⟩] }

def narrowPolicy : BackendTLSPolicy :=
  { name := "narrow", ns := "shop", creationTimestamp := 10
    targetRefs := [⟨"", "Service", "checkout", none⟩] }

def checkoutGatewayRef : ParentReference := currentGatewayRef ⟨"shop", "edge"⟩

theorem settled_widePolicy : Settled checkoutAPI checkoutGatewayRef [checkoutRoute]
    (buildBackendTLSPolicyLookup [widePolicy]) widePolicy := by
  refine ⟨fun _ _ _ _ _ hconflicted => ?_, fun _ _ _ _ _ _ hexist => (by cases hexist), ?_⟩
  · -- there is no other policy that it could lose to
    obtain ⟨name, hname⟩ := hconflicted
    obtain ⟨_, s, _, q, hq, hlt⟩ := (conflictedFor_eq_some_iff (by decide)).1 hname
    obtain rfl := mem_singleton.1 (mem_entriesFor.1 hq).1
    exact lt_irrefl _ hlt
  · intro _ svcName hvalid _
    exact .inl ⟨svcName, .inl (by decide +kernel), rfl, hvalid⟩

theorem orderIndependent_widePolicy :
    Completes checkoutAPI checkoutGatewayRef [checkoutRoute]
        (buildBackendTLSPolicyLookup [widePolicy]) ∧
      OrderIndependent checkoutAPI checkoutGatewayRef [checkoutRoute]
        (buildBackendTLSPolicyLookup [widePolicy]) := by
  have hcommon : (checkoutAPI.listHTTPRoutes >>= fun hrList =>
      containsCommonHTTPRoute hrList [checkoutRoute]) = .ok true := by decide +kernel
  refine orderIndependent_of_settled (responds_uniformAPI _ _) (injOn_lookupPolicies (by decide)) hcommon
    fun p hp => ?_
  obtain rfl := mem_singleton.1 (mem_of_lookupPolicies (by decide) hp)
  exact settled_widePolicy

/-- The policy that is valid for one Service and conflicted for another, both of which exist,
    is not accepted if the latter is visited first. -/
theorem not_orderIndependent_wide_narrow :
    ¬ OrderIndependent checkoutAPI checkoutGatewayRef [checkoutRoute]
      (buildBackendTLSPolicyLookup [widePolicy, narrowPolicy]) := by
  intro h
  let orders : PolicyOrders :=
    ⟨.last fun e => e.1 = ⟨"shop", "cart"⟩, fun _ => .entries, fun _ => .entries⟩
  have hconflicted : (conditionIn "Accepted" checkoutGatewayRef ((finalRun
      (setBackendTLSPolicyStatuses checkoutAPI checkoutGatewayRef [checkoutRoute] orders
        (buildBackendTLSPolicyLookup [widePolicy, narrowPolicy]))).stored widePolicy).ancestors).map
      (fun cond => (cond.status, cond.reason)) = some (.false, "Conflicted") := by
    decide +kernel
  obtain ⟨cond, hcond, hstatus⟩ := h.accepted orders widePolicy ⟨"shop", "cart"⟩
    ⟨"", by decide +kernel⟩ rfl rfl
  rw [hcond, Option.map_some, hstatus] at hconflicted
  cases hconflicted

end Reconcile
