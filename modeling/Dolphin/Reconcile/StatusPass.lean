import Dolphin.Reconcile.StatusOwnership

/-!
# The pass over the HTTPRoutes, made again

After a pass over an HTTPRoute, its status has an entry for every parentRef for which a condition is
set, and pruning removes none. So the next pass sets the same conditions
(`httpRouteWrites_again`), and these change nothing but times (`setHTTPRouteStatus_again`).
-/

namespace Reconcile

open Gatewayv1 Go Ingestion List

variable {parents parents' : List RouteParentStatus} {generation : Int} {ws ws' : List StatusWrite}

/-- The parentRef of an entry, and who has written it. -/
def entryOwner (e : RouteParentStatus) : ParentReference × String := (e.parentRef, e.controllerName)

theorem parentRefs_of_owners (h : parents.map entryOwner = parents'.map entryOwner) :
    parents.map (·.parentRef) = parents'.map (·.parentRef) := by
  have hmap := congrArg (List.map Prod.fst) h
  rwa [map_map, map_map] at hmap

/-! ## Conditions that are set again -/

section

variable {now : Nat}

/-- The update of an entry, up to times. -/
def StatusWrite.timelessApply (generation : Int) (w : StatusWrite) (parent : RouteParentStatus) :
    RouteParentStatus :=
  { parent with
    conditions := record (·.type) (timeless (w.update 0 generation)) parent.conditions }

/-- Up to times, conditions are recorded in the entries. -/
theorem timeless_setParentConditions :
    (setParentConditions now generation ws parents).map timelessParent =
      upserts (·.parentRef) (·.ref) (fun ref => ⟨ref, gatewayControllerName, []⟩)
        (StatusWrite.timelessApply generation) ws (parents.map timelessParent) := by
  induction ws generalizing parents with
  | nil => rfl
  | cons w ws ih =>
    have hstep : (setParentCondition now generation parents w).map timelessParent =
        upsert (fun parent => parent.parentRef = w.ref) ⟨w.ref, gatewayControllerName, []⟩
          (w.timelessApply generation) (parents.map timelessParent) := by
      refine map_upsert (fun _ => rfl) fun parent => ?_
      simp only [timelessParent, StatusWrite.timelessApply, timeless_merge]
      rfl
    rw [setParentConditions, foldl_cons, ← setParentConditions, ih, hstep]
    rfl

theorem updated_timelessApply {ref : ParentReference} (e : RouteParentStatus) :
    updated (·.ref) (StatusWrite.timelessApply generation) ws ref e = { e with
        conditions := ((ws.filter fun w => w.ref = ref).map fun w =>
          timeless (w.update 0 generation)).foldl (fun conds u => record (·.type) u conds)
            e.conditions } := by
  rw [updated]
  induction ws.filter fun w => w.ref = ref generalizing e with
  | nil => rfl
  | cons w ws ih => rw [foldl_cons, ih]; rfl

/-- Setting the same conditions again changes nothing but times. -/
theorem setParentConditions_again {now' : Nat} (h : parents'.map timelessParent =
      (setParentConditions now generation ws parents).map timelessParent) :
    (setParentConditions now' generation ws parents').map timelessParent =
      (setParentConditions now generation ws parents).map timelessParent := by
  rw [timeless_setParentConditions, h, timeless_setParentConditions]
  refine upserts_upserts ?_ ?_ fun ref e => ?_
  · exact fun _ _ => rfl
  · exact fun _ => rfl
  · rw [updated_timelessApply, updated_timelessApply, foldl_record_foldl_record]

theorem owners_setParentConditions (h : ∀ w ∈ ws, w.ref ∈ parents.map (·.parentRef)) :
    (setParentConditions now generation ws parents).map entryOwner = parents.map entryOwner := by
  have hupsert (w : StatusWrite) (parents : List RouteParentStatus)
      (hw : w.ref ∈ parents.map (·.parentRef)) :
      (setParentCondition now generation parents w).map entryOwner = parents.map entryOwner := by
    rw [setParentCondition, mergeStatusConditions]
    induction parents with
    | nil => cases hw
    | cons e parents ih =>
      rw [upsert]
      split_ifs with he
      · rfl
      · have hne : w.ref ≠ e.parentRef := fun href => he (decide_eq_true href.symm)
        rw [map_cons, map_cons, ih ((mem_cons.1 hw).resolve_left hne)]
  induction ws generalizing parents with
  | nil => rfl
  | cons w ws ih =>
    have hstep := hupsert w parents (h w mem_cons_self)
    rw [setParentConditions, foldl_cons, ← setParentConditions, ih, hstep]
    intro w' hw'
    rw [parentRefs_of_owners hstep]
    exact h w' (mem_cons_of_mem w hw')

end

/-! ## The conditions that the next pass sets -/

theorem invalidate_congr {cond : Option Condition}
    (h : parents.map entryOwner = parents'.map entryOwner) :
    invalidate cond parents = invalidate cond parents' := by
  cases cond with
  | none => rfl
  | some cond =>
    have hmap := congrArg (List.map fun owner => (⟨owner.1, cond⟩ : StatusWrite)) h
    rwa [map_map, map_map] at hmap

theorem owners_of_timeless (h : parents.map timelessParent = parents'.map timelessParent) :
    parents.map entryOwner = parents'.map entryOwner := by
  have hmap := congrArg (List.map entryOwner) h
  rwa [map_map, map_map] at hmap

section

variable {api : RouteAPI} {hr : HTTPRoute} {now now' : Nat}

theorem owner_of_mem_setParentCondition {e : RouteParentStatus} {w : StatusWrite}
    (h : e ∈ setParentCondition now generation parents w) :
    (∃ e' ∈ parents, entryOwner e' = entryOwner e) ∨ w.ref = e.parentRef := by
  rw [setParentCondition, mergeStatusConditions] at h
  induction parents with
  | nil => exact .inr (by rw [mem_singleton.1 h])
  | cons a parents ih =>
    rw [upsert] at h
    split_ifs at h
    · rcases mem_cons.1 h with rfl | h
      · exact .inl ⟨a, mem_cons_self, rfl⟩
      · exact .inl ⟨e, mem_cons_of_mem a h, rfl⟩
    · rcases mem_cons.1 h with rfl | h
      · exact .inl ⟨e, mem_cons_self, rfl⟩
      · obtain ⟨e', he', howner⟩ | href := ih h
        · exact .inl ⟨e', mem_cons_of_mem a he', howner⟩
        · exact .inr href

/-- Where an entry comes from: it was there, or a condition is set for its parentRef. -/
theorem owner_of_mem_setParentConditions {e : RouteParentStatus}
    (h : e ∈ setParentConditions now generation ws parents) :
    (∃ e' ∈ parents, entryOwner e' = entryOwner e) ∨ ∃ w ∈ ws, w.ref = e.parentRef := by
  induction ws using reverseRecOn generalizing e with
  | nil => exact .inl ⟨e, h, rfl⟩
  | append_singleton ws w ih =>
    rw [setParentConditions, foldl_concat] at h
    obtain ⟨e', he', howner⟩ | href := owner_of_mem_setParentCondition h
    · obtain ⟨hreq, _⟩ := Prod.mk.inj howner
      obtain ⟨e'', he'', howner'⟩ | ⟨w', hw', href⟩ := ih he'
      · exact .inl ⟨e'', he'', howner'.trans howner⟩
      · exact .inr ⟨w', mem_append_left _ hw', href.trans hreq⟩
    · exact .inr ⟨w, by simp, href⟩

/-- The conditions `ws`, and after them one for all entries if the route is invalid. -/
def marked (now : Nat) (generation : Int) (parents : List RouteParentStatus)
    (cond : Option Condition) (ws : List StatusWrite) : List StatusWrite :=
  ws ++ invalidate cond (setParentConditions now generation ws parents)

theorem httpRouteWrites_eq : httpRouteWrites api hr =
    validateHeaderModifier hr >>= fun headerModifier =>
      pure (marked api.now hr.generation (prunedParents hr) (validateMatchRegexps api hr)
        (marked api.now hr.generation (prunedParents hr) headerModifier
          (hr.parentRefs.flatMap (runCommonRouteChecks api hr)))) := rfl

theorem owners_marked (cond : Option Condition) :
    (setParentConditions now generation (marked now generation parents cond ws) parents).map
      entryOwner = (setParentConditions now generation ws parents).map entryOwner := by
  rw [marked, setParentConditions, foldl_append]
  exact owners_setParentConditions fun w => ref_of_mem_invalidate

/-- An invalid route is marked in the same way as long as its entries are for the same parents. -/
theorem marked_again (cond : Option Condition) (h : parents'.map entryOwner =
      (setParentConditions now generation ws parents).map entryOwner) :
    marked now' generation parents' cond ws = marked now generation parents cond ws := by
  have hrefs : ∀ w ∈ ws, w.ref ∈ parents'.map (·.parentRef) := by
    intro w hw
    rw [parentRefs_of_owners h]
    exact mem_parentRefs_setParentConditions.2 (.inr ⟨w, hw, rfl⟩)
  rw [marked, marked, invalidate_congr ((owners_setParentConditions hrefs).trans h)]

theorem httpRouteWrites_again (hws : httpRouteWrites api hr = .ok ws)
    (h : parents'.map timelessParent =
      (setParentConditions api.now hr.generation ws (prunedParents hr)).map timelessParent) :
    httpRouteWrites { api with now := now' } { hr with parents := parents' } = .ok ws ∧
      prunedParents { hr with parents := parents' } = parents' := by
  rw [httpRouteWrites_eq] at hws
  obtain ⟨headerModifier, hheader, rfl⟩ := bind_pure_eq_ok.1 hws
  have howners := owners_of_timeless h
  rw [owners_marked] at howners
  have hchecks := howners.trans (owners_marked headerModifier)
  have hpruned : prunedParents { hr with parents := parents' } = parents' := by
    refine filter_eq_self.2 fun e he => ?_
    -- an entry is one that was kept before, or for a parentRef of the route
    obtain ⟨e₀, he₀, heq⟩ := mem_map.1 (hchecks ▸ mem_map_of_mem (f := entryOwner) he)
    obtain ⟨hreq, hceq⟩ := Prod.mk.inj heq
    rcases owner_of_mem_setParentConditions he₀ with ⟨e₁, he₁, heq₁⟩ | ⟨w, hw, hwref⟩
    · obtain ⟨hreq₁, hceq₁⟩ := Prod.mk.inj heq₁
      have hkept := (mem_filter.1 he₁).2
      rwa [hreq₁, hceq₁, hreq, hceq] at hkept
    · obtain ⟨ref, hmem, hw⟩ := mem_flatMap.1 hw
      rw [← ref_of_mem_runCommonRouteChecks hw, hwref, hreq] at hmem
      simp [hmem]
  refine ⟨?_, hpruned⟩
  rw [httpRouteWrites_eq, hpruned]
  refine bind_eq_ok.2 ⟨headerModifier, hheader, pure_eq_ok.2 ?_⟩
  have hfirst : marked now' hr.generation parents' headerModifier
      (hr.parentRefs.flatMap (runCommonRouteChecks api hr)) =
    marked api.now hr.generation (prunedParents hr) headerModifier
      (hr.parentRefs.flatMap (runCommonRouteChecks api hr)) := marked_again headerModifier hchecks
  show marked now' hr.generation parents' (validateMatchRegexps api hr) (marked now' hr.generation
    parents' headerModifier (hr.parentRefs.flatMap (runCommonRouteChecks api hr))) = _
  rw [hfirst]
  exact marked_again _ howners

theorem setHTTPRouteStatus_again (h : setHTTPRouteStatus api hr = .ok parents)
    (hparents : parents'.map timelessParent = parents.map timelessParent) (now' : Nat) :
    ∃ parents'', setHTTPRouteStatus { api with now := now' } { hr with parents := parents' } =
        .ok parents'' ∧ parents''.map timelessParent = parents.map timelessParent := by
  obtain ⟨ws, hws, rfl⟩ := bind_pure_eq_ok.1 h
  obtain ⟨hagain, hpruned⟩ := httpRouteWrites_again hws hparents
  refine ⟨_, bind_eq_ok.2 ⟨ws, hagain, rfl⟩, ?_⟩
  rw [hpruned]
  exact setParentConditions_again hparents

end

end Reconcile
