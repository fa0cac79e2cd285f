import Dolphin.Reconcile.Listeners

/-!
# The status of a route

The status of a route has an entry for each of its parents, with the conditions of the route
for this parent. `setParentCondition` sets a condition in the *first* entry for the parentRef,
whoever has written it, and appends an entry if there is none.

The checks of a route do not read its status. What they do to it is the sequence of the
conditions that they set (`StatusWrite`), of which the last one of each type counts
(`statusOf_setParentConditions`).
-/

namespace Reconcile

open Gatewayv1 Go List Option

/-- A call of `SetParentCondition`. -/
structure StatusWrite where
  ref : ParentReference
  condition : Condition
  deriving DecidableEq, Repr

/-- The calls of `SetAllParentCondition`, for a route with the given parentRefs. -/
def setAllParentCondition (parentRefs : List ParentReference) (condition : Condition) :
    List StatusWrite :=
  parentRefs.map fun ref => ⟨ref, condition⟩

/-- `mergeStatusConditions`, with one condition. -/
def mergeStatusConditions (parentRef : ParentReference) (update : Condition)
    (parents : List RouteParentStatus) : List RouteParentStatus :=
  upsert (fun parent => parent.parentRef = parentRef) ⟨parentRef, gatewayControllerName, []⟩
    (fun parent => { parent with conditions := merge parent.conditions [update] }) parents

/-- The condition with what `SetParentCondition` fills in, for a route of the generation. -/
def StatusWrite.update (now : Nat) (generation : Int) (w : StatusWrite) : Condition :=
  { w.condition with lastTransitionTime := now, observedGeneration := generation }

def setParentCondition (now : Nat) (generation : Int) (parents : List RouteParentStatus)
    (w : StatusWrite) : List RouteParentStatus :=
  mergeStatusConditions w.ref (w.update now generation) parents

def setParentConditions (now : Nat) (generation : Int) (ws : List StatusWrite)
    (parents : List RouteParentStatus) : List RouteParentStatus :=
  ws.foldl (setParentCondition now generation) parents

/-- What the status says for the parentRef about the condition of a type. -/
def statusOf (type : String) (ref : ParentReference) (parents : List RouteParentStatus) :
    Option ConditionStatus :=
  ((parents.find? fun parent => parent.parentRef = ref).bind fun parent =>
    parent.conditions.find? (·.type == type)).map (·.status)

/-- The last condition of a type that is set for the parentRef. -/
def lastSet (type : String) (ref : ParentReference) (ws : List StatusWrite) : Option Condition :=
  (ws.reverse.find? fun w => w.ref = ref && w.condition.type == type).map (·.condition)

section

variable {now : Nat} {generation : Int} {ref r : ParentReference} {type : String}
  {parents : List RouteParentStatus} {w : StatusWrite} {ws ws' : List StatusWrite}

/-! ## What is set -/

theorem lastSet_append : lastSet type r (ws ++ ws') = (lastSet type r ws').or (lastSet type r ws) := by
  rw [lastSet, reverse_append, find?_append, map_or]
  rfl

theorem lastSet_eq_none (h : ∀ w ∈ ws, w.ref = r → w.condition.type ≠ type) :
    lastSet type r ws = none := by
  rw [lastSet, map_eq_none_iff, find?_eq_none]
  intro w hw
  simpa using h w (mem_reverse.1 hw)

theorem lastSet_singleton :
    lastSet type r [w] = if w.ref = r ∧ w.condition.type = type then some w.condition else none := by
  by_cases h : w.ref = r ∧ w.condition.type = type
  · rw [if_pos h, lastSet, reverse_singleton, find?_cons_of_pos (by simpa using h)]
    rfl
  · rw [if_neg h]
    refine lastSet_eq_none fun w' hw' href htype => h ?_
    rw [← mem_singleton.1 hw']
    exact ⟨href, htype⟩

theorem exists_write_iff : (∃ w ∈ ws, w.ref = r) ↔ ∃ type cond, lastSet type r ws = some cond := by
  constructor
  · rintro ⟨w, hw, href⟩
    refine ⟨w.condition.type, ne_none_iff_exists'.1 fun hnone => ?_⟩
    rw [lastSet, map_eq_none_iff, find?_eq_none] at hnone
    exact hnone w (mem_reverse.2 hw) (by simp [href])
  · rintro ⟨type, cond, hlast⟩
    obtain ⟨w, hw, _⟩ := map_eq_some_iff.1 hlast
    have hfound := find?_some hw
    simp only [Bool.and_eq_true, decide_eq_true_eq] at hfound
    exact ⟨w, mem_reverse.1 (mem_of_find?_eq_some hw), hfound.1⟩

/-! ## What the status says -/

theorem find_setParentCondition :
    (setParentCondition now generation parents w).find? (fun parent => parent.parentRef = w.ref) =
      some
        { (parents.find? fun parent => parent.parentRef = w.ref).getD
            ⟨w.ref, gatewayControllerName, []⟩ with
          conditions := merge
            ((parents.find? fun parent => parent.parentRef = w.ref).getD
              ⟨w.ref, gatewayControllerName, []⟩).conditions [w.update now generation] } :=
  find?_upsert (fun _ h => h) (decide_eq_true rfl)

theorem find_setParentCondition_of_ne (h : w.ref ≠ r) :
    (setParentCondition now generation parents w).find? (fun parent => parent.parentRef = r) =
      parents.find? fun parent => parent.parentRef = r := by
  have hother (parent : RouteParentStatus) (hparent : decide (parent.parentRef = w.ref) = true) :
      decide (parent.parentRef = r) = false :=
    decide_eq_false fun hr => h ((of_decide_eq_true hparent).symm.trans hr)
  exact find?_upsert_of_not (fun parent hparent => ⟨hother parent hparent, hother parent hparent⟩)
    (decide_eq_false h)

theorem statusOf_setParentCondition :
    statusOf type r (setParentCondition now generation parents w) =
      ((lastSet type r [w]).map (·.status)).or (statusOf type r parents) := by
  rw [lastSet_singleton]
  by_cases href : w.ref = r
  · subst href
    rw [statusOf, find_setParentCondition, bind_some]
    by_cases htype : w.condition.type = type
    · rw [if_pos ⟨rfl, htype⟩]
      subst htype
      obtain ⟨cond', hfind, hsame⟩ := recorded_merge
        ((parents.find? fun parent => parent.parentRef = w.ref).getD
          ⟨w.ref, gatewayControllerName, []⟩).conditions (w.update now generation)
      simp only [conditionChanged, Bool.or_eq_false_iff, bne_eq_false_iff_eq] at hsame
      have hfind' : (merge _ [w.update now generation]).find? (·.type == w.condition.type) =
        some cond' := hfind
      rw [hfind', map_some, hsame.1.1.1]
      rfl
    · have htype' : (w.update now generation).type ≠ type := htype
      rw [if_neg fun h => htype h.2, statusOf, find_merge_of_ne htype']
      cases parents.find? fun parent => parent.parentRef = w.ref <;> rfl
  · rw [if_neg fun h => href h.1, statusOf, statusOf, find_setParentCondition_of_ne href]
    rfl

theorem statusOf_setParentConditions :
    statusOf type r (setParentConditions now generation ws parents) =
      ((lastSet type r ws).map (·.status)).or (statusOf type r parents) := by
  rw [setParentConditions]
  induction ws using reverseRecOn with
  | nil => rfl
  | append_singleton ws w ih =>
    rw [foldl_concat, statusOf_setParentCondition, ih, lastSet_append, map_or, Option.or_assoc]

end

end Reconcile
