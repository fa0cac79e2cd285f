import Dolphin.Reconcile.PolicyStatuses

/-!
# Stale HTTPRoutes

While a Gateway is reconciled, the HTTPRoutes are listed more than once. An HTTPRoute that occurs
in two lists with different generations was changed in between, and the run should be made again
(`DetectsStale`).

`containsCommonHTTPRoute` compares the lists pair by pair and ends at the first HTTPRoute that they
have in common. Whether that one was changed depends on the order of the lists, if the lists have
both changed and unchanged HTTPRoutes in common; otherwise it does not (`detectsStale_iff`).
-/

namespace Reconcile

open Gatewayv1 Go

/-- The same HTTPRoute, be it in different generations. -/
def SameRoute (x y : HTTPRoute) : Prop := x.gvk = y.gvk ∧ x.name = y.name ∧ x.ns = y.ns

/-- Some HTTPRoute is in both lists, with different generations. -/
def Stale (a b : List HTTPRoute) : Prop :=
  ∃ x ∈ a, ∃ y ∈ b, SameRoute x y ∧ x.generation ≠ y.generation

/-- Some HTTPRoute is in both lists, with the same generation. -/
def Fresh (a b : List HTTPRoute) : Prop :=
  ∃ x ∈ a, ∃ y ∈ b, SameRoute x y ∧ x.generation = y.generation

/-- It is an error if an HTTPRoute was changed. Otherwise the answer is whether the lists have an
    HTTPRoute in common. The order of the lists does not matter. -/
structure DetectsStale (a b : List HTTPRoute) : Prop where
  error_iff : (∃ e, containsCommonHTTPRoute a b = .error e) ↔ Stale a b
  found_iff : ∀ found, containsCommonHTTPRoute a b = .ok found →
    (found = true ↔ ∃ x ∈ a, ∃ y ∈ b, SameRoute x y)
  order : ∀ a' b' : List HTTPRoute, a'.Perm a → b'.Perm b →
    containsCommonHTTPRoute a' b' = containsCommonHTTPRoute a b

section

variable {a b : List HTTPRoute} {x y : HTTPRoute}

/-- The comparison of two HTTPRoutes. -/
abbrev compareRoutes (x y : HTTPRoute) : Except String Bool :=
  objectsEqual x.gvk y.gvk x.toObjectMeta y.toObjectMeta

theorem compareRoutes_eq_false_iff : compareRoutes x y = .ok false ↔ ¬ SameRoute x y := by
  unfold compareRoutes objectsEqual SameRoute
  split_ifs with hsame hgeneration
  · simp [hsame]
  · simp [hsame]
  · simp [hsame]

theorem compareRoutes_of_fresh (hsame : SameRoute x y) (hgen : x.generation = y.generation) :
    compareRoutes x y = .ok true :=
  (if_pos hsame).trans (if_pos hgen)

theorem compareRoutes_of_stale (hsame : SameRoute x y) (hgen : x.generation ≠ y.generation) :
    compareRoutes x y = .error "Same object, different generations, retry reconciliation" :=
  (if_pos hsame).trans (if_neg hgen)

theorem containsCommonHTTPRoute_eq_false_iff :
    containsCommonHTTPRoute a b = .ok false ↔ ∀ x ∈ a, ∀ y ∈ b, ¬ SameRoute x y := by
  rw [containsCommonHTTPRoute, anyM_eq_ok_false_iff]
  simp only [anyM_eq_ok_false_iff, compareRoutes_eq_false_iff]

/-- What the loops find is what the comparison says of some HTTPRoute in common. -/
theorem exists_containsCommonHTTPRoute_eq (h : ∃ x ∈ a, ∃ y ∈ b, SameRoute x y) :
    ∃ x ∈ a, ∃ y ∈ b, SameRoute x y ∧ containsCommonHTTPRoute a b = compareRoutes x y := by
  have hne : containsCommonHTTPRoute a b ≠ .ok false := fun hfalse => by
    obtain ⟨x, hx, y, hy, hsame⟩ := h
    exact containsCommonHTTPRoute_eq_false_iff.1 hfalse x hx y hy hsame
  obtain ⟨x, hx, houter⟩ := exists_anyM_eq hne
  -- the inner loop is the one that found it
  have hinner : b.anyM (compareRoutes x) ≠ .ok false := houter ▸ hne
  obtain ⟨y, hy, hxy⟩ := exists_anyM_eq hinner
  have hcommon : containsCommonHTTPRoute a b = compareRoutes x y := houter.trans hxy
  refine ⟨x, hx, y, hy, ?_, hcommon⟩
  by_contra hnot
  exact hne (hcommon.trans (compareRoutes_eq_false_iff.2 hnot))

/-- The comparison that comes first counts, if the HTTPRoutes are the same. -/
theorem containsCommonHTTPRoute_cons (hsame : SameRoute x y) :
    containsCommonHTTPRoute (x :: a) (y :: b) = compareRoutes x y := by
  have hne : compareRoutes x y ≠ .ok false := fun h => compareRoutes_eq_false_iff.1 h hsame
  have hinner : (y :: b).anyM (compareRoutes x) = compareRoutes x y := anyM_cons_of_ne hne
  exact (anyM_cons_of_ne (hinner ▸ hne)).trans hinner

theorem exists_perm_containsCommonHTTPRoute (hx : x ∈ a) (hy : y ∈ b) (hsame : SameRoute x y) :
    ∃ a' b' : List HTTPRoute, a'.Perm a ∧ b'.Perm b ∧
      containsCommonHTTPRoute a' b' = compareRoutes x y :=
  ⟨x :: a.erase x, y :: b.erase y, (List.perm_cons_erase hx).symm, (List.perm_cons_erase hy).symm,
    containsCommonHTTPRoute_cons hsame⟩

theorem common_iff : (∃ x ∈ a, ∃ y ∈ b, SameRoute x y) ↔ Stale a b ∨ Fresh a b := by
  constructor
  · rintro ⟨x, hx, y, hy, hsame⟩
    by_cases hgen : x.generation = y.generation
    · exact .inr ⟨x, hx, y, hy, hsame, hgen⟩
    · exact .inl ⟨x, hx, y, hy, hsame, hgen⟩
  · rintro (⟨x, hx, y, hy, hsame, _⟩ | ⟨x, hx, y, hy, hsame, _⟩)
    · exact ⟨x, hx, y, hy, hsame⟩
    · exact ⟨x, hx, y, hy, hsame⟩

open Classical in
/-- Unless the lists have both changed and unchanged HTTPRoutes in common, the answer only depends
    on which they have. -/
theorem containsCommonHTTPRoute_eq (h : ¬ (Stale a b ∧ Fresh a b)) : containsCommonHTTPRoute a b =
      if Stale a b then .error "Same object, different generations, retry reconciliation"
      else .ok (decide (Fresh a b)) := by
  by_cases hcommon : ∃ x ∈ a, ∃ y ∈ b, SameRoute x y
  · obtain ⟨x, hx, y, hy, hsame, hfound⟩ := exists_containsCommonHTTPRoute_eq hcommon
    by_cases hgen : x.generation = y.generation
    · have hfresh : Fresh a b := ⟨x, hx, y, hy, hsame, hgen⟩
      rw [hfound, compareRoutes_of_fresh hsame hgen, if_neg fun hstale => h ⟨hstale, hfresh⟩,
        decide_eq_true hfresh]
    · rw [hfound, compareRoutes_of_stale hsame hgen, if_pos ⟨x, hx, y, hy, hsame, hgen⟩]
  · obtain ⟨hstale, hfresh⟩ := not_or.1 (common_iff.not.1 hcommon)
    rw [if_neg hstale, decide_eq_false hfresh, containsCommonHTTPRoute_eq_false_iff]
    intro x hx y hy hsame
    exact hcommon ⟨x, hx, y, hy, hsame⟩

end

theorem exists_pair_perm {P : HTTPRoute → HTTPRoute → Prop} {a a' b b' : List HTTPRoute}
    (ha : a'.Perm a) (hb : b'.Perm b) : (∃ x ∈ a', ∃ y ∈ b', P x y) ↔ ∃ x ∈ a, ∃ y ∈ b, P x y := by
  simp only [ha.mem_iff, hb.mem_iff]

open Classical in
/-- Changed HTTPRoutes are detected exactly if the lists do not have both changed and unchanged ones
    in common. -/
theorem detectsStale_iff (a b : List HTTPRoute) : DetectsStale a b ↔ ¬ (Stale a b ∧ Fresh a b) := by
  constructor
  · -- one order finds the changed HTTPRoute first, another the unchanged one
    rintro hdetects ⟨⟨x, hx, y, hy, hsame, hgen⟩, ⟨x', hx', y', hy', hsame', hgen'⟩⟩
    obtain ⟨a₁, b₁, ha₁, hb₁, hstale⟩ := exists_perm_containsCommonHTTPRoute hx hy hsame
    obtain ⟨a₂, b₂, ha₂, hb₂, hfresh⟩ := exists_perm_containsCommonHTTPRoute hx' hy' hsame'
    rw [hdetects.order a₁ b₁ ha₁ hb₁, compareRoutes_of_stale hsame hgen] at hstale
    rw [hdetects.order a₂ b₂ ha₂ hb₂, compareRoutes_of_fresh hsame' hgen', hstale] at hfresh
    cases hfresh
  · intro h
    have heq := containsCommonHTTPRoute_eq h
    refine ⟨?_, fun found hfound => ?_, fun a' b' ha hb => ?_⟩
    · rw [heq]
      split_ifs with hstale
      · exact iff_of_true ⟨_, rfl⟩ hstale
      · exact iff_of_false nofun hstale
    · rw [heq] at hfound
      split_ifs at hfound with hstale
      obtain rfl := Except.ok.inj hfound
      rw [decide_eq_true_iff, common_iff, or_iff_right hstale]
    · have hstale : Stale a' b' ↔ Stale a b := exists_pair_perm ha hb
      have hfresh : Fresh a' b' ↔ Fresh a b := exists_pair_perm ha hb
      rw [heq, containsCommonHTTPRoute_eq (by rwa [hstale, hfresh])]
      simp only [hstale, hfresh]

/-! ## A changed and an unchanged HTTPRoute -/

def savedRoute : HTTPRoute where
  name := "saved"
  ns := "shop"

def editedRoute (generation : Int) : HTTPRoute where
  name := "edited"
  ns := "shop"
  generation := generation

/-- The first HTTPRoute that the lists have in common is unchanged, and the other one is not looked
    at. -/
theorem not_detectsStale_edited :
    ¬ DetectsStale [savedRoute, editedRoute 1] [savedRoute, editedRoute 2] := by
  intro h
  have hstale : Stale [savedRoute, editedRoute 1] [savedRoute, editedRoute 2] :=
    ⟨editedRoute 1, by simp, editedRoute 2, by simp, ⟨rfl, rfl, rfl⟩, by decide⟩
  obtain ⟨e, he⟩ := h.error_iff.2 hstale
  have hfound : containsCommonHTTPRoute [savedRoute, editedRoute 1] [savedRoute, editedRoute 2] =
      compareRoutes savedRoute savedRoute := containsCommonHTTPRoute_cons ⟨rfl, rfl, rfl⟩
  rw [he, compareRoutes_of_fresh ⟨rfl, rfl, rfl⟩ rfl] at hfound
  cases hfound

end Reconcile
