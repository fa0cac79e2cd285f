import Mathlib.Data.List.Dedup
import Mathlib.Data.List.Forall2
import Mathlib.Data.List.Induction
import Dolphin.Go.Strings

/-!
# Distinct elements

Functions that remove duplicates from a slice of strings, known only by what they promise
(`Slices`): one returns each distinct element once, in an order it does not tell, the
other returns them sorted. `Slices.reference` are such functions.
-/

namespace Go

open List Option

/-- Functions on slices of strings, with what they promise. -/
structure Slices where
  unique : List String → List String
  sortedUnique : List String → List String
  mem_unique : ∀ {l s}, s ∈ unique l ↔ s ∈ l
  nodup_unique : ∀ l, (unique l).Nodup
  mem_sortedUnique : ∀ {l s}, s ∈ sortedUnique l ↔ s ∈ l
  sorted_sortedUnique : ∀ l, (sortedUnique l).Pairwise (· < ·)

theorem sortStrings_strict {l : List String} (h : l.Nodup) : (sortStrings l).Pairwise (· < ·) := by
  have hnodup : (sortStrings l).Nodup := (sortStrings_perm l).nodup_iff.2 h
  exact (sortStrings_sorted l).imp₂ (fun _ _ hle hne => lt_of_le_of_ne hle hne) hnodup

/-- Removing all but the last occurrence of each element, and sorting. -/
def Slices.reference : Slices where
  unique l := l.dedup
  sortedUnique l := sortStrings l.dedup
  mem_unique := mem_dedup
  nodup_unique := nodup_dedup
  mem_sortedUnique := by simp
  sorted_sortedUnique l := sortStrings_strict (nodup_dedup l)

/-- A loop that puts elements one by one in a slice and each time removes the duplicates. -/
theorem Slices.foldl_sortedUnique {ε : Type} (slices : Slices) (val : ε → String) (es : List ε) :
    let l := es.foldl (fun l e => slices.sortedUnique (l ++ [val e])) []
    l.Pairwise (· < ·) ∧ ∀ s, s ∈ l ↔ s ∈ es.map val := by
  induction es using reverseRecOn with
  | nil => exact ⟨.nil, fun s => Iff.rfl⟩
  | append_singleton es e ih =>
    rw [foldl_concat]
    refine ⟨slices.sorted_sortedUnique _, fun s => ?_⟩
    rw [slices.mem_sortedUnique, mem_append, ih.2, map_append, mem_append]
    rfl

/-! ## Slices that correspond -/

section

variable {α β : Type} {R : α → β → Prop} {l : List α} {l' : List β} (h : List.Forall₂ R l l')

include h

theorem exists_of_forall₂_left {a : α} (ha : a ∈ l) : ∃ b ∈ l', R a b := by
  induction h with
  | nil => cases ha
  | @cons x y l l' hxy _ ih =>
    rcases mem_cons.1 ha with rfl | ha
    · exact ⟨y, mem_cons_self, hxy⟩
    · obtain ⟨b, hb, hab⟩ := ih ha
      exact ⟨b, mem_cons_of_mem y hb, hab⟩

theorem exists_of_forall₂_right {b : β} (hb : b ∈ l') : ∃ a ∈ l, R a b :=
  exists_of_forall₂_left (List.Forall₂.flip h) hb

end

/-! ## Position by position -/

/-- The elements with `p` of two lists are the same up to `g`, if they are at the same
    positions. -/
theorem map_filter_eq_of_getElem? {α β : Type} {p : α → Bool} {g : α → β} {l l' : List α}
    (h : ∀ (i : Nat) b, l'[i]? = some b → p b = true → l[i]?.map g = some (g b))
    (h' : ∀ (i : Nat) a, l[i]? = some a → ∃ b, l'[i]? = some b ∧ p b = p a) :
    (l'.filter p).map g = (l.filter p).map g := by
  induction l generalizing l' with
  | nil =>
    have hnone : l'.filter p = [] := by
      refine filter_eq_nil_iff.2 fun b hb hpb => ?_
      obtain ⟨i, hi⟩ := getElem?_of_mem hb
      cases h i b hi hpb
    rw [hnone, filter_nil]
  | cons a l ih =>
    obtain ⟨b, hb, hpb⟩ := h' 0 a rfl
    cases l' with
    | nil => cases hb
    | cons c l' =>
      obtain rfl := some_inj.1 hb
      have htail := ih (fun i b hi => h (i + 1) b hi) fun i a hi => h' (i + 1) a hi
      cases hpa : p a with
      | true =>
        rw [hpa] at hpb
        have hg : g a = g c := some_inj.1 (h 0 c rfl hpb)
        rw [filter_cons_of_pos hpa, filter_cons_of_pos hpb, map_cons, map_cons, htail, hg]
      | false =>
        rw [hpa] at hpb
        rw [filter_cons_of_neg (by simp [hpb]), filter_cons_of_neg (by simp [hpa]), htail]

end Go
