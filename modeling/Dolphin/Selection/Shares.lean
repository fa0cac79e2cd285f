import Mathlib.Algebra.BigOperators.Group.List.Basic
import Mathlib.Algebra.Order.BigOperators.Group.List
import Mathlib.Algebra.Order.Field.Rat
import Mathlib.Tactic.Common
import Mathlib.Tactic.FieldSimp
import Mathlib.Tactic.NormNum

/-!
# Selection by weight

A choice among weighted alternatives, which are listed with their weights, possibly several
times: each one is selected with a probability, its *share*, in proportion to the sum of its
weights. When all weights are zero nothing is selected, and all shares are zero.

Two lists are in proportion (`Proportional`) when they lead to the same shares:

* `proportional_flatMap_const`: listing everything again does not change the shares;
* `proportional_nil_iff`: nothing is selected exactly when all weights are zero;
* `proportional_single_iff`: one alternative is always selected exactly when it has all the
  weight, and there is some.
-/

namespace Selection

open List

variable {κ : Type} [DecidableEq κ]

/-- The sum of all weights. -/
def total (ws : List (κ × ℕ)) : ℕ := (ws.map Prod.snd).sum

/-- The sum of the weights of an alternative. -/
def weightAt (ws : List (κ × ℕ)) (c : κ) : ℕ := total (ws.filter fun w => w.1 = c)

/-- The probability that an alternative is selected. -/
def share (ws : List (κ × ℕ)) (c : κ) : ℚ := weightAt ws c / total ws

/-- Both lists lead to the same selection. -/
def Proportional (ws ws' : List (κ × ℕ)) : Prop := ∀ c, share ws c = share ws' c

omit [DecidableEq κ] in
@[simp]
theorem total_nil : total ([] : List (κ × ℕ)) = 0 := rfl

omit [DecidableEq κ] in
@[simp]
theorem total_cons (w : κ × ℕ) (ws : List (κ × ℕ)) : total (w :: ws) = w.2 + total ws := by
  rw [total, map_cons, sum_cons, total]

omit [DecidableEq κ] in
theorem total_append (ws ws' : List (κ × ℕ)) : total (ws ++ ws') = total ws + total ws' := by
  rw [total, map_append, sum_append, total, total]

theorem weightAt_cons (w : κ × ℕ) (ws : List (κ × ℕ)) (c : κ) :
    weightAt (w :: ws) c = (if w.1 = c then w.2 else 0) + weightAt ws c := by
  by_cases h : w.1 = c
  · rw [weightAt, filter_cons_of_pos (by simpa using h), total_cons, if_pos h, weightAt]
  · rw [weightAt, filter_cons_of_neg (by simpa using h), if_neg h, zero_add, weightAt]

theorem weightAt_add_le (ws : List (κ × ℕ)) {c c' : κ} (hne : c ≠ c') :
    weightAt ws c + weightAt ws c' ≤ total ws := by
  induction ws with
  | nil => exact le_rfl
  | cons w ws ih =>
    rw [weightAt_cons, weightAt_cons, total_cons]
    by_cases h : w.1 = c
    · have h' : w.1 ≠ c' := h ▸ hne
      rw [if_pos h, if_neg h']
      omega
    · rw [if_neg h]
      split_ifs <;> omega

variable {ws : List (κ × ℕ)}

theorem exists_weightAt_pos (h : total ws ≠ 0) : ∃ c, weightAt ws c ≠ 0 := by
  induction ws with
  | nil => exact absurd rfl h
  | cons w ws ih =>
    by_cases hw : w.2 = 0
    · rw [total_cons, hw, zero_add] at h
      obtain ⟨c, hc⟩ := ih h
      refine ⟨c, ?_⟩
      rw [weightAt_cons]
      omega
    · refine ⟨w.1, ?_⟩
      rw [weightAt_cons, if_pos rfl]
      omega

omit [DecidableEq κ] in
/-- Alternatives that are listed once more for each element of a list. -/
theorem total_flatMap_const {α : Type} (xs : List α) (ws : List (κ × ℕ)) :
    total (xs.flatMap fun _ => ws) = xs.length * total ws := by
  induction xs with
  | nil => rw [flatMap_nil, length_nil, Nat.zero_mul, total_nil]
  | cons x xs ih =>
    rw [flatMap_cons, total_append, ih, length_cons, Nat.succ_mul, Nat.add_comm]

theorem proportional_flatMap_const {α : Type} {xs : List α} (hxs : xs ≠ []) (ws : List (κ × ℕ)) :
    Proportional (xs.flatMap fun _ => ws) ws := by
  intro c
  have hlength : (xs.length : ℚ) ≠ 0 := by
    simpa using hxs
  have hfilter : ((xs.flatMap fun _ => ws).filter fun w => w.1 = c) =
      xs.flatMap fun _ => ws.filter fun w => w.1 = c :=
    filter_flatMap
  rw [share, share, weightAt, hfilter, total_flatMap_const, total_flatMap_const, Nat.cast_mul,
    Nat.cast_mul, mul_div_mul_left _ _ hlength, weightAt]

theorem proportional_nil_iff : Proportional [] ws ↔ total ws = 0 := by
  have hnil (c : κ) : share ([] : List (κ × ℕ)) c = 0 := by
    rw [share, total_nil, Nat.cast_zero, div_zero]
  constructor
  · intro h
    by_contra hne
    obtain ⟨c, hc⟩ := exists_weightAt_pos hne
    rcases div_eq_zero_iff.1 ((h c).symm.trans (hnil c)) with h | h
    · exact hc (Nat.cast_eq_zero.1 h)
    · exact hne (Nat.cast_eq_zero.1 h)
  · intro h c
    rw [hnil, share, h, Nat.cast_zero, div_zero]

theorem proportional_single_iff {c₀ : κ} :
    Proportional [(c₀, 1)] ws ↔ total ws ≠ 0 ∧ weightAt ws c₀ = total ws := by
  have hsingle (c : κ) : share [(c₀, 1)] c = if c₀ = c then 1 else 0 := by
    rw [share, weightAt_cons, total_cons]
    split_ifs <;> simp [weightAt]
  constructor
  · intro h
    have hone : (1 : ℚ) = weightAt ws c₀ / total ws :=
      (if_pos rfl).symm.trans ((hsingle c₀).symm.trans (h c₀))
    have hne : (total ws : ℚ) ≠ 0 := by
      intro hzero
      rw [hzero, div_zero] at hone
      exact one_ne_zero hone
    rw [eq_div_iff hne, one_mul] at hone
    exact ⟨Nat.cast_ne_zero.1 hne, (Nat.cast_injective hone).symm⟩
  · intro h c
    obtain ⟨hne, hall⟩ := h
    have hne : (total ws : ℚ) ≠ 0 := Nat.cast_ne_zero.2 hne
    rw [hsingle]
    by_cases hc : c₀ = c
    · rw [if_pos hc, share, ← hc, hall, div_self hne]
    · have hzero : weightAt ws c = 0 := by
        have hle := weightAt_add_le ws hc
        omega
      rw [if_neg hc, share, hzero, Nat.cast_zero, zero_div]

end Selection
