import Mathlib.Data.Set.Basic
import Mathlib.Tactic.Common

/-!
# Conflicts that are resolved by precedence

The items of a set have ranks, and some are in conflict. An item is *blocked* by an item of a lower
rank that it is in conflict with, unless that one is rejected itself. What is rejected by
precedence are the items that are blocked, and those of the others that are in conflict with
another of their rank that is not blocked either (`Resolves`).

* `Resolves.compatible`: the items that are not rejected are not in conflict;
* `Resolves.unique`: although the rule refers to what is rejected, it determines it, rank by rank.
-/

namespace Selection

section

variable {α : Type} (rank : α → ℕ) (conflict : α → α → Prop) (s : Set α) (rejected : α → Prop)

/-- The item is in conflict with one of a lower rank that is not rejected. -/
def Blocked (a : α) : Prop := ∃ e ∈ s, rank e < rank a ∧ ¬ rejected e ∧ conflict e a

/-- The item is in conflict with another of its rank, and neither is blocked. -/
def Contested (a : α) : Prop :=
  ∃ o ∈ s, rank o = rank a ∧ o ≠ a ∧ conflict o a ∧
    ¬ Blocked rank conflict s rejected o ∧ ¬ Blocked rank conflict s rejected a

/-- What is rejected is what is blocked or contested. -/
def Resolves : Prop :=
  ∀ a ∈ s, rejected a ↔ Blocked rank conflict s rejected a ∨ Contested rank conflict s rejected a

end

variable {α : Type} {rank : α → ℕ} {conflict : α → α → Prop} {s : Set α}
  {rejected rejected' : α → Prop}

/-- Whether an item is blocked depends on what is rejected among the items of lower rank. -/
theorem blocked_congr {a : α} (h : ∀ e ∈ s, rank e < rank a → (rejected e ↔ rejected' e)) :
    Blocked rank conflict s rejected a ↔ Blocked rank conflict s rejected' a :=
  exists_congr fun _ => and_congr_right fun he => and_congr_right fun hlt =>
    and_congr_left fun _ => not_congr (h _ he hlt)

/-- Of two items that are not rejected, one of lower rank is not in conflict with the other. -/
theorem Resolves.not_conflict_of_lt (h : Resolves rank conflict s rejected) {a b : α} (ha : a ∈ s)
    (hb : b ∈ s) (hlt : rank a < rank b) (hra : ¬ rejected a) (hrb : ¬ rejected b) :
    ¬ conflict a b :=
  fun hconflict => hrb ((h b hb).2 (.inl ⟨a, ha, hlt, hra, hconflict⟩))

theorem Resolves.compatible (h : Resolves rank conflict s rejected)
    (hsymm : ∀ a b, conflict a b → conflict b a) {a b : α} (ha : a ∈ s) (hb : b ∈ s) (hne : a ≠ b)
    (hra : ¬ rejected a) (hrb : ¬ rejected b) : ¬ conflict a b := by
  intro hconflict
  rcases lt_trichotomy (rank a) (rank b) with hlt | heq | hlt
  · exact h.not_conflict_of_lt ha hb hlt hra hrb hconflict
  · have hblocked {x : α} (hx : x ∈ s) (hrx : ¬ rejected x) :
        ¬ Blocked rank conflict s rejected x := fun hblock => hrx ((h x hx).2 (.inl hblock))
    exact hrb ((h b hb).2 (.inr ⟨a, ha, heq, hne, hconflict, hblocked ha hra, hblocked hb hrb⟩))
  · exact h.not_conflict_of_lt hb ha hlt hrb hra (hsymm a b hconflict)

theorem Resolves.unique (h : Resolves rank conflict s rejected)
    (h' : Resolves rank conflict s rejected') : ∀ a ∈ s, (rejected a ↔ rejected' a) := by
  -- by induction on the rank, as what is rejected is a matter of the lower ranks
  have hrank (n : ℕ) : ∀ a ∈ s, rank a = n → (rejected a ↔ rejected' a) := by
    induction n using Nat.strong_induction_on with
    | _ n ih =>
      intro a ha hn
      have hblocked {x : α} (hx : rank x = rank a) :
          Blocked rank conflict s rejected x ↔ Blocked rank conflict s rejected' x :=
        blocked_congr fun e he hlt => ih (rank e) (hn ▸ hx ▸ hlt) e he rfl
      rw [h a ha, h' a ha, hblocked rfl]
      refine or_congr_right (exists_congr fun o => and_congr_right fun _ =>
        and_congr_right fun hrank => ?_)
      rw [hblocked hrank, hblocked rfl]
  exact fun a ha => hrank (rank a) a ha rfl

end Selection
