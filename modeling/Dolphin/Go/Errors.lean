import Mathlib.Data.List.Induction
import Mathlib.Tactic.Common

/-!
# Wrapped and joined errors

Errors are trees. `errors.As` goes through them depth first and takes the first error of a type, so
what it finds in joined errors is what it finds in the first of them that has such an error
(`as_of_joinErrs`).
-/

namespace Go

variable {α β : Type}

/-- An error, which may wrap another one (`fmt.Errorf` with `%w`) or join two. -/
inductive Err (α : Type)
  | leaf (a : α)
  | wrap (text : String) (err : Err α)
  | join (err err' : Err α)

/-- The errors at the leaves, depth first. -/
def Err.leaves : Err α → List α
  | leaf a => [a]
  | wrap _ err => err.leaves
  | join err err' => err.leaves ++ err'.leaves

/-- `errors.As`, for a type given by a partial function. -/
def Err.as (f : α → Option β) (err : Err α) : Option β := err.leaves.findSome? f

/-- `errors.Join` of an error that may be nil and another one. -/
def joinErr (res : Option (Err α)) (err : Err α) : Err α :=
  match res with
  | none => .wrap "" err
  | some res => .join res err

/-- Join errors one after the other. -/
def joinErrs (errs : List (Err α)) : Option (Err α) :=
  errs.foldl (fun res err => some (joinErr res err)) none

theorem leaves_foldl_joinErr (errs : List (Err α)) (res : Option (Err α)) :
    (errs.foldl (fun res err => some (joinErr res err)) res).elim [] Err.leaves =
      res.elim [] Err.leaves ++ errs.flatMap Err.leaves := by
  induction errs generalizing res with
  | nil => exact (List.append_nil _).symm
  | cons e errs ih =>
    rw [List.foldl_cons, ih, List.flatMap_cons, ← List.append_assoc]
    cases res <;> rfl

theorem joinErrs_eq_none_iff {errs : List (Err α)} : joinErrs errs = none ↔ errs = [] := by
  cases errs using List.reverseRecOn with
  | nil => exact iff_of_true rfl rfl
  | append_singleton errs e => simp [joinErrs]

theorem findSome?_leaves (errs : List (Err α)) (f : α → Option β) :
    (errs.flatMap Err.leaves).findSome? f = errs.findSome? (·.as f) := by
  induction errs with
  | nil => rfl
  | cons e errs ih =>
    rw [List.flatMap_cons, List.findSome?_append, ih, List.findSome?_cons, Err.as]
    cases e.leaves.findSome? f <;> rfl

/-- What is found in joined errors is what is found in the first of them that has it. -/
theorem as_of_joinErrs {errs : List (Err α)} {err : Err α} (h : joinErrs errs = some err)
    (f : α → Option β) : err.as f = errs.findSome? (·.as f) := by
  have hleaves := leaves_foldl_joinErr errs none
  rw [← joinErrs, h] at hleaves
  rw [← findSome?_leaves]
  exact congrArg (List.findSome? f) hleaves

end Go
