import Mathlib.Data.List.Basic

/-!
# Code that changes a state and may fail

A method that makes one call after another returns at the first error, and what the calls before
it did stays done. Such code is a function from states to an outcome and a state (`Act`).

* `andThen_succeeds`: code after code succeeds if both do;
* `FailsOnly.andThen`: the errors of code after code are those of both;
* `forEach_succeeds`: a loop whose iterations have a known effect has their effects in turn;
* `Frames.andThen`, `Frames.forEach`: what every step leaves as it is, even if it fails, stays so.
-/

namespace Go

/-- Code that changes a state and may end with an error. -/
abbrev Act (σ ε : Type) := σ → Except ε Unit × σ

namespace Act

variable {σ ε α : Type}

/-- The code succeeds in the state `s` and leaves the state `s'`. -/
def Succeeds (a : Act σ ε) (s s' : σ) : Prop := a s = (.ok (), s')

/-- All errors of the code are of some kind. -/
def FailsOnly (P : ε → Prop) (a : Act σ ε) : Prop := ∀ s e, (a s).1 = .error e → P e

/-- Whatever its outcome, the code leaves a part of the state as it is. -/
def Frames {τ : Type} (part : σ → τ) (a : Act σ ε) : Prop := ∀ s, part (a s).2 = part s

def done : Act σ ε := fun s => (.ok (), s)

def fail (e : ε) : Act σ ε := fun s => (.error e, s)

/-- A change that does not fail. -/
def modify (f : σ → σ) : Act σ ε := fun s => (.ok (), f s)

/-- One after the other, unless the first one fails. -/
def andThen (a b : Act σ ε) : Act σ ε := fun s =>
  match a s with
  | (.ok (), s') => b s'
  | (.error e, s') => (.error e, s')

/-- The loop ends at the first iteration that fails. -/
def forEach (f : α → Act σ ε) : List α → Act σ ε
  | [] => done
  | x :: xs => (f x).andThen (forEach f xs)

/-- The code whose error is only logged. -/
def attempt (a : Act σ ε) : Act σ ε := fun s => (.ok (), (a s).2)

variable {a b : Act σ ε} {s s' : σ}

theorem done_succeeds : (done : Act σ ε).Succeeds s s' ↔ s' = s := by
  simp [Succeeds, done, eq_comm]

theorem not_fail_succeeds {e : ε} : ¬ (fail e).Succeeds s s' := by
  simp [Succeeds, fail]

theorem modify_succeeds {f : σ → σ} : (modify f : Act σ ε).Succeeds s s' ↔ s' = f s := by
  simp [Succeeds, modify, eq_comm]

theorem andThen_succeeds : (a.andThen b).Succeeds s s' ↔ ∃ t, a.Succeeds s t ∧ b.Succeeds t s' := by
  rw [Succeeds, andThen]
  split
  · rename_i t ht
    constructor
    · intro h
      exact ⟨t, ht, h⟩
    · rintro ⟨t', ht', h⟩
      obtain rfl : t = t' := congrArg Prod.snd (ht.symm.trans ht')
      exact h
  · rename_i e t ht
    refine iff_of_false (fun h => ?_) ?_
    · cases congrArg Prod.fst h
    · rintro ⟨t', ht', _⟩
      cases congrArg Prod.fst (ht.symm.trans ht')

theorem FailsOnly.andThen {P : ε → Prop} (ha : FailsOnly P a) (hb : FailsOnly P b) :
    FailsOnly P (a.andThen b) := by
  intro s e he
  rw [Act.andThen] at he
  split at he
  · exact hb _ e he
  · rename_i e' t ht
    exact ha s e (congrArg Prod.fst ht ▸ he)

theorem failsOnly_modify {P : ε → Prop} (f : σ → σ) : FailsOnly P (modify f) := by
  intro s e he
  cases he

theorem failsOnly_fail {P : ε → Prop} {e : ε} (h : P e) : FailsOnly P (fail e : Act σ ε) := by
  intro s e' he
  cases he
  exact h

theorem attempt_succeeds : a.attempt.Succeeds s s' ↔ s' = (a s).2 := by
  simp [Succeeds, attempt, eq_comm]

theorem forEach_succeeds {f : α → Act σ ε} {g : σ → α → σ} {xs : List α}
    (h : ∀ x ∈ xs, ∀ s s', (f x).Succeeds s s' → s' = g s x) (hs : (forEach f xs).Succeeds s s') :
    s' = xs.foldl g s := by
  induction xs generalizing s with
  | nil => exact done_succeeds.1 hs
  | cons x xs ih =>
    obtain ⟨t, ht, hrest⟩ := andThen_succeeds.1 hs
    rw [List.foldl_cons, ← h x List.mem_cons_self s t ht]
    exact ih (fun y hy => h y (List.mem_cons_of_mem _ hy)) hrest

section

variable {τ : Type} {part : σ → τ}

theorem Frames.andThen (ha : Frames part a) (hb : Frames part b) : Frames part (a.andThen b) := by
  intro s
  have hs := ha s
  rw [Act.andThen]
  split
  · rename_i t ht
    rw [ht] at hs
    exact (hb t).trans hs
  · rename_i e t ht
    rw [ht] at hs
    exact hs

theorem Frames.forEach {f : α → Act σ ε} (h : ∀ x, Frames part (f x)) (xs : List α) :
    Frames part (forEach f xs) := by
  induction xs with
  | nil => exact fun s => rfl
  | cons x xs ih => exact (h x).andThen ih

end

end Act

end Go
