import Mathlib.Data.Set.Insert
import Dolphin.Go.Panic

/-!
# Go code that writes

A slice refers to an array that other slices may refer to as well, so that code that writes to
one writes to all of them. Such code is a `Code`: from a state, it has an outcome and leaves
another state, also when it panics. Here the state is what the `Arrays` hold, by address.

Code *simulates* a computation without a state (`Simulates`) if it has the same outcome from
every state with an invariant, up to a relation of what they return, and leaves a state with
another invariant; it *follows* the computation if outcome and invariant are the same (`Follows`).
The rules are about the way code is put together: `Simulates.bind`, `Simulates.bind_ok`,
`Simulates.foldlM`, `Simulates.mapM`, `Simulates.collect`.

The invariant for code that rewrites arrays in place, always in the same way, is `Rewritten`:
each array is as it was at first or rewritten once, for certain arrays the latter. It is kept
if rewriting twice is the same as once (`Rewritten.rewriteAt`).
-/

namespace Go

open List

variable {σ α β γ δ ι ν : Type}

/-! ## Code -/

/-- Code that may write, and panic. -/
abbrev Code (σ : Type) := ExceptT Panic (StateM σ)

namespace Code

def outcome (x : Code σ α) (s : σ) : Result α := (x.run.run s).1

/-- What the code leaves. -/
def after (x : Code σ α) (s : σ) : σ := (x.run.run s).2

/-- Code that reads the state. -/
def read : Code σ σ := ExceptT.mk fun s => (.ok s, s)

/-- Code that writes the state. -/
def write (f : σ → σ) : Code σ Unit := ExceptT.mk fun s => (.ok (), f s)

/-- Code that does not use the state. -/
def ofResult (r : Result α) : Code σ α := ExceptT.mk fun s => (r, s)

/-- The loop appending, for every element in turn, the block its iteration computes. -/
def collect (f : α → Code σ (List β)) (xs : List α) : Code σ (List β) := List.flatten <$> xs.mapM f

/-- Code in sequence goes on from what the first part left, unless that panics. -/
theorem bind_of_ok {x : Code σ α} {f : α → Code σ β} {s : σ} {a : α} (h : x.outcome s = .ok a) :
    (x >>= f).outcome s = (f a).outcome (x.after s) ∧
      (x >>= f).after s = (f a).after (x.after s) := by
  have hrun : x.run.run s = (.ok a, x.after s) := Prod.ext h rfl
  have hbind : (x >>= f).run.run s = (f a).run.run (x.after s) := by
    rw [ExceptT.run_bind, StateT.run_bind, hrun]
    rfl
  exact ⟨congrArg Prod.fst hbind, congrArg Prod.snd hbind⟩

theorem bind_of_error {x : Code σ α} {f : α → Code σ β} {s : σ} {e : Panic}
    (h : x.outcome s = .error e) :
    (x >>= f).outcome s = .error e ∧ (x >>= f).after s = x.after s := by
  have hrun : x.run.run s = (.error e, x.after s) := Prod.ext h rfl
  have hbind : (x >>= f).run.run s = (.error e, x.after s) := by
    rw [ExceptT.run_bind, StateT.run_bind, hrun]
    rfl
  exact ⟨congrArg Prod.fst hbind, congrArg Prod.snd hbind⟩

end Code

/-! ## Simulation -/

/-- Both panic, or return what is related. -/
inductive SameOutcome (R : α → β → Prop) : Result α → Result β → Prop
  | ok {a : α} {b : β} (h : R a b) : SameOutcome R (.ok a) (.ok b)
  | panic (e : Panic) : SameOutcome R (.error e) (.error e)

theorem sameOutcome_eq {x y : Result α} : SameOutcome (· = ·) x y ↔ x = y := by
  constructor
  · intro h
    cases h with
    | ok h => rw [h]
    | panic e => rfl
  · rintro rfl
    cases x with
    | ok a => exact .ok rfl
    | error e => exact .panic e

/-- From every state with `I`, the code has the outcome `r` up to `R`, and leaves a state
    with `J`. -/
def Simulates (I J : σ → Prop) (R : α → β → Prop) (x : Code σ α) (r : Result β) : Prop :=
  ∀ s, I s → SameOutcome R (x.outcome s) r ∧ J (x.after s)

/-- From every state with `I`, the code has the outcome `r`, and leaves such a state. -/
abbrev Follows (I : σ → Prop) (x : Code σ α) (r : Result α) : Prop := Simulates I I (· = ·) x r

namespace Simulates

variable {I J K : σ → Prop} {R : α → β → Prop} {S : γ → δ → Prop}

theorem pure {a : α} {b : β} (h : R a b) : Simulates I I R (Pure.pure a) (Pure.pure b) :=
  fun _ hs => ⟨.ok h, hs⟩

theorem ofResult (r : Result α) : Follows I (Code.ofResult r) r :=
  fun _ hs => ⟨sameOutcome_eq.2 rfl, hs⟩

variable {x : Code σ α} {r : Result β}

theorem weaken {J' : σ → Prop} (h : Simulates I J R x r) (hJ : ∀ s, J s → J' s) :
    Simulates I J' R x r :=
  fun s hs => ⟨(h s hs).1, hJ _ (h s hs).2⟩

theorem bind {f : α → Code σ γ} {g : β → Result δ} (hx : Simulates I J R x r)
    (hf : ∀ a b, R a b → Simulates J K S (f a) (g b)) (hK : ∀ s, J s → K s) :
    Simulates I K S (x >>= f) (r >>= g) := by
  intro s hs
  obtain ⟨houtcome, hafter⟩ := hx s hs
  generalize hxs : x.outcome s = o at houtcome
  cases houtcome with
  | ok hab =>
    obtain ⟨ho, ha⟩ := Code.bind_of_ok (f := f) hxs
    rw [ho, ha]
    exact hf _ _ hab _ hafter
  | panic e =>
    obtain ⟨ho, ha⟩ := Code.bind_of_error (f := f) hxs
    rw [ho, ha]
    exact ⟨.panic e, hK _ hafter⟩

theorem bind_eq {r : Result α} {f : α → Code σ γ} {g : α → Result δ} (hx : Follows I x r)
    (hf : ∀ a, Simulates I I S (f a) (g a)) : Simulates I I S (x >>= f) (r >>= g) :=
  hx.bind (fun a _ hab => hab ▸ hf a) fun _ hs => hs

theorem bind_ok {b : β} {f : α → Code σ γ} {r : Result δ} (hx : Simulates I J R x (Pure.pure b))
    (hf : ∀ a, R a b → Simulates J K S (f a) r) :
    Simulates I K S (x >>= f) r := by
  intro s hs
  obtain ⟨houtcome, hafter⟩ := hx s hs
  generalize hxs : x.outcome s = o at houtcome
  cases houtcome with
  | ok hab =>
    obtain ⟨ho, ha⟩ := Code.bind_of_ok (f := f) hxs
    rw [ho, ha]
    exact hf _ hab _ hafter

theorem read_bind {f : σ → Code σ α} (h : ∀ s, I s → Simulates I J R (f s) r) :
    Simulates I J R (Code.read >>= f) r :=
  fun s hs => h s hs s hs

theorem write_bind {w : σ → σ} {f : Unit → Code σ α} (hw : ∀ s, I s → J (w s))
    (h : Simulates J K R (f ()) r) : Simulates I K R (Code.write w >>= f) r :=
  fun s hs => h (w s) (hw s hs)

/-- A loop whose iterations simulate those of a loop over images. -/
theorem foldlM {f : α → γ → Code σ α} {g : β → δ → Result β} {φ : γ → δ} {xs : List γ} {a : α}
    {b : β} (hf : ∀ x ∈ xs, ∀ a b, R a b → Simulates I I R (f a x) (g b (φ x))) (hab : R a b) :
    Simulates I I R (xs.foldlM f a) ((xs.map φ).foldlM g b) := by
  induction xs generalizing a b with
  | nil => exact .pure hab
  | cons x xs ih =>
    rw [foldlM_cons, map_cons, foldlM_cons]
    exact (hf x mem_cons_self a b hab).bind
      (fun _ _ hab => ih (fun y hy => hf y (mem_cons_of_mem x hy)) hab) fun _ hs => hs

theorem mapM {f : γ → Code σ α} {g : γ → Result α} {xs : List γ}
    (hf : ∀ x ∈ xs, Follows I (f x) (g x)) : Follows I (xs.mapM f) (xs.mapM g) := by
  induction xs with
  | nil => exact .pure rfl
  | cons x xs ih =>
    rw [mapM_cons, mapM_cons]
    refine (hf x mem_cons_self).bind_eq fun a => ?_
    exact (ih fun y hy => hf y (mem_cons_of_mem x hy)).bind_eq fun _ => .pure rfl

theorem map {f : α → γ} {g : β → δ} (hx : Simulates I J R x r) (hf : ∀ a b, R a b → S (f a) (g b)) :
    Simulates I J S (f <$> x) (g <$> r) := by
  rw [map_eq_pure_bind, map_eq_pure_bind]
  exact hx.bind (fun a b hab => .pure (hf a b hab)) fun _ hs => hs

theorem collect {f : γ → Code σ (List α)} {g : γ → Result (List α)} {xs : List γ}
    (hf : ∀ x ∈ xs, Follows I (f x) (g x)) :
    Follows I (Code.collect f xs) (Go.collect g xs) :=
  (mapM hf).map fun _ _ h => congrArg List.flatten h

end Simulates

/-! ## Arrays -/

/-- What the arrays hold, by address. -/
abbrev Arrays (ι ν : Type) := ι → List ν

/-- The array at an address is rewritten in place. -/
def rewriteAt [DecidableEq ι] (f : List ν → List ν) (i : ι) (arrays : Arrays ι ν) : Arrays ι ν :=
  Function.update arrays i (f (arrays i))

/-- Arrays as they were at first, or rewritten; those at `known` are rewritten. -/
structure Rewritten (f : List ν → List ν) (first : Arrays ι ν) (known : Set ι)
    (arrays : Arrays ι ν) : Prop where
  either : ∀ i, arrays i = first i ∨ arrays i = f (first i)
  known : ∀ i ∈ known, arrays i = f (first i)

namespace Rewritten

variable {f : List ν → List ν} {first arrays : Arrays ι ν} {known : Set ι}

theorem refl (f : List ν → List ν) (first : Arrays ι ν) : Rewritten f first ∅ first :=
  ⟨fun _ => .inl rfl, fun _ hi => absurd hi (Set.notMem_empty _)⟩

theorem subset {known' : Set ι} (h : Rewritten f first known arrays) (hsub : known' ⊆ known) :
    Rewritten f first known' arrays :=
  ⟨h.either, fun i hi => h.known i (hsub hi)⟩

section

variable (h : Rewritten f first known arrays) {i : ι} (hf : f (f (first i)) = f (first i))

include h hf

theorem rewrite_eq : f (arrays i) = f (first i) := by
  rcases h.either i with hi | hi
  · rw [hi]
  · rw [hi, hf]

theorem rewriteAt [DecidableEq ι] : Rewritten f first (insert i known) (rewriteAt f i arrays) := by
  have hat : Go.rewriteAt f i arrays i = f (first i) := by
    rw [Go.rewriteAt, Function.update_self, h.rewrite_eq hf]
  have hother (j : ι) (hj : j ≠ i) : Go.rewriteAt f i arrays j = arrays j :=
    Function.update_of_ne hj _ _
  refine ⟨fun j => ?_, fun j hj => ?_⟩
  · by_cases hji : j = i
    · exact .inr (hji ▸ hat)
    · rw [hother j hji]
      exact h.either j
  · by_cases hji : j = i
    · exact hji ▸ hat
    · rw [hother j hji]
      exact h.known j (hj.resolve_left hji)

end

end Rewritten

end Go
