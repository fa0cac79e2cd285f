import Mathlib.Data.List.Forall2
import Mathlib.Tactic.Common

/-!
# Go code that may panic

Go code ends in a run-time panic when it dereferences a nil pointer or indexes a
slice out of range. Such code is a function to `Result`: the value it computes,
or the panic. Nothing that catches a panic here looks at what it was, so that
there is a single one.

A loop `for _, x := range xs { res = append(res, ...) }` whose body may panic is
`collect`: the blocks appended by the iterations, one after the other, or a
panic as soon as an iteration panics. The rules for it are what the proofs about
such loops use:

* `mem_collect`: an element of the result was appended by some iteration;
* `isInfix_collect`: what an iteration appended is a block of the result;
* `foldlM_preserves`: what the iterations of any loop preserve, the loop preserves;
* `exists_foldlM_eq_ok`: a loop none of whose iterations panics returns;
* `foldlM_appends`: a loop over other variables, one of which only grows;
* `byParts_foldlM`: a loop that goes on independently on the parts of its variables.

A loop that returns at the first element for which a test says yes or fails is `List.anyM`. What it
returns is what the test says of some element (`exists_anyM_eq`), unless it says no of all.
-/

namespace Go

open List

/-- A run-time panic: a nil dereference or an index out of range. -/
inductive Panic
  | runtimeError
  deriving DecidableEq, Repr

/-- The outcome of code that may panic. -/
abbrev Result (α : Type) := Except Panic α

/-- Dereferencing a pointer, nil being `none`. -/
def deref {α : Type} : Option α → Result α
  | some a => .ok a
  | none => .error .runtimeError

variable {ε α β γ : Type}

@[simp]
theorem deref_some (a : α) : deref (some a) = .ok a := rfl

@[simp]
theorem deref_eq_ok {p : Option α} {a : α} : deref p = .ok a ↔ p = some a := by
  cases p <;> simp [deref]

theorem bind_eq_ok {x : Except ε α} {f : α → Except ε β} {b : β} :
    (x >>= f) = .ok b ↔ ∃ a, x = .ok a ∧ f a = .ok b := by
  cases x with
  | error e => simp [bind, Except.bind]
  | ok a => simp [bind, Except.bind]

theorem exists_bind {x : Except ε α} {f : α → Except ε β} (hx : ∃ a, x = .ok a)
    (hf : ∀ a, ∃ b, f a = .ok b) : ∃ b, (x >>= f) = .ok b := by
  obtain ⟨a, rfl⟩ := hx
  exact hf a

theorem map_eq_ok {x : Result α} {f : α → β} {b : β} :
    (f <$> x) = .ok b ↔ ∃ a, x = .ok a ∧ f a = b := by
  cases x with
  | error e => simp [Functor.map, Except.map]
  | ok a => simp [Functor.map, Except.map]

@[simp]
theorem pure_eq_ok {a b : α} : (pure a : Except ε α) = .ok b ↔ a = b := by
  simp [pure, Except.pure]

theorem bind_pure_eq_ok {x : Except ε α} {f : α → β} {b : β} :
    (x >>= fun a => pure (f a)) = .ok b ↔ ∃ a, x = .ok a ∧ f a = b := by
  simp only [bind_eq_ok, pure_eq_ok]

theorem exists_bind_pure {x : Except ε α} {f : α → β} (hx : ∃ a, x = .ok a) :
    ∃ b, (x >>= fun a => pure (f a)) = .ok b :=
  exists_bind hx fun _ => ⟨_, rfl⟩

theorem exists_of_isOk {x : Except ε α} (h : x.isOk = true) : ∃ a, x = .ok a := by
  cases x with
  | error e => cases h
  | ok a => exact ⟨a, rfl⟩

theorem eq_of_forall_ok {x y : Result α} (h : ∀ a, x = .ok a ↔ y = .ok a) : x = y := by
  cases x with
  | ok a => exact ((h a).1 rfl).symm
  | error e =>
    cases y with
    | ok b => exact absurd ((h b).2 rfl) (by simp)
    | error e' => rfl

/-! ## Loops -/

variable {f : α → Result β} {xs : List α} {ys : List β} {x : α} {q : α → Bool} {σ : Type}

theorem mapM_eq_ok : xs.mapM f = .ok ys ↔ List.Forall₂ (fun x y => f x = .ok y) xs ys := by
  induction xs generalizing ys with
  | nil => rw [mapM_nil, pure_eq_ok, forall₂_nil_left_iff, eq_comm]
  | cons x xs ih =>
    rw [mapM_cons, bind_eq_ok]
    constructor
    · rintro ⟨y, hy, h⟩
      obtain ⟨ys', hys, h⟩ := bind_eq_ok.1 h
      obtain rfl := pure_eq_ok.1 h
      exact .cons hy (ih.1 hys)
    · rintro (_ | ⟨hy, hys⟩)
      exact ⟨_, hy, bind_eq_ok.2 ⟨_, ih.2 hys, rfl⟩⟩

theorem exists_mapM_eq_ok : (∃ ys, xs.mapM f = .ok ys) ↔ ∀ x ∈ xs, ∃ y, f x = .ok y := by
  simp only [mapM_eq_ok]
  induction xs with
  | nil => simp
  | cons x xs ih =>
    constructor
    · rintro ⟨_, _ | ⟨hy, hys⟩⟩ z hz
      rcases mem_cons.1 hz with rfl | hz
      · exact ⟨_, hy⟩
      · exact ih.1 ⟨_, hys⟩ z hz
    · intro h
      obtain ⟨y, hy⟩ := h x mem_cons_self
      obtain ⟨ys, hys⟩ := ih.2 fun z hz => h z (mem_cons_of_mem _ hz)
      exact ⟨y :: ys, .cons hy hys⟩

theorem mem_mapM (h : xs.mapM f = .ok ys) {y : β} : y ∈ ys ↔ ∃ x ∈ xs, f x = .ok y := by
  induction mapM_eq_ok.1 h with
  | nil => simp
  | cons hxy hrest ih =>
    have ih := ih (mapM_eq_ok.2 hrest)
    simp [ih, hxy, eq_comm]

theorem isInfix_mapM {zs : List α} (h : xs.mapM f = .ok ys) (hzs : zs <:+: xs) :
    ∃ ws, ws <:+: ys ∧ zs.mapM f = .ok ws := by
  obtain ⟨before, after, rfl⟩ := hzs
  rw [mapM_append, mapM_append] at h
  obtain ⟨ys', h', h⟩ := bind_eq_ok.1 h
  obtain ⟨bs, _, h'⟩ := bind_eq_ok.1 h'
  obtain ⟨ws, hws, h'⟩ := bind_eq_ok.1 h'
  obtain ⟨as, _, h⟩ := bind_eq_ok.1 h
  obtain rfl := pure_eq_ok.1 h'
  obtain rfl := pure_eq_ok.1 h
  exact ⟨ws, ⟨bs, as, rfl⟩, hws⟩

theorem getElem?_mapM (h : xs.mapM f = .ok ys) {i : Nat} (hx : xs[i]? = some x) :
    ∃ y, ys[i]? = some y ∧ f x = .ok y := by
  obtain ⟨hlength, hget⟩ := forall₂_iff_get.1 (mapM_eq_ok.1 h)
  obtain ⟨hi, rfl⟩ := List.getElem?_eq_some_iff.1 hx
  have hi' : i < ys.length := hlength ▸ hi
  exact ⟨ys[i], getElem?_eq_getElem hi', hget i hi hi'⟩

theorem mapM_congr {g : α → Result β} (h : ∀ x ∈ xs, f x = g x) : xs.mapM f = xs.mapM g := by
  induction xs with
  | nil => rfl
  | cons x xs ih =>
    rw [mapM_cons, mapM_cons, h x mem_cons_self, ih fun y hy => h y (mem_cons_of_mem _ hy)]

theorem any_mapM {p : β → Bool} (h : ∀ x y, f x = .ok y → p y = q x) (hys : xs.mapM f = .ok ys) :
    ys.any p = xs.any q := by
  induction mapM_eq_ok.1 hys with
  | nil => rfl
  | cons hxy hrest ih => rw [any_cons, any_cons, h _ _ hxy, ih (mapM_eq_ok.2 hrest)]

/-- A loop whose iterations return the same up to `g` returns the same up to `g`. -/
theorem mapM_agrees {f' : α → Result β} {g : β → γ}
    (h : ∀ x ∈ xs, ∀ y, f x = .ok y → ∃ y', f' x = .ok y' ∧ g y' = g y) (hys : xs.mapM f = .ok ys) :
    ∃ ys', xs.mapM f' = .ok ys' ∧ ys'.map g = ys.map g := by
  simp only [mapM_eq_ok] at hys ⊢
  induction hys with
  | nil => exact ⟨[], .nil, rfl⟩
  | @cons x y xs ys hxy _ ih =>
    obtain ⟨y', hxy', hy⟩ := h x mem_cons_self y hxy
    obtain ⟨ys', hys', heq⟩ := ih fun z hz => h z (mem_cons_of_mem x hz)
    exact ⟨y' :: ys', .cons hxy' hys', by rw [map_cons, map_cons, hy, heq]⟩

theorem mapM_eq_map {g : α → β} (h : ∀ x ∈ xs, f x = .ok (g x)) : xs.mapM f = .ok (xs.map g) := by
  rw [mapM_eq_ok, forall₂_map_right_iff, forall₂_same]
  exact h

theorem mapM_bind_pure (f : α → Result β) (g : β → γ) (xs : List α) :
    (xs.mapM fun x => f x >>= fun y => pure (g y)) = (xs.mapM f >>= fun ys => pure (ys.map g)) := by
  induction xs with
  | nil => rfl
  | cons x xs ih =>
    rw [mapM_cons, mapM_cons, ih]
    cases f x with
    | error e => rfl
    | ok y =>
      cases xs.mapM f with
      | error e => rfl
      | ok ys => rfl

theorem eq_map_of_mapM (h : xs.mapM f = .ok ys) (b : β) :
    ys = xs.map fun x => (f x).toOption.getD b := by
  refine Except.ok.inj (h.symm.trans (mapM_eq_map fun x hx => ?_))
  obtain ⟨y, hy⟩ := exists_mapM_eq_ok.1 ⟨ys, h⟩ x hx
  rw [hy]
  rfl

theorem mapM_perm [Nonempty β] (f : α → Result β) {xs' : List α} (h : xs.Perm xs') :
    (∃ g, xs.mapM f = .ok (xs.map g) ∧ xs'.mapM f = .ok (xs'.map g) ∧
      ∀ x ∈ xs, f x = .ok (g x)) ∨ xs.mapM f = xs'.mapM f := by
  by_cases hok : ∀ x ∈ xs, ∃ y, f x = .ok y
  · choose! g hg using hok
    exact .inl ⟨g, mapM_eq_map hg, mapM_eq_map fun x hx => hg x (h.mem_iff.2 hx), hg⟩
  · refine .inr (eq_of_forall_ok fun ys => iff_of_false (fun hys => ?_) fun hys => ?_)
    · exact hok (exists_mapM_eq_ok.1 ⟨ys, hys⟩)
    · exact hok fun x hx => exists_mapM_eq_ok.1 ⟨ys, hys⟩ x (h.mem_iff.1 hx)

/-- The loop appending, for every element in turn, the block its iteration computes. -/
def collect (f : α → Result (List β)) (xs : List α) : Result (List β) := List.flatten <$> xs.mapM f

theorem collect_eq_ok {f : α → Result (List β)} :
    collect f xs = .ok ys ↔ ∃ yss, xs.mapM f = .ok yss ∧ yss.flatten = ys :=
  map_eq_ok

theorem collect_cons (f : α → Result (List β)) (x : α) (xs : List α) :
    collect f (x :: xs) = (f x >>= fun ys => collect f xs >>= fun zs => pure (ys ++ zs)) := by
  rw [collect, collect, mapM_cons]
  cases f x with
  | error e => rfl
  | ok ys =>
    cases xs.mapM f with
    | error e => rfl
    | ok yss => rfl

theorem collect_congr {f g : α → Result (List β)} (h : ∀ x ∈ xs, f x = g x) :
    collect f xs = collect g xs := by
  rw [collect, collect, mapM_congr h]

theorem collect_eq_flatMap {f : α → Result (List β)} {g : α → List β}
    (h : ∀ x ∈ xs, f x = .ok (g x)) : collect f xs = .ok (xs.flatMap g) := by
  induction xs with
  | nil => rfl
  | cons x xs ih =>
    rw [collect_cons, h x mem_cons_self, ih fun y hy => h y (mem_cons_of_mem _ hy)]
    rfl

theorem collect_map (f : β → Result (List γ)) (g : α → β) (xs : List α) :
    collect f (xs.map g) = collect (fun x => f (g x)) xs := by
  induction xs with
  | nil => rfl
  | cons x xs ih => rw [map_cons, collect_cons, collect_cons, ih]

/-- A loop whose blocks for images are the images of its blocks. -/
theorem collect_natural {f : α → Result (List α)} {g : α → α}
    (h : ∀ x, f (g x) = List.map g <$> f x) (xs : List α) :
    collect f (xs.map g) = List.map g <$> collect f xs := by
  induction xs with
  | nil => rfl
  | cons x xs ih =>
    rw [map_cons, collect_cons, collect_cons, h, ih]
    cases f x with
    | error p => rfl
    | ok ys =>
      cases collect f xs with
      | error p => rfl
      | ok zs => exact congrArg Except.ok (map_append).symm

/-- What code appends to a slice, nothing if it panics. -/
def returned : Result (List β) → List β
  | .ok ys => ys
  | .error _ => []

theorem collect_eq_ok_iff {f : α → Result (List β)} : collect f xs = .ok ys ↔
      (∀ x ∈ xs, ∃ zs, f x = .ok zs) ∧ ys = (xs.map f).flatMap returned := by
  have hreturns (h : ∀ x ∈ xs, ∃ zs, f x = .ok zs) :
      collect f xs = .ok ((xs.map f).flatMap returned) := by
    rw [flatMap_map]
    refine collect_eq_flatMap fun x hx => ?_
    obtain ⟨zs, hzs⟩ := h x hx
    rw [hzs]
    rfl
  constructor
  · intro h
    obtain ⟨yss, hyss, _⟩ := collect_eq_ok.1 h
    have hall := exists_mapM_eq_ok.1 ⟨yss, hyss⟩
    exact ⟨hall, Except.ok.inj (h.symm.trans (hreturns hall))⟩
  · intro h
    rw [h.2, hreturns h.1]

theorem exists_collect {f : α → Result (List β)} (h : ∀ x ∈ xs, ∃ ys, f x = .ok ys) :
    ∃ ys, collect f xs = .ok ys :=
  ⟨_, collect_eq_ok_iff.2 ⟨h, rfl⟩⟩

theorem collect_singleton (f : α → Result β) (xs : List α) :
    collect (fun x => f x >>= fun y => pure [y]) xs = xs.mapM f := by
  induction xs with
  | nil => rfl
  | cons x xs ih =>
    rw [collect_cons, ih, mapM_cons]
    cases f x with
    | error e => rfl
    | ok y => rfl

theorem mem_collect {f : α → Result (List β)} (h : collect f xs = .ok ys) {y : β} :
    y ∈ ys ↔ ∃ x ∈ xs, ∃ zs, f x = .ok zs ∧ y ∈ zs := by
  obtain ⟨yss, hyss, rfl⟩ := collect_eq_ok.1 h
  rw [mem_flatten]
  constructor
  · rintro ⟨zs, hzs, hy⟩
    obtain ⟨x, hx, hf⟩ := (mem_mapM hyss).1 hzs
    exact ⟨x, hx, zs, hf, hy⟩
  · rintro ⟨x, hx, zs, hf, hy⟩
    exact ⟨zs, (mem_mapM hyss).2 ⟨x, hx, hf⟩, hy⟩

theorem isInfix_collect {f : α → Result (List β)} (h : collect f xs = .ok ys) (hx : x ∈ xs) :
    ∃ zs, f x = .ok zs ∧ zs <:+: ys := by
  obtain ⟨yss, hyss, rfl⟩ := collect_eq_ok.1 h
  obtain ⟨zs, hzs⟩ := exists_mapM_eq_ok.1 ⟨yss, hyss⟩ x hx
  exact ⟨zs, hzs, infix_of_mem_flatten ((mem_mapM hyss).2 ⟨x, hx, hzs⟩)⟩

theorem isInfix_flatMap (f : α → List β) (hx : x ∈ xs) : f x <:+: xs.flatMap f :=
  infix_of_mem_flatten (mem_map_of_mem hx)

theorem collect_sublist {f : α → Result (List α)} {ys : List α}
    (hf : ∀ x zs, f x = .ok zs → zs.Sublist [x]) (h : collect f xs = .ok ys) : ys.Sublist xs := by
  induction xs generalizing ys with
  | nil =>
    obtain rfl := Except.ok.inj h
    exact .slnil
  | cons x xs ih =>
    rw [collect_cons] at h
    obtain ⟨zs, hzs, h⟩ := bind_eq_ok.1 h
    obtain ⟨ys', hys', h⟩ := bind_eq_ok.1 h
    obtain rfl := pure_eq_ok.1 h
    exact (hf x zs hzs).append (ih hys')

/-- An iteration that appends the element if it passes tests, one of which may panic. -/
def keepIf (p : α → Bool) (f : α → Result Bool) (q : α → Bool) (x : α) : Result (List α) :=
  if p x then do
    let b ← f x
    pure (if b && q x then [x] else [])
  else pure []

section

variable {p : α → Bool} {f : α → Result Bool}

theorem keepIf_eq_ok {zs : List α} (h : keepIf p f q x = .ok zs) :
    zs = [] ∧ ¬ (p x = true ∧ f x = .ok true ∧ q x = true) ∨
      zs = [x] ∧ p x = true ∧ f x = .ok true ∧ q x = true := by
  rw [keepIf] at h
  split_ifs at h with hp
  · obtain ⟨b, hb, h⟩ := bind_eq_ok.1 h
    obtain rfl := pure_eq_ok.1 h
    cases b <;> cases hq : q x <;> simp [hp, hb]
  · obtain rfl := pure_eq_ok.1 h
    exact .inl ⟨rfl, fun h => hp h.1⟩

/-- Tests that do not tell images apart keep the images. -/
theorem collect_keepIf_map {g : α → α} (hp : ∀ x, p (g x) = p x) (hf : ∀ x, f (g x) = f x)
    (hq : ∀ x, q (g x) = q x) (xs : List α) :
    collect (keepIf p f q) (xs.map g) = List.map g <$> collect (keepIf p f q) xs := by
  refine collect_natural (fun x => ?_) xs
  rw [keepIf, keepIf, hp, hf, hq]
  cases p x with
  | false => rfl
  | true =>
    cases f x with
    | error err => rfl
    | ok b => cases b <;> cases q x <;> rfl

/-- The loop keeps the elements that pass the tests. -/
theorem collect_keepIf {ys : List α} (h : collect (keepIf p f q) xs = .ok ys) :
    ys.Sublist xs ∧ ∀ x, x ∈ ys ↔ x ∈ xs ∧ p x = true ∧ f x = .ok true ∧ q x = true := by
  constructor
  · refine collect_sublist (fun x zs hzs => ?_) h
    rcases keepIf_eq_ok hzs with ⟨rfl, _⟩ | ⟨rfl, _⟩
    · exact nil_sublist _
    · exact .refl _
  · intro x
    rw [mem_collect h]
    constructor
    · rintro ⟨x', hx', zs, hzs, hx⟩
      rcases keepIf_eq_ok hzs with ⟨rfl, _⟩ | ⟨rfl, htests⟩
      · cases hx
      · obtain rfl := mem_singleton.1 hx
        exact ⟨hx', htests⟩
    · rintro ⟨hx, htests⟩
      obtain ⟨zs, hzs, _⟩ := isInfix_collect h hx
      rcases keepIf_eq_ok hzs with ⟨_, hnot⟩ | ⟨rfl, _⟩
      · exact absurd htests hnot
      · exact ⟨x, hx, _, hzs, mem_singleton_self x⟩

end

theorem foldlM_preserves {f : σ → α → Except ε σ} {P : σ → Prop}
    (hstep : ∀ s, ∀ a ∈ xs, ∀ s', P s → f s a = .ok s' → P s') {s s' : σ} (hs : P s)
    (h : xs.foldlM f s = .ok s') : P s' := by
  induction xs generalizing s with
  | nil =>
    rw [foldlM_nil, pure_eq_ok] at h
    exact h ▸ hs
  | cons x xs ih =>
    rw [foldlM_cons, bind_eq_ok] at h
    obtain ⟨t, ht, h⟩ := h
    have ht := hstep s x mem_cons_self t hs ht
    exact ih (fun s a ha => hstep s a (mem_cons_of_mem _ ha)) ht h

theorem exists_foldlM_eq_ok {f : σ → α → Result σ} (hstep : ∀ s, ∀ a ∈ xs, ∃ s', f s a = .ok s')
    (s : σ) : ∃ s', xs.foldlM f s = .ok s' := by
  induction xs generalizing s with
  | nil => exact ⟨s, rfl⟩
  | cons x xs ih =>
    obtain ⟨t, ht⟩ := hstep s x mem_cons_self
    obtain ⟨s', hs'⟩ := ih (fun s a ha => hstep s a (mem_cons_of_mem _ ha)) t
    refine ⟨s', ?_⟩
    rw [foldlM_cons, ht]
    exact hs'

theorem foldl_of_foldlM {f : σ → α → Result σ} {g : σ → α → σ}
    (hstep : ∀ s, ∀ a ∈ xs, ∀ s', f s a = .ok s' → s' = g s a) {s s' : σ}
    (h : xs.foldlM f s = .ok s') : s' = xs.foldl g s := by
  induction xs generalizing s with
  | nil => exact (pure_eq_ok.1 h).symm
  | cons x xs ih =>
    rw [foldlM_cons] at h
    obtain ⟨t, ht, h⟩ := bind_eq_ok.1 h
    rw [foldl_cons, ← hstep s x mem_cons_self t ht]
    exact ih (fun s a ha => hstep s a (mem_cons_of_mem _ ha)) h

theorem foldlM_appends {f : σ → α → Result σ} {g : σ → List β} {k : α → List β}
    (hstep : ∀ s a s', f s a = .ok s' → g s' = g s ++ k a) {s s' : σ} (h : xs.foldlM f s = .ok s') :
    g s' = g s ++ xs.flatMap k := by
  induction xs generalizing s with
  | nil =>
    rw [foldlM_nil, pure_eq_ok] at h
    rw [h, flatMap_nil, append_nil]
  | cons x xs ih =>
    rw [foldlM_cons, bind_eq_ok] at h
    obtain ⟨t, ht, h⟩ := h
    rw [ih h, hstep s x t ht, flatMap_cons, append_assoc]

/-! ## Computations by parts

A state may have parts on which a computation goes on independently, each of which may stop it. The
computation then succeeds exactly if that of each part does (`ByParts`).
-/

/-- The computation succeeds exactly if those of the parts `i ∈ I` do, and what it leaves is related
    to what they leave. -/
def ByParts {ι τ : Type} (R : ι → σ → τ → Prop) (I : Set ι) (x : Except ε σ) (y : ι → Option τ) :
    Prop :=
  match x with
  | .ok s => ∀ i ∈ I, ∃ t, y i = some t ∧ R i s t
  | .error _ => ∃ i ∈ I, y i = none

section

variable {ι τ : Type} {R : ι → σ → τ → Prop} {I : Set ι} {x : Except ε σ} {y : ι → Option τ}

theorem ByParts.congr (h : ByParts R I x y) {y' : ι → Option τ} (hy : ∀ i ∈ I, y i = y' i) :
    ByParts R I x y' := by
  cases x with
  | error e =>
    obtain ⟨i, hi, hnone⟩ := h
    exact ⟨i, hi, (hy i hi).symm.trans hnone⟩
  | ok s =>
    intro i hi
    obtain ⟨t, ht, hR⟩ := h i hi
    exact ⟨t, (hy i hi).symm.trans ht, hR⟩

/-- If no part stops it, it does not fail. -/
theorem ByParts.exists_eq_ok {t : ι → τ} (h : ByParts R I x fun i => some (t i)) :
    ∃ s, x = .ok s ∧ ∀ i ∈ I, R i s (t i) := by
  cases x with
  | error e =>
    obtain ⟨_, _, hnone⟩ := h
    cases hnone
  | ok s =>
    refine ⟨s, rfl, fun i hi => ?_⟩
    obtain ⟨_, ht, hR⟩ := h i hi
    exact Option.some_inj.1 ht ▸ hR

theorem byParts_pure {s : σ} {t : ι → τ} (h : ∀ i ∈ I, R i s (t i)) :
    ByParts R I (pure s : Except ε σ) fun i => some (t i) :=
  fun i hi => ⟨t i, rfl, h i hi⟩

theorem ByParts.bind [Nonempty τ] (h : ByParts R I x y) {f : σ → Except ε σ}
    {g : ι → τ → Option τ}
    (hf : ∀ s (t : ι → τ), (∀ i ∈ I, R i s (t i)) → ByParts R I (f s) fun i => g i (t i)) :
    ByParts R I (x >>= f) fun i => y i >>= g i := by
  cases x with
  | error e =>
    obtain ⟨i, hi, hnone⟩ := h
    exact ⟨i, hi, congrArg (· >>= g i) hnone⟩
  | ok s =>
    choose! t ht using h
    refine (hf s t fun i hi => (ht i hi).2).congr fun i hi => ?_
    exact (congrArg (· >>= g i) (ht i hi).1).symm

theorem byParts_foldlM [Nonempty τ] {f : σ → α → Except ε σ} {g : ι → τ → α → Option τ}
    (hstep : ∀ a ∈ xs, ∀ s (t : ι → τ), (∀ i ∈ I, R i s (t i)) →
      ByParts R I (f s a) fun i => g i (t i) a)
    {s : σ} {t : ι → τ} (h : ∀ i ∈ I, R i s (t i)) :
    ByParts R I (xs.foldlM f s) fun i => xs.foldlM (g i) (t i) := by
  induction xs generalizing s t with
  | nil => exact byParts_pure h
  | cons a xs ih =>
    simp only [foldlM_cons]
    refine (hstep a mem_cons_self s t h).bind fun s' t' h' => ?_
    exact ih (fun b hb => hstep b (mem_cons_of_mem a hb)) h'

end

/-! ## Searches -/

section

variable {f : α → Except ε Bool}

theorem anyM_cons_of_ne (h : f x ≠ .ok false) : (x :: xs).anyM f = f x := by
  rw [List.anyM]
  rcases hx : f x with e | _ | _
  · rfl
  · exact absurd hx h
  · rfl

theorem anyM_cons_of_eq (h : f x = .ok false) : (x :: xs).anyM f = xs.anyM f := by
  rw [List.anyM, h]
  rfl

theorem anyM_eq_ok_false_iff : xs.anyM f = .ok false ↔ ∀ x ∈ xs, f x = .ok false := by
  induction xs with
  | nil => exact iff_of_true rfl nofun
  | cons x xs ih =>
    rw [forall_mem_cons]
    by_cases hx : f x = .ok false
    · rw [anyM_cons_of_eq hx, ih, and_iff_right hx]
    · rw [anyM_cons_of_ne hx, iff_false_left hx]
      exact fun h => hx h.1

theorem exists_anyM_eq (h : xs.anyM f ≠ .ok false) : ∃ x ∈ xs, xs.anyM f = f x := by
  induction xs with
  | nil => exact absurd rfl h
  | cons x xs ih =>
    by_cases hx : f x = .ok false
    · rw [anyM_cons_of_eq hx] at h ⊢
      obtain ⟨y, hy, hfound⟩ := ih h
      exact ⟨y, mem_cons_of_mem x hy, hfound⟩
    · exact ⟨x, mem_cons_self, anyM_cons_of_ne hx⟩

end

end Go
