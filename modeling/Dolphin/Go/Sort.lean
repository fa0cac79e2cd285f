import Mathlib.Data.List.Sort
import Dolphin.Go.Maps

/-!
# Sorting by a key

A slice that was collected in an order nobody knows, as that of a `range` over a map, is the
same in the end if it is sorted by a key that its elements do not share. If they do, a stable
sort leaves those with the same key in their order, and nothing else is left of the order.

* `eq_of_keys_lt`: a slice with increasing keys is known by its elements;
* `insertionSort_keys_lt`: sorting by a key that is not shared makes the keys increase;
* `insertionSort_eq_of_perm`, `RangeOrder.insertionSort_visit`,
  `RangeOrder.insertionSort_le_visit`: so it does not matter in which order the elements came;
* `filter_insertionSort_congr`: the other elements do not matter for the order of some of them;
* `insertionSort_eq_of_filter_eq`: in general it matters for the elements with the same key;
* `find?_insertionSort`: the first element of some kind is one with the least key, and of those
  the one that came first;
* `flatMap_eq_of_perm`: a loop may visit a slice in any order if of any two different elements
  one appends nothing;
* `getLast?_flatten_eq`: what a loop wrote last, if it visits the elements of blocks in another
  order.
-/

namespace Go

open List

variable {α β : Type} [LinearOrder β] {key : α → β} {l l' : List α}

theorem eq_of_keys_lt (key : α → β) (h : l.Pairwise fun a b => key a < key b)
    (h' : l'.Pairwise fun a b => key a < key b) (hmem : ∀ a, a ∈ l ↔ a ∈ l') : l = l' := by
  have hnodup {l : List α} (h : l.Pairwise fun a b => key a < key b) : l.Nodup :=
    h.imp fun hlt => ne_of_apply_ne key hlt.ne
  have hperm : l.Perm l' := (perm_ext_iff_of_nodup (hnodup h) (hnodup h')).2 hmem
  exact hperm.eq_of_pairwise (fun a b _ _ hab hba => absurd hba (lt_asymm hab)) h h'

theorem lexLess_eq_false {x y : β} {c : Bool} :
    (if x ≠ y then decide (x < y) else c) = false ↔ y < x ∨ (y = x ∧ c = false) := by
  by_cases h : x = y
  · simp [h]
  · simp only [ne_eq, h, Ne.symm h, not_false_iff, if_true, decide_eq_false_iff_not, not_lt,
      false_and, or_false]
    exact le_iff_lt_or_eq.trans (or_iff_left (Ne.symm h))

variable {r : α → α → Prop} [DecidableRel r]

section

variable (hr : ∀ a b, r a b ↔ key a ≤ key b)

include hr

theorem insertionSort_keys_le (l : List α) :
    (l.insertionSort r).Pairwise fun a b => key a ≤ key b := by
  have : Std.Total r := ⟨fun a b => by rw [hr, hr]; exact le_total _ _⟩
  have : IsTrans α r := ⟨fun a b c => by rw [hr, hr, hr]; exact le_trans⟩
  exact (pairwise_insertionSort r l).imp fun {a b} => (hr a b).1

theorem insertionSort_keys_lt (h : (l.map key).Nodup) :
    (l.insertionSort r).Pairwise fun a b => key a < key b := by
  have hne := pairwise_map.1 (((perm_insertionSort r l).map key).nodup_iff.2 h)
  exact (insertionSort_keys_le hr l).imp₂ (fun a b hab hne => lt_of_le_of_ne hab hne) hne

theorem insertionSort_eq_of_perm (hperm : l.Perm l') (h : (l.map key).Nodup) :
    l.insertionSort r = l'.insertionSort r := by
  refine eq_of_keys_lt key (insertionSort_keys_lt hr h)
    (insertionSort_keys_lt hr ((hperm.map key).nodup_iff.1 h)) fun a => ?_
  rw [mem_insertionSort, mem_insertionSort, hperm.mem_iff]

theorem filter_insertionSort_congr (h : (l.map key).Nodup) (h' : (l'.map key).Nodup) {p : α → Bool}
    (hp : ∀ a, p a = true → (a ∈ l ↔ a ∈ l')) :
    (l.insertionSort r).filter p = (l'.insertionSort r).filter p := by
  refine eq_of_keys_lt key ((insertionSort_keys_lt hr h).filter p)
    ((insertionSort_keys_lt hr h').filter p) fun a => ?_
  simp only [mem_filter, mem_insertionSort]
  exact and_congr_left (hp a)

end

theorem RangeOrder.insertionSort_visit (order order' : RangeOrder α)
    (hr : ∀ a b, r a b ↔ key a ≤ key b) (h : (l.map key).Nodup) :
    (order.visit l).insertionSort r = (order'.visit l).insertionSort r :=
  insertionSort_eq_of_perm hr ((order.perm l).trans (order'.perm l).symm)
    (((order.perm l).map key).nodup_iff.2 h)

theorem filter_insertionSort (hr : ∀ a b, r a b ↔ key a ≤ key b) (k : β) (l : List α) :
    (l.insertionSort r).filter (key · = k) = l.filter (key · = k) := by
  have hsame : (l.filter (key · = k)).Pairwise r := by
    refine pairwise_of_forall_mem_list fun a ha b hb => (hr a b).2 ?_
    rw [of_decide_eq_true (mem_filter.1 ha).2, of_decide_eq_true (mem_filter.1 hb).2]
  have hsub := (sublist_insertionSort hsame filter_sublist).filter (key · = k)
  rw [filter_filter, funext fun a => Bool.and_self _] at hsub
  exact (hsub.eq_of_length (((perm_insertionSort r l).filter (key · = k)).length_eq.symm)).symm

/-- A sorted slice is known by its elements with each key. -/
theorem eq_of_filter_eq (h : l.Pairwise fun a b => key a ≤ key b)
    (h' : l'.Pairwise fun a b => key a ≤ key b)
    (hfilter : ∀ k, l.filter (key · = k) = l'.filter (key · = k)) : l = l' := by
  -- elements with the key of the first one are first in both
  have hleast {a b : α} {as bs : List α} (hb : (b :: bs).Pairwise fun a b => key a ≤ key b)
      (hfilter : (a :: as).filter (key · = key a) = (b :: bs).filter (key · = key a)) :
      key b ≤ key a := by
    have ha : a ∈ (b :: bs).filter (key · = key a) := hfilter ▸ by simp
    rcases mem_cons.1 (mem_filter.1 ha).1 with rfl | hmem
    · exact le_rfl
    · exact (pairwise_cons.1 hb).1 a hmem
  induction l generalizing l' with
  | nil =>
    cases l' with
    | nil => rfl
    | cons b bs => simpa using hfilter (key b)
  | cons a as ih =>
    cases l' with
    | nil => simpa using hfilter (key a)
    | cons b bs =>
      have hkey : key a = key b :=
        le_antisymm (hleast h (hfilter (key b)).symm) (hleast h' (hfilter (key a)))
      have hhead := hfilter (key a)
      rw [filter_cons_of_pos (by simp), filter_cons_of_pos (by simp [hkey])] at hhead
      obtain ⟨rfl, _⟩ := List.cons.inj hhead
      refine congrArg (a :: ·)
        (ih (pairwise_cons.1 h).2 (pairwise_cons.1 h').2 fun k => ?_)
      have hk := hfilter k
      by_cases hak : key a = k
      · rw [filter_cons_of_pos (by simp [hak]), filter_cons_of_pos (by simp [hak])] at hk
        exact (List.cons.inj hk).2
      · rwa [filter_cons_of_neg (by simp [hak]), filter_cons_of_neg (by simp [hak])] at hk

theorem filter_insertionSort_comm (hr : ∀ a b, r a b ↔ key a ≤ key b) (p : α → Bool)
    (l : List α) : (l.insertionSort r).filter p = (l.filter p).insertionSort r := by
  refine eq_of_filter_eq ((insertionSort_keys_le hr l).filter p) (insertionSort_keys_le hr _)
    fun k => ?_
  rw [filter_insertionSort hr, filter_comm, filter_insertionSort hr, filter_comm]

theorem insertionSort_eq_of_filter_eq (hr : ∀ a b, r a b ↔ key a ≤ key b)
    (hfilter : ∀ k, l.filter (key · = k) = l'.filter (key · = k)) :
    l.insertionSort r = l'.insertionSort r := by
  refine eq_of_filter_eq (insertionSort_keys_le hr l) (insertionSort_keys_le hr l') fun k => ?_
  rw [filter_insertionSort hr, filter_insertionSort hr, hfilter]

theorem find?_insertionSort (hr : ∀ a b, r a b ↔ key a ≤ key b) {p : α → Bool} {a : α}
    (h : (l.insertionSort r).find? p = some a) :
    (∀ b ∈ l, p b = true → key a ≤ key b) ∧ l.find? (fun b => p b && decide (key b = key a)) =
      some a := by
  obtain ⟨hp, before, after, hsorted, hbefore⟩ := find?_eq_some_iff_append.1 h
  constructor
  · intro b hb hpb
    have hmem : b ∈ before ++ a :: after := hsorted ▸ (mem_insertionSort r).2 hb
    have hpairwise := pairwise_append.1 (hsorted ▸ insertionSort_keys_le hr l)
    rcases mem_append.1 hmem with hmem | hmem
    · simpa [hpb] using hbefore b hmem
    rcases mem_cons.1 hmem with rfl | hmem
    · exact le_rfl
    · exact (pairwise_cons.1 hpairwise.2.1).1 b hmem
  · -- those with the same key are in the same order as before
    have hfilter : (l.filter (key · = key a)).find? p = some a := by
      rw [← filter_insertionSort hr, hsorted, filter_append, filter_cons_of_pos (by simp),
        find?_append, find?_eq_none.2, Option.none_or, find?_cons_of_pos hp]
      intro b hb
      simpa using hbefore b (mem_filter.1 hb).1
    rw [← hfilter, find?_filter]
    congr 1
    funext b
    rw [Bool.eq_iff_iff]
    simp [and_comm]

theorem perm_of_filter_eq {α γ : Type} [DecidableEq α] [DecidableEq γ] {key : α → γ}
    {l l' : List α} (h : ∀ k, l.filter (key · = k) = l'.filter (key · = k)) : l.Perm l' := by
  refine perm_iff_count.2 fun a => ?_
  have hcount (l : List α) : (l.filter (key · = key a)).count a = l.count a :=
    count_filter (decide_eq_true rfl)
  rw [← hcount l, h, hcount]

theorem RangeOrder.insertionSort_le_visit (order order' : RangeOrder β) (l : List β) :
    (order.visit l).insertionSort (· ≤ ·) = (order'.visit l).insertionSort (· ≤ ·) := by
  have hperm := ((order.perm l).trans (order'.perm l).symm)
  exact Perm.eq_of_pairwise' (pairwise_insertionSort _ _)
    (pairwise_insertionSort _ _)
    (((perm_insertionSort _ _).trans hperm).trans (perm_insertionSort _ _).symm)

section

variable {α γ : Type} {f : α → List γ} {l : List α}

theorem flatMap_eq_of_perm {l' : List α} (h : l.Perm l')
    (hf : ∀ a ∈ l, ∀ b ∈ l, a ≠ b → f a = [] ∨ f b = []) : l.flatMap f = l'.flatMap f := by
  induction h with
  | nil => rfl
  | cons a _ ih =>
    rw [flatMap_cons, flatMap_cons, ih fun b hb c hc =>
      hf b (mem_cons_of_mem _ hb) c (mem_cons_of_mem _ hc)]
  | swap a b l =>
    have hswap : f b ++ f a = f a ++ f b := by
      by_cases hab : b = a
      · rw [hab]
      · rcases hf b (by simp) a (by simp) hab with hnil | hnil <;> simp [hnil]
    rw [flatMap_cons, flatMap_cons, flatMap_cons, flatMap_cons,
      ← append_assoc, ← append_assoc, hswap]
  | trans hperm _ ih ih' =>
    refine (ih hf).trans (ih' fun a ha b hb => ?_)
    exact hf a (hperm.mem_iff.2 ha) b (hperm.mem_iff.2 hb)

theorem flatMap_filter_eq {p : α → Bool} (h : ∀ a ∈ l, p a = false → f a = []) :
    (l.filter p).flatMap f = l.flatMap f := by
  induction l with
  | nil => rfl
  | cons a l ih =>
    obtain ⟨ha, hl⟩ := forall_mem_cons.1 h
    cases hp : p a with
    | true => rw [filter_cons_of_pos hp, flatMap_cons, flatMap_cons, ih hl]
    | false =>
      rw [filter_cons_of_neg (by rw [hp]; exact Bool.false_ne_true), flatMap_cons,
        ha hp, ih hl, nil_append]

theorem flatMap_eq_of_forall₂ {β : Type} {R : α → β → Prop} {g : β → List γ} {l' : List β}
    (h : List.Forall₂ R l l') (hf : ∀ a ∈ l, ∀ b, R a b → f a = g b) :
    l.flatMap f = l'.flatMap g := by
  induction h with
  | nil => rfl
  | cons hab _ ih =>
    rw [flatMap_cons, flatMap_cons, hf _ mem_cons_self _ hab,
      ih fun a ha => hf a (mem_cons_of_mem _ ha)]

end

theorem foldl_getD {α β : Type} (f : α → Option β) (l : List α) (b : β) :
    l.foldl (fun b a => (f a).getD b) b = ((l.filterMap f).getLast?).getD b := by
  induction l generalizing b with
  | nil => rfl
  | cons a l ih =>
    rw [foldl_cons, ih, filterMap_cons]
    cases f a with
    | none => rfl
    | some b' =>
      rw [getLast?_cons]
      rfl

theorem getLast?_flatten_eq {β : Type} {ls ls' : List (List β)}
    (hperm : List.Forall₂ List.Perm ls ls')
    (h : ∀ before l after, ls = before ++ l :: after → after.flatten = [] →
      ∀ a ∈ l, ∀ b ∈ l, a = b) : ls.flatten.getLast? = ls'.flatten.getLast? := by
  induction hperm with
  | nil => rfl
  | @cons l l' ls ls' hl _ ih =>
    have ih := ih fun before k after hk => h (l :: before) k after (congrArg (l :: ·) hk)
    rw [flatten_cons, flatten_cons, getLast?_append, getLast?_append, ih]
    cases hlast : ls'.flatten.getLast? with
    | some b => rfl
    | none =>
      rw [hlast] at ih
      have hsame := h [] l ls rfl (getLast?_eq_none_iff.1 ih)
      rw [Option.none_or, Option.none_or]
      cases hb : l.getLast? with
      | none =>
        rw [getLast?_eq_none_iff.1 hb] at hl
        rw [hl.nil_eq.symm]
        rfl
      | some b =>
        cases hb' : l'.getLast? with
        | none =>
          rw [getLast?_eq_none_iff.1 hb'] at hl
          rw [hl.eq_nil] at hb
          cases hb
        | some b' =>
          rw [hsame b (mem_of_getLast? hb) b' (hl.mem_iff.2 (mem_of_getLast? hb'))]
end Go
