import Mathlib.Data.List.AList
import Mathlib.Data.List.Induction
import Mathlib.Tactic.Common

/-!
# Go maps

A Go map is a finite function: an `AList`, of which the code reads what it has at a key
(`get?`) and, with `range`, its pairs (`toPairs`). The order in which `range` visits them
is not specified: such code takes that order as a parameter, a `RangeOrder`.

Loops that fill a map are folds of updates `m[k] = f(m[k])` (`alter`). What such a loop
leaves at a key is what the updates of that key make of it, in order:

* `get?_foldl_alter`: for any updates;
* `get?_foldl_appendAt`: for `m[k] = append(m[k], v)`, which groups the values by key;
* `get?_foldl_alter_alter`: for updates in a map of maps;
* `get?_ofList`: a map filled from pairs with distinct keys holds these pairs.

Code that has to visit a map in a fixed order collects its keys in a slice (`Lists`).
-/

namespace Go

open List

/-- A Go map. -/
abbrev Map (κ ν : Type) := AList (fun _ : κ => ν)

namespace Map

variable {κ ν : Type} [DecidableEq κ]

/-- Reading a key: `m[k]` and whether it is there. -/
def get? (m : Map κ ν) (k : κ) : Option ν := m.lookup k

/-- `m[k] = v`. -/
def set (m : Map κ ν) (k : κ) (v : ν) : Map κ ν := m.insert k v

@[simp]
theorem get?_empty (k : κ) : (∅ : Map κ ν).get? k = none := AList.lookup_empty k

theorem get?_set (m : Map κ ν) (k k' : κ) (v : ν) :
    (m.set k v).get? k' = if k' = k then some v else m.get? k' := by
  by_cases h : k' = k
  · subst h
    rw [if_pos rfl]
    exact AList.lookup_insert m
  · rw [if_neg h]
    exact AList.lookup_insert_ne h

/-- The map made of the pairs `l`, a later pair overriding an earlier one. -/
def ofList (l : List (κ × ν)) : Map κ ν := l.foldl (fun m p => m.set p.1 p.2) ∅

variable {k : κ} {ε : Type} {m : Map κ ν}

theorem get?_ofList {l : List (κ × ν)} (hl : (l.map Prod.fst).Nodup) {v : ν} :
    (ofList l).get? k = some v ↔ (k, v) ∈ l := by
  induction l using reverseRecOn with
  | nil => simp [ofList]
  | append_singleton l p ih =>
    rw [map_append, nodup_append] at hl
    obtain ⟨hl, _, hp⟩ := hl
    rw [ofList, foldl_concat, ← ofList, get?_set, mem_append, mem_singleton]
    by_cases hk : k = p.1
    · -- the last pair overrides, and no earlier pair has its key
      have hnot : (k, v) ∉ l := fun h => hp k (mem_map_of_mem h) p.1 (by simp) hk
      rw [if_pos hk, or_iff_right hnot, Option.some_inj, Prod.ext_iff]
      exact ⟨fun h => ⟨hk, h.symm⟩, fun h => h.2.symm⟩
    · rw [if_neg hk, ih hl, or_iff_left]
      exact fun h => hk (Prod.ext_iff.1 h).1

theorem get?_foldl_set (l : List (κ × ν)) (m : Map κ ν) (k : κ) :
    (l.foldl (fun m p => m.set p.1 p.2) m).get? k = ((ofList l).get? k).or (m.get? k) := by
  induction l using reverseRecOn with
  | nil => simp [ofList]
  | append_singleton l p ih =>
    rw [ofList, foldl_concat, foldl_concat, ← ofList, get?_set, get?_set, ih]
    split_ifs <;> rfl

/-! ## Updates -/

/-- `m[k] = f(m[k])`. -/
def alter (m : Map κ ν) (k : κ) (f : Option ν → ν) : Map κ ν := m.set k (f (m.get? k))

theorem get?_alter (m : Map κ ν) (k k' : κ) (f : Option ν → ν) :
    (m.alter k f).get? k' = if k' = k then some (f (m.get? k)) else m.get? k' :=
  get?_set m k k' _

/-- `delete(m, k)`. -/
def delete (m : Map κ ν) (k : κ) : Map κ ν := m.erase k

theorem get?_delete (m : Map κ ν) (k k' : κ) :
    (m.delete k).get? k' = if k' = k then none else m.get? k' := by
  by_cases h : k' = k
  · subst h
    rw [if_pos rfl]
    exact AList.lookup_erase k' m
  · rw [if_neg h]
    exact AList.lookup_erase_ne h

/-- What a loop leaves at a key is what the iterations for that key make of it, if the others leave
    it alone. -/
theorem get?_foldl (key : ε → κ) (g : ε → Option ν → Option ν) {f : Map κ ν → ε → Map κ ν}
    (hstep : ∀ m e, (f m e).get? k = if key e = k then g e (m.get? k) else m.get? k) (es : List ε)
    (m : Map κ ν) :
    (es.foldl f m).get? k = (es.filter fun e => key e = k).foldl (fun o e => g e o) (m.get? k) := by
  induction es generalizing m with
  | nil => rfl
  | cons e es ih =>
    rw [foldl_cons, ih, hstep]
    by_cases h : key e = k
    · rw [filter_cons_of_pos (by simpa using h), foldl_cons, if_pos h]
    · rw [filter_cons_of_neg (by simpa using h), if_neg h]

theorem get?_foldl_alter (key : ε → κ) (f : ε → Option ν → ν) (es : List ε) (m : Map κ ν) (k : κ) :
    (es.foldl (fun m e => m.alter (key e) (f e)) m).get? k =
      (es.filter fun e => key e = k).foldl (fun o e => some (f e o)) (m.get? k) := by
  refine get?_foldl key (fun e o => some (f e o)) (fun m e => ?_) es m
  rw [get?_alter]
  by_cases h : key e = k
  · rw [if_pos h.symm, if_pos h, h]
  · rw [if_neg (Ne.symm h), if_neg h]

theorem foldl_some_getD (g : ε → ν → ν) (d : ν) (es : List ε) :
    es.foldl (fun o e => some (g e (o.getD d))) none =
      if es = [] then none else some (es.foldl (fun v e => g e v) d) := by
  induction es using reverseRecOn with
  | nil => rfl
  | append_singleton es e ih =>
    rw [foldl_concat, ih, foldl_concat]
    by_cases h : es = []
    · simp [h]
    · simp [h]

/-- `m[k] = append(m[k], v)`. -/
def appendAt {α : Type} (m : Map κ (List α)) (k : κ) (v : α) : Map κ (List α) :=
  m.alter k fun vs => vs.getD [] ++ [v]

theorem foldl_append_singleton {α : Type} (val : ε → α) (es : List ε) (vs : List α) :
    es.foldl (fun vs e => vs ++ [val e]) vs = vs ++ es.map val := by
  induction es generalizing vs with
  | nil => simp
  | cons e es ih =>
    rw [foldl_cons, ih, map_cons, append_assoc, singleton_append]

theorem foldl_append_getD {α : Type} (val : ε → α) (es : List ε) :
    es.foldl (fun vs e => some (vs.getD [] ++ [val e])) none =
      if es = [] then none else some (es.map val) := by
  have hfold := foldl_some_getD (fun e vs => vs ++ [val e]) [] es
  rw [foldl_append_singleton, nil_append] at hfold
  exact hfold

theorem get?_foldl_appendAt {α : Type} (key : ε → κ) (val : ε → α) (es : List ε) (k : κ) :
    (es.foldl (fun m e => m.appendAt (key e) (val e)) (∅ : Map κ (List α))).get? k =
      if (es.filter fun e => key e = k) = [] then none
      else some ((es.filter fun e => key e = k).map val) := by
  rw [← foldl_append_getD]
  exact get?_foldl_alter key (fun e vs => vs.getD [] ++ [val e]) es ∅ k

theorem get?_foldl_alter_alter {κ' : Type} [DecidableEq κ'] (key : ε → κ) (key' : ε → κ')
    (f : ε → Option ν → ν) (es : List ε) (k : κ) (k' : κ') :
    ((es.foldl (fun m e => m.alter (key e) fun o => (o.getD ∅).alter (key' e) (f e))
      (∅ : Map κ (Map κ' ν))).get? k).bind (·.get? k') =
      ((es.filter fun e => key e = k).filter fun e => key' e = k').foldl
        (fun o e => some (f e o)) none := by
  have houter := get?_foldl_alter key
    (fun e (o : Option (Map κ' ν)) => (o.getD ∅).alter (key' e) (f e)) es ∅ k
  have hdefault := foldl_some_getD (fun e (m : Map κ' ν) => m.alter (key' e) (f e)) ∅
    (es.filter fun e => key e = k)
  rw [houter, get?_empty]
  refine (congrArg (Option.bind · (·.get? k')) hdefault).trans ?_
  by_cases hnil : (es.filter fun e => key e = k) = []
  · rw [if_pos hnil, hnil]
    rfl
  · rw [if_neg hnil, Option.bind_some, get?_foldl_alter, get?_empty]

/-! ## Iteration -/

/-- The pairs of a map. -/
def toPairs (m : Map κ ν) : List (κ × ν) := m.entries.map fun p => (p.1, p.2)

theorem mem_toPairs {v : ν} : (k, v) ∈ m.toPairs ↔ m.get? k = some v := by
  rw [toPairs, mem_map]
  constructor
  · rintro ⟨⟨k', v'⟩, hmem, heq⟩
    obtain ⟨rfl, rfl⟩ := Prod.mk.inj heq
    exact AList.mem_lookup_iff.2 hmem
  · intro h
    exact ⟨⟨k, v⟩, AList.mem_lookup_iff.1 h, rfl⟩

omit [DecidableEq κ] in
theorem nodup_keys_toPairs (m : Map κ ν) : (m.toPairs.map Prod.fst).Nodup := by
  rw [toPairs, map_map]
  exact m.nodupKeys

theorem get?_ofList_toPairs (m : Map κ ν) (k : κ) : (ofList m.toPairs).get? k = m.get? k := by
  refine Option.ext fun v => ?_
  rw [get?_ofList m.nodup_keys_toPairs, mem_toPairs]

theorem filter_toPairs {v : ν} (h : m.get? k = some v) :
    m.toPairs.filter (fun p => p.1 = k) = [(k, v)] := by
  have hmem := mem_toPairs.2 h
  have hnodup := m.nodup_keys_toPairs
  generalize m.toPairs = l at hmem hnodup
  induction l with
  | nil => cases hmem
  | cons p l ih =>
    rw [map_cons, nodup_cons] at hnodup
    rcases mem_cons.1 hmem with rfl | hmem
    · rw [filter_cons_of_pos (by simp), filter_eq_nil_iff.2]
      intro q hq hkey
      exact hnodup.1 (mem_map.2 ⟨q, hq, of_decide_eq_true hkey⟩)
    · have hne : p.1 ≠ k := fun hkey => hnodup.1 (hkey ▸ mem_map_of_mem hmem)
      rw [filter_cons_of_neg (by simpa using hne), ih hmem hnodup.2]

/-- What nested loops over a map of maps visit. -/
def toTriples {κ' : Type} (m : Map κ (Map κ' ν)) : List (κ × κ' × ν) :=
  m.toPairs.flatMap fun p => p.2.toPairs.map fun q => (p.1, q.1, q.2)

theorem mem_toTriples {κ' : Type} [DecidableEq κ'] {m : Map κ (Map κ' ν)} {k' : κ'} {v : ν} :
    (k, k', v) ∈ m.toTriples ↔ (m.get? k).bind (·.get? k') = some v := by
  rw [toTriples, mem_flatMap, Option.bind_eq_some_iff]
  constructor
  · rintro ⟨⟨k₀, m'⟩, hp, ht⟩
    obtain ⟨⟨k₀', v₀⟩, hq, heq⟩ := mem_map.1 ht
    simp only [Prod.mk.injEq] at heq
    obtain ⟨rfl, rfl, rfl⟩ := heq
    exact ⟨m', mem_toPairs.1 hp, mem_toPairs.1 hq⟩
  · rintro ⟨m', hm', hv⟩
    exact ⟨(k, m'), mem_toPairs.2 hm', mem_map.2 ⟨(k', v), mem_toPairs.2 hv, rfl⟩⟩

omit [DecidableEq κ] in
theorem nodup_keys_toTriples {κ' : Type} (m : Map κ (Map κ' ν)) :
    (m.toTriples.map fun t => (t.1, t.2.1)).Nodup := by
  rw [toTriples, map_flatMap, nodup_flatMap]
  constructor
  · -- the inner keys of one outer key
    intro p _
    rw [map_map]
    exact Nodup.of_map Prod.snd (by
      rw [map_map]
      exact nodup_keys_toPairs p.2)
  · -- different outer keys
    refine (pairwise_map.1 (nodup_keys_toPairs m)).imp fun {p q} hne t hp hq => ?_
    simp only [map_map, mem_map, Function.comp_apply] at hp hq
    obtain ⟨_, _, rfl⟩ := hp
    obtain ⟨_, _, heq⟩ := hq
    exact hne (congrArg Prod.fst heq).symm

/-! ## The keys in a slice -/

/-- `ks` lists the keys of `m`, each of them once. -/
structure Lists (m : Map κ ν) (ks : List κ) : Prop where
  nodup : ks.Nodup
  mem_iff : ∀ k, k ∈ ks ↔ ∃ v, m.get? k = some v

theorem Lists.empty : (∅ : Map κ ν).Lists [] := ⟨nodup_nil, fun k => by simp⟩

theorem lists_of_perm {ks : List κ} (h : ks.Perm (m.toPairs.map Prod.fst)) : m.Lists ks := by
  refine ⟨h.nodup_iff.2 (nodup_keys_toPairs m), fun k => h.mem_iff.trans ?_⟩
  simp only [mem_map, Prod.exists, exists_and_right, exists_eq_right, mem_toPairs]

theorem Lists.set {ks : List κ} (h : m.Lists ks) (hk : k ∉ ks) (v : ν) :
    (m.set k v).Lists (ks ++ [k]) := by
  constructor
  · exact nodup_append.2 ⟨h.nodup, nodup_singleton k, by
      intro a ha b hb heq
      exact hk (mem_singleton.1 hb ▸ heq ▸ ha)⟩
  · intro k'
    rw [mem_append, mem_singleton, h.mem_iff, get?_set]
    by_cases hkey : k' = k
    · simp [hkey]
    · simp [hkey]

end Map

/-- An order in which `range` may visit what a map has. -/
structure RangeOrder (α : Type) where
  visit : List α → List α
  perm : ∀ l, (visit l).Perm l

/-- The order of the entries. -/
def RangeOrder.entries {α : Type} : RangeOrder α := ⟨fun l => l, fun l => .refl l⟩

def RangeOrder.reversed {α : Type} : RangeOrder α := ⟨List.reverse, reverse_perm⟩

/-- The elements that satisfy `p` last. -/
def RangeOrder.last {α : Type} (p : α → Bool) : RangeOrder α where
  visit l := l.filter (fun a => !p a) ++ l.filter p
  perm l := perm_append_comm.trans (filter_append_perm p l)

/-- An order in which a key comes first. -/
theorem RangeOrder.visit_last_toPairs {κ ν : Type} [DecidableEq κ] {m : Map κ ν} {k : κ} {v : ν}
    (h : m.get? k = some v) : (RangeOrder.last fun e => e.1 ≠ k).visit m.toPairs =
      (k, v) :: m.toPairs.filter fun e => e.1 ≠ k := by
  have hfirst : m.toPairs.filter (fun e => !decide (e.1 ≠ k)) = [(k, v)] := by
    simpa only [decide_not, Bool.not_not] using Map.filter_toPairs h
  exact congrArg (· ++ _) hfirst

end Go
