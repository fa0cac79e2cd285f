import Mathlib.Data.List.Basic
import Mathlib.Data.List.Induction
import Mathlib.Data.List.Nodup
import Mathlib.Tactic.Common

/-!
# Updating an element of a slice, or appending one

A loop looks for the first element of a slice with some property. If there is one it is
updated, otherwise an element is appended (`upsert`). Updates compose (`upsert_upsert`), and
what is found afterwards is what the update made of what was found before (`find?_upsert`).

If the update only replaces the element that has the same key, it is `record`. The last record
of a key counts (`record_record`), and records of different keys commute if this does not move
an element that is appended (`record_comm`).
-/

namespace Go

open List

variable {α β : Type}

/-- Update the first element with `p`, or append the update of `e`. -/
def upsert (p : α → Bool) (e : α) (f : α → α) : List α → List α
  | [] => [f e]
  | a :: as => if p a then f a :: as else a :: upsert p e f as

section

variable {p : α → Bool} {e : α} {f g : α → α} {l : List α}

theorem upsert_upsert (hp : ∀ a, p a = true → p (f a) = true) (he : p e = true) :
    upsert p e g (upsert p e f l) = upsert p e (fun a => g (f a)) l := by
  induction l with
  | nil => simp only [upsert, hp e he, if_true]
  | cons a as ih =>
    by_cases ha : p a = true
    · simp only [upsert, ha, hp a ha, if_true]
    · simp only [upsert, if_neg ha, ih]

theorem find?_upsert (hp : ∀ a, p a = true → p (f a) = true) (he : p e = true) :
    (upsert p e f l).find? p = some (f ((l.find? p).getD e)) := by
  induction l with
  | nil => simp [upsert, hp e he]
  | cons a as ih =>
    by_cases ha : p a = true
    · simp [upsert, ha, hp a ha]
    · simp only [upsert, if_neg ha, find?_cons_of_neg ha, ih]

theorem find?_upsert_of_not {q : α → Bool} (hq : ∀ a, p a = true → q a = false ∧ q (f a) = false)
    (he : q (f e) = false) : (upsert p e f l).find? q = l.find? q := by
  induction l with
  | nil => simp [upsert, he]
  | cons a as ih =>
    by_cases ha : p a = true
    · simp [upsert, ha, hq a ha]
    · simp only [upsert, if_neg ha, find?_cons, ih]

theorem mem_of_mem_upsert {a : α} (h : a ∈ upsert p e f l) : a ∈ l ∨ ∃ b, a = f b := by
  induction l with
  | nil => exact .inr ⟨e, mem_singleton.1 h⟩
  | cons b l ih =>
    rw [upsert] at h
    split_ifs at h
    · exact (mem_cons.1 h).elim (fun h => .inr ⟨b, h⟩) fun h => .inl (mem_cons_of_mem b h)
    · rcases mem_cons.1 h with rfl | h
      · exact .inl mem_cons_self
      · exact (ih h).imp_left (mem_cons_of_mem b)

theorem map_upsert {h : α → β} {p' : β → Bool} {f' : β → β} (hp : ∀ a, p' (h a) = p a)
    (hf : ∀ a, h (f a) = f' (h a)) :
    (upsert p e f l).map h = upsert p' (h e) f' (l.map h) := by
  induction l with
  | nil => simp [upsert, hf]
  | cons a as ih =>
    by_cases ha : p a = true
    · simp [upsert, ha, hp, hf]
    · simp only [upsert, map_cons, hp, if_neg ha, ih]

end

/-! ## Records -/

section

variable {κ : Type} [DecidableEq κ] (key : α → κ)

/-- Replace the first element with the key of `v` by `v`, or append `v`. -/
def record (v : α) (l : List α) : List α := upsert (fun a => key a == key v) v (fun _ => v) l

variable {key} {v w : α} {l : List α}

theorem record_nil : record key v [] = [v] := rfl

theorem record_cons {a : α} :
    record key v (a :: l) = if key a = key v then v :: l else a :: record key v l := by
  simp only [record, upsert, beq_iff_eq]

theorem record_record (h : key v = key w) : record key v (record key w l) = record key v l := by
  induction l with
  | nil => rw [record_nil, record_nil, record_cons, if_pos h.symm]
  | cons a as ih =>
    rw [record_cons, record_cons, h]
    split_ifs with ha
    · rw [record_cons, if_pos h.symm]
    · rw [record_cons, h, if_neg ha, ih]

/-- Records are kept by functions that keep the keys. -/
theorem map_foldl_record {key' : β → κ} {h : α → β} (hkey : ∀ a, key' (h a) = key a) (us : List α) :
    (us.foldl (fun l u => record key u l) l).map h =
      (us.map h).foldl (fun l u => record key' u l) (l.map h) := by
  induction us generalizing l with
  | nil => rfl
  | cons u us ih =>
    have hstep : (record key u l).map h = record key' (h u) (l.map h) :=
      map_upsert (fun a => by rw [hkey, hkey]) fun _ => rfl
    rw [foldl_cons, ih, hstep, map_cons, foldl_cons]

theorem find?_record_of_eq {k : κ} (h : key v = k) :
    (record key v l).find? (fun a => key a == k) = some v := by
  subst h
  exact find?_upsert (fun _ _ => by simp) (by simp)

theorem find?_record_of_ne {k : κ} (h : key v ≠ k) :
    (record key v l).find? (fun a => key a == k) = l.find? (fun a => key a == k) := by
  induction l with
  | nil => simp [record_nil, h]
  | cons a as ih =>
    rw [record_cons]
    split_ifs with ha
    · rw [find?_cons_of_neg (by simpa using h), find?_cons_of_neg (by simpa [ha] using h)]
    · rw [find?_cons, find?_cons, ih]

theorem map_key_record : (record key v l).map key =
      l.map key ++ if key v ∈ l.map key then [] else [key v] := by
  induction l with
  | nil => simp [record_nil]
  | cons a as ih =>
    rw [record_cons]
    by_cases ha : key a = key v
    · simp [ha]
    · have hmem : key v ∈ key a :: as.map key ↔ key v ∈ as.map key := by simp [Ne.symm ha]
      simp only [if_neg ha, hmem, map_cons, ih, cons_append]

theorem nodup_key_record (h : (l.map key).Nodup) : ((record key v l).map key).Nodup := by
  rw [map_key_record]
  split_ifs with hv
  · rwa [append_nil]
  · exact nodup_append.2
      ⟨h, nodup_singleton _, fun k hk k' hk' => by
        rw [mem_singleton.1 hk']
        rintro rfl
        exact hv hk⟩

theorem map_key_foldl_record {us : List α} (hus : (us.map key).Nodup) :
    (us.foldl (fun l u => record key u l) l).map key =
      l.map key ++ (us.map key).filter (· ∉ l.map key) := by
  induction us generalizing l with
  | nil => simp
  | cons u us ih =>
    obtain ⟨hu, hus⟩ := nodup_cons.1 hus
    -- the key of the first record is none of the others
    have hrest : (us.map key).filter (· ∉ (record key u l).map key) =
        (us.map key).filter (· ∉ l.map key) := by
      refine filter_congr fun k hk => ?_
      have hne : k ≠ key u := by
        rintro rfl
        exact hu hk
      rw [map_key_record]
      split_ifs <;> simp [hne]
    rw [foldl_cons, ih hus, hrest, map_key_record, append_assoc, map_cons, filter_cons]
    split_ifs <;> simp_all

theorem find?_key_of_nodup (hl : (l.map key).Nodup) (hv : v ∈ l) :
    l.find? (fun a => key a == key v) = some v := by
  obtain ⟨a, ha⟩ := Option.isSome_iff_exists.1
    (find?_isSome.2 ⟨v, hv, beq_self_eq_true (key v)⟩ :
      (l.find? fun a => key a == key v).isSome = true)
  have hkey : key a = key v := beq_iff_eq.1 (find?_some (p := fun a => key a == key v) ha)
  rw [ha, inj_on_of_nodup_map hl (mem_of_find?_eq_some ha) hv hkey]

section

variable {us : List α}

theorem find?_foldl_record {k : κ} :
    (us.foldl (fun l u => record key u l) l).find? (fun a => key a == k) =
      (us.reverse.find? fun a => key a == k).or (l.find? fun a => key a == k) := by
  induction us using reverseRecOn with
  | nil => rfl
  | append_singleton us u ih =>
    rw [foldl_concat, reverse_append, reverse_singleton, singleton_append]
    by_cases hu : key u = k
    · rw [find?_record_of_eq hu, find?_cons_of_pos (by simpa using hu), Option.some_or]
    · rw [find?_record_of_ne hu, ih, find?_cons_of_neg (by simpa using hu)]

theorem foldl_record_cons {a : α} : us.foldl (fun l u => record key u l) (a :: l) =
      (us.reverse.find? fun u => key u == key a).getD a ::
        (us.filter fun u => key u ≠ key a).foldl (fun l u => record key u l) l := by
  induction us using reverseRecOn with
  | nil => rfl
  | append_singleton us u ih =>
    have hkey : key ((us.reverse.find? fun u => key u == key a).getD a) = key a := by
      cases hfind : us.reverse.find? fun u => key u == key a with
      | none => rfl
      | some v => exact beq_iff_eq.1 (find?_some (p := fun u => key u == key a) hfind)
    rw [foldl_concat, ih, record_cons, hkey, reverse_append, reverse_singleton,
      singleton_append, filter_append]
    by_cases hu : key a = key u
    · rw [if_pos hu, find?_cons_of_pos (by simp [hu]), filter_cons_of_neg (by simp [hu]),
        filter_nil, append_nil, Option.getD_some]
    · rw [if_neg hu, find?_cons_of_neg (by simpa using Ne.symm hu),
        filter_cons_of_pos (by simpa using Ne.symm hu), filter_nil, foldl_concat]

/-- Records change nothing exactly when the last one of each key is there already. -/
theorem foldl_record_eq_iff : us.foldl (fun l u => record key u l) l = l ↔
    ∀ u, (us.reverse.find? fun a => key a == key u) = some u →
      (l.find? fun a => key a == key u) = some u := by
  constructor
  · intro h u hu
    rw [← h, find?_foldl_record, hu, Option.some_or]
  · intro h
    induction l generalizing us with
    | nil =>
      rcases eq_nil_or_concat us with rfl | ⟨us, u, rfl⟩
      · rfl
      · have hthis := h u (by simp)
        cases hthis
    | cons a l ih =>
      rw [foldl_record_cons]
      have hhead : (us.reverse.find? fun u => key u == key a).getD a = a := by
        cases hfind : us.reverse.find? fun u => key u == key a with
        | none => rfl
        | some v =>
          have hv : key v = key a :=
            beq_iff_eq.1 (find?_some (p := fun u => key u == key a) hfind)
          have hthis := h v (by rw [hv]; exact hfind)
          rw [find?_cons_of_pos (by simp [hv])] at hthis
          exact (Option.some_inj.1 hthis).symm
      rw [hhead, ih]
      intro u hu
      -- a record of another key is not found at the first element
      have hmem := mem_reverse.1 (mem_of_find?_eq_some hu)
      have hne : key u ≠ key a := of_decide_eq_true (mem_filter.1 hmem).2
      have hlast : (us.reverse.find? fun a => key a == key u) = some u := by
        rw [← hu, ← filter_reverse, find?_filter]
        congr 1
        funext b
        by_cases hb : key b = key u
        · simp [hb, hne]
        · simp [hb]
      have hthis := h u hlast
      rwa [find?_cons_of_neg (by simpa using Ne.symm hne)] at hthis

theorem foldl_record_foldl_record :
    us.foldl (fun l u => record key u l) (us.foldl (fun l u => record key u l) l) =
      us.foldl (fun l u => record key u l) l := by
  rw [foldl_record_eq_iff]
  intro u hu
  rw [find?_foldl_record, hu, Option.some_or]

end

theorem record_comm (h : key v ≠ key w) (hv : (l.find? fun a => key a == key v).isSome = true) :
    record key v (record key w l) = record key w (record key v l) := by
  induction l with
  | nil => cases hv
  | cons a as ih =>
    rw [record_cons, record_cons]
    by_cases hav : key a = key v
    · have haw : key a ≠ key w := hav ▸ h
      rw [if_neg haw, if_pos hav, record_cons, if_pos hav, record_cons, if_neg h]
    · rw [if_neg hav]
      by_cases haw : key a = key w
      · rw [if_pos haw, record_cons, if_neg (Ne.symm h), record_cons, if_pos haw]
      · rw [find?_cons_of_neg (by simpa using hav)] at hv
        rw [if_neg haw, record_cons, if_neg hav, record_cons, if_neg haw, ih hv]

end

/-! ## Updates in sequence -/

section

variable {κ ω : Type} [DecidableEq κ]

/-- Updates in sequence, each of the first element with its key, or of a new one. -/
def upserts (key : α → κ) (wkey : ω → κ) (new : κ → α) (f : ω → α → α) (ws : List ω) (l : List α) :
    List α :=
  ws.foldl (fun l w => upsert (fun a => key a = wkey w) (new (wkey w)) (f w) l) l

/-- What the updates for a key make of an element. -/
def updated (wkey : ω → κ) (f : ω → α → α) (ws : List ω) (k : κ) (a : α) : α :=
  (ws.filter fun w => wkey w = k).foldl (fun a w => f w a) a

variable {key : α → κ} {wkey : ω → κ} {new : κ → α} {f : ω → α → α} {ws : List ω} {l : List α}
  {a : α} {k : κ}

theorem updated_filter_ne {k' : κ} (h : k' ≠ k) :
    updated wkey f (ws.filter fun w => wkey w ≠ k) k' a = updated wkey f ws k' a := by
  rw [updated, updated, filter_filter]
  congr 1
  refine filter_congr fun w _ => ?_
  by_cases hw : wkey w = k'
  · simp [hw, h]
  · simp [hw]

theorem updated_cons_of_eq {w : ω} (h : wkey w = k) :
    updated wkey f (w :: ws) k a = updated wkey f ws k (f w a) := by
  simp [updated, h]

theorem updated_cons_of_ne {w : ω} (h : wkey w ≠ k) :
    updated wkey f (w :: ws) k a = updated wkey f ws k a := by
  simp [updated, h]

theorem updated_of_not (h : ∀ w ∈ ws, wkey w ≠ k) : updated wkey f ws k a = a := by
  rw [updated, filter_eq_nil_iff.2 fun w hw => by simpa using h w hw]
  rfl

theorem updated_concat_of_eq {w : ω} (h : wkey w = k) :
    updated wkey f (ws ++ [w]) k a = f w (updated wkey f ws k a) := by
  simp [updated, h]

theorem updated_concat_of_ne {w : ω} (h : wkey w ≠ k) :
    updated wkey f (ws ++ [w]) k a = updated wkey f ws k a := by
  simp [updated, h]

variable (hf : ∀ w a, key (f w a) = key a)

include hf

theorem upserts_cons : upserts key wkey new f ws (a :: l) = updated wkey f ws (key a) a ::
      upserts key wkey new f (ws.filter fun w => wkey w ≠ key a) l := by
  induction ws generalizing a l with
  | nil => rfl
  | cons w ws ih =>
    by_cases hw : wkey w = key a
    · have hstep : upserts key wkey new f (w :: ws) (a :: l) =
          upserts key wkey new f ws (f w a :: l) := by
        simp [upserts, upsert, hw]
      rw [hstep, ih, hf, updated_cons_of_eq hw, filter_cons_of_neg (by simp [hw])]
    · have hstep : upserts key wkey new f (w :: ws) (a :: l) = upserts key wkey new f ws
            (a :: upsert (fun a => key a = wkey w) (new (wkey w)) (f w) l) := by
        simp [upserts, upsert, Ne.symm hw]
      rw [hstep, ih, updated_cons_of_ne hw, filter_cons_of_pos (by simp [hw])]
      rfl

/-- The elements stay where they are. -/
theorem getElem?_upserts {i : Nat} (h : l[i]? = some a) :
    ∃ ws', (upserts key wkey new f ws l)[i]? = some (updated wkey f ws' (key a) a) := by
  induction l generalizing ws i with
  | nil => cases h
  | cons b l ih =>
    rw [upserts_cons hf]
    cases i with
    | zero =>
      obtain rfl := Option.some_inj.1 h
      exact ⟨ws, rfl⟩
    | succ i => exact ih h

variable (hnew : ∀ k, key (new k) = k)

include hnew

theorem mem_upserts_nil {e : α} : e ∈ upserts key wkey new f ws [] ↔
    ∃ w ∈ ws, e = updated wkey f ws (wkey w) (new (wkey w)) := by
  induction hn : ws.length using Nat.strongRecOn generalizing ws with
  | _ n ih =>
    cases ws with
    | nil => simp [upserts]
    | cons w ws =>
      have hstep : upserts key wkey new f (w :: ws) [] =
          upserts key wkey new f ws [f w (new (wkey w))] := rfl
      have hlt : (ws.filter fun w' => wkey w' ≠ wkey w).length < n := by
        rw [← hn, length_cons]
        exact Nat.lt_succ_of_le (length_filter_le _ _)
      rw [hstep, upserts_cons hf, hf, hnew, mem_cons, ih _ hlt rfl]
      constructor
      · rintro (rfl | ⟨w', hw', rfl⟩)
        · exact ⟨w, mem_cons_self, (updated_cons_of_eq rfl).symm⟩
        · obtain ⟨hw', hne⟩ := mem_filter.1 hw'
          have hne : wkey w' ≠ wkey w := of_decide_eq_true hne
          exact ⟨w', mem_cons_of_mem _ hw',
            by rw [updated_filter_ne hne, updated_cons_of_ne hne.symm]⟩
      · rintro ⟨w', hw', rfl⟩
        by_cases hk : wkey w' = wkey w
        · exact .inl (by rw [hk, updated_cons_of_eq rfl])
        · have hmem : w' ∈ ws := (mem_cons.1 hw').resolve_left fun h => hk (congrArg wkey h)
          exact .inr ⟨w', mem_filter.2 ⟨hmem, decide_eq_true hk⟩,
            by rw [updated_filter_ne hk, updated_cons_of_ne (Ne.symm hk)]⟩

omit hf hnew in
/-- What is found for the updates, in a slice with another element in front. -/
theorem forall_updated_cons {R : Option α → α → Prop} :
    (∀ w ∈ ws, R ((a :: l).find? fun a => key a = wkey w) (updated wkey f ws (wkey w)
        (((a :: l).find? fun a => key a = wkey w).getD (new (wkey w))))) ↔
      ((∃ w ∈ ws, wkey w = key a) → R (some a) (updated wkey f ws (key a) a)) ∧
        ∀ w ∈ ws.filter fun w => wkey w ≠ key a, R (l.find? fun a => key a = wkey w)
          (updated wkey f (ws.filter fun w => wkey w ≠ key a) (wkey w)
            ((l.find? fun a => key a = wkey w).getD (new (wkey w)))) := by
  constructor
  · intro h
    constructor
    · rintro ⟨w, hw, hk⟩
      have hthis := h w hw
      rwa [find?_cons_of_pos (by simp [hk]), hk] at hthis
    · intro w hw
      obtain ⟨hw, hk⟩ := mem_filter.1 hw
      have hk : wkey w ≠ key a := of_decide_eq_true hk
      have hthis := h w hw
      rwa [find?_cons_of_neg (by simp [Ne.symm hk]), ← updated_filter_ne hk] at hthis
  · rintro ⟨hhead, htail⟩ w hw
    by_cases hk : wkey w = key a
    · rw [find?_cons_of_pos (by simp [hk]), hk]
      exact hhead ⟨w, hw, hk⟩
    · have hthis := htail w (mem_filter.2 ⟨hw, decide_eq_true hk⟩)
      rwa [updated_filter_ne hk, ← find?_cons_of_neg (a := a) (by simp [Ne.symm hk])] at hthis

/-- How the elements are related to those before, position by position, is decided by the
    first element for each key that is updated. -/
theorem forall_upserts_iff {R : Option α → α → Prop} (hR : ∀ a, R (some a) a) :
    (∀ (i : Nat) e, (upserts key wkey new f ws l)[i]? = some e → R l[i]? e) ↔
      ∀ w ∈ ws, R (l.find? fun a => key a = wkey w)
        (updated wkey f ws (wkey w) ((l.find? fun a => key a = wkey w).getD (new (wkey w)))) := by
  induction l generalizing ws with
  | nil =>
    simp only [getElem?_nil, find?_nil, Option.getD_none]
    constructor
    · intro h w hw
      obtain ⟨i, hi⟩ := getElem?_of_mem ((mem_upserts_nil hf hnew).2 ⟨w, hw, rfl⟩)
      exact h i _ hi
    · intro h i e he
      obtain ⟨w, hw, rfl⟩ := (mem_upserts_nil hf hnew).1 (mem_of_getElem? he)
      exact h w hw
  | cons a l ih =>
    rw [upserts_cons hf, forall_updated_cons, ← ih]
    constructor
    · intro h
      exact ⟨fun _ => h 0 _ rfl, fun i e he => h (i + 1) e he⟩
    · rintro ⟨hhead, htail⟩ (_ | i) e he
      · obtain rfl := Option.some_inj.1 he
        by_cases hany : ∃ w ∈ ws, wkey w = key a
        · exact hhead hany
        · rw [updated_of_not fun w hw hk => hany ⟨w, hw, hk⟩]
          exact hR a
      · exact htail i e he

/-- What is found for a key: what was there, or a new element, with the updates for the key. -/
theorem find?_upserts : ((upserts key wkey new f ws l).find? fun a => key a = k) =
    if ∃ w ∈ ws, wkey w = k then
      some (updated wkey f ws k ((l.find? fun a => key a = k).getD (new k)))
    else l.find? fun a => key a = k := by
  induction ws using reverseRecOn with
  | nil => simp [upserts]
  | append_singleton ws v ih =>
    have hstep : upserts key wkey new f (ws ++ [v]) l =
        upsert (fun a => key a = wkey v) (new (wkey v)) (f v) (upserts key wkey new f ws l) := by
      rw [upserts, foldl_concat]
      rfl
    rw [hstep]
    by_cases hv : wkey v = k
    · subst hv
      have hany : ∃ w ∈ ws ++ [v], wkey w = wkey v := ⟨v, by simp, rfl⟩
      rw [if_pos hany, find?_upsert (by simp [hf]) (by simp [hnew]), ih, updated_concat_of_eq rfl]
      split_ifs with hany
      · rfl
      · rw [updated_of_not fun w hw hk => hany ⟨w, hw, hk⟩]
    · have hany : (∃ w ∈ ws ++ [v], wkey w = k) ↔ ∃ w ∈ ws, wkey w = k := by simp [hv]
      rw [find?_upsert_of_not (by simp +contextual [hf, hv]) (by simp [hf, hnew, hv]), ih,
        updated_concat_of_ne hv]
      simp only [hany]

/-- Updates that change nothing when they are made again, change nothing when they are made
    again in sequence. -/
theorem upserts_upserts
    (hidem : ∀ k a, updated wkey f ws k (updated wkey f ws k a) = updated wkey f ws k a) :
    upserts key wkey new f ws (upserts key wkey new f ws l) = upserts key wkey new f ws l := by
  have hsame : ∀ (i : Nat) e, (upserts key wkey new f ws (upserts key wkey new f ws l))[i]? =
      some e → (upserts key wkey new f ws l)[i]? = some e := by
    refine (forall_upserts_iff hf hnew (R := fun o e => o = some e) fun _ => rfl).2 fun w hw => ?_
    rw [find?_upserts hf hnew, if_pos ⟨w, hw, rfl⟩, Option.getD_some, hidem]
  refine ext_getElem? fun i => ?_
  cases hi : (upserts key wkey new f ws (upserts key wkey new f ws l))[i]? with
  | some e => exact (hsame i e hi).symm
  | none =>
    by_contra hne
    obtain ⟨e, he⟩ := Option.ne_none_iff_exists'.1 (Ne.symm hne)
    obtain ⟨ws', hws'⟩ := getElem?_upserts hf he
    rw [hi] at hws'
    cases hws'

/-- An element that no update is for, or that comes after another one with its key, is kept. -/
def Kept (key : α → κ) (wkey : ω → κ) (ws : List ω) (before : List α) (a : α) : Prop :=
  (∀ w ∈ ws, wkey w ≠ key a) ∨ ∃ b ∈ before, key b = key a

omit hf hnew in
theorem kept_cons {before : List α} {b : α} : Kept key wkey ws (a :: before) b ↔
      Kept key wkey (ws.filter fun w => wkey w ≠ key a) before b := by
  by_cases hb : key a = key b
  · refine iff_of_true (.inr ⟨a, mem_cons_self, hb⟩) (.inl fun w hw => ?_)
    exact hb ▸ of_decide_eq_true (mem_filter.1 hw).2
  · have hws : (∀ w ∈ ws.filter fun w => wkey w ≠ key a, wkey w ≠ key b) ↔
        ∀ w ∈ ws, wkey w ≠ key b := by
      simp only [mem_filter, decide_eq_true_eq, and_imp]
      refine forall₂_congr fun w _ => ⟨fun h hw => ?_, fun h _ => h⟩
      exact h (fun ha => hb (ha.symm.trans hw)) hw
    rw [Kept, Kept, hws]
    simp [hb]

/-- What holds of all elements after the updates, holds of the first element for each key that
    is updated, and of the elements that are kept. -/
theorem forall_mem_upserts_iff {Q : α → Prop} : (∀ e ∈ upserts key wkey new f ws l, Q e) ↔
      (∀ w ∈ ws, Q (updated wkey f ws (wkey w)
        ((l.find? fun a => key a = wkey w).getD (new (wkey w))))) ∧
      ∀ before a after, l = before ++ a :: after → Kept key wkey ws before a → Q a := by
  induction l generalizing ws with
  | nil =>
    constructor
    · intro h
      exact ⟨fun w hw => h _ ((mem_upserts_nil hf hnew).2 ⟨w, hw, rfl⟩), by simp⟩
    · rintro ⟨h, _⟩ e he
      obtain ⟨w, hw, rfl⟩ := (mem_upserts_nil hf hnew).1 he
      exact h w hw
  | cons a l ih =>
    rw [upserts_cons hf, forall_mem_cons, ih, forall_updated_cons (R := fun _ e => Q e)]
    constructor
    · rintro ⟨hhead, htail, hkept⟩
      refine ⟨⟨fun _ => hhead, htail⟩, ?_⟩
      rintro (_ | ⟨b, before⟩) c after hl hc
      · obtain ⟨rfl, _⟩ := List.cons.inj hl
        rwa [updated_of_not (hc.resolve_right (by simp))] at hhead
      · rw [cons_append] at hl
        obtain ⟨rfl, htail⟩ := List.cons.inj hl
        exact hkept before c after htail (kept_cons.1 hc)
    · rintro ⟨⟨hhead, htail⟩, hkept⟩
      refine ⟨?_, htail, fun before b after hl hb => ?_⟩
      · by_cases hany : ∃ w ∈ ws, wkey w = key a
        · exact hhead hany
        · have hnone : ∀ w ∈ ws, wkey w ≠ key a := fun w hw hk => hany ⟨w, hw, hk⟩
          rw [updated_of_not hnone]
          exact hkept [] a l rfl (.inl hnone)
      · exact hkept (a :: before) b after (by rw [hl]; rfl) (kept_cons.2 hb)

end

end Go
