import Mathlib.Data.List.Basic
import Mathlib.Data.List.Induction
import Mathlib.Data.Set.Insert
import Mathlib.Logic.Function.Basic
import Mathlib.Order.Defs.LinearOrder

/-!
# Tournaments

Entries come one after the other, each for a class. The entry of the least rank holds its
class, and an entry that was beaten in some class, by a holder or as one, is a loser
(`Standing.enter`). No entry is looked at again.

What the standing is in the end only depends on the set of the entries: the holder of a class
is the entry of the least rank (`Wins`), the losers are the entries with another one of lesser
rank in some class (`Loses`). `reflects_enter` is the step.
-/

namespace Selection

variable {σ α β : Type}

section Entries

variable [LinearOrder β] (rank : α → β)

/-- The entry has the least rank in the class. -/
def Wins (E : Set (σ × α)) (s : σ) (x : α) : Prop := (s, x) ∈ E ∧ ∀ y, (s, y) ∈ E → rank x ≤ rank y

/-- In some class, another entry has a lesser rank. -/
def Loses (E : Set (σ × α)) (x : α) : Prop := ∃ s, (s, x) ∈ E ∧ ∃ y, (s, y) ∈ E ∧ rank y < rank x

omit [LinearOrder β] in
/-- Different entries of a class have different ranks. -/
def Ranked (E : Set (σ × α)) : Prop := ∀ s x y, (s, x) ∈ E → (s, y) ∈ E → rank x = rank y → x = y

variable {rank} {E : Set (σ × α)} {s : σ} {x w : α}

theorem wins_insert_of_ne {s' : σ} (hs : s' ≠ s) {y : α} :
    Wins rank (insert (s, x) E) s' y ↔ Wins rank E s' y := by
  have hmem (z : α) : (s', z) ∈ insert (s, x) E ↔ (s', z) ∈ E := by
    rw [Set.mem_insert_iff, Prod.mk.injEq, or_iff_right fun h => hs h.1]
  simp only [Wins, hmem]

/-- The entry wins its class if it beats all others, and then no other does. -/
theorem wins_insert_self (hx : ∀ y, (s, y) ∈ E → rank x < rank y) {y : α} :
    Wins rank (insert (s, x) E) s y ↔ y = x := by
  constructor
  · rintro ⟨hy | hy, hleast⟩
    · exact (Prod.mk.inj hy).2
    · exact absurd (hleast x (.inl rfl)) (hx y hy).not_ge
  · rintro rfl
    refine ⟨.inl rfl, ?_⟩
    rintro z (hz | hz)
    · rw [(Prod.mk.inj hz).2]
    · exact (hx z hz).le

theorem wins_insert_of_lt (hw : Wins rank E s w) (hlt : rank w < rank x) {y : α} :
    Wins rank (insert (s, x) E) s y ↔ Wins rank E s y := by
  constructor
  · rintro ⟨hy | hy, hleast⟩
    · rw [(Prod.mk.inj hy).2] at hleast
      exact absurd (hleast w (.inr hw.1)) hlt.not_ge
    · exact ⟨hy, fun z hz => hleast z (.inr hz)⟩
  · rintro ⟨hy, hleast⟩
    refine ⟨.inr hy, ?_⟩
    rintro z (hz | hz)
    · rw [(Prod.mk.inj hz).2]
      exact (hleast w hw.1).trans hlt.le
    · exact hleast z hz

/-- Who loses after an entry: who lost before, whom the entry beats, and the entry itself if
    it is beaten. -/
theorem loses_insert {z : α} : Loses rank (insert (s, x) E) z ↔
      Loses rank E z ∨ ((s, z) ∈ E ∧ rank x < rank z) ∨
        (z = x ∧ ∃ y, (s, y) ∈ E ∧ rank y < rank x) := by
  constructor
  · rintro ⟨s', hz | hz, y, hy | hy, hlt⟩
    · rw [(Prod.mk.inj hz).2, (Prod.mk.inj hy).2] at hlt
      exact absurd hlt (lt_irrefl _)
    · obtain ⟨rfl, rfl⟩ := Prod.mk.inj hz
      exact .inr (.inr ⟨rfl, y, hy, hlt⟩)
    · obtain ⟨rfl, rfl⟩ := Prod.mk.inj hy
      exact .inr (.inl ⟨hz, hlt⟩)
    · exact .inl ⟨s', hz, y, hy, hlt⟩
  · rintro (⟨s', hz, y, hy, hlt⟩ | ⟨hz, hlt⟩ | ⟨rfl, y, hy, hlt⟩)
    · exact ⟨s', .inr hz, y, .inr hy, hlt⟩
    · exact ⟨s, .inr hz, x, .inl rfl, hlt⟩
    · exact ⟨s, .inl rfl, y, .inr hy, hlt⟩

/-- If the entry beats the winner, the winner is the only new loser. -/
theorem loses_insert_of_gt (hr : Ranked rank E) (hw : Wins rank E s w) (hlt : rank x < rank w)
    {z : α} : Loses rank (insert (s, x) E) z ↔ z = w ∨ Loses rank E z := by
  rw [loses_insert]
  constructor
  · rintro (hz | ⟨hz, _⟩ | ⟨_, y, hy, hyx⟩)
    · exact .inr hz
    · -- the entry beats others too, but they had lost to the winner
      rcases (hw.2 z hz).lt_or_eq with hwz | hwz
      · exact .inr ⟨s, hz, w, hw.1, hwz⟩
      · exact .inl (hr s w z hw.1 hz hwz).symm
    · exact absurd (hw.2 y hy) (hyx.trans hlt).not_ge
  · rintro (rfl | hz)
    · exact .inr (.inl ⟨hw.1, hlt⟩)
    · exact .inl hz

/-- If the winner beats the entry, the entry is the only new loser. -/
theorem loses_insert_of_lt (hw : Wins rank E s w) (hlt : rank w < rank x) {z : α} :
    Loses rank (insert (s, x) E) z ↔ z = x ∨ Loses rank E z := by
  rw [loses_insert]
  constructor
  · rintro (hz | ⟨hz, hxz⟩ | ⟨rfl, _⟩)
    · exact .inr hz
    · exact .inr ⟨s, hz, w, hw.1, hlt.trans hxz⟩
    · exact .inl rfl
  · rintro (rfl | hz)
    · exact .inr (.inr ⟨rfl, w, hw.1, hlt⟩)
    · exact .inl hz

end Entries

/-! ## Standings -/

/-- Who holds each class, and who has lost in one. -/
structure Standing (σ α : Type) where
  holder : σ → Option α
  loser : Set α

def Standing.initial : Standing σ α := ⟨fun _ => none, ∅⟩

variable [DecidableEq σ] [LinearOrder β] {rank : α → β}

/-- One entry. -/
def Standing.enter (rank : α → β) (st : Standing σ α) (e : σ × α) : Standing σ α :=
  match st.holder e.1 with
  | none => { st with holder := Function.update st.holder e.1 (some e.2) }
  | some w =>
    if rank e.2 < rank w then
      ⟨Function.update st.holder e.1 (some e.2), insert w st.loser⟩
    else if rank w < rank e.2 then { st with loser := insert e.2 st.loser }
    else st

/-- The standing is that of the entries. -/
structure Reflects (rank : α → β) (E : Set (σ × α)) (st : Standing σ α) : Prop where
  holder_iff : ∀ s x, st.holder s = some x ↔ Wins rank E s x
  vacant : ∀ s, st.holder s = none → ∀ x, (s, x) ∉ E
  loser_iff : ∀ x, x ∈ st.loser ↔ Loses rank E x

omit [DecidableEq σ] in
theorem reflects_initial : Reflects rank ∅ (Standing.initial : Standing σ α) where
  holder_iff _ x := iff_of_false (Option.some_ne_none x).symm fun h => h.1
  vacant _ _ _ := id
  loser_iff _ := iff_of_false id fun ⟨_, h, _⟩ => h

section

variable {E : Set (σ × α)} {st : Standing σ α} {s : σ} {x : α}

/-- A new holder of a class that beats all entries of it. -/
theorem holder_update (h : Reflects rank E st) (hx : ∀ y, (s, y) ∈ E → rank x < rank y)
    (s' : σ) (y : α) :
    Function.update st.holder s (some x) s' = some y ↔ Wins rank (insert (s, x) E) s' y := by
  by_cases hs : s' = s
  · subst hs
    rw [Function.update_self, Option.some_inj, wins_insert_self hx, eq_comm]
  · rw [Function.update_of_ne hs, wins_insert_of_ne hs, h.holder_iff]

theorem vacant_update (h : Reflects rank E st) {s' : σ}
    (hnone : Function.update st.holder s (some x) s' = none) (y : α) :
    (s', y) ∉ insert (s, x) E := by
  have hs : s' ≠ s := by
    rintro rfl
    rw [Function.update_self] at hnone
    cases hnone
  rw [Function.update_of_ne hs] at hnone
  rintro (hy | hy)
  · exact hs (Prod.mk.inj hy).1
  · exact h.vacant s' hnone y hy

theorem reflects_enter (hr : Ranked rank (insert (s, x) E)) (h : Reflects rank E st) :
    Reflects rank (insert (s, x) E) (st.enter rank (s, x)) := by
  have hsub : Ranked rank E := fun s y z hy hz => hr s y z (.inr hy) (.inr hz)
  rw [Standing.enter]
  cases hholder : st.holder s with
  | none =>
    have hvacant := h.vacant s hholder
    refine ⟨holder_update h fun y hy => absurd hy (hvacant y), fun s' => vacant_update h, ?_⟩
    intro z
    rw [loses_insert, h.loser_iff]
    refine ⟨.inl, ?_⟩
    rintro (hz | ⟨hz, _⟩ | ⟨_, y, hy, _⟩)
    · exact hz
    · exact absurd hz (hvacant z)
    · exact absurd hy (hvacant y)
  | some w =>
    have hw := (h.holder_iff s w).1 hholder
    dsimp only
    split_ifs with hxw hwx
    · refine ⟨holder_update h fun y hy => hxw.trans_le (hw.2 y hy), fun s' => vacant_update h, ?_⟩
      intro z
      rw [loses_insert_of_gt hsub hw hxw, Set.mem_insert_iff, h.loser_iff]
    · have hvacant : ∀ s', st.holder s' = none → ∀ y, (s', y) ∉ insert (s, x) E := by
        rintro s' hnone y (hy | hy)
        · rw [(Prod.mk.inj hy).1, hholder] at hnone
          cases hnone
        · exact h.vacant s' hnone y hy
      refine ⟨fun s' y => ?_, hvacant, fun z => ?_⟩
      · rw [h.holder_iff]
        by_cases hs : s' = s
        · rw [hs, wins_insert_of_lt hw hwx]
        · rw [wins_insert_of_ne hs]
      · rw [loses_insert_of_lt hw hwx, Set.mem_insert_iff, h.loser_iff]
    · -- the holder itself, again
      have heq := le_antisymm (le_of_not_gt hwx) (le_of_not_gt hxw)
      obtain rfl := hr s x w (.inl rfl) (.inr hw.1) heq
      rwa [Set.insert_eq_of_mem hw.1]

end

end Selection
