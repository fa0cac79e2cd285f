
/-!
# Names and patterns of names

A name is a list of labels, which are written with dots between them. A pattern is a name, or a
star label above a name, which stands for names with further labels: exactly one, or any number
but none (`Pattern.Matches`). On what is written, a pattern is matched by looking at the end of the
name (`matches_below_iff`).
-/

namespace DNS

open List

/-- Letters, digits and hyphens. -/
def isPlain (c : Char) : Bool := c.isAlphanum || c == '-'

structure Name where
  labels : List (List Char)
  labels_ne : labels ≠ []
  label_ne : ∀ l ∈ labels, l ≠ []
  plain : ∀ l ∈ labels, ∀ c ∈ l, isPlain c = true

/-- Whether the labels make up a name. -/
def validLabels (labels : List (List Char)) : Bool :=
  !labels.isEmpty && labels.all fun l => !l.isEmpty && l.all isPlain

theorem validLabels_iff {labels : List (List Char)} : validLabels labels = true ↔
    labels ≠ [] ∧ ∀ l ∈ labels, l ≠ [] ∧ ∀ c ∈ l, isPlain c = true := by
  simp [validLabels]

/-- The name with labels that pass the test. -/
def Name.ofLabels (labels : List (List Char)) (h : validLabels labels = true) : Name where
  labels := labels
  labels_ne := (validLabels_iff.1 h).1
  label_ne l hl := ((validLabels_iff.1 h).2 l hl).1
  plain l hl := ((validLabels_iff.1 h).2 l hl).2

/-- The name as it is written. -/
def Name.text (n : Name) : List Char := ['.'].intercalate n.labels

inductive Pattern
  | exact (n : Name)
  /-- A star above the name. -/
  | below (n : Name)

def Pattern.text : Pattern → List Char
  | .exact n => n.text
  | .below n => '*' :: '.' :: n.text

def Pattern.isWildcard : Pattern → Bool
  | .exact _ => false
  | .below _ => true

/-- The name is that of the pattern, or has further labels: one, or more if the pattern is
    taken as `deep`. -/
def Pattern.Matches (deep : Bool) : Pattern → Name → Prop
  | .exact m, n => n.labels = m.labels
  | .below m, n => ∃ extra, n.labels = extra ++ m.labels ∧
      if deep then extra ≠ [] else extra.length = 1

section

variable {n m : Name}

theorem isPlain_ne_dot {c : Char} (h : isPlain c = true) : c ≠ '.' := by
  rintro rfl
  exact absurd h (by decide)

theorem Name.not_dot_mem {l : List Char} (hl : l ∈ n.labels) : '.' ∉ l :=
  fun hmem => isPlain_ne_dot (n.plain l hl '.' hmem) rfl

/-- The labels can be read off what is written. -/
theorem Name.splitOn_text (n : Name) : n.text.splitOn '.' = n.labels :=
  splitOn_intercalate '.' (fun _ hl => n.not_dot_mem hl) n.labels_ne

theorem Name.text_inj : n.text = m.text ↔ n.labels = m.labels := by
  constructor
  · intro h
    rw [← n.splitOn_text, h, m.splitOn_text]
  · intro h
    rw [Name.text, h, Name.text]

theorem intercalate_append {a b : List (List Char)} (ha : a ≠ []) (hb : b ≠ []) :
    ['.'].intercalate (a ++ b) = ['.'].intercalate a ++ '.' :: ['.'].intercalate b := by
  induction a with
  | nil => exact absurd rfl ha
  | cons l a ih =>
    cases a with
    | nil =>
      obtain ⟨l', b, rfl⟩ := exists_cons_of_ne_nil hb
      simp [intercalate_cons_cons]
    | cons l' a =>
      rw [cons_append, cons_append, intercalate_cons_cons, ← cons_append,
        ih (cons_ne_nil _ _), intercalate_cons_cons]
      simp

theorem splitOn_append_dot (p q : List Char) :
    (p ++ '.' :: q).splitOn '.' = p.splitOn '.' ++ q.splitOn '.' := by
  simp only [splitOn_eq_splitOnP]
  exact splitOnP_append_cons p q (beq_self_eq_true '.')

theorem Name.plain_of_mem_text {c : Char} (h : c ∈ n.text) : isPlain c = true ∨ c = '.' := by
  have hlabels (ls : List (List Char)) (hls : ∀ l ∈ ls, ∀ c ∈ l, isPlain c = true)
      (h : c ∈ ['.'].intercalate ls) : isPlain c = true ∨ c = '.' := by
    induction ls with
    | nil => cases h
    | cons l ls ih =>
      cases ls with
      | nil => exact .inl (hls l mem_cons_self c (by simpa using h))
      | cons l' ls =>
        rw [intercalate_cons_cons, append_assoc, mem_append, mem_append] at h
        rcases h with h | h | h
        · exact .inl (hls l mem_cons_self c h)
        · exact .inr (mem_singleton.1 h)
        · exact ih (fun l hl => hls l (mem_cons_of_mem _ hl)) h
  exact hlabels n.labels n.plain h

/-- What it means, on what is written, that a name is below another one. -/
theorem matches_below_iff {deep : Bool} : (Pattern.below m).Matches deep n ↔
    ∃ p, p ≠ [] ∧ (deep = true ∨ '.' ∉ p) ∧ n.text = p ++ '.' :: m.text := by
  constructor
  · rintro ⟨extra, hlabels, hextra⟩
    have hne : extra ≠ [] := by
      rintro rfl
      cases deep with
      | true => exact hextra rfl
      | false => exact absurd hextra (by decide)
    have hmem {l : List Char} (hl : l ∈ extra) : l ∈ n.labels :=
      hlabels ▸ mem_append_left _ hl
    refine ⟨['.'].intercalate extra, ?_, ?_, ?_⟩
    · obtain ⟨l, extra, rfl⟩ := exists_cons_of_ne_nil hne
      have hl := n.label_ne l (hmem mem_cons_self)
      cases extra with
      | nil => simpa using hl
      | cons l' extra => simp [intercalate_cons_cons]
    · cases deep with
      | true => exact .inl rfl
      | false =>
        obtain ⟨l, rfl⟩ := length_eq_one_iff.1 hextra
        exact .inr (by simpa using n.not_dot_mem (hmem mem_cons_self))
    · rw [Name.text, hlabels, intercalate_append hne m.labels_ne, Name.text]
  · rintro ⟨p, _, hdeep, htext⟩
    refine ⟨p.splitOn '.', ?_, ?_⟩
    · rw [← n.splitOn_text, htext, splitOn_append_dot, m.splitOn_text]
    · cases deep with
      | true => exact splitOn_ne_nil _ _
      | false =>
        have hp : '.' ∉ p := hdeep.resolve_left Bool.false_ne_true
        have hsplit : (['.'].intercalate [p]).splitOn '.' = [p] :=
          splitOn_intercalate '.' (by simpa using hp) (cons_ne_nil _ _)
        rw [intercalate_singleton] at hsplit
        rw [hsplit]
        rfl

end

end DNS
