import Mathlib.Data.List.Basic
import Mathlib.Tactic.Common

/-!
# A fragment of regular expressions

Expressions between `^` and `$` that are made of characters that stand for themselves, of `[.]` for
a dot, and of `[^.]+` for one or more characters other than a dot. `Matches` says what they match.
An engine conforms when it decides this for every expression of the fragment (`Conforms`): one that
reads the pieces of an expression and matches them one after the other does
(`conforms_fullMatch`).
-/

namespace Regexp

open List

inductive Piece
  | char (c : Char)
  | dot
  | notDots
  deriving DecidableEq, Repr

/-- The characters that stand for themselves: letters, digits and hyphens. -/
def isPlain (c : Char) : Bool := c.isAlphanum || c == '-'

def Piece.text : Piece → List Char
  | .char c => [c]
  | .dot => ['[', '.', ']']
  | .notDots => ['[', '^', '.', ']', '+']

/-- The expression that the pieces make up. -/
def expression (ps : List Piece) : String := String.ofList ('^' :: (ps.flatMap Piece.text ++ ['$']))

/-- The pieces match the whole of a string. -/
inductive Matches : List Piece → List Char → Prop
  | nil : Matches [] []
  | char {ps s} (c : Char) : Matches ps s → Matches (.char c :: ps) (c :: s)
  | dot {ps s} : Matches ps s → Matches (.dot :: ps) ('.' :: s)
  | notDots {ps p s} : p ≠ [] → '.' ∉ p → Matches ps s → Matches (.notDots :: ps) (p ++ s)

/-- The engine matches the expressions of the fragment as their pieces do. -/
def Conforms (fullMatch : String → String → Bool) : Prop :=
  ∀ ps : List Piece, (∀ c, .char c ∈ ps → isPlain c = true) → ∀ s : String,
    fullMatch (expression ps) s = true ↔ Matches ps s.toList

/-! ## What pieces match -/

section

variable {ps : List Piece} {s : List Char}

theorem matches_nil_iff : Matches [] s ↔ s = [] := by
  constructor
  · rintro ⟨⟩
    rfl
  · rintro rfl
    exact .nil

theorem matches_char_iff {c : Char} :
    Matches (.char c :: ps) s ↔ ∃ t, s = c :: t ∧ Matches ps t := by
  constructor
  · rintro ⟨⟩
    exact ⟨_, rfl, by assumption⟩
  · rintro ⟨t, rfl, h⟩
    exact .char c h

theorem matches_dot_iff : Matches (.dot :: ps) s ↔ ∃ t, s = '.' :: t ∧ Matches ps t := by
  constructor
  · rintro ⟨⟩
    exact ⟨_, rfl, by assumption⟩
  · rintro ⟨t, rfl, h⟩
    exact .dot h

theorem matches_notDots_iff : Matches (.notDots :: ps) s ↔
    ∃ p t, p ≠ [] ∧ '.' ∉ p ∧ s = p ++ t ∧ Matches ps t := by
  constructor
  · rintro ⟨⟩
    exact ⟨_, _, by assumption, by assumption, rfl, by assumption⟩
  · rintro ⟨p, t, hne, hdot, rfl, h⟩
    exact .notDots hne hdot h

/-- Pieces for the characters of a string. -/
def literal (x : List Char) : List Piece := x.map fun c => if c = '.' then .dot else .char c

theorem matches_literal_iff {x : List Char} : Matches (literal x) s ↔ s = x := by
  induction x generalizing s with
  | nil => exact matches_nil_iff
  | cons c x ih =>
    rw [literal, map_cons, ← literal]
    by_cases hc : c = '.'
    · rw [if_pos hc, matches_dot_iff, hc]
      simp only [ih, exists_eq_right]
    · rw [if_neg hc, matches_char_iff]
      simp only [ih, exists_eq_right]

theorem text_literal (x : List Char) :
    (literal x).flatMap Piece.text = x.flatMap fun c => if c = '.' then ['[', '.', ']'] else [c] := by
  rw [literal, flatMap_map]
  congr 1
  funext c
  split_ifs
  · rfl
  · rfl

end

/-! ## An engine -/

/-- The pieces of what follows `^`. -/
def parse : List Char → Option (List Piece)
  | ['$'] => some []
  | '[' :: '.' :: ']' :: rest => (parse rest).map (.dot :: ·)
  | '[' :: '^' :: '.' :: ']' :: '+' :: rest => (parse rest).map (.notDots :: ·)
  | c :: rest => if isPlain c then (parse rest).map (.char c :: ·) else none
  | [] => none

/-- Match pieces with a string from left to right. -/
def run : List Piece → List Char → Bool
  | [], [] => true
  | .char c :: ps, d :: s => d == c && run ps s
  | .dot :: ps, d :: s => d == '.' && run ps s
  | .notDots :: ps, d :: s => d != '.' && (run ps s || run (.notDots :: ps) s)
  | _, _ => false

def fullMatch (regex s : String) : Bool :=
  match regex.toList with
  | '^' :: rest => (parse rest).any (run · s.toList)
  | _ => regex == s

theorem matches_notDots_cons_iff {ps : List Piece} {d : Char} {s : List Char} :
    Matches (.notDots :: ps) (d :: s) ↔ d ≠ '.' ∧ (Matches ps s ∨ Matches (.notDots :: ps) s) := by
  constructor
  · intro h
    obtain ⟨p, t, hne, hdot, hs, hrest⟩ := matches_notDots_iff.1 h
    obtain ⟨c, p, rfl⟩ := exists_cons_of_ne_nil hne
    obtain ⟨rfl, rfl⟩ := List.cons.inj hs
    obtain ⟨hd, hp⟩ := not_or.1 (mem_cons.not.1 hdot)
    refine ⟨Ne.symm hd, ?_⟩
    by_cases hnil : p = []
    · exact .inl (hnil ▸ hrest)
    · exact .inr (.notDots hnil hp hrest)
  · rintro ⟨hd, h | h⟩
    · exact .notDots (cons_ne_nil d []) (by simpa using Ne.symm hd) h
    · obtain ⟨p, t, _, hdot, rfl, hrest⟩ := matches_notDots_iff.1 h
      exact .notDots (cons_ne_nil d p) (by simp [Ne.symm hd, hdot]) hrest

theorem run_iff {ps : List Piece} {s : List Char} : run ps s = true ↔ Matches ps s := by
  induction s generalizing ps with
  | nil =>
    rcases ps with _ | ⟨c | _ | _, ps⟩
    · exact iff_of_true rfl .nil
    · rw [matches_char_iff]
      exact iff_of_false Bool.false_ne_true (by simp)
    · rw [matches_dot_iff]
      exact iff_of_false Bool.false_ne_true (by simp)
    · refine iff_of_false Bool.false_ne_true fun h => ?_
      obtain ⟨p, t, hne, _, hs, _⟩ := matches_notDots_iff.1 h
      exact hne (append_eq_nil_iff.1 hs.symm).1
  | cons d s ih =>
    rcases ps with _ | ⟨c | _ | _, ps⟩
    · rw [matches_nil_iff]
      exact iff_of_false Bool.false_ne_true (cons_ne_nil d s)
    · rw [run, Bool.and_eq_true, beq_iff_eq, ih, matches_char_iff]
      simp [and_assoc]
    · rw [run, Bool.and_eq_true, beq_iff_eq, ih, matches_dot_iff]
      simp [and_assoc]
    · rw [run, Bool.and_eq_true, Bool.or_eq_true, bne_iff_ne, ih, ih, matches_notDots_cons_iff]

theorem parse_text {ps : List Piece} (h : ∀ c, .char c ∈ ps → isPlain c = true) :
    parse (ps.flatMap Piece.text ++ ['$']) = some ps := by
  induction ps with
  | nil => rfl
  | cons p ps ih =>
    have ih := ih fun c hc => h c (mem_cons_of_mem p hc)
    cases p with
    | dot => exact congrArg (Option.map (.dot :: ·)) ih
    | notDots => exact congrArg (Option.map (.notDots :: ·)) ih
    | char c =>
      have hc := h c mem_cons_self
      have hparse (rest : List Char) : parse (c :: rest) = (parse rest).map (.char c :: ·) := by
        rw [parse]
        · rw [if_pos hc]
        all_goals
          intros
          subst_vars
          exact absurd hc (by decide)
      exact (hparse _).trans (congrArg (Option.map (.char c :: ·)) ih)

theorem fullMatch_empty_iff (s : String) : fullMatch "" s = true ↔ s = "" := by
  have hempty : fullMatch "" s = ("" == s) := rfl
  rw [hempty, beq_iff_eq, eq_comm]

theorem conforms_fullMatch : Conforms fullMatch := by
  intro ps hps s
  rw [fullMatch, expression, String.toList_ofList]
  simp only [parse_text hps, Option.any_some, run_iff]

/-! ## Expressions that can be joined

If the text of an expression is put after a slash, or between slashes, the result need not mean what
it seems to: in `/a|b/c`, the alternatives are `/a` and `b/c`. `isJoinable` is a test for expressions
with which nothing of this kind can happen. `Joins` says that an engine matches such expressions,
joined by slashes, as it does one by one.
-/

/-- The rest of an expression, in some groups and perhaps in a class, closes these, and has no
    alternatives outside of groups, no anchors, no flags, and no escapes but for classes and
    punctuation. -/
def isClosed (depth : Nat) (inClass : Bool) : List Char → Bool
  | [] => depth == 0 && !inClass
  | '\\' :: c :: rest =>
    (!c.isAlphanum || ['d', 'D', 's', 'S', 'w', 'W'].contains c) && isClosed depth inClass rest
  -- a class may not start with the bracket that closes it
  | '[' :: ']' :: _ | '[' :: '^' :: ']' :: _ | '(' :: '?' :: _ => false
  | c :: rest =>
    if inClass then c != '[' && c != '\\' && isClosed depth (c != ']') rest
    else match c with
      | '[' => isClosed depth true rest
      | '(' => isClosed (depth + 1) false rest
      | ')' => 0 < depth && isClosed (depth - 1) false rest
      | '|' => 0 < depth && isClosed depth false rest
      | '^' | '$' | '\\' => false
      | _ => isClosed depth false rest

/-- The expression is closed, and does not start with a quantifier. -/
def isJoinable (r : String) : Bool :=
  !(r.toList.head?.any ['*', '+', '?', '\x7b'].contains) && isClosed 0 false r.toList

/-- The engine matches expressions joined by slashes one by one. -/
structure Joins (fullMatch : String → String → Bool) : Prop where
  one : ∀ r, isJoinable r = true → ∀ x, fullMatch ("/" ++ r) x = true ↔
    ∃ u, x = "/" ++ u ∧ fullMatch r u = true
  two : ∀ r r', isJoinable r = true → isJoinable r' = true → ∀ x,
    fullMatch ("/" ++ r ++ "/" ++ r') x = true ↔
      ∃ u v, x = "/" ++ u ++ "/" ++ v ∧ fullMatch r u = true ∧ fullMatch r' v = true

end Regexp
