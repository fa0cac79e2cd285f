import Mathlib.Data.String.Basic
import Mathlib.Data.List.Sort
import Mathlib.Tactic.Common

/-!
# Go strings

The functions of the packages `strings`, `sort`, `net` and `regexp` on strings,
through their lists of characters.

* `hasSuffix_iff`, `hasPrefix_iff`: what they test;
* `mem_sortStrings`, `sortStrings_sorted`: sorting keeps the elements, in order;
* `append_sep_inj`: a string splits in one way at the first separator;
* `splitOn_isPrefix_iff`, `splitOn_isSuffix_iff`: what it means for a list to begin or end with
  the parts of another one;
* `flatMap_terminated_inj`: pieces that end with a separator are read back from their
  concatenation, if what a piece begins with does not follow a separator within a piece;
* `joinHostPort_ne`: a host with a port is not a host.
-/

namespace Go

open List

/-- `strings.HasPrefix`. -/
def hasPrefix (s p : String) : Bool := p.toList.isPrefixOf s.toList

/-- `strings.HasSuffix`. -/
def hasSuffix (s t : String) : Bool := t.toList.isSuffixOf s.toList

/-- `strings.TrimPrefix`. -/
def trimPrefix (s p : String) : String :=
  if hasPrefix s p then String.ofList (s.toList.drop p.toList.length) else s

/-- `strings.TrimSuffix`. -/
def trimSuffix (s t : String) : String :=
  if hasSuffix s t then String.ofList (s.toList.take (s.toList.length - t.toList.length)) else s

/-- `sort.Strings`. -/
def sortStrings (l : List String) : List String := l.insertionSort (· ≤ ·)

/-- `strings.Contains`, for a character. -/
def containsChar (s : String) (c : Char) : Bool := s.toList.contains c

/-- `strings.ReplaceAll`, for a character. -/
def replaceChar (s : String) (c : Char) (t : String) : String :=
  String.ofList (s.toList.flatMap fun x => if x = c then t.toList else [x])

/-- `regexp.QuoteMeta`. -/
def quoteMeta (s : String) : String :=
  String.ofList (s.toList.flatMap fun x =>
    if "\\.+*?()|[]\x7b\x7d^$".toList.contains x then ['\\', x] else [x])

/-- `net.JoinHostPort`. -/
def joinHostPort (host port : String) : String :=
  if containsChar host ':' then "[" ++ host ++ "]:" ++ port else host ++ ":" ++ port

variable {s t : String} {α : Type}

theorem hasPrefix_iff {p : String} : hasPrefix s p = true ↔ p.toList <+: s.toList :=
  isPrefixOf_iff_prefix

theorem hasSuffix_iff : hasSuffix s t = true ↔ t.toList <:+ s.toList := isSuffixOf_iff_suffix

theorem toList_trimPrefix {p : String} {l : List Char} (h : s.toList = p.toList ++ l) :
    (trimPrefix s p).toList = l := by
  have hp : hasPrefix s p = true := hasPrefix_iff.2 ⟨l, h.symm⟩
  rw [trimPrefix, if_pos hp, String.toList_ofList, h, drop_left]

theorem toList_trimSuffix {l : List Char} (h : s.toList = l ++ t.toList) :
    (trimSuffix s t).toList = l := by
  have ht : hasSuffix s t = true := hasSuffix_iff.2 ⟨l, h.symm⟩
  rw [trimSuffix, if_pos ht, String.toList_ofList, h, length_append, Nat.add_sub_cancel, take_left]

@[simp]
theorem hasPrefix_append (s t : String) : hasPrefix (s ++ t) s = true := by
  rw [hasPrefix_iff, String.toList_append]
  exact prefix_append _ _

@[simp]
theorem trimPrefix_append (s t : String) : trimPrefix (s ++ t) s = t :=
  String.toList_inj.1 (toList_trimPrefix String.toList_append)

theorem hasPrefix_append_append (s t p : String) : hasPrefix (s ++ t) (s ++ p) = hasPrefix t p := by
  rw [Bool.eq_iff_iff, hasPrefix_iff, hasPrefix_iff, String.toList_append, String.toList_append,
    prefix_append_right_inj]

theorem hasPrefix_append_self (ht : t ≠ "") : hasPrefix s (s ++ t) = false := by
  rw [← Bool.not_eq_true, hasPrefix_iff, String.toList_append]
  intro h
  have hlength := h.length_le
  rw [length_append] at hlength
  exact ht (String.toList_eq_nil_iff.1 (length_eq_zero_iff.1 (by omega)))

theorem trimPrefix_of_not {p : String} (h : hasPrefix s p = false) : trimPrefix s p = s := by
  rw [trimPrefix, h]
  rfl

theorem trimSuffix_of_not (h : hasSuffix s t = false) : trimSuffix s t = s := by
  rw [trimSuffix, h]
  rfl

theorem utf8ByteSize_pos (h : s ≠ "") : 0 < s.utf8ByteSize :=
  Nat.pos_of_ne_zero (mt String.utf8ByteSize_eq_zero_iff.1 h)

theorem one_lt_utf8ByteSize {c d : Char} {l : List Char} (h : s.toList = c :: d :: l) :
    1 < s.utf8ByteSize := by
  have hs : s = String.ofList [c] ++ String.ofList (d :: l) :=
    String.toList_inj.1 (by simp [h])
  have hc := utf8ByteSize_pos (s := String.ofList [c]) (by simp [← String.toList_inj])
  have hd := utf8ByteSize_pos (s := String.ofList (d :: l)) (by simp [← String.toList_inj])
  rw [hs, String.utf8ByteSize_append]
  omega

theorem utf8ByteSize_le_of_isPrefix (h : s.toList <+: t.toList) :
    s.utf8ByteSize ≤ t.utf8ByteSize := by
  obtain ⟨l, hl⟩ := h
  have ht : t = s ++ String.ofList l := String.toList_inj.1 (by simp [hl])
  rw [ht, String.utf8ByteSize_append]
  exact Nat.le_add_right _ _

theorem eq_append_of_hasPrefix {p : String} (h : hasPrefix s p = true) :
    s = p ++ trimPrefix s p := by
  obtain ⟨l, hl⟩ := hasPrefix_iff.1 h
  refine String.toList_inj.1 ?_
  rw [String.toList_append, toList_trimPrefix hl.symm, hl]

theorem eq_append_of_hasSuffix (h : hasSuffix s t = true) : s = trimSuffix s t ++ t := by
  obtain ⟨l, hl⟩ := hasSuffix_iff.1 h
  refine String.toList_inj.1 ?_
  rw [String.toList_append, toList_trimSuffix hl.symm, hl]

@[simp]
theorem mem_sortStrings {l : List String} : s ∈ sortStrings l ↔ s ∈ l := mem_insertionSort _

theorem sortStrings_sorted (l : List String) : (sortStrings l).Pairwise (· ≤ ·) :=
  pairwise_insertionSort _ l

theorem sortStrings_perm (l : List String) : (sortStrings l).Perm l := perm_insertionSort _ l

variable {sep : α} {b : List α}

theorem append_sep_inj {a a' b' : List α} (ha : sep ∉ a) (ha' : sep ∉ a')
    (h : a ++ sep :: b = a' ++ sep :: b') : a = a' ∧ b = b' := by
  induction a generalizing a' with
  | nil =>
    cases a' with
    | nil => exact ⟨rfl, (List.cons.inj h).2⟩
    | cons x a' =>
      have hx : sep = x := (List.cons.inj h).1
      exact absurd mem_cons_self (hx ▸ ha')
  | cons y a ih =>
    cases a' with
    | nil =>
      have hy : y = sep := (List.cons.inj h).1
      exact absurd mem_cons_self (hy ▸ ha)
    | cons x a' =>
      obtain ⟨rfl, htail⟩ := List.cons.inj h
      obtain ⟨rfl, rfl⟩ := ih (fun hm => ha (mem_cons_of_mem _ hm))
        (fun hm => ha' (mem_cons_of_mem _ hm)) htail
      exact ⟨rfl, rfl⟩

theorem splitOn_isPrefix_iff [DecidableEq α] {a : List α} :
    a.splitOn sep <+: b.splitOn sep ↔ b = a ∨ a ++ [sep] <+: b := by
  simp only [splitOn_eq_splitOnP]
  induction a generalizing b with
  | nil =>
    cases b with
    | nil => simp
    | cons y b =>
      rw [splitOnP_cons_eq_if_modifyHead]
      obtain ⟨f, fs, hfs⟩ := exists_cons_of_ne_nil (splitOnP_ne_nil (· == sep) b)
      by_cases hy : y = sep
      · simp [hy]
      · simp [hfs, hy, Ne.symm hy]
  | cons x a ih =>
    obtain ⟨e, es, hes⟩ := exists_cons_of_ne_nil (splitOnP_ne_nil (· == sep) a)
    rw [splitOnP_cons_eq_if_modifyHead, hes]
    cases b with
    | nil => by_cases hx : x = sep <;> simp [hx]
    | cons y b =>
      obtain ⟨f, fs, hfs⟩ := exists_cons_of_ne_nil (splitOnP_ne_nil (· == sep) b)
      have ih := ih (b := b)
      rw [hes, hfs] at ih
      rw [splitOnP_cons_eq_if_modifyHead, hfs]
      -- the separators are at the same places, and between them the same elements
      by_cases hx : x = sep <;> by_cases hy : y = sep
      · simpa [hx, hy] using ih
      · simp [hx, hy, Ne.symm hy]
      · simp [hx, hy, Ne.symm hx]
      · have hhead : (x :: e) :: es <+: (y :: f) :: fs ↔ x = y ∧ e :: es <+: f :: fs := by
          simp only [cons_prefix_cons, List.cons.injEq, and_assoc]
        simp only [beq_iff_eq, hx, hy, if_false, modifyHead_cons, hhead, ih, and_or_left,
          List.cons.injEq, cons_append, cons_prefix_cons, eq_comm (a := y)]

theorem mem_of_mem_splitOn [DecidableEq α] {c : α} {l : List α} (h : l ∈ b.splitOn sep)
    (hc : c ∈ l) : c ∈ b ∧ c ≠ sep := by
  simp only [splitOn_eq_splitOnP] at h
  induction b generalizing l with
  | nil => simp_all
  | cons y b ih =>
    have ih' {l : List α} (h : l ∈ b.splitOnP (· == sep)) (hc : c ∈ l) : c ∈ y :: b ∧ c ≠ sep :=
      ⟨mem_cons_of_mem y (ih hc h).1, (ih hc h).2⟩
    rw [splitOnP_cons_eq_if_modifyHead] at h
    obtain ⟨f, fs, hfs⟩ := exists_cons_of_ne_nil (splitOnP_ne_nil (· == sep) b)
    rw [hfs] at h ih'
    by_cases hy : y = sep
    · simp only [hy, beq_self_eq_true, if_true, mem_cons] at h
      rcases h with rfl | h
      · cases hc
      · exact ih' (mem_cons.2 h) hc
    · simp only [beq_iff_eq, hy, if_false, modifyHead_cons, mem_cons] at h
      rcases h with rfl | h
      · rcases mem_cons.1 hc with rfl | hc
        · exact ⟨mem_cons_self, hy⟩
        · exact ih' mem_cons_self hc
      · exact ih' (mem_cons_of_mem _ h) hc

theorem splitOn_isSuffix_iff [DecidableEq α] {a : List α} :
    a.splitOn sep <:+ b.splitOn sep ↔ b = a ∨ sep :: a <:+ b := by
  have happend (t : List α) : (t ++ sep :: a).splitOn sep = t.splitOn sep ++ a.splitOn sep := by
    simp only [splitOn_eq_splitOnP]
    exact splitOnP_append_cons t a (beq_self_eq_true sep)
  have hinj {x y : List α} (h : x.splitOn sep = y.splitOn sep) : x = y := by
    calc x = [sep].intercalate (x.splitOn sep) := (intercalate_splitOn sep).symm
      _ = y := by rw [h, intercalate_splitOn]
  constructor
  · rintro ⟨before, hbefore⟩
    by_cases hnil : before = []
    · exact .inl (hinj (by rw [← hbefore, hnil, nil_append]))
    · -- what is before the parts of the list is split in parts, too
      have hparts : ([sep].intercalate before).splitOn sep = before := by
        refine splitOn_intercalate sep (fun l hl => ?_) hnil
        exact fun hsep => (mem_of_mem_splitOn (hbefore ▸ mem_append_left _ hl) hsep).2 rfl
      refine .inr ⟨[sep].intercalate before, hinj ?_⟩
      rw [happend, hparts, hbefore]
  · rintro (rfl | ⟨t, rfl⟩)
    · exact suffix_rfl
    · exact ⟨t.splitOn sep, (happend t).symm⟩

/-- What begins with a separator does not begin before it. -/
theorem isInfix_of_isInfix_append {t mark s : List α} (hmark : sep ∉ mark)
    (h : sep :: t <:+: mark ++ s) : sep :: t <:+: s := by
  rcases infix_append_iff.1 h with h | h | ⟨l₁, l₂, heq, h₁, h₂⟩
  · exact absurd (h.subset mem_cons_self) hmark
  · exact h
  · obtain _ | ⟨x, l₁⟩ := l₁
    · rw [heq]
      exact h₂.isInfix
    · obtain ⟨rfl, _⟩ := List.cons.inj heq
      exact absurd (h₁.subset mem_cons_self) hmark

/-- A piece that ends with a separator is not longer than another one, if what follows the other
    one begins with a mark, and no mark follows a separator within the piece. -/
theorem length_le_of_terminated {marks : List (List α)} (hmarks : ∀ t ∈ marks, sep ∉ t)
    {p q rest rest' : List α} (hrest : rest = [] ∨ ∃ t ∈ marks, t <+: rest)
    (hq : ∀ t ∈ marks, ¬ sep :: t <:+: q) (h : p ++ sep :: rest = q ++ sep :: rest') :
    q.length ≤ p.length := by
  rcases append_eq_append_iff.1 h with ⟨a, rfl, ha⟩ | ⟨c, rfl, _⟩
  · obtain _ | ⟨x, z⟩ := a
    · simp
    obtain ⟨rfl, rfl⟩ : sep = x ∧ rest = z ++ sep :: rest' := List.cons.inj ha
    rcases hrest with hnil | ⟨t, ht, hprefix⟩
    · exact absurd hnil (by simp)
    · -- the mark ends before the next separator
      have hz : z ++ [sep] <+: z ++ sep :: rest' := ⟨rest', by simp⟩
      rcases prefix_or_prefix_of_prefix hprefix hz with hle | hle
      · rcases prefix_concat_iff.1 hle with rfl | htz
        · exact absurd (by simp) (hmarks _ ht)
        · exact absurd ((cons_prefix_cons.2 ⟨rfl, htz⟩).isInfix.trans
            (suffix_append p _).isInfix) (hq t ht)
      · exact absurd (hle.subset (by simp)) (hmarks t ht)
  · simp

/-- Here `marks` are those with which a piece may begin that follows a piece with a given first
    element. -/
theorem flatMap_terminated_inj {marks : Option α → List (List α)}
    (hmarks : ∀ a, ∀ t ∈ marks a, sep ∉ t) {ps qs : List (List α)}
    (hps : ps.IsChain fun p p' => ∃ t ∈ marks p.head?, t <+: p')
    (hqs : qs.IsChain fun q q' => ∃ t ∈ marks q.head?, t <+: q')
    (hp : ∀ p ∈ ps, p ≠ [] ∧ ∀ t ∈ marks p.head?, ¬ sep :: t <:+: p)
    (hq : ∀ q ∈ qs, q ≠ [] ∧ ∀ t ∈ marks q.head?, ¬ sep :: t <:+: q)
    (h : ps.flatMap (· ++ [sep]) = qs.flatMap (· ++ [sep])) : ps = qs := by
  have hbegins {p : List α} {l : List (List α)}
      (hl : (p :: l).IsChain fun p p' => ∃ t ∈ marks p.head?, t <+: p') :
      l.flatMap (· ++ [sep]) = [] ∨ ∃ t ∈ marks p.head?, t <+: l.flatMap (· ++ [sep]) := by
    obtain _ | ⟨p', l⟩ := l
    · exact .inl rfl
    · obtain ⟨t, ht, hprefix⟩ := (isChain_cons_cons.1 hl).1
      refine .inr ⟨t, ht, hprefix.trans ?_⟩
      rw [flatMap_cons, append_assoc]
      exact prefix_append _ _
  induction ps generalizing qs with
  | nil =>
    obtain _ | ⟨q, qs⟩ := qs
    · rfl
    · simp at h
  | cons p ps ih =>
    obtain _ | ⟨q, qs⟩ := qs
    · simp at h
    rw [flatMap_cons, flatMap_cons, append_assoc, append_assoc] at h
    obtain ⟨⟨hpne, hpt⟩, hps'⟩ := forall_mem_cons.1 hp
    obtain ⟨⟨hqne, hqt⟩, hqs'⟩ := forall_mem_cons.1 hq
    have hhead : p.head? = q.head? := by
      rw [← head?_append_of_ne_nil p hpne, ← head?_append_of_ne_nil q hqne, h]
    have hlength : p.length = q.length := le_antisymm
      (length_le_of_terminated (hmarks _) (hhead ▸ hbegins hqs) hpt h.symm)
      (length_le_of_terminated (hmarks _) (hhead ▸ hbegins hps) hqt h)
    obtain ⟨rfl, hrest⟩ := append_inj h hlength
    exact congrArg (p :: ·) (ih hps.of_cons hqs.of_cons hps' hqs' (List.cons.inj hrest).2)

/-- Strings split in one way at the first colon. -/
theorem append_char_inj {sep : Char} {a a' b b' : String} (hs : s.toList = [sep])
    (ha : sep ∉ a.toList) (ha' : sep ∉ a'.toList) (h : a ++ s ++ b = a' ++ s ++ b') :
    a = a' ∧ b = b' := by
  have hlist := congrArg String.toList h
  simp only [String.toList_append, append_assoc, hs] at hlist
  obtain ⟨h₁, h₂⟩ := append_sep_inj ha ha' hlist
  exact ⟨String.toList_inj.1 h₁, String.toList_inj.1 h₂⟩

/-- And in one way at the last one. -/
theorem append_char_inj_right {sep : Char} {a a' b b' : String} (hs : s.toList = [sep])
    (hb : sep ∉ b.toList) (hb' : sep ∉ b'.toList) (h : a ++ s ++ b = a' ++ s ++ b') :
    a = a' ∧ b = b' := by
  have hlist := congrArg (fun x => x.toList.reverse) h
  simp only [String.toList_append, reverse_append, hs, reverse_singleton, singleton_append] at hlist
  obtain ⟨h₁, h₂⟩ := append_sep_inj (by simpa using hb) (by simpa using hb') hlist
  exact ⟨String.toList_inj.1 (reverse_injective h₂), String.toList_inj.1 (reverse_injective h₁)⟩

theorem append_colon_inj {a a' b b' : String} (ha : ':' ∉ a.toList) (ha' : ':' ∉ a'.toList)
    (h : a ++ ":" ++ b = a' ++ ":" ++ b') : a = a' ∧ b = b' :=
  append_char_inj rfl ha ha' h

theorem joinHostPort_of_not_mem {host : String} (h : ':' ∉ host.toList) (port : String) :
    joinHostPort host port = host ++ ":" ++ port := by
  rw [joinHostPort, if_neg]
  simpa [containsChar] using h

theorem joinHostPort_ne {a b : String} (ha : ':' ∉ a.toList) (hb : ':' ∉ b.toList)
    (port : String) : a ≠ joinHostPort b port := by
  rw [joinHostPort_of_not_mem hb]
  rintro rfl
  exact ha (by simp)

theorem joinHostPort_inj {a b : String} (ha : ':' ∉ a.toList) (hb : ':' ∉ b.toList)
    {port : String} (h : joinHostPort a port = joinHostPort b port) : a = b := by
  rw [joinHostPort_of_not_mem ha, joinHostPort_of_not_mem hb] at h
  exact (append_colon_inj ha hb h).1

end Go
