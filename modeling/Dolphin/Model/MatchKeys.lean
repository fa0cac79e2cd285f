import Dolphin.Model.Types

/-!
# What match keys say

Translation merges the model routes with the same match key, so that a key should say what a
route matches. It is the concatenation of pieces for the method, the path, the headers and the
query parameters, each of which ends with a bar (`HTTPRoute.pieces`). Nothing is escaped, hence
a value may contain what looks like further pieces (`not_keysIdentify_joined`). Otherwise the
pieces are read back from the key, and the matches from the pieces
(`keysIdentify_of_unseparated`).
-/

namespace Model

open Go List

/-- The routes match by the same method, path, headers and query parameters. -/
structure SameMatches (r₁ r₂ : HTTPRoute) : Prop where
  method : r₁.method = r₂.method
  path : r₁.pathMatch = r₂.pathMatch
  headers : r₁.headersMatch.Perm r₂.headersMatch
  query : r₁.queryParamsMatch.Perm r₂.queryParamsMatch

/-- Routes with the same key match the same. -/
def KeysIdentify (r₁ r₂ : HTTPRoute) : Prop := r₁.getMatchKey = r₂.getMatchKey → SameMatches r₁ r₂

/-- A match of one kind for a value. -/
def StringMatch.Single (s : StringMatch) : Prop :=
  ∃ v, v ≠ "" ∧ (s = { prefixed := v } ∨ s = { exact := v } ∨ s = { regex := v })

def KeyValueMatch.Legal (kv : KeyValueMatch) : Prop := ':' ∉ kv.key.toList ∧ kv.valueMatch.Single

theorem KeyValueMatch.legal_exact {name v : String} (hname : ':' ∉ name.toList) (hv : v ≠ "") :
    KeyValueMatch.Legal ⟨name, { exact := v }⟩ :=
  ⟨hname, v, hv, .inr (.inl rfl)⟩

/-- A route that matches by values, and by names without a colon. -/
structure HTTPRoute.Legal (r : HTTPRoute) : Prop where
  path : r.pathMatch.Single
  headers : ∀ h ∈ r.headersMatch, h.Legal
  query : ∀ q ∈ r.queryParamsMatch, q.Legal

/-! ## Pieces -/

/-- A text that has none of the strings. -/
def Lacks (ts : List String) (s : String) : Prop := ∀ t ∈ ts, ¬ t.toList <:+: s.toList

theorem lacks_of_not_mem {ts : List String} {s : String} (hts : ∀ t ∈ ts, '|' ∈ t.toList)
    (h : '|' ∉ s.toList) : Lacks ts s :=
  fun t ht hpart => h (hpart.subset (hts t ht))

/-- No text of a key has, after a bar, the begin of a piece that may come next. -/
structure HTTPRoute.Unseparated (r : HTTPRoute) : Prop where
  method : ∀ m ∈ r.method, Lacks ["|path:"] m
  path : Lacks ["|header:", "|query:"] r.pathMatch.toKey
  headers : ∀ h ∈ r.headersMatch, Lacks ["|header:", "|query:"] h.toKey
  query : ∀ q ∈ r.queryParamsMatch, Lacks ["|query:"] q.toKey

/-- The pieces of a key for headers and query parameters, without their bars. -/
def HTTPRoute.valuePieces (r : HTTPRoute) : List String :=
  (sortMatches r.headersMatch).map (fun h => "header:" ++ h.toKey) ++
    (sortMatches r.queryParamsMatch).map fun q => "query:" ++ q.toKey

/-- The pieces of a key, without their bars. -/
def HTTPRoute.pieces (r : HTTPRoute) : List String :=
  r.method.toList.map ("method:" ++ ·) ++ ("path:" ++ r.pathMatch.toKey) :: r.valuePieces

theorem toList_getMatchKey (r : HTTPRoute) :
    r.getMatchKey.toList = (r.pieces.map String.toList).flatMap (· ++ ['|']) := by
  rw [HTTPRoute.getMatchKey, HTTPRoute.pieces, HTTPRoute.valuePieces]
  simp only [String.toList_append, String.toList_join, flatMap_map, map_append, map_cons]
  cases r.method with
  | none => simp [flatMap_map]
  | some m => simp [flatMap_map]

/-- What a piece may begin with, by the first character of the piece before it. -/
def pieceMarks (first : Option Char) : List (List Char) :=
  if first = some 'm' then ["path:".toList]
  else if first = some 'q' then ["query:".toList]
  else ["header:".toList, "query:".toList]

section

variable {mark text : String} {first : Option Char} {a : Char}

theorem head?_piece (hfirst : mark.toList.head? = some a) :
    (mark ++ text).toList.head? = some a := by
  rw [String.toList_append, head?_append, hfirst]
  rfl

theorem exists_mark (h : mark.toList ∈ pieceMarks first) :
    ∃ t ∈ pieceMarks first, t <+: (mark ++ text).toList :=
  ⟨_, h, String.toList_append ▸ prefix_append _ _⟩

/-- A piece has such a string only if its text has. -/
theorem piece_lacks {ts : List String} (hfirst : mark.toList.head? = some a)
    (hbar : '|' ∉ mark.toList) (hts : ∀ t ∈ pieceMarks (some a), ∃ s ∈ ts, s.toList = '|' :: t)
    (h : Lacks ts text) : (mark ++ text).toList ≠ [] ∧
      ∀ t ∈ pieceMarks (mark ++ text).toList.head?, ¬ '|' :: t <:+: (mark ++ text).toList := by
  have hhead : (mark ++ text).toList.head? = some a := head?_piece hfirst
  refine ⟨fun hnil => by simp [hnil] at hhead, fun t ht hpart => ?_⟩
  obtain ⟨s, hs, heq⟩ := hts t (hhead ▸ ht)
  rw [String.toList_append] at hpart
  exact h s hs (heq ▸ isInfix_of_isInfix_append hbar hpart)

end

variable {kv : KeyValueMatch}

theorem mem_sortMatches {l : List KeyValueMatch} :
    kv ∈ sortMatches l ↔ kv ∈ l := mem_insertionSort _

theorem pieces_isChain (r : HTTPRoute) : (r.pieces.map String.toList).IsChain
    fun p p' => ∃ t ∈ pieceMarks p.head?, t <+: p' := by
  have hheader {text : String} : ("header:" ++ text).toList.head? = some 'h' := head?_piece (by decide)
  have hquery {text : String} : ("query:" ++ text).toList.head? = some 'q' := head?_piece (by decide)
  have hpath {text : String} : ("path:" ++ text).toList.head? = some 'p' := head?_piece (by decide)
  have hvalues : ((("path:" ++ r.pathMatch.toKey) :: r.valuePieces).map String.toList).Pairwise
      fun p p' => ∃ t ∈ pieceMarks p.head?, t <+: p' := by
    rw [pairwise_map, pairwise_cons, HTTPRoute.valuePieces, pairwise_append, pairwise_map,
      pairwise_map, hpath]
    refine ⟨fun p hp => ?_, pairwise_of_forall fun h h' => ?_, pairwise_of_forall fun q q' => ?_,
      fun p hp p' hp' => ?_⟩
    · rcases mem_append.1 hp with hp | hp
      · obtain ⟨h, _, rfl⟩ := mem_map.1 hp
        exact exists_mark (by decide)
      · obtain ⟨q, _, rfl⟩ := mem_map.1 hp
        exact exists_mark (by decide)
    · rw [hheader]
      exact exists_mark (by decide)
    · rw [hquery]
      exact exists_mark (by decide)
    · obtain ⟨h, _, rfl⟩ := mem_map.1 hp
      obtain ⟨q, _, rfl⟩ := mem_map.1 hp'
      rw [hheader]
      exact exists_mark (by decide)
  rw [HTTPRoute.pieces]
  cases r.method with
  | none => exact hvalues.isChain
  | some m =>
    have hmethod : ("method:" ++ m).toList.head? = some 'm' := head?_piece (by decide)
    refine isChain_cons_cons.2 ⟨?_, hvalues.isChain⟩
    rw [hmethod]
    exact exists_mark (by decide)

/-- Pieces of routes are read back from their keys. -/
theorem pieces_eq_of_getMatchKey {r₁ r₂ : HTTPRoute} (h₁ : r₁.Unseparated) (h₂ : r₂.Unseparated)
    (h : r₁.getMatchKey = r₂.getMatchKey) : r₁.pieces = r₂.pieces := by
  have hmarks : ∀ a, ∀ t ∈ pieceMarks a, '|' ∉ t := by
    intro a
    rw [pieceMarks]
    split_ifs <;> decide
  have hlacks {r : HTTPRoute} (h : r.Unseparated) : ∀ p ∈ r.pieces.map String.toList,
      p ≠ [] ∧ ∀ t ∈ pieceMarks p.head?, ¬ '|' :: t <:+: p := by
    intro p hp
    obtain ⟨piece, hpiece, rfl⟩ := mem_map.1 hp
    simp only [HTTPRoute.pieces, HTTPRoute.valuePieces, mem_append, mem_cons, mem_map, Option.mem_toList,
      mem_sortMatches] at hpiece
    rcases hpiece with ⟨m, hm, rfl⟩ | rfl | ⟨kv, hkv, rfl⟩ | ⟨kv, hkv, rfl⟩
    · exact piece_lacks (a := 'm') (by decide) (by decide) (by decide) (h.method m hm)
    · exact piece_lacks (a := 'p') (by decide) (by decide) (by decide) h.path
    · exact piece_lacks (a := 'h') (by decide) (by decide) (by decide) (h.headers kv hkv)
    · exact piece_lacks (a := 'q') (by decide) (by decide) (by decide) (h.query kv hkv)
  have hkeys := congrArg String.toList h
  rw [toList_getMatchKey, toList_getMatchKey] at hkeys
  exact map_injective_iff.2 (fun _ _ => String.toList_inj.1) (flatMap_terminated_inj hmarks
    (pieces_isChain r₁) (pieces_isChain r₂) (hlacks h₁) (hlacks h₂) hkeys)

/-! ## Reading the pieces -/

theorem StringMatch.Single.eq_of_toKey {s s' : StringMatch} (hs : s.Single) (hs' : s'.Single)
    (h : s.toKey = s'.toKey) : s = s' := by
  obtain ⟨v, hv, rfl | rfl | rfl⟩ := hs <;> obtain ⟨v', hv', rfl | rfl | rfl⟩ := hs' <;>
    simp [StringMatch.toKey, hv, hv', ← String.toList_inj] at h ⊢ <;> exact h

/-- A match of one kind, or one that is empty. -/
def StringMatch.AtMostOne (s : StringMatch) : Prop := s.Single ∨ s = {}

theorem StringMatch.Single.toKey_ne_empty {s : StringMatch} (hs : s.Single) : s.toKey ≠ "" := by
  obtain ⟨v, hv, rfl | rfl | rfl⟩ := hs <;> simp [StringMatch.toKey, hv, ← String.toList_inj]

theorem StringMatch.AtMostOne.eq_of_toKey {s s' : StringMatch} (hs : s.AtMostOne)
    (hs' : s'.AtMostOne) (h : s.toKey = s'.toKey) : s = s' := by
  rcases hs with hs | rfl
  · rcases hs' with hs' | rfl
    · exact hs.eq_of_toKey hs' h
    · exact absurd h hs.toKey_ne_empty
  · rcases hs' with hs' | rfl
    · exact absurd h.symm hs'.toKey_ne_empty
    · rfl

/-- The name and the value of a match are read back from its string, if the name has no colon. -/
theorem KeyValueMatch.eq_of_toKey {kv' : KeyValueMatch} (hkv : ':' ∉ kv.key.toList)
    (hkv' : ':' ∉ kv'.key.toList) (hmatch : kv.valueMatch.AtMostOne)
    (hmatch' : kv'.valueMatch.AtMostOne) (h : kv.toKey = kv'.toKey) : kv = kv' := by
  have hkeys : kv.key ++ ":" ++ kv.valueMatch.toKey = kv'.key ++ ":" ++ kv'.valueMatch.toKey := by
    simpa only [KeyValueMatch.toKey, String.append_assoc, String.append_right_inj] using h
  obtain ⟨hname, hvalue⟩ := append_colon_inj hkv hkv' hkeys
  rw [KeyValueMatch.mk.injEq]
  exact ⟨hname, hmatch.eq_of_toKey hmatch' hvalue⟩

theorem KeyValueMatch.Legal.eq_of_toKey {kv' : KeyValueMatch} (hkv : kv.Legal) (hkv' : kv'.Legal)
    (h : kv.toKey = kv'.toKey) : kv = kv' :=
  KeyValueMatch.eq_of_toKey hkv.1 hkv'.1 (.inl hkv.2) (.inl hkv'.2) h

/-- Lists of matches are the same if their sorted strings are. -/
theorem perm_of_toKey {l l' : List KeyValueMatch} (hl : ∀ kv ∈ l, kv.Legal)
    (hl' : ∀ kv ∈ l', kv.Legal) {f : String → String} (hf : Function.Injective f)
    (h : (sortMatches l).map (fun kv => f kv.toKey) = (sortMatches l').map fun kv => f kv.toKey) :
    l.Perm l' := by
  have hsame {xs ys : List KeyValueMatch} (hxs : ∀ kv ∈ xs, kv.Legal) (hys : ∀ kv ∈ ys, kv.Legal)
      (h : xs.map (fun kv => f kv.toKey) = ys.map fun kv => f kv.toKey) : xs = ys := by
    induction xs generalizing ys with
    | nil => exact (map_eq_nil_iff.1 h.symm).symm
    | cons x xs ih =>
      obtain _ | ⟨y, ys⟩ := ys
      · cases h
      obtain ⟨hhead, htail⟩ := List.cons.inj h
      rw [forall_mem_cons] at hxs hys
      rw [hxs.1.eq_of_toKey hys.1 (hf hhead), ih hxs.2 hys.2 htail]
  have hsorted := hsame (fun kv hkv => hl kv (mem_sortMatches.1 hkv))
    (fun kv hkv => hl' kv (mem_sortMatches.1 hkv)) h
  calc l.Perm (sortMatches l) := (perm_insertionSort _ _).symm
    _ = sortMatches l' := hsorted
    List.Perm _ l' := perm_insertionSort _ _

/-- The method and the path are read back from the pieces. -/
theorem pieces_inj {r₁ r₂ : HTTPRoute} (h : r₁.pieces = r₂.pieces) :
    r₁.method = r₂.method ∧ r₁.pathMatch.toKey = r₂.pathMatch.toKey ∧
      r₁.valuePieces = r₂.valuePieces := by
  have happend {mark s t : String} (h : mark ++ s = mark ++ t) : s = t :=
    (String.append_right_inj mark).1 h
  have hne (s t : String) : "path:" ++ s ≠ "method:" ++ t := by
    simp [← String.toList_inj]
  rw [HTTPRoute.pieces, HTTPRoute.pieces] at h
  cases h₁ : r₁.method with
  | none =>
    cases h₂ : r₂.method with
    | none =>
      rw [h₁, h₂] at h
      obtain ⟨hpath, hvalues⟩ := List.cons.inj h
      exact ⟨rfl, happend hpath, hvalues⟩
    | some m =>
      rw [h₁, h₂] at h
      exact absurd (List.cons.inj h).1 (hne _ _)
  | some m =>
    cases h₂ : r₂.method with
    | none =>
      rw [h₁, h₂] at h
      exact absurd (List.cons.inj h).1.symm (hne _ _)
    | some m' =>
      rw [h₁, h₂] at h
      obtain ⟨hmethod, h⟩ := List.cons.inj h
      obtain ⟨hpath, hvalues⟩ := List.cons.inj h
      exact ⟨congrArg some (happend hmethod), happend hpath, hvalues⟩

/-- Headers and query parameters are told apart by their pieces. -/
theorem valuePieces_inj {r₁ r₂ : HTTPRoute} (h : r₁.valuePieces = r₂.valuePieces) :
    (sortMatches r₁.headersMatch).map (fun h => "header:" ++ h.toKey) =
        (sortMatches r₂.headersMatch).map (fun h => "header:" ++ h.toKey) ∧
      (sortMatches r₁.queryParamsMatch).map (fun q => "query:" ++ q.toKey) =
        (sortMatches r₂.queryParamsMatch).map fun q => "query:" ++ q.toKey := by
  have hheader (s : String) : hasPrefix ("header:" ++ s) "header:" = true := by
    rw [hasPrefix_iff, String.toList_append]
    exact prefix_append _ _
  have hquery (s : String) : hasPrefix ("query:" ++ s) "header:" = false := by
    rw [← Bool.not_eq_true, hasPrefix_iff, String.toList_append]
    simp
  have hheaders (r : HTTPRoute) : r.valuePieces.filter (hasPrefix · "header:") =
      (sortMatches r.headersMatch).map fun h => "header:" ++ h.toKey := by
    rw [HTTPRoute.valuePieces, filter_append, filter_eq_self.2, filter_eq_nil_iff.2,
      append_nil] <;> simp [hheader, hquery]
  have hqueries (r : HTTPRoute) : r.valuePieces.filter (!hasPrefix · "header:") =
      (sortMatches r.queryParamsMatch).map fun q => "query:" ++ q.toKey := by
    rw [HTTPRoute.valuePieces, filter_append, filter_eq_nil_iff.2, nil_append,
      filter_eq_self.2] <;> simp [hheader, hquery]
  exact ⟨hheaders r₁ ▸ hheaders r₂ ▸ congrArg _ h, hqueries r₁ ▸ hqueries r₂ ▸ congrArg _ h⟩

theorem keysIdentify_of_unseparated {r₁ r₂ : HTTPRoute} (hlegal₁ : r₁.Legal) (hlegal₂ : r₂.Legal)
    (h₁ : r₁.Unseparated) (h₂ : r₂.Unseparated) : KeysIdentify r₁ r₂ := by
  intro hkeys
  obtain ⟨hmethod, hpath, hvalues⟩ := pieces_inj (pieces_eq_of_getMatchKey h₁ h₂ hkeys)
  obtain ⟨hheaders, hquery⟩ := valuePieces_inj hvalues
  have hinj (mark : String) : Function.Injective (mark ++ ·) := fun _ _ =>
    (String.append_right_inj mark).1
  exact ⟨hmethod, hlegal₁.path.eq_of_toKey hlegal₂.path hpath,
    perm_of_toKey hlegal₁.headers hlegal₂.headers (hinj _) hheaders,
    perm_of_toKey hlegal₁.query hlegal₂.query (hinj _) hquery⟩

def joined : HTTPRoute :=
  { pathMatch := { prefixed := "/" }
    headersMatch := [⟨"env", { exact := "test|header:kv:user:exact:root" }⟩] }

def split : HTTPRoute :=
  { pathMatch := { prefixed := "/" }
    headersMatch := [⟨"env", { exact := "test" }⟩, ⟨"user", { exact := "root" }⟩] }

theorem split_legal : split.Legal := by
  refine ⟨⟨"/", by decide, .inl rfl⟩, fun h hh => ?_, fun _ h => by cases h⟩
  rcases mem_cons.1 hh with rfl | hh
  · exact KeyValueMatch.legal_exact (by decide) (by decide)
  · obtain rfl := mem_singleton.1 hh
    exact KeyValueMatch.legal_exact (by decide) (by decide)

theorem keysIdentify_split : KeysIdentify split split := by
  have hbar : ∀ h ∈ split.headersMatch, '|' ∉ h.toKey.toList := by decide
  have hplain : split.Unseparated := ⟨nofun, lacks_of_not_mem (by decide) (by decide),
    fun h hh => lacks_of_not_mem (by decide) (hbar h hh), nofun⟩
  exact keysIdentify_of_unseparated split_legal split_legal hplain hplain

/-- They have the same key. -/
theorem not_keysIdentify_joined : joined.Legal ∧ split.Legal ∧ ¬ KeysIdentify joined split := by
  refine ⟨⟨⟨"/", by decide, .inl rfl⟩, fun h hh => ?_, fun _ h => by cases h⟩,
    split_legal, fun h => absurd (h (by decide)).headers.length_eq (by decide)⟩
  obtain rfl := mem_singleton.1 hh
  exact KeyValueMatch.legal_exact (by decide) (by decide)

end Model
