import Mathlib.Data.Prod.Lex
import Dolphin.Go.Sort
import Dolphin.Reconcile.ListenerSets
import Dolphin.Selection.Precedence

/-!
# Conflicts between the listeners of a Gateway and its ListenerSets

`conflictsAcrossSources` goes over the sources of listeners in the order of precedence. A listener
that is in conflict with an accepted one is reported, the others of its source are compared with
each other, and those that remain are accepted. Which listeners conflict is a parameter here, as
`listenerPairConflict` has its rules commented out.

* `resolves_conflicts`: what is reported is what is rejected by precedence, the rank of a listener
  being the position at which its source first comes;
* `conflictOf_append`: listeners of further sources change nothing for those before;
* `sortListenerSets_perm`: the order of precedence of ListenerSets is not a matter of the order in
  which they are listed.
-/

namespace Reconcile

open Gatewayv1 Go Ingestion List
open Model (FullyQualifiedResource)

variable {source source' : FullyQualifiedResource} {name name' : String}

/-! ## The code, for a relation of conflict -/

/-- `listenerConflict`. -/
structure ListenerConflict where
  reason : String
  message : String := ""
  deriving DecidableEq, Repr

/-- `listenerConflictsBySource`: by source and section name. -/
abbrev ListenerConflictsBySource := Go.Map FullyQualifiedResource (Go.Map String ListenerConflict)

def isHTTPSTerminatedListener (l : Listener) : Bool := l.protocol = .https

def isTLSPassthroughListener (l : Listener) : Bool :=
  l.protocol = .tls ∧ l.tls.bind (·.mode) = some .passthrough

def isHTTPSAndTLSPassthroughPair (first second : Listener) : Bool :=
  (isHTTPSTerminatedListener first && isTLSPassthroughListener second) ||
    (isHTTPSTerminatedListener second && isTLSPassthroughListener first)

def listenerConflictMessage (reason : String) (self other : Listener) : String :=
  "Listener conflicts with listener \"" ++ other.name ++ "\": same port " ++ toString self.port ++
    if reason = "HostnameConflict" then " has overlapping hostnames."
    else if isHTTPSAndTLSPassthroughPair self other then
      " has overlapping HTTPS and TLS passthrough hostnames."
    else " has incompatible protocols."

/-- The listeners by source, and the sources in the order in which they first come. -/
def groupBySource (listeners : List ListenerWithContext) :
    Go.Map FullyQualifiedResource (List Listener) × List FullyQualifiedResource :=
  listeners.foldl
    (fun acc l => (acc.1.appendAt l.source l.listener,
      if (acc.1.get? l.source).isSome then acc.2 else acc.2 ++ [l.source]))
    (∅, [])

def setConflict (conflicts : ListenerConflictsBySource) (source : FullyQualifiedResource)
    (name : String) (conflict : ListenerConflict) : ListenerConflictsBySource :=
  conflicts.alter source fun own => (own.getD ∅).set name conflict

/-- The conflict that is reported for a listener. -/
def conflictOf (conflicts : ListenerConflictsBySource) (source : FullyQualifiedResource)
    (name : String) : Option ListenerConflict :=
  (conflicts.get? source).bind (·.get? name)

section

variable (pairConflict : Listener → Listener → Option String)

/-- `acceptedListeners.checkConflict`: the reason of the first conflict, or nothing. -/
def checkConflict (accepted : List Listener) (l : Listener) : String :=
  (accepted.findSome? (pairConflict · l)).getD ""

/-- The inner loop of `conflictsWithinSource`: a listener and those after it. -/
def conflictsWith (first : Listener) (conflicts : Go.Map String ListenerConflict)
    (rest : List Listener) : Go.Map String ListenerConflict :=
  rest.foldl
    (fun conflicts second =>
      match pairConflict first second with
      | none => conflicts
      | some reason =>
        (conflicts.set first.name ⟨reason, listenerConflictMessage reason first second⟩).set
          second.name ⟨reason, listenerConflictMessage reason second first⟩)
    conflicts

/-- `conflictsWithinSource`, added to the conflicts of the listeners before. -/
def conflictsWithinSourceBy (conflicts : Go.Map String ListenerConflict) :
    List Listener → Go.Map String ListenerConflict
  | [] => conflicts
  | first :: rest =>
    conflictsWithinSourceBy (conflictsWith pairConflict first conflicts rest) rest

/-- The loop over the listeners of a source that looks for conflicts with accepted ones. -/
def checkAccepted (accepted : List Listener) (source : FullyQualifiedResource)
    (conflicts : ListenerConflictsBySource) (own : List Listener) :
    ListenerConflictsBySource × List Listener :=
  own.foldl
    (fun acc l =>
      let reason := checkConflict pairConflict accepted l
      if reason ≠ "" then (setConflict acc.1 source l.name { reason := reason }, acc.2)
      else (acc.1, acc.2 ++ [l]))
    (conflicts, [])

/-- The accepted listeners and the conflicts between sources. -/
structure Resolution where
  accepted : List Listener := []
  conflicts : ListenerConflictsBySource := ∅

variable (order : RangeOrder (String × ListenerConflict))

/-- The iteration for a source. The conflicts within it are visited in any order. -/
def resolveSource (own : FullyQualifiedResource → List Listener) (state : Resolution)
    (source : FullyQualifiedResource) : Resolution :=
  let (conflicts, eligible) :=
    checkAccepted pairConflict state.accepted source state.conflicts (own source)
  let conflicts := (order.visit (conflictsWithinSourceBy pairConflict ∅ eligible).toPairs).foldl
    (fun conflicts p => setConflict conflicts source p.1 p.2) conflicts
  { accepted := state.accepted ++
      eligible.filter fun l => (conflictOf conflicts source l.name).isNone
    conflicts := conflicts }

/-- `conflictsAcrossSources`. -/
def conflictsAcrossSourcesBy (listeners : List ListenerWithContext) : ListenerConflictsBySource :=
  let (listenersBySource, sources) := groupBySource listeners
  (sources.foldl
    (resolveSource pairConflict order fun source => (listenersBySource.get? source).getD [])
    {}).conflicts

end

/-! ## The sources -/

section

variable {listeners : List ListenerWithContext}

/-- The position at which the source of a listener first comes. -/
def sourceRank (listeners : List ListenerWithContext) (l : ListenerWithContext) : ℕ :=
  (listeners.map (·.source)).idxOf l.source

/-- The listeners of a source. -/
def ownListeners (listeners : List ListenerWithContext) (source : FullyQualifiedResource) :
    List Listener :=
  (listeners.filter fun l => l.source = source).map (·.listener)

section

variable (listeners : List ListenerWithContext)

theorem groupBySource_append (l : ListenerWithContext) : groupBySource (listeners ++ [l]) =
      ((groupBySource listeners).1.appendAt l.source l.listener,
        if ((groupBySource listeners).1.get? l.source).isSome then (groupBySource listeners).2
        else (groupBySource listeners).2 ++ [l.source]) :=
  foldl_concat _ _ _ _

theorem groupBySource_fst : (groupBySource listeners).1 =
      listeners.foldl (fun m l => m.appendAt l.source l.listener) ∅ := by
  induction listeners using reverseRecOn with
  | nil => rfl
  | append_singleton ls l ih => rw [groupBySource_append, foldl_concat, ih]

theorem get?_groupBySource :
    ((groupBySource listeners).1.get? source).getD [] = ownListeners listeners source := by
  rw [groupBySource_fst, Map.get?_foldl_appendAt, ownListeners]
  split_ifs with hnil
  · rw [hnil]
    rfl
  · rfl

theorem isSome_groupBySource :
    ((groupBySource listeners).1.get? source).isSome ↔ source ∈ listeners.map (·.source) := by
  rw [groupBySource_fst, Map.get?_foldl_appendAt]
  have hnil : (listeners.filter fun l => l.source = source) = [] ↔
      source ∉ listeners.map (·.source) := by
    simp [filter_eq_nil_iff]
  split_ifs with h
  · simpa using hnil.1 h
  · simpa using hnil.not.1 h

theorem sources_append (l : ListenerWithContext) : (groupBySource (listeners ++ [l])).2 =
      if l.source ∈ listeners.map (·.source) then (groupBySource listeners).2
      else (groupBySource listeners).2 ++ [l.source] := by
  simp only [groupBySource_append, isSome_groupBySource]

end

theorem mem_sources : source ∈ (groupBySource listeners).2 ↔ source ∈ listeners.map (·.source) := by
  induction listeners using reverseRecOn with
  | nil => rfl
  | append_singleton ls l ih =>
    rw [sources_append, map_append, mem_append]
    split_ifs with h
    · rw [ih]
      exact ⟨.inl, fun h' => h'.elim id fun heq => mem_singleton.1 heq ▸ h⟩
    · rw [mem_append, ih]
      rfl

theorem sources_sorted : (groupBySource listeners).2.Pairwise fun s s' =>
    (listeners.map (·.source)).idxOf s < (listeners.map (·.source)).idxOf s' := by
  induction listeners using reverseRecOn with
  | nil => exact .nil
  | append_singleton ls l ih =>
    have hold {s : FullyQualifiedResource} (hs : s ∈ (groupBySource ls).2) :
        ((ls ++ [l]).map (·.source)).idxOf s = (ls.map (·.source)).idxOf s := by
      rw [map_append, idxOf_append_of_mem (mem_sources.1 hs)]
    have hsorted := ih.imp_of_mem fun {s s'} hs hs' hlt => (hold hs).symm ▸ (hold hs').symm ▸ hlt
    rw [sources_append]
    split_ifs with h
    · exact hsorted
    · refine pairwise_append.2 ⟨hsorted, pairwise_singleton _ _, fun s hs s' hs' => ?_⟩
      rw [mem_singleton.1 hs', hold hs, map_append, idxOf_append_of_notMem h]
      exact Nat.lt_add_right _ (idxOf_lt_length_of_mem (mem_sources.1 hs))

end

/-! ## One source -/

section

variable (pairConflict : Listener → Listener → Option String)

/-- A relation of conflict that may stand for `listenerPairConflict`: it is symmetric, and the
    reason is never empty. -/
structure PairRelation : Prop where
  symm : ∀ a b, (pairConflict a b).isSome → (pairConflict b a).isSome
  reason : ∀ a b, pairConflict a b ≠ some ""

/-- The listener is in conflict with an accepted one. -/
def Clashes (accepted : List Listener) (l : Listener) : Prop :=
  ∃ a ∈ accepted, (pairConflict a l).isSome

/-- The listener is reported as conflicted. -/
def Reported (order : RangeOrder (String × ListenerConflict)) (listeners : List ListenerWithContext)
    (l : ListenerWithContext) : Prop :=
  (conflictOf (conflictsAcrossSourcesBy pairConflict order listeners) l.source
    l.listener.name).isSome

end

section

variable {pairConflict : Listener → Listener → Option String}
  {order : RangeOrder (String × ListenerConflict)} {conflicts : ListenerConflictsBySource}

theorem conflictOf_setConflict (conflict : ListenerConflict) :
    conflictOf (setConflict conflicts source name conflict) source' name' =
      if source' = source ∧ name' = name then some conflict
      else conflictOf conflicts source' name' := by
  rw [conflictOf, setConflict, Map.get?_alter]
  by_cases hsource : source' = source
  · rw [if_pos hsource, Option.bind_some, Map.get?_set, hsource, conflictOf]
    cases conflicts.get? source <;> simp
  · rw [if_neg hsource, if_neg fun h => hsource h.1, conflictOf]

theorem isSome_conflictOf_foldl (ps : List (String × ListenerConflict)) :
    (conflictOf (ps.foldl (fun m p => setConflict m source p.1 p.2) conflicts) source
      name).isSome ↔ name ∈ ps.map Prod.fst ∨ (conflictOf conflicts source name).isSome := by
  induction ps generalizing conflicts with
  | nil => simp
  | cons p ps ih =>
    rw [foldl_cons, ih, conflictOf_setConflict, map_cons, mem_cons]
    by_cases hname : name = p.1
    · simp [hname]
    · simp [hname]

theorem conflictOf_foldl_of_ne (hne : source' ≠ source) (ps : List (String × ListenerConflict)) :
    conflictOf (ps.foldl (fun m p => setConflict m source p.1 p.2) conflicts) source' name =
      conflictOf conflicts source' name := by
  induction ps generalizing conflicts with
  | nil => rfl
  | cons p ps ih => rw [foldl_cons, ih, conflictOf_setConflict, if_neg fun h => hne h.1]

theorem checkConflict_ne_iff (h : PairRelation pairConflict) {accepted : List Listener}
    {l : Listener} :
    checkConflict pairConflict accepted l ≠ "" ↔ Clashes pairConflict accepted l := by
  rw [checkConflict, Clashes]
  cases hfind : accepted.findSome? (pairConflict · l) with
  | none =>
    have hnone := findSome?_eq_none_iff.1 hfind
    simp only [Option.getD_none, ne_eq, not_true, false_iff, not_exists, not_and]
    exact fun a ha => by simp [hnone a ha]
  | some reason =>
    obtain ⟨a, ha, hreason⟩ := exists_of_findSome?_eq_some hfind
    have hne : reason ≠ "" := fun hempty => h.reason a l (hempty ▸ hreason)
    exact iff_of_true hne ⟨a, ha, Option.isSome_of_eq_some hreason⟩

theorem checkConflict_eq_iff (h : PairRelation pairConflict) {accepted : List Listener}
    {l : Listener} :
    checkConflict pairConflict accepted l = "" ↔ ¬ Clashes pairConflict accepted l := by
  rw [← checkConflict_ne_iff h, not_not]

theorem checkAccepted_eq (accepted : List Listener) (own : List Listener) :
    checkAccepted pairConflict accepted source conflicts own =
      (((own.filter fun l => checkConflict pairConflict accepted l ≠ "").map fun l =>
          (l.name, ({ reason := checkConflict pairConflict accepted l } : ListenerConflict))).foldl
          (fun m p => setConflict m source p.1 p.2) conflicts,
        own.filter fun l => checkConflict pairConflict accepted l = "") := by
  induction own using reverseRecOn with
  | nil => rfl
  | append_singleton own l ih =>
    rw [checkAccepted, foldl_concat, ← checkAccepted, ih]
    by_cases hclash : checkConflict pairConflict accepted l = ""
    · simp [hclash]
    · simp [hclash]

theorem isSome_conflictsWith (first : Listener) (conflicts : Go.Map String ListenerConflict)
    (rest : List Listener) :
    ((conflictsWith pairConflict first conflicts rest).get? name).isSome ↔
      (conflicts.get? name).isSome ∨ ∃ second ∈ rest, (pairConflict first second).isSome ∧
        (name = first.name ∨ name = second.name) := by
  induction rest generalizing conflicts with
  | nil => simp [conflictsWith]
  | cons second rest ih =>
    rw [conflictsWith, foldl_cons, ← conflictsWith, ih, exists_mem_cons_iff]
    cases pairConflict first second with
    | none => simp
    | some reason =>
      simp only [Map.get?_set]
      by_cases hsecond : name = second.name
      · simp [hsecond]
      · by_cases hfirst : name = first.name
        · rw [if_neg hsecond, if_pos hfirst]
          simp [hfirst]
        · simp [hfirst, hsecond]

/-- Within a source, a listener that is in conflict with another one is reported. -/
theorem isSome_conflictsWithinSource (h : PairRelation pairConflict) {ls : List Listener}
    (hnodup : ls.Nodup) (conflicts : Go.Map String ListenerConflict) :
    ((conflictsWithinSourceBy pairConflict conflicts ls).get? name).isSome ↔
      (conflicts.get? name).isSome ∨ ∃ l ∈ ls, l.name = name ∧
        ∃ o ∈ ls, o ≠ l ∧ (pairConflict o l).isSome := by
  induction ls generalizing conflicts with
  | nil => simp [conflictsWithinSourceBy]
  | cons first rest ih =>
    obtain ⟨hfirst, hrest⟩ := nodup_cons.1 hnodup
    rw [conflictsWithinSourceBy, ih hrest, isSome_conflictsWith, or_assoc]
    refine or_congr_right ⟨?_, ?_⟩
    · rintro (⟨second, hsecond, hpair, rfl | rfl⟩ | ⟨l, hl, hname, o, ho, hne, hpair⟩)
      · exact ⟨first, mem_cons_self, rfl, second, mem_cons_of_mem _ hsecond,
          fun heq => hfirst (heq ▸ hsecond), h.symm _ _ hpair⟩
      · exact ⟨second, mem_cons_of_mem _ hsecond, rfl, first, mem_cons_self,
          fun heq => hfirst (heq ▸ hsecond), hpair⟩
      · exact ⟨l, mem_cons_of_mem _ hl, hname, o, mem_cons_of_mem _ ho, hne, hpair⟩
    · rintro ⟨l, hl, hname, o, ho, hne, hpair⟩
      rcases mem_cons.1 hl with rfl | hl'
      · rcases mem_cons.1 ho with rfl | ho'
        · exact absurd rfl hne
        · exact .inl ⟨o, ho', h.symm _ _ hpair, .inl hname.symm⟩
      · rcases mem_cons.1 ho with rfl | ho'
        · exact .inl ⟨l, hl', hpair, .inr hname.symm⟩
        · exact .inr ⟨l, hl', hname, o, ho', hne, hpair⟩

theorem conflictOf_resolveSource_of_ne (own : FullyQualifiedResource → List Listener)
    (state : Resolution) (hne : source' ≠ source) :
    conflictOf (resolveSource pairConflict order own state source).conflicts source' name =
      conflictOf state.conflicts source' name := by
  simp only [resolveSource, checkAccepted_eq, conflictOf_foldl_of_ne hne]

section

variable {own : FullyQualifiedResource → List Listener} {state : Resolution}
  {source : FullyQualifiedResource}

variable (h : PairRelation pairConflict) (hown : ((own source).map (·.name)).Nodup)
  (hnew : ∀ name, conflictOf state.conflicts source name = none)

include h hown hnew

/-- What the iteration for a source reports: a listener that clashes with an accepted one, or that
    is in conflict with another of its source, when neither clashes. -/
theorem isSome_resolveSource {l : Listener} (hl : l ∈ own source) :
    (conflictOf (resolveSource pairConflict order own state source).conflicts source
      l.name).isSome ↔
      Clashes pairConflict state.accepted l ∨ ∃ o ∈ own source, o ≠ l ∧ (pairConflict o l).isSome ∧
          ¬ Clashes pairConflict state.accepted o ∧ ¬ Clashes pairConflict state.accepted l := by
  have hbefore : (conflictOf state.conflicts source l.name).isSome = false := by
    rw [hnew]
    rfl
  have hname {l' : Listener} (hl' : l' ∈ own source) (heq : l'.name = l.name) : l' = l :=
    inj_on_of_nodup_map hown hl' hl heq
  have hnodup : ((own source).filter fun l =>
      checkConflict pairConflict state.accepted l = "").Nodup := (hown.of_map _).filter _
  have hvisit (ps : List (String × ListenerConflict)) :
      l.name ∈ (order.visit ps).map Prod.fst ↔ l.name ∈ ps.map Prod.fst :=
    ((order.perm ps).map Prod.fst).mem_iff
  have hkeys (m : Go.Map String ListenerConflict) :
      l.name ∈ m.toPairs.map Prod.fst ↔ (m.get? l.name).isSome := by
    rw [(Map.lists_of_perm (.refl _)).mem_iff, Option.isSome_iff_exists]
  simp only [resolveSource, checkAccepted_eq, isSome_conflictOf_foldl, hbefore, hvisit, hkeys,
    isSome_conflictsWithinSource h hnodup, Map.get?_empty, Option.isSome_none, Bool.false_eq_true,
    false_or, or_false, map_map, mem_map, mem_filter, decide_eq_true_eq,
    Function.comp_apply, checkConflict_ne_iff h, checkConflict_eq_iff h]
  constructor
  · rintro (⟨l', ⟨hl', hclear⟩, heq, o, ⟨ho, hoclear⟩, hne, hpair⟩ | ⟨l', ⟨hl', hclash⟩, heq⟩)
    · obtain rfl := hname hl' heq
      exact .inr ⟨o, ho, hne, hpair, hoclear, hclear⟩
    · obtain rfl := hname hl' heq
      exact .inl hclash
  · rintro (hclash | ⟨o, ho, hne, hpair, hoclear, hclear⟩)
    · exact .inr ⟨l, ⟨hl, hclash⟩, rfl⟩
    · exact .inl ⟨l, ⟨hl, hclear⟩, rfl, o, ⟨ho, hoclear⟩, hne, hpair⟩

/-- What the iteration for a source accepts: what it does not report. -/
theorem mem_accepted_resolveSource {a : Listener} :
    a ∈ (resolveSource pairConflict order own state source).accepted ↔ a ∈ state.accepted ∨
      (a ∈ own source ∧ conflictOf
        (resolveSource pairConflict order own state source).conflicts source a.name = none) := by
  have hmem : a ∈ (resolveSource pairConflict order own state source).accepted ↔
      a ∈ state.accepted ∨ ((a ∈ own source ∧ ¬ Clashes pairConflict state.accepted a) ∧
        conflictOf (resolveSource pairConflict order own state source).conflicts source
          a.name = none) := by
    simp only [resolveSource, checkAccepted_eq, mem_append, mem_filter, decide_eq_true_eq,
      Option.isNone_iff_eq_none, checkConflict_eq_iff h]
  rw [hmem]
  refine or_congr_right (and_congr_left fun hnone => and_iff_left_of_imp fun ha hclash => ?_)
  have hsome : (conflictOf (resolveSource pairConflict order own state source).conflicts source
      a.name).isSome := (isSome_resolveSource h hown hnew ha).2 (.inl hclash)
  rw [hnone] at hsome
  exact Bool.false_ne_true hsome

end

/-! ## All sources -/

section

variable {own own' : FullyQualifiedResource → List Listener}
  {sources : List FullyQualifiedResource}

theorem conflictOf_foldl_resolveSource (hsource : source ∉ sources) (state : Resolution) :
    conflictOf (sources.foldl (resolveSource pairConflict order own) state).conflicts source name =
      conflictOf state.conflicts source name := by
  induction sources generalizing state with
  | nil => rfl
  | cons s sources ih =>
    obtain ⟨hne, hrest⟩ := not_or.1 (mem_cons.not.1 hsource)
    rw [foldl_cons, ih hrest, conflictOf_resolveSource_of_ne own state hne]

/-- The accepted listeners are those of the sources so far that are not reported. -/
theorem mem_accepted_foldl (h : PairRelation pairConflict)
    (hown : ∀ source, ((own source).map (·.name)).Nodup) (hsources : sources.Nodup)
    {a : Listener} :
    a ∈ (sources.foldl (resolveSource pairConflict order own) {}).accepted ↔
      ∃ source ∈ sources, a ∈ own source ∧ conflictOf
        (sources.foldl (resolveSource pairConflict order own) {}).conflicts source
          a.name = none := by
  induction sources using reverseRecOn with
  | nil => simp
  | append_singleton done source ih =>
    obtain ⟨hdone, _, hdisjoint⟩ := nodup_append.1 hsources
    have hsource : source ∉ done := fun hmem => hdisjoint _ hmem _ mem_cons_self rfl
    rw [foldl_concat]
    set state := done.foldl (resolveSource pairConflict order own) {} with hstate
    have hnew : ∀ name, conflictOf state.conflicts source name = none :=
      fun _ => conflictOf_foldl_resolveSource hsource {}
    rw [mem_accepted_resolveSource h (hown source) hnew, ih hdone]
    simp only [mem_append, mem_singleton, or_and_right, exists_or, exists_eq_left]
    refine or_congr_left (exists_congr fun s => and_congr_right fun hs => ?_)
    have hne : s ≠ source := fun heq => hsource (heq ▸ hs)
    rw [conflictOf_resolveSource_of_ne own state hne]

end

section

variable {listeners : List ListenerWithContext}

theorem conflictsAcrossSourcesBy_eq (listeners : List ListenerWithContext) :
    conflictsAcrossSourcesBy pairConflict order listeners = ((groupBySource listeners).2.foldl
        (resolveSource pairConflict order (ownListeners listeners)) {}).conflicts := by
  have hown : (fun source => ((groupBySource listeners).1.get? source).getD []) =
      ownListeners listeners := funext fun _ => get?_groupBySource listeners
  rw [← hown]
  rfl

theorem mem_ownListeners {a : Listener} : a ∈ ownListeners listeners source ↔
      ∃ l ∈ listeners, l.source = source ∧ l.listener = a := by
  simp [ownListeners, and_assoc]

theorem nodup_sources (listeners : List ListenerWithContext) : (groupBySource listeners).2.Nodup :=
  sources_sorted.imp fun hlt heq => absurd (heq ▸ hlt) (lt_irrefl _)

theorem nodup_ownListeners
    (hnames : (listeners.map fun l => (l.source, l.listener.name)).Nodup)
    (source : FullyQualifiedResource) :
    ((ownListeners listeners source).map (·.name)).Nodup := by
  rw [ownListeners, map_map]
  refine Nodup.map_on (fun l hl l' hl' hname => ?_) ((hnames.of_map _).filter _)
  obtain ⟨hl, hsource⟩ := mem_filter.1 hl
  obtain ⟨hl', hsource'⟩ := mem_filter.1 hl'
  have hsources := (of_decide_eq_true hsource).trans (of_decide_eq_true hsource').symm
  exact inj_on_of_nodup_map hnames hl hl' (Prod.ext hsources hname)

/-- The sources of lower rank are those that come before. -/
theorem sourceRank_lt_iff {l e : ListenerWithContext} (he : e ∈ listeners)
    {done rest : List FullyQualifiedResource}
    (hsplit : (groupBySource listeners).2 = done ++ l.source :: rest) :
    sourceRank listeners e < sourceRank listeners l ↔ e.source ∈ done := by
  have hsorted : (groupBySource listeners).2.Pairwise _ := sources_sorted
  rw [hsplit] at hsorted
  obtain ⟨_, hrest, hcross⟩ := pairwise_append.1 hsorted
  have hmem : e.source ∈ done ++ l.source :: rest :=
    hsplit ▸ mem_sources.2 (mem_map_of_mem he)
  constructor
  · intro hlt
    rcases mem_append.1 hmem with hdone | htail
    · exact hdone
    · rcases mem_cons.1 htail with heq | hlater
      · rw [sourceRank, sourceRank, heq] at hlt
        exact absurd hlt (lt_irrefl _)
      · exact absurd hlt (lt_asymm ((pairwise_cons.1 hrest).1 _ hlater))
  · exact fun hdone => hcross _ hdone _ mem_cons_self

theorem sourceRank_eq_iff {l e : ListenerWithContext} (he : e ∈ listeners) :
    sourceRank listeners e = sourceRank listeners l ↔ e.source = l.source :=
  idxOf_inj (mem_map_of_mem he)

theorem resolves_conflicts (h : PairRelation pairConflict)
    (hnames : (listeners.map fun l => (l.source, l.listener.name)).Nodup) :
    Selection.Resolves (sourceRank listeners)
      (fun a b => (pairConflict a.listener b.listener).isSome) {l | l ∈ listeners}
      (Reported pairConflict order listeners) := by
  intro l hl
  have hown := nodup_ownListeners hnames
  obtain ⟨done, rest, hsplit⟩ := append_of_mem
    (mem_sources.2 (mem_map_of_mem hl) : l.source ∈ (groupBySource listeners).2)
  obtain ⟨hdone, hlater, hdisjoint⟩ := nodup_append.1 (hsplit ▸ nodup_sources listeners)
  have hsource : l.source ∉ done := fun hmem => hdisjoint _ hmem _ mem_cons_self rfl
  have hrest := (nodup_cons.1 hlater).1
  -- the state when the source of the listener has its turn
  set state := done.foldl (resolveSource pairConflict order (ownListeners listeners)) {}
    with hstate
  have hfinal : conflictsAcrossSourcesBy pairConflict order listeners =
      (rest.foldl (resolveSource pairConflict order (ownListeners listeners))
        (resolveSource pairConflict order (ownListeners listeners) state
          l.source)).conflicts := by
    rw [conflictsAcrossSourcesBy_eq, hsplit, foldl_append, foldl_cons]
  have hnew : ∀ name, conflictOf state.conflicts l.source name = none :=
    fun _ => conflictOf_foldl_resolveSource hsource {}
  have hat (name : String) :
      conflictOf (conflictsAcrossSourcesBy pairConflict order listeners) l.source name =
        conflictOf (resolveSource pairConflict order (ownListeners listeners) state
          l.source).conflicts l.source name := by
    rw [hfinal, conflictOf_foldl_resolveSource hrest]
  have hbefore {s : FullyQualifiedResource} (hs : s ∈ done) (name : String) :
      conflictOf (conflictsAcrossSourcesBy pairConflict order listeners) s name =
        conflictOf state.conflicts s name := by
    have hne : s ≠ l.source := fun heq => hsource (heq ▸ hs)
    have hs' : s ∉ rest := fun hmem => hdisjoint _ hs _ (mem_cons_of_mem _ hmem) rfl
    rw [hfinal, conflictOf_foldl_resolveSource hs', conflictOf_resolveSource_of_ne _ _ hne]
  -- the accepted listeners are those of lower rank that are not reported
  have hclash {x : ListenerWithContext} (hx : x.source = l.source) :
      Clashes pairConflict state.accepted x.listener ↔ Selection.Blocked (sourceRank listeners)
          (fun a b => (pairConflict a.listener b.listener).isSome) {l | l ∈ listeners}
          (Reported pairConflict order listeners) x := by
    constructor
    · rintro ⟨a, ha, hpair⟩
      obtain ⟨s, hs, hmem, hnone⟩ := (mem_accepted_foldl h hown hdone).1 ha
      obtain ⟨e, he, rfl, rfl⟩ := mem_ownListeners.1 hmem
      refine ⟨e, he, (sourceRank_lt_iff he (hx ▸ hsplit)).2 hs, ?_, hpair⟩
      rw [Reported, hbefore hs, hnone]
      exact Bool.false_ne_true
    · rintro ⟨e, he, hlt, hnot, hpair⟩
      have hs := (sourceRank_lt_iff he (hx ▸ hsplit)).1 hlt
      rw [Reported, hbefore hs, Option.not_isSome_iff_eq_none] at hnot
      exact ⟨e.listener, (mem_accepted_foldl h hown hdone).2
        ⟨e.source, hs, mem_ownListeners.2 ⟨e, he, rfl, rfl⟩, hnot⟩, hpair⟩
  have hmine : l.listener ∈ ownListeners listeners l.source :=
    mem_ownListeners.2 ⟨l, hl, rfl, rfl⟩
  rw [Reported, hat, isSome_resolveSource h (hown _) hnew hmine, hclash rfl]
  refine or_congr_right ⟨?_, ?_⟩
  · rintro ⟨o, ho, hne, hpair, hoclear, hclear⟩
    obtain ⟨other, hother, hsame, rfl⟩ := mem_ownListeners.1 ho
    exact ⟨other, hother, (sourceRank_eq_iff hother).2 hsame, fun heq => hne (heq ▸ rfl), hpair,
      (hclash hsame).not.1 hoclear, hclear⟩
  · rintro ⟨o, ho, hrank, hne, hpair, hoclear, hclear⟩
    have hsame := (sourceRank_eq_iff ho).1 hrank
    refine ⟨o.listener, mem_ownListeners.2 ⟨o, ho, hsame, rfl⟩, fun heq => hne ?_, hpair,
      (hclash hsame).not.2 hoclear, hclear⟩
    -- two listeners of the source with the same name are the same
    exact inj_on_of_nodup_map hnames ho hl (Prod.ext hsame (congrArg Listener.name heq))

/-! ## Further sources -/

theorem exists_sources_append (listeners more : List ListenerWithContext) :
    ∃ new, (groupBySource (listeners ++ more)).2 = (groupBySource listeners).2 ++ new := by
  induction more using reverseRecOn with
  | nil => exact ⟨[], by rw [append_nil, append_nil]⟩
  | append_singleton more l ih =>
    obtain ⟨new, hnew⟩ := ih
    rw [← append_assoc, sources_append, hnew]
    split_ifs
    · exact ⟨new, rfl⟩
    · exact ⟨new ++ [l.source], append_assoc _ _ _⟩

theorem conflictOf_append {more : List ListenerWithContext}
    (hmore : ∀ l ∈ more, l.source ∉ listeners.map (·.source))
    (hsource : source ∈ listeners.map (·.source)) (name : String) :
    conflictOf (conflictsAcrossSourcesBy pairConflict order (listeners ++ more)) source name =
      conflictOf (conflictsAcrossSourcesBy pairConflict order listeners) source name := by
  obtain ⟨new, hnew⟩ := exists_sources_append listeners more
  have hown (s : FullyQualifiedResource) (hs : s ∈ (groupBySource listeners).2) :
      ownListeners (listeners ++ more) s = ownListeners listeners s := by
    have hnil : (more.filter fun l => l.source = s) = [] :=
      filter_eq_nil_iff.2 fun l hl heq =>
        hmore l hl (of_decide_eq_true heq ▸ mem_sources.1 hs)
    rw [ownListeners, filter_append, hnil, append_nil, ownListeners]
  have hnot : source ∉ new := fun hmem =>
    (nodup_append.1 (hnew ▸ nodup_sources (listeners ++ more))).2.2 _
      (mem_sources.2 hsource) _ hmem rfl
  rw [conflictsAcrossSourcesBy_eq, hnew, foldl_append, conflictOf_foldl_resolveSource hnot,
    foldl_ext _ _ _ fun _ source hsource => by rw [resolveSource, hown source hsource],
    conflictsAcrossSourcesBy_eq]
  rfl

end

end

/-! ## The order of listing -/

/-- The name of a ListenerSet with its namespace. -/
def qualifiedName (ls : ListenerSet) : String := ls.ns ++ "/" ++ ls.name

/-- Precedence is by creation time and then by name. -/
def precedence (ls : ListenerSet) : ℕ ×ₗ String := toLex (ls.creationTimestamp, qualifiedName ls)

theorem listenerSetLess_eq_false {a b : ListenerSet} :
    listenerSetLess b a = false ↔ precedence a ≤ precedence b := by
  rw [listenerSetLess, lexLess_eq_false, decide_eq_false_iff_not, not_lt, Prod.Lex.le_iff]
  rfl

theorem sortListenerSets_perm {sets sets' : List ListenerSet} (hperm : sets.Perm sets')
    (hnames : (sets.map qualifiedName).Nodup) : sortListenerSets sets = sortListenerSets sets' := by
  have hkeys : (sets.map precedence).Nodup := by
    refine Nodup.of_map (fun p => (ofLex p).2) ?_
    rwa [map_map]
  exact insertionSort_eq_of_perm (fun a b => listenerSetLess_eq_false) hperm hkeys

/-! ## Precedence -/

/-- Conflicts between the listeners are resolved by precedence: those that are not reported are
    compatible, what is reported is blocked or contested, and only that, and listeners of further
    sources change nothing. -/
structure RespectsPrecedence (pairConflict : Listener → Listener → Option String)
    (order : RangeOrder (String × ListenerConflict)) (listeners : List ListenerWithContext) :
    Prop where
  compatible : ∀ l ∈ listeners, ∀ l' ∈ listeners, l ≠ l' →
    ¬ Reported pairConflict order listeners l → ¬ Reported pairConflict order listeners l' →
      pairConflict l.listener l'.listener = none
  resolves : Selection.Resolves (sourceRank listeners)
    (fun a b => (pairConflict a.listener b.listener).isSome) {l | l ∈ listeners}
    (Reported pairConflict order listeners)
  determined : ∀ rejected, Selection.Resolves (sourceRank listeners)
    (fun a b => (pairConflict a.listener b.listener).isSome) {l | l ∈ listeners} rejected →
      ∀ l ∈ listeners, (rejected l ↔ Reported pairConflict order listeners l)
  append : ∀ more : List ListenerWithContext,
    (∀ l ∈ more, l.source ∉ listeners.map (·.source)) → ∀ source ∈ listeners.map (·.source), ∀ name,
        conflictOf (conflictsAcrossSourcesBy pairConflict order (listeners ++ more)) source name =
          conflictOf (conflictsAcrossSourcesBy pairConflict order listeners) source name

/-- The conflicts of listeners with different names in each source respect precedence, and those of
    a Gateway and its ListenerSets do not depend on the order in which these are listed. -/
theorem respectsPrecedence {pairConflict : Listener → Listener → Option String}
    (order : RangeOrder (String × ListenerConflict)) (h : PairRelation pairConflict) :
    (∀ listeners : List ListenerWithContext,
      (listeners.map fun l => (l.source, l.listener.name)).Nodup →
        RespectsPrecedence pairConflict order listeners) ∧
    ∀ (c : Cluster) (gw : Gateway) (sets sets' : List ListenerSet), sets.Perm sets' →
      (sets.map qualifiedName).Nodup →
        conflictsAcrossSourcesBy pairConflict order
          (mergeListeners c gw (sortListenerSets sets)) =
        conflictsAcrossSourcesBy pairConflict order
          (mergeListeners c gw (sortListenerSets sets')) := by
  constructor
  · intro listeners hnames
    have hresolves : Selection.Resolves _ _ _ (Reported pairConflict order listeners) :=
      resolves_conflicts h hnames
    constructor
    case compatible =>
      intro l hl l' hl' hne hnot hnot'
      exact Option.not_isSome_iff_eq_none.1
        (hresolves.compatible (fun a b => h.symm _ _) hl hl' hne hnot hnot')
    case resolves => exact hresolves
    case determined => exact fun rejected hrejected => hrejected.unique hresolves
    case append => exact fun more hmore source hsource => conflictOf_append hmore hsource
  · intro c gw sets sets' hperm hnames
    rw [sortListenerSets_perm hperm hnames]

/-- A relation by which listeners on the same port are in conflict. -/
def samePort (first second : Listener) : Option String :=
  if first.port = second.port then some "ProtocolConflict" else none

theorem pairRelation_samePort : PairRelation samePort := by
  constructor
  · intro a b h
    by_cases hport : a.port = b.port
    · rw [samePort, if_pos hport.symm]
      rfl
    · rw [samePort, if_neg hport] at h
      exact absurd h Bool.false_ne_true
  · intro a b h
    rw [samePort] at h
    split_ifs at h
    exact absurd (Option.some.inj h) (by decide)

/-- A ListenerSet of a namespace, with a listener on a port of the Gateway. -/
def portListenerSet (ns : String) : ListenerSet where
  name := "extra"
  ns := ns
  parentRef := { name := "gw", ns := some "infra" }
  listeners := [openListener]

/-- Two such ListenerSets, listed in either order. -/
theorem respectsPrecedence_samePort :
    RespectsPrecedence samePort .entries
      (mergeListeners bareCluster sharedGateway [portListenerSet "a", portListenerSet "b"]) ∧
    conflictsAcrossSourcesBy samePort .entries (mergeListeners bareCluster sharedGateway
        (sortListenerSets [portListenerSet "a", portListenerSet "b"])) =
      conflictsAcrossSourcesBy samePort .entries (mergeListeners bareCluster sharedGateway
        (sortListenerSets [portListenerSet "b", portListenerSet "a"])) := by
  obtain ⟨hrespects, hlisting⟩ := respectsPrecedence .entries pairRelation_samePort
  exact ⟨hrespects _ (by decide), hlisting _ _ _ _ (.swap _ _ _) (by decide)⟩

/-! ## The relation of the code -/

theorem listenerPairConflict_eq_none (first second : Listener) :
    listenerPairConflict first second = none := by
  rw [listenerPairConflict, ite_self]

theorem checkConflict_eq_empty (accepted : List Listener) (l : Listener) :
    checkConflict listenerPairConflict accepted l = "" := by
  have hnone : accepted.findSome? (listenerPairConflict · l) = none :=
    findSome?_eq_none_iff.2 fun a _ => listenerPairConflict_eq_none a l
  rw [checkConflict, hnone]
  rfl

theorem conflictsWithinSourceBy_eq_self (ls : List Listener)
    (conflicts : Go.Map String ListenerConflict) :
    conflictsWithinSourceBy listenerPairConflict conflicts ls = conflicts := by
  induction ls generalizing conflicts with
  | nil => rfl
  | cons first rest ih =>
    have hfirst : conflictsWith listenerPairConflict first conflicts rest = conflicts := by
      simp only [conflictsWith, listenerPairConflict_eq_none, foldl_fixed]
    rw [conflictsWithinSourceBy, hfirst, ih]

variable (order : RangeOrder (String × ListenerConflict))

theorem conflicts_resolveSource (own : FullyQualifiedResource → List Listener) (state : Resolution) :
    (resolveSource listenerPairConflict order own state source).conflicts = state.conflicts := by
  have hvisit : order.visit (∅ : Go.Map String ListenerConflict).toPairs = [] :=
    perm_nil.1 (order.perm _)
  simp only [resolveSource, checkAccepted_eq, checkConflict_eq_empty,
    conflictsWithinSourceBy_eq_self, hvisit]
  simp

theorem conflictsAcrossSourcesBy_eq_empty (listeners : List ListenerWithContext) :
    conflictsAcrossSourcesBy listenerPairConflict order listeners = ∅ := by
  rw [conflictsAcrossSourcesBy_eq]
  induction (groupBySource listeners).2 using reverseRecOn with
  | nil => rfl
  | append_singleton sources source ih => rw [foldl_concat, conflicts_resolveSource, ih]

/-- This is what `conflictsAcrossSources` says. -/
theorem mem_conflictsAcrossSources (listeners : List ListenerWithContext) :
    (source, name) ∈ conflictsAcrossSources listeners ↔
      (conflictOf (conflictsAcrossSourcesBy listenerPairConflict order listeners) source
        name).isSome := by
  rw [conflictsAcrossSourcesBy_eq_empty]
  refine iff_of_false ?_ Bool.false_ne_true
  rw [conflictsAcrossSources]
  induction (listeners.map (·.source)).eraseDups using reverseRecOn with
  | nil => exact not_mem_nil
  | append_singleton sources source ih =>
    have hwithin (ls : List Listener) : conflictsWithinSource ls = [] := by
      rw [conflictsWithinSource, flatMap_eq_nil_iff]
      rintro (_ | ⟨first, rest⟩) _
      · rfl
      · simp [listenerPairConflict_eq_none]
    rw [foldl_concat]
    simpa [listenerPairConflict_eq_none, hwithin] using ih

end Reconcile
