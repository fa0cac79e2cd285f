import Mathlib.Data.Prod.Lex
import Dolphin.Go.Maps
import Dolphin.Go.Slices
import Dolphin.GatewayAPI.Types
import Dolphin.Selection.Tournament

/-!
# Which BackendTLSPolicy applies to a Service

A BackendTLSPolicy names Services of its namespace, each as a whole or one section of it. If
several policies name the same section of a Service, the oldest is valid there, or the one
whose name comes first if they are equally old. The others are in conflict with it.

`BuildBackendTLSPolicyLookup` goes once over the policies and their targetRefs and keeps, for
each Service, the valid policies by section and the conflicted ones by name. This is a
tournament for each Service (`standsFor_enter`), whose classes are the sections. Therefore the
lookup says what it should (`Resolves`), and the order of policies and targetRefs does not
matter (`conflicts_resolved`).
-/

namespace Reconcile

open Gatewayv1 Go Selection List

variable {p q : BackendTLSPolicy} {s : String} {svc : NamespacedName}

/-- `NamespacedName.String`. -/
def namespacedNameString (n : NamespacedName) : String := n.ns ++ "/" ++ n.name

/-- `client.ObjectKeyFromObject`. -/
def objectKey (btlsp : BackendTLSPolicy) : NamespacedName := ⟨btlsp.ns, btlsp.name⟩

def isServiceTargetRef (tr : PolicyTargetReference) : Bool := tr.kind = "Service" && tr.group = ""

/-! ## The lookup -/

/-- The policies for a Service. The source has a third map, of invalid policies, which is
    written when statuses are set and read nowhere. -/
structure BackendTLSPolicyTargetServiceCollection where
  valid : Go.Map String BackendTLSPolicy := ∅
  conflicted : Go.Map NamespacedName BackendTLSPolicy := ∅

namespace BackendTLSPolicyTargetServiceCollection

def upsertValidPolicy (b : BackendTLSPolicyTargetServiceCollection) (sectionName : String)
    (btlsp : BackendTLSPolicy) : BackendTLSPolicyTargetServiceCollection :=
  { b with valid := b.valid.set sectionName btlsp }

def upsertConflictedPolicy (b : BackendTLSPolicyTargetServiceCollection)
    (btlspFullName : NamespacedName) (btlsp : BackendTLSPolicy) :
    BackendTLSPolicyTargetServiceCollection :=
  { b with conflicted := b.conflicted.set btlspFullName btlsp }

/-- The iteration for a targetRef to a Service that has a collection already. -/
def enter (b : BackendTLSPolicyTargetServiceCollection) (sectionName : String)
    (current : BackendTLSPolicy) : BackendTLSPolicyTargetServiceCollection :=
  match b.valid.get? sectionName with
  | none => b.upsertValidPolicy sectionName current
  | some existing =>
    let currentName := objectKey current
    let existingName := objectKey existing
    if currentName = existingName then b
    else if current.creationTimestamp < existing.creationTimestamp then
      (b.upsertConflictedPolicy existingName existing).upsertValidPolicy sectionName current
    else if existing.creationTimestamp < current.creationTimestamp then
      b.upsertConflictedPolicy currentName current
    else if namespacedNameString currentName < namespacedNameString existingName then
      (b.upsertConflictedPolicy existingName existing).upsertValidPolicy sectionName current
    else b.upsertConflictedPolicy currentName current

end BackendTLSPolicyTargetServiceCollection

abbrev BackendTLSPolicyServiceMap := Go.Map NamespacedName BackendTLSPolicyTargetServiceCollection

/-- The iteration for one targetRef of a policy. -/
def enterTargetRef (current : BackendTLSPolicy) (lookupMap : BackendTLSPolicyServiceMap)
    (targetRef : PolicyTargetReference) : BackendTLSPolicyServiceMap :=
  if isServiceTargetRef targetRef then
    let svcName : NamespacedName := ⟨current.ns, targetRef.name⟩
    let sectionName := targetRef.sectionName.getD ""
    match lookupMap.get? svcName with
    | none =>
      let collection : BackendTLSPolicyTargetServiceCollection := {}
      lookupMap.set svcName (collection.upsertValidPolicy sectionName current)
    | some existingCollection =>
      lookupMap.set svcName (existingCollection.enter sectionName current)
  else lookupMap

def buildBackendTLSPolicyLookup (btlspList : List BackendTLSPolicy) : BackendTLSPolicyServiceMap :=
  btlspList.foldl (fun lookupMap current =>
    current.targetRefs.foldl (enterTargetRef current) lookupMap) ∅

/-- The policy that the lookup has as valid for a section of a Service. -/
def validFor (lookup : BackendTLSPolicyServiceMap) (svc : NamespacedName) (sectionName : String) :
    Option BackendTLSPolicy :=
  (lookup.get? svc).bind (·.valid.get? sectionName)

/-- The policy that the lookup has as conflicted for a Service under a name. -/
def conflictedFor (lookup : BackendTLSPolicyServiceMap) (svc name : NamespacedName) :
    Option BackendTLSPolicy :=
  (lookup.get? svc).bind (·.conflicted.get? name)

/-! ## What the lookup is for -/

/-- The policy has a targetRef to the section of the Service, the empty section being the whole
    Service. -/
def Targets (btlsp : BackendTLSPolicy) (svc : NamespacedName) (sectionName : String) : Prop :=
  ∃ ref ∈ btlsp.targetRefs, isServiceTargetRef ref = true ∧ svc = ⟨btlsp.ns, ref.name⟩ ∧
    sectionName = ref.sectionName.getD ""

/-- The policy is older, or as old and its name comes first. -/
def Precedes (p q : BackendTLSPolicy) : Prop :=
  p.creationTimestamp < q.creationTimestamp ∨ p.creationTimestamp = q.creationTimestamp ∧
    namespacedNameString (objectKey p) < namespacedNameString (objectKey q)

/-- The lookup resolves the conflicts between the policies. -/
structure Resolves (btlspList : List BackendTLSPolicy) (lookup : BackendTLSPolicyServiceMap) :
    Prop where
  /-- The valid policy for a section is the one that precedes all others there. -/
  valid_iff : ∀ svc sectionName p, validFor lookup svc sectionName = some p ↔
    p ∈ btlspList ∧ Targets p svc sectionName ∧
      ∀ q ∈ btlspList, Targets q svc sectionName → q = p ∨ Precedes p q
  exists_valid : ∀ svc sectionName, (∃ q ∈ btlspList, Targets q svc sectionName) →
    ∃ p, validFor lookup svc sectionName = some p
  /-- The conflicted policies of a Service are those that are not valid for some section they
      target. -/
  conflicted_iff : ∀ svc name p, conflictedFor lookup svc name = some p ↔
    objectKey p = name ∧ p ∈ btlspList ∧
      ∃ sectionName, Targets p svc sectionName ∧ validFor lookup svc sectionName ≠ some p

/-- The same policy, but for the order of its targetRefs. -/
def SamePolicy (p q : BackendTLSPolicy) : Prop :=
  q = { p with targetRefs := q.targetRefs } ∧ p.targetRefs.Perm q.targetRefs

/-- The same policies in another order, with their targetRefs in another order. -/
def Rearranged (l l' : List BackendTLSPolicy) : Prop :=
  ∃ l₀, l.Perm l₀ ∧ List.Forall₂ SamePolicy l₀ l'

/-- The lookups have the same Services, with the same policies for each. -/
def SameLookup (lookup lookup' : BackendTLSPolicyServiceMap) : Prop :=
  ∀ svc, Option.Rel (fun b b' =>
    (∀ sectionName, Option.Rel SamePolicy (b.valid.get? sectionName)
      (b'.valid.get? sectionName)) ∧
    ∀ name, Option.Rel SamePolicy (b.conflicted.get? name) (b'.conflicted.get? name))
    (lookup.get? svc) (lookup'.get? svc)

/-! ## The tournament of a Service -/

/-- The rank of a policy: older and then lexicographically first is less. -/
def rank (p : BackendTLSPolicy) : Nat ×ₗ String :=
  toLex (p.creationTimestamp, namespacedNameString (objectKey p))

theorem precedes_iff : Precedes p q ↔ rank p < rank q := by
  rw [rank, rank, Prod.Lex.toLex_lt_toLex, Precedes]

theorem rank_injective (hns : p.ns = q.ns) (h : rank p = rank q) : objectKey p = objectKey q := by
  have hstring : namespacedNameString (objectKey p) = namespacedNameString (objectKey q) :=
    congrArg Prod.snd (toLex.injective h)
  simp only [namespacedNameString, objectKey, hns] at hstring
  have hname : p.name = q.name := String.append_right_inj _ |>.1 hstring
  rw [objectKey, objectKey, hns, hname]

section

variable {b : BackendTLSPolicyTargetServiceCollection}

theorem enter_of_none (h : b.valid.get? s = none) : b.enter s p = b.upsertValidPolicy s p := by
  rw [BackendTLSPolicyTargetServiceCollection.enter, h]

/-- The comparisons of times and of names are one of ranks. -/
theorem enter_of_some (h : b.valid.get? s = some q) : b.enter s p =
      if objectKey p = objectKey q then b
      else if rank p < rank q then
        (b.upsertConflictedPolicy (objectKey q) q).upsertValidPolicy s p
      else b.upsertConflictedPolicy (objectKey p) p := by
  rw [BackendTLSPolicyTargetServiceCollection.enter, h]
  dsimp only
  have hlt := precedes_iff (p := p) (q := q)
  rcases lt_trichotomy p.creationTimestamp q.creationTimestamp with htime | htime | htime
  · rw [if_pos htime, if_pos (hlt.1 (.inl htime))]
  · have hname : rank p < rank q ↔
        namespacedNameString (objectKey p) < namespacedNameString (objectKey q) := by
      rw [← hlt, Precedes, htime]
      simp
    rw [if_neg htime.not_lt, if_neg htime.not_gt]
    simp only [hname]
  · have hnot : ¬ rank p < rank q := by
      rw [← hlt, Precedes]
      omega
    rw [if_neg htime.not_gt, if_pos htime, if_neg hnot]

end

/-- The collection holds the standing of the entries. -/
def StandsFor (E : Set (String × BackendTLSPolicy)) (b : BackendTLSPolicyTargetServiceCollection) :
    Prop :=
  ∃ st : Standing String BackendTLSPolicy, Reflects rank E st ∧
    (∀ s, b.valid.get? s = st.holder s) ∧
    ∀ name p, b.conflicted.get? name = some p ↔ objectKey p = name ∧ p ∈ st.loser

/-- The policies of the entries are in one namespace and have different names. -/
structure Distinguished (E : Set (String × BackendTLSPolicy)) : Prop where
  ns_eq : ∀ e ∈ E, ∀ e' ∈ E, e.2.ns = e'.2.ns
  eq_of_key : ∀ e ∈ E, ∀ e' ∈ E, objectKey e.2 = objectKey e'.2 → e.2 = e'.2

theorem Distinguished.ranked {E : Set (String × BackendTLSPolicy)} (h : Distinguished E) :
    Ranked rank E := by
  intro s x y hx hy hrank
  exact h.eq_of_key _ hx _ hy (rank_injective (h.ns_eq _ hx _ hy) hrank)

theorem get?_set_loser {m : Go.Map NamespacedName BackendTLSPolicy} {L : Set BackendTLSPolicy}
    (h : ∀ name x, m.get? name = some x ↔ objectKey x = name ∧ x ∈ L)
    (hq : ∀ x ∈ L, objectKey x = objectKey q → x = q) (name : NamespacedName)
    (x : BackendTLSPolicy) :
    (m.set (objectKey q) q).get? name = some x ↔ objectKey x = name ∧ x ∈ insert q L := by
  rw [Map.get?_set, Set.mem_insert_iff]
  split_ifs with hname
  · subst hname
    rw [Option.some_inj]
    constructor
    · rintro rfl
      exact ⟨rfl, .inl rfl⟩
    · rintro ⟨hkey, rfl | hx⟩
      · rfl
      · exact (hq x hx hkey).symm
  · rw [h]
    refine and_congr_right fun hkey => ⟨.inr, fun hx => hx.resolve_left ?_⟩
    rintro rfl
    exact hname hkey.symm

theorem standsFor_enter {E : Set (String × BackendTLSPolicy)}
    {b : BackendTLSPolicyTargetServiceCollection} (hd : Distinguished (insert (s, p) E))
    (h : StandsFor E b) :
    StandsFor (insert (s, p) E) (b.enter s p) := by
  obtain ⟨st, hreflects, hvalid, hconflicted⟩ := h
  have hupdate (x : BackendTLSPolicy) (s' : String) :
      (b.valid.set s x).get? s' = Function.update st.holder s (some x) s' := by
    rw [Map.get?_set, hvalid, Function.update_apply]
  have hlosers {e : String × BackendTLSPolicy} (he : e ∈ insert (s, p) E) :
      ∀ x ∈ st.loser, objectKey x = objectKey e.2 → x = e.2 := by
    intro x hx hkey
    obtain ⟨s', hx', _⟩ := (hreflects.loser_iff x).1 hx
    exact hd.eq_of_key _ (.inr hx') _ he hkey
  refine ⟨st.enter rank (s, p), reflects_enter hd.ranked hreflects, ?_⟩
  rw [Standing.enter]
  cases hholder : st.holder s with
  | none =>
    rw [enter_of_none ((hvalid s).trans hholder)]
    exact ⟨hupdate p, hconflicted⟩
  | some w =>
    have hw : (s, w) ∈ E := ((hreflects.holder_iff s w).1 hholder).1
    rw [enter_of_some ((hvalid s).trans hholder)]
    dsimp only
    split_ifs with hkey hpw hwp hpw hwp
    · -- the policy names the section twice
      obtain rfl : p = w := hd.eq_of_key _ (.inl rfl) _ (.inr hw) hkey
      exact absurd hpw (lt_irrefl _)
    · obtain rfl : p = w := hd.eq_of_key _ (.inl rfl) _ (.inr hw) hkey
      exact absurd hwp (lt_irrefl _)
    · exact ⟨hvalid, hconflicted⟩
    · exact ⟨hupdate p, get?_set_loser hconflicted (hlosers (.inr hw))⟩
    · exact ⟨hvalid, get?_set_loser hconflicted (hlosers (.inl rfl))⟩
    · have heq := le_antisymm (le_of_not_gt hwp) (le_of_not_gt hpw)
      obtain rfl : p = w := hd.ranked s p w (.inl rfl) (.inr hw) heq
      exact absurd rfl hkey

theorem standsFor_foldl {es : List (String × BackendTLSPolicy)} (hd : Distinguished {e | e ∈ es}) :
    StandsFor {e | e ∈ es}
      (es.foldl (fun b e => b.enter e.1 e.2) ({} : BackendTLSPolicyTargetServiceCollection)) := by
  induction es using reverseRecOn with
  | nil =>
    rw [show {e : String × BackendTLSPolicy | e ∈ []} = ∅ from Set.ext fun e => by simp]
    refine ⟨.initial, reflects_initial, fun s => Map.get?_empty s, fun name p => ?_⟩
    exact iff_of_false (by simp) fun h => h.2
  | append_singleton es e ih =>
    have hset : {e' | e' ∈ es ++ [e]} = insert e {e' | e' ∈ es} := by
      ext e'
      simp [or_comm]
    rw [hset] at hd ⊢
    rw [foldl_concat]
    exact standsFor_enter hd (ih ⟨fun x hx y hy => hd.ns_eq x (.inr hx) y (.inr hy),
      fun x hx y hy => hd.eq_of_key x (.inr hx) y (.inr hy)⟩)

/-! ## The lookup as a whole -/

/-- The targetRefs to Services, in the order of the loops, each with its policy. -/
def serviceTargets (btlspList : List BackendTLSPolicy) :
    List (BackendTLSPolicy × PolicyTargetReference) :=
  btlspList.flatMap fun p => (p.targetRefs.filter isServiceTargetRef).map fun ref => (p, ref)

/-- The entries in the tournament of a Service. -/
def entriesFor (btlspList : List BackendTLSPolicy) (svc : NamespacedName) :
    List (String × BackendTLSPolicy) :=
  ((serviceTargets btlspList).filter fun e => (⟨e.1.ns, e.2.name⟩ : NamespacedName) = svc).map
    fun e => (e.2.sectionName.getD "", e.1)

theorem mem_entriesFor {l : List BackendTLSPolicy} :
    (s, p) ∈ entriesFor l svc ↔ p ∈ l ∧ Targets p svc s := by
  simp only [entriesFor, serviceTargets, mem_map, mem_filter, mem_flatMap,
    decide_eq_true_eq, Prod.mk.injEq, Targets]
  constructor
  · rintro ⟨⟨p', ref⟩, ⟨⟨p'', hp, ref', hfilter, heq⟩, hsvc⟩, hs, rfl⟩
    obtain ⟨rfl, rfl⟩ := Prod.mk.inj heq
    exact ⟨hp, ref', hfilter.1, hfilter.2, hsvc.symm, hs.symm⟩
  · rintro ⟨hp, ref, href, hservice, hsvc, hs⟩
    exact ⟨(p, ref), ⟨⟨p, hp, ref, ⟨href, hservice⟩, rfl⟩, hsvc.symm⟩, hs.symm, rfl⟩

theorem enterTargetRef_eq (p : BackendTLSPolicy) (lookup : BackendTLSPolicyServiceMap)
    {ref : PolicyTargetReference} (h : isServiceTargetRef ref = true) :
    enterTargetRef p lookup ref = lookup.alter ⟨p.ns, ref.name⟩ fun b =>
      (b.getD {}).enter (ref.sectionName.getD "") p := by
  rw [enterTargetRef, if_pos h]
  dsimp only
  cases hget : lookup.get? ⟨p.ns, ref.name⟩ with
  | none =>
    rw [Map.alter, hget, Option.getD_none, enter_of_none (Map.get?_empty _)]
  | some b => rw [Map.alter, hget, Option.getD_some]

theorem foldl_enterTargetRef (p : BackendTLSPolicy) (refs : List PolicyTargetReference)
    (lookup : BackendTLSPolicyServiceMap) :
    refs.foldl (enterTargetRef p) lookup =
      ((refs.filter isServiceTargetRef).map fun ref => (p, ref)).foldl (fun lookup e =>
        lookup.alter ⟨e.1.ns, e.2.name⟩ fun b =>
          (b.getD {}).enter (e.2.sectionName.getD "") e.1) lookup := by
  induction refs generalizing lookup with
  | nil => rfl
  | cons ref refs ih =>
    by_cases h : isServiceTargetRef ref = true
    · rw [foldl_cons, filter_cons_of_pos h, map_cons, foldl_cons, enterTargetRef_eq p lookup h, ih]
    · rw [foldl_cons, filter_cons_of_neg h, enterTargetRef, if_neg h, ih]

theorem get?_buildBackendTLSPolicyLookup (l : List BackendTLSPolicy) (svc : NamespacedName) :
    (buildBackendTLSPolicyLookup l).get? svc =
      if entriesFor l svc = [] then none
      else some ((entriesFor l svc).foldl (fun b e => b.enter e.1 e.2) {}) := by
  have hfold : buildBackendTLSPolicyLookup l = (serviceTargets l).foldl (fun lookup e =>
      lookup.alter ⟨e.1.ns, e.2.name⟩ fun b =>
        (b.getD {}).enter (e.2.sectionName.getD "") e.1) ∅ := by
    simp only [buildBackendTLSPolicyLookup, serviceTargets, foldl_flatMap, foldl_enterTargetRef]
  rw [hfold, Map.get?_foldl_alter, Map.get?_empty, Map.foldl_some_getD
    (fun (e : BackendTLSPolicy × PolicyTargetReference)
      (b : BackendTLSPolicyTargetServiceCollection) => b.enter (e.2.sectionName.getD "") e.1)]
  simp only [entriesFor, foldl_map, map_eq_nil_iff]

section

variable {l : List BackendTLSPolicy} (hnodup : (l.map objectKey).Nodup) {p : BackendTLSPolicy}

include hnodup

theorem distinguished_entriesFor (svc : NamespacedName) :
    Distinguished {e | e ∈ entriesFor l svc} := by
  constructor
  · rintro ⟨s, p⟩ hp ⟨s', q⟩ hq
    obtain ⟨_, _, _, _, hsvc, _⟩ := mem_entriesFor.1 hp
    obtain ⟨_, _, _, _, hsvc', _⟩ := mem_entriesFor.1 hq
    exact (congrArg (·.ns) hsvc).symm.trans (congrArg (·.ns) hsvc')
  · rintro ⟨s, p⟩ hp ⟨s', q⟩ hq hkey
    exact inj_on_of_nodup_map hnodup (mem_entriesFor.1 hp).1 (mem_entriesFor.1 hq).1 hkey

/-- The maps of a Service are read like the standing of its tournament. -/
theorem exists_standing (svc : NamespacedName) :
    ∃ st : Standing String BackendTLSPolicy, Reflects rank {e | e ∈ entriesFor l svc} st ∧
      (∀ s, validFor (buildBackendTLSPolicyLookup l) svc s = st.holder s) ∧
      ∀ name p, conflictedFor (buildBackendTLSPolicyLookup l) svc name = some p ↔
        objectKey p = name ∧ p ∈ st.loser := by
  obtain ⟨st, hreflects, hvalid, hconflicted⟩ :=
    standsFor_foldl (distinguished_entriesFor hnodup svc)
  refine ⟨st, hreflects, fun s => ?_, fun name p => ?_⟩
  · rw [← hvalid, validFor, get?_buildBackendTLSPolicyLookup]
    split_ifs with hnil
    · rw [hnil]
      exact (Map.get?_empty s).symm
    · rfl
  · rw [← hconflicted, conflictedFor, get?_buildBackendTLSPolicyLookup]
    split_ifs with hnil
    · rw [hnil]
      simp
    · rfl

theorem validFor_eq_some_iff : validFor (buildBackendTLSPolicyLookup l) svc s = some p ↔
      Wins rank {e | e ∈ entriesFor l svc} s p := by
  obtain ⟨st, hreflects, hvalid, _⟩ := exists_standing hnodup svc
  rw [hvalid, hreflects.holder_iff]

theorem conflictedFor_eq_some_iff {name : NamespacedName} :
    conflictedFor (buildBackendTLSPolicyLookup l) svc name = some p ↔
      objectKey p = name ∧ Loses rank {e | e ∈ entriesFor l svc} p := by
  obtain ⟨st, hreflects, _, hconflicted⟩ := exists_standing hnodup svc
  rw [hconflicted, hreflects.loser_iff]

theorem exists_validFor (h : (s, p) ∈ entriesFor l svc) :
    ∃ w, validFor (buildBackendTLSPolicyLookup l) svc s = some w := by
  obtain ⟨st, hreflects, hvalid, _⟩ := exists_standing hnodup svc
  rw [hvalid]
  by_contra hnone
  rw [not_exists, ← Option.eq_none_iff_forall_ne_some] at hnone
  exact hreflects.vacant s hnone p h

theorem resolves_lookup : Resolves l (buildBackendTLSPolicyLookup l) := by
  constructor
  case valid_iff =>
    intro svc s p
    have hranked := (distinguished_entriesFor hnodup svc).ranked
    rw [validFor_eq_some_iff hnodup, Wins, Set.mem_ofPred_eq, mem_entriesFor, and_assoc]
    refine and_congr_right fun hp => and_congr_right fun htargets => ⟨?_, ?_⟩
    · intro hleast q hq hqtargets
      have hmem := mem_entriesFor.2 ⟨hq, hqtargets⟩
      rcases (hleast q hmem).lt_or_eq with hlt | heq
      · exact .inr (precedes_iff.2 hlt)
      · exact .inl (hranked s p q (mem_entriesFor.2 ⟨hp, htargets⟩) hmem heq).symm
    · intro hfirst q hmem
      obtain ⟨hq, hqtargets⟩ := mem_entriesFor.1 hmem
      rcases hfirst q hq hqtargets with rfl | hprecedes
      · exact le_rfl
      · exact (precedes_iff.1 hprecedes).le
  case exists_valid =>
    rintro svc s ⟨q, hq, htargets⟩
    exact exists_validFor hnodup (mem_entriesFor.2 ⟨hq, htargets⟩)
  case conflicted_iff =>
    intro svc name p
    have hranked := (distinguished_entriesFor hnodup svc).ranked
    rw [conflictedFor_eq_some_iff hnodup]
    refine and_congr_right fun _ => ⟨?_, ?_⟩
    · rintro ⟨s, hp, y, hy, hlt⟩
      obtain ⟨hp, htargets⟩ := mem_entriesFor.1 hp
      refine ⟨hp, s, htargets, fun hvalid => ?_⟩
      exact hlt.not_ge (((validFor_eq_some_iff hnodup).1 hvalid).2 y hy)
    · rintro ⟨hp, s, htargets, hne⟩
      have hmem := mem_entriesFor.2 ⟨hp, htargets⟩
      obtain ⟨w, hw⟩ := exists_validFor hnodup hmem
      have hwins := (validFor_eq_some_iff hnodup).1 hw
      refine ⟨s, hmem, w, hwins.1, (hwins.2 p hmem).lt_of_ne fun heq => ?_⟩
      rw [hranked s w p hwins.1 hmem heq] at hw
      exact hne hw

end

/-! ## Rearrangements -/

section Rearranged

theorem SamePolicy.key_eq (h : SamePolicy p q) : objectKey q = objectKey p := by
  rw [h.1]
  rfl

theorem SamePolicy.rank_eq (h : SamePolicy p q) : rank q = rank p := by
  rw [h.1]
  rfl

theorem SamePolicy.targets_iff (h : SamePolicy p q) : Targets q svc s ↔ Targets p svc s := by
  have hns : q.ns = p.ns := by rw [h.1]
  simp only [Targets, hns, h.2.mem_iff]

theorem SamePolicy.symm (h : SamePolicy p q) : SamePolicy q p := by
  refine ⟨?_, h.2.symm⟩
  rw [h.1]

/-- Each policy of one list stands for one of the other. -/
def Corresponding (l l' : List BackendTLSPolicy) : Prop :=
  (∀ p ∈ l, ∃ q ∈ l', SamePolicy p q) ∧ ∀ q ∈ l', ∃ p ∈ l, SamePolicy q p

variable {l l' : List BackendTLSPolicy}

theorem Rearranged.corresponding (h : Rearranged l l') : Corresponding l l' := by
  obtain ⟨l₀, hperm, hsame⟩ := h
  constructor
  · intro p hp
    exact exists_of_forall₂_left hsame (hperm.mem_iff.1 hp)
  · intro q hq
    obtain ⟨p, hp, hpq⟩ := exists_of_forall₂_right hsame hq
    exact ⟨p, hperm.mem_iff.2 hp, hpq.symm⟩

theorem Rearranged.nodup_keys (h : Rearranged l l') (hnodup : (l.map objectKey).Nodup) :
    (l'.map objectKey).Nodup := by
  obtain ⟨l₀, hperm, hsame⟩ := h
  have hkeys : l'.map objectKey = l₀.map objectKey := by
    clear hperm
    induction hsame with
    | nil => rfl
    | cons hpq _ ih => rw [map_cons, map_cons, hpq.key_eq, ih]
  rw [hkeys]
  exact (hperm.map objectKey).nodup_iff.1 hnodup

theorem Corresponding.symm (h : Corresponding l l') : Corresponding l' l := ⟨h.2, h.1⟩

theorem mem_entriesFor_of_same (hq : q ∈ l') (hpq : SamePolicy p q)
    (hp : (s, p) ∈ entriesFor l svc) : (s, q) ∈ entriesFor l' svc :=
  mem_entriesFor.2 ⟨hq, hpq.targets_iff.2 (mem_entriesFor.1 hp).2⟩

theorem Corresponding.exists_entry (h : Corresponding l l') (hp : (s, p) ∈ entriesFor l svc) :
    ∃ q, (s, q) ∈ entriesFor l' svc ∧ SamePolicy p q := by
  obtain ⟨q, hq, hpq⟩ := h.1 p (mem_entriesFor.1 hp).1
  exact ⟨q, mem_entriesFor_of_same hq hpq hp, hpq⟩

theorem Corresponding.wins (h : Corresponding l l') (hq : q ∈ l') (hpq : SamePolicy p q)
    (hp : Wins rank {e | e ∈ entriesFor l svc} s p) :
    Wins rank {e | e ∈ entriesFor l' svc} s q := by
  refine ⟨mem_entriesFor_of_same hq hpq hp.1, fun y hy => ?_⟩
  obtain ⟨y₀, hy₀, hsame⟩ := h.symm.exists_entry hy
  rw [hpq.rank_eq, ← hsame.rank_eq]
  exact hp.2 y₀ hy₀

theorem Corresponding.loses (h : Corresponding l l') (hq : q ∈ l') (hpq : SamePolicy p q)
    (hp : Loses rank {e | e ∈ entriesFor l svc} p) :
    Loses rank {e | e ∈ entriesFor l' svc} q := by
  obtain ⟨s, hmem, y, hy, hlt⟩ := hp
  obtain ⟨y', hy', hsame⟩ := h.exists_entry hy
  refine ⟨s, mem_entriesFor_of_same hq hpq hmem, y', hy', ?_⟩
  rwa [hpq.rank_eq, hsame.rank_eq]

theorem Corresponding.entriesFor_eq_nil (h : Corresponding l l')
    (hnil : entriesFor l' svc = []) : entriesFor l svc = [] := by
  rw [eq_nil_iff_forall_not_mem] at hnil ⊢
  rintro ⟨s, p⟩ hp
  obtain ⟨q, hq, _⟩ := h.exists_entry hp
  exact hnil _ hq

/-- Values that correspond whenever there is one. -/
theorem optionRel_of {α : Type} {R : α → α → Prop} {a b : Option α}
    (hab : ∀ x, a = some x → ∃ y, b = some y ∧ R x y)
    (hba : ∀ y, b = some y → ∃ x, a = some x) : Option.Rel R a b := by
  cases a with
  | some x =>
    obtain ⟨y, rfl, hxy⟩ := hab x rfl
    exact .some hxy
  | none =>
    cases b with
    | none => exact .none
    | some y =>
      obtain ⟨x, hx⟩ := hba y rfl
      cases hx

variable (h : Corresponding l l') (hnodup : (l.map objectKey).Nodup)
  (hnodup' : (l'.map objectKey).Nodup)

include h hnodup hnodup'

theorem Corresponding.validFor_rel :
    Option.Rel SamePolicy (validFor (buildBackendTLSPolicyLookup l) svc s)
      (validFor (buildBackendTLSPolicyLookup l') svc s) := by
  refine optionRel_of (fun p hp => ?_) fun q hq => ?_
  · rw [validFor_eq_some_iff hnodup] at hp
    obtain ⟨q, hq, hpq⟩ := h.1 p (mem_entriesFor.1 hp.1).1
    exact ⟨q, (validFor_eq_some_iff hnodup').2 (h.wins hq hpq hp), hpq⟩
  · rw [validFor_eq_some_iff hnodup'] at hq
    obtain ⟨p, hp, hqp⟩ := h.2 q (mem_entriesFor.1 hq.1).1
    exact ⟨p, (validFor_eq_some_iff hnodup).2 (h.symm.wins hp hqp hq)⟩

theorem Corresponding.conflictedFor_rel {name : NamespacedName} :
    Option.Rel SamePolicy (conflictedFor (buildBackendTLSPolicyLookup l) svc name)
      (conflictedFor (buildBackendTLSPolicyLookup l') svc name) := by
  refine optionRel_of (fun p hp => ?_) fun q hq => ?_
  · rw [conflictedFor_eq_some_iff hnodup] at hp
    obtain ⟨s, hmem, _⟩ := hp.2
    obtain ⟨q, hq, hpq⟩ := h.1 p (mem_entriesFor.1 hmem).1
    exact ⟨q, (conflictedFor_eq_some_iff hnodup').2
      ⟨hpq.key_eq.trans hp.1, h.loses hq hpq hp.2⟩, hpq⟩
  · rw [conflictedFor_eq_some_iff hnodup'] at hq
    obtain ⟨s, hmem, _⟩ := hq.2
    obtain ⟨p, hp, hqp⟩ := h.2 q (mem_entriesFor.1 hmem).1
    exact ⟨p, (conflictedFor_eq_some_iff hnodup).2
      ⟨hqp.key_eq.trans hq.1, h.symm.loses hp hqp hq.2⟩⟩

theorem Corresponding.sameLookup :
    SameLookup (buildBackendTLSPolicyLookup l) (buildBackendTLSPolicyLookup l') := by
  intro svc
  have hvalid (s : String) : Option.Rel SamePolicy
      (validFor (buildBackendTLSPolicyLookup l) svc s)
      (validFor (buildBackendTLSPolicyLookup l') svc s) := h.validFor_rel hnodup hnodup'
  have hconflicted (name : NamespacedName) : Option.Rel SamePolicy
      (conflictedFor (buildBackendTLSPolicyLookup l) svc name)
      (conflictedFor (buildBackendTLSPolicyLookup l') svc name) :=
    h.conflictedFor_rel hnodup hnodup'
  simp only [validFor, conflictedFor, get?_buildBackendTLSPolicyLookup] at hvalid hconflicted ⊢
  by_cases hnil : entriesFor l svc = []
  · rw [if_pos hnil, if_pos (h.symm.entriesFor_eq_nil hnil)]
    exact .none
  · have hnil' : entriesFor l' svc ≠ [] := fun hnil' => hnil (h.entriesFor_eq_nil hnil')
    simp only [if_neg hnil, if_neg hnil', Option.bind_some] at hvalid hconflicted ⊢
    exact .some ⟨hvalid, hconflicted⟩

end Rearranged

/-- The lookup resolves the conflicts between policies with different names, and it is the
    same for every order of the policies and of their targetRefs. -/
theorem conflicts_resolved {btlspList : List BackendTLSPolicy}
    (hnodup : (btlspList.map objectKey).Nodup) :
    Resolves btlspList (buildBackendTLSPolicyLookup btlspList) ∧
      ∀ rearranged, Rearranged btlspList rearranged →
        SameLookup (buildBackendTLSPolicyLookup btlspList)
          (buildBackendTLSPolicyLookup rearranged) :=
  ⟨resolves_lookup hnodup, fun _ h =>
    h.corresponding.sameLookup hnodup (h.nodup_keys hnodup)⟩

/-- Two policies of one age for the whole Service, and an older one for a section of it. -/
def cartPolicies : List BackendTLSPolicy :=
  [{ name := "zone", ns := "shop", creationTimestamp := 20
     targetRefs := [⟨"", "Service", "cart", none⟩] },
    { name := "edge", ns := "shop", creationTimestamp := 20
      targetRefs := [⟨"", "Service", "cart", none⟩, ⟨"", "Service", "cart", some "https"⟩] },
    { name := "old", ns := "shop", creationTimestamp := 10
      targetRefs := [⟨"", "Service", "cart", some "https"⟩] }]

theorem conflicts_resolved_cartPolicies :
    (cartPolicies.map objectKey).Nodup ∧
      (validFor (buildBackendTLSPolicyLookup cartPolicies) ⟨"shop", "cart"⟩ "").map (·.name) =
        some "edge" ∧
      (validFor (buildBackendTLSPolicyLookup cartPolicies) ⟨"shop", "cart"⟩ "https").map
        (·.name) = some "old" ∧
      Resolves cartPolicies (buildBackendTLSPolicyLookup cartPolicies) ∧
      ∀ rearranged, Rearranged cartPolicies rearranged →
        SameLookup (buildBackendTLSPolicyLookup cartPolicies)
          (buildBackendTLSPolicyLookup rearranged) :=
  ⟨by decide, by decide, by decide, conflicts_resolved (by decide)⟩

end Reconcile
