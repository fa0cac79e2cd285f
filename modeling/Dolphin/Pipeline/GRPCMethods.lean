import Dolphin.Pipeline.Matching
import Dolphin.Regexp.Fragment

/-!
# Methods of GRPCRoutes

The path of a gRPC request is `/S/M`, with the service and the method that is called. A match of a
GRPCRoute may have a condition on either. It becomes one on the path (`toGRPCPathMatch`), which is
wrong in general:

* a condition on the method alone is dropped;
* for one on the service alone, it is the whole path that has to be the service, or match its regular
  expression;
* regular expressions are put into the path as they are, where they need not mean the same as on their
  own (`Joinable`).

Otherwise it is right (`matchesCalls_of_joinable`).
-/

namespace Pipeline

open Gatewayv1 Ingestion Translation Go Option

/-- A part of a path: not empty, and without slashes. -/
structure Segment (x : String) : Prop where
  ne : x ≠ ""
  slash : '/' ∉ x.toList

section

variable (engine : Envoy.RegexEngine)

/-- The condition on a service or on a method. -/
def NameHolds (t : Option ValueMatchType) (pattern x : String) : Prop :=
  match t with
  | some .exact => x = pattern
  | some .regularExpression => engine.fullMatch pattern x = true
  | _ => False

/-- The conditions that the match has hold for the service and the method. -/
def CallMatches (m : GRPCRouteMatch) (service name : String) : Prop :=
  ∀ method ∈ m.method, (∀ s ∈ method.service, NameHolds engine method.type s service) ∧
    ∀ n ∈ method.method, NameHolds engine method.type n name

/-- Envoy accepts the paths for which the conditions hold. -/
def MatchesCalls (m : GRPCRouteMatch) : Prop :=
  ∃ pathMatch, toGRPCPathMatch m = .ok pathMatch ∧
    ∀ hostnames suffixMatch headers query method service name, Segment service → Segment name →
      ((getRouteMatch hostnames suffixMatch pathMatch headers query method).pathSpecifier.accepts
        engine ("/" ++ service ++ "/" ++ name) = true ↔ CallMatches engine m service name)

/-- A condition on the method alone holds for all methods. One on the service alone holds for a
    service if and only if it does for the path of any of its methods. -/
def LoneHolds (method : GRPCMethodMatch) : Prop :=
  match method.service, method.method with
  | none, some n => ∀ name, Segment name → NameHolds engine method.type n name
  | some s, none => ∀ service name, Segment service → Segment name →
      (NameHolds engine method.type s (service ++ "/" ++ name) ↔
        NameHolds engine method.type s service)
  | _, _ => True

end

/-- The regular expressions that are put into a path, of the service and perhaps the method, can be
    joined by slashes. -/
def Joinable (method : GRPCMethodMatch) : Prop :=
  method.type = some .regularExpression → ∀ s ∈ method.service,
    Regexp.isJoinable s = true ∧ ∀ n ∈ method.method, Regexp.isJoinable n = true

/-- A match with a type, which the CRD has a default for. -/
def DefaultedMethod (method : GRPCMethodMatch) : Prop :=
  method.type = some .exact ∨ method.type = some .regularExpression

variable {engine : Envoy.RegexEngine} {service name : String}

theorem segments_inj (hservice : Segment service) (hname : Segment name) {s n : String}
    (h : "/" ++ service ++ "/" ++ name = "/" ++ s ++ "/" ++ n) : service = s ∧ name = n := by
  have hlist : service.toList ++ '/' :: name.toList = s.toList ++ '/' :: n.toList := by
    simpa using congrArg String.toList h
  rw [← String.toList_inj, ← String.toList_inj]
  -- if the first slashes are not at the same place, one of the parts has a slash
  rcases List.append_eq_append_iff.1 hlist with ⟨rest, hs, hrest⟩ | ⟨rest, hs, hrest⟩
  · cases rest with
    | nil => simp_all
    | cons c rest => exact absurd ((List.cons.inj hrest).2 ▸ by simp) hname.slash
  · cases rest with
    | nil => simp_all
    | cons c rest =>
      obtain ⟨rfl, _⟩ := List.cons.inj hrest
      exact absurd (hs ▸ by simp) hservice.slash

theorem matchesCalls_iff_forall {m : GRPCRouteMatch} {pathMatch : Model.StringMatch}
    (h : toGRPCPathMatch m = .ok pathMatch) :
    MatchesCalls engine m ↔ ∀ service name, Segment service → Segment name →
      ((getPathSpecifier pathMatch).accepts engine ("/" ++ service ++ "/" ++ name) = true ↔
        CallMatches engine m service name) := by
  constructor
  · rintro ⟨pathMatch', h', hall⟩
    obtain rfl := Except.ok.inj (h.symm.trans h')
    exact hall [] false [] [] none
  · exact fun hall => ⟨pathMatch, h, fun _ _ _ _ _ => hall⟩

theorem accepts_default : (getPathSpecifier {}).accepts engine ("/" ++ service ++ "/" ++ name) = true := by
  rw [String.append_assoc, String.append_assoc]
  exact hasPrefix_append _ _

theorem accepts_exact {p q : String} (hp : p ≠ "") :
    (getPathSpecifier { exact := p }).accepts engine q = true ↔ q = p := by
  simp [getPathSpecifier, hp, Envoy.PathSpecifier.accepts]

theorem accepts_regex {p q : String} (hp : p ≠ "") :
    (getPathSpecifier { regex := p }).accepts engine q = engine.fullMatch p q := by
  simp [getPathSpecifier, hp, Envoy.PathSpecifier.accepts]

section

variable (hjoins : Regexp.Joins engine.fullMatch)

include hjoins

theorem matchesCalls_both {t : Option ValueMatchType} {s n : String}
    (hm : DefaultedMethod ⟨t, some s, some n⟩) (hjoinable : Joinable ⟨t, some s, some n⟩)
    (headers : List ValueMatch) : MatchesCalls engine ⟨some ⟨t, some s, some n⟩, headers⟩ := by
  have hne : "/" ++ s ++ ("/" ++ n) ≠ "" := by simp
  obtain rfl | rfl : t = some .exact ∨ t = some .regularExpression := hm
  · refine (matchesCalls_iff_forall rfl).2 fun service name hservice hname => ?_
    simp only [accepts_exact hne, CallMatches, NameHolds, mem_some_iff, forall_eq']
    rw [← String.append_assoc]
    constructor
    · exact segments_inj hservice hname
    · rintro ⟨rfl, rfl⟩
      rfl
  · refine (matchesCalls_iff_forall rfl).2 fun service name hservice hname => ?_
    simp only [accepts_regex hne, CallMatches, NameHolds, mem_some_iff, forall_eq']
    obtain ⟨hs, hn⟩ := hjoinable rfl s rfl
    rw [← String.append_assoc, hjoins.two s n hs (hn n rfl)]
    constructor
    · rintro ⟨u, v, heq, hu, hv⟩
      obtain ⟨rfl, rfl⟩ := segments_inj hservice hname heq
      exact ⟨hu, hv⟩
    · exact fun h => ⟨service, name, rfl, h⟩

theorem matchesCalls_service_iff {t : Option ValueMatchType} {s : String}
    (hm : DefaultedMethod ⟨t, some s, none⟩) (hjoinable : Joinable ⟨t, some s, none⟩)
    (headers : List ValueMatch) :
    MatchesCalls engine ⟨some ⟨t, some s, none⟩, headers⟩ ↔ LoneHolds engine ⟨t, some s, none⟩ := by
  have hne : "/" ++ s ≠ "" := by simp
  have hcut (x y : String) : "/" ++ x ++ "/" ++ y = "/" ++ (x ++ "/" ++ y) := by
    simp only [String.append_assoc]
  obtain rfl | rfl : t = some .exact ∨ t = some .regularExpression := hm
  · rw [matchesCalls_iff_forall rfl]
    simp [accepts_exact hne, CallMatches, LoneHolds, NameHolds, hcut]
  · have hone (x : String) : engine.fullMatch ("/" ++ s) ("/" ++ x) = engine.fullMatch s x := by
      rw [Bool.eq_iff_iff, hjoins.one s (hjoinable rfl s rfl).1]
      simp
    rw [matchesCalls_iff_forall rfl]
    simp [accepts_regex hne, CallMatches, LoneHolds, NameHolds, hcut, hone]

/-- If the expressions can be joined, a match is right if it has both conditions or none, and
    otherwise exactly if it makes no difference that the method is dropped, or that the service is
    compared with the path. -/
theorem matchesCalls_iff_lone {m : GRPCRouteMatch} (hm : ∀ method ∈ m.method, DefaultedMethod method)
    (hjoinable : ∀ method ∈ m.method, Joinable method) :
    MatchesCalls engine m ↔ ∀ method ∈ m.method, LoneHolds engine method := by
  obtain ⟨_ | ⟨t, s, n⟩, headers⟩ := m
  · rw [matchesCalls_iff_forall rfl]
    exact iff_of_true (fun _ _ _ _ => iff_of_true accepts_default (by simp [CallMatches])) (by simp)
  have hlone : (∀ method ∈ some (⟨t, s, n⟩ : GRPCMethodMatch), LoneHolds engine method) ↔
      LoneHolds engine ⟨t, s, n⟩ := by simp
  rw [hlone]
  cases s with
  | none =>
    rw [matchesCalls_iff_forall rfl]
    cases n with
    | none =>
      exact iff_of_true (fun _ _ _ _ => iff_of_true accepts_default (by simp [CallMatches])) trivial
    | some n =>
      simp only [accepts_default, CallMatches, LoneHolds, mem_some_iff, forall_eq', true_iff]
      have ha : Segment "a" := ⟨by decide, by decide⟩
      exact ⟨fun h name hname => (h "a" name ha hname).2, fun h _ name _ hname =>
        ⟨by simp, h name hname⟩⟩
  | some s =>
    cases n with
    | none => exact matchesCalls_service_iff hjoins (hm _ rfl) (hjoinable _ rfl) headers
    | some n =>
      exact iff_of_true (matchesCalls_both hjoins (hm _ rfl) (hjoinable _ rfl) headers) trivial

end

theorem joins_literalEngine : Regexp.Joins literalEngine.fullMatch := by
  refine ⟨fun r _ x => ?_, fun r r' _ _ x => ?_⟩
  · simp only [literalEngine, beq_iff_eq]
    exact ⟨fun h => ⟨r, h.symm, rfl⟩, fun ⟨u, h, hu⟩ => by rw [h, hu]⟩
  · simp only [literalEngine, beq_iff_eq]
    exact ⟨fun h => ⟨r, r', h.symm, rfl, rfl⟩, fun ⟨u, v, h, hu, hv⟩ => by rw [h, hu, hv]⟩

/-- An engine that takes alternatives literally. -/
def alternativesEngine : Envoy.RegexEngine where
  fullMatch regex s := (regex.toList.splitOn '|').contains s.toList
  fullMatch_empty s := by simp

end Pipeline
