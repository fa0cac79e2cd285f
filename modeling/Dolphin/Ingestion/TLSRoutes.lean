import Mathlib.Algebra.GroupWithZero.Nat
import Dolphin.Ingestion.Routes

/-!
# Rules of TLSRoutes

Every rule of the TLSRoutes that a listener serves is to make one model route (`OncePerRule`). But
the loop over the rules holds a copy of the whole function, so that every such rule makes the
model routes of all of them again (`toTLSRoutes_eq`).

* `oncePerRule_iff`: each rule makes one model route only if there is at most one.
-/

namespace Ingestion

open Gatewayv1 Go List

section

variable (listener : Listener) (services : List Corev1.Service) (grants : List ReferenceGrant)

/-- The rules of the routes that are attached to the listener and have host names in common with
    it, in the order of the input. -/
def servedRules (input : List TLSRoute) : List (TLSRoute × L4RouteRule) :=
  (input.filter fun r => sectionAttached listener r.parentRefs &&
      Model.computeHosts r.hostnames listener.hostname ≠ []).flatMap fun r => r.rules.map (r, ·)

open Classical in
/-- The model route is that of the rule: it has the host names in common with the listener, of
    which `*` alone is not written, and the permitted, existing Services of the rule. -/
structure MadeFromRule (served : TLSRoute × L4RouteRule) (x : Model.TLSRoute) : Prop where
  hostnames : x.hostnames = routeHosts (Model.computeHosts served.1.hostnames listener.hostname)
  backends : x.backends = (served.2.backendRefs.filter fun be =>
    KeptBackend "TLSRoute" served.1.ns services grants be).map (backendToModelBackend · served.1.ns)

/-- There is one model route for each rule, in their order. -/
def OncePerRule (input : List TLSRoute) (made : List Model.TLSRoute) : Prop :=
  List.Forall₂ (MadeFromRule listener services grants) (servedRules listener input) made

/-- The model route of a rule. -/
def tlsRuleRoute (served : TLSRoute × L4RouteRule) : Model.TLSRoute where
  hostnames := routeHosts (Model.computeHosts served.1.hostnames listener.hostname)
  backends := ingestBackends "TLSRoute" served.1.ns services grants served.2.backendRefs

end

section

variable {listener : Listener} {services : List Corev1.Service} {grants : List ReferenceGrant}
  {input : List TLSRoute}

theorem madeFromRule_iff {served : TLSRoute × L4RouteRule} {x : Model.TLSRoute} :
    MadeFromRule listener services grants served x ↔
      tlsRuleRoute listener services grants served = x := by
  classical
  have hbackends : (tlsRuleRoute listener services grants served).backends =
      (served.2.backendRefs.filter fun be =>
        KeptBackend "TLSRoute" served.1.ns services grants be).map
          (backendToModelBackend · served.1.ns) := by
    rw [tlsRuleRoute, ← map_id served.2.backendRefs, ingestBackends_map, map_id]
    refine congrArg (List.map _) (filter_congr fun be _ => Bool.eq_iff_iff.2 ?_)
    rw [Option.isSome_iff_exists, decide_eq_true_iff]
    simp only [id, ingestBackend_eq_some, exists_and_left, exists_eq', and_true]
  constructor
  · intro h
    rw [Model.TLSRoute.mk.injEq]
    exact ⟨h.hostnames.symm, hbackends.trans h.backends.symm⟩
  · rintro rfl
    exact ⟨rfl, hbackends⟩

theorem servedRules_cons (r : TLSRoute) (input : List TLSRoute) :
    servedRules listener (r :: input) = (if sectionAttached listener r.parentRefs &&
          Model.computeHosts r.hostnames listener.hostname ≠ [] then r.rules.map (r, ·) else []) ++
        servedRules listener input := by
  rw [servedRules, filter_cons]
  split_ifs
  · exact flatMap_cons
  · rfl

theorem flatMap_ingestTLSRoute (input : List TLSRoute) :
    input.flatMap (ingestTLSRoute listener services grants) =
      (servedRules listener input).map (tlsRuleRoute listener services grants) := by
  induction input with
  | nil => rfl
  | cons r input ih =>
    rw [flatMap_cons, ih, servedRules_cons, map_append, ingestTLSRoute]
    split_ifs
    · rw [map_map]
      rfl
    · rfl

theorem toTLSRoutes_eq (input : List TLSRoute) :
    toTLSRoutes listener input services grants = (servedRules listener input).flatMap fun _ =>
      (servedRules listener input).map (tlsRuleRoute listener services grants) := by
  rw [toTLSRoutes, flatMap_ingestTLSRoute]
  generalize (servedRules listener input).map (tlsRuleRoute listener services grants) = all
  induction input with
  | nil => rfl
  | cons r input ih =>
    rw [flatMap_cons, ih, servedRules_cons, flatMap_append]
    split_ifs
    · rw [flatMap_map]
    · rfl

theorem oncePerRule_iff :
    OncePerRule listener services grants input (toTLSRoutes listener input services grants) ↔
      (servedRules listener input).length ≤ 1 := by
  have hmade : OncePerRule listener services grants input
      (toTLSRoutes listener input services grants) ↔
        (servedRules listener input).map (tlsRuleRoute listener services grants) =
          toTLSRoutes listener input services grants := by
    rw [← forall₂_eq_eq_eq, forall₂_map_left_iff]
    simp only [OncePerRule, forall₂_iff_get, madeFromRule_iff]
  rw [hmade, toTLSRoutes_eq]
  constructor
  · -- the loop appends the square of what it should
    intro h
    have hlength := congrArg List.length h
    rw [length_map, length_flatMap, map_const', sum_replicate_nat, length_map] at hlength
    exact not_lt.1 fun hlt => (Nat.lt_mul_self_iff.2 hlt).ne hlength
  · intro h
    rcases Nat.le_one_iff_eq_zero_or_eq_one.1 h with hnone | hone
    · rw [length_eq_zero_iff.1 hnone]
      rfl
    · obtain ⟨served, hserved⟩ := length_eq_one_iff.1 hone
      rw [hserved, flatMap_singleton]

end

/-! ## A route with several rules -/

/-- A route with a rule for each of the Services. -/
def mailRoute (names : List String) : TLSRoute where
  name := "mail"
  ns := "default"
  parentRefs := [{ name := "gw" }]
  hostnames := ["mail.example"]
  rules := names.map fun name => ⟨[{ name := name, port := some 443 }]⟩

def mailListener : Listener where
  name := "tls"
  port := 443
  protocol := .tls

theorem oncePerRule_mail :
    (servedRules mailListener [mailRoute ["imap"]]).length ≤ 1 ∧
      OncePerRule mailListener [⟨"imap", "default"⟩] [] [mailRoute ["imap"]]
        (toTLSRoutes mailListener [mailRoute ["imap"]] [⟨"imap", "default"⟩] []) :=
  ⟨by decide, oncePerRule_iff.2 (by decide)⟩

/-- Of a route with two rules, each is ingested twice. -/
theorem not_oncePerRule_mail :
    (toTLSRoutes mailListener [mailRoute ["imap", "smtp"]]
        [⟨"imap", "default"⟩, ⟨"smtp", "default"⟩] []).map (fun r => r.backends.map (·.name)) =
      [["imap"], ["smtp"], ["imap"], ["smtp"]] ∧
    ¬ OncePerRule mailListener [⟨"imap", "default"⟩, ⟨"smtp", "default"⟩] []
      [mailRoute ["imap", "smtp"]] (toTLSRoutes mailListener [mailRoute ["imap", "smtp"]]
        [⟨"imap", "default"⟩, ⟨"smtp", "default"⟩] []) := by
  refine ⟨by decide, fun h => ?_⟩
  exact absurd (List.Forall₂.length_eq h) (by decide)

end Ingestion
