import Dolphin.GatewayAPI.Types
import Dolphin.Go.Errors

/-!
# The discovery of CRDs

At its start, the operator checks that the CRDs of the Gateway API are there. In each round it
looks up all of them (`checkCRDs`). If a required one fails, it tries again as long as the error is
transient, until the context expires (`discoverCRDsWithRetry`).

Whether an error is transient should be a matter of each CRD (`Classifies`). But it is asked of the
joined errors of a round, and so of the first status and the first errno that the required CRDs are
answered with (`LooksTransient`). If these are not transient, then the first CRD that failed has an
error that is not (`exists_permanent`). The converse fails: a missing CRD after one that timed out is
looked for again. Optional CRDs are left out whatever their error is (`classifies_iff`).
-/

namespace Discovery

open Gatewayv1 Go List

/-! ## Errors -/

/-- How the predicates of the Kubernetes API classify a status, by its reason or code. -/
inductive StatusKind
  | serverTimeout
  | serviceUnavailable
  | tooManyRequests
  | timeout
  | other
  deriving DecidableEq

inductive Errno
  | econnrefused
  | econnreset
  | ehostunreach
  | enetunreach
  | other (n : Nat)
  deriving DecidableEq

inductive Cause
  | status (kind : StatusKind)
  | errno (errno : Errno)
  | other (text : String)

def Cause.status? : Cause → Option StatusKind
  | status kind => some kind
  | _ => none

def Cause.errno? : Cause → Option Errno
  | errno n => some n
  | _ => none

def transientErrnos : List Errno := [.econnrefused, .econnreset, .ehostunreach, .enetunreach]

def isTransientError (err : Err Cause) : Bool :=
  ((err.as Cause.status?).any fun kind => kind ≠ .other) ||
    (err.as Cause.errno?).any (· ∈ transientErrnos)

/-! ## Rounds -/

def gatewayV1GVK (kind : String) : GroupVersionKind := ⟨groupName, "v1", kind⟩

def requiredGVKs : List GroupVersionKind :=
  ["gatewayclasses", "gateways", "httproutes", "grpcroutes", "tlsroutes", "referencegrants",
    "backendtlspolicies"].map gatewayV1GVK

def allOptionalKinds : List GroupVersionKind :=
  [gatewayV1GVK "listenersets", ⟨"multicluster.x-k8s.io", "v1beta1", "serviceimports"⟩,
    gatewayV1GVK "tcproutes", gatewayV1GVK "udproutes"]

/-- A round of lookups. For the name of a CRD there is an error, or for each of its versions whether
    it is served. -/
structure Round where
  get : String → Except (Err Cause) (List Bool)
  /-- The context has expired when all is looked up. -/
  expired : Bool

/-- `gatewayAPIPreconditions`. -/
structure Preconditions where
  enabled : Bool
  installedKinds : List GroupVersionKind := []
  deriving DecidableEq

section

variable (isEnabled : Bool) (r : Round)

def checkCRD (gvk : GroupVersionKind) : Option (Err Cause) :=
  let crdName := gvk.kind ++ "." ++ gvk.group
  if !isEnabled then none
  else
    match r.get crdName with
    | .error err => some (.wrap ("get CRD \"" ++ crdName ++ "\"") err)
    | .ok served =>
      if served.any id then none
      else some (.leaf (.other ("CRD \"" ++ crdName ++ "\" does not serve any API versions")))

def checkCRDs : List GroupVersionKind × Option (Err Cause) :=
  (allOptionalKinds.filter fun gvk => (checkCRD isEnabled r gvk).isNone,
    joinErrs (requiredGVKs.filterMap (checkCRD isEnabled r)))

/-- The discovery over the rounds that are begun before the context expires in a wait. -/
def discoverCRDsWithRetry : List Round → Except (Err Cause) Preconditions
  | [] => .error (.wrap "gateway API CRD discovery timed out"
      (.leaf (.other "context deadline exceeded")))
  | r :: rounds =>
    match checkCRDs isEnabled r with
    | (installedKinds, none) => .ok ⟨true, installedKinds⟩
    | (_, some err) =>
      if r.expired then .error (.wrap "gateway API CRD discovery timed out" err)
      else if !isTransientError err then .ok { enabled := false }
      else discoverCRDsWithRetry rounds

/-- The round is followed by another one. -/
def retried : Bool := !r.expired && (checkCRDs isEnabled r).2.any isTransientError

/-- The rounds up to the last one that is made. -/
def made : List Round → List Round
  | [] => []
  | r :: rounds => r :: if retried isEnabled r then made rounds else []

/-- The check fails with an error that is not transient. -/
def Permanent (gvk : GroupVersionKind) : Prop :=
  ∃ err, checkCRD isEnabled r gvk = some err ∧ isTransientError err = false

/-- The round ends the discovery because of its joined error. -/
def GivesUp : Prop :=
  r.expired = false ∧ ∃ err, (checkCRDs isEnabled r).2 = some err ∧ isTransientError err = false

end

/-- What the error has that the lookup of a CRD is answered with. -/
def Round.answer {β : Type} (r : Round) (f : Cause → Option β) (gvk : GroupVersionKind) : Option β :=
  match r.get (gvk.kind ++ "." ++ gvk.group) with
  | .error err => err.as f
  | .ok _ => none

/-- The first status that a required CRD is answered with is transient, or the first errno is. -/
def Round.LooksTransient (r : Round) : Prop :=
  (∃ kind, requiredGVKs.findSome? (r.answer Cause.status?) = some kind ∧ kind ≠ .other) ∨
    ∃ n ∈ transientErrnos, requiredGVKs.findSome? (r.answer Cause.errno?) = some n

/-- Errors are classified for each CRD. -/
structure Classifies (isEnabled : Bool) (rounds : List Round) : Prop where
  disabled_iff : discoverCRDsWithRetry isEnabled rounds = .ok { enabled := false } ↔
    ∃ r ∈ made isEnabled rounds, r.expired = false ∧ ∃ gvk ∈ requiredGVKs, Permanent isEnabled r gvk
  enabled : ∀ kinds, discoverCRDsWithRetry isEnabled rounds = .ok ⟨true, kinds⟩ →
    ∃ r ∈ made isEnabled rounds, (∀ gvk ∈ requiredGVKs, checkCRD isEnabled r gvk = none) ∧
      ∀ gvk ∈ allOptionalKinds, gvk ∉ kinds → Permanent isEnabled r gvk

variable {isEnabled : Bool} {r : Round} {rounds : List Round}

section

variable {β : Type} {f : Cause → Option β} (hf : ∀ text, f (.other text) = none)

include hf

theorem as_checkCRD (gvk : GroupVersionKind) :
    (checkCRD true r gvk).bind (·.as f) = r.answer f gvk := by
  rw [checkCRD, Round.answer]
  cases r.get (gvk.kind ++ "." ++ gvk.group) with
  | error err => rfl
  | ok served => cases hserved : served.any id <;> simp [hserved, Err.as, Err.leaves, hf]

theorem findSome?_checkCRD : (requiredGVKs.filterMap (checkCRD true r)).findSome? (·.as f) =
    requiredGVKs.findSome? (r.answer f) := by
  induction requiredGVKs with
  | nil => rfl
  | cons gvk gvks ih =>
    rw [filterMap_cons, findSome?_cons, ← as_checkCRD hf, ← ih]
    cases checkCRD true r gvk with
    | none => rfl
    | some err => exact findSome?_cons

end

theorem isTransientError_iff {err : Err Cause} (h : (checkCRDs true r).2 = some err) :
    isTransientError err = true ↔ r.LooksTransient := by
  rw [isTransientError, as_of_joinErrs h, as_of_joinErrs h, findSome?_checkCRD fun _ => rfl,
    findSome?_checkCRD fun _ => rfl, Round.LooksTransient]
  simp [Option.any_eq_true, and_comm]

theorem checkCRDs_eq_none_iff :
    (checkCRDs isEnabled r).2 = none ↔ ∀ gvk ∈ requiredGVKs, checkCRD isEnabled r gvk = none := by
  rw [checkCRDs, joinErrs_eq_none_iff, filterMap_eq_nil_iff]

/-- Whether a round ends the discovery can be told from the answers. -/
theorem givesUp_iff : GivesUp isEnabled r ↔ r.expired = false ∧
    (∃ gvk ∈ requiredGVKs, checkCRD isEnabled r gvk ≠ none) ∧ ¬ r.LooksTransient := by
  have hfails : (∃ gvk ∈ requiredGVKs, checkCRD isEnabled r gvk ≠ none) ↔
      ∃ err, (checkCRDs isEnabled r).2 = some err := by
    rw [← Option.ne_none_iff_exists', ne_eq, checkCRDs_eq_none_iff]
    simp only [not_forall, exists_prop]
  rw [GivesUp, hfails, ← exists_and_right]
  refine and_congr_right fun _ => exists_congr fun err => and_congr_right fun herr => ?_
  cases isEnabled with
  | true => rw [← isTransientError_iff herr, Bool.not_eq_true]
  | false =>
    have hnone : (checkCRDs false r).2 = none := checkCRDs_eq_none_iff.2 fun _ _ => rfl
    rw [hnone] at herr
    cases herr

theorem GivesUp.exists_permanent (h : GivesUp isEnabled r) :
    ∃ gvk ∈ requiredGVKs, Permanent isEnabled r gvk := by
  obtain ⟨_, err, herr, hpermanent⟩ := h
  rw [checkCRDs] at herr
  cases herrs : requiredGVKs.filterMap (checkCRD isEnabled r) with
  | nil =>
    rw [herrs] at herr
    cases herr
  | cons e errs =>
    obtain ⟨gvk, hgvk, he⟩ := mem_filterMap.1 (herrs ▸ mem_cons_self)
    refine ⟨gvk, hgvk, e, he, ?_⟩
    -- what is found in the first error is found in the joined ones
    rw [herrs] at herr
    rw [isTransientError, as_of_joinErrs herr, as_of_joinErrs herr, findSome?_cons, findSome?_cons,
      Bool.or_eq_false_iff] at hpermanent
    rw [isTransientError, Bool.or_eq_false_iff]
    constructor
    · cases hstatus : e.as Cause.status? with
      | none => rfl
      | some kind => simpa only [hstatus] using hpermanent.1
    · cases herrno : e.as Cause.errno? with
      | none => rfl
      | some n => simpa only [herrno] using hpermanent.2

theorem discover_eq_ok_iff {p : Preconditions} :
    discoverCRDsWithRetry isEnabled rounds = .ok p ↔ ∃ r ∈ made isEnabled rounds,
      (GivesUp isEnabled r ∧ { enabled := false } = p) ∨
        (checkCRDs isEnabled r).2 = none ∧ ⟨true, (checkCRDs isEnabled r).1⟩ = p := by
  induction rounds with
  | nil => simp [discoverCRDsWithRetry, made]
  | cons r rounds ih =>
    rw [discoverCRDsWithRetry, made, retried]
    simp only [GivesUp] at ih ⊢
    rcases hcheck : checkCRDs isEnabled r with ⟨kinds, err⟩
    cases err with
    | none => simp [hcheck]
    | some err =>
      cases hexpired : r.expired <;> cases herr : isTransientError err <;>
        simp [hcheck, hexpired, herr, ih]

theorem eq_of_not_retried {r' : Round} (h : retried isEnabled r = false)
    (h' : retried isEnabled r' = false) (hr : r ∈ made isEnabled rounds)
    (hr' : r' ∈ made isEnabled rounds) : r = r' := by
  induction rounds with
  | nil => cases hr
  | cons first rounds ih =>
    rw [made] at hr hr'
    cases hfirst : retried isEnabled first <;> simp only [hfirst] at hr hr' <;> grind

/-- Errors are classified for each CRD exactly if a round in which a required CRD fails for good,
    but which looks transient by the first answers, comes before one that does not, and no optional
    CRD of the last round has a transient error. -/
theorem classifies_iff (isEnabled : Bool) (rounds : List Round) : Classifies isEnabled rounds ↔
    (∀ r ∈ made isEnabled rounds, r.expired = false →
      (∃ gvk ∈ requiredGVKs, Permanent isEnabled r gvk) → r.LooksTransient →
      ∃ r' ∈ made isEnabled rounds, r'.expired = false ∧
        (∃ gvk ∈ requiredGVKs, checkCRD isEnabled r' gvk ≠ none) ∧ ¬ r'.LooksTransient) ∧
    ∀ r ∈ made isEnabled rounds, (∀ gvk ∈ requiredGVKs, checkCRD isEnabled r gvk = none) →
      ∀ gvk ∈ allOptionalKinds, checkCRD isEnabled r gvk = none ∨ Permanent isEnabled r gvk := by
  have hdisabled : discoverCRDsWithRetry isEnabled rounds = .ok { enabled := false } ↔
      ∃ r ∈ made isEnabled rounds, GivesUp isEnabled r := by
    simp [discover_eq_ok_iff]
  simp only [← givesUp_iff, ← checkCRDs_eq_none_iff]
  constructor
  · intro h
    refine ⟨fun r hr hexpired hpermanent _ =>
      hdisabled.1 (h.disabled_iff.2 ⟨r, hr, hexpired, hpermanent⟩), ?_⟩
    intro r hr hnone gvk hgvk
    obtain ⟨r', hr', hrequired, hoptional⟩ :=
      h.enabled _ (discover_eq_ok_iff.2 ⟨r, hr, .inr ⟨hnone, rfl⟩⟩)
    have hlast {r} (hnone : (checkCRDs isEnabled r).2 = none) : retried isEnabled r = false := by
      simp [retried, hnone]
    obtain rfl := eq_of_not_retried (hlast hnone) (hlast (checkCRDs_eq_none_iff.2 hrequired)) hr hr'
    refine or_iff_not_imp_left.2 fun hsome => hoptional gvk hgvk fun hmem => hsome ?_
    simpa using (mem_filter.1 hmem).2
  · rintro ⟨hrequired, hoptional⟩
    refine ⟨hdisabled.trans ⟨?_, ?_⟩, fun kinds hkinds => ?_⟩
    · rintro ⟨r, hr, hgives⟩
      exact ⟨r, hr, hgives.1, hgives.exists_permanent⟩
    · rintro ⟨r, hr, hexpired, gvk, hgvk, hpermanent⟩
      by_cases htransient : r.LooksTransient
      · exact hrequired r hr hexpired ⟨gvk, hgvk, hpermanent⟩ htransient
      · obtain ⟨err, herr, _⟩ := hpermanent
        exact ⟨r, hr, givesUp_iff.2 ⟨hexpired, ⟨gvk, hgvk, by simp [herr]⟩, htransient⟩⟩
    · obtain ⟨r, hr, ⟨_, heq⟩ | ⟨hnone, heq⟩⟩ := discover_eq_ok_iff.1 hkinds
      · cases heq
      · cases heq
        refine ⟨r, hr, checkCRDs_eq_none_iff.1 hnone, fun gvk hgvk hnot => ?_⟩
        refine (hoptional r hr hnone gvk hgvk).resolve_left fun hinstalled => hnot ?_
        exact mem_filter.2 ⟨hgvk, by rw [hinstalled]; rfl⟩

/-- A round in which some lookups fail. -/
def failing (errs : List (String × StatusKind)) : Round where
  get kind := match errs.lookup kind with
    | some status => .error (.leaf (.status status))
    | none => .ok [true]
  expired := false

/-- A CRD that is not there is looked up again, as another one timed out; an optional CRD that
    timed out is left out. -/
theorem not_classifies_timeout :
    ¬ Classifies true [failing [("gateways.gateway.networking.k8s.io", .timeout),
        ("httproutes.gateway.networking.k8s.io", .other)]] ∧
      ¬ Classifies true [failing [("tcproutes.gateway.networking.k8s.io", .timeout)]] := by
  refine ⟨fun h => ?_, fun h => ?_⟩
  · have hdisabled := h.disabled_iff.2
      ⟨_, mem_cons_self, rfl, gatewayV1GVK "httproutes", by decide, _, rfl, by decide +kernel⟩
    exact absurd (congrArg Except.isOk hdisabled) (by decide +kernel)
  · obtain ⟨r, hr, _, hoptional⟩ := h.enabled _ rfl
    obtain rfl := mem_singleton.1 hr
    obtain ⟨err, herr, hpermanent⟩ :=
      hoptional (gatewayV1GVK "tcproutes") (by decide) (by decide +kernel)
    obtain rfl := Option.some.inj herr
    exact absurd hpermanent (by decide +kernel)

end Discovery
