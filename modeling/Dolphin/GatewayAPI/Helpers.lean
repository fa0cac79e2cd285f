import Dolphin.GatewayAPI.Types

/-!
# Helpers on references and namespaces

The pure helpers of `pkg/gateway_api/helpers`: which object a reference names, and
which references a `ReferenceGrant` permits. A reference is allowed when it stays in
its namespace or some grant in the target namespace permits it (`ReferenceGrant.Permits`),
which is what the Boolean that the code computes decides: `isReferenceAllowed_iff_permits`.
That the order of the grants and the grants in other namespaces do not matter, and that
grants only add permissions, follows from it (`permissionLaw`).
-/

namespace Gatewayv1

/-! ## References -/

/-- A namespace given by a reference, or the one of the referring object when the
    reference gives none or an empty one. -/
def namespaceDerefOr (ns : Option String) (defaultNamespace : String) : String :=
  match ns with
  | some n => if n ≠ "" then n else defaultNamespace
  | none => defaultNamespace

@[simp]
theorem namespaceDerefOr_none (d : String) : namespaceDerefOr none d = d := rfl

def isGateway (parent : ParentReference) : Bool :=
  (parent.kind.all (· == "Gateway")) && parent.group.all (· == groupName)

def isListenerSet (parent : ParentReference) : Bool :=
  (parent.kind == some "ListenerSet") && parent.group.all (· == groupName)

def isService (be : BackendObjectReference) : Bool :=
  (be.kind.all (· == "Service")) && be.group.all (· == "")

def isSecret (secret : SecretObjectReference) : Bool :=
  (secret.kind.all (· == "Secret")) && secret.group.all (· == "")

/-- `GatewayV1GVK`. -/
def gatewayV1GVK (kind : String) : GroupVersionKind := ⟨groupName, "v1", kind⟩

/-! ## Reference grants -/

/-- Whether a reference from `originatingNamespace` to the object `name` is allowed. -/
def isReferenceAllowed (originatingNamespace name : String) (ns : Option String)
    (fromGVK toGVK : GroupVersionKind) (grants : List ReferenceGrant) : Bool :=
  let target := namespaceDerefOr ns originatingNamespace
  (originatingNamespace == target) ||
    grants.any fun g => g.ns == target &&
      g.fromRefs.any fun f =>
        (f.group == fromGVK.group && f.kind == fromGVK.kind && f.ns == originatingNamespace) &&
          g.toRefs.any fun t =>
            t.group == toGVK.group && t.kind == toGVK.kind && t.name.all (· == name)

def isBackendReferenceAllowed (originatingNamespace : String) (be : BackendObjectReference)
    (gvk : GroupVersionKind) (grants : List ReferenceGrant) : Bool :=
  isReferenceAllowed originatingNamespace be.name be.ns gvk ⟨"", "v1", "Service"⟩ grants

def isSecretReferenceAllowed (originatingNamespace : String) (sr : SecretObjectReference)
    (gvk : GroupVersionKind) (grants : List ReferenceGrant) : Bool :=
  isReferenceAllowed originatingNamespace sr.name sr.ns gvk ⟨"", "v1", "Secret"⟩ grants

/-- The grant is in the namespace `target`. One of its `from` entries is for objects of
    `fromGVK` in the namespace `src`, one of its `to` entries for the object `name` of
    `toGVK`. -/
def ReferenceGrant.Permits (g : ReferenceGrant) (src target name : String)
    (fromGVK toGVK : GroupVersionKind) : Prop :=
  g.ns = target ∧ (∃ f ∈ g.fromRefs, f.group = fromGVK.group ∧ f.kind = fromGVK.kind ∧ f.ns = src) ∧
    ∃ t ∈ g.toRefs, t.group = toGVK.group ∧ t.kind = toGVK.kind ∧
      (t.name = none ∨ t.name = some name)

/-- Some grant in the namespace `target` permits objects of `fromKind` in
    `fromNamespace` to refer to the object `name` of `toKind`: the meaning of a
    ReferenceGrant, with the group of the Gateway API on the left and the core
    group on the right. -/
def Granted (grants : List ReferenceGrant) (fromKind fromNamespace toKind target name : String) :
    Prop :=
  ∃ g ∈ grants, g.ns = target ∧
    (∃ f ∈ g.fromRefs, f.group = groupName ∧ f.kind = fromKind ∧ f.ns = fromNamespace) ∧
    ∃ t ∈ g.toRefs, t.group = "" ∧ t.kind = toKind ∧ (t.name = none ∨ t.name = some name)

theorem all_beq_iff {p : Option String} {a : String} :
    (p.all (· == a)) = true ↔ p = none ∨ p = some a := by
  cases p <;> simp

section

variable {src name : String} {ns : Option String} {grants grants' : List ReferenceGrant}

theorem isReferenceAllowed_iff_permits {fromGVK toGVK : GroupVersionKind} :
    isReferenceAllowed src name ns fromGVK toGVK grants = true ↔ namespaceDerefOr ns src = src ∨
        ∃ g ∈ grants, g.Permits src (namespaceDerefOr ns src) name fromGVK toGVK := by
  simp only [isReferenceAllowed, ReferenceGrant.Permits, Bool.or_eq_true, Bool.and_eq_true,
    List.any_eq_true, beq_iff_eq, all_beq_iff, and_assoc]
  refine or_congr eq_comm (exists_congr fun g => ?_)
  refine and_congr_right fun _ => and_congr_right fun _ => ?_
  constructor
  · rintro ⟨f, hf, hg, hk, hn, t, ht⟩
    exact ⟨⟨f, hf, hg, hk, hn⟩, t, ht⟩
  · rintro ⟨⟨f, hf, hg, hk, hn⟩, t, ht⟩
    exact ⟨f, hf, hg, hk, hn, t, ht⟩

theorem isReferenceAllowed_iff {kind toKind version toVersion : String} :
    isReferenceAllowed src name ns ⟨groupName, version, kind⟩ ⟨"", toVersion, toKind⟩ grants =
        true ↔
      namespaceDerefOr ns src = src ∨
        Granted grants kind src toKind (namespaceDerefOr ns src) name :=
  isReferenceAllowed_iff_permits

/-- Only grants in the target namespace count, and more of them permit more. -/
theorem isReferenceAllowed_mono {fromGVK toGVK : GroupVersionKind}
    (hsub : ∀ g ∈ grants, g.ns = namespaceDerefOr ns src → g ∈ grants')
    (h : isReferenceAllowed src name ns fromGVK toGVK grants = true) :
    isReferenceAllowed src name ns fromGVK toGVK grants' = true := by
  rw [isReferenceAllowed_iff_permits] at h ⊢
  refine h.imp_right fun ⟨g, hg, hpermits⟩ => ?_
  exact ⟨g, hsub g hg hpermits.1, hpermits⟩

end

section

variable (src name : String) (ns : Option String) (fromGVK toGVK : GroupVersionKind)
  (grants : List ReferenceGrant)

/-- What permission to refer to an object should be: it is exact, it depends on the grants in
    the target namespace only, whatever their order, and more grants take none away. -/
structure PermissionLaw : Prop where
  exact_iff : isReferenceAllowed src name ns fromGVK toGVK grants = true ↔
    namespaceDerefOr ns src = src ∨
      ∃ g ∈ grants, g.Permits src (namespaceDerefOr ns src) name fromGVK toGVK
  local_eq : ∀ grants' : List ReferenceGrant,
    (∀ g, g.ns = namespaceDerefOr ns src → (g ∈ grants ↔ g ∈ grants')) →
      isReferenceAllowed src name ns fromGVK toGVK grants =
        isReferenceAllowed src name ns fromGVK toGVK grants'
  perm_eq : ∀ grants' : List ReferenceGrant, grants.Perm grants' →
    isReferenceAllowed src name ns fromGVK toGVK grants =
      isReferenceAllowed src name ns fromGVK toGVK grants'
  monotone : ∀ grants' : List ReferenceGrant, grants ⊆ grants' →
    isReferenceAllowed src name ns fromGVK toGVK grants = true →
      isReferenceAllowed src name ns fromGVK toGVK grants' = true

theorem permissionLaw : PermissionLaw src name ns fromGVK toGVK grants := by
  have hlocal (grants' : List ReferenceGrant)
      (h : ∀ g, g.ns = namespaceDerefOr ns src → (g ∈ grants ↔ g ∈ grants')) :
      isReferenceAllowed src name ns fromGVK toGVK grants =
        isReferenceAllowed src name ns fromGVK toGVK grants' :=
    Bool.eq_iff_iff.2 ⟨isReferenceAllowed_mono fun g hg hns => (h g hns).1 hg,
      isReferenceAllowed_mono fun g hg hns => (h g hns).2 hg⟩
  exact {
    exact_iff := isReferenceAllowed_iff_permits
    local_eq := hlocal
    -- the same grants in another order are the same in the target namespace
    perm_eq := fun grants' hperm => hlocal grants' fun g _ => hperm.mem_iff
    monotone := fun grants' hsub => isReferenceAllowed_mono fun g hg _ => hsub hg }

end

@[simp]
theorem not_granted_nil (k f tk t n : String) : ¬ Granted [] k f tk t n := by
  simp [Granted]

end Gatewayv1
