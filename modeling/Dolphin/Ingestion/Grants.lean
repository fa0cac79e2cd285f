import Dolphin.Ingestion.Attachment

/-!
# Backends in other namespaces

Every backend of the model, be it for forwarding or for mirroring, comes from a
backendRef of a route (`backendOf_iff`). One in another namespace than the route should
have a grant for the kind of the route (`GrantsRespected`).

Two paths get around the check. Mirrors are put in the model unchecked. And the rules of
HTTP and GRPC routes look for grants to the kinds `HttpRoute` and `GrpcRoute`, which do
not exist: a grant to the real kind does not help, and one to the misspelt kind does.
`grantsRespected_iff` says that there is no other.
-/

namespace Ingestion

open Gatewayv1 Go List

variable {b : Model.Backend}

namespace Route

/-- The kind of a route, as a ReferenceGrant names it. -/
def kind : Route → String
  | http _ => "HTTPRoute"
  | grpc _ => "GRPCRoute"
  | tls _ => "TLSRoute"
  | tcp _ => "TCPRoute"
  | udp _ => "UDPRoute"

def backendRefs (route : Route) : List BackendRef := route.rules.flatMap (·.backendRefs)

/-- The backends that the mirror filters of all rules name. -/
def mirrorRefs (route : Route) : List BackendObjectReference := route.rules.flatMap (·.mirrorRefs)

end Route

/-- The model has the backend `b` because of the route, on the listener `l`. -/
def BackendOf (input : Input) (m : Model) (l : Listener) (s : Model.FullyQualifiedResource)
    (route : Route) (b : Model.Backend) : Prop :=
  ∃ x, Yields input m l s route x ∧ (b ∈ route.forwards x ∨ b ∈ route.mirrors x)

/-- Every backend that the model has because of the route and that lives in another
    namespace is granted to the route. -/
def GrantsRespected (input : Input) (m : Model) (l : Listener) (s : Model.FullyQualifiedResource)
    (route : Route) : Prop :=
  ∀ b, BackendOf input m l s route b → b.ns ≠ route.toCommonRoute.ns →
    Granted input.referenceGrants route.kind route.toCommonRoute.ns "Service" b.ns b.name

section

variable {input : Input} {m : Model} {l : Listener} {s : Model.FullyQualifiedResource}

section

variable (h : gatewayAPI input = .ok m) (hl : (l, s) ∈ input.sourced)

include h hl

theorem forwards_iff {route : Route} : (∃ x, Yields input m l s route x ∧ b ∈ route.forwards x) ↔
      input.Has route ∧ Reaches l s route ∧ ∃ be ∈ route.backendRefs,
        KeptBackend route.ingestedKind route.toCommonRoute.ns input.services
          input.referenceGrants be ∧ backendToModelBackend be route.toCommonRoute.ns = b := by
  rw [exists_yields_iff h hl fun rule x hmade => by rw [hmade.forwards, mem_ingestBackends]]
  simp only [Route.backendRefs, mem_flatMap]
  refine and_congr_right fun _ => and_congr_right fun _ => ⟨?_, ?_⟩
  · rintro ⟨rule, hrule, be, hbe, hkept⟩
    exact ⟨be, ⟨rule, hrule, hbe⟩, hkept⟩
  · rintro ⟨be, ⟨rule, hrule, hbe⟩, hkept⟩
    exact ⟨rule, hrule, be, hbe, hkept⟩

theorem mirrors_iff {route : Route} : (∃ x, Yields input m l s route x ∧ b ∈ route.mirrors x) ↔
      input.Has route ∧ Reaches l s route ∧
        ∃ ref ∈ route.mirrorRefs, backendRefToModelBackend ref route.toCommonRoute.ns = b := by
  rw [exists_yields_iff h hl fun rule x hmade => by rw [hmade.mirrors, mem_map]]
  simp only [Route.mirrorRefs, mem_flatMap]
  refine and_congr_right fun _ => and_congr_right fun _ => ⟨?_, ?_⟩
  · rintro ⟨rule, hrule, ref, href, hb⟩
    exact ⟨ref, ⟨rule, hrule, href⟩, hb⟩
  · rintro ⟨ref, ⟨rule, hrule, href⟩, hb⟩
    exact ⟨rule, hrule, ref, href, hb⟩

theorem backendOf_iff {route : Route} :
    BackendOf input m l s route b ↔ input.Has route ∧ Reaches l s route ∧
      ((∃ be ∈ route.backendRefs,
          KeptBackend route.ingestedKind route.toCommonRoute.ns input.services
            input.referenceGrants be ∧ backendToModelBackend be route.toCommonRoute.ns = b) ∨
        ∃ ref ∈ route.mirrorRefs, backendRefToModelBackend ref route.toCommonRoute.ns = b) := by
  simp only [BackendOf, and_or_left, exists_or, forwards_iff h hl, mirrors_iff h hl]

end

/-- The grants are respected for a route exactly when every mirror of the route to another
    namespace is granted to the route's kind, and so is every backendRef to a Service of
    another namespace that is granted to the kind under which ingestion looks. -/
theorem grantsRespected_iff (h : gatewayAPI input = .ok m) (hl : (l, s) ∈ input.sourced)
    {route : Route} (hroute : input.Has route) :
    GrantsRespected input m l s route ↔ (Reaches l s route →
      (∀ ref ∈ route.mirrorRefs,
        namespaceDerefOr ref.ns route.toCommonRoute.ns ≠ route.toCommonRoute.ns →
          Granted input.referenceGrants route.kind route.toCommonRoute.ns "Service"
            (namespaceDerefOr ref.ns route.toCommonRoute.ns) ref.name) ∧
      (∀ be ∈ route.backendRefs, isService be.toBackendObjectReference = true →
        be.port.isSome = true →
        serviceExists be.name (namespaceDerefOr be.ns route.toCommonRoute.ns) input.services = true →
        namespaceDerefOr be.ns route.toCommonRoute.ns ≠ route.toCommonRoute.ns →
        Granted input.referenceGrants route.ingestedKind route.toCommonRoute.ns "Service"
            (namespaceDerefOr be.ns route.toCommonRoute.ns) be.name →
          Granted input.referenceGrants route.kind route.toCommonRoute.ns "Service"
            (namespaceDerefOr be.ns route.toCommonRoute.ns) be.name)) := by
  constructor
  · intro hresp hreach
    refine ⟨fun ref href hne => ?_, fun be hbe hservice hport hexist hne hgranted => ?_⟩
    · exact hresp _ ((backendOf_iff h hl).2 ⟨hroute, hreach, .inr ⟨ref, href, rfl⟩⟩) hne
    · have hkept : KeptBackend route.ingestedKind route.toCommonRoute.ns input.services
          input.referenceGrants be := ⟨.inr hgranted, hservice, hport, hexist⟩
      exact hresp _ ((backendOf_iff h hl).2 ⟨hroute, hreach, .inl ⟨be, hbe, hkept, rfl⟩⟩) hne
  · intro hcond b hb hne
    obtain ⟨_, hreach, ⟨be, hbe, hkept, rfl⟩ | ⟨ref, href, rfl⟩⟩ := (backendOf_iff h hl).1 hb
    · -- the backendRef was kept, so it was granted, but to the kind that ingestion uses
      have hgranted := hkept.allowed.resolve_left hne
      exact (hcond hreach).2 be hbe hkept.service hkept.port hkept.exist hne hgranted
    · exact (hcond hreach).1 ref href hne

end

/-! ## A route that mirrors to another namespace -/

def webListener : Listener where
  name := "web"
  port := 80
  protocol := .http

/-- A route that mirrors its requests to a Service of another namespace. -/
def mirrorRoute : HTTPRoute where
  name := "shop"
  ns := "team"
  parentRefs := [{ name := "gw", ns := some "infra" }]
  rules := [{ filters := [
    { type := .requestMirror
      requestMirror := some { backendRef := { name := "audit", ns := some "secure", port := some 80 } } }] }]

/-- A grant in the namespace of that Service. -/
def auditGrant : ReferenceGrant where
  name := "allow-team"
  ns := "secure"
  fromRefs := [⟨groupName, "HTTPRoute", "team"⟩]
  toRefs := [{ group := "", kind := "Service" }]

def mirrorInput (grants : List ReferenceGrant) : Input where
  gateway := { name := "gw", ns := "infra", listeners := [webListener] }
  httpRoutes := [mirrorRoute]
  referenceGrants := grants

def webSource : Model.FullyQualifiedResource := ⟨"gw", "infra", groupName, "v1", "Gateway", ""⟩

theorem mirrorInput_sourced (grants : List ReferenceGrant) :
    (webListener, webSource) ∈ (mirrorInput grants).sourced :=
  mem_cons_self

theorem mirrorInput_run (grants : List ReferenceGrant) :
    ∃ m, gatewayAPI (mirrorInput grants) = .ok m :=
  ⟨_, rfl⟩

theorem mirrorRoute_reaches : Reaches webListener webSource (.http mirrorRoute) :=
  ⟨rfl, by decide, by decide⟩

/-- With the grant, the mirror is as it should be. -/
theorem grantsRespected_auditGrant :
    ∃ m, gatewayAPI (mirrorInput [auditGrant]) = .ok m ∧
      GrantsRespected (mirrorInput [auditGrant]) m webListener webSource (.http mirrorRoute) := by
  obtain ⟨m, hm⟩ := mirrorInput_run [auditGrant]
  refine ⟨m, hm, ?_⟩
  refine (grantsRespected_iff hm (mirrorInput_sourced _) mem_cons_self).2 fun _ => ⟨?_, ?_⟩
  · intro ref href _
    obtain rfl := mem_singleton.1 href
    exact ⟨auditGrant, mem_cons_self, rfl, ⟨_, mem_cons_self, rfl, rfl, rfl⟩,
      _, mem_cons_self, rfl, rfl, .inl rfl⟩
  · intro be hbe
    cases hbe

/-- Without any grant, the mirror is in the model all the same. -/
theorem grants_not_respected :
    ∃ m, gatewayAPI (mirrorInput []) = .ok m ∧
      ¬ GrantsRespected (mirrorInput []) m webListener webSource (.http mirrorRoute) := by
  obtain ⟨m, hm⟩ := mirrorInput_run []
  refine ⟨m, hm, fun h => ?_⟩
  have hb := (backendOf_iff hm (mirrorInput_sourced [])).2
    ⟨mem_cons_self, mirrorRoute_reaches, .inr ⟨_, mem_cons_self, rfl⟩⟩
  exact absurd (h _ hb (by decide)) (not_granted_nil _ _ _ _ _)

end Ingestion
