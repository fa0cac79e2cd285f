import Dolphin.Go.Panic
import Dolphin.GatewayAPI.Helpers
import Dolphin.Model.Hosts

/-!
# Ingestion of rules

What `pkg/model/ingestion` makes of the parts of a route's rule: its backends, its
filters and its matches.

Most conversions dereference a pointer that the API server is expected to have set,
and panic when it is nil. They are functions to `Go.Result`.

The rules of all five route kinds go through one filter of backends,
`ingestBackend`: a backendRef is kept when it may be referred to, is a Service, has a
port, and the Service exists. The kinds only differ in the kind of the referring
object that they pass on.
-/

namespace Ingestion

open Gatewayv1 Go

/-! ## Backends -/

def backendRefToModelBackend (be : BackendObjectReference) (defaultNamespace : String) :
    Model.Backend where
  name := be.name
  ns := namespaceDerefOr be.ns defaultNamespace
  port := be.port.map fun p => { port := p }

def backendToModelBackend (be : BackendRef) (defaultNamespace : String) : Model.Backend :=
  { backendRefToModelBackend be.toBackendObjectReference defaultNamespace with weight := be.weight }

def serviceExists (svcName svcNamespace : String) (services : List Corev1.Service) : Bool :=
  services.any fun svc => svc.name == svcName && svc.ns == svcNamespace

/-- `gatewayv1beta1.SchemeGroupVersion.WithKind`. -/
def routeGVK (kind : String) : GroupVersionKind := ⟨groupName, "v1beta1", kind⟩

/-- The iteration over one backendRef of a route in the namespace `ns`: the backend
    appended, if any. -/
def ingestBackend (kind ns : String) (services : List Corev1.Service)
    (grants : List ReferenceGrant) (be : BackendRef) : Option Model.Backend :=
  if isBackendReferenceAllowed ns be.toBackendObjectReference (routeGVK kind) grants &&
      isService be.toBackendObjectReference && be.port.isSome &&
      serviceExists be.name (namespaceDerefOr be.ns ns) services then
    some (backendToModelBackend be ns)
  else none

/-- What a kept backendRef has been checked for. -/
structure KeptBackend (kind ns : String) (services : List Corev1.Service)
    (grants : List ReferenceGrant) (be : BackendRef) : Prop where
  allowed : namespaceDerefOr be.ns ns = ns ∨
    Granted grants kind ns "Service" (namespaceDerefOr be.ns ns) be.name
  service : isService be.toBackendObjectReference = true
  port : be.port.isSome = true
  exist : serviceExists be.name (namespaceDerefOr be.ns ns) services = true

theorem ingestBackend_eq_some {kind ns : String} {services : List Corev1.Service}
    {grants : List ReferenceGrant} {be : BackendRef} {b : Model.Backend} :
    ingestBackend kind ns services grants be = some b ↔
      KeptBackend kind ns services grants be ∧ backendToModelBackend be ns = b := by
  have hallowed : isBackendReferenceAllowed ns be.toBackendObjectReference (routeGVK kind) grants
      = true ↔ _ := isReferenceAllowed_iff
  rw [ingestBackend, Option.ite_none_right_eq_some, Option.some_inj]
  simp only [Bool.and_eq_true, hallowed]
  refine and_congr_left fun _ => ⟨?_, ?_⟩
  · rintro ⟨⟨⟨ha, hs⟩, hp⟩, he⟩
    exact ⟨ha, hs, hp, he⟩
  · rintro ⟨ha, hs, hp, he⟩
    exact ⟨⟨⟨ha, hs⟩, hp⟩, he⟩

/-! ## Filters -/

def toHTTPHeaders (headers : List HTTPHeader) : List Model.Header :=
  headers.map fun header => ⟨header.name, header.value⟩

/-- A header modifier, which the code expects to be set. -/
def toHttpHeaderFilter (f : Option HTTPHeaderFilter) : Result Model.HttpHeaderFilter := do
  let f ← deref f
  pure
    { headersToAdd := toHTTPHeaders f.add
      headersToSet := toHTTPHeaders f.set
      headersToRemove := f.remove }

def toHTTPRequestMirror (mirror : Option HTTPRequestMirrorFilter) (ns : String) :
    Result Model.HttpRequestMirror := do
  let mirror ← deref mirror
  pure ⟨some (backendRefToModelBackend mirror.backendRef ns)⟩

def toHTTPRequestRedirectFilter (listener : Listener)
    (redirect : Option HTTPRequestRedirectFilter) :
    Result (Option Model.HTTPRequestRedirectFilter) :=
  match redirect with
  | none => pure none
  | some redirect => do
    let pathModifier ← match redirect.path with
      | none => pure none
      | some path =>
        match path.type with
        | .replaceFullPath => do
          let full ← deref path.replaceFullPath
          pure (some { exact := full : Model.StringMatch })
        | .replacePrefixMatch => do
          let pre ← deref path.replacePrefixMatch
          pure (some { prefixed := pre : Model.StringMatch })
        | .other _ => pure (some {})
    -- without a port and a scheme, the port of the listener is kept
    let redirectPort := match redirect.port, redirect.scheme with
      | some p, _ => some p
      | none, none => some (listener.port : Int)
      | none, some _ => none
    pure (some
      { scheme := redirect.scheme
        hostname := redirect.hostname
        path := pathModifier
        port := redirectPort
        statusCode := redirect.statusCode })

def toHTTPRewriteFilter (rewrite : Option HTTPURLRewriteFilter) :
    Result (Option Model.HTTPURLRewriteFilter) :=
  match rewrite with
  | none => pure none
  | some rewrite => do
    let pathFilter ← match rewrite.path with
      | none => pure none
      | some path =>
        match path.type with
        | .replaceFullPath => do
          let full ← deref path.replaceFullPath
          pure (some { exact := full : Model.StringMatch })
        | .replacePrefixMatch => do
          let pre ← deref path.replacePrefixMatch
          pure (some { prefixed := trimSuffix pre "/" : Model.StringMatch })
        | .other _ => pure none
    pure (some { hostName := rewrite.hostname, path := pathFilter })

/-- The variables that the loop over a rule's filters assigns; a later filter of a
    type replaces an earlier one, except for mirrors, which add up. -/
structure RuleFilters where
  requestHeaderFilter : Option Model.HttpHeaderFilter := none
  responseHeaderFilter : Option Model.HttpHeaderFilter := none
  requestMirrors : List Model.HttpRequestMirror := []
  requestRedirectFilter : Option Model.HTTPRequestRedirectFilter := none
  rewriteFilter : Option Model.HTTPURLRewriteFilter := none

/-- The iteration over one filter of a rule of an HTTPRoute in the namespace `ns`. -/
def applyHTTPFilter (listener : Listener) (ns : String) (acc : RuleFilters)
    (f : HTTPRouteFilter) : Result RuleFilters :=
  match f.type with
  | .requestHeaderModifier => do
    let h ← toHttpHeaderFilter f.requestHeaderModifier
    pure { acc with requestHeaderFilter := some h }
  | .responseHeaderModifier => do
    let h ← toHttpHeaderFilter f.responseHeaderModifier
    pure { acc with responseHeaderFilter := some h }
  | .requestRedirect => do
    let r ← toHTTPRequestRedirectFilter listener f.requestRedirect
    pure { acc with requestRedirectFilter := r }
  | .urlRewrite => do
    let r ← toHTTPRewriteFilter f.urlRewrite
    pure { acc with rewriteFilter := r }
  | .requestMirror => do
    let m ← toHTTPRequestMirror f.requestMirror ns
    pure { acc with requestMirrors := acc.requestMirrors ++ [m] }
  | .other _ => pure acc

/-- The iteration over one filter of a rule of a GRPCRoute in the namespace `ns`. -/
def applyGRPCFilter (ns : String) (acc : RuleFilters) (f : GRPCRouteFilter) : Result RuleFilters :=
  match f.type with
  | .requestHeaderModifier => do
    let h ← toHttpHeaderFilter f.requestHeaderModifier
    pure { acc with requestHeaderFilter := some h }
  | .responseHeaderModifier => do
    let h ← toHttpHeaderFilter f.responseHeaderModifier
    pure { acc with responseHeaderFilter := some h }
  | .requestMirror => do
    let m ← toHTTPRequestMirror f.requestMirror ns
    pure { acc with requestMirrors := acc.requestMirrors ++ [m] }
  | .other _ => pure acc

/-- The filters of a backendRef, under the name of its cluster. The code computes them
    and then drops them, but a nil modifier panics. -/
def backendHttpFilter (ns : String) (be : HTTPBackendRef) (f : HTTPRouteFilter) :
    Result (List Model.BackendHttpFilter) :=
  let name := namespaceDerefOr be.ns ns ++ ":" ++ be.name ++ ":" ++ toString (be.port.getD 0)
  match f.type with
  | .requestHeaderModifier => do
    let h ← toHttpHeaderFilter f.requestHeaderModifier
    pure [{ name, requestHeaderFilter := some h }]
  | .responseHeaderModifier => do
    let h ← toHttpHeaderFilter f.responseHeaderModifier
    pure [{ name, responseHeaderModifier := some h }]
  | _ => pure []

/-! ## Matches -/

/-- A header or query parameter match of a known type. -/
def toKeyValueMatch (t : ValueMatchType) (h : ValueMatch) : List Model.KeyValueMatch :=
  match t with
  | .exact => [{ key := h.name, valueMatch := { exact := h.value } }]
  | .regularExpression => [{ key := h.name, valueMatch := { regex := h.value } }]
  | .other _ => []

def toGRPCHeaderMatch (m : GRPCRouteMatch) : List Model.KeyValueMatch :=
  m.headers.flatMap fun h => toKeyValueMatch (h.type.getD .exact) h

def toQueryMatch (m : HTTPRouteMatch) : List Model.KeyValueMatch :=
  m.queryParams.flatMap fun q => toKeyValueMatch (q.type.getD .exact) q

/-- Unlike the two above, this one has no default type and dereferences nil. -/
def toHeaderMatch (m : HTTPRouteMatch) : Result (List Model.KeyValueMatch) :=
  collect (fun h => do
    let t ← deref h.type
    pure (toKeyValueMatch t h)) m.headers

def toPathMatch (m : HTTPRouteMatch) : Result Model.StringMatch :=
  match m.path with
  | none => pure {}
  | some path => do
    let t ← deref path.type
    match t with
    | .exact => do
      let v ← deref path.value
      pure { exact := v }
    | .pathPrefix => do
      let v ← deref path.value
      pure { prefixed := v }
    | .regularExpression => do
      let v ← deref path.value
      pure { regex := v }
    | .other _ => pure {}

def toGRPCPathMatch (m : GRPCRouteMatch) : Result Model.StringMatch :=
  match m.method with
  | none => pure {}
  | some method =>
    match method.service with
    | none => pure {}
    | some service => do
      let path := "/" ++ service ++ (match method.method with
        | some name => "/" ++ name
        | none => "")
      let t ← deref method.type
      match t with
      | .exact => pure { exact := path }
      | .regularExpression => pure { regex := path }
      | .other _ => pure {}

end Ingestion
