import Mathlib.Tactic.Common

/-!
# Gateway API objects

The Kubernetes objects the operator reads, restricted to the fields that its code
reads or should read. A Go pointer is an `Option`, nil being `none`. A string type whose values
the code tells apart is an inductive type, with a constructor `other` for the
values that fall through the code's `switch`.

An object that comes from the API server has a name: `ObjectMeta` carries that
fact, so that no object without a name can be built.
-/

namespace Gatewayv1

/-- The group of the Gateway API, `gatewayv1.GroupName`. -/
def groupName : String := "gateway.networking.k8s.io"

/-- How `ObjectMeta` finds its proof: for a name that is written out the test evaluates to
    `True`. -/
theorem ne_empty_of_test (name : String) (h : if name = "" then False else True) : name ≠ "" := by
  intro hname
  rw [if_pos hname] at h
  exact h

/-- The metadata of a namespaced object. -/
structure ObjectMeta where
  name : String
  ns : String
  uid : String := ""
  generation : Int := 1
  creationTimestamp : Nat := 0
  name_ne : name ≠ "" := by exact ne_empty_of_test _ trivial
  deriving DecidableEq, Repr

/-- `types.NamespacedName`. -/
structure NamespacedName where
  ns : String
  name : String
  deriving DecidableEq, Repr

/-- `schema.GroupVersionKind`. -/
structure GroupVersionKind where
  group : String
  version : String
  kind : String
  deriving DecidableEq, Repr

/-- `metav1.ConditionStatus`. -/
inductive ConditionStatus
  | true | false | unknown
  deriving DecidableEq, Repr

/-- `metav1.Condition`. -/
structure Condition where
  type : String
  status : ConditionStatus
  reason : String
  message : String
  observedGeneration : Int := 0
  lastTransitionTime : Nat := 0
  deriving DecidableEq, Repr

/-! ## References -/

/-- What a route or a ListenerSet attaches to: `gatewayv1.ParentReference`. -/
structure ParentReference where
  group : Option String := none
  kind : Option String := none
  ns : Option String := none
  name : String
  sectionName : Option String := none
  port : Option Nat := none
  deriving DecidableEq, Repr

structure BackendObjectReference where
  group : Option String := none
  kind : Option String := none
  name : String
  ns : Option String := none
  port : Option Nat := none
  deriving DecidableEq, Repr

structure BackendRef extends BackendObjectReference where
  weight : Option Int := none
  deriving DecidableEq, Repr

structure SecretObjectReference where
  group : Option String := none
  kind : Option String := none
  name : String
  ns : Option String := none
  deriving DecidableEq, Repr

structure ReferenceGrantFrom where
  group : String
  kind : String
  ns : String
  deriving DecidableEq, Repr

structure ReferenceGrantTo where
  group : String
  kind : String
  name : Option String := none
  deriving DecidableEq, Repr

/-- A `ReferenceGrant`; the fields `Spec.From` and `Spec.To` are `fromRefs` and `toRefs`. -/
structure ReferenceGrant extends ObjectMeta where
  fromRefs : List ReferenceGrantFrom
  toRefs : List ReferenceGrantTo
  deriving DecidableEq, Repr

/-! ## Listeners -/

inductive ProtocolType
  | http | https | tls | tcp | udp
  | other (name : String)
  deriving DecidableEq, Repr

/-- `gatewayv1.FromNamespaces`; the API server admits no value `other`. -/
inductive FromNamespaces
  | all | same | selector | none
  | other (name : String)
  deriving DecidableEq, Repr

/-- The labels of an object, a Go `map[string]string`. -/
abbrev Labels := List (String × String)

/-- `metav1.LabelSelectorRequirement`, its operator as the API server spells it. -/
structure LabelSelectorRequirement where
  key : String
  operator : String
  values : List String := []
  deriving DecidableEq, Repr

/-- `metav1.LabelSelector`. -/
structure LabelSelector where
  matchLabels : Labels := []
  matchExpressions : List LabelSelectorRequirement := []
  deriving DecidableEq, Repr

/-- `gatewayv1.RouteNamespaces`; the field `From` is `fromNamespaces`. -/
structure RouteNamespaces where
  fromNamespaces : Option FromNamespaces := none
  selector : Option LabelSelector := none
  deriving DecidableEq, Repr

structure RouteGroupKind where
  group : Option String := none
  kind : String
  deriving DecidableEq, Repr

/-- `gatewayv1.AllowedRoutes`; nil kinds are `none`, which the code tells apart from `[]`. -/
structure AllowedRoutes where
  namespaces : Option RouteNamespaces := none
  kinds : Option (List RouteGroupKind) := none
  deriving DecidableEq, Repr

inductive TLSModeType
  | terminate | passthrough
  | other (name : String)
  deriving DecidableEq, Repr

structure ListenerTLSConfig where
  mode : Option TLSModeType := none
  certificateRefs : List SecretObjectReference := []
  deriving DecidableEq, Repr

structure Listener where
  name : String
  hostname : Option String := none
  port : Nat
  protocol : ProtocolType
  tls : Option ListenerTLSConfig := none
  allowedRoutes : Option AllowedRoutes := none
  deriving DecidableEq, Repr

/-- `gatewayv1.ListenerNamespaces`; the field `From` is `fromNamespaces`. -/
structure ListenerNamespaces where
  fromNamespaces : Option FromNamespaces := none
  selector : Option LabelSelector := none
  deriving DecidableEq, Repr

structure AllowedListeners where
  namespaces : Option ListenerNamespaces := none
  deriving DecidableEq, Repr

structure GatewayInfrastructure where
  labels : List (String × String) := []
  annotations : List (String × String) := []
  deriving DecidableEq, Repr

structure Gateway extends ObjectMeta where
  gvk : GroupVersionKind := ⟨groupName, "v1", "Gateway"⟩
  listeners : List Listener := []
  infrastructure : Option GatewayInfrastructure := none
  allowedListeners : Option AllowedListeners := none
  gatewayClassName : String := ""
  deriving DecidableEq, Repr

structure GatewayClass where
  name : String
  controllerName : String
  deriving DecidableEq, Repr

structure ListenerEntryStatus where
  name : String
  supportedKinds : Option (List RouteGroupKind) := none
  attachedRoutes : Nat := 0
  conditions : List Condition := []
  deriving DecidableEq, Repr

structure ListenerSetStatus where
  conditions : List Condition := []
  listeners : List ListenerEntryStatus := []
  deriving DecidableEq, Repr

/-- A ListenerSet. The API server admits none without a listener. A
    `ListenerEntry` has the fields of a `Listener`. -/
structure ListenerSet extends ObjectMeta where
  gvk : GroupVersionKind := ⟨groupName, "v1", "ListenerSet"⟩
  parentRef : ParentReference
  listeners : List Listener
  status : ListenerSetStatus := {}
  listeners_ne : listeners ≠ [] := by decide
  deriving DecidableEq, Repr

/-! ## Route filters -/

structure HTTPHeader where
  name : String
  value : String
  deriving DecidableEq, Repr

structure HTTPHeaderFilter where
  set : List HTTPHeader := []
  add : List HTTPHeader := []
  remove : List String := []
  deriving DecidableEq, Repr

inductive HTTPPathModifierType
  | replaceFullPath | replacePrefixMatch
  | other (name : String)
  deriving DecidableEq, Repr

structure HTTPPathModifier where
  type : HTTPPathModifierType
  replaceFullPath : Option String := none
  replacePrefixMatch : Option String := none
  deriving DecidableEq, Repr

structure HTTPRequestRedirectFilter where
  scheme : Option String := none
  hostname : Option String := none
  path : Option HTTPPathModifier := none
  port : Option Int := none
  statusCode : Option Int := none
  deriving DecidableEq, Repr

structure HTTPURLRewriteFilter where
  hostname : Option String := none
  path : Option HTTPPathModifier := none
  deriving DecidableEq, Repr

structure HTTPRequestMirrorFilter where
  backendRef : BackendObjectReference
  deriving DecidableEq, Repr

structure HTTPExternalAuthFilter where
  backendRef : BackendObjectReference
  deriving DecidableEq, Repr

inductive HTTPRouteFilterType
  | requestHeaderModifier | responseHeaderModifier | requestRedirect | urlRewrite | requestMirror
  | other (name : String)
  deriving DecidableEq, Repr

/-- A filter: the field that `type` names is meant to be set, the code does not check it. -/
structure HTTPRouteFilter where
  type : HTTPRouteFilterType
  requestHeaderModifier : Option HTTPHeaderFilter := none
  responseHeaderModifier : Option HTTPHeaderFilter := none
  requestMirror : Option HTTPRequestMirrorFilter := none
  requestRedirect : Option HTTPRequestRedirectFilter := none
  urlRewrite : Option HTTPURLRewriteFilter := none
  externalAuth : Option HTTPExternalAuthFilter := none
  deriving DecidableEq, Repr

inductive GRPCRouteFilterType
  | requestHeaderModifier | responseHeaderModifier | requestMirror
  | other (name : String)
  deriving DecidableEq, Repr

structure GRPCRouteFilter where
  type : GRPCRouteFilterType
  requestHeaderModifier : Option HTTPHeaderFilter := none
  responseHeaderModifier : Option HTTPHeaderFilter := none
  requestMirror : Option HTTPRequestMirrorFilter := none
  deriving DecidableEq, Repr

/-! ## Route matches -/

inductive PathMatchType
  | exact | pathPrefix | regularExpression
  | other (name : String)
  deriving DecidableEq, Repr

structure HTTPPathMatch where
  type : Option PathMatchType := none
  value : Option String := none
  deriving DecidableEq, Repr

/-- `HeaderMatchType`, `QueryParamMatchType`, `GRPCHeaderMatchType` and
    `GRPCMethodMatchType`, which have the same values. -/
inductive ValueMatchType
  | exact | regularExpression
  | other (name : String)
  deriving DecidableEq, Repr

/-- `HTTPHeaderMatch`, `HTTPQueryParamMatch` and `GRPCHeaderMatch`. -/
structure ValueMatch where
  type : Option ValueMatchType := none
  name : String
  value : String
  deriving DecidableEq, Repr

structure HTTPRouteMatch where
  path : Option HTTPPathMatch := none
  headers : List ValueMatch := []
  queryParams : List ValueMatch := []
  method : Option String := none
  deriving DecidableEq, Repr

structure GRPCMethodMatch where
  type : Option ValueMatchType := none
  service : Option String := none
  method : Option String := none
  deriving DecidableEq, Repr

structure GRPCRouteMatch where
  method : Option GRPCMethodMatch := none
  headers : List ValueMatch := []
  deriving DecidableEq, Repr

/-! ## Routes -/

structure RouteParentStatus where
  parentRef : ParentReference
  controllerName : String := ""
  conditions : List Condition := []
  deriving DecidableEq, Repr

/-- What the routes of all kinds have: `Spec.ParentRefs` and `Status.Parents`. -/
structure CommonRoute extends ObjectMeta where
  parentRefs : List ParentReference := []
  parents : List RouteParentStatus := []
  deriving DecidableEq, Repr

structure HTTPBackendRef extends BackendRef where
  filters : List HTTPRouteFilter := []
  deriving DecidableEq, Repr

/-- The timeouts of a rule, in nanoseconds, which the code does not read. -/
structure HTTPRouteTimeouts where
  request : Option Int := none
  backendRequest : Option Int := none
  deriving DecidableEq, Repr

structure HTTPRouteRule where
  routeMatches : List HTTPRouteMatch := []
  filters : List HTTPRouteFilter := []
  backendRefs : List HTTPBackendRef := []
  timeouts : Option HTTPRouteTimeouts := none
  deriving DecidableEq, Repr

structure HTTPRoute extends CommonRoute where
  hostnames : List String := []
  rules : List HTTPRouteRule := []
  gvk : GroupVersionKind := ⟨groupName, "v1", "HTTPRoute"⟩
  deriving DecidableEq, Repr

structure GRPCBackendRef extends BackendRef where
  filters : List GRPCRouteFilter := []
  deriving DecidableEq, Repr

structure GRPCRouteRule where
  routeMatches : List GRPCRouteMatch := []
  filters : List GRPCRouteFilter := []
  backendRefs : List GRPCBackendRef := []
  deriving DecidableEq, Repr

structure GRPCRoute extends CommonRoute where
  hostnames : List String := []
  rules : List GRPCRouteRule := []
  deriving DecidableEq, Repr

/-- A rule of a TLSRoute, TCPRoute or UDPRoute. -/
structure L4RouteRule where
  backendRefs : List BackendRef := []
  deriving DecidableEq, Repr

structure TLSRoute extends CommonRoute where
  hostnames : List String := []
  rules : List L4RouteRule := []
  deriving DecidableEq, Repr

structure TCPRoute extends CommonRoute where
  rules : List L4RouteRule := []
  deriving DecidableEq, Repr

structure UDPRoute extends CommonRoute where
  rules : List L4RouteRule := []
  deriving DecidableEq, Repr

/-! ## Backend policies -/

/-- `LocalPolicyTargetReferenceWithSectionName`: what a policy applies to, in its namespace. -/
structure PolicyTargetReference where
  group : String := ""
  kind : String := "Service"
  name : String
  sectionName : Option String := none
  deriving DecidableEq, Repr

structure LocalObjectReference where
  group : String := ""
  kind : String
  name : String
  deriving DecidableEq, Repr

structure BackendTLSPolicyValidation where
  caCertificateRefs : List LocalObjectReference := []
  wellKnownCACertificates : Option String := none
  deriving DecidableEq, Repr

structure PolicyAncestorStatus where
  ancestorRef : ParentReference
  controllerName : String
  conditions : List Condition := []
  deriving DecidableEq, Repr

structure BackendTLSPolicy extends ObjectMeta where
  resourceVersion : String := ""
  targetRefs : List PolicyTargetReference := []
  validation : BackendTLSPolicyValidation := {}
  ancestors : List PolicyAncestorStatus := []
  deriving DecidableEq, Repr

end Gatewayv1

namespace Corev1

structure Namespace where
  name : String
  labels : Gatewayv1.Labels := []
  deriving DecidableEq, Repr

/-- A Service, as far as ingestion reads it. -/
structure Service where
  name : String
  ns : String
  deriving DecidableEq, Repr

end Corev1
