import Dolphin.Ingestion.Ingress
import Dolphin.Translation.Translator

/-!
# Resources of Ingresses

Which Ingresses the operator manages, and what it makes of them (`pkg/ingress` and
`pkg/model/translation/ingress`). The Ingresses in shared mode are translated together, to one
Envoy configuration (`buildSharedResources`). An Ingress in dedicated mode has an Envoy
configuration of its own, with a Service and Endpoints (`buildDedicatedResources`).
-/

namespace IngressController

open Model Go Networkingv1 Annotations Translation

/-! ## Managed Ingresses -/

def dolphinIngressClassName : String := "dolphin"

def dolphinIngressPrefix : String := "dolphin-ingress"

/-- The class of an Ingress: the annotation counts before the field. -/
def ingressClassName (ing : Ingress) : Option String :=
  (ing.annotations.get? "kubernetes.io/ingress.class").or ing.ingressClassName

/-- An annotation that cannot be parsed is an error, for which the caller returns false. -/
def isIngressClassMarkedAsDefault (cls : IngressClass) : Bool :=
  ((cls.annotations.get? "ingressclass.kubernetes.io/is-default-class").bind parseBool).getD false

/-- `dolphinClass` is the IngressClass of the operator, if it can be read. -/
def isDolphinDefaultIngressController (dolphinClass : Option IngressClass) : Bool :=
  dolphinClass.any isIngressClassMarkedAsDefault

/-- The log line before the tests dereferences the class name. -/
def isdolphinManagedIngress (dolphinClass : Option IngressClass) (ing : Ingress) : Result Bool := do
  let ingClsName ← deref (ingressClassName ing)
  pure (ingClsName = dolphinIngressClassName ||
    (ingClsName = "" && isDolphinDefaultIngressController dolphinClass))

/-! ## The reconciler -/

/-- The settings of the reconciler, with `time.ParseDuration` and the owner reference that
    `SetControllerReference` adds for an Ingress. -/
structure IngressReconciler where
  enforcedHTTPS : Bool := false
  useProxyProtocol : Bool := false
  secretsNamespace : String := ""
  lbAnnotationPrefixes : List String := []
  sharedLBServiceName : String
  dolphinNamespace : String
  defaultLoadbalancerMode : String := ""
  defaultSecretNamespace : String := ""
  defaultSecretName : String := ""
  idleTimeoutSeconds : Int := 0
  defaultRequestTimeout : Int := 0
  hostNetworkEnabled : Bool := false
  hostNetworkSharedPort : Nat := 0
  parseDuration : String → Option Int := fun _ => none
  controllerReference : Ingress → OwnerReference := fun ing =>
    ⟨"networking.k8s.io/v1", "Ingress", ing.name, ing.uid, true⟩

section

variable (r : IngressReconciler)

def IngressReconciler.isEffectiveLoadbalancerModeDedicated (ing : Ingress) : Bool :=
  let value := getAnnotationIngressLoadbalancerMode ing
  if value = "dedicated" then true
  else if value = "shared" then false
  else r.defaultLoadbalancerMode = "dedicated"

/-- The ports for passthrough, HTTP and HTTPS. -/
def IngressReconciler.getSharedListenerPorts : Nat × Nat × Nat :=
  if !r.hostNetworkEnabled then (443, 80, 443)
  else if r.hostNetworkSharedPort > 0 then
    (r.hostNetworkSharedPort, r.hostNetworkSharedPort, r.hostNetworkSharedPort)
  else (8080, 8080, 8080)

def IngressReconciler.getDedicatedListenerPorts (ing : Ingress) : Nat × Nat × Nat :=
  if !r.hostNetworkEnabled then (443, 80, 443)
  else match getAnnotationHostListenerPort ing with
  | .ok (some port) => if port = 0 then (8080, 8080, 8080) else (port, port, port)
  | _ => (8080, 8080, 8080)

/-- The parameters of ingestion, for the ports of listeners. -/
def IngressReconciler.options (ports : Nat × Nat × Nat) : Ingestion.IngressOptions where
  defaultSecretNamespace := r.defaultSecretNamespace
  defaultSecretName := r.defaultSecretName
  enforcedHTTPS := r.enforcedHTTPS
  insecureListenerPort := ports.2.1
  secureListenerPort := ports.2.2
  defaultRequestTimeout := r.defaultRequestTimeout
  parseDuration := r.parseDuration

/-- A translator with the settings that both modes share. -/
def IngressReconciler.translator (name ns : String) : DefaultTranslator where
  name := name
  ns := ns
  secretsNamespace := r.secretsNamespace
  enforceHTTPs := r.enforcedHTTPS
  useProxyProtocol := r.useProxyProtocol
  hostNameSuffixMatch := false
  idleTimeoutSeconds := r.idleTimeoutSeconds
  ipv4Enabled := true
  ipv6Enabled := false

/-! ## Shared mode -/

/-- The order in which the Ingresses are gone over. -/
def sortIngresses (ings : List Ingress) : List Ingress :=
  ings.insertionSort fun a b => a.ns ++ "/" ++ a.name ≤ b.ns ++ "/" ++ b.name

/-- The listeners of an Ingress, with or without passthrough. -/
def IngressReconciler.ingest (ports : Nat × Nat × Nat) (ing : Ingress) : Result Model :=
  if getAnnotationTLSPassthroughEnabled ing then do
    let ls ← Ingestion.ingressPassthrough ing
    pure { tls := ls }
  else do
    let ls ← Ingestion.ingress (r.options ports) ing
    pure { http := ls }

/-- The iteration for an Ingress: what it appends to the model. -/
def IngressReconciler.ingestShared (dolphinClass : Option IngressClass) (ing : Ingress) :
    Result Model := do
  let managed ← isdolphinManagedIngress dolphinClass ing
  if !managed || r.isEffectiveLoadbalancerModeDedicated ing || ing.deletionTimestamp.isSome then
    pure {}
  else r.ingest r.getSharedListenerPorts ing

/-- The model of all Ingresses in shared mode. -/
def IngressReconciler.sharedModel (dolphinClass : Option IngressClass) (ings : List Ingress) :
    Result Model := do
  let blocks ← (sortIngresses ings).mapM (r.ingestShared dolphinClass)
  pure { http := blocks.flatMap (·.http), tls := blocks.flatMap (·.tls) }

def IngressReconciler.sharedTranslator : DefaultTranslator :=
  r.translator r.sharedLBServiceName r.dolphinNamespace

def IngressReconciler.buildSharedResources (slices : Slices) (orders : RangeOrders)
    (dolphinClass : Option IngressClass) (ings : List Ingress) : Result DolphinEnvoyConfig := do
  let m ← r.sharedModel dolphinClass ings
  r.sharedTranslator.translate slices orders m

/-! ## Dedicated mode -/

structure IngressServicePort where
  name : String
  protocol : String
  port : Nat
  nodePort : Int := 0
  deriving DecidableEq, Repr

structure IngressService where
  name : String
  ns : String
  labels : Go.Map String String
  annotations : Go.Map String String
  ownerReferences : List OwnerReference
  type : String
  ports : List IngressServicePort
  loadBalancerClass : Option String := none

/-- The Endpoints, whose address and port are always the same. -/
structure IngressEndpoints where
  name : String
  ns : String
  labels : Go.Map String String
  annotations : Go.Map String String := ∅
  ownerReferences : List OwnerReference

def dolphinIngressLabelKey : String := "dolphin.io/ingress"

/-- The name of the Service and of the Endpoints of an Ingress. -/
def resourceName (name : String) : String := dolphinIngressPrefix ++ "-" ++ name

def configName (ns name : String) : String := dolphinIngressPrefix ++ "-" ++ ns ++ "-" ++ name

/-- The owner reference of the Service and of the Endpoints, with the version of core objects. -/
def ownerReferenceOf (resource : FullyQualifiedResource) : OwnerReference :=
  ⟨"v1", "Ingress", resource.name, resource.uid, true⟩

/-- A conversion to `int32`. -/
def toInt32 (n : Nat) : Int := Int.bmod n (2 ^ 32)

def getService (resource : FullyQualifiedResource) (service : Option Model.Service) :
    IngressService where
  name := resourceName resource.name
  ns := resource.ns
  labels := Map.ofList [(dolphinIngressLabelKey, "true")]
  annotations := ∅
  ownerReferences := [ownerReferenceOf resource]
  type := if (service.map (·.type)) = some "NodePort" then "NodePort" else "LoadBalancer"
  ports :=
    let nodePort (port : Model.Service → Option Nat) : Int :=
      match service with
      | some s => if s.type = "NodePort" then ((port s).map toInt32).getD 0 else 0
      | none => 0
    [⟨"http", "TCP", 80, nodePort (·.insecureNodePort)⟩,
      ⟨"https", "TCP", 443, nodePort (·.secureNodePort)⟩]

def getEndpoints (resource : FullyQualifiedResource) : IngressEndpoints where
  name := resourceName resource.name
  ns := resource.ns
  labels := Map.ofList [(dolphinIngressLabelKey, "true")]
  ownerReferences := [ownerReferenceOf resource]

structure DedicatedResources where
  config : DolphinEnvoyConfig
  service : IngressService
  endpoints : IngressEndpoints

/-- The source and the Service of the first listener. -/
def firstSource (m : Model) : Result (FullyQualifiedResource × Option Model.Service) :=
  match m.http with
  | [] => do
    let l ← deref m.tls.head?
    let source ← deref l.sources.head?
    pure (source, l.service)
  | l :: _ => do
    let source ← deref l.sources.head?
    pure (source, l.service)

/-- `DedicatedIngressTranslator.Translate`, or its error. -/
def IngressReconciler.translateDedicated (slices : Slices) (orders : RangeOrders) (m : Model) :
    Result (Except String DedicatedResources) :=
  if m.http = [] ∧ m.tls = [] then pure (.error "model source can't be empty")
  else do
    let (source, service) ← firstSource m
    let config ← (r.translator (resourceName source.name) source.ns).translate slices orders m
    pure (.ok
      { config := { config with name := configName source.ns source.name }
        service := getService source service
        endpoints := getEndpoints source })

/-- `mergeMap`: entries of `src` are added to `dst` if their key has one of the prefixes. -/
def mergeMap (src dst : Go.Map String String) (prefixes : List String) : Go.Map String String :=
  (src.toPairs.filter fun p => prefixes.any (hasPrefix p.1)).foldl (fun m p => m.set p.1 p.2) dst

/-- The annotations and labels of the Ingress replace those of the Service, of which the ones
    with a configured prefix are kept. -/
def IngressReconciler.propagateIngressAnnotationsAndLabels (ing : Ingress)
    (svc : IngressService) : IngressService :=
  if r.lbAnnotationPrefixes = [] then svc
  else
    { svc with
      annotations := mergeMap svc.annotations ing.annotations r.lbAnnotationPrefixes
      labels := mergeMap svc.labels ing.labels r.lbAnnotationPrefixes }

def IngressReconciler.buildDedicatedResources (slices : Slices) (orders : RangeOrders)
    (ing : Ingress) : Result (Except String DedicatedResources) := do
  let m ← r.ingest (r.getDedicatedListenerPorts ing) ing
  let translated ← r.translateDedicated slices orders m
  pure (translated.map fun res =>
    { res with
      service := r.propagateIngressAnnotationsAndLabels ing res.service
      config := { res.config with
        ownerReferences := res.config.ownerReferences ++ [r.controllerReference ing] } })

end

end IngressController
