import Mathlib.Algebra.Group.Int.Defs
import Dolphin.Go.Maps
import Dolphin.GatewayAPI.Types

/-!
# Ingresses and their annotations

The Ingress and IngressClass objects that the operator reads, restricted to the fields that its
code reads or should read. A Go pointer is an `Option`, nil being `none`: the path type of a rule
and the Service of a backend are pointers that the code dereferences.

An Ingress is configured by annotations (`pkg/ingress/annotations`). A value is looked up under a
key and its aliases (`annotation.Get`), and parsed by `strconv`. What cannot be parsed is an error
of the two ports, and is not set for the switches.
-/

namespace Networkingv1

open Gatewayv1

structure ServiceBackendPort where
  name : String := ""
  /-- An `int32`, 0 if the port is given by its name. -/
  number : Int := 0
  deriving DecidableEq, Repr

structure IngressServiceBackend where
  name : String
  port : ServiceBackendPort := {}
  deriving DecidableEq, Repr

/-- A backend, whose Service is nil if it is a resource of another kind. -/
structure IngressBackend where
  service : Option IngressServiceBackend := none
  deriving DecidableEq, Repr

inductive PathType
  | exact | pathPrefix | implementationSpecific
  | other (name : String)
  deriving DecidableEq, Repr

structure HTTPIngressPath where
  path : String := ""
  pathType : Option PathType := none
  backend : IngressBackend := {}
  deriving DecidableEq, Repr

/-- A rule; `http` has the paths of its HTTP part, which may be nil. -/
structure IngressRule where
  host : String := ""
  http : Option (List HTTPIngressPath) := none
  deriving DecidableEq, Repr

structure IngressTLS where
  hosts : List String := []
  secretName : String := ""
  deriving DecidableEq, Repr

structure Ingress extends ObjectMeta where
  annotations : Go.Map String String := ∅
  labels : Go.Map String String := ∅
  deletionTimestamp : Option Nat := none
  ingressClassName : Option String := none
  defaultBackend : Option IngressBackend := none
  tls : List IngressTLS := []
  rules : List IngressRule := []

def Ingress.key (ing : Ingress) : NamespacedName := ⟨ing.ns, ing.name⟩

structure IngressClass where
  name : String
  annotations : Go.Map String String := ∅

end Networkingv1

namespace Annotations

open Networkingv1

/-! ## Parsing -/

/-- `strconv.ParseBool`. -/
def parseBool (s : String) : Option Bool :=
  if s ∈ ["1", "t", "T", "TRUE", "true", "True"] then some true
  else if s ∈ ["0", "f", "F", "FALSE", "false", "False"] then some false
  else none

/-- The digits of a decimal number, of which there is at least one. -/
def parseDigits (cs : List Char) : Option Nat :=
  if cs ≠ [] ∧ cs.all Char.isDigit then
    some (cs.foldl (fun n c => 10 * n + (c.toNat - '0'.toNat)) 0)
  else none

/-- `strconv.ParseInt` with base 10 and 32 bits. -/
def parseInt32 (s : String) : Option Int :=
  let value : Option Int :=
    match s.toList with
    | '-' :: cs => (parseDigits cs).map fun n => -(n : Int)
    | '+' :: cs => (parseDigits cs).map Int.ofNat
    | cs => (parseDigits cs).map Int.ofNat
  value.filter fun n => -(2 ^ 31) ≤ n ∧ n < 2 ^ 31

/-- A conversion to `uint32`. -/
def toUInt32 (n : Int) : Nat := (n % 2 ^ 32).toNat

/-! ## Annotations -/

/-- The value under the first of the keys that the annotations have. -/
def get (annotations : Go.Map String String) (keys : List String) : Option String :=
  keys.findSome? annotations.get?

def ingressPrefix : String := "ingress.dolphin.io"

/-- An annotation and its alias. -/
def withAlias (suffix : String) : List String :=
  [ingressPrefix ++ suffix, "dolphin.io.ingress" ++ suffix]

section

variable (ing : Ingress)

def getAnnotationIngressLoadbalancerMode : String :=
  (get ing.annotations (withAlias "/loadbalancer-mode")).getD ""

def getAnnotationTLSPassthroughEnabled : Bool :=
  match get ing.annotations (withAlias "/tls-passthrough") with
  | none => false
  | some val => val = "enabled" || (parseBool val).getD false

def getAnnotationServiceType : String :=
  (get ing.annotations (withAlias "/service-type")).getD "LoadBalancer"

/-- A port of an annotation: an error if it cannot be parsed, and nil if it is not there. -/
def getPort (keys : List String) : Except Unit (Option Nat) :=
  match get ing.annotations keys with
  | none => .ok none
  | some val =>
    match parseInt32 val with
    | none => .error ()
    | some n => .ok (some (toUInt32 n))

def getAnnotationSecureNodePort : Except Unit (Option Nat) :=
  getPort ing (withAlias "/secure-node-port")

def getAnnotationInsecureNodePort : Except Unit (Option Nat) :=
  getPort ing (withAlias "/insecure-node-port")

def getAnnotationHostListenerPort : Except Unit (Option Nat) :=
  getPort ing [ingressPrefix ++ "/host-listener-port"]

/-- The request timeout in nanoseconds; `parseDuration` is `time.ParseDuration`. -/
def getAnnotationRequestTimeout (parseDuration : String → Option Int) : Except Unit (Option Int) :=
  match get ing.annotations [ingressPrefix ++ "/request-timeout"] with
  | none => .ok none
  | some val =>
    match parseDuration val with
    | none => .error ()
    | some d => .ok (some d)

/-- Whether HTTPS is forced, nil if the annotation does not say. -/
def getAnnotationForceHTTPSEnabled : Option Bool :=
  match get ing.annotations [ingressPrefix ++ "/force-https"] with
  | none => none
  | some val =>
    if val = "enabled" then some true
    else if val = "disabled" then some false
    else parseBool val

end

end Annotations
