import Dolphin.Go.Strings

/-!
# The model

The intermediate model of `pkg/model`: what ingestion produces and translation
reads. The fields that neither of them uses are left out.

A slice is a list; the only one whose nil value is told apart from an empty one is
`HTTPListener.tls`, which is therefore an `Option`: a listener is *secure* when its
TLS list is non-nil (`HTTPListener.secure`), be it empty or not.
-/

namespace Model

structure FullyQualifiedResource where
  name : String
  ns : String
  group : String
  version : String
  kind : String
  uid : String
  deriving DecidableEq, Repr

structure TLSSecret where
  name : String
  ns : String
  deriving DecidableEq, Repr

/-- A string match; the field `Prefix` is `prefixed`. An empty field is not set. -/
structure StringMatch where
  prefixed : String := ""
  exact : String := ""
  regex : String := ""
  deriving DecidableEq, Repr

structure KeyValueMatch where
  key : String
  valueMatch : StringMatch
  deriving DecidableEq, Repr

structure Header where
  name : String
  value : String
  deriving DecidableEq, Repr

structure HttpHeaderFilter where
  headersToAdd : List Header := []
  headersToSet : List Header := []
  headersToRemove : List String := []
  deriving DecidableEq, Repr

structure BackendHttpFilter where
  name : String
  requestHeaderFilter : Option HttpHeaderFilter := none
  responseHeaderModifier : Option HttpHeaderFilter := none
  deriving DecidableEq, Repr

structure DirectResponse where
  statusCode : Nat
  body : String := ""
  deriving DecidableEq, Repr

/-- A port by number, or by name when the number is 0. -/
structure BackendPort where
  port : Nat := 0
  name : String := ""
  deriving DecidableEq, Repr

structure Backend where
  name : String
  ns : String
  port : Option BackendPort := none
  weight : Option Int := none
  deriving DecidableEq, Repr

structure HttpRequestMirror where
  backend : Option Backend
  deriving DecidableEq, Repr

structure HTTPRequestRedirectFilter where
  scheme : Option String := none
  hostname : Option String := none
  path : Option StringMatch := none
  port : Option Int := none
  statusCode : Option Int := none
  deriving DecidableEq, Repr

structure HTTPURLRewriteFilter where
  hostName : Option String := none
  path : Option StringMatch := none
  deriving DecidableEq, Repr

/-- Timeouts, in nanoseconds. -/
structure Timeout where
  request : Option Int := none
  backend : Option Int := none
  deriving DecidableEq, Repr

structure HTTPRoute where
  hostnames : List String := []
  pathMatch : StringMatch := {}
  headersMatch : List KeyValueMatch := []
  queryParamsMatch : List KeyValueMatch := []
  method : Option String := none
  backends : List Backend := []
  backendHttpFilters : List BackendHttpFilter := []
  directResponse : Option DirectResponse := none
  responseHeaderModifier : Option HttpHeaderFilter := none
  requestHeaderFilter : Option HttpHeaderFilter := none
  requestRedirect : Option HTTPRequestRedirectFilter := none
  rewrite : Option HTTPURLRewriteFilter := none
  requestMirrors : List HttpRequestMirror := []
  isGRPC : Bool := false
  timeout : Timeout := {}
  deriving DecidableEq, Repr

structure Infrastructure where
  labels : List (String × String)
  annotations : List (String × String)
  deriving DecidableEq, Repr

/-- What an Ingress says about the Service that is made for it. -/
structure Service where
  type : String
  insecureNodePort : Option Nat := none
  secureNodePort : Option Nat := none
  deriving DecidableEq, Repr

structure HTTPListener where
  name : String
  sources : List FullyQualifiedResource := []
  port : Nat := 0
  hostname : String := ""
  tls : Option (List TLSSecret) := none
  routes : List HTTPRoute := []
  service : Option Service := none
  infrastructure : Option Infrastructure := none
  forceHTTPtoHTTPSRedirect : Bool := false
  deriving DecidableEq, Repr

structure TLSRoute where
  hostnames : List String := []
  backends : List Backend := []
  deriving DecidableEq, Repr

structure TLSListener where
  name : String
  sources : List FullyQualifiedResource := []
  port : Nat := 0
  hostname : String := ""
  routes : List TLSRoute := []
  service : Option Service := none
  infrastructure : Option Infrastructure := none
  deriving DecidableEq, Repr

/-- A route of a TCP or UDP listener. -/
structure L4Route where
  backends : List Backend := []
  deriving DecidableEq, Repr

/-- A TCP or UDP listener. -/
structure L4Listener where
  name : String
  port : Nat
  sources : List FullyQualifiedResource := []
  routes : List L4Route := []
  infrastructure : Option Infrastructure := none
  deriving DecidableEq, Repr

end Model

/-- The model: the listeners of each protocol. -/
structure Model where
  http : List Model.HTTPListener := []
  tls : List Model.TLSListener := []
  tcp : List Model.L4Listener := []
  udp : List Model.L4Listener := []
  deriving DecidableEq, Repr

namespace Model

/-- A listener is secure when its TLS list is non-nil, even if it is empty. -/
def HTTPListener.secure (l : HTTPListener) : Bool := l.tls.isSome

def BackendPort.getPort (b : BackendPort) : String :=
  if b.port ≠ 0 then toString b.port else b.name

/-! ## Match keys -/

def StringMatch.toKey (sm : StringMatch) : String :=
  if sm.prefixed ≠ "" then "prefix:" ++ sm.prefixed
  else if sm.exact ≠ "" then "exact:" ++ sm.exact
  else if sm.regex ≠ "" then "regex:" ++ sm.regex
  else ""

def KeyValueMatch.toKey (kv : KeyValueMatch) : String :=
  "kv:" ++ kv.key ++ ":" ++ kv.valueMatch.toKey

/-- The sort of `GetMatchKey` by the matches' strings. -/
def sortMatches (l : List KeyValueMatch) : List KeyValueMatch :=
  l.insertionSort fun a b => a.toKey ≤ b.toKey

/-- A route after `GetMatchKey`, which sorts the matches in place. -/
def HTTPRoute.sorted (r : HTTPRoute) : HTTPRoute :=
  { r with
    headersMatch := sortMatches r.headersMatch
    queryParamsMatch := sortMatches r.queryParamsMatch }

/-- Routes with the same key are merged into one by translation. -/
def HTTPRoute.getMatchKey (r : HTTPRoute) : String :=
  (match r.method with
    | some m => "method:" ++ m ++ "|"
    | none => "") ++
  "path:" ++ r.pathMatch.toKey ++ "|" ++
  String.join ((sortMatches r.headersMatch).map fun hm => "header:" ++ hm.toKey ++ "|") ++
  String.join ((sortMatches r.queryParamsMatch).map fun qm => "query:" ++ qm.toKey ++ "|")

theorem sortMatches_sortMatches (l : List KeyValueMatch) :
    sortMatches (sortMatches l) = sortMatches l :=
  (List.pairwise_insertionSort _ l).insertionSort_eq

@[simp]
theorem HTTPRoute.getMatchKey_sorted (r : HTTPRoute) : r.sorted.getMatchKey = r.getMatchKey := by
  simp only [getMatchKey, sorted, sortMatches_sortMatches]

end Model
