import Mathlib.Tactic.Common

/-!
# Envoy resources

The part of Envoy's configuration that translation writes. A message that is marshalled
into another one stands there as it is. Fields that are always left at their default are
left out, those that are always set to the same constant are listed in the definitions that
set them.
-/

namespace Envoy

/-! ## Matching requests -/

inductive StringMatcher
  | exact (s : String)
  | prefixed (s : String)
  | safeRegex (regex : String)
  deriving DecidableEq, Repr

structure HeaderMatcher where
  name : String
  stringMatch : Option StringMatcher
  deriving DecidableEq, Repr

structure QueryParameterMatcher where
  name : String
  stringMatch : Option StringMatcher
  deriving DecidableEq, Repr

inductive PathSpecifier
  | path (s : String)
  | prefixed (s : String)
  | pathSeparatedPrefix (s : String)
  | safeRegex (regex : String)
  deriving DecidableEq, Repr

structure RouteMatch where
  pathSpecifier : PathSpecifier
  headers : List HeaderMatcher
  queryParameters : List QueryParameterMatcher
  deriving DecidableEq, Repr

/-! ## Actions -/

inductive AppendAction
  | appendIfExistsOrAdd
  | overwriteIfExistsOrAdd
  deriving DecidableEq, Repr

structure HeaderValueOption where
  key : String
  value : String
  appendAction : AppendAction
  deriving DecidableEq, Repr

/-- The headers to add to and remove from requests and responses. -/
structure HeaderOptions where
  requestHeadersToAdd : List HeaderValueOption := []
  requestHeadersToRemove : List String := []
  responseHeadersToAdd : List HeaderValueOption := []
  responseHeadersToRemove : List String := []
  deriving DecidableEq, Repr

structure ClusterWeight extends HeaderOptions where
  name : String
  weight : Nat
  deriving DecidableEq, Repr

inductive ClusterSpecifier
  | cluster (name : String)
  | weightedClusters (clusters : List ClusterWeight)
  deriving DecidableEq, Repr

structure RegexMatchAndSubstitute where
  regex : String
  substitution : String
  deriving DecidableEq, Repr

/-- A share of the requests, in percent, that is mirrored to a cluster. -/
structure RequestMirrorPolicy where
  cluster : String
  numerator : Nat
  deriving DecidableEq, Repr

structure RouteAction where
  clusterSpecifier : ClusterSpecifier
  maxStreamDuration : Option Nat := none
  hostRewriteLiteral : Option String := none
  regexRewrite : Option RegexMatchAndSubstitute := none
  prefixRewriteTo : String := ""
  requestMirrorPolicies : List RequestMirrorPolicy := []
  timeout : Option Int := none
  deriving DecidableEq, Repr

inductive SchemeRewrite
  | httpsRedirect
  | schemeRedirect (scheme : String)
  deriving DecidableEq, Repr

inductive PathRewrite
  | prefixRewriteTo (path : String)
  | pathRedirect (path : String)
  deriving DecidableEq, Repr

inductive RedirectResponseCode
  | movedPermanently | found | seeOther | temporaryRedirect | permanentRedirect
  deriving DecidableEq, Repr

structure RedirectAction where
  schemeRewrite : Option SchemeRewrite := none
  hostRedirect : String := ""
  portRedirect : Nat := 0
  responseCode : RedirectResponseCode := .movedPermanently
  pathRewrite : Option PathRewrite := none
  deriving DecidableEq, Repr

structure DirectResponseAction where
  status : Nat
  body : String
  deriving DecidableEq, Repr

inductive Action
  | route (action : RouteAction)
  | redirect (action : RedirectAction)
  | directResponse (action : DirectResponseAction)
  deriving DecidableEq, Repr

/-! ## Route configurations -/

structure Route extends HeaderOptions where
  routeMatch : RouteMatch
  action : Action
  deriving DecidableEq, Repr

/-- A virtual host. A nil pointer among the routes is `none`. -/
structure VirtualHost where
  name : String
  domains : List String
  routes : List (Option Route)
  deriving DecidableEq, Repr

structure RouteConfiguration where
  name : String
  virtualHosts : List VirtualHost
  deriving DecidableEq, Repr

/-! ## Clusters -/

structure UpstreamTlsContext where
  sni : String
  validationSecret : String
  deriving DecidableEq, Repr

/-- A cluster with endpoint discovery for the service `serviceName`. The options of HTTP
    clusters hold their idle timeout in seconds. -/
structure Cluster where
  name : String
  serviceName : String
  connectTimeout : Nat := 5
  roundRobin : Bool := true
  splitExternalLocalOriginErrors : Bool := true
  httpIdleTimeout : Option Int := none
  transportSocket : Option UpstreamTlsContext := none
  deriving DecidableEq, Repr

/-! ## Listeners -/

/-- The network filters that translation uses: an HTTP connection manager, which gets its
    routes from a route configuration, and a TCP proxy to a cluster. -/
inductive Filter
  | httpConnectionManager (statPrefix routeConfigName : String) (trustsXffHops : Bool)
      (internalIpv4 internalIpv6 : Bool)
  | tcpProxy (statPrefix cluster : String)
  deriving DecidableEq, Repr

/-- A filter chain with the transport protocol and server names it matches. The certificates
    of its TLS socket are the names of secrets. -/
structure FilterChain where
  transportProtocol : String := ""
  serverNames : List String := []
  filter : Filter
  transportSocket : List String := []
  deriving DecidableEq, Repr

structure SocketOption where
  level : Nat
  name : Nat
  value : Nat
  deriving DecidableEq, Repr

structure Listener where
  name : String
  portValue : Option Nat := none
  filterChains : List FilterChain
  listenerFilters : List String := []
  socketOptions : List SocketOption := []
  deriving DecidableEq, Repr

/-- A resource of the configuration; the zero value is `empty`. -/
inductive XDSResource
  | empty
  | listener (l : Listener)
  | routeConfiguration (rc : RouteConfiguration)
  | cluster (c : Cluster)
  deriving DecidableEq, Repr

/-! ## Names -/

inductive ResourceType
  | unset | listener | routeConfiguration | cluster
  deriving DecidableEq, Repr

/-- The type and the name of a resource. -/
def XDSResource.key : XDSResource → ResourceType × String
  | .empty => (.unset, "")
  | .listener l => (.listener, l.name)
  | .routeConfiguration rc => (.routeConfiguration, rc.name)
  | .cluster c => (.cluster, c.name)

/-- The names of the route configurations that a filter refers to. -/
def Filter.routeConfigRefs : Filter → List String
  | .httpConnectionManager _ routeConfigName .. => [routeConfigName]
  | .tcpProxy .. => []

/-! ## References to clusters -/

def ClusterSpecifier.clusterRefs : ClusterSpecifier → List String
  | .cluster name => [name]
  | .weightedClusters clusters => clusters.map (·.name)

def RouteAction.clusterRefs (action : RouteAction) : List String :=
  action.clusterSpecifier.clusterRefs ++ action.requestMirrorPolicies.map (·.cluster)

def Action.clusterRefs : Action → List String
  | .route action => action.clusterRefs
  | .redirect _ | .directResponse _ => []

def Route.clusterRefs : Option Route → List String
  | some route => route.action.clusterRefs
  | none => []

def VirtualHost.clusterRefs (vh : VirtualHost) : List String := vh.routes.flatMap Route.clusterRefs

def Filter.clusterRefs : Filter → List String
  | .httpConnectionManager .. => []
  | .tcpProxy _ cluster => [cluster]

/-- The names of the clusters that a resource refers to. -/
def XDSResource.clusterRefs : XDSResource → List String
  | .empty | .cluster _ => []
  | .listener l => l.filterChains.flatMap (·.filter.clusterRefs)
  | .routeConfiguration rc => rc.virtualHosts.flatMap (·.clusterRefs)

end Envoy
