import Dolphin.Reconcile.Checks
import Dolphin.Reconcile.RouteStatus
import Dolphin.Reconcile.ListenerSets

/-!
# The checks of routes

The reconcilers of TLSRoutes and GRPCRoutes set the condition Accepted for every parentRef, and
then run five checks of the Gateway that it names, one after the other, each of which may set
the condition again and end the sequence. Checks of the backends follow, which only concern the
condition ResolvedRefs.

The reconciler of Gateways makes the statuses of all HTTPRoutes itself (`setHTTPRouteStatus`).
Entries that this controller has written for parents that the route no longer has are removed,
the route is accepted for every parentRef that leads to a Gateway of this controller, and if
the route is invalid, it is not accepted for any entry of the status.
-/

namespace Reconcile

open Gatewayv1 Go Ingestion

/-- The host names that the checks ask a route for. -/
def getHostnames : Route → List String
  | .http r => r.hostnames
  | .grpc r => r.hostnames
  | .tls r => r.hostnames
  | .tcp _ | .udp _ => []

/-- An error of the API server. -/
structure APIError where
  notFound : Bool
  message : String
  deriving DecidableEq, Repr

/-- The answers of the API server to the checks, the errors of `regexp.Compile`, and the clock. -/
structure RouteAPI extends Cluster where
  getGateway : NamespacedName → Except APIError Gateway
  getGatewayClass : String → Except APIError GatewayClass
  getListenerSet : NamespacedName → Except APIError ListenerSet
  getService : NamespacedName → Except APIError Unit
  compileRegexp : String → Except String Unit
  now : Nat

/-- A cluster with one Gateway, of this controller, and all Services. Every regular expression is
    valid. -/
def RouteAPI.ofGateway (gw : Gateway) : RouteAPI where
  namespaces := []
  labelSelectorAsSelector _ := some fun _ => false
  names_nodup := List.nodup_nil
  getGateway _ := .ok gw
  getGatewayClass name := .ok ⟨name, gatewayControllerName⟩
  getListenerSet _ := .error ⟨true, "not found"⟩
  getService _ := .ok ()
  compileRegexp _ := .ok ()
  now := 0

/-- What a check does: the conditions that it sets, in turn, and whether the checks go on, or an
    error. No check reads a condition. -/
structure CheckOutcome where
  conditions : List Condition := []
  continueCheck : Except String Bool
  deriving Inhabited

section

variable (api : RouteAPI) (route : Route) (parentRef : ParentReference)

/-- The object that a parentRef of the route names. -/
def parentKey : NamespacedName :=
  ⟨namespaceDerefOr parentRef.ns route.toCommonRoute.ns, parentRef.name⟩

/-- `GetGateway` of the checks, with its error message. The kind of the parentRef does not
    matter. -/
def parentGateway : Except String Gateway :=
  (api.getGateway (parentKey route parentRef)).mapError fun err =>
    if err.notFound then "gateway \"" ++ parentRef.name ++ "\" does not exist: " ++ err.message
    else "error while getting gateway: " ++ err.message

/-- The beginning of each check. -/
def withGateway (check : Gateway → Result CheckOutcome) : Result CheckOutcome :=
  match parentGateway api route parentRef with
  | .error message =>
    pure ⟨[⟨"Accepted", .false, "Invalid" ++ route.kind, message, 0, 0⟩], .ok false⟩
  | .ok gw => check gw

/-- The condition of a route that is not allowed. -/
def notAllowedByListeners (restrictions : String) : Condition :=
  ⟨"Accepted", .false, "NotAllowedByListeners",
    route.kind ++ " is not allowed to attach to this Gateway due to " ++ restrictions, 0, 0⟩

/-- Whether the check of the namespaces looks at the listener at all. -/
def concerns (listener : Listener) : Bool :=
  sectionMatches listener parentRef && parentRef.port.all (· == listener.port) &&
    (listener.hostname.isNone ||
      Model.computeHosts (getHostnames route) listener.hostname ≠ [])

/-- The loop of the check of the namespaces. A selector decides at once, for all listeners. -/
def namespaceLoop (gw : Gateway) :
    (hasNamespaceRestriction : Bool) → List Listener → Result CheckOutcome
  | hasNamespaceRestriction, [] =>
    -- without a restriction no condition is set, but the checks do not go on either
    pure ⟨if hasNamespaceRestriction then
      [notAllowedByListeners route "namespace restrictions"] else [], .ok false⟩
  | hasNamespaceRestriction, listener :: rest =>
    if !concerns route parentRef listener then namespaceLoop gw hasNamespaceRestriction rest
    else match listener.allowedRoutes.bind (·.namespaces) with
      | none => namespaceLoop gw hasNamespaceRestriction rest
      | some namespaces => do
        let fromNamespaces ← deref namespaces.fromNamespaces
        match fromNamespaces with
        | .all => pure ⟨[], .ok true⟩
        | .same =>
          if route.toCommonRoute.ns = gw.ns then pure ⟨[], .ok true⟩ else namespaceLoop gw true rest
        | .selector =>
          match api.listNamespaces namespaces.selector with
          | none => pure ⟨[], .error "unable to list namespaces"⟩
          | some nsList =>
            let selected := nsList.any (·.name == route.toCommonRoute.ns)
            pure ⟨if selected then []
              else [notAllowedByListeners route "namespace selector restrictions"], .ok selected⟩
        | _ => namespaceLoop gw true rest

def checkGatewayAllowedForNamespace : Result CheckOutcome :=
  withGateway api route parentRef fun gw => namespaceLoop api route parentRef gw false gw.listeners

/-- Whether the kinds of a listener, if it has any, list that of the route. -/
def listsKind (listener : Listener) : Bool :=
  let kinds := (listener.allowedRoutes.bind (·.kinds)).getD []
  kinds.isEmpty || kinds.any fun kind =>
    kind.group.all (· == route.getGVK.group) && kind.kind == route.getGVK.kind

/-- Every listener has to allow the kind, whether the parentRef covers it or not. -/
def checkGatewayRouteKindAllowed : Result CheckOutcome :=
  withGateway api route parentRef fun gw => pure <|
    if gw.listeners.all (listsKind route) then ⟨[], .ok true⟩
    else ⟨[notAllowedByListeners route "route kind restrictions"], .ok false⟩

def checkGatewayMatchingPorts : Result CheckOutcome :=
  withGateway api route parentRef fun gw => pure <|
    match parentRef.port with
    | none => ⟨[], .ok true⟩
    | some port =>
      if gw.listeners.any (·.port == port) then ⟨[], .ok true⟩
      else ⟨[⟨"Accepted", .false, "NoMatchingParent",
        "No matching listener with port " ++ toString port, 0, 0⟩], .ok false⟩

def checkGatewayMatchingHostnames : Result CheckOutcome :=
  withGateway api route parentRef fun gw => pure <|
    if computeHosts gw (getHostnames route) = [] then
      ⟨[⟨"Accepted", .false, "NoMatchingListenerHostname", "No matching listener hostname", 0, 0⟩],
        .ok false⟩
    else ⟨[], .ok true⟩

def checkGatewayMatchingSection : Result CheckOutcome :=
  withGateway api route parentRef fun gw => pure <|
    match parentRef.sectionName with
    | none => ⟨[], .ok true⟩
    | some sectionName =>
      if gw.listeners.any (·.name == sectionName) then ⟨[], .ok true⟩
      else ⟨[⟨"Accepted", .false, "NoMatchingParent",
        "No matching listener with sectionName " ++ sectionName, 0, 0⟩], .ok false⟩

/-- Run checks until one of them ends the sequence. -/
def runChecks : List (Result CheckOutcome) → Result CheckOutcome
  | [] => pure ⟨[], .ok true⟩
  | check :: rest => do
    let outcome ← check
    match outcome.continueCheck with
    | .ok true =>
      let more ← runChecks rest
      pure ⟨outcome.conditions ++ more.conditions, more.continueCheck⟩
    | _ => pure outcome

/-- The checks of the Gateway that a parentRef names. -/
def gatewayChecks : Result CheckOutcome :=
  runChecks
    [checkGatewayAllowedForNamespace api route parentRef,
      checkGatewayRouteKindAllowed api route parentRef,
      checkGatewayMatchingPorts api route parentRef,
      checkGatewayMatchingHostnames api route parentRef,
      checkGatewayMatchingSection api route parentRef]

end

/-! ## The checks of the backends -/

section

variable (api : RouteAPI) (route : Route)

/-- The condition of a backend that is not resolved. -/
def backendUnresolved (reason message : String) : Condition :=
  ⟨"ResolvedRefs", .false, reason, message, 0, 0⟩

/-- A kind that is not set is dereferenced if only the group is wrong. -/
def checkServiceRef (outcome : CheckOutcome) (be : BackendObjectReference) : Result CheckOutcome :=
  if !isService be then do
    let kind ← deref be.kind
    pure ⟨outcome.conditions ++
      [backendUnresolved "InvalidKind" ("Unsupported backend kind " ++ kind)], .ok false⟩
  else if be.port.isNone then
    pure ⟨outcome.conditions ++
      [backendUnresolved "InvalidKind" "Must have port for Service reference"], .ok false⟩
  else pure outcome

def checkBackendIsService : Result CheckOutcome :=
  route.getBackendRefs.foldlM checkServiceRef ⟨[], .ok true⟩

def existingServiceLoop : List BackendObjectReference → CheckOutcome
  | [] => ⟨[], .ok true⟩
  | be :: rest =>
    match api.getService ⟨namespaceDerefOr be.ns route.toCommonRoute.ns, be.name⟩ with
    | .ok _ => existingServiceLoop rest
    | .error err =>
      if err.notFound then
        let more := existingServiceLoop rest
        ⟨backendUnresolved "BackendNotFound" err.message :: more.conditions, more.continueCheck⟩
      else ⟨[], .error err.message⟩

def checkBackendIsExistingService : Result CheckOutcome :=
  pure (existingServiceLoop api route route.getBackendRefs)

def backendChecks (grants : List ReferenceGrant) : Result CheckOutcome :=
  runChecks
    [let (continueChecks, conditions) := checkAgainstCrossNamespaceBackendReferences route grants
     pure ⟨conditions, .ok continueChecks⟩, checkBackendIsService route,
      checkBackendIsExistingService api route]

end

/-! ## The reconcilers -/

/-- The conditions that a reconciler sets, in turn, and the error that it returns. -/
structure RouteRun where
  writes : List StatusWrite := []
  err : Option String := none

section

variable (api : RouteAPI) (route : Route)

def acceptedRoute : Condition := ⟨"Accepted", .true, "Accepted", "Accepted " ++ route.kind, 0, 0⟩

def resolvedRefs : Condition :=
  ⟨"ResolvedRefs", .true, "ResolvedRefs", "Service reference is valid", 0, 0⟩

/-- What the reconcilers put before the errors of the checks. -/
def gatewayCheckFailed : Route → String
  | .grpc _ => "failed to apply Gateway check: "
  | _ => "failed to apply route check: "

def backendCheckFailed : Route → String
  | .grpc _ => "failed to apply Backend check: "
  | _ => "failed to apply Gateway check: "

/-- The error that the checks of the backends make the reconciler return. That of GRPCRoutes takes
    a check that does not go on for an error. -/
def backendErr : Route → Except String Bool → Option String
  | route, .error message => some (backendCheckFailed route ++ message)
  | .grpc gr, .ok false => some (backendCheckFailed (.grpc gr) ++ "%!w(<nil>)")
  | _, .ok _ => none

/-- The iteration for a parentRef. An error ends the loop, and the reconciler. -/
def checkParent (run : RouteRun) (parent : ParentReference) : Result RouteRun :=
  if run.err.isSome then pure run
  else do
    let outcome ← gatewayChecks api route parent
    pure
      { writes := run.writes ++ [⟨parent, acceptedRoute route⟩] ++
          setAllParentCondition route.toCommonRoute.parentRefs resolvedRefs ++
          outcome.conditions.map fun condition => ⟨parent, condition⟩
        err := match outcome.continueCheck with
          | .error message => some (gatewayCheckFailed route ++ message)
          | .ok _ => none }

/-- The reconciler of a TLSRoute or GRPCRoute. -/
def reconcileRoute (grants : List ReferenceGrant) : Result RouteRun := do
  let run ← route.toCommonRoute.parentRefs.foldlM (checkParent api route) {}
  if run.err.isSome then pure run
  else
    let outcome ← backendChecks api route grants
    pure
      { writes := run.writes ++ outcome.conditions.flatMap fun condition =>
          setAllParentCondition route.toCommonRoute.parentRefs condition
        err := backendErr route outcome.continueCheck }

/-- The status that a reconciler has made of that of the route. It is written if it differs from
    the one before, also if the reconciler returns an error. -/
def RouteRun.parents (run : RouteRun) : List RouteParentStatus :=
  setParentConditions api.now route.toCommonRoute.generation run.writes
    route.toCommonRoute.parents

end

def tlsrouteReconcile (api : RouteAPI) (tr : TLSRoute) (grants : List ReferenceGrant) :
    Result RouteRun :=
  reconcileRoute api (.tls tr) grants

def grpcrouteReconcile (api : RouteAPI) (gr : GRPCRoute) (grants : List ReferenceGrant) :
    Result RouteRun :=
  reconcileRoute api (.grpc gr) grants

/-! ## The statuses of HTTPRoutes -/

/-- Remove the entries of this controller for parentRefs that the route does not have. -/
def pruneRouteParentStatuses (parents : List RouteParentStatus)
    (currentParentRefs : List ParentReference) (controllerName : String) :
    List RouteParentStatus :=
  parents.filter fun parentStatus => parentStatus.controllerName ≠ controllerName ||
    currentParentRefs.contains parentStatus.parentRef

/-! ## Validation -/

/-- The condition of a route with a value that is not supported. -/
def unsupportedValue (message : String) : Condition :=
  ⟨"Accepted", .false, "UnsupportedValue", message, 0, 0⟩

def invalidHeaderModifierCondition (headerName : String) : Condition :=
  unsupportedValue ("Invalid header modifier: \"" ++ headerName ++ "\" header is not supported")

def validateHeaderFilters : List HTTPRouteFilter → Result (Option Condition)
  | [] => pure none
  | f :: rest =>
    if f.type = .requestHeaderModifier then do
      let modifier ← deref f.requestHeaderModifier
      if modifier.set.any (·.name == "Host") then
        pure (some (invalidHeaderModifierCondition "Host"))
      else validateHeaderFilters rest
    else validateHeaderFilters rest

def validateHeaderModifier (hr : HTTPRoute) : Result (Option Condition) :=
  validateHeaderFilters (hr.rules.flatMap (·.filters))

def invalidRegexCondition (field err : String) : Condition :=
  unsupportedValue ("Invalid regular expression in " ++ field ++ " match: " ++ err)

/-- The regular expressions of a match, with the fields they are in. -/
def matchRegexps (routeMatch : HTTPRouteMatch) : List (String × String) :=
  let values (field : String) (ms : List ValueMatch) :=
    (ms.filter fun m => m.type = some .regularExpression).map fun m => (field, m.value)
  (match routeMatch.path with
    | some ⟨some .regularExpression, some value⟩ => [("path", value)]
    | _ => []) ++ values "header" routeMatch.headers ++ values "queryParam" routeMatch.queryParams

def validateMatchRegexps (api : RouteAPI) (hr : HTTPRoute) : Option Condition :=
  ((hr.rules.flatMap (·.routeMatches)).flatMap matchRegexps).findSome? fun (field, value) =>
    match api.compileRegexp value with
    | .ok _ => none
    | .error err => some (invalidRegexCondition field err)

/-! ## The pass -/

section

variable (api : RouteAPI) (hr : HTTPRoute)

/-- `GatewayHasMatchingControllerFn`. -/
def hasMatchingController (gw : Gateway) : Bool :=
  match api.getGatewayClass gw.gatewayClassName with
  | .ok gwc => gwc.controllerName == gatewayControllerName
  | .error _ => false

def parentIsMatchingGateway (parent : ParentReference) : Bool :=
  match api.getGateway (parentKey (.http hr) parent) with
  | .ok gw => hasMatchingController api gw
  | .error _ => false

/-- The Gateway of the ListenerSet that a parentRef names. -/
def parentIsMatchingListenerSet (parent : ParentReference) : Bool :=
  match api.getListenerSet (parentKey (.http hr) parent) with
  | .ok ls =>
    let (ns, name) := listenerSetParentGateway ls
    match api.getGateway ⟨ns, name⟩ with
    | .ok gw => hasMatchingController api gw
    | .error _ => false
  | .error _ => false

def setInitialRouteConditions (parent : ParentReference) : List StatusWrite :=
  [⟨parent, acceptedRoute (.http hr)⟩, ⟨parent, resolvedRefs⟩]

/-- `runCommonRouteChecks`, for a parentRef. -/
def runCommonRouteChecks (parent : ParentReference) : List StatusWrite :=
  if isGateway parent then
    if parentIsMatchingGateway api hr parent then setInitialRouteConditions hr parent else []
  else if isListenerSet parent then
    if parentIsMatchingListenerSet api hr parent then setInitialRouteConditions hr parent else []
  else []

/-- If the route is invalid, the condition is set for all entries of the status. -/
def invalidate (cond : Option Condition) (parents : List RouteParentStatus) : List StatusWrite :=
  match cond with
  | some cond => parents.map fun parent => ⟨parent.parentRef, cond⟩
  | none => []

/-- The status with which the pass starts. -/
def prunedParents : List RouteParentStatus :=
  pruneRouteParentStatuses hr.parents hr.parentRefs gatewayControllerName

/-- The conditions that the pass sets. -/
def httpRouteWrites : Result (List StatusWrite) := do
  let status := fun ws => setParentConditions api.now hr.generation ws (prunedParents hr)
  let ws := hr.parentRefs.flatMap (runCommonRouteChecks api hr)
  let headerModifier ← validateHeaderModifier hr
  let ws := ws ++ invalidate headerModifier (status ws)
  pure (ws ++ invalidate (validateMatchRegexps api hr) (status ws))

/-- The iteration of `setHTTPRouteStatuses` for a route: its status afterwards. -/
def setHTTPRouteStatus : Result (List RouteParentStatus) := do
  let ws ← httpRouteWrites api hr
  pure (setParentConditions api.now hr.generation ws (prunedParents hr))

end

/-- The routes with the statuses that were made. -/
def setHTTPRouteStatuses (api : RouteAPI) (httpRoutes : List HTTPRoute) : Result (List HTTPRoute) :=
  httpRoutes.mapM fun hr => do
    let parents ← setHTTPRouteStatus api hr
    pure { hr with parents := parents }

/-- What `Reconcile` works with, after its own pass over the HTTPRoutes that it has listed. -/
def setRouteStatuses (api : RouteAPI) (listing : Listing) : Result Listing := do
  let httpRoutes ← setHTTPRouteStatuses api listing.httpRoutes
  pure { listing with httpRoutes := httpRoutes }

end Reconcile
