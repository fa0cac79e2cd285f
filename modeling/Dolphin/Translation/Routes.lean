import Mathlib.Algebra.Group.Int.Defs
import Dolphin.Envoy.Types
import Dolphin.Go.Maps
import Dolphin.Go.Panic
import Dolphin.Model.Types

/-!
# Envoy routes

Translation of the routes of the model to Envoy routes (`envoyHTTPRoutes`). Model routes
that match the same requests, which is to say with the same match key, are merged: the
first of them makes the match, all of them together make the backends.

`GetMatchKey` sorts the matches of a route in place, so that what is translated are the
sorted routes (`HTTPRoute.sorted`).

The loop goes over the model routes in their order, and takes those with the same match key
together when it meets the first of them. What it appends depends on the model routes with the
key only (`emitted`), so that the loop can be told by the keys for which it appends something
(`emissions`, `envoyHTTPRoutes_eq`). A group that only responds is not deleted, and appended for
each of its model routes. In any case an Envoy route was made by the iteration for some model
route from the group of model routes with the same key (`mem_envoyHTTPRoutes`).
-/

namespace Translation

open Model Go Envoy List

variable {hostnames : List String} {suffixMatch : Bool} {port : Nat}
  {httpRoutes : List Model.HTTPRoute}

variable {route : Model.HTTPRoute}

/-! ## Matches -/

def getEnvoyStringMatcher (s : StringMatch) : Option StringMatcher :=
  if s.exact ≠ "" then some (.exact s.exact)
  else if s.prefixed ≠ "" then some (.prefixed s.prefixed)
  else if s.regex ≠ "" then some (.safeRegex s.regex)
  else none

def getQueryMatchers (query : List KeyValueMatch) : List QueryParameterMatcher :=
  query.map fun q => ⟨q.key, getEnvoyStringMatcher q.valueMatch⟩

def getMatchingHeaderRegex (host : String) : String :=
  if hasPrefix host "*." then
    "^" ++ "[^.]" ++ "+" ++ "[.]" ++ replaceChar (trimPrefix host "*.") '.' "[.]" ++ "$"
  else "^" ++ replaceChar host '.' "[.]" ++ "$"

def getHeaderMatchers (hostnames : List String) (hostNameSuffixMatch : Bool)
    (headers : List KeyValueMatch) (method : Option String) : List HeaderMatcher :=
  let authority :=
    if hostNameSuffixMatch then []
    else (hostnames.filter fun host => host ≠ "" && host ≠ "*" && containsChar host '*').map
      fun host => ⟨":authority", some (.safeRegex (getMatchingHeaderRegex host))⟩
  authority ++ headers.map (fun h => ⟨h.key, getEnvoyStringMatcher h.valueMatch⟩) ++
    method.toList.map fun m => ⟨":method", some (.exact m.toUpper)⟩

def getPathSpecifier (pathMatch : StringMatch) : PathSpecifier :=
  if pathMatch.exact ≠ "" then .path pathMatch.exact
  else if pathMatch.prefixed = "/" then .prefixed pathMatch.prefixed
  else if pathMatch.prefixed ≠ "" then .pathSeparatedPrefix (trimSuffix pathMatch.prefixed "/")
  else if pathMatch.regex ≠ "" then .safeRegex pathMatch.regex
  else .prefixed "/"

def getRouteMatch (hostnames : List String) (hostNameSuffixMatch : Bool) (pathMatch : StringMatch)
    (headers query : List KeyValueMatch) (method : Option String) : RouteMatch where
  pathSpecifier := getPathSpecifier pathMatch
  headers := getHeaderMatchers hostnames hostNameSuffixMatch headers method
  queryParameters := getQueryMatchers query

/-! ## Headers -/

def getHeadersToAdd (filter : Option HttpHeaderFilter) : List HeaderValueOption :=
  match filter with
  | none => []
  | some f => f.headersToAdd.map (fun h => ⟨h.name, h.value, .appendIfExistsOrAdd⟩) ++
      f.headersToSet.map fun h => ⟨h.name, h.value, .overwriteIfExistsOrAdd⟩

def getHeadersToRemove (filter : Option HttpHeaderFilter) : List String :=
  match filter with
  | none => []
  | some f => f.headersToRemove

/-- The header options for the filters of requests and responses. -/
def headerOptions (request response : Option HttpHeaderFilter) : HeaderOptions where
  requestHeadersToAdd := getHeadersToAdd request
  requestHeadersToRemove := getHeadersToRemove request
  responseHeadersToAdd := getHeadersToAdd response
  responseHeadersToRemove := getHeadersToRemove response

/-- The filter of a backend is added to the header options. -/
def addBackendFilter (o : HeaderOptions) (f : BackendHttpFilter) : HeaderOptions where
  requestHeadersToAdd := o.requestHeadersToAdd ++ getHeadersToAdd f.requestHeaderFilter
  requestHeadersToRemove := o.requestHeadersToRemove ++ getHeadersToRemove f.requestHeaderFilter
  responseHeadersToAdd := o.responseHeadersToAdd ++ getHeadersToAdd f.responseHeaderModifier
  responseHeadersToRemove :=
    o.responseHeadersToRemove ++ getHeadersToRemove f.responseHeaderModifier

/-! ## Actions -/

def getClusterName (ns name port : String) : String := ns ++ ":" ++ name ++ ":" ++ port

/-- The cluster of a backend; one without a port panics. -/
def backendCluster (be : Backend) : Result String := do
  let port ← deref be.port
  pure (getClusterName be.ns be.name port.getPort)

def hostRewriteMutation (rewrite : Option HTTPURLRewriteFilter) (action : RouteAction) :
    RouteAction :=
  match rewrite.bind (·.hostName) with
  | none => action
  | some host => { action with hostRewriteLiteral := some host }

def pathPrefixMutation (rewrite : Option HTTPURLRewriteFilter) (httpRoute : Model.HTTPRoute)
    (action : RouteAction) : RouteAction :=
  match rewrite.bind (·.path) with
  | none => action
  | some path =>
    if path.exact ≠ "" ∨ path.regex ≠ "" then action
    else if path.prefixed = "" ∨ path.prefixed = "/" then
      let pattern := "^" ++ quoteMeta httpRoute.pathMatch.prefixed ++ "(/?)(.*)"
      -- the slash is kept in case the entire path is removed
      { action with regexRewrite := some { regex := pattern, substitution := "/\\2" } }
    else { action with prefixRewriteTo := path.prefixed }

def pathFullReplaceMutation (rewrite : Option HTTPURLRewriteFilter) (action : RouteAction) :
    RouteAction :=
  match rewrite.bind (·.path) with
  | none => action
  | some path =>
    if path.exact = "" then action
    else { action with regexRewrite := some ⟨"^/.*$", path.exact⟩ }

/-- The mirror policies; a mirror without a backend is skipped. -/
def requestMirrorMutation (mirrors : List HttpRequestMirror) (action : RouteAction) :
    Result RouteAction := do
  let policies ← (mirrors.filterMap (·.backend)).mapM fun be => do
    let cluster ← backendCluster be
    pure (⟨cluster, 100⟩ : RequestMirrorPolicy)
  if mirrors.isEmpty then pure action
  else pure { action with requestMirrorPolicies := policies }

def timeoutMutation (backend request : Option Int) (action : RouteAction) : RouteAction :=
  match backend, request with
  | none, none => action
  | some b, none => { action with timeout := some b }
  | none, some r => { action with timeout := some r }
  | some b, some r => { action with timeout := some (if r < b then r else b) }

/-- The mutations of `getRouteAction`, in their order. -/
def mutateAction (route : Model.HTTPRoute) (action : RouteAction) : Result RouteAction := do
  let action := hostRewriteMutation route.rewrite action
  let action := pathPrefixMutation route.rewrite route action
  let action := pathFullReplaceMutation route.rewrite action
  let action ← requestMirrorMutation route.requestMirrors action
  pure (timeoutMutation route.timeout.backend route.timeout.request action)

/-- One of several backends. The last filter for a cluster counts, as in a map by name. -/
def clusterWeight (filters : List BackendHttpFilter) (be : Backend) : Result ClusterWeight := do
  let name ← backendCluster be
  let options := match filters.reverse.find? (·.name == name) with
    | some f => addBackendFilter {} f
    | none => {}
  pure
    { toHeaderOptions := options
      name := name
      -- a conversion from int32 to uint32
      weight := (be.weight.getD 1 % 2 ^ 32).toNat }

def getRouteAction (route : Model.HTTPRoute) (backends : List Backend) : Result RouteAction :=
  match backends with
  | [be] => do
    let cluster ← backendCluster be
    mutateAction route { clusterSpecifier := .cluster cluster, maxStreamDuration := some 0 }
  | _ => do
    let clusters ← backends.mapM (clusterWeight route.backendHttpFilters)
    mutateAction route { clusterSpecifier := .weightedClusters clusters }

def toRedirectResponseCode (statusCode : Int) : RedirectResponseCode :=
  if statusCode = 302 then .found
  else if statusCode = 303 then .seeOther
  else if statusCode = 307 then .temporaryRedirect
  else if statusCode = 308 then .permanentRedirect
  else .movedPermanently

def getRouteRedirect (redirect : Model.HTTPRequestRedirectFilter) (listenerPort : Nat) :
    RedirectAction where
  schemeRewrite := redirect.scheme.map .schemeRedirect
  hostRedirect := redirect.hostname.getD ""
  portRedirect :=
    match redirect.port, redirect.scheme with
    | some port, _ => (port % 2 ^ 32).toNat
    | none, some scheme => if scheme = "https" then 443 else if scheme = "http" then 80 else 0
    | none, none => listenerPort
  responseCode := (redirect.statusCode.map toRedirectResponseCode).getD .movedPermanently
  pathRewrite :=
    match redirect.path with
    | none => none
    | some path =>
      if path.exact ≠ "" then some (.pathRedirect path.exact)
      else if path.prefixed ≠ "" then some (.prefixRewriteTo path.prefixed)
      else none

/-! ## Routes -/

/-- A route for model routes without a backend, nil if they give no response either. -/
def envoyHTTPRouteNoBackend (route : Model.HTTPRoute) (hostnames : List String)
    (hostNameSuffixMatch : Bool) : Option Route :=
  route.directResponse.map fun response =>
    { routeMatch := getRouteMatch hostnames hostNameSuffixMatch route.pathMatch route.headersMatch
        route.queryParamsMatch route.method
      action := .directResponse ⟨response.statusCode, response.body⟩ }

/-- The action of a route for model routes with a backend or a redirect. -/
def groupAction (first route : Model.HTTPRoute) (backends : List Backend) (listenerPort : Nat) :
    Result Action :=
  match first.requestRedirect with
  | some redirect => pure (.redirect (getRouteRedirect redirect listenerPort))
  | none => .route <$> getRouteAction route backends

/-- The headers of such a route; those of the backends only if there is a single one. -/
def groupHeaders (first : Model.HTTPRoute) (backends : List Backend) : HeaderOptions :=
  let options := headerOptions first.requestHeaderFilter first.responseHeaderModifier
  if backends.length = 1 then first.backendHttpFilters.foldl addBackendFilter options else options

/-- The iteration for `route`, whose match key is that of the model routes `first :: rest`:
    the Envoy route that it appends, and whether it deletes the key. -/
def envoyHTTPRoute (hostnames : List String) (hostNameSuffixMatch : Bool) (listenerPort : Nat)
    (first : Model.HTTPRoute) (rest : List Model.HTTPRoute) (route : Model.HTTPRoute) :
    Result (Option Route × Bool) :=
  let backends := (first :: rest).flatMap (·.backends)
  if backends.isEmpty && first.requestRedirect.isNone then
    -- the key stays, so that the next model route with the same key gets here again
    pure (envoyHTTPRouteNoBackend first hostnames hostNameSuffixMatch, false)
  else do
    let action ← groupAction first route backends listenerPort
    pure (some
      { toHeaderOptions := groupHeaders first backends
        routeMatch := getRouteMatch hostnames hostNameSuffixMatch first.pathMatch
          first.headersMatch first.queryParamsMatch first.method
        action := action }, true)

/-- The model routes by match key. -/
def matchBackendMap (httpRoutes : List Model.HTTPRoute) : Go.Map String (List Model.HTTPRoute) :=
  httpRoutes.foldl (fun m r => m.appendAt r.getMatchKey r) ∅

/-- The loop over the model routes: the keys left, and the Envoy routes so far. -/
def envoyHTTPRoutesStep (hostnames : List String) (hostNameSuffixMatch : Bool) (listenerPort : Nat)
    (acc : Go.Map String (List Model.HTTPRoute) × List (Option Route)) (r : Model.HTTPRoute) :
    Result (Go.Map String (List Model.HTTPRoute) × List (Option Route)) :=
  match acc.1.get? r.getMatchKey with
  | none | some [] => pure acc
  | some (first :: rest) => do
    let (route, deleted) ←
      envoyHTTPRoute hostnames hostNameSuffixMatch listenerPort first rest r
    pure (if deleted then acc.1.delete r.getMatchKey else acc.1, acc.2 ++ [route])

def envoyHTTPRoutes (httpRoutes : List Model.HTTPRoute) (hostnames : List String)
    (hostNameSuffixMatch : Bool) (listenerPort : Nat) : Result (List (Option Route)) :=
  let httpRoutes := httpRoutes.map (·.sorted)
  Prod.snd <$> httpRoutes.foldlM
    (envoyHTTPRoutesStep hostnames hostNameSuffixMatch listenerPort)
    (matchBackendMap httpRoutes, [])

/-- The loop of `envoyHTTPSRoutes`, for which a key is there until its first model route. The
    matches of headers and query parameters are swapped. -/
def envoyHTTPSRoutes (httpRoutes : List Model.HTTPRoute) (hostnames : List String)
    (hostNameSuffixMatch : Bool) : List (Option Route) :=
  let httpRoutes := httpRoutes.map (·.sorted)
  (httpRoutes.foldl
    (fun (acc : Go.Map String (List Model.HTTPRoute) × List (Option Route)) r =>
      match acc.1.get? r.getMatchKey with
      | none | some [] => acc
      | some (first :: _) =>
        (acc.1.delete r.getMatchKey, acc.2 ++ [some
          { routeMatch := getRouteMatch hostnames hostNameSuffixMatch first.pathMatch
              first.queryParamsMatch first.headersMatch first.method
            action := .redirect { schemeRewrite := some .httpsRedirect } }]))
    (matchBackendMap httpRoutes, [])).2

/-! ## What the iteration for a group does -/

/-- The mutations other than the last one leave alone where an action forwards to, and how long
    it waits. -/
def SameForward (action action' : RouteAction) : Prop :=
  action'.clusterSpecifier = action.clusterSpecifier ∧ action'.timeout = action.timeout

section

variable (rewrite : Option HTTPURLRewriteFilter)

theorem sameForward_hostRewriteMutation (action : RouteAction) :
    SameForward action (hostRewriteMutation rewrite action) := by
  rw [hostRewriteMutation]
  split <;> exact ⟨rfl, rfl⟩

theorem sameForward_pathPrefixMutation (route : Model.HTTPRoute) (action : RouteAction) :
    SameForward action (pathPrefixMutation rewrite route action) := by
  rw [pathPrefixMutation]
  split
  · exact ⟨rfl, rfl⟩
  · split_ifs <;> exact ⟨rfl, rfl⟩

theorem sameForward_pathFullReplaceMutation (action : RouteAction) :
    SameForward action (pathFullReplaceMutation rewrite action) := by
  rw [pathFullReplaceMutation]
  split
  · exact ⟨rfl, rfl⟩
  · split_ifs <;> exact ⟨rfl, rfl⟩

end

variable {action : RouteAction}

theorem sameForward_requestMirrorMutation {mirrors : List HttpRequestMirror} {action' : RouteAction}
    (h : requestMirrorMutation mirrors action = .ok action') :
    SameForward action action' := by
  obtain ⟨policies, _, h⟩ := bind_eq_ok.1 h
  split_ifs at h
  · rw [← pure_eq_ok.1 h]
    exact ⟨rfl, rfl⟩
  · rw [← pure_eq_ok.1 h]
    exact ⟨rfl, rfl⟩

/-- The smaller of the timeouts that are set. -/
def smallerTimeout : Option Int → Option Int → Option Int
  | none, none => none
  | some b, none => some b
  | none, some r => some r
  | some b, some r => some (if r < b then r else b)

theorem timeoutMutation_spec (backend request : Option Int) (hnone : action.timeout = none) :
    (timeoutMutation backend request action).clusterSpecifier = action.clusterSpecifier ∧
      (timeoutMutation backend request action).timeout = smallerTimeout backend request := by
  cases backend with
  | none => cases request with
    | none => exact ⟨rfl, hnone⟩
    | some r => exact ⟨rfl, rfl⟩
  | some b => cases request with
    | none => exact ⟨rfl, rfl⟩
    | some r => exact ⟨rfl, rfl⟩

theorem mutateAction_spec {action' : RouteAction} (h : mutateAction route action = .ok action')
    (hnone : action.timeout = none) :
    action'.clusterSpecifier = action.clusterSpecifier ∧
      action'.timeout = smallerTimeout route.timeout.backend route.timeout.request := by
  obtain ⟨mirrored, hmirrored, rfl⟩ := bind_pure_eq_ok.1 h
  obtain ⟨hcluster, htimeout⟩ := sameForward_requestMirrorMutation hmirrored
  rw [(sameForward_pathFullReplaceMutation _ _).1, (sameForward_pathPrefixMutation _ _ _).1,
    (sameForward_hostRewriteMutation _ _).1] at hcluster
  rw [(sameForward_pathFullReplaceMutation _ _).2, (sameForward_pathPrefixMutation _ _ _).2,
    (sameForward_hostRewriteMutation _ _).2, hnone] at htimeout
  obtain ⟨hspecifier, hsmaller⟩ := timeoutMutation_spec route.timeout.backend
    route.timeout.request htimeout
  exact ⟨hspecifier.trans hcluster, hsmaller⟩

/-- A single backend is forwarded to as it is, several ones by their weights. -/
theorem getRouteAction_spec {backends : List Backend}
    (h : getRouteAction route backends = .ok action) :
    action.timeout = smallerTimeout route.timeout.backend route.timeout.request ∧
      ((∃ be cluster, backends = [be] ∧ backendCluster be = .ok cluster ∧
        action.clusterSpecifier = .cluster cluster) ∨
      (backends.length ≠ 1 ∧ ∃ clusters,
        backends.mapM (clusterWeight route.backendHttpFilters) = .ok clusters ∧
        action.clusterSpecifier = .weightedClusters clusters)) := by
  unfold getRouteAction at h
  split at h
  · rename_i be
    obtain ⟨cluster, hcluster, h⟩ := bind_eq_ok.1 h
    obtain ⟨hspecifier, htimeout⟩ := mutateAction_spec h rfl
    exact ⟨htimeout, .inl ⟨be, cluster, rfl, hcluster, hspecifier⟩⟩
  · rename_i hne
    obtain ⟨clusters, hclusters, h⟩ := bind_eq_ok.1 h
    obtain ⟨hspecifier, htimeout⟩ := mutateAction_spec h rfl
    refine ⟨htimeout, .inr ⟨fun hone => ?_, clusters, hclusters, hspecifier⟩⟩
    obtain ⟨be, rfl⟩ := length_eq_one_iff.1 hone
    exact hne be rfl

section

variable {first route : Model.HTTPRoute} {rest : List Model.HTTPRoute} {e : Option Route}
  {deleted : Bool}

/-- The iteration for a group without backends and redirect responds, that for another group
    takes an action and deletes the key. -/
theorem envoyHTTPRoute_cases
    (h : envoyHTTPRoute hostnames suffixMatch port first rest route = .ok (e, deleted)) :
    ((first :: rest).flatMap (·.backends) = [] ∧ first.requestRedirect = none ∧
      e = envoyHTTPRouteNoBackend first hostnames suffixMatch ∧ deleted = false) ∨
    (¬ ((first :: rest).flatMap (·.backends) = [] ∧ first.requestRedirect = none) ∧
      ∃ action, groupAction first route ((first :: rest).flatMap (·.backends)) port = .ok action ∧
      e = some
        { toHeaderOptions := groupHeaders first ((first :: rest).flatMap (·.backends))
          routeMatch := getRouteMatch hostnames suffixMatch first.pathMatch
            first.headersMatch first.queryParamsMatch first.method
          action := action } ∧ deleted = true) := by
  rw [envoyHTTPRoute] at h
  by_cases hnone : (first :: rest).flatMap (·.backends) = [] ∧ first.requestRedirect = none
  · rw [if_pos (by simp [hnone.1, hnone.2])] at h
    obtain ⟨rfl, rfl⟩ := Prod.mk.inj (pure_eq_ok.1 h)
    exact .inl ⟨hnone.1, hnone.2, rfl, rfl⟩
  · rw [if_neg (by simpa only [Bool.and_eq_true, List.isEmpty_iff, Option.isNone_iff_eq_none]
      using hnone)] at h
    obtain ⟨action, haction, h⟩ := bind_eq_ok.1 h
    obtain ⟨rfl, rfl⟩ := Prod.mk.inj (pure_eq_ok.1 h)
    exact .inr ⟨hnone, action, haction, rfl, rfl⟩

theorem envoyHTTPRoute_forwards {r : Route}
    (h : envoyHTTPRoute hostnames suffixMatch port first rest route = .ok (some r, deleted))
    (haction : r.action = .route action) :
    getRouteAction route ((first :: rest).flatMap (·.backends)) = .ok action ∧
      r.toHeaderOptions = groupHeaders first ((first :: rest).flatMap (·.backends)) := by
  rcases envoyHTTPRoute_cases h with ⟨_, _, he, _⟩ | ⟨_, action', haction', he, _⟩
  · -- a response does not forward
    obtain ⟨response, _, rfl⟩ := Option.map_eq_some_iff.1 he.symm
    cases haction
  · obtain rfl := Option.some_inj.1 he
    obtain rfl : action' = .route action := haction
    refine ⟨?_, rfl⟩
    rw [groupAction] at haction'
    split at haction'
    · cases haction'
    · obtain ⟨_, hroute, heq⟩ := map_eq_ok.1 haction'
      rwa [← Action.route.inj heq]

end

/-! ## Where Envoy routes come from -/

/-- The model routes with a match key, as `GetMatchKey` leaves them. -/
def groupAt (httpRoutes : List Model.HTTPRoute) (k : String) : List Model.HTTPRoute :=
  (httpRoutes.filter fun r => r.getMatchKey = k).map (·.sorted)

/-- The Envoy route `e` was made by the iteration for `r` from the model routes that match the
    same requests. -/
def MadeBy (httpRoutes : List Model.HTTPRoute) (hostnames : List String)
    (hostNameSuffixMatch : Bool) (listenerPort : Nat) (r : Model.HTTPRoute) (e : Option Route) :
    Prop :=
  ∃ first rest deleted, groupAt httpRoutes r.getMatchKey = first :: rest ∧
    envoyHTTPRoute hostnames hostNameSuffixMatch listenerPort first rest r.sorted = .ok (e, deleted)

section

variable {r : Model.HTTPRoute}

theorem mem_groupAt {k : String} {x : Model.HTTPRoute} : x ∈ groupAt httpRoutes k ↔
      ∃ r' ∈ httpRoutes, r'.getMatchKey = k ∧ r'.sorted = x := by
  simp [groupAt, and_assoc]

theorem get?_matchBackendMap (httpRoutes : List Model.HTTPRoute) (k : String) :
    (matchBackendMap (httpRoutes.map (·.sorted))).get? k =
      if groupAt httpRoutes k = [] then none else some (groupAt httpRoutes k) := by
  have hgroup : (httpRoutes.map (·.sorted)).filter (fun r => r.getMatchKey = k) =
      groupAt httpRoutes k := by
    rw [filter_map, groupAt]
    congr 1
    refine filter_congr fun r _ => ?_
    simp
  rw [matchBackendMap, Map.get?_foldl_appendAt (fun r : Model.HTTPRoute => r.getMatchKey)
    (fun r => r), hgroup, map_id']

theorem exists_groupAt (hr : r ∈ httpRoutes) :
    ∃ first rest, groupAt httpRoutes r.getMatchKey = first :: rest :=
  exists_cons_of_ne_nil (ne_nil_of_mem (mem_map_of_mem (mem_filter.2 ⟨hr, decide_eq_true rfl⟩)))

end

/-! ## The loop by keys -/

/-- The keys for which the loop over `ks` appends a route, when the keys of `seen` are deleted
    already. -/
def emissions (deletes : String → Bool) : List String → List String → List String
  | _, [] => []
  | seen, k :: ks =>
    if k ∈ seen then emissions deletes seen ks
    else k :: emissions deletes (if deletes k then k :: seen else seen) ks

theorem mem_emissions {k : String} {deletes : String → Bool} {ks seen : List String} :
    k ∈ emissions deletes seen ks ↔ k ∈ ks ∧ k ∉ seen := by
  induction ks generalizing seen with
  | nil => simp [emissions]
  | cons k' ks ih =>
    rw [emissions]
    split_ifs with hseen <;> grind

/-- An iteration that looks the group of a model route up, makes a route of it with `make` and may
    delete its key. -/
def groupStep (make : Model.HTTPRoute → List Model.HTTPRoute → Model.HTTPRoute →
      Result (Option Route × Bool))
    (acc : Go.Map String (List Model.HTTPRoute) × List (Option Route)) (r : Model.HTTPRoute) :
    Result (Go.Map String (List Model.HTTPRoute) × List (Option Route)) :=
  match acc.1.get? r.getMatchKey with
  | none | some [] => pure acc
  | some (first :: rest) => do
    let (route, deleted) ← make first rest r
    pure (if deleted then acc.1.delete r.getMatchKey else acc.1, acc.2 ++ [route])

/-- A loop of such iterations, if what is made does not depend on the model route unless it is the
    first of its group. -/
theorem foldlM_groupStep
    {make : Model.HTTPRoute → List Model.HTTPRoute → Model.HTTPRoute →
      Result (Option Route × Bool)} {deletes : String → Bool} {out : String → Result (Option Route)}
    (hmake : ∀ r ∈ httpRoutes, ∀ first rest, groupAt httpRoutes r.getMatchKey = first :: rest →
      (deletes r.getMatchKey = true → r.sorted = first) →
      make first rest r.sorted = (·, deletes r.getMatchKey) <$> out r.getMatchKey) :
    Prod.snd <$> (httpRoutes.map (·.sorted)).foldlM (groupStep make)
        (matchBackendMap (httpRoutes.map (·.sorted)), []) =
      (emissions deletes [] (httpRoutes.map (·.getMatchKey))).mapM out := by
  -- the table lacks the keys of `seen`; what is deleted later is still to come
  have hloop (after : List Model.HTTPRoute) (hafter : ∀ r ∈ after, r ∈ httpRoutes)
      (seen : List String) (acc : Go.Map String (List Model.HTTPRoute) × List (Option Route))
      (hget : ∀ k, acc.1.get? k =
        if k ∈ seen ∨ groupAt httpRoutes k = [] then none else some (groupAt httpRoutes k))
      (hlater : ∀ k, k ∉ seen → deletes k = true → groupAt after k = groupAt httpRoutes k) :
      Prod.snd <$> (after.map (·.sorted)).foldlM (groupStep make) acc =
        (acc.2 ++ ·) <$> (emissions deletes seen (after.map (·.getMatchKey))).mapM out := by
    induction after generalizing seen acc with
    | nil => exact congrArg Except.ok (append_nil _).symm
    | cons r after ih =>
      have ih := ih fun r' hr' => hafter r' (mem_cons_of_mem _ hr')
      have hr := hafter r mem_cons_self
      have hother {k : String} (hk : r.getMatchKey ≠ k) : groupAt (r :: after) k = groupAt after k := by
        rw [groupAt, groupAt, filter_cons_of_neg (by simpa using hk)]
      obtain ⟨first, rest, hgroup⟩ := exists_groupAt hr
      rw [map_cons, map_cons, foldlM_cons, emissions, groupStep, HTTPRoute.getMatchKey_sorted, hget]
      by_cases hmem : r.getMatchKey ∈ seen
      · rw [if_pos (.inl hmem), if_pos hmem]
        refine ih seen acc hget fun k hk hdeletes => ?_
        rw [← hlater k hk hdeletes, hother fun heq : r.getMatchKey = k => hk (heq ▸ hmem)]
      · have hfirst (hdeletes : deletes r.getMatchKey = true) : r.sorted = first := by
          have hhead := (hlater _ hmem hdeletes).trans hgroup
          rw [groupAt, filter_cons_of_pos (by simp), map_cons] at hhead
          exact (List.cons.inj hhead).1
        rw [if_neg (not_or.2 ⟨hmem, hgroup ▸ cons_ne_nil _ _⟩), if_neg hmem, mapM_cons, hgroup]
        simp only [hmake r hr first rest hgroup hfirst]
        cases out r.getMatchKey with
        | error e => rfl
        | ok e =>
          -- the routes so far are followed by the one of this iteration
          have hfollow (es : Result (List (Option Route))) :
              (acc.2 ++ [e] ++ ·) <$> es = (acc.2 ++ ·) <$> (es >>= fun es => pure (e :: es)) := by
            cases es with
            | error e' => rfl
            | ok es => exact congrArg Except.ok (append_assoc _ _ _)
          cases hdeletes : deletes r.getMatchKey with
          | false =>
            refine (ih seen (acc.1, acc.2 ++ [e]) hget fun k hk hk' => ?_).trans (hfollow _)
            rw [← hlater k hk hk', hother fun heq => ?_]
            rw [← heq, hdeletes] at hk'
            exact Bool.false_ne_true hk'
          | true =>
            refine (ih (r.getMatchKey :: seen) (acc.1.delete r.getMatchKey, acc.2 ++ [e])
              (fun k => ?_) fun k hk hk' => ?_).trans (hfollow _)
            · rw [Map.get?_delete, hget]
              by_cases hk : k = r.getMatchKey
              · rw [if_pos hk, if_pos (.inl (mem_cons.2 (.inl hk)))]
              · simp only [hk, mem_cons, false_or, if_false]
            · obtain ⟨hne, hk⟩ := not_or.1 (mt mem_cons.2 hk)
              rw [← hlater k hk hk', hother (Ne.symm hne)]
  refine (hloop httpRoutes (fun _ hr => hr) [] _ (fun k => ?_) fun _ _ _ => rfl).trans (id_map _)
  simp only [get?_matchBackendMap, not_mem_nil, false_or]

/-- The loop deletes the key of a group that forwards or redirects. -/
def deletesGroup : List Model.HTTPRoute → Bool
  | [] => true
  | first :: rest =>
    !(((first :: rest).flatMap (·.backends)).isEmpty && first.requestRedirect.isNone)

/-- What the loop appends for a group. -/
def emitted (hostnames : List String) (hostNameSuffixMatch : Bool) (listenerPort : Nat) :
    List Model.HTTPRoute → Result (Option Route)
  | [] => pure none
  | first :: rest =>
    Prod.fst <$> envoyHTTPRoute hostnames hostNameSuffixMatch listenerPort first rest first

/-- A group that is not deleted responds, whatever model route the iteration is for. -/
theorem envoyHTTPRoute_eq {first : Model.HTTPRoute} {rest : List Model.HTTPRoute}
    (h : deletesGroup (first :: rest) = true → route = first) :
    envoyHTTPRoute hostnames suffixMatch port first rest route =
      (·, deletesGroup (first :: rest)) <$>
        emitted hostnames suffixMatch port (first :: rest) := by
  rw [emitted, envoyHTTPRoute, envoyHTTPRoute]
  by_cases hnone : (((first :: rest).flatMap (·.backends)).isEmpty &&
      first.requestRedirect.isNone) = true
  · have hstays : deletesGroup (first :: rest) = false := by rw [deletesGroup, hnone]; rfl
    rw [if_pos hnone, if_pos hnone, hstays]
    rfl
  · have hdeletes : deletesGroup (first :: rest) = true := by
      rw [deletesGroup, Bool.eq_false_iff.2 hnone]
      rfl
    rw [h hdeletes, if_neg hnone, hdeletes]
    cases groupAction first first ((first :: rest).flatMap (·.backends)) port <;> rfl

/-- The loop appends what the groups of the keys give. -/
theorem envoyHTTPRoutes_eq : envoyHTTPRoutes httpRoutes hostnames suffixMatch port =
      (emissions (fun k => deletesGroup (groupAt httpRoutes k)) []
        (httpRoutes.map (·.getMatchKey))).mapM fun k =>
          emitted hostnames suffixMatch port (groupAt httpRoutes k) := by
  refine foldlM_groupStep fun r _ first rest hgroup hfirst => ?_
  rw [hgroup] at hfirst ⊢
  exact envoyHTTPRoute_eq hfirst

theorem mem_envoyHTTPRoutes {es : List (Option Route)}
    (h : envoyHTTPRoutes httpRoutes hostnames suffixMatch port = .ok es)
    {e : Option Route} (he : e ∈ es) :
    ∃ r ∈ httpRoutes, MadeBy httpRoutes hostnames suffixMatch port r e := by
  rw [envoyHTTPRoutes_eq] at h
  obtain ⟨k, hk, hemitted⟩ := (mem_mapM h).1 he
  obtain ⟨r, hr, rfl⟩ := mem_map.1 (mem_emissions.1 hk).1
  obtain ⟨first, rest, hgroup⟩ := exists_groupAt hr
  rw [hgroup] at hemitted
  obtain ⟨⟨e, deleted⟩, he, rfl⟩ := map_eq_ok.1 hemitted
  -- the group is that of its first model route
  obtain ⟨r', hr', rfl⟩ := mem_map.1 (hgroup ▸ mem_cons_self : first ∈ groupAt httpRoutes _)
  obtain ⟨hr', hkey⟩ := mem_filter.1 hr'
  rw [← of_decide_eq_true hkey] at hgroup
  exact ⟨r', hr', _, rest, deleted, hgroup, he⟩

end Translation
