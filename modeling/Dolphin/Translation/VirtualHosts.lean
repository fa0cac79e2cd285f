import Dolphin.Translation.Routes

/-!
# Virtual hosts

A virtual host (`newVirtualHost`) holds the Envoy routes made from model routes, sorted by
how specific their match is, and the domains of its host names.

Translation makes one virtual host for one host name: its name is the host name, its
domains are those of `hostDomains`, and its routes are those made from the model routes, in
another order (`newVirtualHost_eq_ok`). The domains of different host names have nothing
in common (`disjoint_hostDomains`), as long as no colon is in them.
-/

namespace Translation

open Model Go Envoy

variable {httpRoutes : List Model.HTTPRoute}

/-! ## The order of routes -/

def pathLength (r : Route) : Nat :=
  match r.routeMatch.pathSpecifier with
  | .path s => s.utf8ByteSize
  | _ => 0

def regexLength (r : Route) : Nat :=
  match r.routeMatch.pathSpecifier with
  | .safeRegex s => s.utf8ByteSize
  | _ => 0

def prefixLength (r : Route) : Nat :=
  match r.routeMatch.pathSpecifier with
  | .prefixed s | .pathSeparatedPrefix s => s.utf8ByteSize
  | _ => 0

/-- `SortableRoute.Less`: longer exact matches first, then longer regular expressions, longer
    prefixes, more headers and more query parameters. -/
def routeLess (a b : Route) : Bool :=
  if pathLength a ≠ pathLength b then pathLength a > pathLength b
  else if regexLength a ≠ regexLength b then regexLength a > regexLength b
  else if prefixLength a ≠ prefixLength b then prefixLength a > prefixLength b
  else if a.routeMatch.headers.length ≠ b.routeMatch.headers.length then
    a.routeMatch.headers.length > b.routeMatch.headers.length
  else a.routeMatch.queryParameters.length > b.routeMatch.queryParameters.length

/-- `sort.Stable`, which looks at every route when there are at least two, and so panics if
    one of them is nil. -/
def sortRoutes (routes : List (Option Route)) : Result (List (Option Route)) :=
  if routes.length < 2 then pure routes
  else do
    let rs ← routes.mapM deref
    pure ((rs.insertionSort fun a b => routeLess b a = false).map some)

theorem mem_sortRoutes {routes sorted : List (Option Route)} (h : sortRoutes routes = .ok sorted)
    {e : Option Route} : e ∈ sorted ↔ e ∈ routes := by
  rw [sortRoutes] at h
  split_ifs at h
  · rw [pure_eq_ok.1 h]
  · obtain ⟨rs, hrs, h⟩ := bind_pure_eq_ok.1 h
    rw [← h, List.mem_map]
    simp only [List.mem_insertionSort, mem_mapM hrs, deref_eq_ok]
    constructor
    · rintro ⟨r, ⟨x, hx, rfl⟩, rfl⟩
      exact hx
    · intro he
      obtain ⟨r, hr⟩ := exists_mapM_eq_ok.1 ⟨rs, hrs⟩ e he
      rw [deref_eq_ok] at hr
      exact ⟨r, ⟨e, he, hr⟩, hr.symm⟩

/-! ## Virtual hosts -/

structure VirtualHostParameter where
  hostNames : List String
  httpsRedirect : Bool
  hostNameSuffixMatch : Bool
  listenerPort : Nat

/-- The domains of host names, with and without a port. The loop ends at a lone wildcard,
    which replaces the domains so far. -/
def addDomains : List String → List String → List String
  | domains, [] => domains
  | domains, host :: rest =>
    if host = "*" then ["*"] else addDomains (domains ++ [host, joinHostPort host "*"]) rest

def newVirtualHost (httpRoutes : List Model.HTTPRoute) (param : VirtualHostParameter) :
    Result VirtualHost := do
  let routes ←
    if param.httpsRedirect then
      pure (envoyHTTPSRoutes httpRoutes param.hostNames param.hostNameSuffixMatch)
    else
      envoyHTTPRoutes httpRoutes param.hostNames param.hostNameSuffixMatch param.listenerPort
  let routes ← sortRoutes routes
  let domains := addDomains [] param.hostNames
  let name ← deref domains.head?
  pure ⟨name, domains, routes⟩

def hostDomains (h : String) : List String :=
  if h = "*" then ["*"] else [h, joinHostPort h "*"]

theorem head_hostDomains (h : String) : (hostDomains h).head? = some h := by
  rw [hostDomains]
  split_ifs with hstar
  · rw [hstar]
    rfl
  · rfl

theorem newVirtualHost_eq_ok {h : String} {suffixMatch : Bool} {port : Nat} {vh : VirtualHost} :
    newVirtualHost httpRoutes ⟨[h], false, suffixMatch, port⟩ = .ok vh ↔
      ∃ routes sorted, envoyHTTPRoutes httpRoutes [h] suffixMatch port = .ok routes ∧
        sortRoutes routes = .ok sorted ∧ vh = ⟨h, hostDomains h, sorted⟩ := by
  have hdomains : addDomains [] [h] = hostDomains h := rfl
  simp only [newVirtualHost, Bool.false_eq_true, if_false, bind_eq_ok, hdomains, head_hostDomains,
    deref_some, Except.ok.injEq, exists_eq_left', pure_eq_ok, eq_comm (a := vh)]
  constructor
  · rintro ⟨routes, hroutes, sorted, hsorted, hvh⟩
    exact ⟨routes, sorted, hroutes, hsorted, hvh⟩
  · rintro ⟨routes, sorted, hroutes, hsorted, hvh⟩
    exact ⟨routes, hroutes, sorted, hsorted, hvh⟩

theorem name_newVirtualHost {h : String} {redirect : Bool} {suffixMatch : Bool} {port : Nat}
    {vh : VirtualHost} (hvh : newVirtualHost httpRoutes ⟨[h], redirect, suffixMatch, port⟩ = .ok vh) :
    vh.name = h ∧ vh.domains = hostDomains h := by
  have hdomains : addDomains [] [h] = hostDomains h := rfl
  simp only [newVirtualHost, hdomains, head_hostDomains, deref_some] at hvh
  split_ifs at hvh
  all_goals
    obtain ⟨_, _, hvh⟩ := bind_eq_ok.1 hvh
    obtain ⟨_, _, hvh⟩ := bind_pure_eq_ok.1 hvh
    rw [← hvh]
    exact ⟨rfl, rfl⟩

theorem mem_newVirtualHost {param : VirtualHostParameter} {vh : VirtualHost}
    (h : newVirtualHost httpRoutes param = .ok vh) {e : Option Route} (he : e ∈ vh.routes) :
    e ∈ envoyHTTPSRoutes httpRoutes param.hostNames param.hostNameSuffixMatch ∨
      ∃ routes, envoyHTTPRoutes httpRoutes param.hostNames param.hostNameSuffixMatch
        param.listenerPort = .ok routes ∧ e ∈ routes := by
  have hsorted {routes : List (Option Route)} (h : (sortRoutes routes >>= fun sorted =>
      deref (addDomains [] param.hostNames).head? >>= fun name =>
        pure (⟨name, addDomains [] param.hostNames, sorted⟩ : VirtualHost)) = .ok vh) :
      e ∈ routes := by
    obtain ⟨sorted, hsorted, h⟩ := bind_eq_ok.1 h
    obtain ⟨name, _, h⟩ := bind_pure_eq_ok.1 h
    rw [← h] at he
    exact (mem_sortRoutes hsorted).1 he
  rw [newVirtualHost] at h
  cases hredirect : param.httpsRedirect with
  | true =>
    rw [hredirect, if_pos rfl] at h
    exact .inl (hsorted h)
  | false =>
    rw [hredirect, if_neg Bool.false_ne_true] at h
    obtain ⟨routes, hroutes, h⟩ := bind_eq_ok.1 h
    exact .inr ⟨routes, hroutes, hsorted h⟩

theorem disjoint_hostDomains {a b : String} (ha : ':' ∉ a.toList) (hb : ':' ∉ b.toList)
    (hne : a ≠ b) : (hostDomains a).Disjoint (hostDomains b) := by
  have hcases {h d : String} (hd : d ∈ hostDomains h) : d = h ∨ d = joinHostPort h "*" := by
    rw [hostDomains] at hd
    split_ifs at hd with hstar
    · rw [List.mem_singleton.1 hd, hstar]
      exact .inl rfl
    · simpa using hd
  intro d hda hdb
  rcases hcases hda with rfl | rfl <;> rcases hcases hdb with h | h
  · exact hne h
  · exact joinHostPort_ne ha hb "*" h
  · exact joinHostPort_ne hb ha "*" h.symm
  · exact hne (joinHostPort_inj ha hb h)

end Translation
