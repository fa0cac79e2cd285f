import Dolphin.Go.Sort
import Dolphin.Translation.VirtualHosts

/-!
# The order of the routes of a virtual host

The routes of a virtual host are sorted by how specific they are, and those that are equally
specific stay in the order of the loop that makes them:

* `sortRoutes_congr`: a virtual host is the same for another order of the model routes, if it
  has those with the same key in the same order, and those equally specific, too.
-/

namespace Translation

open Model Go Envoy List

theorem filter_emissions (deletes : String → Bool) (p : String → Bool) (ks : List String)
    {seen seen' : List String} (hseen : ∀ k, p k = true → (k ∈ seen ↔ k ∈ seen')) :
    (emissions deletes seen ks).filter p = emissions deletes seen' (ks.filter p) := by
  induction ks generalizing seen seen' with
  | nil => rfl
  | cons k ks ih =>
    by_cases hk : p k = true
    · rw [filter_cons_of_pos hk, emissions, emissions]
      by_cases hmem : k ∈ seen
      · rw [if_pos hmem, if_pos ((hseen k hk).1 hmem), ih hseen]
      · rw [if_neg hmem, if_neg (mt (hseen k hk).2 hmem), filter_cons_of_pos hk]
        refine congrArg (k :: ·) (ih fun k' hk' => ?_)
        split_ifs
        · rw [mem_cons, mem_cons, hseen k' hk']
        · exact hseen k' hk'
    · rw [filter_cons_of_neg hk, emissions]
      split_ifs
      · exact ih hseen
      · rw [filter_cons_of_neg hk]
        -- a key that is left out is never asked for
        refine ih fun k' hk' => ?_
        rw [mem_cons, hseen k' hk']
        exact or_iff_right fun heq => hk (heq ▸ hk')
      · rw [filter_cons_of_neg hk]
        exact ih hseen

/-! ## How specific a route is -/

/-- What routes are sorted by: the lengths of an exact path, of a regular expression and of a
    path prefix, and the numbers of headers and of query parameters. -/
def specificity (r : RouteMatch) : List Nat :=
  (match r.pathSpecifier with
    | .path s => [s.utf8ByteSize, 0, 0]
    | .safeRegex s => [0, s.utf8ByteSize, 0]
    | .prefixed s | .pathSeparatedPrefix s => [0, 0, s.utf8ByteSize]) ++
  [r.headers.length, r.queryParameters.length]

theorem routeLess_eq_false {a b : Route} :
    routeLess b a = false ↔ specificity b.routeMatch ≤ specificity a.routeMatch := by
  have hlengths (r : Route) : specificity r.routeMatch = [pathLength r, regexLength r,
      prefixLength r, r.routeMatch.headers.length, r.routeMatch.queryParameters.length] := by
    rw [specificity, pathLength, regexLength, prefixLength]
    cases r.routeMatch.pathSpecifier <;> rfl
  have hless : routeLess b a = true ↔ specificity a.routeMatch < specificity b.routeMatch := by
    simp only [hlengths, cons_lt_cons_iff, not_lt_nil, and_false, or_false, routeLess]
    split_ifs <;> simp only [decide_eq_true_eq] <;> omega
  rw [← not_lt, ← hless, Bool.not_eq_true]

/-- The match of the Envoy route that a model route makes. -/
def matchOf (hostnames : List String) (hostNameSuffixMatch : Bool) (x : Model.HTTPRoute) :
    RouteMatch :=
  getRouteMatch hostnames hostNameSuffixMatch x.pathMatch x.headersMatch x.queryParamsMatch x.method

/-- How specific the Envoy route of a group is, which is decided by its first model route. -/
def groupSpecificity (hostnames : List String) (hostNameSuffixMatch : Bool)
    (httpRoutes : List Model.HTTPRoute) (k : String) : Option (List Nat) :=
  (groupAt httpRoutes k).head?.map fun x => specificity (matchOf hostnames hostNameSuffixMatch x)

theorem specificity_sorted (hostnames : List String) (suffixMatch : Bool) (x : Model.HTTPRoute) :
    specificity (matchOf hostnames suffixMatch x.sorted) =
      specificity (matchOf hostnames suffixMatch x) := by
  simp only [specificity, matchOf, getRouteMatch, getHeaderMatchers, getQueryMatchers,
    HTTPRoute.sorted, sortMatches, length_append, length_map, length_insertionSort]

section

variable {hostnames : List String} {suffixMatch : Bool} {port : Nat}

variable {httpRoutes : List Model.HTTPRoute}

theorem exists_groupSpecificity {x : Model.HTTPRoute} (hx : x ∈ httpRoutes) :
    ∃ f ∈ httpRoutes, f.getMatchKey = x.getMatchKey ∧
      groupSpecificity hostnames suffixMatch httpRoutes x.getMatchKey =
        some (specificity (matchOf hostnames suffixMatch f)) := by
  have hne : httpRoutes.filter (fun r => r.getMatchKey = x.getMatchKey) ≠ [] :=
    ne_nil_of_mem (mem_filter.2 ⟨hx, decide_eq_true rfl⟩)
  obtain ⟨f, rest, hgroup⟩ := exists_cons_of_ne_nil hne
  obtain ⟨hf, hkey⟩ := mem_filter.1 (hgroup ▸ mem_cons_self)
  refine ⟨f, hf, of_decide_eq_true hkey, ?_⟩
  rw [groupSpecificity, groupAt, hgroup, map_cons, head?_cons, Option.map_some, specificity_sorted]

theorem routeMatch_of_emitted {group : List Model.HTTPRoute} {r : Route}
    (h : emitted hostnames suffixMatch port group = .ok (some r)) :
    group.head?.map (matchOf hostnames suffixMatch) = some r.routeMatch := by
  cases group with
  | nil => cases pure_eq_ok.1 h
  | cons first rest =>
    obtain ⟨⟨e, deleted⟩, he, rfl⟩ := map_eq_ok.1 h
    rcases envoyHTTPRoute_cases he with ⟨_, _, he, _⟩ | ⟨_, action, _, he, _⟩
    · obtain ⟨response, _, rfl⟩ := Option.map_eq_some_iff.1 he.symm
      rfl
    · obtain rfl := Option.some_inj.1 he
      rfl

theorem groupSpecificity_of_emitted {k : String} {r : Route}
    (h : emitted hostnames suffixMatch port (groupAt httpRoutes k) = .ok (some r)) :
    groupSpecificity hostnames suffixMatch httpRoutes k = some (specificity r.routeMatch) := by
  have hmatch := congrArg (Option.map specificity) (routeMatch_of_emitted h)
  rwa [Option.map_map] at hmatch

/-- The order of routes matters for those that are equally specific only. -/
theorem sortRoutes_map {ks ks' : List String} {e : String → Option Route}
    {f : String → Option (List Nat)} (hperm : ks.Perm ks')
    (hfilter : ∀ s, ks.filter (f · = s) = ks'.filter (f · = s))
    (hf : ∀ k ∈ ks, ∀ r, e k = some r → f k = some (specificity r.routeMatch)) :
    sortRoutes (ks.map e) = sortRoutes (ks'.map e) := by
  have : Nonempty Route := ⟨{ routeMatch := ⟨.prefixed "/", [], []⟩, action := .redirect {} }⟩
  rw [sortRoutes, sortRoutes, length_map, length_map, hperm.length_eq]
  split_ifs with hlength
  · -- at most one route
    rcases ks' with _ | ⟨k, _ | ⟨k', ks'⟩⟩
    · rw [hperm.eq_nil]
    · rw [hperm.eq_singleton]
    · exact absurd hlength (by simp)
  · rcases mapM_perm deref (hperm.map e) with ⟨r, hr, hr', hderef⟩ | hpanic
    case inr => rw [hpanic]
    rw [hr, hr']
    have hless (a b : Route) : routeLess b a = false ↔ OrderDual.toDual (specificity a.routeMatch) ≤
        OrderDual.toDual (specificity b.routeMatch) := routeLess_eq_false
    have hmap (p : Route → Bool) (s : List Nat)
        (hp : ∀ r, p r = true ↔ specificity r.routeMatch = s) (ks' : List String)
        (h : ∀ k ∈ ks', k ∈ ks) :
        ((ks'.map e).map r).filter p = ((ks'.filter (f · = some s)).map e).map r := by
      rw [map_map, filter_map, map_map]
      refine congrArg _ (filter_congr fun k hk => Bool.eq_iff_iff.2 ((hp _).trans ?_))
      rw [decide_eq_true_iff, hf k (h k hk) _
        (deref_eq_ok.1 (hderef _ (mem_map_of_mem (h k hk)))), Option.some_inj]
      exact Iff.rfl
    refine congrArg (fun l => Except.ok (l.map some))
      (insertionSort_eq_of_filter_eq hless fun s => ?_)
    refine (hmap _ (OrderDual.ofDual s) (fun r => ?_) ks fun k hk => hk).trans ?_
    · exact @decide_eq_true_iff _ (_)
    · rw [hfilter]
      refine (hmap _ _ (fun r => ?_) ks' fun k hk => hperm.mem_iff.2 hk).symm
      exact @decide_eq_true_iff _ (_)

theorem sortRoutes_congr {xs xs' : List Model.HTTPRoute}
    (hkey : ∀ k, xs.filter (fun x => x.getMatchKey = k) = xs'.filter (fun x => x.getMatchKey = k))
    (hspecific : ∀ s,
      xs.filter (fun x => groupSpecificity hostnames suffixMatch xs x.getMatchKey = s) =
        xs'.filter (fun x => groupSpecificity hostnames suffixMatch xs x.getMatchKey = s)) :
    (envoyHTTPRoutes xs hostnames suffixMatch port >>= sortRoutes) =
      (envoyHTTPRoutes xs' hostnames suffixMatch port >>= sortRoutes) := by
  have hgroups : groupAt xs' = groupAt xs := by
    funext k
    rw [groupAt, groupAt, hkey]
  rw [envoyHTTPRoutes_eq, envoyHTTPRoutes_eq, hgroups]
  -- of each specificity, the two loops append for the same keys
  have hkeys (ys : List Model.HTTPRoute) (s : Option (List Nat)) :
      (emissions (fun k => deletesGroup (groupAt xs k)) [] (ys.map (·.getMatchKey))).filter
          (fun k => groupSpecificity hostnames suffixMatch xs k = s) =
        emissions (fun k => deletesGroup (groupAt xs k)) [] ((ys.filter fun x =>
          groupSpecificity hostnames suffixMatch xs x.getMatchKey = s).map
            (·.getMatchKey)) := by
    rw [filter_emissions _ _ _ fun _ _ => Iff.rfl, filter_map]
    rfl
  have hfilter (s : Option (List Nat)) := (hkeys xs s).trans (hspecific s ▸ (hkeys xs' s).symm)
  have hperm := perm_of_filter_eq hfilter
  generalize emissions _ [] (xs.map (·.getMatchKey)) = ks at hfilter hperm ⊢
  generalize emissions _ [] (xs'.map (·.getMatchKey)) = ks' at hfilter hperm ⊢
  rcases mapM_perm (fun k => emitted hostnames suffixMatch port (groupAt xs k))
    hperm with ⟨e, hks, hks', he⟩ | hpanic
  case inr => rw [hpanic]
  rw [hks, hks']
  exact sortRoutes_map hperm hfilter fun k hk r hr =>
    groupSpecificity_of_emitted (hr ▸ he k hk)

theorem newVirtualHost_congr {xs xs' : List Model.HTTPRoute} {param : VirtualHostParameter}
    (hredirect : param.httpsRedirect = false)
    (hkey : ∀ k, xs.filter (fun x => x.getMatchKey = k) = xs'.filter (fun x => x.getMatchKey = k))
    (hspecific : ∀ s, xs.filter (fun x =>
        groupSpecificity param.hostNames param.hostNameSuffixMatch xs x.getMatchKey = s) =
      xs'.filter fun x =>
        groupSpecificity param.hostNames param.hostNameSuffixMatch xs x.getMatchKey = s) :
    newVirtualHost xs param = newVirtualHost xs' param := by
  rw [newVirtualHost, newVirtualHost, hredirect, if_neg Bool.false_ne_true,
    if_neg Bool.false_ne_true, ← bind_assoc, ← bind_assoc, sortRoutes_congr hkey hspecific]

theorem emitted_port {group : List Model.HTTPRoute} (h : ∀ x ∈ group, x.requestRedirect = none)
    (hostnames : List String) (suffixMatch : Bool) (port port' : Nat) :
    emitted hostnames suffixMatch port group = emitted hostnames suffixMatch port' group := by
  cases group with
  | nil => rfl
  | cons first rest =>
    have hnone := h first mem_cons_self
    simp only [emitted, envoyHTTPRoute, groupAction, hnone]

theorem newVirtualHost_port (h : ∀ x ∈ httpRoutes, x.requestRedirect = none) (hosts : List String)
    (redirect suffixMatch : Bool) (port port' : Nat) :
    newVirtualHost httpRoutes ⟨hosts, redirect, suffixMatch, port⟩ =
      newVirtualHost httpRoutes ⟨hosts, redirect, suffixMatch, port'⟩ := by
  have hroutes : envoyHTTPRoutes httpRoutes hosts suffixMatch port =
      envoyHTTPRoutes httpRoutes hosts suffixMatch port' := by
    rw [envoyHTTPRoutes_eq, envoyHTTPRoutes_eq]
    refine mapM_congr fun k _ => emitted_port (fun x hx => ?_) _ _ _ _
    obtain ⟨x', hx', rfl⟩ := mem_map.1 hx
    exact h x' (mem_filter.1 hx').1
  simp only [newVirtualHost, hroutes]

end

end Translation
