import Mathlib.Data.List.ReduceOption
import Dolphin.Envoy.Requests
import Dolphin.Translation.MatchGroups

/-!
# The first match is the most specific one

Envoy takes the first route of a virtual host that matches a request, so that the order of the
routes decides. `SortableRoute.Less` compares how specific two routes are, which is a strict
weak order, and the sort is stable. Hence the route taken is one of the most specific that
match, and the first of those in the order in which they are made (`firstIsMostSpecific`), be
they redirects to HTTPS or not. That no route is nil, with which the sort could not do, needs
every model route to have backends, a redirect or a response.

Where the key of a model route tells what it matches, the same can be said of the model routes:
the route taken is that of the group of the one that counts (`firstMatch_of_served`).
-/

namespace Translation

open Model Go Envoy List

variable {httpRoutes : List Model.HTTPRoute}

/-- The routes that a virtual host sorts, in the order in which they are made. -/
def generatedRoutes (httpRoutes : List Model.HTTPRoute) (param : VirtualHostParameter) :
    Result (List (Option Route)) :=
  if param.httpsRedirect then
    pure (envoyHTTPSRoutes httpRoutes param.hostNames param.hostNameSuffixMatch)
  else envoyHTTPRoutes httpRoutes param.hostNames param.hostNameSuffixMatch param.listenerPort

theorem newVirtualHost_eq (httpRoutes : List Model.HTTPRoute) (param : VirtualHostParameter) :
    newVirtualHost httpRoutes param = (do
      let routes ← sortRoutes (← generatedRoutes httpRoutes param)
      let name ← deref (addDomains [] param.hostNames).head?
      pure ⟨name, addDomains [] param.hostNames, routes⟩) := by
  rw [newVirtualHost, generatedRoutes]
  cases param.httpsRedirect <;> rfl

/-- The route that Envoy takes for a request. -/
def firstMatch (engine : RegexEngine) (routes : List (Option Route)) (req : Request) :
    Option Route :=
  routes.reduceOption.find? (·.routeMatch.accepts engine req)

/-- The route taken for a request is the most specific one of those that match it, and of these
    the one that was made first. No other route than one for an exact path is taken if there is
    one that matches. -/
structure FirstIsMostSpecific (engine : RegexEngine) (generated routes : List (Option Route)) :
    Prop where
  exists_iff (req : Request) : (firstMatch engine routes req).isSome ↔
    ∃ r, some r ∈ generated ∧ r.routeMatch.accepts engine req
  greatest {req : Request} {r : Route} : firstMatch engine routes req = some r →
    ∀ r', some r' ∈ generated → r'.routeMatch.accepts engine req →
      specificity r'.routeMatch ≤ specificity r.routeMatch
  earliest {req : Request} {r : Route} : firstMatch engine routes req = some r →
    generated.reduceOption.find? (fun r' => r'.routeMatch.accepts engine req &&
      decide (specificity r'.routeMatch = specificity r.routeMatch)) = some r
  exact_path {req : Request} {r : Route} : firstMatch engine routes req = some r →
    (∃ r' path, some r' ∈ generated ∧ r'.routeMatch.accepts engine req ∧
      r'.routeMatch.pathSpecifier = .path path) →
    ∃ path, r.routeMatch.pathSpecifier = .path path

theorem reduceOption_map_some (rs : List Route) : (rs.map some).reduceOption = rs := by
  simp [List.reduceOption]

section

variable {param : VirtualHostParameter} {gen : List (Option Route)}

theorem isStrictWeakOrder_routeLess : IsStrictWeakOrder Route fun a b => routeLess a b = true := by
  have hless (a b : Route) : routeLess a b = true ↔
      specificity b.routeMatch < specificity a.routeMatch := by
    rw [← not_le, ← routeLess_eq_false, Bool.not_eq_false]
  refine { irrefl := fun a => ?_, trans := fun a b c => ?_, incomp_trans := fun a b c => ?_ }
  · rw [hless]
    exact lt_irrefl _
  · rw [hless, hless, hless]
    exact fun hab hbc => hbc.trans hab
  · simp only [hless, not_lt]
    exact fun hab hbc => ⟨hab.1.trans hbc.1, hbc.2.trans hab.2⟩

theorem sortRoutes_map_some (rs : List Route) : sortRoutes (rs.map some) =
      .ok ((rs.insertionSort fun a b => routeLess b a = false).map some) := by
  have hderef : (rs.map some).mapM deref = .ok rs := by
    rw [mapM_eq_ok, forall₂_map_left_iff, forall₂_same]
    exact fun _ _ => rfl
  rw [sortRoutes]
  split_ifs with hlength
  · obtain _ | ⟨r, _ | ⟨r', rs⟩⟩ := rs
    · rfl
    · rfl
    · exact absurd hlength (by simp)
  · rw [hderef]
    rfl

theorem exists_map_some (hsome : ∀ e ∈ gen, ∃ r, e = some r) :
    ∃ rs : List Route, rs.map some = gen := by
  have hrange : gen ∈ Set.range (List.map some) := by
    rw [Set.range_list_map]
    exact fun e he => (hsome e he).imp fun _ h => h.symm
  exact hrange

theorem exists_getRouteMatch (hgen : generatedRoutes httpRoutes param = .ok gen) {r : Route}
    (hr : some r ∈ gen) : ∃ pathMatch headers query method, r.routeMatch =
      getRouteMatch param.hostNames param.hostNameSuffixMatch pathMatch headers query method := by
  rw [generatedRoutes] at hgen
  split_ifs at hgen
  · rw [← pure_eq_ok.1 hgen, envoyHTTPSRoutes_eq, mem_map] at hr
    obtain ⟨k, _, hk⟩ := hr
    obtain ⟨first, _, rfl⟩ := Option.map_eq_some_iff.1 hk
    exact ⟨_, _, _, _, rfl⟩
  · rw [envoyHTTPRoutes_eq] at hgen
    obtain ⟨k, _, hk⟩ := (mem_mapM hgen).1 hr
    obtain ⟨first, _, hmatch⟩ := Option.map_eq_some_iff.1 (routeMatch_of_emitted hk)
    exact ⟨_, _, _, _, hmatch.symm⟩

theorem isSome_of_generated
    (hroutes : ∀ x ∈ httpRoutes, x.backends ≠ [] ∨ x.requestRedirect.isSome ∨
      x.directResponse.isSome)
    (hgen : generatedRoutes httpRoutes param = .ok gen) : ∀ e ∈ gen, ∃ r, e = some r := by
  intro e he
  rw [generatedRoutes] at hgen
  split_ifs at hgen
  · rw [← pure_eq_ok.1 hgen, envoyHTTPSRoutes_eq, mem_map] at he
    obtain ⟨k, hk, rfl⟩ := he
    obtain ⟨first, rest, hgroup⟩ := exists_cons_of_ne_nil (groupAt_ne_nil.2 hk)
    rw [hgroup]
    exact ⟨_, rfl⟩
  · obtain ⟨x, _, first, rest, deleted, hgroup, hmade⟩ := mem_envoyHTTPRoutes hgen he
    rcases envoyHTTPRoute_cases hmade with ⟨hnone, hredirect, rfl, _⟩ | ⟨_, action, _, rfl, _⟩
    · -- the first model route of the group has no backend and no redirect
      obtain ⟨x', hx', _, rfl⟩ := mem_groupAt.1 (hgroup ▸ mem_cons_self)
      have hbackends : x'.backends = [] :=
        append_eq_nil_iff.1 (flatMap_cons ▸ hnone) |>.1
      rcases hroutes x' hx' with hne | hsome | hsome
      · exact absurd hbackends hne
      · rw [show x'.requestRedirect = none from hredirect] at hsome
        cases hsome
      · obtain ⟨response, hresponse⟩ := Option.isSome_iff_exists.1 hsome
        rw [envoyHTTPRouteNoBackend, show x'.sorted.directResponse = _ from hresponse]
        exact ⟨_, rfl⟩
    · exact ⟨_, rfl⟩

theorem exists_path_of_le {r r' : RouteMatch} {path : String}
    (hle : specificity r' ≤ specificity r) (hpath : r'.pathSpecifier = .path path)
    (hne : path ≠ "") : ∃ path, r.pathSpecifier = .path path := by
  have hlength : 0 < path.utf8ByteSize :=
    Nat.pos_of_ne_zero fun hzero => hne (String.utf8ByteSize_eq_zero_iff.1 hzero)
  rw [specificity, hpath, specificity] at hle
  cases hr : r.pathSpecifier with
  | path s => exact ⟨s, rfl⟩
  | prefixed s | pathSeparatedPrefix s | safeRegex s =>
    rw [hr] at hle
    exact absurd hle (not_le.2 (cons_lt_cons_iff.2 (.inl hlength)))

theorem firstIsMostSpecific (engine : RegexEngine)
    (hroutes : ∀ x ∈ httpRoutes, x.backends ≠ [] ∨ x.requestRedirect.isSome ∨
      x.directResponse.isSome)
    (hgen : generatedRoutes httpRoutes param = .ok gen) :
    IsStrictWeakOrder Route (fun a b => routeLess a b = true) ∧
      ∃ routes, sortRoutes gen = .ok routes ∧ routes.Perm gen ∧ (∀ e ∈ routes, ∃ r, e = some r) ∧
        newVirtualHost httpRoutes param = (do
          let name ← deref (addDomains [] param.hostNames).head?
          pure ⟨name, addDomains [] param.hostNames, routes⟩) ∧
        FirstIsMostSpecific engine gen routes := by
  refine ⟨isStrictWeakOrder_routeLess, ?_⟩
  have hsome := isSome_of_generated hroutes hgen
  have hpath {r : Route} (hr : some r ∈ gen) {path : String}
      (h : r.routeMatch.pathSpecifier = .path path) : path ≠ "" := by
    obtain ⟨_, _, _, _, hmatch⟩ := exists_getRouteMatch hgen hr
    rw [hmatch, getRouteMatch, getPathSpecifier] at h
    split_ifs at h with hexact
    rw [← PathSpecifier.path.inj h]
    exact hexact
  obtain ⟨rs, rfl⟩ := exists_map_some hsome
  refine ⟨_, sortRoutes_map_some rs, (perm_insertionSort _ _).map some, ?_, ?_, ?_⟩
  · intro e he
    obtain ⟨r, _, rfl⟩ := mem_map.1 he
    exact ⟨r, rfl⟩
  · rw [newVirtualHost_eq, hgen]
    change (sortRoutes (rs.map some) >>= _) = _
    rw [sortRoutes_map_some]
    rfl
  · have hless (a b : Route) : routeLess b a = false ↔ OrderDual.toDual (specificity a.routeMatch) ≤
        OrderDual.toDual (specificity b.routeMatch) := routeLess_eq_false
    have hspec {req : Request} {r : Route} (h : firstMatch engine ((rs.insertionSort fun a b =>
        routeLess b a = false).map some) req = some r) := by
      rw [firstMatch, reduceOption_map_some] at h
      exact find?_insertionSort hless h
    have hgreatest {req : Request} {r : Route} (h : firstMatch engine ((rs.insertionSort fun a b =>
        routeLess b a = false).map some) req = some r) (r' : Route) (hr' : some r' ∈ rs.map some)
        (haccepts : r'.routeMatch.accepts engine req = true) :
        specificity r'.routeMatch ≤ specificity r.routeMatch :=
      (hspec h).1 r' (by simpa using hr') haccepts
    refine ⟨fun req => ?_, hgreatest, fun {req r} h => ?_, fun {req r} h => ?_⟩
    · simp [firstMatch, reduceOption_map_some]
    · rw [reduceOption_map_some]
      refine (congrArg (List.find? · rs) (funext fun r' => ?_)).trans (hspec h).2
      exact congrArg (_ && ·) (decide_eq_decide.2 Iff.rfl)
    · rintro ⟨r', path, hr', haccepts, hr'path⟩
      exact exists_path_of_le (hgreatest h r' hr' haccepts) hr'path (hpath hr' hr'path)

/-- A rule for one path, after one for all of them. -/
def loginRoutes : List Model.HTTPRoute :=
  [{ pathMatch := { prefixed := "/" }, backends := [⟨"shop", "default", some ⟨80, ""⟩, none⟩] },
    { pathMatch := { exact := "/login" }, backends := [⟨"login", "default", some ⟨80, ""⟩, none⟩] }]

theorem firstIsMostSpecific_login :
    ∃ gen, generatedRoutes loginRoutes ⟨["shop.example"], false, false, 80⟩ = .ok gen ∧
      ∃ routes, sortRoutes gen = .ok routes ∧
        FirstIsMostSpecific ⟨fun regex s => regex == s, fun _ => beq_iff_eq.trans eq_comm⟩ gen
          routes := by
  refine ⟨_, rfl, ?_⟩
  obtain ⟨_, routes, hsorted, _, _, _, hfirst⟩ := firstIsMostSpecific
    ⟨fun regex s => regex == s, fun _ => beq_iff_eq.trans eq_comm⟩ (by decide)
    (rfl : generatedRoutes loginRoutes ⟨["shop.example"], false, false, 80⟩ = .ok _)
  exact ⟨routes, hsorted, hfirst⟩

end

/-! ## The model route that counts -/

/-- The model route counts for a request: no other that matches is more specific, and it is the
    first of those that are as specific. -/
structure Counts (engine : RegexEngine) (httpRoutes : List Model.HTTPRoute) (h : String)
    (suffixMatch : Bool) (req : Request) (x : Model.HTTPRoute) : Prop where
  greatest : ∀ y ∈ httpRoutes, (matchOf [h] suffixMatch y).accepts engine req = true →
    specificity (matchOf [h] suffixMatch y) ≤ specificity (matchOf [h] suffixMatch x)
  first : httpRoutes.find? (fun y => (matchOf [h] suffixMatch y).accepts engine req &&
    decide (specificity (matchOf [h] suffixMatch y) = specificity (matchOf [h] suffixMatch x))) =
      some x

section

variable {h : String} {suffixMatch : Bool} {port : Nat} {vh : VirtualHost} {engine : RegexEngine}
  {req : Request}

theorem Counts.mem {x : Model.HTTPRoute} (hx : Counts engine httpRoutes h suffixMatch req x) :
    x ∈ httpRoutes :=
  mem_of_find?_eq_some hx.first

theorem Counts.accepts {x : Model.HTTPRoute} (hx : Counts engine httpRoutes h suffixMatch req x) :
    (matchOf [h] suffixMatch x).accepts engine req = true := by
  have hfound := find?_some hx.first
  exact (Bool.and_eq_true_iff.1 hfound).1

variable (hserved : ∀ k ∈ matchKeys httpRoutes, GroupServed (groupAt httpRoutes k))
  (hmatch : ∀ x ∈ httpRoutes, ∀ y ∈ httpRoutes, x.getMatchKey = y.getMatchKey →
    matchOf [h] suffixMatch y.sorted = matchOf [h] suffixMatch x)
  (hvh : newVirtualHost httpRoutes ⟨[h], false, suffixMatch, port⟩ = .ok vh)

include hserved hmatch hvh

/-- The routes of a virtual host, if its groups are served and the key of a route tells what it
    matches. -/
theorem routes_of_served : ∃ made : String → Route,
      vh.routes = (((matchKeys httpRoutes).map made).insertionSort
        fun a b => routeLess b a = false).map some ∧
      ∀ x ∈ httpRoutes, (made x.getMatchKey).routeMatch = matchOf [h] suffixMatch x ∧
        Performs port (groupAt httpRoutes x.getMatchKey) (made x.getMatchKey).action := by
  obtain ⟨made, hroutes, hmade⟩ := envoyHTTPRoutes_of_served hserved [h] suffixMatch port
  obtain ⟨gen, sorted, hgen, hsorted, rfl⟩ := newVirtualHost_eq_ok.1 hvh
  obtain rfl := Except.ok.inj (hroutes.symm.trans hgen)
  rw [sortRoutes_map_some] at hsorted
  refine ⟨made, (Except.ok.inj hsorted).symm, fun x hx => ?_⟩
  have hk : x.getMatchKey ∈ matchKeys httpRoutes := mem_matchKeys.2 ⟨x, hx, rfl⟩
  obtain ⟨hhead, hperforms⟩ := hmade _ hk
  refine ⟨?_, hperforms⟩
  obtain ⟨first, hfirst, hmatches⟩ := Option.map_eq_some_iff.1 hhead
  obtain ⟨y, hy, rfl⟩ := mem_map.1 (mem_of_mem_head? hfirst)
  obtain ⟨hy, hkey⟩ := mem_filter.1 hy
  rw [← hmatches, hmatch x hx y hy (of_decide_eq_true hkey).symm]

/-- The route that Envoy takes is made for the group of the model route that counts, and there is
    one if a model route matches. -/
theorem firstMatch_of_served : ((firstMatch engine vh.routes req).isSome ↔
      ∃ x ∈ httpRoutes, (matchOf [h] suffixMatch x).accepts engine req = true) ∧
    ∀ route, firstMatch engine vh.routes req = some route →
      ∃ x, Counts engine httpRoutes h suffixMatch req x ∧
        Performs port (groupAt httpRoutes x.getMatchKey) route.action := by
  obtain ⟨made, hroutes, hmade⟩ := routes_of_served hserved hmatch hvh
  have hless (a b : Route) : routeLess b a = false ↔
      OrderDual.toDual (specificity a.routeMatch) ≤ OrderDual.toDual (specificity b.routeMatch) :=
    routeLess_eq_false
  have hmem {x : Model.HTTPRoute} (hx : x ∈ httpRoutes) :
      made x.getMatchKey ∈ (matchKeys httpRoutes).map made :=
    mem_map_of_mem (mem_matchKeys.2 ⟨x, hx, rfl⟩)
  rw [firstMatch, hroutes, reduceOption_map_some]
  constructor
  · rw [find?_isSome]
    constructor
    · rintro ⟨route, hroute, haccepts⟩
      obtain ⟨k, hk, rfl⟩ := mem_map.1 ((mem_insertionSort _).1 hroute)
      obtain ⟨x, hx, rfl⟩ := mem_matchKeys.1 hk
      exact ⟨x, hx, (hmade x hx).1 ▸ haccepts⟩
    · rintro ⟨x, hx, haccepts⟩
      exact ⟨_, (mem_insertionSort _).2 (hmem hx), (hmade x hx).1.symm ▸ haccepts⟩
  · intro route hroute
    obtain ⟨hgreatest, hfirst⟩ := find?_insertionSort hless hroute
    -- the first such route is that of the first key, and this of the first model route
    rw [find?_map, matchKeys, find?_eraseDups, find?_map, Option.map_map] at hfirst
    obtain ⟨x, hfirst, rfl⟩ := Option.map_eq_some_iff.1 hfirst
    have hx := mem_of_find?_eq_some hfirst
    obtain ⟨hxmatch, hperforms⟩ := hmade x hx
    refine ⟨x, ⟨fun y hy haccepts => ?_, ?_⟩, hperforms⟩
    · have hle := hgreatest _ (hmem hy) ((hmade y hy).1.symm ▸ haccepts)
      rw [(hmade y hy).1, Function.comp_apply, hxmatch] at hle
      exact OrderDual.toDual_le_toDual.1 hle
    · refine (find?_congr fun y hy => ?_).trans hfirst
      simp only [Function.comp_apply, (hmade y hy).1, hxmatch]
      exact congrArg (_ && ·) (decide_eq_decide.2 Iff.rfl)

end

end Translation
