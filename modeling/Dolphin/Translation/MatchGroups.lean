import Mathlib.Data.Finset.Card
import Mathlib.Data.List.Find
import Dolphin.Translation.Emission

/-!
# One route for each match key

Model routes with the same match key are meant to make one Envoy route together, which forwards
to all of their backends, or does what the first of them asks for when there are none. The two
loops are told here by the keys in the order in which they first occur (`matchKeys`):

* `envoyHTTPSRoutes_eq`: the loop for redirects makes one route for each key;
* `onePerKey_iff`: the other loop does so only for groups of a certain kind (`GroupServed`). It
  does not delete the key of a group that only responds, so that such a group makes as many
  routes as it has model routes, and a nil one if the first of them has no response. A redirect
  of the first one is performed even if there are backends.
-/

namespace Translation

open Model Go Envoy List

/-! ## Keys -/

/-- The match keys of model routes, in the order in which they first occur. -/
def matchKeys (httpRoutes : List Model.HTTPRoute) : List String :=
  (httpRoutes.map (·.getMatchKey)).eraseDups

variable {httpRoutes : List Model.HTTPRoute} {k : String} {deletes : String → Bool}
  {ks seen : List String} {route : Model.HTTPRoute}

theorem mem_matchKeys : k ∈ matchKeys httpRoutes ↔ ∃ r ∈ httpRoutes, r.getMatchKey = k := by
  rw [matchKeys, mem_eraseDups, mem_map]

theorem groupAt_ne_nil : groupAt httpRoutes k ≠ [] ↔ k ∈ matchKeys httpRoutes := by
  rw [mem_matchKeys, groupAt, ne_eq, map_eq_nil_iff, filter_eq_nil_iff]
  simp

theorem length_groupAt (httpRoutes : List Model.HTTPRoute) (k : String) :
    (groupAt httpRoutes k).length = (httpRoutes.map (·.getMatchKey)).count k := by
  rw [groupAt, length_map, List.count, countP_map, countP_eq_length_filter]
  exact congrArg List.length (filter_congr fun r _ => (beq_eq_decide _ _).symm)

theorem find?_eraseDups (ks : List String) (q : String → Bool) :
    ks.eraseDups.find? q = ks.find? q := by
  induction hn : ks.length using Nat.strong_induction_on generalizing ks with
  | h n ih =>
    cases ks with
    | nil => rfl
    | cons k ks =>
      have hlength : (ks.filter fun k' => !k' == k).length < n := by
        rw [← hn, length_cons]
        exact Nat.lt_succ_of_le (length_filter_le _ _)
      rw [eraseDups_cons, find?_cons, find?_cons, ih _ hlength _ rfl]
      cases hk : q k with
      | true => rfl
      | false =>
        -- what is left out is equal to `k`
        rw [find?_filter]
        refine find?_congr fun k' _ => ?_
        by_cases heq : k' = k
        · simp [heq, hk]
        · simp [heq]

/-- The loop appends once for each key, if those that it does not delete occur once only. -/
theorem emissions_eq_eraseDups (seen : List String)
    (hstays : ∀ k, deletes k = false → ks.count k ≤ 1) :
    emissions deletes seen ks = (ks.filter (· ∉ seen)).eraseDups := by
  induction ks generalizing seen with
  | nil => rfl
  | cons k ks ih =>
    have hrest (k' : String) (hk' : deletes k' = false) : ks.count k' ≤ 1 :=
      (count_le_count_cons ..).trans (hstays k' hk')
    rw [emissions]
    split_ifs with hseen hdeletes
    · rw [ih seen hrest, filter_cons_of_neg (by simpa using hseen)]
    · rw [ih (k :: seen) hrest, filter_cons_of_pos (by simpa using hseen),
        eraseDups_cons, filter_filter]
      refine congrArg (fun l => k :: List.eraseDups l) (filter_congr fun k' _ => ?_)
      rw [Bool.eq_iff_iff]
      simp [mem_cons, not_or]
    · -- the key does not occur again
      have hnot : k ∉ ks := by
        have honce := hstays k (Bool.eq_false_iff.2 hdeletes)
        rw [count_cons_self] at honce
        exact count_eq_zero.1 (by omega)
      rw [ih seen hrest, filter_cons_of_pos (by simpa using hseen), eraseDups_cons,
        (filter_eq_self (p := fun b => !b == k)).2]
      intro k' hk'
      simpa using fun heq : k' = k => hnot (heq ▸ (mem_filter.1 hk').1)

/-- A key that is not deleted is appended as often as it occurs. -/
theorem count_emissions_of_stays (hstays : deletes k = false) (hseen : k ∉ seen) :
    (emissions deletes seen ks).count k = ks.count k := by
  induction ks generalizing seen with
  | nil => rfl
  | cons k' ks ih =>
    rw [emissions]
    split_ifs with hmem hdeletes
    · rw [ih hseen, count_cons_of_ne (fun heq : k' = k => hseen (heq ▸ hmem))]
    · have hne : k' ≠ k := fun heq => by simp [heq, hstays] at hdeletes
      rw [count_cons_of_ne hne, count_cons_of_ne hne, ih (by simp [hseen, hne.symm])]
    · rw [count_cons, count_cons, ih hseen]

theorem nodup_eraseDups (ks : List String) : ks.eraseDups.Nodup := by
  induction hn : ks.length using Nat.strong_induction_on generalizing ks with
  | h n ih =>
    cases ks with
    | nil => exact nodup_nil
    | cons k ks =>
      rw [eraseDups_cons, nodup_cons, mem_eraseDups]
      refine ⟨fun hk => by simp at hk, ih _ ?_ _ rfl⟩
      rw [← hn, length_cons]
      exact Nat.lt_succ_of_le (length_filter_le _ _)

/-- If the loop appends no more often than there are keys, those it does not delete occur once. -/
theorem count_le_one_of_length (hlength : (emissions deletes [] ks).length = ks.eraseDups.length)
    (hstays : deletes k = false) : ks.count k ≤ 1 := by
  have hsame : (emissions deletes [] ks).toFinset = ks.eraseDups.toFinset := by
    ext k'
    simp [mem_emissions, mem_eraseDups]
  have hcard : (emissions deletes [] ks).toFinset.card = (emissions deletes [] ks).length := by
    rw [hsame, toFinset_card_of_nodup (nodup_eraseDups ks), hlength]
  rw [← count_emissions_of_stays hstays not_mem_nil]
  exact nodup_iff_count_le_one.1 (Multiset.toFinset_card_eq_card_iff_nodup.1 hcard) k

theorem emissions_of_nodup (hnodup : ks.Nodup) (hseen : ∀ k ∈ ks, k ∉ seen) :
    emissions deletes seen ks = ks := by
  induction ks generalizing seen with
  | nil => rfl
  | cons k ks ih =>
    obtain ⟨hk, hks⟩ := nodup_cons.1 hnodup
    rw [emissions, if_neg (hseen k mem_cons_self), ih hks fun k' hk' => ?_]
    have hnot := hseen k' (mem_cons_of_mem _ hk')
    split_ifs
    · exact fun hmem => (mem_cons.1 hmem).elim (fun heq => hk (heq ▸ hk')) hnot
    · exact hnot

theorem groupAt_of_nodup (hnodup : (httpRoutes.map (·.getMatchKey)).Nodup) {x : Model.HTTPRoute}
    (hx : x ∈ httpRoutes) :
    groupAt httpRoutes x.getMatchKey = [x.sorted] := by
  have hlength : (groupAt httpRoutes x.getMatchKey).length = 1 := by
    rw [length_groupAt]
    exact count_eq_one_of_mem hnodup (mem_map_of_mem hx)
  obtain ⟨y, hy⟩ := length_eq_one_iff.1 hlength
  have hmem : x.sorted ∈ groupAt httpRoutes x.getMatchKey :=
    mem_map_of_mem (mem_filter.2 ⟨hx, decide_eq_true rfl⟩)
  rw [hy] at hmem
  rw [hy, mem_singleton.1 hmem]

/-- Model routes with keys of their own make one Envoy route each, in their order. -/
theorem envoyHTTPRoutes_of_nodup (hnodup : (httpRoutes.map (·.getMatchKey)).Nodup)
    (hostnames : List String) (suffixMatch : Bool) (port : Nat) :
    envoyHTTPRoutes httpRoutes hostnames suffixMatch port =
      httpRoutes.mapM fun x => emitted hostnames suffixMatch port [x.sorted] := by
  rw [envoyHTTPRoutes_eq, emissions_of_nodup hnodup fun _ _ => not_mem_nil, mapM_map]
  exact mapM_congr fun x hx => by rw [Function.comp_apply, groupAt_of_nodup hnodup hx]

/-! ## Redirects to HTTPS -/

section

variable (httpRoutes : List Model.HTTPRoute) (hostnames : List String)
  (suffixMatch : Bool)

/-- The redirect that the first model route of a group makes. -/
def httpsRoute (hostnames : List String) (hostNameSuffixMatch : Bool) (first : Model.HTTPRoute) :
    Route where
  routeMatch := getRouteMatch hostnames hostNameSuffixMatch first.pathMatch
    first.queryParamsMatch first.headersMatch first.method
  action := .redirect { schemeRewrite := some .httpsRedirect }

theorem envoyHTTPSRoutes_eq : envoyHTTPSRoutes httpRoutes hostnames suffixMatch =
      (matchKeys httpRoutes).map fun k =>
        (groupAt httpRoutes k).head?.map (httpsRoute hostnames suffixMatch) := by
  have hloop := @foldlM_groupStep httpRoutes
    (fun first _ _ => pure (some (httpsRoute hostnames suffixMatch first), true))
    (fun _ => true)
    (fun k => pure ((groupAt httpRoutes k).head?.map (httpsRoute hostnames suffixMatch)))
    fun r _ first rest hgroup _ => by rw [hgroup]; rfl
  rw [mapM_pure, emissions_eq_eraseDups [] fun _ h => absurd h.symm Bool.false_ne_true,
    filter_eq_self.2 fun _ _ => by simp] at hloop
  refine Except.ok.inj (Eq.trans ?_ hloop)
  -- the loop of the code is in no monad
  change Prod.snd <$> (pure (foldl _ _ _) : Result _) = _
  rw [← foldlM_pure]
  congr 2
  funext acc r
  rw [groupStep]
  rcases acc.1.get? r.getMatchKey with _ | _ | _ <;> rfl

end

/-! ## What a group asks for -/

/-- The clusters that an action forwards to, in their order. -/
def forwardClusters (action : RouteAction) : List String :=
  match action.clusterSpecifier with
  | .cluster name => [name]
  | .weightedClusters clusters => clusters.map (·.name)

/-- The action of an Envoy route does what a group of model routes with the same key asks for:
    it forwards to the backends of all of them, or does what the first of them says if there
    are none. -/
inductive Performs (listenerPort : Nat) (group : List Model.HTTPRoute) : Action → Prop
  | forward {action : RouteAction} (hne : group.flatMap (·.backends) ≠ [])
      (hclusters : (group.flatMap (·.backends)).mapM backendCluster =
        .ok (forwardClusters action)) : Performs listenerPort group (.route action)
  | redirect {filter : Model.HTTPRequestRedirectFilter} (hnone : group.flatMap (·.backends) = [])
      (hfirst : group.head?.bind (·.requestRedirect) = some filter) :
      Performs listenerPort group (.redirect (getRouteRedirect filter listenerPort))
  | respond {response : Model.DirectResponse} (hnone : group.flatMap (·.backends) = [])
      (hredirect : group.head?.bind (·.requestRedirect) = none)
      (hfirst : group.head?.bind (·.directResponse) = some response) :
      Performs listenerPort group (.directResponse ⟨response.statusCode, response.body⟩)

/-- The groups that the loop makes one route for, which does what they ask for. One without
    backends redirects, or it is a single model route that responds; one with backends does not
    redirect, and there is a port wherever it forwards or mirrors to. -/
def GroupServed : List Model.HTTPRoute → Prop
  | [] => False
  | first :: rest =>
    if (first :: rest).flatMap (·.backends) = [] then
      first.requestRedirect.isSome ∨ (first.directResponse.isSome ∧ rest = [])
    else
      first.requestRedirect = none ∧ (∀ be ∈ (first :: rest).flatMap (·.backends), be.port.isSome) ∧
        ∀ be ∈ first.requestMirrors.filterMap (·.backend), be.port.isSome

theorem exists_backendCluster_iff {be : Backend} :
    (∃ name, backendCluster be = .ok name) ↔ be.port.isSome := by
  rw [backendCluster]
  cases be.port with
  | none => simp [deref, bind, Except.bind]
  | some port => exact iff_of_true ⟨_, rfl⟩ rfl

/-- The mutations panic for a mirror without a port only. -/
theorem exists_mutateAction_iff {action : RouteAction} :
    (∃ action', mutateAction route action = .ok action') ↔
      ∀ be ∈ route.requestMirrors.filterMap (·.backend), be.port.isSome := by
  simp only [← exists_backendCluster_iff]
  constructor
  · rintro ⟨action', h⟩ be hbe
    obtain ⟨mirrored, hmirrored, _⟩ := bind_eq_ok.1 h
    obtain ⟨policies, hpolicies, _⟩ := bind_eq_ok.1 hmirrored
    obtain ⟨policy, hpolicy⟩ := exists_mapM_eq_ok.1 ⟨policies, hpolicies⟩ be hbe
    obtain ⟨cluster, hcluster, _⟩ := bind_eq_ok.1 hpolicy
    exact ⟨cluster, hcluster⟩
  · intro h
    obtain ⟨policies, hpolicies⟩ : ∃ policies, ((route.requestMirrors.filterMap
        (·.backend)).mapM fun be => do
          let cluster ← backendCluster be
          pure (⟨cluster, 100⟩ : RequestMirrorPolicy)) = .ok policies := by
      refine exists_mapM_eq_ok.2 fun be hbe => ?_
      obtain ⟨cluster, hcluster⟩ := h be hbe
      exact ⟨_, bind_eq_ok.2 ⟨cluster, hcluster, rfl⟩⟩
    rw [mutateAction]
    simp only [requestMirrorMutation, hpolicies]
    cases route.requestMirrors.isEmpty with
    | true => exact ⟨_, rfl⟩
    | false => exact ⟨_, rfl⟩

theorem forwardClusters_eq {backends : List Backend} {action : RouteAction}
    (h : getRouteAction route backends = .ok action) :
    backends.mapM backendCluster = .ok (forwardClusters action) := by
  rw [forwardClusters]
  rcases (getRouteAction_spec h).2 with
    ⟨be, cluster, rfl, hcluster, hspecifier⟩ | ⟨_, clusters, hclusters, hspecifier⟩
  · rw [hspecifier, mapM_eq_ok]
    exact .cons hcluster .nil
  · rw [hspecifier, mapM_eq_ok, forall₂_map_right_iff]
    refine (mapM_eq_ok.1 hclusters).imp fun _ _ hweight => ?_
    obtain ⟨name, hname, rfl⟩ := bind_pure_eq_ok.1 hweight
    exact hname

/-- Forwarding panics for a backend or mirror without a port only. -/
theorem exists_getRouteAction_iff {backends : List Backend} :
    (∃ action, getRouteAction route backends = .ok action) ↔ (∀ be ∈ backends, be.port.isSome) ∧
        ∀ be ∈ route.requestMirrors.filterMap (·.backend), be.port.isSome := by
  constructor
  · rintro ⟨action, h⟩
    constructor
    · simp only [← exists_backendCluster_iff]
      exact exists_mapM_eq_ok.1 ⟨_, forwardClusters_eq h⟩
    · unfold getRouteAction at h
      split at h
      · obtain ⟨_, _, h⟩ := bind_eq_ok.1 h
        exact exists_mutateAction_iff.1 ⟨_, h⟩
      · obtain ⟨_, _, h⟩ := bind_eq_ok.1 h
        exact exists_mutateAction_iff.1 ⟨_, h⟩
  · rintro ⟨hbackends, hmirrors⟩
    simp only [← exists_backendCluster_iff] at hbackends
    unfold getRouteAction
    split
    · obtain ⟨cluster, hcluster⟩ := hbackends _ mem_cons_self
      obtain ⟨action, haction⟩ := exists_mutateAction_iff.2 hmirrors
      exact ⟨action, bind_eq_ok.2 ⟨cluster, hcluster, haction⟩⟩
    · obtain ⟨clusters, hclusters⟩ : ∃ clusters,
          backends.mapM (clusterWeight route.backendHttpFilters) = .ok clusters := by
        refine exists_mapM_eq_ok.2 fun be hbe => ?_
        obtain ⟨name, hname⟩ := hbackends be hbe
        exact ⟨_, bind_eq_ok.2 ⟨name, hname, rfl⟩⟩
      obtain ⟨action, haction⟩ := exists_mutateAction_iff.2 hmirrors
      exact ⟨action, bind_eq_ok.2 ⟨clusters, hclusters, haction⟩⟩

/-! ## The loop for other routes -/

section

variable {hostnames : List String} {suffixMatch : Bool} {port : Nat}

theorem GroupServed.emitted {group : List Model.HTTPRoute} (h : GroupServed group) :
    ∃ r, emitted hostnames suffixMatch port group = .ok (some r) ∧
      Performs port group r.action := by
  obtain _ | ⟨first, rest⟩ := group
  · cases h
  rw [GroupServed] at h
  rw [Translation.emitted, envoyHTTPRoute, groupAction]
  split_ifs at h with hnone
  · rw [hnone]
    cases hredirect : first.requestRedirect with
    | some filter => exact ⟨_, rfl, .redirect hnone hredirect⟩
    | none =>
      obtain ⟨response, hresponse⟩ : ∃ response, first.directResponse = some response := by
        rw [hredirect] at h
        exact Option.isSome_iff_exists.1 (h.resolve_left Bool.false_ne_true).1
      rw [envoyHTTPRouteNoBackend, hresponse]
      exact ⟨_, rfl, .respond hnone hredirect hresponse⟩
  · obtain ⟨hredirect, hports⟩ := h
    obtain ⟨action, haction⟩ := exists_getRouteAction_iff.2 hports
    rw [hredirect, isEmpty_eq_false_iff.2 hnone, haction]
    exact ⟨_, rfl, .forward hnone (forwardClusters_eq haction)⟩

/-- A group that is served and not deleted is a single model route. -/
theorem GroupServed.length_le {group : List Model.HTTPRoute} (h : GroupServed group)
    (hstays : deletesGroup group = false) : group.length ≤ 1 := by
  obtain _ | ⟨first, rest⟩ := group
  · cases h
  rw [deletesGroup, Bool.not_eq_false', Bool.and_eq_true, List.isEmpty_iff,
    Option.isNone_iff_eq_none] at hstays
  rw [GroupServed, if_pos hstays.1, hstays.2] at h
  rw [(h.resolve_left Bool.false_ne_true).2]
  exact Nat.le_refl 1

/-- A route that does what a group asks for is made for groups that are served only. -/
theorem groupServed_of_emitted {first : Model.HTTPRoute} {rest : List Model.HTTPRoute} {r : Route}
    (h : Translation.emitted hostnames suffixMatch port (first :: rest) =
      .ok (some r)) (hperforms : Performs port (first :: rest) r.action)
    (hrest : deletesGroup (first :: rest) = false → rest = []) : GroupServed (first :: rest) := by
  rw [GroupServed]
  obtain ⟨⟨e, deleted⟩, he, rfl⟩ := map_eq_ok.1 h
  generalize haction : r.action = a at hperforms
  cases hperforms with
  | @forward action hne hclusters =>
    rw [if_neg hne]
    have hforward := (envoyHTTPRoute_forwards he haction).1
    refine ⟨?_, exists_getRouteAction_iff.1 ⟨action, hforward⟩⟩
    -- a redirect of the first would be performed
    rcases envoyHTTPRoute_cases he with ⟨hnone, _⟩ | ⟨_, action', haction', he', _⟩
    · exact absurd hnone hne
    · obtain rfl := Option.some_inj.1 he'
      obtain rfl : action' = .route action := haction
      rw [groupAction] at haction'
      split at haction'
      · cases pure_eq_ok.1 haction'
      · assumption
  | redirect hnone hfirst =>
    rw [if_pos hnone]
    exact .inl (Option.isSome_of_eq_some hfirst)
  | respond hnone hredirect hfirst =>
    rw [if_pos hnone]
    refine .inr ⟨Option.isSome_of_eq_some hfirst, hrest ?_⟩
    have hredirect : first.requestRedirect = none := hredirect
    rw [deletesGroup, hnone, hredirect]
    rfl

/-- There is one route for each match key, in the order in which the keys first occur, and it
    does what the model routes with the key ask for; redirects to HTTPS as well. -/
structure OnePerKey (httpRoutes : List Model.HTTPRoute) (hostnames : List String)
    (hostNameSuffixMatch : Bool) (listenerPort : Nat) : Prop where
  plain : ∃ es, envoyHTTPRoutes httpRoutes hostnames hostNameSuffixMatch listenerPort = .ok es ∧
    List.Forall₂ (fun k e => ∃ r, e = some r ∧
      (groupAt httpRoutes k).head?.map (matchOf hostnames hostNameSuffixMatch) = some r.routeMatch ∧
      Performs listenerPort (groupAt httpRoutes k) r.action) (matchKeys httpRoutes) es
  https : List.Forall₂ (fun k e => ∃ first rest, groupAt httpRoutes k = first :: rest ∧
      e = some (httpsRoute hostnames hostNameSuffixMatch first))
    (matchKeys httpRoutes) (envoyHTTPSRoutes httpRoutes hostnames hostNameSuffixMatch)

/-- The routes that are made if all groups are served. -/
theorem envoyHTTPRoutes_of_served
    (h : ∀ k ∈ matchKeys httpRoutes, GroupServed (groupAt httpRoutes k)) (hostnames : List String)
    (suffixMatch : Bool) (port : Nat) :
    ∃ made : String → Route,
      envoyHTTPRoutes httpRoutes hostnames suffixMatch port =
        .ok (((matchKeys httpRoutes).map made).map some) ∧
      ∀ k ∈ matchKeys httpRoutes,
        (groupAt httpRoutes k).head?.map (matchOf hostnames suffixMatch) =
          some (made k).routeMatch ∧
        Performs port (groupAt httpRoutes k) (made k).action := by
  have honce (k : String) (hstays : deletesGroup (groupAt httpRoutes k) = false) :
      (httpRoutes.map (·.getMatchKey)).count k ≤ 1 := by
    rw [← length_groupAt]
    by_cases hk : k ∈ matchKeys httpRoutes
    · exact (h k hk).length_le hstays
    · rw [not_not.1 (mt groupAt_ne_nil.1 hk)]
      exact Nat.zero_le _
  have hkeys : emissions (fun k => deletesGroup (groupAt httpRoutes k)) []
      (httpRoutes.map (·.getMatchKey)) = matchKeys httpRoutes := by
    rw [emissions_eq_eraseDups [] honce, filter_eq_self.2 fun _ _ => by simp, matchKeys]
  have hserved (k : String) (hk : k ∈ matchKeys httpRoutes) : ∃ r,
      emitted hostnames suffixMatch port (groupAt httpRoutes k) = .ok (some r) ∧
      (groupAt httpRoutes k).head?.map (matchOf hostnames suffixMatch) =
        some r.routeMatch ∧ Performs port (groupAt httpRoutes k) r.action := by
    obtain ⟨r, hr, hperforms⟩ := (h k hk).emitted
    exact ⟨r, hr, routeMatch_of_emitted hr, hperforms⟩
  have : Nonempty Route := ⟨{ routeMatch := ⟨.prefixed "/", [], []⟩, action := .redirect {} }⟩
  choose! made hmade using hserved
  refine ⟨made, ?_, fun k hk => (hmade k hk).2⟩
  rw [envoyHTTPRoutes_eq, hkeys, map_map]
  exact mapM_eq_map fun k hk => (hmade k hk).1

theorem onePerKey_iff : OnePerKey httpRoutes hostnames suffixMatch port ↔
      ∀ k ∈ matchKeys httpRoutes, GroupServed (groupAt httpRoutes k) := by
  constructor
  · rintro ⟨⟨es, hes, hall⟩, _⟩ k hk
    rw [envoyHTTPRoutes_eq] at hes
    have hes := mapM_eq_ok.1 hes
    -- as there is one route for each key, none is left to be met again
    have honce (k : String) (hstays : deletesGroup (groupAt httpRoutes k) = false) :
        (httpRoutes.map (·.getMatchKey)).count k ≤ 1 :=
      count_le_one_of_length (hes.length_eq.trans hall.length_eq.symm) hstays
    rw [emissions_eq_eraseDups [] honce, filter_eq_self.2 fun _ _ => by simp] at hes
    obtain ⟨i, hi, rfl⟩ := getElem_of_mem hk
    have hi' : i < es.length := hall.length_eq ▸ hi
    have hemitted := hes.get hi hi'
    obtain ⟨r, hr, _, hperforms⟩ := hall.get hi hi'
    rw [hr] at hemitted
    simp only [get_eq_getElem] at hemitted hperforms
    change emitted _ _ _ (groupAt httpRoutes (matchKeys httpRoutes)[i]) = _ at hemitted
    generalize (matchKeys httpRoutes)[i] = k at hk hemitted hperforms ⊢
    obtain ⟨first, rest, hgroup⟩ := exists_cons_of_ne_nil (groupAt_ne_nil.2 hk)
    rw [hgroup] at hemitted hperforms ⊢
    refine groupServed_of_emitted hemitted hperforms fun hstays => ?_
    have hlength := (length_groupAt httpRoutes k).trans_le (honce k (hgroup ▸ hstays))
    rw [hgroup, length_cons] at hlength
    exact length_eq_zero_iff.1 (by omega)
  · intro h
    refine ⟨?_, ?_⟩
    · obtain ⟨made, hroutes, hmade⟩ := envoyHTTPRoutes_of_served h _ _ _
      refine ⟨_, hroutes, ?_⟩
      rw [forall₂_map_right_iff, forall₂_map_right_iff, forall₂_same]
      exact fun k hk => ⟨made k, rfl, hmade k hk⟩
    · rw [envoyHTTPSRoutes_eq, forall₂_map_right_iff, forall₂_same]
      intro k hk
      obtain ⟨first, rest, hgroup⟩ := exists_cons_of_ne_nil (groupAt_ne_nil.2 hk)
      exact ⟨first, rest, hgroup, by rw [hgroup]; rfl⟩

/-- Two rules that match the same requests, of which neither has a backend. -/
def unavailable : List Model.HTTPRoute :=
  [{ directResponse := some ⟨500, ""⟩ }, { directResponse := some ⟨500, ""⟩ }]

/-- They make two Envoy routes. -/
theorem not_onePerKey_unavailable : ¬ OnePerKey unavailable ["*"] false 80 := by
  rintro ⟨⟨es, hes, hall⟩, _⟩
  have hlength := hall.length_eq
  obtain rfl : es = _ := (Except.ok.inj hes).symm
  revert hlength
  decide

end

end Translation
