import Dolphin.Translation.Specificity
import Dolphin.Translation.Translator

/-!
# The requests that a redirect to HTTPS covers

For a host with a certificate there is a virtual host that redirects to HTTPS, made of the same
model routes as the one that serves them. It is meant to redirect the requests that the other
one matches. But the loop that makes the redirects gives the matches of query parameters where
those of headers are expected, and the other way round, so that a redirect has the match of the
route that it stands for only if the two lists say the same (`coversSame_iff`).

* `exists_translate_iff`: a model can be translated if its virtual hosts can be made;
* `hasVirtualHost_iff`: these are the virtual hosts of the translation.
-/

namespace Translation

open Model Go Envoy List

/-- A route of the list matches the request. -/
def Matched (engine : RegexEngine) (routes : List (Option Route)) (req : Request) : Prop :=
  ∃ r, some r ∈ routes ∧ r.routeMatch.accepts engine req

/-- The virtual hosts made from the same model routes, with redirects to HTTPS or not, match the
    same requests, and their routes for a match key have the same match. -/
def CoversSame (httpRoutes : List Model.HTTPRoute) (hostnames : List String)
    (hostNameSuffixMatch : Bool) (listenerPort : Nat) : Prop :=
  ∃ on off,
    newVirtualHost httpRoutes ⟨hostnames, true, hostNameSuffixMatch, listenerPort⟩ = .ok on ∧
    newVirtualHost httpRoutes ⟨hostnames, false, hostNameSuffixMatch, listenerPort⟩ = .ok off ∧
    (∀ engine req, Matched engine on.routes req ↔ Matched engine off.routes req) ∧
    ∀ k ∈ matchKeys httpRoutes, ∃ r r',
      (groupAt httpRoutes k).head?.map (httpsRoute hostnames hostNameSuffixMatch) = some r ∧
      emitted hostnames hostNameSuffixMatch listenerPort (groupAt httpRoutes k) = .ok (some r') ∧
      r.routeMatch = r'.routeMatch

/-- The groups that a route is made for: something is there to do, and wherever it forwards or
    mirrors to, there is a port. -/
def GroupMade : List Model.HTTPRoute → Prop
  | [] => False
  | first :: rest => first.requestRedirect.isSome ∨
    if (first :: rest).flatMap (·.backends) = [] then first.directResponse ≠ none
    else (∀ be ∈ (first :: rest).flatMap (·.backends), be.port.isSome) ∧
      ∀ be ∈ first.requestMirrors.filterMap (·.backend), be.port.isSome

section

variable {httpRoutes : List Model.HTTPRoute} {hostnames : List String}
  {hostNameSuffixMatch : Bool} {listenerPort : Nat}

theorem exists_emitted_iff {group : List Model.HTTPRoute} :
    (∃ r, emitted hostnames hostNameSuffixMatch listenerPort group = .ok (some r)) ↔
      GroupMade group := by
  obtain _ | ⟨first, rest⟩ := group
  · refine iff_of_false ?_ id
    rintro ⟨r, h⟩
    cases h
  rw [GroupMade, emitted, envoyHTTPRoute, groupAction]
  cases hredirect : first.requestRedirect with
  | some filter =>
    rw [Option.isNone_some, Bool.and_false]
    exact iff_of_true ⟨_, rfl⟩ (.inl rfl)
  | none =>
    rw [Option.isSome_none, or_iff_right Bool.false_ne_true]
    by_cases hnone : (first :: rest).flatMap (·.backends) = []
    · rw [if_pos hnone, if_pos (by rw [hnone]; rfl), envoyHTTPRouteNoBackend]
      cases first.directResponse with
      | none =>
        refine iff_of_false ?_ fun h => h rfl
        rintro ⟨r, h⟩
        cases h
      | some response => exact iff_of_true ⟨_, rfl⟩ (Option.some_ne_none _)
    · rw [if_neg hnone, if_neg (by rw [isEmpty_eq_false_iff.2 hnone]; exact Bool.false_ne_true),
        ← exists_getRouteAction_iff]
      cases getRouteAction first ((first :: rest).flatMap (·.backends)) with
      | ok action => exact iff_of_true ⟨_, rfl⟩ ⟨_, rfl⟩
      | error e =>
        refine iff_of_false ?_ ?_
        · rintro ⟨r, h⟩
          cases h
        · rintro ⟨action, h⟩
          cases h

theorem GroupServed.made {group : List Model.HTTPRoute} (h : GroupServed group) :
    GroupMade group := by
  obtain ⟨r, hr, _⟩ : ∃ r, Translation.emitted [] false 0 group = .ok (some r) ∧ _ := h.emitted
  exact exists_emitted_iff.1 ⟨r, hr⟩

theorem headerMatchers_eq (xs : List KeyValueMatch) :
    xs.map (fun h => (⟨h.key, getEnvoyStringMatcher h.valueMatch⟩ : HeaderMatcher)) =
      (getQueryMatchers xs).map fun q => ⟨q.name, q.stringMatch⟩ := by
  rw [getQueryMatchers, map_map]
  rfl

/-- A redirect has the match of the route it stands for if headers and query parameters are
    matched alike. -/
theorem httpsRoute_routeMatch_eq {first : Model.HTTPRoute} :
    (httpsRoute hostnames hostNameSuffixMatch first).routeMatch =
        matchOf hostnames hostNameSuffixMatch first ↔
      getQueryMatchers first.headersMatch = getQueryMatchers first.queryParamsMatch := by
  rw [httpsRoute, matchOf, getRouteMatch, getRouteMatch, RouteMatch.mk.injEq]
  refine ⟨fun h => h.2.2, fun h => ⟨rfl, ?_, h⟩⟩
  rw [getHeaderMatchers, getHeaderMatchers, headerMatchers_eq, headerMatchers_eq, h]

theorem addDomains_ne_nil {hosts : List String} (hhosts : hosts ≠ []) :
    addDomains [] hosts ≠ [] := by
  have hstay (domains hosts : List String) (h : domains ≠ []) : addDomains domains hosts ≠ [] := by
    induction hosts generalizing domains with
    | nil => exact h
    | cons host hosts ih =>
      rw [addDomains]
      split_ifs
      · exact cons_ne_nil _ _
      · exact ih _ (append_ne_nil_of_left_ne_nil h _)
  obtain ⟨host, hosts, rfl⟩ := exists_cons_of_ne_nil hhosts
  rw [addDomains]
  split_ifs
  · exact cons_ne_nil _ _
  · exact hstay _ _ (cons_ne_nil _ _)

theorem newVirtualHost_of_generated {param : VirtualHostParameter} {gen : List (Option Route)}
    (hhosts : param.hostNames ≠ []) (hgen : generatedRoutes httpRoutes param = .ok gen)
    (hsome : ∀ e ∈ gen, ∃ r, e = some r) :
    ∃ vh, newVirtualHost httpRoutes param = .ok vh ∧ ∀ e, e ∈ vh.routes ↔ e ∈ gen := by
  obtain ⟨rs, rfl⟩ := exists_map_some hsome
  obtain ⟨name, names, hdomains⟩ := exists_cons_of_ne_nil (addDomains_ne_nil hhosts)
  have hsorted := sortRoutes_map_some rs
  refine ⟨⟨name, addDomains [] param.hostNames, _⟩, ?_, fun e => mem_sortRoutes hsorted⟩
  rw [newVirtualHost_eq, hgen]
  refine bind_eq_ok.2 ⟨_, rfl, bind_eq_ok.2 ⟨_, hsorted, ?_⟩⟩
  rw [hdomains]
  rfl

theorem mem_emissions_groups {k : String} :
    k ∈ emissions (fun k => deletesGroup (groupAt httpRoutes k)) []
      (httpRoutes.map (·.getMatchKey)) ↔ k ∈ matchKeys httpRoutes := by
  simp [mem_emissions, matchKeys, mem_eraseDups]

/-- A virtual host for model routes that all have something to do can be made when every group can
    be. -/
theorem exists_newVirtualHost_iff
    (hroutes : ∀ x ∈ httpRoutes, x.backends ≠ [] ∨ x.requestRedirect.isSome ∨
      x.directResponse.isSome) (hhosts : hostnames ≠ []) :
    (∃ vh, newVirtualHost httpRoutes ⟨hostnames, false, hostNameSuffixMatch, listenerPort⟩ =
      .ok vh) ↔ ∀ k ∈ matchKeys httpRoutes, GroupMade (groupAt httpRoutes k) := by
  constructor
  · rintro ⟨vh, hvh⟩ k hk
    rw [newVirtualHost_eq] at hvh
    obtain ⟨gen, hgen, _⟩ := bind_eq_ok.1 hvh
    have hsome := isSome_of_generated hroutes hgen
    rw [generatedRoutes, if_neg Bool.false_ne_true, envoyHTTPRoutes_eq] at hgen
    obtain ⟨e, he⟩ := exists_mapM_eq_ok.1 ⟨gen, hgen⟩ k (mem_emissions_groups.2 hk)
    obtain ⟨r, rfl⟩ := hsome e ((mem_mapM hgen).2 ⟨k, mem_emissions_groups.2 hk, he⟩)
    exact exists_emitted_iff.1 ⟨r, he⟩
  · intro hmade
    obtain ⟨gen, hgen⟩ : ∃ gen, generatedRoutes httpRoutes
        ⟨hostnames, false, hostNameSuffixMatch, listenerPort⟩ = .ok gen := by
      rw [generatedRoutes, if_neg Bool.false_ne_true, envoyHTTPRoutes_eq, exists_mapM_eq_ok]
      intro k hk
      obtain ⟨r, hr⟩ := exists_emitted_iff.2 (hmade k (mem_emissions_groups.1 hk))
      exact ⟨some r, hr⟩
    obtain ⟨vh, hvh, _⟩ := newVirtualHost_of_generated hhosts hgen
      (isSome_of_generated hroutes hgen)
    exact ⟨vh, hvh⟩

/-- Redirects to HTTPS can always be made. -/
theorem exists_newVirtualHost_redirect (httpRoutes : List Model.HTTPRoute)
    (hostNameSuffixMatch : Bool) (listenerPort : Nat) (hhosts : hostnames ≠ []) :
    ∃ vh, newVirtualHost httpRoutes ⟨hostnames, true, hostNameSuffixMatch, listenerPort⟩ =
      .ok vh ∧ ∀ e, e ∈ vh.routes ↔ ∃ k ∈ matchKeys httpRoutes,
        (groupAt httpRoutes k).head?.map (httpsRoute hostnames hostNameSuffixMatch) = e := by
  simp only [← mem_map, ← envoyHTTPSRoutes_eq]
  refine newVirtualHost_of_generated hhosts rfl fun e he => ?_
  rw [envoyHTTPSRoutes_eq, mem_map] at he
  obtain ⟨k, hk, rfl⟩ := he
  obtain ⟨first, rest, hgroup⟩ := exists_cons_of_ne_nil (groupAt_ne_nil.2 hk)
  rw [hgroup]
  exact ⟨_, rfl⟩

theorem coversSame_iff :
    CoversSame httpRoutes hostnames hostNameSuffixMatch listenerPort ↔
      hostnames ≠ [] ∧ ∀ k ∈ matchKeys httpRoutes, GroupMade (groupAt httpRoutes k) ∧
        ∀ first ∈ (groupAt httpRoutes k).head?,
          getQueryMatchers first.headersMatch = getQueryMatchers first.queryParamsMatch := by
  constructor
  · rintro ⟨on, off, hon, _, _, hkeys⟩
    refine ⟨?_, fun k hk => ?_⟩
    · rintro rfl
      rw [newVirtualHost_eq] at hon
      obtain ⟨_, _, hon⟩ := bind_eq_ok.1 hon
      obtain ⟨_, _, hon⟩ := bind_eq_ok.1 hon
      cases hon
    · obtain ⟨r, r', hr, hr', hmatch⟩ := hkeys k hk
      refine ⟨exists_emitted_iff.1 ⟨r', hr'⟩, fun first hfirst => ?_⟩
      have hplain := routeMatch_of_emitted hr'
      rw [hfirst, Option.map_some, Option.some_inj] at hr hplain
      rw [← httpsRoute_routeMatch_eq, hr, hmatch, hplain]
  · rintro ⟨hhosts, hkeys⟩
    have hmade (k : String) (hk : k ∈ matchKeys httpRoutes) : ∃ r r',
        (groupAt httpRoutes k).head?.map (httpsRoute hostnames hostNameSuffixMatch) = some r ∧
        emitted hostnames hostNameSuffixMatch listenerPort (groupAt httpRoutes k) =
          .ok (some r') ∧ r.routeMatch = r'.routeMatch := by
      obtain ⟨hgroup, hsame⟩ := hkeys k hk
      obtain ⟨r', hr'⟩ := exists_emitted_iff.2 hgroup
      obtain ⟨first, hfirst, hmatch⟩ := Option.map_eq_some_iff.1 (routeMatch_of_emitted hr')
      refine ⟨_, r', congrArg _ hfirst, hr', ?_⟩
      rw [httpsRoute_routeMatch_eq.2 (hsame first hfirst), hmatch]
    obtain ⟨es, hes⟩ := exists_mapM_eq_ok.2 fun k hk =>
      (hmade k (mem_emissions_groups.1 hk)).elim fun _ h => h.imp' some fun _ h => h.2.1
    have hoff (e : Option Route) : e ∈ es ↔ ∃ k ∈ matchKeys httpRoutes,
        emitted hostnames hostNameSuffixMatch listenerPort (groupAt httpRoutes k) = .ok e := by
      simp only [mem_mapM hes, mem_emissions_groups]
    rw [← envoyHTTPRoutes_eq] at hes
    obtain ⟨on, hnewon, hon⟩ :=
      exists_newVirtualHost_redirect httpRoutes hostNameSuffixMatch listenerPort hhosts
    obtain ⟨off, hnewoff, hmemoff⟩ : ∃ off, newVirtualHost httpRoutes
        ⟨hostnames, false, hostNameSuffixMatch, listenerPort⟩ = .ok off ∧
        ∀ e, e ∈ off.routes ↔ e ∈ es := by
      refine newVirtualHost_of_generated hhosts hes fun e he => ?_
      obtain ⟨k, hk, he⟩ := (hoff e).1 he
      obtain ⟨_, r', _, hr', _⟩ := hmade k hk
      exact ⟨r', Except.ok.inj (he.symm.trans hr')⟩
    refine ⟨on, off, hnewon, hnewoff, fun engine req => ⟨?_, ?_⟩, hmade⟩
    · rintro ⟨r, hr, haccepts⟩
      obtain ⟨k, hk, hkr⟩ := (hon _).1 hr
      obtain ⟨r₁, r', hr₁, hr', hmatch⟩ := hmade k hk
      obtain rfl := Option.some_inj.1 (hkr.symm.trans hr₁)
      exact ⟨r', (hmemoff _).2 ((hoff _).2 ⟨k, hk, hr'⟩), hmatch ▸ haccepts⟩
    · rintro ⟨r', hr', haccepts⟩
      obtain ⟨k, hk, hkr⟩ := (hoff _).1 ((hmemoff _).1 hr')
      obtain ⟨r, r₁, hr, hr₁, hmatch⟩ := hmade k hk
      obtain rfl := Option.some_inj.1 (Except.ok.inj (hkr.symm.trans hr₁))
      exact ⟨r, (hon _).2 ⟨k, hk, hr⟩, hmatch ▸ haccepts⟩

end

/-- A rule for requests with a header. -/
def stagingRoutes : List Model.HTTPRoute :=
  [{ headersMatch := [⟨"env", { exact := "staging" }⟩]
     backends := [⟨"shop", "default", some ⟨80, ""⟩, none⟩] }]

/-- The redirect asks for a query parameter of the name of the header. -/
theorem not_coversSame_staging : ¬ CoversSame stagingRoutes ["shop.example"] false 80 := by
  rintro ⟨_, _, _, _, _, hkeys⟩
  obtain ⟨r, r', hr, hr', hmatch⟩ := hkeys _ (mem_matchKeys.2 ⟨_, mem_cons_self, rfl⟩)
  obtain rfl := Option.some_inj.1 hr
  obtain rfl := Option.some_inj.1 (Except.ok.inj hr')
  revert hmatch
  decide

/-! ## With and without enforcement of HTTPS -/

/-- The configuration of a class has the virtual host. -/
def HasVirtualHost (resources : List XDSResource) (secure : Bool) (vh : VirtualHost) : Prop :=
  ∃ rc, .routeConfiguration rc ∈ resources ∧ rc.name = "listener-" ++ classPort secure ∧
    vh ∈ rc.virtualHosts

section

variable {slices : Slices} {t : DefaultTranslator} {m : Model} {secure : Bool}

variable {orders : RangeOrders} {config : DolphinEnvoyConfig}

theorem exists_translate_iff (htls : ∀ be ∈ tlsBackends m, be.port.isSome) :
    (∃ config, t.translate slices orders m = .ok config) ↔
      ∀ secure h, configuredHosts t m secure h → ∃ vh, configuredHost t m secure h = .ok vh := by
  rw [← exists_getEnvoyHTTPRouteConfiguration_iff slices]
  simp only [DefaultTranslator.translate, bind_eq_ok, getResources_eq_ok, pure_eq_ok]
  constructor
  · rintro ⟨_, _, ⟨_, rcs, _, hrcs, _⟩, _⟩
    exact ⟨rcs, hrcs⟩
  · rintro ⟨rcs, hrcs⟩
    obtain ⟨listener, hlistener⟩ := exists_getListener slices orders.listener t
      fun be hbe => exists_backendCluster_iff.2 (htls be hbe)
    exact ⟨_, _, ⟨listener, rcs, hlistener, hrcs, rfl⟩, rfl⟩

variable (h : t.translate slices orders m = .ok config)

include h

theorem mem_routeConfigurations_iff {rc : RouteConfiguration} :
    .routeConfiguration rc ∈ config.resources ↔ ∃ secure rcs,
      portConfiguration slices t m (classPort secure) = .ok rcs ∧ rc ∈ rcs := by
  obtain ⟨rs, hrs, rfl⟩ := bind_pure_eq_ok.1 h
  constructor
  · intro hrc
    obtain ⟨rcs, hrcs, hrc⟩ := routeConfiguration_mem_getResources hrs hrc
    obtain ⟨insecure, secure, hinsecure, hsecure, rfl⟩ :=
      getEnvoyHTTPRouteConfiguration_eq_ok.1 hrcs
    rcases mem_append.1 hrc with hrc | hrc
    · exact ⟨false, insecure, hinsecure, hrc⟩
    · exact ⟨true, secure, hsecure, hrc⟩
  · rintro ⟨secure, rcs, hport, hrc⟩
    obtain ⟨listener, rcs', _, hrcs', rfl⟩ := getResources_eq_ok.1 hrs
    obtain ⟨insecure', secure', hinsecure, hsecure, rfl⟩ :=
      getEnvoyHTTPRouteConfiguration_eq_ok.1 hrcs'
    refine mem_append_left _ (mem_append_left _ (mem_append_right _ (mem_map.2 ⟨rc, ?_, rfl⟩)))
    cases secure with
    | false => exact mem_append_left _ (Except.ok.inj (hport.symm.trans hinsecure) ▸ hrc)
    | true => exact mem_append_right _ (Except.ok.inj (hport.symm.trans hsecure) ▸ hrc)

theorem exists_hasVirtualHost {host : String} (hhost : configuredHosts t m secure host) :
    ∃ vh, HasVirtualHost config.resources secure vh ∧ vh.name = host := by
  have hall := (exists_getEnvoyHTTPRouteConfiguration_iff slices).1 (by
    obtain ⟨rs, hrs, _⟩ := bind_eq_ok.1 h
    obtain ⟨_, rcs, _, hrcs, _⟩ := getResources_eq_ok.1 hrs
    exact ⟨rcs, hrcs⟩)
  obtain ⟨rcs, hport⟩ := (exists_portConfiguration_configured_iff slices).2 (hall secure)
  rcases portConfiguration_configured hport with ⟨_, rc, rfl, hconf⟩ | ⟨hnot, _⟩
  · obtain ⟨vh, hmem, hname⟩ := mem_map.1 ((hconf.hosts _).2 hhost)
    refine ⟨vh, ⟨rc, (mem_routeConfigurations_iff h).2 ?_, hconf.name, hmem⟩, hname⟩
    exact ⟨secure, _, hport, mem_cons_self⟩
  · exact absurd (emitted_of_hosts hhost.1) hnot

theorem hasVirtualHost_iff {vh : VirtualHost} : HasVirtualHost config.resources secure vh ↔
      configuredHosts t m secure vh.name ∧ configuredHost t m secure vh.name = .ok vh := by
  have hconfigured {vh : VirtualHost} (hvh : HasVirtualHost config.resources secure vh) :
      configuredHosts t m secure vh.name ∧ configuredHost t m secure vh.name = .ok vh := by
    obtain ⟨rc, hrc, hname, hvh⟩ := hvh
    obtain ⟨secure', rcs, hport, hrc⟩ := (mem_routeConfigurations_iff h).1 hrc
    rcases portConfiguration_configured hport with ⟨_, rc', rfl, hconf⟩ | ⟨_, rfl⟩
    · obtain rfl := mem_singleton.1 hrc
      obtain rfl : secure' = secure := by
        have hclass := hconf.name.symm.trans hname
        revert hclass
        cases secure' <;> cases secure <;> decide
      exact ⟨(hconf.hosts _).1 (mem_map_of_mem hvh), hconf.routes vh hvh⟩
    · cases hrc
  refine ⟨hconfigured, ?_⟩
  rintro ⟨hhost, hvh⟩
  obtain ⟨vh', hvh', hname⟩ := exists_hasVirtualHost h hhost
  have hvh'' := (hconfigured hvh').2
  rw [hname, hvh] at hvh''
  exact Except.ok.inj hvh'' ▸ hvh'

/-- The virtual host that Envoy selects is that of the host that is selected. -/
theorem selects_hasVirtualHost_iff {served : String → Prop}
    (hserved : ∀ host, configuredHosts t m secure host ↔ served host) {vh : VirtualHost}
    {authority : String} :
    Selects (HasVirtualHost config.resources secure) VirtualHost.domains authority vh ↔
      HasVirtualHost config.resources secure vh ∧ Selects served hostDomains authority vh.name := by
  have hhas {vh : VirtualHost} (hvh : HasVirtualHost config.resources secure vh) :
      served vh.name ∧ vh.domains = hostDomains vh.name := by
    obtain ⟨hhost, hvh⟩ := (hasVirtualHost_iff h).1 hvh
    refine ⟨(hserved _).1 hhost, ?_⟩
    rw [configuredHost] at hvh
    split_ifs at hvh <;> exact (name_newVirtualHost hvh).2
  constructor
  · rintro ⟨hvh, d, hd, hmatches, hbest⟩
    refine ⟨hvh, (hhas hvh).1, d, (hhas hvh).2 ▸ hd, hmatches, fun host hhost d' hd' => ?_⟩
    obtain ⟨vh', hvh', rfl⟩ := exists_hasVirtualHost h ((hserved host).2 hhost)
    exact hbest vh' hvh' d' ((hhas hvh').2.symm ▸ hd')
  · rintro ⟨hvh, _, d, hd, hmatches, hbest⟩
    refine ⟨hvh, d, (hhas hvh).2.symm ▸ hd, hmatches, fun vh' hvh' d' hd' => ?_⟩
    exact hbest vh'.name (hhas hvh').1 d' ((hhas hvh').2 ▸ hd')

end

end Translation
