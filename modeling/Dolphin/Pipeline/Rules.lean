import Dolphin.Pipeline.Origins

/-!
# Rules and virtual hosts

An HTTPRoute or a GRPCRoute reaches Envoy rule by rule: for each listener that the route is
attached to, a rule makes model routes, one for each of its matches, and these are put in the
virtual hosts of their effective hosts. A rule *serves* a model route under a host
(`Serves`) when it made it on a listener of the class.

* `mem_routesFor_iff_serves`: the model routes of a virtual host are those served by rules;
* `MergedInto.exists_group`: an Envoy route is made from the group of model routes of its
  virtual host with the same match;
* `Makes.sameEffects`: what a rule makes has the rule's backends and the effects of its
  filters.
-/

namespace Pipeline

open Gatewayv1 Ingestion Translation Go Model List

/-- The backends among `refs` that pass the checks of ingestion. -/
def keptRefs {α : Type} (toRef : α → BackendRef) (input : Input) (route : Route) (refs : List α) :
    List α :=
  refs.filter fun be => (ingestBackend route.ingestedKind route.toCommonRoute.ns input.services
    input.referenceGrants (toRef be)).isSome

/-- A rule of a route, for the kinds that become HTTP routes of the model. -/
inductive HTTPRule
  | http (r : Gatewayv1.HTTPRoute) (rule : HTTPRouteRule)
  | grpc (r : GRPCRoute) (rule : GRPCRouteRule)

namespace HTTPRule

def route : HTTPRule → Route
  | http r _ => .http r
  | grpc r _ => .grpc r

/-- The rule is one of its route, which is in the input. -/
def In (input : Input) : HTTPRule → Prop
  | http r rule => r ∈ input.httpRoutes ∧ rule ∈ r.rules
  | grpc r rule => r ∈ input.grpcRoutes ∧ rule ∈ r.rules

def backendRefs : HTTPRule → List BackendRef
  | http _ rule => rule.backendRefs.map (·.toBackendRef)
  | grpc _ rule => rule.backendRefs.map (·.toBackendRef)

def Redirects : HTTPRule → Prop
  | http _ rule => ∃ f ∈ rule.filters, f.type = .requestRedirect
  | grpc _ _ => False

/-- The redirect of the rule, which it has by its last redirect filter. -/
def redirect : HTTPRule → Option Gatewayv1.HTTPRequestRedirectFilter
  | http _ rule => lastRedirect rule.filters
  | grpc _ _ => none

/-- The backendRef passes the checks of ingestion. -/
def Keeps (input : Input) (rule : HTTPRule) (be : BackendRef) : Prop :=
  KeptBackend rule.route.ingestedKind rule.route.toCommonRoute.ns input.services
    input.referenceGrants be

/-- The backends of the rule that pass the checks of ingestion. -/
def backends (input : Input) (rule : HTTPRule) : List Backend :=
  ingestBackends rule.route.ingestedKind rule.route.toCommonRoute.ns input.services
    input.referenceGrants rule.backendRefs

/-- The model routes that ingestion makes from the rule for a listener. -/
def ingest (input : Input) (l : Listener) : HTTPRule → Result (List Model.HTTPRoute)
  | http r rule => ingestHTTPRule l input.services input.referenceGrants
      (routeHosts (computeHosts r.hostnames l.hostname)) r rule
  | grpc r rule => ingestGRPCRule input.services input.referenceGrants
      (routeHosts (computeHosts r.hostnames l.hostname)) r rule

end HTTPRule

/-- The rule of the input makes the model route on the listener, whose source is `s`. -/
structure Makes (input : Input) (l : Listener) (s : FullyQualifiedResource) (rule : HTTPRule)
    (x : Model.HTTPRoute) : Prop where
  mem : rule.In input
  reaches : Reaches l s rule.route
  made : ∃ xs, rule.ingest input l = .ok xs ∧ x ∈ xs

/-- The host names of a model route, or that of the listener it is made for. -/
def effectiveHostsOn (l : Listener) (x : Model.HTTPRoute) : List String :=
  if x.hostnames = [] then [toHostname l.hostname] else x.hostnames

/-- The rule makes the model route on a listener of the class, on which `h` is an effective
    host of it. -/
def Serves (input : Input) (secure : Bool) (h : String) (rule : HTTPRule) (x : Model.HTTPRoute) :
    Prop :=
  ∃ l s, (l, s) ∈ input.sourced ∧ Makes input l s rule x ∧ l.tls.isSome = secure ∧
    h ∈ effectiveHostsOn l x

section

variable {input : Input} {m : Model} {l : Listener} {s : FullyQualifiedResource}
  {rule : HTTPRule} {x : Model.HTTPRoute}

theorem yieldsHTTP_iff_makes (hm : gatewayAPI input = .ok m) (hl : (l, s) ∈ input.sourced)
    {route : Route} :
    YieldsHTTP input m l s route x ↔ ∃ rule : HTTPRule, rule.route = route ∧
      Makes input l s rule x := by
  constructor
  · intro hx
    cases route with
    | http r =>
      obtain ⟨hr, hp, block, hblock, hx⟩ := (yields_http_iff hm hl).1 hx
      obtain ⟨hserved, rule, hrule, xs, hxs, hx⟩ := (mem_ingestHTTPRoute hblock).1 hx
      exact ⟨.http r rule, rfl, ⟨hr, hrule⟩, ⟨hp, hserved⟩, xs, hxs, hx⟩
    | grpc r =>
      obtain ⟨hr, hp, block, hblock, hx⟩ := (yields_grpc_iff hm hl).1 hx
      obtain ⟨hserved, rule, hrule, xs, hxs, hx⟩ := (mem_ingestGRPCRoute hblock).1 hx
      exact ⟨.grpc r rule, rfl, ⟨hr, hrule⟩, ⟨hp, hserved⟩, xs, hxs, hx⟩
    | tls r => exact hx.elim
    | tcp r => exact hx.elim
    | udp r => exact hx.elim
  · intro h
    obtain ⟨rule, rfl, hmakes⟩ := h
    obtain ⟨ws, hws, hx⟩ := hmakes.made
    cases rule with
    | http r rule =>
      obtain ⟨_, xs, _, _, hxs, _⟩ := exists_block_http hm hl hmakes.reaches.1
      obtain ⟨block, hblock, _⟩ := isInfix_collect hxs hmakes.mem.1
      refine (yields_http_iff hm hl).2 ⟨hmakes.mem.1, hmakes.reaches.1, block, hblock, ?_⟩
      exact (mem_ingestHTTPRoute hblock).2 ⟨hmakes.reaches.2, rule, hmakes.mem.2, ws, hws, hx⟩
    | grpc r rule =>
      obtain ⟨_, _, ys, _, _, hys, _⟩ := exists_block_http hm hl hmakes.reaches.1
      obtain ⟨block, hblock, _⟩ := isInfix_collect hys hmakes.mem.1
      refine (yields_grpc_iff hm hl).2 ⟨hmakes.mem.1, hmakes.reaches.1, block, hblock, ?_⟩
      exact (mem_ingestGRPCRoute hblock).2 ⟨hmakes.reaches.2, rule, hmakes.mem.2, ws, hws, hx⟩

/-- The routes of an HTTP listener of the model are what rules make on its listener. -/
theorem mem_routes_iff_makes (hm : gatewayAPI input = .ok m) {b : Model}
    (hl : (l, s) ∈ input.sourced) (hb : ingestListener input l s = .ok b)
    {hl' : Model.HTTPListener} (hmem : hl' ∈ b.http) :
    x ∈ hl'.routes ↔ ∃ rule, Makes input l s rule x := by
  obtain ⟨hp, xs, ys, hxs, hys, rfl⟩ := (mem_block_http hb).1 hmem
  constructor
  · intro hx
    have hyields : ∃ route, YieldsHTTP input m l s route x := by
      rcases mem_append.1 hx with hx | hx
      · obtain ⟨r, hr, block, hblock, hx⟩ := (mem_collect hxs).1 hx
        exact ⟨.http r, (yields_http_iff hm hl).2 ⟨hr, hp, block, hblock, hx⟩⟩
      · obtain ⟨r, hr, block, hblock, hx⟩ := (mem_collect hys).1 hx
        exact ⟨.grpc r, (yields_grpc_iff hm hl).2 ⟨hr, hp, block, hblock, hx⟩⟩
    obtain ⟨route, hyields⟩ := hyields
    obtain ⟨rule, _, hmakes⟩ := (yieldsHTTP_iff_makes hm hl).1 hyields
    exact ⟨rule, hmakes⟩
  · intro h
    obtain ⟨rule, hmakes⟩ := h
    have hyields := (yieldsHTTP_iff_makes hm hl).2 ⟨rule, rfl, hmakes⟩
    cases rule with
    | http r rule =>
      obtain ⟨hr, _, block, hblock, hx⟩ := (yields_http_iff hm hl).1 hyields
      exact mem_append_left _ ((mem_collect hxs).2 ⟨r, hr, block, hblock, hx⟩)
    | grpc r rule =>
      obtain ⟨hr, _, block, hblock, hx⟩ := (yields_grpc_iff hm hl).1 hyields
      exact mem_append_right _ ((mem_collect hys).2 ⟨r, hr, block, hblock, hx⟩)

theorem mem_routesFor_iff_serves (hm : gatewayAPI input = .ok m) {secure : Bool} {h : String} :
    x ∈ routesFor m secure h ↔ ∃ rule, Serves input secure h rule x := by
  rw [mem_routesFor]
  constructor
  · intro hx
    obtain ⟨hl, hhl, hsecure, hx, hh⟩ := hx
    obtain ⟨⟨l, s⟩, hl', b, hb, hmem⟩ := (mem_http hm).1 hhl
    obtain ⟨rule, hmakes⟩ := (mem_routes_iff_makes hm hl' hb hmem).1 hx
    obtain ⟨_, xs, ys, _, _, rfl⟩ := (mem_block_http hb).1 hmem
    exact ⟨rule, l, s, hl', hmakes, Option.isSome_map.symm.trans hsecure, hh⟩
  · intro hx
    obtain ⟨rule, l, s, hl, hmakes, hsecure, hh⟩ := hx
    have hp : servesHTTP l.protocol = true := by
      cases rule with
      | http r rule => exact hmakes.reaches.1
      | grpc r rule => exact hmakes.reaches.1
    obtain ⟨b, xs, ys, hb, hxs, hys, hmem, hmodel⟩ := exists_block_http hm hl hp
    exact ⟨_, hmodel, Option.isSome_map.trans hsecure,
      (mem_routes_iff_makes hm hl hb hmem).2 ⟨rule, hmakes⟩, hh⟩

theorem HTTPRule.redirect_eq_none (h : ¬ rule.Redirects) : rule.redirect = none := by
  cases rule with
  | http r rule =>
    have hfind : (rule.filters.reverse.find? fun f => f.type = .requestRedirect) = none := by
      refine find?_eq_none.2 fun f hf htype => h ⟨f, mem_reverse.1 hf, ?_⟩
      exact of_decide_eq_true htype
    rw [redirect, lastRedirect, hfind]
    rfl
  | grpc r rule => rfl

theorem Makes.sameEffects (h : Makes input l s rule x) :
    ∃ fs, SameEffects (ruleRoute x.hostnames (rule.backends input) fs) x ∧
      fs.requestRedirectFilter.isSome = rule.redirect.isSome := by
  obtain ⟨xs, hxs, hx⟩ := h.made
  cases rule with
  | http r rule =>
    obtain ⟨fs, hfs, _, hsame⟩ := ingestHTTPRule_sameEffects hxs
    have hsame := hsame x hx
    have hhosts : x.hostnames = _ := congrArg Model.HTTPRoute.hostnames hsame
    exact ⟨fs, hhosts ▸ hsame, requestRedirect_of_httpFilters hfs⟩
  | grpc r rule =>
    obtain ⟨fs, hfs, _, hsame⟩ := ingestGRPCRule_sameEffects hxs
    have hsame := hsame x hx
    have hhosts : x.hostnames = _ := congrArg Model.HTTPRoute.hostnames hsame
    refine ⟨fs, hhosts ▸ hsame, ?_⟩
    rw [requestRedirect_of_grpcFilters hfs]
    rfl

variable {t : DefaultTranslator} {secure : Bool} {h : String} {e : Option Envoy.Route}

theorem MergedInto.exists_group (hx : MergedInto t m secure h x e) :
    ∃ first rest route deleted, groupAt (routesFor m secure h) x.getMatchKey = first :: rest ∧
      route ∈ first :: rest ∧ envoyHTTPRoute [h] t.hostNameSuffixMatch (firstPort m) first rest
        route = .ok (e, deleted) := by
  obtain ⟨_, r, hr, hkey, first, rest, deleted, hgroup, he⟩ := hx
  have hsame : groupAt (routesFor m secure h) x.getMatchKey = first :: rest := by
    rw [← hgroup, hkey]
  refine ⟨first, rest, r.sorted, deleted, hsame, ?_, he⟩
  rw [← hgroup]
  exact mem_groupAt.2 ⟨r, hr, rfl, rfl⟩

end

end Pipeline
