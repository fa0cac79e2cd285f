import Dolphin.Reconcile.StatusOwnership

/-!
# Routes that are not accepted

A route whose status says for the Gateway that it is not accepted should not be programmed on its
listeners (`UnacceptedLaw`).

The filter of HTTPRoutes does not look at the status at all, so that a route which the pass over the
HTTPRoutes has found invalid is programmed like any other. The filters of TLSRoutes and GRPCRoutes
also let routes in whose references are not resolved, accepted or not. `unacceptedLaw_iff` says for
which routes this makes a difference, by what the API server has of them: `LeftUnaccepted` says
which HTTPRoutes the pass leaves without an entry that accepts them.
-/

namespace Reconcile

open Gatewayv1 Go Ingestion List

variable {ws : List StatusWrite} {api : RouteAPI}

/-- What an entry says about the condition Accepted. -/
def acceptedStatus (e : RouteParentStatus) : Option ConditionStatus :=
  (e.conditions.find? (·.type == "Accepted")).map (·.status)

/-- Every entry of the status for the Gateway says that the route is not accepted. -/
def Unaccepted (gw : Gateway) (route : CommonRoute) : Prop :=
  ∀ e ∈ route.parents, (Owner.gateway gw).named route.ns e.parentRef →
    acceptedStatus e = some .false

/-- The route contributes to a listener of the Gateway. -/
def Programmed (input : Input) (m : Model) (gw : Gateway) (route : Route) : Prop :=
  ∃ l ∈ gw.listeners, Contributes input m l (gatewayFQR gw) route

section

variable (api : RouteAPI) (gw : Gateway)

/-- The route as `Reconcile` works with it. -/
def CheckedRoute.refreshed : CheckedRoute → Result CheckedRoute
  | .http hr => do
    let parents ← setHTTPRouteStatus api hr
    pure (.http { hr with parents := parents })
  | r => pure r

/-- If the route is not accepted, it is not programmed. -/
def UnacceptedLaw (input : Input) (m : Model) (r : CheckedRoute) : Prop :=
  ∀ r', r.refreshed api = .ok r' → Unaccepted gw r'.toRoute.toCommonRoute →
    ¬ Programmed input m gw r'.toRoute

/-- The validation of an HTTPRoute finds something. -/
def Invalid (hr : HTTPRoute) : Prop := ∃ cond, invalidity api hr = .ok (some cond)

/-- No entry accepts the route, as `Reconcile` works with it. The pass over an HTTPRoute accepts a
    valid one for its own parentRefs, and takes back the acceptance of an invalid one in the first
    entry for each parentRef. -/
def CheckedRoute.LeftUnaccepted : CheckedRoute → Prop
  | .http hr =>
    (∀ ref, OwnRef api (.http hr) ref → (Owner.gateway gw).named hr.ns ref → Invalid api hr) ∧
    ∀ before e after, prunedParents hr = before ++ e :: after →
      (Owner.gateway gw).named hr.ns e.parentRef → acceptedStatus e = some .false ∨
          Invalid api hr ∧ ∀ b ∈ before, b.parentRef ≠ e.parentRef
  | .tls tr => Unaccepted gw tr.toCommonRoute
  | .grpc gr => Unaccepted gw gr.toCommonRoute

end

/-! ## The status of HTTPRoutes after the pass -/

section

variable {now : Nat} {generation : Int} {parents : List RouteParentStatus}

theorem acceptedStatus_updated {ref : ParentReference} {e : RouteParentStatus}
    (he : e.parentRef = ref) :
    acceptedStatus (updated (·.ref) (StatusWrite.apply now generation) ws ref e) =
      ((lastSet "Accepted" ref ws).map (·.status)).or (acceptedStatus e) := by
  subst he
  -- the entry is the first of a status that has no other
  obtain ⟨rest, hcons⟩ : ∃ rest, setParentConditions now generation ws [e] =
      updated (·.ref) (StatusWrite.apply now generation) ws e.parentRef e :: rest := by
    rw [setParentConditions_eq, upserts_cons]
    · exact ⟨_, rfl⟩
    · exact fun _ _ => rfl
  have hfirst (e' : RouteParentStatus) (es : List RouteParentStatus)
      (he' : e'.parentRef = e.parentRef) :
      statusOf "Accepted" e.parentRef (e' :: es) = acceptedStatus e' := by
    rw [statusOf, find?_cons_of_pos (by simp [he'])]
    rfl
  have hstatus : statusOf "Accepted" e.parentRef (setParentConditions now generation ws [e]) =
      ((lastSet "Accepted" e.parentRef ws).map (·.status)).or
        (statusOf "Accepted" e.parentRef [e]) := statusOf_setParentConditions
  rwa [hcons, hfirst _ _ (by rw [updated_entry]), hfirst e [] rfl] at hstatus

end

section

variable {hr : HTTPRoute} {w : StatusWrite}

/-- What the pass sets for a parentRef accepts the route if it is valid. -/
theorem lastSet_accepted_http (hws : httpRouteWrites api hr = .ok ws) (hw : w ∈ ws) :
    Invalid api hr ∧ (lastSet "Accepted" w.ref ws).map (·.status) = some .false ∨
      ¬ Invalid api hr ∧ OwnRef api (.http hr) w.ref ∧
        (lastSet "Accepted" w.ref ws).map (·.status) = some .true := by
  have hset (cond : Condition) (hcond : HTTPSets api hr w.ref cond) (htype : cond.type = "Accepted") :
      (lastSet "Accepted" w.ref ws).map (·.status) = some cond.status := by
    rw [(lastSet_httpRouteWrites hws).2 ⟨hcond, htype⟩]
    rfl
  obtain ⟨type, cond, hlast⟩ := exists_write_iff.1 ⟨w, hw, rfl⟩
  obtain ⟨invalid, hinvalidity, _⟩ := lastSet_validation hws w.ref type
  have hsets := ((lastSet_httpRouteWrites hws).1 hlast).1
  cases invalid with
  | some invalid =>
    have hentry : HasEntry api hr w.ref := by
      rcases hsets with ⟨hown, _⟩ | ⟨hentry, _⟩
      · exact .inr hown
      · exact hentry
    have hrejection := isRejection_of_invalidity hinvalidity
    refine .inl ⟨⟨invalid, hinvalidity⟩, ?_⟩
    rw [hset invalid (.inr ⟨hentry, hinvalidity⟩) hrejection.1, hrejection.2]
  | none =>
    have hvalid (cond : Condition) : ¬ invalidity api hr = .ok (some cond) := by
      rw [hinvalidity]
      intro h
      cases h
    refine .inr ⟨fun ⟨cond, hcond⟩ => hvalid cond hcond, ?_⟩
    rcases hsets with ⟨hown, _⟩ | ⟨_, hcond⟩
    · exact ⟨hown, hset (acceptedRoute (.http hr)) (.inl ⟨hown, .inr ⟨hinvalidity, rfl⟩⟩) rfl⟩
    · exact absurd hcond (hvalid _)

/-- The first entry for a parentRef for which something is set accepts the route if it is valid. -/
theorem written_entry_iff {gw : Gateway} (hws : httpRouteWrites api hr = .ok ws) (hw : w ∈ ws)
    {parents : List RouteParentStatus} {e : RouteParentStatus}
    (he : e = updated (·.ref) (StatusWrite.apply api.now hr.generation) ws w.ref
      ((parents.find? fun e => e.parentRef = w.ref).getD ⟨w.ref, gatewayControllerName, []⟩)) :
    ((Owner.gateway gw).named hr.ns e.parentRef → acceptedStatus e = some .false) ↔
      ((Owner.gateway gw).named hr.ns w.ref → Invalid api hr) := by
  have href : ((parents.find? fun e => e.parentRef = w.ref).getD
      ⟨w.ref, gatewayControllerName, []⟩).parentRef = w.ref := by
    cases hfind : parents.find? fun e => e.parentRef = w.ref with
    | none => rfl
    | some e => simpa using find?_some hfind
  rw [he, acceptedStatus_updated href, updated_entry, href]
  refine imp_congr_right fun _ => ?_
  rcases lastSet_accepted_http hws hw with ⟨hinvalid, hlast⟩ | ⟨hvalid, _, hlast⟩
  · exact iff_of_true (by rw [hlast]; rfl) hinvalid
  · exact iff_of_false (by rw [hlast]; simp) hvalid

/-- Which HTTPRoutes the pass leaves unaccepted, by their status before it. -/
theorem unaccepted_http_iff {gw : Gateway} {parents : List RouteParentStatus}
    (h : setHTTPRouteStatus api hr = .ok parents) :
    Unaccepted gw { hr.toCommonRoute with parents := parents } ↔
      CheckedRoute.LeftUnaccepted api gw (.http hr) := by
  obtain ⟨ws, hws, rfl⟩ := bind_pure_eq_ok.1 h
  have hwrites : (CheckedRoute.http hr).writes api [] = .ok ws := hws
  have hwritten (ref : ParentReference) :
      (∃ w ∈ ws, w.ref = ref) ↔ ∃ cond, HTTPSets api hr ref cond := exists_sets_iff hwrites
  -- the entries that are written accept the route if it is valid
  have hfirst : (∀ w ∈ ws, (Owner.gateway gw).named hr.ns w.ref → Invalid api hr) ↔
      ∀ ref, OwnRef api (.http hr) ref → (Owner.gateway gw).named hr.ns ref → Invalid api hr := by
    constructor
    · intro h ref hown
      obtain ⟨w, hw, rfl⟩ := (hwritten ref).2 ⟨resolvedRefs, .inl ⟨hown, .inl rfl⟩⟩
      exact h w hw
    · intro h w hw hnamed
      rcases lastSet_accepted_http hws hw with ⟨hinvalid, _⟩ | ⟨_, hown, _⟩
      · exact hinvalid
      · exact h w.ref hown hnamed
  change (∀ e ∈ setParentConditions api.now hr.generation ws (prunedParents hr), _ → _) ↔ _
  rw [setParentConditions_eq, forall_mem_upserts_iff (fun _ _ => by rfl) fun _ => by rfl,
    forall₂_congr fun w hw => written_entry_iff hws hw rfl, hfirst]
  refine and_congr_right fun hown => forall₄_congr fun before e after heq => ?_
  constructor
  · intro h hnamed
    by_cases hset : Invalid api hr ∧ ∀ b ∈ before, b.parentRef ≠ e.parentRef
    · exact .inr hset
    · refine .inl (h ?_ hnamed)
      by_cases hbefore : ∃ b ∈ before, b.parentRef = e.parentRef
      · exact .inr hbefore
      · -- a valid route has nothing set for a parentRef that names the Gateway
        refine .inl fun w hw (href : w.ref = e.parentRef) => hset ⟨?_, fun b hb hb' => ?_⟩
        · exact hfirst.2 hown w hw (href ▸ hnamed)
        · exact hbefore ⟨b, hb, hb'⟩
  · rintro h hkept hnamed
    rcases h hnamed with hstatus | ⟨⟨cond, hcond⟩, hbefore⟩
    · exact hstatus
    · have hhas : HasEntry api hr e.parentRef :=
        .inl (mem_map_of_mem (by rw [heq]; simp))
      obtain ⟨w, hw, href⟩ := (hwritten e.parentRef).2 ⟨cond, .inr ⟨hhas, hcond⟩⟩
      rcases hkept with hnone | ⟨b, hb, hb'⟩
      · exact absurd href (hnone w hw)
      · exact absurd hb' (hbefore b hb)

end

/-! ## Which routes are programmed -/

section

variable {gw : Gateway} {attached : List ListenerSet} {listing listing' : Listing} {input : Input}
  {m : Model} {r r' : CheckedRoute}

theorem unaccepted_refreshed_iff (h : r.refreshed api = .ok r') :
    Unaccepted gw r'.toRoute.toCommonRoute ↔ r.LeftUnaccepted api gw := by
  cases r with
  | http hr =>
    obtain ⟨parents, hparents, rfl⟩ := bind_pure_eq_ok.1 h
    exact unaccepted_http_iff hparents
  | tls tr =>
    obtain rfl := pure_eq_ok.1 h
    rfl
  | grpc gr =>
    obtain rfl := pure_eq_ok.1 h
    rfl

variable (gw attached) in
/-- Neither the filters nor ingestion look at the status of an HTTPRoute. -/
theorem programmed_refreshed_iff (h : r.refreshed api = .ok r') :
    (FilterPasses api.toCluster gw attached r'.toRoute ↔
        FilterPasses api.toCluster gw attached r.toRoute) ∧
      (∀ l s, Reaches l s r'.toRoute ↔ Reaches l s r.toRoute) ∧
      r'.toRoute.rules = r.toRoute.rules := by
  cases r with
  | http hr =>
    obtain ⟨parents, hparents, rfl⟩ := bind_pure_eq_ok.1 h
    exact ⟨Iff.rfl, fun _ _ => Iff.rfl, rfl⟩
  | tls tr =>
    obtain rfl := pure_eq_ok.1 h
    exact ⟨Iff.rfl, fun _ _ => Iff.rfl, rfl⟩
  | grpc gr =>
    obtain rfl := pure_eq_ok.1 h
    exact ⟨Iff.rfl, fun _ _ => Iff.rfl, rfl⟩

theorem exists_refreshed (hlisting : setRouteStatuses api listing = .ok listing')
    (hr : listing.Has r.toRoute) : ∃ r', r.refreshed api = .ok r' ∧ listing'.Has r'.toRoute := by
  obtain ⟨httpRoutes, hhttp, rfl⟩ := bind_pure_eq_ok.1 hlisting
  cases r with
  | http hr' =>
    obtain ⟨hr'', hmem, hstatus⟩ := exists_of_forall₂_left (mapM_eq_ok.1 hhttp) hr
    obtain ⟨parents, hparents, rfl⟩ := bind_pure_eq_ok.1 hstatus
    refine ⟨.http { hr' with parents := parents }, ?_, hmem⟩
    rw [CheckedRoute.refreshed, hparents]
    rfl
  | tls tr => exact ⟨.tls tr, rfl, hr⟩
  | grpc gr => exact ⟨.grpc gr, rfl, hr⟩

theorem programmed_iff (hin : buildInput api.toCluster gw attached listing' = .ok input)
    (hm : gatewayAPI input = .ok m) {route : Route} (hroute : listing'.Has route) :
    Programmed input m gw route ↔ FilterPasses api.toCluster gw attached route ∧
      route.rules ≠ [] ∧ ∃ l ∈ gw.listeners, Reaches l (gatewayFQR gw) route := by
  have hcontributes (l : Listener) (hl : l ∈ gw.listeners) :
      Contributes input m l (gatewayFQR gw) route ↔ FilterPasses api.toCluster gw attached route ∧
        Reaches l (gatewayFQR gw) route ∧ route.rules ≠ [] := by
    have ho : Owner.declares api.toCluster gw attached (gatewayListener gw l) (.gateway gw) :=
      ⟨rfl, hl, rfl⟩
    have hsourced : (l, gatewayFQR gw) ∈ input.sourced :=
      mem_sourced_buildInput hin (mem_mergeListeners.2 ⟨_, ho⟩)
    rw [contributes_iff hm hsourced, buildInput_has hin, and_iff_right hroute]
  constructor
  · rintro ⟨l, hl, h⟩
    obtain ⟨hpasses, hreaches, hrules⟩ := (hcontributes l hl).1 h
    exact ⟨hpasses, hrules, l, hl, hreaches⟩
  · rintro ⟨hpasses, hrules, l, hl, hreaches⟩
    exact ⟨l, hl, (hcontributes l hl).2 ⟨hpasses, hreaches, hrules⟩⟩

/-- A route that is not accepted is programmed exactly if it passes the filter of its kind, which
    for TLSRoutes and GRPCRoutes includes `isAttachable`, reaches a listener and has a rule. -/
theorem unacceptedLaw_iff (hlisting : setRouteStatuses api listing = .ok listing')
    (hin : buildInput api.toCluster gw attached listing' = .ok input)
    (hm : gatewayAPI input = .ok m) (hr : listing.Has r.toRoute) :
    UnacceptedLaw api gw input m r ↔
      ¬ (r.LeftUnaccepted api gw ∧ FilterPasses api.toCluster gw attached r.toRoute ∧
        r.toRoute.rules ≠ [] ∧ ∃ l ∈ gw.listeners, Reaches l (gatewayFQR gw) r.toRoute) := by
  obtain ⟨r', hr', hhas⟩ := exists_refreshed hlisting hr
  obtain ⟨hpasses, hreaches, hrules⟩ := programmed_refreshed_iff gw attached hr'
  have hlaw : UnacceptedLaw api gw input m r ↔
      (Unaccepted gw r'.toRoute.toCommonRoute → ¬ Programmed input m gw r'.toRoute) := by
    constructor
    · intro h
      exact h r' hr'
    · intro h r'' hr''
      obtain rfl := Except.ok.inj (hr'.symm.trans hr'')
      exact h
  rw [hlaw, unaccepted_refreshed_iff hr', programmed_iff hin hm hhas, hpasses, hrules]
  simp only [hreaches]
  exact not_and.symm

end

/-! ## A Gateway with an HTTP listener -/

def ownGateway : Gateway := { sharedGateway with gatewayClassName := "dolphin" }

def openAPI : RouteAPI := .ofGateway ownGateway

/-- A TLSRoute that is not accepted for the Gateway. -/
def rejectedRoute : TLSRoute where
  name := "sni"
  ns := "infra"
  parentRefs := [{ name := "gw" }]
  parents := [{
    parentRef := { name := "gw" }
    controllerName := gatewayControllerName
    conditions := [⟨"Accepted", .false, "NoMatchingParent", "", 0, 0⟩] }]
  rules := [{}]

theorem rejectedRoute_run : ∃ listing' input m,
    setRouteStatuses openAPI { tlsRoutes := [rejectedRoute] } = .ok listing' ∧
      buildInput openAPI.toCluster ownGateway [] listing' = .ok input ∧
      gatewayAPI input = .ok m :=
  ⟨_, _, _, rfl, rfl, rfl⟩

/-- The filter does not let the route in. -/
theorem unacceptedLaw_rejectedRoute : ∃ listing' input m,
    setRouteStatuses openAPI { tlsRoutes := [rejectedRoute] } = .ok listing' ∧
      buildInput openAPI.toCluster ownGateway [] listing' = .ok input ∧
      gatewayAPI input = .ok m ∧
      UnacceptedLaw openAPI ownGateway input m (.tls rejectedRoute) := by
  obtain ⟨listing', input, m, hlisting, hin, hm⟩ := rejectedRoute_run
  refine ⟨listing', input, m, hlisting, hin, hm, ?_⟩
  refine (unacceptedLaw_iff hlisting hin hm mem_cons_self).2 ?_
  rintro ⟨_, ⟨hattachable, _⟩, _⟩
  exact absurd hattachable (by decide)

/-- An HTTPRoute that sets a header that is not supported. -/
def hostRoute : HTTPRoute where
  name := "web"
  ns := "infra"
  parentRefs := [{ name := "gw" }]
  rules := [{
    filters := [{
      type := .requestHeaderModifier
      requestHeaderModifier := some { set := [⟨"Host", "internal"⟩] } }] }]

theorem hostRoute_run : ∃ listing' input m,
    setRouteStatuses openAPI { httpRoutes := [hostRoute] } = .ok listing' ∧
      buildInput openAPI.toCluster ownGateway [] listing' = .ok input ∧
      gatewayAPI input = .ok m :=
  ⟨_, _, _, rfl, rfl, rfl⟩

/-- The pass takes back the acceptance of the route, but the filter does not look at it. -/
theorem not_unacceptedLaw_hostRoute : ∃ listing' input m,
    setRouteStatuses openAPI { httpRoutes := [hostRoute] } = .ok listing' ∧
      buildInput openAPI.toCluster ownGateway [] listing' = .ok input ∧
      gatewayAPI input = .ok m ∧
      ¬ UnacceptedLaw openAPI ownGateway input m (.http hostRoute) := by
  obtain ⟨listing', input, m, hlisting, hin, hm⟩ := hostRoute_run
  refine ⟨listing', input, m, hlisting, hin, hm, fun hlaw => ?_⟩
  obtain ⟨r', hr', hhas⟩ : ∃ r', CheckedRoute.refreshed openAPI (.http hostRoute) = .ok r' ∧
      listing'.Has r'.toRoute := exists_refreshed hlisting mem_cons_self
  obtain ⟨hpasses, hreaches, hrules⟩ := programmed_refreshed_iff ownGateway [] hr'
  have hinvalid : Invalid openAPI hostRoute := ⟨_, rfl⟩
  have hnone : prunedParents hostRoute = [] := rfl
  refine hlaw r' hr' ((unaccepted_refreshed_iff hr').2 ⟨fun _ _ _ => hinvalid, ?_⟩)
    ((programmed_iff hin hm hhas).2 ⟨hpasses.2 ?_, ?_, openListener, mem_cons_self, ?_⟩)
  · intro before e after heq
    rw [hnone] at heq
    simp at heq
  · exact ⟨gatewayListener ownGateway openListener, .gateway ownGateway,
      ⟨rfl, mem_cons_self, rfl⟩,
      ⟨_, mem_cons_self, ⟨by decide, by decide, by decide⟩, .inl rfl, .inl rfl⟩,
      by decide, by decide⟩
  · rw [hrules]
    exact cons_ne_nil _ _
  · exact (hreaches _ _).2 ⟨rfl, by decide, by decide⟩

end Reconcile
