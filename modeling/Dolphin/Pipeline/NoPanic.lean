import Dolphin.Ingestion.Admitted
import Dolphin.Ingestion.Grants
import Dolphin.IngressController.SharedModel
import Dolphin.Pipeline.FailClosed

/-!
# Panics

What the API server admits should never make the operator panic, neither the routes of a Gateway
nor Ingresses, neither in ingestion nor in translation (`PipelinesReturn`).

Of the pointers that are dereferenced on the way, three may be nil all the same
(`pipelinesReturn_iff`): the port of a mirror to something other than a Service, if it is that of
the first model route of a group that forwards; the Service of an Ingress backend that is a
resource of another kind; and the class name of an Ingress.
-/

namespace Pipeline

open Gatewayv1 Ingestion IngressController Translation Go Model Networkingv1 List Option

/-- The two pipelines and what they consist of return. -/
structure PipelinesReturn (input : Input) (t : GatewayTranslator) (r : IngressReconciler)
    (dolphinClass : Option IngressClass) (ings : List Ingress) : Prop where
  gateway : ∃ m, gatewayAPI input = .ok m ∧ ∀ hash slices orders nodePort,
    ∃ res, t.translate hash slices orders nodePort m = .ok res
  ingress : ∀ ing ∈ ings, ∀ ports, ∃ ls, ingress (r.options ports) ing = .ok ls
  passthrough : ∀ ing ∈ ings, ∃ ls, ingressPassthrough ing = .ok ls
  managed : ∀ ing ∈ ings, ∃ managed, isdolphinManagedIngress dolphinClass ing = .ok managed
  shared : ∀ slices orders, ∃ config,
    r.buildSharedResources slices orders dolphinClass ings = .ok config
  dedicated : ∀ slices orders, ∀ ing ∈ ings, ∃ res,
    r.buildDedicatedResources slices orders ing = .ok res

/-- The paths of an admitted Ingress have a type. -/
def AdmittedIngress (ing : Ingress) : Prop :=
  ∀ rule ∈ ing.rules, ∀ paths ∈ rule.http, ∀ path ∈ paths, path.pathType.isSome

/-- The backends of the Ingress are Services. -/
structure OnlyServices (ing : Ingress) : Prop where
  defaultBackend : ∀ be ∈ ing.defaultBackend, be.service.isSome
  paths : ∀ rule ∈ ing.rules, ∀ paths ∈ rule.http, ∀ path ∈ paths, path.backend.service.isSome

/-- The group does not forward, or its first model route mirrors to ports. -/
def MirrorsFit : List Model.HTTPRoute → Prop
  | [] => True
  | first :: rest => first.requestRedirect = none → (first :: rest).flatMap (·.backends) ≠ [] →
    ∀ be ∈ first.requestMirrors.filterMap (·.backend), be.port.isSome

/-- This holds for all model routes with the same host and match. -/
def MirrorsAddressed (m : Model) : Prop :=
  ∀ secure, ∀ h ∈ hostsFor m secure, ∀ k ∈ matchKeys (routesFor m secure h),
    MirrorsFit (groupAt (routesFor m secure h) k)

/-! ## Gateways -/

section

variable {input : Input} {m : Model}

theorem isSome_port_of_forwarded (hm : gatewayAPI input = .ok m) {be : Backend}
    (hbe : be ∈ forwardingBackends m) : be.port.isSome := by
  obtain ⟨_, _, _, _, ref, _, hkept, rfl⟩ := forwards_fromBackendRef hm hbe
  exact isSome_map.trans hkept.port

/-- A model route of the input forwards to ports, or has a response. -/
theorem routesFor_of_gatewayAPI (hm : gatewayAPI input = .ok m) {secure : Bool} {h : String}
    {x : Model.HTTPRoute} (hx : x ∈ routesFor m secure h) :
    (∀ be ∈ x.backends, be.port.isSome) ∧ (x.backends = [] → x.directResponse.isSome) := by
  constructor
  · intro be hbe
    obtain ⟨l, hl, _, hx, _⟩ := mem_routesFor.1 hx
    refine isSome_port_of_forwarded hm ?_
    simp only [forwardingBackends, mem_append, mem_flatMap]
    exact .inl (.inl (.inl ⟨l, hl, x, hx, hbe⟩))
  · intro hnil
    obtain ⟨rule, l, s, _, hmakes, _⟩ := (mem_routesFor_iff_serves hm).1 hx
    obtain ⟨fs, hsame, _⟩ := hmakes.sameEffects
    have hbackends : x.backends = rule.backends input := congrArg Model.HTTPRoute.backends hsame
    have hresponse : x.directResponse = noBackendResponse (rule.backends input) :=
      congrArg Model.HTTPRoute.directResponse hsame
    rw [hresponse, ← hbackends, hnil]
    rfl

/-- For a group of such model routes, only the mirrors may get in the way. -/
theorem groupMade_iff {routes : List Model.HTTPRoute}
    (h : ∀ x ∈ routes, (∀ be ∈ x.backends, be.port.isSome) ∧
      (x.backends = [] → x.directResponse.isSome)) {k : String} (hk : k ∈ matchKeys routes) :
    GroupMade (groupAt routes k) ↔ MirrorsFit (groupAt routes k) := by
  have hgood (x : Model.HTTPRoute) (hx : x ∈ groupAt routes k) :
      (∀ be ∈ x.backends, be.port.isSome) ∧ (x.backends = [] → x.directResponse.isSome) := by
    obtain ⟨x', hx', rfl⟩ := mem_map.1 hx
    exact h x' (mem_filter.1 hx').1
  obtain ⟨first, rest, hgroup⟩ := exists_cons_of_ne_nil (groupAt_ne_nil.2 hk)
  rw [hgroup] at hgood ⊢
  rw [GroupMade, MirrorsFit]
  cases hredirect : first.requestRedirect with
  | some redirect => exact iff_of_true (.inl rfl) fun hnone => absurd hnone (some_ne_none _)
  | none =>
    rw [isSome_none, or_iff_right Bool.false_ne_true, forall_prop_of_true rfl]
    by_cases hnil : (first :: rest).flatMap (·.backends) = []
    · have hfirst := (hgood first mem_cons_self).2
        (append_eq_nil_iff.1 (flatMap_cons ▸ hnil)).1
      rw [if_pos hnil]
      exact iff_of_true (isSome_iff_ne_none.1 hfirst) fun hne => absurd hnil hne
    · rw [if_neg hnil, forall_prop_of_true hnil, and_iff_right]
      intro be hbe
      obtain ⟨x, hx, hbe⟩ := mem_flatMap.1 hbe
      exact (hgood x hx).1 be hbe

theorem mirrorsAddressed_of_ports (hm : gatewayAPI input = .ok m)
    (h : ∀ route, input.Has route → ∀ ref ∈ route.mirrorRefs, ref.port.isSome) :
    MirrorsAddressed m := by
  intro secure host _ k _
  cases hgroup : groupAt (routesFor m secure host) k with
  | nil => trivial
  | cons first rest =>
    intro _ _ be hbe
    obtain ⟨x, hx, rfl⟩ := mem_map.1 (hgroup ▸ mem_cons_self :
      first ∈ groupAt (routesFor m secure host) k)
    obtain ⟨l, hl, _, hx, _⟩ := mem_routesFor.1 (mem_filter.1 hx).1
    obtain ⟨_, _, route, y, hls, hyields, _, hmirrors⟩ := exists_yields_backends hm hl hx
    obtain ⟨hhas, _, ref, href, rfl⟩ := (mirrors_iff hm hls).1 ⟨y, hyields, hmirrors ▸ hbe⟩
    exact isSome_map.trans (h route hhas ref href)

theorem modelSource_ne_none (hm : gatewayAPI input = .ok m) (hne : m.http ≠ []) :
    modelSource m ≠ none := by
  obtain ⟨l, hl⟩ := exists_mem_of_ne_nil _ hne
  obtain ⟨⟨l', s⟩, hl', b, hb, hmem⟩ := (mem_http hm).1 hl
  obtain ⟨_, xs, ys, _, _, rfl⟩ := (mem_block_http hb).1 hmem
  have hname : s.name ≠ "" := by
    rw [Input.sourced] at hl'
    split at hl'
    · obtain ⟨_, _, heq⟩ := mem_map.1 hl'
      rw [← (Prod.mk.inj heq).2]
      exact input.gateway.name_ne
    · obtain ⟨ctx, _, heq⟩ := mem_map.1 hl'
      rw [← (Prod.mk.inj heq).2]
      split_ifs with hctx
      · exact hctx
      · exact input.gateway.name_ne
  have hsummary : ∃ summary ∈ listenerSummaries m, summary.sources.head? = some s :=
    ⟨_, mem_append_left _ (mem_append_left _ (mem_append_left _
      (mem_map.2 ⟨_, hl, rfl⟩))), rfl⟩
  rw [modelSource, ne_eq, find?_eq_none]
  intro hnone
  exact hnone s (mem_filterMap.2 hsummary) (decide_eq_true hname)

theorem exists_gatewayTranslate_iff (hm : gatewayAPI input = .ok m) (t : GatewayTranslator)
    (hash : String → String) (slices : Slices) (orders : RangeOrders) (nodePort : Bool) :
    (∃ res, t.translate hash slices orders nodePort m = .ok res) ↔ MirrorsAddressed m := by
  have htls : ∀ be ∈ tlsBackends m, be.port.isSome := by
    intro be hbe
    refine isSome_port_of_forwarded hm ?_
    simp only [forwardingBackends, mem_append]
    exact .inl (.inl (.inr hbe))
  have hdefault (source : FullyQualifiedResource) :
      (∃ config, (t.toDefault source).translate slices orders m = .ok config) ↔
        MirrorsAddressed m := by
    rw [exists_translate_iff htls]
    refine forall_congr' fun secure => forall_congr' fun h => ?_
    have hredirected : ¬ Redirected (t.toDefault source) m secure h := fun hr =>
      absurd hr.2.1 Bool.false_ne_true
    rw [configuredHosts, configuredHost, if_neg hredirected, virtualHostFor]
    have hgood (x : Model.HTTPRoute) (hx : x ∈ routesFor m secure h) :=
      routesFor_of_gatewayAPI hm hx
    rw [exists_newVirtualHost_iff (fun x hx => ?_) (cons_ne_nil _ _)]
    · constructor
      · intro hmade hh k hk
        exact (groupMade_iff hgood hk).1 (hmade ⟨ne_nil_of_mem hh, .inl hh⟩ k hk)
      · intro hmirrors hh k hk
        exact (groupMade_iff hgood hk).2
          (hmirrors (hh.2.resolve_right hredirected) k hk)
    · by_cases hnil : x.backends = []
      · exact .inr (.inr ((hgood x hx).2 hnil))
      · exact .inl hnil
  rw [GatewayTranslator.translate]
  cases hsource : modelSource m with
  | none =>
    have hhttp : m.http = [] := by
      by_contra hne
      exact modelSource_ne_none hm hne hsource
    refine iff_of_true ⟨_, rfl⟩ fun secure h hh => ?_
    obtain ⟨l, hl, _⟩ := mem_hostsFor.1 hh
    exact absurd hl (hhttp ▸ not_mem_nil)
  | some source =>
    rw [← hdefault source]
    simp only [bind_eq_ok, pure_eq_ok, GatewayTranslator.envoyConfig]
    by_cases hnone : m.http = [] ∧ m.tls = [] ∧ m.tcp = []
    · rw [hdefault]
      simp only [hnone, and_self, if_true]
      refine iff_of_true ⟨_, _, rfl, rfl⟩ fun secure h hh => ?_
      obtain ⟨l, hl, _⟩ := mem_hostsFor.1 hh
      exact absurd hl (hnone.1 ▸ not_mem_nil)
    · simp only [hnone, if_false, bind_eq_ok, pure_eq_ok]
      constructor
      · rintro ⟨_, _, ⟨config, hconfig, _⟩, _⟩
        exact ⟨config, hconfig⟩
      · rintro ⟨config, hconfig⟩
        exact ⟨_, _, ⟨config, hconfig, rfl⟩, rfl⟩

end

/-! ## Ingresses -/

section

variable {ing : Ingress}

theorem ingestible_iff (h : AdmittedIngress ing) : Ingestible ing ↔ OnlyServices ing :=
  ⟨fun hing => ⟨hing.defaultBackend, fun rule hrule paths hpaths path hpath =>
      (hing.paths rule hrule paths hpaths path hpath).2⟩,
    fun hing => ⟨hing.defaultBackend, fun rule hrule paths hpaths path hpath =>
      ⟨h rule hrule paths hpaths path hpath, hing.paths rule hrule paths hpaths path hpath⟩⟩⟩

theorem passthroughIngestible_of (h : OnlyServices ing) : PassthroughIngestible ing.rules :=
  fun rule hrule _ paths hpaths path hpath _ => h.paths rule hrule paths hpaths path hpath

end

theorem pipelinesReturn_iff {input : Input} {t : GatewayTranslator} {r : IngressReconciler}
    {dolphinClass : Option IngressClass} {ings : List Ingress} (hinput : AdmittedInput input)
    (hings : ∀ ing ∈ ings, AdmittedIngress ing) :
    PipelinesReturn input t r dolphinClass ings ↔
      MirrorsAddressed (modelOf input) ∧
        ∀ ing ∈ ings, OnlyServices ing ∧ (ingressClassName ing).isSome := by
  have hm := gatewayAPI_eq_ok.2 ⟨ingestible_of_admitted hinput, rfl⟩
  constructor
  · intro h
    obtain ⟨m, hm', htranslate⟩ := h.gateway
    obtain rfl := Except.ok.inj (hm'.symm.trans hm)
    refine ⟨?_, fun ing hing => ⟨?_, ?_⟩⟩
    · exact (exists_gatewayTranslate_iff hm t (fun s => s) .reference .entries false).1
        (htranslate _ _ _ _)
    · exact (ingestible_iff (hings ing hing)).1 (exists_ingress_iff.1 (h.ingress ing hing (0, 0, 0)))
    · exact exists_isdolphinManagedIngress_iff.1 (h.managed ing hing)
  · rintro ⟨hmirrors, hservices⟩
    have hingestible (ing : Ingress) (hing : ing ∈ ings) : Ingestible ing :=
      (ingestible_iff (hings ing hing)).2 (hservices ing hing).1
    constructor
    case gateway =>
      exact ⟨_, hm, fun _ _ _ _ => (exists_gatewayTranslate_iff hm ..).2 hmirrors⟩
    case ingress => exact fun ing hing _ => exists_ingress_iff.2 (hingestible ing hing)
    case passthrough =>
      exact fun ing hing =>
        exists_ingressPassthrough_iff.2 (passthroughIngestible_of (hservices ing hing).1)
    case managed =>
      exact fun ing hing => exists_isdolphinManagedIngress_iff.2 (hservices ing hing).2
    case shared =>
      exact exists_buildSharedResources fun ing hing =>
        ⟨(hservices ing hing).2, hingestible ing hing⟩
    case dedicated =>
      exact fun slices orders ing hing =>
        exists_buildDedicatedResources (hingestible ing hing) slices orders

/-! ## Nil pointers of admitted objects -/

/-- A route to a Service, with a mirror. -/
def auditRoute (mirror : BackendObjectReference) : Gatewayv1.HTTPRoute where
  name := "stock"
  ns := "team"
  parentRefs := [{ name := "gw", ns := some "infra" }]
  rules := [{
    filters := [{ type := .requestMirror, requestMirror := some { backendRef := mirror } }]
    backendRefs := [{ name := "stock", port := some 80 }] }]

def auditInput (mirror : BackendObjectReference) : Input where
  gateway := { name := "gw", ns := "infra", listeners := [shopListener] }
  httpRoutes := [auditRoute mirror]
  services := [⟨"stock", "team"⟩]

/-- An Ingress with a default backend only. -/
def fallbackIngress (cls : Option String) (be : IngressBackend) : Ingress where
  name := "shop"
  ns := "team"
  ingressClassName := cls
  defaultBackend := some be

def webBackend : IngressBackend := ⟨some ⟨"web", { number := 80 }⟩⟩

def ingressReconciler : IngressReconciler where
  sharedLBServiceName := "dolphin-ingress"
  dolphinNamespace := "dolphin"

theorem admittedInput_auditInput {mirror : BackendObjectReference}
    (h : isService mirror = true → mirror.port.isSome) : AdmittedInput (auditInput mirror) := by
  refine ⟨fun r hr rule hrule => ?_, fun _ h => by cases h⟩
  obtain rfl := mem_singleton.1 hr
  obtain rfl := mem_singleton.1 hrule
  refine ⟨fun f hf => ?_, fun be hbe f hf => ?_, by simp, by simp⟩
  · obtain rfl := mem_singleton.1 hf
    refine ⟨fun htype => ?_, fun htype => ?_, ⟨fun _ => rfl, fun m hm => ?_⟩, ?_, ?_⟩
    · cases htype
    · cases htype
    · obtain rfl := some.inj hm
      exact h
    · exact fun r hr => absurd hr (some_ne_none r).symm
    · exact fun r hr => absurd hr (some_ne_none r).symm
  · obtain rfl := mem_singleton.1 hbe
    cases hf

theorem admittedIngress_fallbackIngress (cls : Option String) (be : IngressBackend) :
    AdmittedIngress (fallbackIngress cls be) :=
  fun _ h => by cases h

/-- A mirror to a Service with a port and an Ingress with a class and a Service are fine. -/
theorem pipelinesReturn_audit :
    PipelinesReturn (auditInput { name := "audit", port := some 80 }) gatewayTranslator
      ingressReconciler none [fallbackIngress (some "dolphin") webBackend] := by
  have hinput : AdmittedInput (auditInput { name := "audit", port := some 80 }) :=
    admittedInput_auditInput fun _ => rfl
  refine (pipelinesReturn_iff hinput fun ing hing => ?_).2 ⟨?_, fun ing hing => ?_⟩
  · obtain rfl := mem_singleton.1 hing
    exact admittedIngress_fallbackIngress _ _
  · refine mirrorsAddressed_of_ports (gatewayAPI_eq_ok.2 ⟨ingestible_of_admitted hinput, rfl⟩) ?_
    intro route hroute ref href
    cases route with
    | http r =>
      obtain rfl := mem_singleton.1 hroute
      obtain rfl := mem_singleton.1 href
      rfl
    | grpc r | tls r | tcp r | udp r => cases hroute
  · obtain rfl := mem_singleton.1 hing
    refine ⟨⟨fun be hbe => ?_, fun _ h => by cases h⟩, rfl⟩
    obtain rfl := some.inj hbe
    rfl

theorem auditInput_panics :
    (gatewayAPI (auditInput { group := some "shop.example", kind := some "Sink", name := "audit" })
      >>= gatewayTranslator.translate (fun s => s) .reference .entries false) =
      .error .runtimeError :=
  rfl

/-- So do the class of an Ingress that has none and a default backend that is not a Service. -/
theorem not_pipelinesReturn :
    (AdmittedInput
        (auditInput { group := some "shop.example", kind := some "Sink", name := "audit" }) ∧
      ¬ PipelinesReturn
        (auditInput { group := some "shop.example", kind := some "Sink", name := "audit" })
        gatewayTranslator ingressReconciler none []) ∧
      (AdmittedIngress (fallbackIngress none webBackend) ∧
        ¬ PipelinesReturn (auditInput { name := "audit", port := some 80 }) gatewayTranslator
          ingressReconciler none [fallbackIngress none webBackend]) ∧
      (AdmittedIngress (fallbackIngress (some "dolphin") {}) ∧
        ¬ PipelinesReturn (auditInput { name := "audit", port := some 80 }) gatewayTranslator
          ingressReconciler none [fallbackIngress (some "dolphin") {}]) := by
  refine ⟨⟨admittedInput_auditInput fun h => absurd h (by decide), fun h => ?_⟩,
    ⟨admittedIngress_fallbackIngress _ _, fun h => ?_⟩,
    ⟨admittedIngress_fallbackIngress _ _, fun h => ?_⟩⟩
  · obtain ⟨m, hm, htranslate⟩ := h.gateway
    obtain ⟨res, hres⟩ := htranslate (fun s => s) .reference .entries false
    cases (bind_eq_ok.2 ⟨m, hm, hres⟩).symm.trans auditInput_panics
  · obtain ⟨managed, hmanaged⟩ := h.managed _ mem_cons_self
    cases hmanaged
  · obtain ⟨ls, hls⟩ := h.ingress _ mem_cons_self (443, 80, 443)
    cases hls

end Pipeline
