import Dolphin.Ingestion.Gateway

/-!
# Routes as the API server admits them

Ingestion dereferences many fields without looking whether they are set. For what the API server
admits, with its defaults applied, they are: a filter has the field that its type names, a path
modifier too, and matches have their types (`AdmittedInput`). Hence ingestion returns
(`ingestible_of_admitted`).

The port of a reference need only be set if it refers to a Service.
-/

namespace Ingestion

open Gatewayv1 Go Option

structure AdmittedPathModifier (path : HTTPPathModifier) : Prop where
  full : path.type = .replaceFullPath → path.replaceFullPath.isSome
  prefixMatch : path.type = .replacePrefixMatch → path.replacePrefixMatch.isSome

/-- A mirror is set if its filter is one, and has a port if it is to a Service. -/
structure AdmittedMirror (isMirror : Prop) (mirror : Option HTTPRequestMirrorFilter) : Prop where
  set : isMirror → mirror.isSome
  port : ∀ m ∈ mirror, isService m.backendRef = true → m.backendRef.port.isSome

structure AdmittedHTTPFilter (f : HTTPRouteFilter) : Prop where
  requestHeaderModifier : f.type = .requestHeaderModifier → f.requestHeaderModifier.isSome
  responseHeaderModifier : f.type = .responseHeaderModifier → f.responseHeaderModifier.isSome
  requestMirror : AdmittedMirror (f.type = .requestMirror) f.requestMirror
  requestRedirect : ∀ r ∈ f.requestRedirect, ∀ path ∈ r.path, AdmittedPathModifier path
  urlRewrite : ∀ r ∈ f.urlRewrite, ∀ path ∈ r.path, AdmittedPathModifier path

structure AdmittedGRPCFilter (f : GRPCRouteFilter) : Prop where
  requestHeaderModifier : f.type = .requestHeaderModifier → f.requestHeaderModifier.isSome
  responseHeaderModifier : f.type = .responseHeaderModifier → f.responseHeaderModifier.isSome
  requestMirror : AdmittedMirror (f.type = .requestMirror) f.requestMirror

structure AdmittedHTTPRule (rule : HTTPRouteRule) : Prop where
  filters : ∀ f ∈ rule.filters, AdmittedHTTPFilter f
  backendFilters : ∀ be ∈ rule.backendRefs, ∀ f ∈ be.filters, AdmittedHTTPFilter f
  paths : ∀ m ∈ rule.routeMatches, ∀ path ∈ m.path, path.type.isSome ∧ path.value.isSome
  headers : ∀ m ∈ rule.routeMatches, ∀ header ∈ m.headers, header.type.isSome

structure AdmittedGRPCRule (rule : GRPCRouteRule) : Prop where
  filters : ∀ f ∈ rule.filters, AdmittedGRPCFilter f
  methods : ∀ m ∈ rule.routeMatches, ∀ method ∈ m.method, method.type.isSome

/-- The HTTPRoutes and GRPCRoutes are admitted. Of the others, nothing is dereferenced. -/
structure AdmittedInput (input : Input) : Prop where
  http : ∀ r ∈ input.httpRoutes, ∀ rule ∈ r.rules, AdmittedHTTPRule rule
  grpc : ∀ r ∈ input.grpcRoutes, ∀ rule ∈ r.rules, AdmittedGRPCRule rule

/-! ## Conversions that return -/

theorem exists_toHttpHeaderFilter {f : Option HTTPHeaderFilter} (h : f.isSome) :
    ∃ y, toHttpHeaderFilter f = .ok y := by
  obtain ⟨f, rfl⟩ := isSome_iff_exists.1 h
  exact ⟨_, rfl⟩

theorem exists_toHTTPRequestMirror {mirror : Option HTTPRequestMirrorFilter} (h : mirror.isSome)
    (ns : String) : ∃ y, toHTTPRequestMirror mirror ns = .ok y := by
  obtain ⟨mirror, rfl⟩ := isSome_iff_exists.1 h
  exact ⟨_, rfl⟩

theorem exists_toHTTPRequestRedirectFilter {redirect : Option HTTPRequestRedirectFilter}
    (h : ∀ r ∈ redirect, ∀ path ∈ r.path, AdmittedPathModifier path) (listener : Listener) :
    ∃ y, toHTTPRequestRedirectFilter listener redirect = .ok y := by
  cases redirect with
  | none => exact ⟨_, rfl⟩
  | some r =>
    rw [toHTTPRequestRedirectFilter]
    cases hpath : r.path with
    | none => exact ⟨_, rfl⟩
    | some path =>
      have hadmitted := h r rfl path hpath
      cases htype : path.type with
      | replaceFullPath =>
        obtain ⟨full, hfull⟩ := isSome_iff_exists.1 (hadmitted.full htype)
        simp only [htype, hfull]
        exact ⟨_, rfl⟩
      | replacePrefixMatch =>
        obtain ⟨pre, hpre⟩ := isSome_iff_exists.1 (hadmitted.prefixMatch htype)
        simp only [htype, hpre]
        exact ⟨_, rfl⟩
      | other name =>
        simp only [htype]
        exact ⟨_, rfl⟩

theorem exists_toHTTPRewriteFilter {rewrite : Option HTTPURLRewriteFilter}
    (h : ∀ r ∈ rewrite, ∀ path ∈ r.path, AdmittedPathModifier path) :
    ∃ y, toHTTPRewriteFilter rewrite = .ok y := by
  cases rewrite with
  | none => exact ⟨_, rfl⟩
  | some r =>
    rw [toHTTPRewriteFilter]
    cases hpath : r.path with
    | none => exact ⟨_, rfl⟩
    | some path =>
      have hadmitted := h r rfl path hpath
      cases htype : path.type with
      | replaceFullPath =>
        obtain ⟨full, hfull⟩ := isSome_iff_exists.1 (hadmitted.full htype)
        simp only [htype, hfull]
        exact ⟨_, rfl⟩
      | replacePrefixMatch =>
        obtain ⟨pre, hpre⟩ := isSome_iff_exists.1 (hadmitted.prefixMatch htype)
        simp only [htype, hpre]
        exact ⟨_, rfl⟩
      | other name =>
        simp only [htype]
        exact ⟨_, rfl⟩

theorem exists_applyHTTPFilter {f : HTTPRouteFilter} (h : AdmittedHTTPFilter f)
    (listener : Listener) (ns : String) (acc : RuleFilters) :
    ∃ acc', applyHTTPFilter listener ns acc f = .ok acc' := by
  rw [applyHTTPFilter]
  cases htype : f.type with
  | requestHeaderModifier =>
    exact exists_bind_pure (exists_toHttpHeaderFilter (h.requestHeaderModifier htype))
  | responseHeaderModifier =>
    exact exists_bind_pure (exists_toHttpHeaderFilter (h.responseHeaderModifier htype))
  | requestRedirect =>
    exact exists_bind_pure (exists_toHTTPRequestRedirectFilter h.requestRedirect listener)
  | urlRewrite => exact exists_bind_pure (exists_toHTTPRewriteFilter h.urlRewrite)
  | requestMirror =>
    exact exists_bind_pure (exists_toHTTPRequestMirror (h.requestMirror.set htype) ns)
  | other name => exact ⟨_, rfl⟩

theorem exists_applyGRPCFilter {f : GRPCRouteFilter} (h : AdmittedGRPCFilter f) (ns : String)
    (acc : RuleFilters) : ∃ acc', applyGRPCFilter ns acc f = .ok acc' := by
  rw [applyGRPCFilter]
  cases htype : f.type with
  | requestHeaderModifier =>
    exact exists_bind_pure (exists_toHttpHeaderFilter (h.requestHeaderModifier htype))
  | responseHeaderModifier =>
    exact exists_bind_pure (exists_toHttpHeaderFilter (h.responseHeaderModifier htype))
  | requestMirror =>
    exact exists_bind_pure (exists_toHTTPRequestMirror (h.requestMirror.set htype) ns)
  | other name => exact ⟨_, rfl⟩

theorem exists_backendHttpFilter {f : HTTPRouteFilter} (h : AdmittedHTTPFilter f) (ns : String)
    (be : HTTPBackendRef) : ∃ y, backendHttpFilter ns be f = .ok y := by
  rw [backendHttpFilter]
  cases htype : f.type with
  | requestHeaderModifier =>
    exact exists_bind_pure (exists_toHttpHeaderFilter (h.requestHeaderModifier htype))
  | responseHeaderModifier =>
    exact exists_bind_pure (exists_toHttpHeaderFilter (h.responseHeaderModifier htype))
  | requestRedirect | urlRewrite | requestMirror | other => exact ⟨_, rfl⟩

theorem exists_toPathMatch {m : HTTPRouteMatch}
    (h : ∀ path ∈ m.path, path.type.isSome ∧ path.value.isSome) : ∃ y, toPathMatch m = .ok y := by
  rw [toPathMatch]
  cases hpath : m.path with
  | none => exact ⟨_, rfl⟩
  | some path =>
    obtain ⟨htype, hvalue⟩ := h path hpath
    obtain ⟨t, ht⟩ := isSome_iff_exists.1 htype
    obtain ⟨v, hv⟩ := isSome_iff_exists.1 hvalue
    simp only [ht, hv]
    cases t <;> exact ⟨_, rfl⟩

theorem exists_toHeaderMatch {m : HTTPRouteMatch} (h : ∀ header ∈ m.headers, header.type.isSome) :
    ∃ y, toHeaderMatch m = .ok y := by
  refine exists_collect fun header hheader => exists_bind ?_ fun _ => ⟨_, rfl⟩
  obtain ⟨t, ht⟩ := isSome_iff_exists.1 (h header hheader)
  exact ⟨t, deref_eq_ok.2 ht⟩

theorem exists_toGRPCPathMatch {m : GRPCRouteMatch} (h : ∀ method ∈ m.method, method.type.isSome) :
    ∃ y, toGRPCPathMatch m = .ok y := by
  rw [toGRPCPathMatch]
  cases hmethod : m.method with
  | none => exact ⟨_, rfl⟩
  | some method =>
    obtain ⟨t, ht⟩ := isSome_iff_exists.1 (h method hmethod)
    cases hservice : method.service with
    | none =>
      simp only [hservice]
      exact ⟨_, rfl⟩
    | some service =>
      simp only [hservice, ht]
      cases t <;> exact ⟨_, rfl⟩

/-! ## Routes that return -/

section

variable {listener : Listener} {services : List Corev1.Service} {grants : List ReferenceGrant}

theorem exists_ingestHTTPRule {rule : HTTPRouteRule} (h : AdmittedHTTPRule rule)
    (hosts : List String) (r : HTTPRoute) :
    ∃ xs, ingestHTTPRule listener services grants hosts r rule = .ok xs := by
  refine exists_bind (exists_collect fun be hbe => ?_) fun _ =>
    exists_bind (exists_foldlM_eq_ok (fun acc f hf => ?_) _) fun fs => ?_
  · cases ingestBackend httpRouteKind r.ns services grants be.toBackendRef with
    | none => exact ⟨_, rfl⟩
    | some b =>
      exact exists_collect fun f hf => exists_backendHttpFilter (h.backendFilters be hbe f hf) _ _
  · exact exists_applyHTTPFilter (h.filters f hf) _ _ _
  · split_ifs
    · exact ⟨_, rfl⟩
    · refine exists_mapM_eq_ok.2 fun m hm => ?_
      exact exists_bind (exists_toPathMatch (h.paths m hm)) fun _ =>
        exists_bind_pure (exists_toHeaderMatch (h.headers m hm))

theorem exists_ingestGRPCRule {rule : GRPCRouteRule} (h : AdmittedGRPCRule rule)
    (hosts : List String) (r : GRPCRoute) :
    ∃ xs, ingestGRPCRule services grants hosts r rule = .ok xs := by
  refine exists_bind (exists_foldlM_eq_ok (fun acc f hf => ?_) _) fun fs => ?_
  · exact exists_applyGRPCFilter (h.filters f hf) _ _
  · split_ifs
    · exact ⟨_, rfl⟩
    · exact exists_mapM_eq_ok.2 fun m hm =>
        exists_bind_pure (exists_toGRPCPathMatch (h.methods m hm))

end

theorem ingestible_of_admitted {input : Input} (h : AdmittedInput input) : input.Ingestible := by
  intro p _ block hblock
  rcases List.mem_append.1 hblock with hblock | hblock
  · obtain ⟨r, hr, rfl⟩ := List.mem_map.1 hblock
    rw [ingestHTTPRoute]
    split_ifs
    · exact exists_collect fun rule hrule => exists_ingestHTTPRule (h.http r hr rule hrule) _ _
    · exact ⟨_, rfl⟩
  · obtain ⟨r, hr, rfl⟩ := List.mem_map.1 hblock
    rw [ingestGRPCRoute]
    split_ifs
    · exact exists_collect fun rule hrule => exists_ingestGRPCRule (h.grpc r hr rule hrule) _ _
    · exact ⟨_, rfl⟩

end Ingestion
