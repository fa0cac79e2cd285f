import Dolphin.Ingestion.Ingress

/-!
# Where the listeners of an Ingress come from

Everything in the listeners of an Ingress is its own: they have it as their only source, their
routes go to backends in its namespace, and their secrets are those that `spec.tls` names, in
its namespace too, or the default secret (`ownedBy_of_ingress`, `ownedBy_of_ingressPassthrough`).
Their routes match on nothing but the path (`PlainRoute`).
-/

namespace Ingestion

open Model Go Networkingv1 List Option

/-- The Services that the Ingress refers to. -/
def backendServices (ing : Ingress) : List IngressServiceBackend :=
  (ing.defaultBackend.toList ++
    ing.rules.flatMap fun rule => (rule.http.getD []).map (·.backend)).filterMap (·.service)

/-- A route to one Service of the Ingress, that matches on nothing but the path. -/
structure PlainRoute (ing : Ingress) (r : HTTPRoute) : Prop where
  hostnames : r.hostnames = []
  headersMatch : r.headersMatch = []
  queryParamsMatch : r.queryParamsMatch = []
  method : r.method = none
  requestRedirect : r.requestRedirect = none
  requestMirrors : r.requestMirrors = []
  rewrite : r.rewrite = none
  backends : ∃ service ∈ backendServices ing, r.backends = [backendOf ing service]

/-- The secret is one that the Ingress may use for the host. -/
def SecretOf (opts : IngressOptions) (ing : Ingress) (h : String) (secret : TLSSecret) : Prop :=
  (secret.ns = ing.ns ∧ ∃ tlsConfig ∈ ing.tls, h ∈ tlsConfig.hosts ∧
    secret.name = tlsConfig.secretName) ∨
  secret = ⟨opts.defaultSecretName, opts.defaultSecretNamespace⟩

/-- Everything in the listener is the Ingress's own. -/
structure OwnedBy (opts : IngressOptions) (ing : Ingress) (l : HTTPListener) : Prop where
  sources : l.sources = [sourceResource ing]
  routes : ∀ r ∈ l.routes, PlainRoute ing r
  secrets : ∀ tls ∈ l.tls, ∀ secret ∈ tls, SecretOf opts ing l.hostname secret

/-- The same for a listener for passthrough, which has no secrets. -/
structure PassthroughOwnedBy (ing : Ingress) (l : TLSListener) : Prop where
  sources : l.sources = [sourceResource ing]
  routes : ∀ r ∈ l.routes, r.hostnames = [] ∧
    ∃ service ∈ backendServices ing, r.backends = [backendOf ing service]

section

variable {opts : IngressOptions} {ing : Ingress}

theorem backends_of_service {be : IngressBackend} (h : be.service.isSome)
    (hbe : be ∈ ing.defaultBackend.toList ++
      ing.rules.flatMap fun rule => (rule.http.getD []).map (·.backend)) :
    ∃ service ∈ backendServices ing,
      be.service.toList.map (backendOf ing) = [backendOf ing service] := by
  obtain ⟨service, hservice⟩ := isSome_iff_exists.1 h
  rw [hservice]
  exact ⟨service, mem_filterMap.2 ⟨be, hbe, hservice⟩, rfl⟩

theorem backends_of_path {rule : IngressRule} (hrule : rule ∈ ing.rules)
    {paths : List HTTPIngressPath} (hpaths : rule.http = some paths) {path : HTTPIngressPath}
    (hpath : path ∈ paths) (h : path.backend.service.isSome) : ∃ service ∈ backendServices ing,
      path.backend.service.toList.map (backendOf ing) = [backendOf ing service] := by
  refine backends_of_service h (mem_append_right _ (mem_flatMap.2 ⟨rule, hrule, ?_⟩))
  rw [hpaths]
  exact mem_map_of_mem hpath

variable {h : String} {l : HTTPListener} {ls : List HTTPListener}

theorem ownedBy_insecureAt (hing : Ingestible ing) (hl : insecureAt opts ing h = some l) :
    OwnedBy opts ing l := by
  obtain ⟨_, rfl⟩ := insecureAt_eq_some.1 hl
  refine ⟨rfl, fun r hr => ?_, fun tls htls => ?_⟩
  · rcases mem_append.1 hr with hr | hr
    · obtain ⟨be, hbe, rfl⟩ := mem_map.1 hr
      rw [mem_toList, defaultAt] at hbe
      split_ifs at hbe
      exact ⟨rfl, rfl, rfl, rfl, rfl, rfl, rfl,
        backends_of_service (hing.defaultBackend be hbe) (mem_append_left _ (mem_toList.2 hbe))⟩
    · obtain ⟨path, hpath, rfl⟩ := mem_map.1 hr
      obtain ⟨paths, hpaths, hpath⟩ := mem_flatten.1 hpath
      obtain ⟨rule, hrule, hhttp⟩ := mem_filterMap.1 hpaths
      have hrule := (mem_filter.1 hrule).1
      have hok := hing.paths rule hrule paths hhttp path hpath
      exact ⟨rfl, rfl, rfl, rfl, rfl, rfl, rfl, backends_of_path hrule hhttp hpath hok.2⟩
  · cases htls

theorem mem_entriesFor {tlsConfig : IngressTLS} :
    tlsConfig ∈ entriesFor ing h ↔ tlsConfig ∈ ing.tls ∧ h ∈ tlsConfig.hosts := by
  simp only [entriesFor, mem_flatMap, mem_replicate, ne_eq, count_eq_zero, not_not]
  constructor
  · rintro ⟨_, hmem, hhost, rfl⟩
    exact ⟨hmem, hhost⟩
  · rintro ⟨hmem, hhost⟩
    exact ⟨tlsConfig, hmem, hhost, rfl⟩

/-- An entry that names the host leaves secrets that may be used for it. -/
theorem secretOf_entrySecrets {tlsConfig : IngressTLS} (hentry : tlsConfig ∈ entriesFor ing h)
    {tls : Option (List TLSSecret)}
    (htls : ∀ secrets ∈ tls, ∀ secret ∈ secrets, SecretOf opts ing h secret) :
    ∀ secrets ∈ entrySecrets opts ing tlsConfig tls, ∀ secret ∈ secrets,
      SecretOf opts ing h secret := by
  obtain ⟨hmem, hhost⟩ := mem_entriesFor.1 hentry
  rw [entrySecrets]
  split_ifs
  · rintro _ ⟨rfl⟩ secret hsecret
    rw [mem_singleton.1 hsecret]
    exact .inl ⟨rfl, tlsConfig, hmem, hhost, rfl⟩
  · rintro _ ⟨rfl⟩ secret hsecret
    exact .inr (mem_singleton.1 hsecret)
  · exact htls

theorem secretOf_foldl {entries : List IngressTLS}
    (hentries : ∀ tlsConfig ∈ entries, tlsConfig ∈ entriesFor ing h) {tls : Option (List TLSSecret)}
    (htls : ∀ secrets ∈ tls, ∀ secret ∈ secrets, SecretOf opts ing h secret) :
    ∀ secrets ∈ entries.foldl (fun tls tlsConfig => entrySecrets opts ing tlsConfig tls) tls,
      ∀ secret ∈ secrets, SecretOf opts ing h secret := by
  induction entries generalizing tls with
  | nil => exact htls
  | cons tlsConfig entries ih =>
    obtain ⟨hentry, hentries⟩ := forall_mem_cons.1 hentries
    exact ih hentries (secretOf_entrySecrets hentry htls)

theorem ownedBy_secureAt (hing : Ingestible ing) (hl : secureAt opts ing h = some l) :
    OwnedBy opts ing l := by
  have hnone : ∀ secrets ∈ (none : Option (List TLSSecret)), ∀ secret ∈ secrets,
      SecretOf opts ing h secret := fun _ hsecrets => by cases hsecrets
  rw [secureAt] at hl
  split at hl
  · cases hl
  · rename_i tlsConfig d hlast hstar
    obtain rfl := some_inj.1 hl
    have hd := ownedBy_insecureAt hing hstar
    exact ⟨hd.sources, hd.routes, secretOf_entrySecrets (mem_of_getLast? hlast) hnone⟩
  · obtain ⟨l', hl', rfl⟩ := map_eq_some_iff.1 hl
    have hown := ownedBy_insecureAt hing hl'
    obtain ⟨_, rfl⟩ := insecureAt_eq_some.1 hl'
    exact ⟨hown.sources, hown.routes, secretOf_foldl (fun _ h => h) hnone⟩

theorem ownedBy_of_ingress (h : ingress opts ing = .ok ls) (hl : l ∈ ls) : OwnedBy opts ing l := by
  have hing := exists_ingress_iff.1 ⟨ls, h⟩
  rcases (mem_ingress h).1 hl with hl | hl
  · exact ownedBy_insecureAt hing hl
  · exact ownedBy_secureAt hing hl

theorem exists_insecure_of_ingress (h : ingress opts ing = .ok ls) (hl : l ∈ ls) :
    ∃ l' ∈ ls, l'.tls = none ∧ l'.routes = l.routes := by
  have hinsecure {h' : String} {l' : HTTPListener} (hl' : insecureAt opts ing h' = some l') :
      l' ∈ ls ∧ l'.tls = none := by
    obtain ⟨_, rfl⟩ := insecureAt_eq_some.1 hl'
    exact ⟨(mem_ingress h).2 (.inl hl'), rfl⟩
  rcases (mem_ingress h).1 hl with hl | hl
  · exact ⟨l, (hinsecure hl).1, (hinsecure hl).2, rfl⟩
  · rw [secureAt] at hl
    split at hl
    · cases hl
    · rename_i d _ hstar
      obtain ⟨hmem, htls⟩ := hinsecure hstar
      exact ⟨d, hmem, htls, by rw [← some_inj.1 hl]⟩
    · obtain ⟨l', hl', heq⟩ := map_eq_some_iff.1 hl
      obtain ⟨hmem, htls⟩ := hinsecure hl'
      exact ⟨l', hmem, htls, by rw [← heq]⟩

theorem exists_route_of_service (h : ingress opts ing = .ok ls) {service : IngressServiceBackend}
    (hservice : service ∈ backendServices ing) :
    ∃ l ∈ ls, ∃ x ∈ l.routes, x.backends = [backendOf ing service] := by
  have hlistener {h' : String} (hne : defaultAt ing h' ≠ none ∨ httpAt ing h' ≠ []) :
      hostListener opts ing h' (defaultAt ing h') (httpAt ing h') ∈ ls :=
    (mem_ingress h).2 (.inl (insecureAt_eq_some.2 ⟨hne, rfl⟩))
  obtain ⟨be, hbe, hservice⟩ := mem_filterMap.1 hservice
  have hbackends : be.service.toList.map (backendOf ing) = [backendOf ing service] := by
    rw [hservice]
    rfl
  rcases mem_append.1 hbe with hbe | hbe
  · have hdefault : defaultAt ing "*" = some be := (if_pos rfl).trans (mem_toList.1 hbe)
    refine ⟨_, hlistener (.inl (hdefault ▸ some_ne_none be)), defaultRoute opts ing be,
      mem_append_left _ (mem_map.2 ⟨be, ?_, rfl⟩), hbackends⟩
    exact mem_toList.2 hdefault
  · obtain ⟨rule, hrule, hbe⟩ := mem_flatMap.1 hbe
    obtain ⟨path, hpath, rfl⟩ := mem_map.1 hbe
    cases hhttp : rule.http with
    | none =>
      rw [hhttp] at hpath
      cases hpath
    | some paths =>
      rw [hhttp] at hpath
      have hpaths : paths ∈ httpAt ing (hostOf rule) :=
        mem_filterMap.2 ⟨rule, mem_filter.2 ⟨hrule, decide_eq_true rfl⟩, hhttp⟩
      refine ⟨_, hlistener (.inr (ne_nil_of_mem hpaths)), routeOf opts ing path,
        mem_append_right _ (mem_map.2 ⟨path, ?_, rfl⟩), hbackends⟩
      exact mem_flatten.2 ⟨paths, hpaths, hpath⟩

theorem ownedBy_of_ingressPassthrough {ls : List TLSListener}
    (h : ingressPassthrough ing = .ok ls) {l : TLSListener} (hl : l ∈ ls) :
    PassthroughOwnedBy ing l := by
  have hing := exists_ingressPassthrough_iff.1 ⟨ls, h⟩
  have hl := (mem_ingressPassthrough h).1 hl
  rw [passthroughAt] at hl
  split_ifs at hl
  obtain hl := some_inj.1 hl
  rw [← hl]
  refine ⟨rfl, fun r hr => ?_⟩
  obtain ⟨path, hpath, rfl⟩ := mem_map.1 hr
  obtain ⟨hpath, hroot⟩ := mem_filter.1 hpath
  obtain ⟨rule, hrule, hpath⟩ := mem_flatMap.1 hpath
  obtain ⟨hrule, hhost⟩ := mem_filter.1 hrule
  cases hhttp : rule.http with
  | none =>
    rw [hhttp] at hpath
    cases hpath
  | some paths =>
    rw [hhttp] at hpath
    exact ⟨rfl, backends_of_path hrule hhttp hpath (hing rule hrule (of_decide_eq_true hhost).1
      paths hhttp path hpath (of_decide_eq_true hroot))⟩

end

end Ingestion
