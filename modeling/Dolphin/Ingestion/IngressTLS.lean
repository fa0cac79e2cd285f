import Dolphin.Ingestion.IngressOrigins

/-!
# HTTPS for the hosts of an Ingress

A host that `spec.tls` names should be served over TLS as it is without: with the routes of its
rules, a secret, and the redirect from plain HTTP that the annotation or the setting asks for
(`ServedAlike`). But the listener with TLS is a copy of the one for `*`, if there is one.

* `servedAlike_iff`: so the Ingress has no default backend and no rules without a host, or these
  make the same routes as the rules for the host, and there is no redirect.

`Ingress` returns the listeners without TLS and then those with TLS (`exists_listsHosts`).
-/

namespace Ingestion

open Model Go Gatewayv1 Networkingv1 List Option

/-- The routes for a host, in the order of the paths. -/
def routesAt (opts : IngressOptions) (ing : Ingress) (h : String) : List Model.HTTPRoute :=
  (defaultAt ing h).toList.map (defaultRoute opts ing) ++
    (httpAt ing h).flatten.map (routeOf opts ing)

/-- The host has a listener without TLS and one with, and these have the same routes. -/
structure ServedAlike (opts : IngressOptions) (ing : Ingress) (ls : List HTTPListener) (h : String)
    (insecure secure : HTTPListener) : Prop where
  listeners : ls.filter (fun l => l.hostname = h) = [insecure, secure]
  routes : secure.routes = insecure.routes
  port : secure.port = opts.secureListenerPort
  tls : ∃ tlsConfig ∈ ing.tls, h ∈ tlsConfig.hosts ∧
    secure.tls = entrySecrets opts ing tlsConfig none
  redirect : secure.forceHTTPtoHTTPSRedirect = forceHTTPs opts ing

section

variable {opts : IngressOptions} {ing : Ingress} {ls : List HTTPListener} {h host : String}

/-- The secrets that the entries leave are those of one of them. -/
theorem exists_foldl_entrySecrets {entries : List IngressTLS} (hne : entries ≠ []) :
    ∃ tlsConfig ∈ entries,
      entries.foldl (fun tls tlsConfig => entrySecrets opts ing tlsConfig tls) none =
        entrySecrets opts ing tlsConfig none := by
  induction entries using reverseRecOn with
  | nil => exact absurd rfl hne
  | append_singleton entries tlsConfig ih =>
    rw [foldl_concat]
    by_cases hnil : entries = []
    · exact ⟨tlsConfig, mem_concat_self, by rw [hnil]; rfl⟩
    · obtain ⟨tlsConfig', hmem, hfold⟩ := ih hnil
      rw [entrySecrets]
      split_ifs with hname hdefault
      · exact ⟨tlsConfig, mem_concat_self, (if_pos hname).symm⟩
      · refine ⟨tlsConfig, mem_concat_self, ?_⟩
        rw [entrySecrets, if_neg hname, if_pos hdefault]
      · exact ⟨tlsConfig', mem_append_left _ hmem, hfold⟩

theorem routes_of_insecureAt {l : HTTPListener} (hl : insecureAt opts ing h = some l) :
    l.routes = routesAt opts ing h := by
  obtain ⟨_, rfl⟩ := insecureAt_eq_some.1 hl
  rfl

theorem exists_insecureAt (opts : IngressOptions) (hrules : httpAt ing h ≠ []) :
    ∃ l, insecureAt opts ing h = some l :=
  ⟨_, insecureAt_eq_some.2 ⟨.inr hrules, rfl⟩⟩

theorem httpAt_ne_nil_iff :
    httpAt ing host ≠ [] ↔ ∃ rule ∈ ing.rules, hostOf rule = host ∧ rule.http.isSome := by
  constructor
  · intro hne
    obtain ⟨paths, hpaths⟩ := exists_mem_of_ne_nil _ hne
    obtain ⟨rule, hrule, hpart⟩ := mem_filterMap.1 hpaths
    obtain ⟨hrule, hhost⟩ := mem_filter.1 hrule
    exact ⟨rule, hrule, of_decide_eq_true hhost, isSome_of_eq_some hpart⟩
  · rintro ⟨rule, hrule, hhost, hpart⟩
    obtain ⟨paths, hpaths⟩ := isSome_iff_exists.1 hpart
    exact ne_nil_of_mem (mem_filterMap.2 ⟨rule, mem_filter.2 ⟨hrule, decide_eq_true hhost⟩, hpaths⟩)

theorem insecureAt_star_eq_none (opts : IngressOptions) :
    insecureAt opts ing "*" = none ↔ ing.defaultBackend = none ∧ httpAt ing "*" = [] := by
  rw [insecureAt, listenerOf, defaultAt, if_pos rfl]
  exact ite_eq_left_iff.trans (by simp)

/-- The listener with TLS is a copy of that for `*`, or of that of the host. -/
theorem secureAt_eq_some {l secure : HTTPListener} (hl : insecureAt opts ing h = some l)
    (hsecure : secureAt opts ing h = some secure) :
    secure.port = opts.secureListenerPort ∧ (∃ tlsConfig ∈ ing.tls, h ∈ tlsConfig.hosts ∧
        secure.tls = entrySecrets opts ing tlsConfig none) ∧
      match insecureAt opts ing "*" with
      | none => secure.routes = l.routes ∧ secure.forceHTTPtoHTTPSRedirect = forceHTTPs opts ing
      | some star => secure.routes = star.routes ∧ secure.forceHTTPtoHTTPSRedirect = false := by
  rw [secureAt] at hsecure
  cases hlast : (entriesFor ing h).getLast? with
  | none =>
    rw [hlast] at hsecure
    cases hsecure
  | some tlsConfig =>
    rw [hlast] at hsecure
    have hmem := mem_of_getLast? hlast
    cases hstar : insecureAt opts ing "*" with
    | some star =>
      rw [hstar] at hsecure
      obtain rfl := some.inj hsecure
      obtain ⟨htls, hhost⟩ := mem_entriesFor.1 hmem
      obtain ⟨_, rfl⟩ := insecureAt_eq_some.1 hstar
      exact ⟨rfl, ⟨tlsConfig, htls, hhost, rfl⟩, rfl, rfl⟩
    | none =>
      rw [hstar, hl] at hsecure
      obtain rfl := some.inj hsecure
      obtain ⟨tlsConfig', hmem', hfold⟩ := exists_foldl_entrySecrets (ne_nil_of_mem hmem)
      obtain ⟨htls, hhost⟩ := mem_entriesFor.1 hmem'
      exact ⟨rfl, ⟨tlsConfig', htls, hhost, hfold⟩, rfl, rfl⟩

theorem exists_secureAt {l : HTTPListener} (hl : insecureAt opts ing h = some l)
    (htls : ∃ tlsConfig ∈ ing.tls, h ∈ tlsConfig.hosts) : ∃ l, secureAt opts ing h = some l := by
  obtain ⟨tlsConfig, hmem, hhost⟩ := htls
  have hentries := ne_nil_of_mem (mem_entriesFor.2 ⟨hmem, hhost⟩)
  rw [secureAt, getLast?_eq_some_getLast hentries, hl]
  cases insecureAt opts ing "*" with
  | none => exact ⟨_, rfl⟩
  | some star => exact ⟨_, rfl⟩

end

theorem servedAlike_iff {opts : IngressOptions} {ing : Ingress} {ls : List HTTPListener}
    (hls : ingress opts ing = .ok ls) {h : String}
    (htls : ∃ tlsConfig ∈ ing.tls, h ∈ tlsConfig.hosts)
    (hrules : ∃ rule ∈ ing.rules, hostOf rule = h ∧ rule.http.isSome) :
    (∃ insecure secure, ServedAlike opts ing ls h insecure secure) ↔
      (ing.defaultBackend = none ∧ httpAt ing "*" = []) ∨
      (routesAt opts ing "*" = routesAt opts ing h ∧ forceHTTPs opts ing = false) := by
  obtain ⟨l, hl⟩ := exists_insecureAt opts (httpAt_ne_nil_iff.2 hrules)
  obtain ⟨secure, hsecure⟩ := exists_secureAt hl htls
  have hlisteners : ls.filter (fun l => l.hostname = h) = [l, secure] := by
    rw [ingress_eq_ok hls, hl, hsecure]
    rfl
  obtain ⟨hport, hentry, hcopy⟩ := secureAt_eq_some hl hsecure
  have halike : (∃ insecure secure, ServedAlike opts ing ls h insecure secure) ↔
      secure.routes = l.routes ∧ secure.forceHTTPtoHTTPSRedirect = forceHTTPs opts ing := by
    constructor
    · rintro ⟨insecure, secure', halike⟩
      obtain ⟨rfl, hrest⟩ := List.cons.inj (hlisteners.symm.trans halike.listeners)
      obtain ⟨rfl, _⟩ := List.cons.inj hrest
      exact ⟨halike.routes, halike.redirect⟩
    · rintro ⟨hroutes, hredirect⟩
      exact ⟨l, secure, hlisteners, hroutes, hport, hentry, hredirect⟩
  rw [halike, ← insecureAt_star_eq_none opts]
  cases hstar : insecureAt opts ing "*" with
  | none =>
    rw [hstar] at hcopy
    exact iff_of_true hcopy (.inl rfl)
  | some star =>
    rw [hstar] at hcopy
    rw [hcopy.1, hcopy.2, routes_of_insecureAt hstar, routes_of_insecureAt hl, eq_comm (a := false)]
    simp

/-! ## An Ingress with and without a default backend -/

/-- An Ingress for a host with TLS, with or without a default backend. -/
def shopIngress (default : Option IngressBackend) : Ingress where
  name := "shop"
  ns := "team"
  ingressClassName := some "dolphin"
  defaultBackend := default
  tls := [{ hosts := ["shop.example"], secretName := "cert" }]
  rules := [{
    host := "shop.example"
    http := some [{
      path := "/"
      pathType := some .pathPrefix
      backend := ⟨some ⟨"shop", { number := 80 }⟩⟩ }] }]

theorem servedAlike_shopIngress :
    ∃ ls, ingress {} (shopIngress none) = .ok ls ∧
      ∃ insecure secure, ServedAlike {} (shopIngress none) ls "shop.example" insecure secure := by
  obtain ⟨ls, hls⟩ : ∃ ls, ingress {} (shopIngress none) = .ok ls := ⟨_, rfl⟩
  have htls : ∃ tlsConfig ∈ (shopIngress none).tls, "shop.example" ∈ tlsConfig.hosts :=
    ⟨_, mem_cons_self, mem_cons_self⟩
  exact ⟨ls, hls, (servedAlike_iff hls htls ⟨_, mem_cons_self, rfl, rfl⟩).2 (.inl ⟨rfl, rfl⟩)⟩

/-- With a default backend, HTTPS for the host goes to this backend. -/
theorem not_servedAlike_shopIngress :
    ∃ ls insecure secure,
      ingress {} (shopIngress (some ⟨some ⟨"fallback", { number := 80 }⟩⟩)) = .ok ls ∧
      ls.filter (fun l => l.hostname = "shop.example") = [insecure, secure] ∧
      insecure.routes.map (fun r => r.backends.map (·.name)) = [["shop"]] ∧
      secure.routes.map (fun r => r.backends.map (·.name)) = [["fallback"]] ∧
      ¬ ∃ insecure secure, ServedAlike {}
        (shopIngress (some ⟨some ⟨"fallback", { number := 80 }⟩⟩)) ls "shop.example" insecure
        secure := by
  refine ⟨_, _, _, rfl, rfl, rfl, rfl, ?_⟩
  rintro ⟨insecure, secure, halike⟩
  have hlisteners := halike.listeners
  have hroutes := congrArg (List.map fun r => r.backends.map (·.name)) halike.routes
  obtain ⟨rfl, hrest⟩ := List.cons.inj hlisteners
  obtain ⟨rfl, _⟩ := List.cons.inj hrest
  exact absurd hroutes (by decide)

end Ingestion

/-! ## The listeners as a list

The first are one for each host that has something to serve, in the order of the host names, each with
the route for the default backend, if it is for `*`, and one for each path of the rules for the host. -/

namespace Ingestion

open Model Go Networkingv1 Option

/-- The host has a rule with an HTTP part, or is `*` and there is a default backend. -/
def ServesHost (ing : Ingress) (h : String) : Prop :=
  (∃ rule ∈ ing.rules, hostOf rule = h ∧ rule.http.isSome) ∨ (h = "*" ∧ ing.defaultBackend.isSome)

/-- The listeners are those without TLS, one for each host that has something to serve, and then
    those with TLS. -/
structure ListsHosts (opts : IngressOptions) (ing : Ingress)
    (ls insecure secure : List HTTPListener) : Prop where
  listeners : ls = insecure ++ secure
  sorted : (insecure.map (·.hostname)).Pairwise (· < ·)
  hosts : ∀ h, h ∈ insecure.map (·.hostname) ↔ ServesHost ing h
  insecure : ∀ l ∈ insecure, l.port = opts.insecureListenerPort ∧ l.tls = none ∧
    l.routes = routesAt opts ing l.hostname
  secure : ∀ l ∈ secure, l.port = opts.secureListenerPort ∧
    ∃ tlsConfig ∈ ing.tls, l.hostname ∈ tlsConfig.hosts
  sources : ∀ l ∈ ls, l.sources = [sourceResource ing]

section

variable {opts : IngressOptions} {ing : Ingress}

theorem exists_insecureAt_iff {h : String} :
    (∃ l, insecureAt opts ing h = some l) ↔ ServesHost ing h := by
  have hdefault : defaultAt ing h ≠ none ↔ h = "*" ∧ ing.defaultBackend.isSome := by
    rw [defaultAt]
    split_ifs with hstar
    · simp [hstar, isSome_iff_ne_none]
    · simp [hstar]
  simp only [insecureAt_eq_some, exists_and_left, exists_eq, and_true]
  rw [ServesHost, hdefault, httpAt_ne_nil_iff, or_comm]

theorem secureAt_port {h : String} {l : HTTPListener} (hl : secureAt opts ing h = some l) :
    l.port = opts.secureListenerPort ∧ ∃ tlsConfig ∈ ing.tls, h ∈ tlsConfig.hosts := by
  cases hlast : (entriesFor ing h).getLast? with
  | none =>
    rw [secureAt, hlast] at hl
    cases hl
  | some tlsConfig =>
    refine ⟨?_, tlsConfig, mem_entriesFor.1 (List.mem_of_getLast? hlast)⟩
    rw [secureAt, hlast] at hl
    cases hstar : insecureAt opts ing "*" with
    | some star =>
      rw [hstar] at hl
      rw [← some.inj hl]
    | none =>
      rw [hstar] at hl
      obtain ⟨l', _, rfl⟩ := map_eq_some_iff.1 hl
      rfl

theorem exists_listsHosts (h : Ingestible ing) : ∃ ls insecure secure, ingress opts ing = .ok ls ∧
      ListsHosts opts ing ls insecure secure := by
  obtain ⟨insecure, hinsecure⟩ : ∃ insecure, insecureListenerMap opts ing = .ok insecure :=
    exists_insecureListenerMap h
  have hin := (insecureListenerMap_eq_ok hinsecure).2
  have hsec := get?_secureListenerMap_eq hin
  have hls : ingress opts ing = .ok (appendValuesInKeyOrder
      (secureListenerMap opts ing insecure) (appendValuesInKeyOrder insecure [])) :=
    bind_eq_ok.2 ⟨insecure, hinsecure, rfl⟩
  have hname (k : String) (l : HTTPListener) (hl : insecure.get? k = some l) : l.hostname = k := by
    obtain ⟨_, rfl⟩ := insecureAt_eq_some.1 ((hin k).symm.trans hl)
    rfl
  refine ⟨_, appendValuesInKeyOrder insecure [],
    appendValuesInKeyOrder (secureListenerMap opts ing insecure) [], hls, ?_⟩
  constructor
  case listeners => simp only [appendValuesInKeyOrder, List.nil_append]
  case sorted =>
    rw [map_valuesInKeyOrder _ hname]
    exact sortStrings_strict (Map.nodup_keys_toPairs _)
  case hosts =>
    intro host
    rw [map_valuesInKeyOrder _ hname, mem_sortStrings, ← exists_insecureAt_iff,
      ← hin, (Map.lists_of_perm (.refl _)).mem_iff]
  case insecure =>
    intro l hl
    obtain ⟨k, hk⟩ := mem_valuesInKeyOrder.1 hl
    have hat := (hin k).symm.trans hk
    rw [hname k l hk]
    obtain ⟨_, rfl⟩ := insecureAt_eq_some.1 hat
    exact ⟨rfl, rfl, rfl⟩
  case secure =>
    intro l hl
    obtain ⟨k, hk⟩ := mem_valuesInKeyOrder.1 hl
    have hat := (hsec k).symm.trans hk
    rw [hostname_secureAt hat]
    exact secureAt_port hat
  case sources => exact fun l hl => (ownedBy_of_ingress hls hl).sources

end

end Ingestion
