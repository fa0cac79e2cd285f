import Mathlib.Algebra.GroupWithZero.Nat
import Dolphin.Envoy.Requests
import Dolphin.Model.Hosts
import Dolphin.Translation.FilterChains

/-!
# What filter chains match

The filter chain for a certificate is for the host names of the listeners with the certificate,
and that for a cluster of TLS routes for the host names of the routes to it. Envoy matches every
server name if a chain has none, and `*` is not a server name. Host names are put together before
those that are only `*` are left out, hence a listener or a route for all host names is lost among
others (`coversHosts_iff`).

A certificate is looked up by its name alone, without its namespace, so that certificates of the
same name are taken for one another (`certificatesApart_iff`).
-/

namespace Translation

open Model Go Envoy List

variable {slices : Slices} {orders : ListenerOrders} {t : DefaultTranslator} {m : Model}

/-! ## Server names -/

/-- What a filter chain for TLS is made for. -/
inductive ChainOwner
  | certificate (secret : TLSSecret)
  | passthrough (cluster : String)

/-- The host names of each listener with the certificate, or of each TLS route to the cluster. -/
def ownerHosts (m : Model) : ChainOwner → List (List String)
  | .certificate secret => (m.http.filter fun l => secret ∈ l.tls.getD []).map fun l => [l.hostname]
  | .passthrough cluster =>
    ((m.tls.flatMap (·.routes)).filter fun r => cluster ∈ r.backends.map clusterOf).map
      (·.hostnames)

/-- The filter chain that is made. -/
def ownerChain (slices : Slices) (t : DefaultTranslator) (m : Model)
    (statPrefix : String → String) : ChainOwner → FilterChain
  | .certificate secret => certificateChain slices t m secret
  | .passthrough cluster => passthroughChain slices m statPrefix cluster

/-- The filter chain matches a server name if one of the lists of host names does, where an empty
    one matches all, and `*` is not among its server names. -/
structure CoversHosts (chain : FilterChain) (lists : List (List String)) : Prop where
  admits_iff : ∀ s, hasPrefix s "." = false →
    (chain.admits s = true ↔ ∃ hosts ∈ lists, RouteMatches hosts s)
  star : "*" ∉ chain.serverNames

/-- Either all of the lists are for all host names, or none is. -/
def Uniform (lists : List (List String)) : Prop :=
  (∀ hosts ∈ lists, ∀ h ∈ hosts, h = "*") ∨ ∀ hosts ∈ lists, hosts ≠ [] ∧ "*" ∉ hosts

instance (lists : List (List String)) : Decidable (Uniform lists) :=
  inferInstanceAs (Decidable (_ ∨ _))

theorem serverNameMatches_iff_hostMatches {h s : String} (hstar : h ≠ "*")
    (hs : hasPrefix s "." = false) : serverNameMatches h s = true ↔ HostMatches h s := by
  by_cases hwild : ∃ x, h.toList = '*' :: '.' :: x
  · obtain ⟨x, hx⟩ := hwild
    have hprefix : hasPrefix h "*." = true := hasPrefix_iff.2 ⟨x, hx.symm⟩
    have htrim : (trimPrefix h "*").toList = '.' :: x := toList_trimPrefix hx
    rw [hostMatches_wildcard hx, serverNameMatches, hprefix, Bool.true_and, Bool.or_eq_true,
      beq_iff_eq, hasSuffix_iff, htrim]
    constructor
    · rintro (rfl | ⟨p, hp⟩)
      · exact ⟨['*'], cons_ne_nil _ _, hx⟩
      · refine ⟨p, ?_, hp.symm⟩
        rintro rfl
        exact Bool.false_ne_true (hs.symm.trans (hasPrefix_iff.2 ⟨x, hp⟩))
    · rintro ⟨p, _, hp⟩
      exact .inr ⟨p, hp.symm⟩
  · have hprefix : hasPrefix h "*." = false := by
      refine Bool.eq_false_iff.2 fun hprefix => hwild ?_
      obtain ⟨x, hx⟩ := hasPrefix_iff.1 hprefix
      exact ⟨x, hx.symm⟩
    rw [serverNameMatches, hprefix, Bool.false_and, Bool.or_false, beq_iff_eq, HostMatches,
      or_iff_right hstar]
    split
    · rename_i x hx
      exact absurd ⟨x, hx⟩ hwild
    · exact Iff.rfl

/-- A name that is longer than all host names, and has a single label. -/
def longLabel (hosts : List String) : String :=
  String.ofList (List.replicate ((hosts.map String.length).sum + 1) 'a')

theorem not_hostMatches_longLabel {hosts : List String} {h : String} (hh : h ∈ hosts)
    (hstar : h ≠ "*") : ¬ HostMatches h (longLabel hosts) := by
  rw [HostMatches, or_iff_right hstar]
  split
  · rintro ⟨p, _, hp⟩
    -- the label has no dot
    rw [longLabel, String.toList_ofList] at hp
    have hdot : '.' ∈ List.replicate ((hosts.map String.length).sum + 1) 'a' := by
      rw [hp]
      exact mem_append_right p mem_cons_self
    exact absurd (eq_of_mem_replicate hdot) (by decide)
  · intro heq
    have hle : h.length ≤ (hosts.map String.length).sum := by
      obtain ⟨before, after, rfl⟩ := append_of_mem hh
      simp only [map_append, map_cons, sum_append, sum_cons]
      omega
    have hlength := congrArg (fun s : String => s.toList.length) heq
    simp only [longLabel, String.toList_ofList, length_replicate, String.length_toList] at hlength
    omega

theorem hasPrefix_longLabel (hosts : List String) : hasPrefix (longLabel hosts) "." = false := by
  have hlabel : (longLabel hosts).toList =
      'a' :: List.replicate (hosts.map String.length).sum 'a' := by
    rw [longLabel, String.toList_ofList, replicate_succ]
  refine Bool.eq_false_iff.2 fun hprefix => ?_
  obtain ⟨t, ht⟩ := hasPrefix_iff.1 hprefix
  rw [hlabel] at ht
  exact absurd (List.cons.inj ht).1 (by decide)

section

variable {hosts : List String}

/-- The server names are made from the host names of all lists together. -/
theorem coversHosts_iff_uniform {chain : FilterChain} {lists : List (List String)}
    (htls : chain.transportProtocol = "tls") (hnames : chain.serverNames = serverNames slices hosts)
    (hmem : ∀ h, h ∈ hosts ↔ ∃ l ∈ lists, h ∈ l) (hne : lists ≠ []) :
    CoversHosts chain lists ↔ Uniform lists := by
  have hadmits (s : String) : chain.admits s = true ↔ serverNames slices hosts = [] ∨
      ∃ n ∈ serverNames slices hosts, serverNameMatches n s = true := by
    simp [FilterChain.admits, htls, hnames]
  rcases serverNames_cases slices hosts with ⟨hnil, hall⟩ | ⟨hsome, ⟨other, hother, hne_star⟩, hiff⟩
  · -- nothing but `*`: the chain matches all server names
    refine iff_of_true ⟨fun s _ => ?_, ?_⟩ (.inl fun l hl h hh => hall h ((hmem h).2 ⟨l, hl, hh⟩))
    · obtain ⟨l, hl⟩ := exists_mem_of_ne_nil _ hne
      refine iff_of_true ((hadmits s).2 (.inl hnil)) ⟨l, hl, ?_⟩
      rcases eq_nil_or_concat l with hempty | ⟨_, h, hconcat⟩
      · exact .inl hempty
      · have hh : h ∈ l := by simp [hconcat]
        exact .inr ⟨h, hh, .inl (hall h ((hmem h).2 ⟨l, hl, hh⟩))⟩
    · rw [hnames, hnil]
      exact not_mem_nil
  · have hnot : ¬ ∀ l ∈ lists, ∀ h ∈ l, h = "*" := by
      obtain ⟨l, hl, hh⟩ := (hmem other).1 hother
      exact fun hall => hne_star (hall l hl other hh)
    rw [Uniform, or_iff_right hnot]
    constructor
    · rintro ⟨hcovers, hstar⟩ l hl
      have hnone : "*" ∉ hosts := fun hin => hstar (hnames ▸ (hiff _).2 hin)
      refine ⟨?_, fun hin => hnone ((hmem _).2 ⟨l, hl, hin⟩)⟩
      -- a list for all host names would match the long label
      rintro rfl
      have hlong := (hcovers _ (hasPrefix_longLabel hosts)).2 ⟨[], hl, .inl rfl⟩
      obtain ⟨n, hn, hmatch⟩ := ((hadmits _).1 hlong).resolve_left hsome
      have hin := (hiff n).1 hn
      have hn_star : n ≠ "*" := fun h => hnone (h ▸ hin)
      exact not_hostMatches_longLabel hin hn_star
        ((serverNameMatches_iff_hostMatches hn_star (hasPrefix_longLabel hosts)).1 hmatch)
    · intro hspecific
      have hnone : "*" ∉ hosts := fun hin => by
        obtain ⟨l, hl, hh⟩ := (hmem _).1 hin
        exact (hspecific l hl).2 hh
      refine ⟨fun s hs => ?_, fun hin => hnone ((hiff _).1 (hnames ▸ hin))⟩
      rw [hadmits, or_iff_right hsome]
      constructor
      · rintro ⟨n, hn, hmatch⟩
        have hin := (hiff n).1 hn
        obtain ⟨l, hl, hh⟩ := (hmem n).1 hin
        exact ⟨l, hl, .inr ⟨n, hh, (serverNameMatches_iff_hostMatches (fun h => hnone (h ▸ hin))
          hs).1 hmatch⟩⟩
      · rintro ⟨l, hl, hmatch⟩
        obtain ⟨n, hh, hmatch⟩ := hmatch.resolve_left (hspecific l hl).1
        have hin := (hmem n).2 ⟨l, hl, hh⟩
        exact ⟨n, (hiff n).2 hin, (serverNameMatches_iff_hostMatches (fun h => hnone (h ▸ hin))
          hs).2 hmatch⟩

theorem mem_certificates {secret : TLSSecret} {h : String} :
    (secret, h) ∈ certificates m ↔ [h] ∈ ownerHosts m (.certificate secret) := by
  simp [certificates, ownerHosts, and_assoc]

theorem mem_passthroughs {cluster : String} :
    (cluster, hosts) ∈ passthroughs m ↔ hosts ∈ ownerHosts m (.passthrough cluster) := by
  simp only [passthroughs, ownerHosts, mem_flatMap, mem_map, mem_filter,
    decide_eq_true_eq, Prod.mk.injEq]
  constructor
  · rintro ⟨l, hl, r, hr, be, hbe, hcluster, hhosts⟩
    exact ⟨r, ⟨⟨l, hl, hr⟩, be, hbe, hcluster⟩, hhosts⟩
  · rintro ⟨r, ⟨⟨l, hl, hr⟩, be, hbe, hcluster⟩, hhosts⟩
    exact ⟨l, hl, r, hr, be, hbe, hcluster, hhosts⟩

theorem eq_singleton_of_certificate {secret : TLSSecret}
    (h : hosts ∈ ownerHosts m (.certificate secret)) : ∃ h, hosts = [h] := by
  obtain ⟨l, _, hl⟩ := mem_map.1 h
  exact ⟨l.hostname, hl.symm⟩

/-- The filter chain for an owner matches the host names of its lists, if they are uniform. -/
theorem coversHosts_ownerChain (statPrefix : String → String) {owner : ChainOwner}
    (hne : ownerHosts m owner ≠ []) :
    CoversHosts (ownerChain slices t m statPrefix owner) (ownerHosts m owner) ↔
      Uniform (ownerHosts m owner) := by
  cases owner with
  | certificate secret =>
    refine coversHosts_iff_uniform rfl rfl (fun h => ?_) hne
    rw [certificateHosts, mem_map]
    constructor
    · rintro ⟨⟨_, _⟩, hmem, rfl⟩
      obtain ⟨hcertificate, hsecret⟩ := mem_filter.1 hmem
      obtain rfl := of_decide_eq_true hsecret
      exact ⟨_, mem_certificates.1 hcertificate, mem_singleton_self _⟩
    · rintro ⟨hosts, hhosts, hh⟩
      obtain ⟨h', rfl⟩ := eq_singleton_of_certificate hhosts
      obtain rfl := mem_singleton.1 hh
      exact ⟨_, mem_filter.2 ⟨mem_certificates.2 hhosts, decide_eq_true rfl⟩, rfl⟩
  | passthrough cluster =>
    refine coversHosts_iff_uniform rfl rfl (fun h => ?_) hne
    simp only [← mem_passthroughs, passthroughHosts, mem_flatMap, mem_filter,
      decide_eq_true_eq, Prod.exists]
    constructor
    · rintro ⟨_, hosts, ⟨hmem, rfl⟩, hh⟩
      exact ⟨hosts, hmem, hh⟩
    · rintro ⟨hosts, hmem, hh⟩
      exact ⟨_, hosts, ⟨hmem, rfl⟩, hh⟩

end

section

variable {rs : List XDSResource} (h : getListener slices orders t m = .ok rs) {l : Listener}
  (hl : .listener l ∈ rs)

include h hl

theorem coversHosts_iff :
    ∃ (owners : List ChainOwner) (statPrefix : String → String),
      (∀ owner, owner ∈ owners ↔ ownerHosts m owner ≠ []) ∧
      l.filterChains.filter (·.transportProtocol = "tls") =
        owners.map (ownerChain slices t m statPrefix) ∧
      ∀ owner ∈ owners,
        (CoversHosts (ownerChain slices t m statPrefix owner) (ownerHosts m owner) ↔
          Uniform (ownerHosts m owner)) := by
  obtain ⟨secrets, clusters, hof⟩ := exists_listenerOf_getListener h hl
  obtain ⟨statPrefix, hchains⟩ := hof.tlsChains
  have hmem (owner : ChainOwner) :
      owner ∈ secrets.map .certificate ++ clusters.map .passthrough ↔ ownerHosts m owner ≠ [] := by
    rw [mem_append, mem_map, mem_map, Ne, eq_nil_iff_forall_not_mem, not_forall_not]
    cases owner with
    | certificate secret =>
      simp only [ChainOwner.certificate.injEq, exists_eq_right, reduceCtorEq, and_false,
        exists_false, or_false, hof.secretKeys.mem_iff, mem_certificates]
      constructor
      · rintro ⟨h, hh⟩
        exact ⟨[h], hh⟩
      · rintro ⟨hosts, hhosts⟩
        obtain ⟨h, rfl⟩ := eq_singleton_of_certificate hhosts
        exact ⟨h, hhosts⟩
    | passthrough cluster =>
      simp only [ChainOwner.passthrough.injEq, exists_eq_right, reduceCtorEq, and_false,
        exists_false, false_or, hof.clusterKeys.mem_iff, mem_passthroughs]
  refine ⟨_, statPrefix, hmem, ?_, fun owner howner => ?_⟩
  · rw [hchains, map_append, map_map, map_map]
    rfl
  · exact coversHosts_ownerChain statPrefix ((hmem owner).1 howner)

/-! ## Certificates -/

/-- No two certificates of listeners differ in their namespace only. -/
def NamesTellApart (m : Model) : Prop :=
  ∀ l ∈ m.http, ∀ secret ∈ l.tls.getD [], ∀ l' ∈ m.http, ∀ secret' ∈ l'.tls.getD [],
    secret.name = secret'.name → secret = secret'

/-- The filter chains of different certificates look up different secrets. -/
def CertificatesApart (chain : TLSSecret → FilterChain) (secrets : List TLSSecret) : Prop :=
  ∀ secret ∈ secrets, ∀ secret' ∈ secrets, secret ≠ secret' →
    (chain secret).transportSocket.Disjoint (chain secret').transportSocket

theorem certificatesApart_iff :
    ∃ (secrets : List TLSSecret) (chain : TLSSecret → FilterChain),
      (∀ secret, secret ∈ secrets ↔ ∃ l ∈ m.http, secret ∈ l.tls.getD []) ∧
      l.filterChains.filter (·.transportSocket ≠ []) = secrets.map chain ∧
      (CertificatesApart chain secrets ↔ NamesTellApart m) := by
  obtain ⟨secrets, clusters, hof⟩ := exists_listenerOf_getListener h hl
  obtain ⟨statPrefix, hfilter⟩ := hof.filter_eq
  have hmem (secret : TLSSecret) : secret ∈ secrets ↔ ∃ l ∈ m.http, secret ∈ l.tls.getD [] := by
    simp [hof.secretKeys.mem_iff, certificates]
  refine ⟨secrets, certificateChain slices t m, hmem, ?_, ?_⟩
  · -- the other filter chains have no certificate
    have hpass : (clusters.filter fun c =>
        (passthroughChain slices m statPrefix c).transportSocket ≠ []) = [] :=
      filter_eq_nil_iff.2 fun _ _ => by simp [passthroughChain]
    rw [hfilter _ rfl, hpass, map_nil, append_nil]
    exact congrArg _ (filter_eq_self.2 fun _ _ => rfl)
  · have hdisjoint (secret secret' : TLSSecret) :
        (certificateChain slices t m secret).transportSocket.Disjoint
          (certificateChain slices t m secret').transportSocket ↔ secret.name ≠ secret'.name := by
      rw [certificateChain, certificateChain, disjoint_singleton, mem_singleton,
        String.append_right_inj, eq_comm]
    simp only [CertificatesApart, NamesTellApart, hdisjoint, hmem]
    constructor
    · intro hapart l hl secret hsecret l' hl' secret' hsecret' hname
      exact not_imp_not.1 (hapart secret ⟨l, hl, hsecret⟩ secret' ⟨l', hl', hsecret'⟩) hname
    · rintro hnames secret ⟨l, hl, hsecret⟩ secret' ⟨l', hl', hsecret'⟩
      exact mt (hnames l hl secret hsecret l' hl' secret' hsecret')

end

/-! ## Two listeners -/

/-- Listeners with TLS, each for a host name and with a certificate. -/
def certifiedModel (listeners : List (String × TLSSecret)) : Model where
  http := listeners.map fun p =>
    { name := "web", port := 443, hostname := p.1, tls := some [p.2] }

def certifiedTranslator : DefaultTranslator where
  name := "gw"
  ns := "infra"
  secretsNamespace := "dolphin-secrets"

def certifiedListener (listeners : List (String × TLSSecret)) : Result (List XDSResource) :=
  getListener .reference ⟨.entries, .entries, .entries⟩ certifiedTranslator
    (certifiedModel listeners)

theorem coversHosts_certified :
    ∃ rs l, certifiedListener [("shop.example", ⟨"cert", "infra"⟩), ("*.mail", ⟨"cert", "infra"⟩)] =
        .ok rs ∧ .listener l ∈ rs ∧ ∃ chain ∈ l.filterChains,
      CoversHosts chain [["shop.example"], ["*.mail"]] := by
  obtain ⟨rs, l, hrs, hhead⟩ : ∃ rs l, certifiedListener
      [("shop.example", ⟨"cert", "infra"⟩), ("*.mail", ⟨"cert", "infra"⟩)] = .ok rs ∧
        rs.head? = some (.listener l) := ⟨_, _, rfl, rfl⟩
  have hl := mem_of_head? hhead
  obtain ⟨owners, statPrefix, hmem, hchains, hcovers⟩ := coversHosts_iff hrs hl
  have howner := (hmem (.certificate ⟨"cert", "infra"⟩)).2 (by decide)
  have hchain := (congrArg (_ ∈ ·) hchains).mpr (mem_map_of_mem howner)
  exact ⟨rs, l, hrs, hl, _, (mem_filter.1 hchain).1, (hcovers _ howner).2 (by decide)⟩

/-- One listener is for all host names, and `*` ends up among the server names. -/
theorem not_coversHosts_certified :
    ∃ l chain, certifiedListener [("*", ⟨"cert", "infra"⟩), ("shop.example", ⟨"cert", "infra"⟩)] =
        .ok [.listener l] ∧
      l.filterChains.filter (·.transportProtocol = "tls") = [chain] ∧
      chain.serverNames = ["*", "shop.example"] ∧ chain.admits "mail.example" = false ∧
      ¬ CoversHosts chain [["*"], ["shop.example"]] := by
  refine ⟨_, _, rfl, rfl, by decide, by decide, fun hcovers => hcovers.star ?_⟩
  decide

theorem certificatesApart_certified :
    ∃ rs l, certifiedListener [("shop.example", ⟨"shop", "team"⟩), ("mail.example", ⟨"mail", "ops"⟩)] =
        .ok rs ∧ .listener l ∈ rs ∧ ∃ secrets chain,
      l.filterChains.filter (·.transportSocket ≠ []) = secrets.map chain ∧
        CertificatesApart chain secrets := by
  obtain ⟨rs, l, hrs, hhead⟩ : ∃ rs l, certifiedListener
      [("shop.example", ⟨"shop", "team"⟩), ("mail.example", ⟨"mail", "ops"⟩)] = .ok rs ∧
        rs.head? = some (.listener l) := ⟨_, _, rfl, rfl⟩
  have hl := mem_of_head? hhead
  obtain ⟨secrets, chain, hmem, hchains, hapart⟩ := certificatesApart_iff hrs hl
  refine ⟨rs, l, hrs, hl, secrets, chain, hchains, hapart.2 ?_⟩
  rw [NamesTellApart]
  decide

/-- The certificates have the same name in two namespaces. -/
theorem not_certificatesApart_certified :
    ∃ l chain, certifiedListener
        [("shop.example", ⟨"tls", "team"⟩), ("mail.example", ⟨"tls", "ops"⟩)] =
        .ok [.listener l] ∧
      l.filterChains.filter (·.transportSocket ≠ []) =
        [⟨"tls", "ops"⟩, ⟨"tls", "team"⟩].map chain ∧
      (chain ⟨"tls", "ops"⟩).transportSocket = ["dolphin-secrets/tls"] ∧
      (chain ⟨"tls", "team"⟩).transportSocket = ["dolphin-secrets/tls"] ∧
      ¬ CertificatesApart chain [⟨"tls", "ops"⟩, ⟨"tls", "team"⟩] := by
  refine ⟨_, certificateChain .reference certifiedTranslator (certifiedModel
    [("shop.example", ⟨"tls", "team"⟩), ("mail.example", ⟨"tls", "ops"⟩)]), rfl, rfl, rfl, rfl,
    fun hapart => ?_⟩
  have hdisjoint := hapart _ mem_cons_self ⟨"tls", "team"⟩ (by decide) (by decide)
  exact hdisjoint (mem_singleton_self _) (mem_singleton_self _)

end Translation
