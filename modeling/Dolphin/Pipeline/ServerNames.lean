import Dolphin.Pipeline.Names

/-!
# Server names of filter chains

Envoy finds the filter chain for a connection with TLS by its server name, and rejects a
listener with two filter chains for the same one. Translation makes a filter chain for each
certificate and for each cluster of TLS routes, not for each host name, so that the same name
can be in several of them:

* `unambiguous_iff`: the filter chains are unambiguous exactly if different certificates and
  clusters have no host name in common, and at most one of them has none but `*`.
-/

namespace Pipeline

open Gatewayv1 Ingestion Model Translation Go List

/-- No two filter chains for TLS have a server name in common, and at most one has none. -/
def Unambiguous (l : Envoy.Listener) : Prop :=
  (l.filterChains.filter (·.transportProtocol = "tls")).Pairwise fun a b =>
    a.serverNames.Disjoint b.serverNames ∧ ¬ (a.serverNames = [] ∧ b.serverNames = [])

/-! ## Host names that collide -/

/-- Nothing but `*` is among the host names. -/
def Wildcard (hosts : List String) : Prop := ∀ h ∈ hosts, h = "*"

instance (hosts : List String) : Decidable (Wildcard hosts) :=
  inferInstanceAs (Decidable (∀ h ∈ hosts, h = "*"))

/-- Filter chains for these host names match the same connections. -/
def Collide (hosts hosts' : List String) : Prop :=
  (Wildcard hosts ∧ Wildcard hosts') ∨
    (¬ Wildcard hosts ∧ ¬ Wildcard hosts' ∧ ∃ n ∈ hosts, n ∈ hosts')

instance (hosts hosts' : List String) : Decidable (Collide hosts hosts') :=
  inferInstanceAs (Decidable (_ ∨ _))

theorem collide_iff (slices : Slices) (hosts hosts' : List String) :
    ¬ Collide hosts hosts' ↔ (serverNames slices hosts).Disjoint (serverNames slices hosts') ∧
      ¬ (serverNames slices hosts = [] ∧ serverNames slices hosts' = []) := by
  rcases serverNames_cases slices hosts with ⟨hnil, hwild⟩ | ⟨hne, ⟨h, hh, hstar⟩, hmem⟩
  · rcases serverNames_cases slices hosts' with ⟨hnil', hwild'⟩ | ⟨hne', ⟨h', hh', hstar'⟩, _⟩
    · exact iff_of_false (not_not.2 (.inl ⟨hwild, hwild'⟩)) fun hboth => hboth.2 ⟨hnil, hnil'⟩
    · have hnot : ¬ Wildcard hosts' := fun hwild' => hstar' (hwild' h' hh')
      refine iff_of_true ?_ ⟨hnil ▸ disjoint_nil_left _, fun hboth => hne' hboth.2⟩
      exact fun hcollide => hcollide.elim (fun hboth => hnot hboth.2) fun hboth => hboth.1 hwild
  · have hnot : ¬ Wildcard hosts := fun hwild => hstar (hwild h hh)
    rcases serverNames_cases slices hosts' with ⟨hnil', hwild'⟩ | ⟨_, ⟨h', hh', hstar'⟩, hmem'⟩
    · refine iff_of_true ?_ ⟨hnil' ▸ disjoint_nil_right _, fun hboth => hne hboth.1⟩
      exact fun hcollide => hcollide.elim (fun hboth => hnot hboth.1) fun hboth => hboth.2.1 hwild'
    · have hnot' : ¬ Wildcard hosts' := fun hwild' => hstar' (hwild' h' hh')
      simp only [Collide, hnot, hnot', false_and, false_or, not_false_iff, true_and, hne,
        and_true, List.Disjoint, hmem, hmem', not_exists, not_and]

theorem collide_symm {hosts hosts' : List String} (h : Collide hosts hosts') :
    Collide hosts' hosts := by
  rcases h with ⟨hwild, hwild'⟩ | ⟨hnot, hnot', n, hn, hn'⟩
  · exact .inl ⟨hwild', hwild⟩
  · exact .inr ⟨hnot', hnot, n, hn', hn⟩

/-- Different certificates and clusters of TLS routes have host names that do not collide. -/
def HostsApart (m : Model) : Prop :=
  (∀ p ∈ certificates m, ∀ q ∈ certificates m, p.1 ≠ q.1 →
    ¬ Collide (certificateHosts m p.1) (certificateHosts m q.1)) ∧
  (∀ p ∈ passthroughs m, ∀ q ∈ passthroughs m, p.1 ≠ q.1 →
    ¬ Collide (passthroughHosts m p.1) (passthroughHosts m q.1)) ∧
  ∀ p ∈ certificates m, ∀ q ∈ passthroughs m,
    ¬ Collide (certificateHosts m p.1) (passthroughHosts m q.1)

/-- The filter chains for TLS are unambiguous exactly if the host names of certificates and of
    clusters do not collide. -/
theorem unambiguous_iff {slices : Slices} {orders : RangeOrders} {t : DefaultTranslator}
    {m : Model} {rs : List Envoy.XDSResource} (h : getResources slices orders t m = .ok rs)
    {l : Envoy.Listener} (hl : .listener l ∈ rs) (hname : l.name = "listener") :
    Unambiguous l ↔ HostsApart m := by
  obtain ⟨secrets, clusters, hof⟩ := exists_listenerOf h hl hname
  obtain ⟨statPrefix, htls⟩ := hof.tlsChains
  rw [Unambiguous, htls, pairwise_append, pairwise_map, pairwise_map]
  simp only [forall_mem_map, certificateChain, passthroughChain, ← collide_iff]
  rw [hof.secretKeys.pairwise_iff fun a b hab hba => hab (collide_symm hba),
    hof.clusterKeys.pairwise_iff fun a b hab hba => hab (collide_symm hba), HostsApart]
  simp only [hof.secretKeys.mem_iff, hof.clusterKeys.mem_iff, Prod.forall, forall_exists_index]

/-- A listener with certificates for `shop.example`, and one that passes `mail.example` on. -/
def mailInput (certificates : List SecretObjectReference) (refs : List BackendRef) : Input where
  gateway := { name := "gw", ns := "infra", listeners := [
    { name := "web", port := 443, protocol := .https, hostname := some "shop.example"
      tls := some { certificateRefs := certificates } },
    { name := "sni", port := 8443, protocol := .tls, tls := some { mode := some .passthrough } }] }
  tlsRoutes := [{
    name := "mail"
    ns := "infra"
    parentRefs := [{ name := "gw", sectionName := some "sni" }]
    hostnames := ["mail.example"]
    rules := [⟨refs⟩] }]
  services := [⟨"imap", "infra"⟩, ⟨"pop", "infra"⟩]

theorem unambiguous_mailInput :
    ∃ m rs l, gatewayAPI (mailInput [{ name := "rsa" }] [{ name := "imap", port := some 993 }]) =
        .ok m ∧
      getResources .reference .entries shopTranslator m = .ok rs ∧ .listener l ∈ rs ∧
      l.filterChains.map (·.serverNames) = [[], ["shop.example"], ["mail.example"]] ∧
      Unambiguous l := by
  obtain ⟨m, rs, l, hm, hrs, hl, hname, hnames, hcertificates, hpassthroughs⟩ : ∃ m rs l,
      gatewayAPI (mailInput [{ name := "rsa" }] [{ name := "imap", port := some 993 }]) = .ok m ∧
      getResources .reference .entries shopTranslator m = .ok rs ∧ rs.head? = some (.listener l) ∧
      l.name = "listener" ∧
      l.filterChains.map (·.serverNames) = [[], ["shop.example"], ["mail.example"]] ∧
      certificates m = [(⟨"rsa", "infra"⟩, "shop.example")] ∧
      passthroughs m = [("infra:imap:993", ["mail.example"])] :=
    ⟨_, _, _, rfl, rfl, rfl, rfl, rfl, rfl, rfl⟩
  have hl := mem_of_head? hl
  refine ⟨m, rs, l, hm, hrs, hl, hnames, (unambiguous_iff hrs hl hname).2 ?_⟩
  simp only [HostsApart, certificateHosts, passthroughHosts, hcertificates, hpassthroughs]
  decide

/-- Two certificates of a listener, and two backends of a TLS route. -/
def ambiguousInput : Input :=
  mailInput [{ name := "rsa" }, { name := "ecdsa" }]
    [{ name := "imap", port := some 993 }, { name := "pop", port := some 995 }]

/-- The listeners differ in port, protocol or hostname, and have filter chains with the same
    server name. -/
theorem filterChains_ambiguous :
    (ambiguousInput.gateway.listeners.map fun l => (l.port, l.protocol, l.hostname)).Nodup ∧
    ∃ m rs l, gatewayAPI ambiguousInput = .ok m ∧
      getResources .reference .entries shopTranslator m = .ok rs ∧ .listener l ∈ rs ∧
      l.filterChains.map (·.serverNames) =
        [[], ["shop.example"], ["shop.example"], ["mail.example"], ["mail.example"]] ∧
      ¬ Unambiguous l := by
  refine ⟨by decide, _, _, _, rfl, rfl, mem_cons_self, rfl, fun hunambiguous => ?_⟩
  have hdisjoint := ((pairwise_cons.1 hunambiguous).1 _ mem_cons_self).1
  exact hdisjoint (a := "shop.example") (by decide) (by decide)

end Pipeline
