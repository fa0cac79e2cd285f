import Mathlib.Tactic.NormNum
import Dolphin.Translation.Translator

/-!
# The ports of the Service of a Gateway

The Service that the translator of Gateways makes should expose every listener with its
transport (`Exposes`): one entry for each port and transport among the listeners, with a
name of its own, in an order that only depends on them.

`getService` collects the port numbers of the listeners in a map, sorts them, whatever the
order in which the map is visited (`getService_ports`), and makes an entry of each. The
protocol of an entry is always TCP. `exposes_iff` says that this is right exactly for models
without a UDP listener.
-/

namespace Translation

open Model Go List

/-- The port and the transport of each listener: UDP for UDP listeners, TCP for all others. -/
def transports (m : Model) : List (Nat × String) :=
  m.http.map (fun l => (l.port, "TCP")) ++ m.tls.map (fun l => (l.port, "TCP")) ++
    m.tcp.map (fun l => (l.port, "TCP")) ++ m.udp.map fun l => (l.port, "UDP")

/-- The Service has exactly one entry for each port and transport among the listeners, the
    names of the entries are distinct, and they are sorted by port and transport. -/
structure Exposes (m : Model) (svc : GatewayService) : Prop where
  nodup : (svc.ports.map fun e => (e.port, e.protocol)).Nodup
  mem_iff : ∀ (port : Int) (transport : String),
    (∃ e ∈ svc.ports, e.port = port ∧ e.protocol = transport) ↔
      ∃ n : Nat, port = n ∧ (n, transport) ∈ transports m
  names_nodup : (svc.ports.map (·.name)).Nodup
  ordered : svc.ports.Pairwise fun a b =>
    a.port < b.port ∨ a.port = b.port ∧ a.protocol < b.protocol

/-- The entry for a port number. -/
def servicePortEntry (p : Nat) : ServicePortEntry :=
  ⟨"port-" ++ toString p, Int.bmod p (2 ^ 32), Int.bmod p (2 ^ 32), "TCP"⟩

/-- The entries, when the map of port numbers is visited in the given order. -/
def servicePortEntries (order : RangeOrder Nat) (allPorts : List Nat) : List ServicePortEntry :=
  ((order.visit allPorts.dedup).insertionSort (· ≤ ·)).map servicePortEntry

/-! ## Entries -/

theorem toString_injective {p q : Nat} (h : toString p = toString q) : p = q := by
  rw [Nat.toString_eq_repr, Nat.toString_eq_repr] at h
  have hdigits := congrArg String.toList h
  rw [Nat.toList_repr, Nat.toList_repr] at hdigits
  rw [← Nat.ofDigitChars_ten_toDigits (n := p), hdigits, Nat.ofDigitChars_ten_toDigits]

theorem servicePortEntry_name_injective {p q : Nat}
    (h : (servicePortEntry p).name = (servicePortEntry q).name) : p = q :=
  toString_injective (String.append_right_inj _ |>.1 h)

theorem servicePortEntry_port {p : Nat} (h : p < 2 ^ 31) : (servicePortEntry p).port = p := by
  simp only [servicePortEntry]
  exact Int.bmod_eq_of_le (by norm_num) (by norm_num at h ⊢; omega)

theorem servicePortEntry_port_lt (p : Nat) : (servicePortEntry p).port < 2 ^ 31 := by
  rw [servicePortEntry]
  have hlt := Int.bmod_lt (x := (p : Int)) (m := 2 ^ 32) (by norm_num)
  norm_num at hlt ⊢
  exact hlt

theorem map_fst_transports (m : Model) :
    (transports m).map Prod.fst = (listenerSummaries m).map (·.port) := by
  simp [transports, listenerSummaries, Function.comp_def]

theorem mem_transports_tcp {m : Model} (hudp : m.udp = []) {n : Nat} {transport : String} :
    (n, transport) ∈ transports m ↔ transport = "TCP" ∧ n ∈ (listenerSummaries m).map (·.port) := by
  have htcp : ∀ pair ∈ transports m, pair.2 = "TCP" := by
    simp only [transports, hudp, map_nil, append_nil, mem_append, mem_map]
    rintro pair ((⟨l, _, rfl⟩ | ⟨l, _, rfl⟩) | ⟨l, _, rfl⟩) <;> rfl
  rw [← map_fst_transports]
  constructor
  · intro h
    exact ⟨htcp _ h, mem_map_of_mem h⟩
  · rintro ⟨rfl, h⟩
    obtain ⟨pair, hpair, rfl⟩ := mem_map.1 h
    rw [← htcp pair hpair]
    exact hpair

theorem mem_servicePortEntries {order : RangeOrder Nat} {allPorts : List Nat}
    {e : ServicePortEntry} :
    e ∈ servicePortEntries order allPorts ↔ ∃ p ∈ allPorts, servicePortEntry p = e := by
  rw [servicePortEntries, mem_map]
  refine exists_congr fun p => and_congr_left fun _ => ?_
  rw [mem_insertionSort, (order.perm _).mem_iff, mem_dedup]

/-- The port numbers of the entries increase, as none comes twice. -/
theorem sorted_servicePorts (order : RangeOrder Nat) (allPorts : List Nat) :
    ((order.visit allPorts.dedup).insertionSort (· ≤ ·)).Pairwise (· < ·) := by
  have hnodup : ((order.visit allPorts.dedup).map id).Nodup := by
    rw [map_id]
    exact (order.perm _).nodup_iff.2 allPorts.nodup_dedup
  exact insertionSort_keys_lt (fun _ _ => Iff.rfl) hnodup

/-! ## What the Service exposes -/

section

variable {hash : String → String} {slices : Slices} {orders : RangeOrders}
  {t : GatewayTranslator} {nodePort : Bool} {m : Model} {res : GatewayResources}

theorem exposes_of_tcp {svc : GatewayService} {order : RangeOrder Nat}
    (hports : svc.ports = servicePortEntries order ((listenerSummaries m).map (·.port)))
    (hudp : m.udp = []) (hlt : ∀ l ∈ listenerSummaries m, l.port < 2 ^ 31) : Exposes m svc := by
  have hport : ∀ p ∈ (listenerSummaries m).map (·.port), (servicePortEntry p).port = p := by
    intro p hp
    obtain ⟨l, hl, rfl⟩ := mem_map.1 hp
    exact servicePortEntry_port (hlt l hl)
  have hmem {p : Nat} (hp : p ∈ (order.visit
      ((listenerSummaries m).map (·.port)).dedup).insertionSort (· ≤ ·)) :
      p ∈ (listenerSummaries m).map (·.port) := by
    rwa [mem_insertionSort, (order.perm _).mem_iff, mem_dedup] at hp
  have hordered : svc.ports.Pairwise fun a b => a.port < b.port := by
    rw [hports, servicePortEntries, pairwise_map]
    refine (sorted_servicePorts order _).imp_of_mem fun {p q} hp hq hpq => ?_
    rw [hport p (hmem hp), hport q (hmem hq)]
    exact_mod_cast hpq
  constructor
  · rw [List.Nodup, pairwise_map]
    exact hordered.imp fun hlt heq => hlt.ne (congrArg Prod.fst heq)
  · intro port transport
    simp only [hports, mem_servicePortEntries, mem_transports_tcp hudp]
    constructor
    · rintro ⟨_, ⟨p, hp, rfl⟩, rfl, rfl⟩
      exact ⟨p, hport p hp, rfl, hp⟩
    · rintro ⟨p, rfl, rfl, hp⟩
      exact ⟨_, ⟨p, hp, rfl⟩, hport p hp, rfl⟩
  · rw [hports, servicePortEntries, map_map]
    refine Nodup.map_on (fun p _ q _ h => servicePortEntry_name_injective h) ?_
    exact (sorted_servicePorts order _).imp ne_of_lt
  · exact hordered.imp .inl

/-- The entries of the Service do not depend on the order in which the map of port numbers is
    visited, and they are the right ones exactly when no listener is one for UDP (and no port
    number exceeds an int32). -/
theorem exposes_iff (h : t.translate hash slices orders nodePort m = .ok (.ok res)) :
    (∀ order, res.service.ports =
        servicePortEntries order ((listenerSummaries m).map (·.port))) ∧
      (Exposes m res.service ↔ m.udp = [] ∧ ∀ l ∈ listenerSummaries m, l.port < 2 ^ 31) := by
  obtain ⟨source, labels, annotations, _, _, _, hservice, _⟩ :=
    GatewayTranslator.translate_eq_ok h
  have hports (order : RangeOrder Nat) : res.service.ports =
      servicePortEntries order ((listenerSummaries m).map (·.port)) := by
    rw [hservice, servicePortEntries, order.insertionSort_le_visit .entries]
    simp only [getService, bind_pure_comp, map_eq_map, map_map]
    rfl
  refine ⟨hports, fun hexposes => ⟨?_, ?_⟩, fun ⟨hudp, hlt⟩ =>
    exposes_of_tcp (hports .entries) hudp hlt⟩
  · -- a UDP listener has no entry, as all entries are for TCP
    rw [eq_nil_iff_forall_not_mem]
    intro l hl
    have hpair : (l.port, "UDP") ∈ transports m := by
      simp only [transports, mem_append, mem_map]
      exact .inr ⟨l, hl, rfl⟩
    obtain ⟨e, he, _, hprotocol⟩ := (hexposes.mem_iff l.port "UDP").2 ⟨l.port, rfl, hpair⟩
    rw [hports .entries, mem_servicePortEntries] at he
    obtain ⟨p, _, rfl⟩ := he
    exact absurd hprotocol (by decide : "TCP" ≠ "UDP")
  · intro l hl
    have hport : l.port ∈ (transports m).map Prod.fst := by
      rw [map_fst_transports]
      exact mem_map_of_mem hl
    obtain ⟨⟨p, transport⟩, hpair, hp⟩ := mem_map.1 hport
    obtain ⟨e, he, heport, _⟩ := (hexposes.mem_iff p transport).2 ⟨p, rfl, hpair⟩
    rw [hports .entries, mem_servicePortEntries] at he
    obtain ⟨q, _, rfl⟩ := he
    have hlt := servicePortEntry_port_lt q
    rw [heport, show p = l.port from hp] at hlt
    exact_mod_cast hlt

end

/-- A model with listeners for HTTP, TLS and TCP, two of them on one port. -/
def storeModel : Model where
  http := [
    { name := "http", port := 80, hostname := "*",
      sources := [⟨"store", "shop", "gateway.networking.k8s.io", "v1", "Gateway", "1"⟩] },
    { name := "api", port := 80, hostname := "api.example" }]
  tls := [{ name := "tls", port := 443 }]
  tcp := [{ name := "db", port := 5432 }]

theorem exposes_storeModel :
    ∃ res, GatewayTranslator.translate (fun s => s) .reference .entries
        ⟨"secrets", 60, true, true⟩ false storeModel = .ok (.ok res) ∧
      res.service.ports = [⟨"port-80", 80, 80, "TCP"⟩, ⟨"port-443", 443, 443, "TCP"⟩,
        ⟨"port-5432", 5432, 5432, "TCP"⟩] ∧
      Exposes storeModel res.service := by
  refine ⟨_, rfl, rfl, (exposes_iff rfl).2.2 ⟨rfl, ?_⟩⟩
  simp [listenerSummaries, storeModel]

/-- A model with a UDP listener. -/
def dnsModel : Model where
  udp := [
    { name := "dns", port := 53,
      sources := [⟨"dns", "infra", "gateway.networking.k8s.io", "v1", "Gateway", "2"⟩] }]

/-- The Service of a Gateway with a UDP listener has a port for TCP. -/
theorem not_exposes_dnsModel :
    ∃ res, GatewayTranslator.translate (fun s => s) .reference .entries
        ⟨"secrets", 60, true, true⟩ false dnsModel = .ok (.ok res) ∧
      res.service.ports = [⟨"port-53", 53, 53, "TCP"⟩] ∧ ¬ Exposes dnsModel res.service := by
  refine ⟨_, rfl, rfl, fun hexposes => ?_⟩
  obtain ⟨e, he, _, hprotocol⟩ :=
    (hexposes.mem_iff 53 "UDP").2 ⟨53, rfl, by decide⟩
  obtain rfl := mem_singleton.1 he
  exact absurd hprotocol (by decide)

end Translation
