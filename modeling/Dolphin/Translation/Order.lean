import Dolphin.Translation.FilterChains
import Dolphin.Translation.Translator

/-!
# Map iteration

Go visits a map in an order that changes from run to run. Translation does so for the backend
services, the ports of listeners, the certificates and backends with a filter chain, and the
clusters; all of them it sorts afterwards, or writes to another map by their name.

* `translate_deterministic`: the Envoy configuration is the same whatever these orders are, as
  long as what it sorts by is not shared, which names without slashes and colons ensure.
-/

namespace Translation

open Model Go Envoy

/-- No colon is in the namespace and name of a backend, and no slash in the namespace of a
    certificate. -/
structure PlainNames (m : Model) : Prop where
  backends : ∀ be ∈ backendsOf m, ':' ∉ be.ns.toList ∧ ':' ∉ be.name.toList
  secrets : ∀ p ∈ certificates m, '/' ∉ p.1.ns.toList

section

variable {m : Model}

theorem PlainNames.nodup_secretKeys (h : PlainNames m) :
    (((tlsSecretsToHostnames m.http).toPairs.map Prod.fst).map
      fun secret => secret.ns ++ "/" ++ secret.name).Nodup := by
  have hkeys : KeysOf (certificates m) ((tlsSecretsToHostnames m.http).toPairs.map Prod.fst) :=
    keysOf_certificates (Map.lists_of_perm (.refl _))
  refine hkeys.nodup.map_on fun a ha b hb heq => ?_
  obtain ⟨_, ha⟩ := (hkeys.mem_iff a).1 ha
  obtain ⟨_, hb⟩ := (hkeys.mem_iff b).1 hb
  obtain ⟨hns, hname⟩ := append_char_inj rfl (h.secrets _ ha) (h.secrets _ hb) heq
  cases a
  cases b
  simp_all

theorem getServices_order (orders orders' : RangeOrders) (t : DefaultTranslator) :
    getServices orders t m = getServices orders' t m := by
  rw [getServices, getServices, orders.ports.insertionSort_le_visit orders'.ports]

theorem getListener_order (h : PlainNames m) (slices : Slices) (orders orders' : ListenerOrders)
    (t : DefaultTranslator) :
    getListener slices orders t m = getListener slices orders' t m := by
  have hhttps : httpsFilterChains slices orders "listener" t.secretsNamespace
        (tlsSecretsToHostnames m.http) t.ipv4Enabled t.ipv6Enabled =
      httpsFilterChains slices orders' "listener" t.secretsNamespace
        (tlsSecretsToHostnames m.http) t.ipv4Enabled t.ipv6Enabled := by
    rw [httpsFilterChains, httpsFilterChains, orders.secrets.insertionSort_visit orders'.secrets
      (fun _ _ => Iff.rfl) h.nodup_secretKeys]
    simp only [newTransportSocket_singleton]
  have hpassthrough (backends : Go.Map String TLSPassthroughBackend) :
      tlsPassthroughFilterChains slices orders.backends backends =
        tlsPassthroughFilterChains slices orders'.backends backends := by
    rw [tlsPassthroughFilterChains, tlsPassthroughFilterChains, sortStrings, sortStrings,
      orders.backends.insertionSort_le_visit orders'.backends]
  simp only [getListener, hhttps, hpassthrough]

end

/-- Whatever the orders are, translation does what it does in the order of the entries. -/
theorem translate_eq_entries {m : Model} (h : PlainNames m) (slices : Slices) (orders : RangeOrders)
    (t : DefaultTranslator) : t.translate slices orders m = t.translate slices .entries m := by
  have hnames := namesDistinct_of_backends h.backends
  have hresources : getResources slices orders t m = getResources slices .entries t m := by
    rw [getResources, getResources, getListener_order h slices orders.listener _ t,
      getClusters_congr orders.clusters hnames hnames (fun c => Iff.rfl)]
  rw [DefaultTranslator.translate, DefaultTranslator.translate, hresources,
    getBackendServices_congr (fun sp => Iff.rfl) orders.services, getServices_order orders .entries t]

/-- Translation does not depend on the orders in which it visits maps. -/
theorem translate_deterministic (slices : Slices) (orders orders' : RangeOrders)
    (t : DefaultTranslator) {m : Model} (h : PlainNames m) :
    t.translate slices orders m = t.translate slices orders' m :=
  (translate_eq_entries h slices orders t).trans (translate_eq_entries h slices orders' t).symm

/-- A model with two certificates, and a TLS route to two ports. -/
def certificateModel : Model where
  http := [
    { name := "shop", port := 443, hostname := "shop.example", tls := some [⟨"shop", "team"⟩] },
    { name := "blog", port := 8443, hostname := "blog.example", tls := some [⟨"blog", "team"⟩],
      routes := [{ backends := [⟨"blog", "team", some ⟨443, ""⟩, none⟩] }] }]
  tls := [{ name := "sni", port := 443, routes := [
    { hostnames := ["mail.example"]
      backends :=
        [⟨"mail", "team", some ⟨993, ""⟩, none⟩, ⟨"mail", "team", some ⟨143, ""⟩, none⟩] }] }]

theorem translate_deterministic_certificateModel :
    ∃ config, DefaultTranslator.translate .reference .entries
        ⟨"shop", "team", "secrets", true, true, true, 60, true, true⟩ certificateModel =
          .ok config ∧
      DefaultTranslator.translate .reference
        ⟨.reversed, .reversed, ⟨.reversed, .reversed, .reversed⟩, ⟨.reversed, .reversed, .reversed⟩⟩
        ⟨"shop", "team", "secrets", true, true, true, 60, true, true⟩ certificateModel =
          .ok config := by
  have hplain : PlainNames certificateModel := ⟨by decide, by decide⟩
  exact ⟨_, rfl, (translate_deterministic _ _ _ _ hplain).trans rfl⟩

end Translation
