import Dolphin.Reconcile.ListenerSets

/-!
# The certificates of a ListenerSet

The certificateRefs of a listener that belongs to a ListenerSet are relative to the
ListenerSet: a Secret without a namespace is one of its namespace, and it needs a grant for
any other. The validation of listeners does it this way, with the ListenerSet as the owner.
Ingestion should agree (`CertificateResolved`), but it takes the Gateway for the owner of
every listener. `certificateResolved_iff` says on which certificateRefs it makes no
difference.
-/

namespace Reconcile

open Gatewayv1 Go Ingestion List

/-- The iteration of ingestion for the certificateRef placed the secret in the TLS list of
    the HTTP listener that the model has for the listener `l` with source `s`. -/
def Placed (input : Input) (m : Model) (l : Listener) (s : Model.FullyQualifiedResource)
    (cert : SecretObjectReference) (secret : Model.TLSSecret) : Prop :=
  ∃ b, ingestListener input l s = .ok b ∧ ∃ hl ∈ b.http, hl ∈ m.http ∧
    ∃ secrets, hl.tls = some secrets ∧ secret ∈ secrets ∧
      toTLSSecret input.referenceGrants input.gateway.ns cert = some secret

/-- The secret that is placed for a certificateRef of a ListenerSet is the one it refers to
    there, and it is placed exactly when the validation permits the reference. -/
def CertificateResolved (input : Input) (m : Model) (ls : ListenerSet) (l : Listener)
    (params : ListenerValidationParams) (cert : SecretObjectReference) : Prop :=
  (∀ secret, Placed input m l (listenerSetFQR ls) cert secret →
    secret = ⟨cert.name, namespaceDerefOr cert.ns ls.ns⟩) ∧
  ((∃ secret, Placed input m l (listenerSetFQR ls) cert secret) ↔
    permitsCertificateRef params cert = true)

section

variable {c : Cluster} {gw : Gateway} {attached : List ListenerSet} {listing : Listing}
  {input : Input} {m : Model} {grants : List ReferenceGrant}

variable {cert : SecretObjectReference}

theorem permitsCertificateRef_iff {params : ListenerValidationParams} :
    permitsCertificateRef params cert = true ↔
      namespaceDerefOr cert.ns params.ownerNamespace = params.ownerNamespace ∨
        Granted params.grants params.ownerKind params.ownerNamespace "Secret"
          (namespaceDerefOr cert.ns params.ownerNamespace) cert.name :=
  isReferenceAllowed_iff

theorem toTLSSecret_eq_some {ns : String} {secret : Model.TLSSecret} :
    toTLSSecret grants ns cert = some secret ↔ (namespaceDerefOr cert.ns ns = ns ∨
        Granted grants "Gateway" ns "Secret" (namespaceDerefOr cert.ns ns) cert.name) ∧
      secret = ⟨cert.name, namespaceDerefOr cert.ns ns⟩ := by
  have hallowed : isSecretReferenceAllowed ns cert (gatewayV1GVK "Gateway") grants = true ↔ _ :=
    isReferenceAllowed_iff
  rw [toTLSSecret]
  split_ifs with h
  · rw [and_iff_right (hallowed.1 h), Option.some_inj, eq_comm]
  · simp [mt hallowed.2 h]

/-- What is placed for a certificateRef: the Secret as the Gateway refers to it. -/
theorem placed_iff (hm : gatewayAPI input = .ok m) {l : Listener} {s : Model.FullyQualifiedResource}
    (hl : (l, s) ∈ input.sourced) {tls : ListenerTLSConfig} (htls : l.tls = some tls)
    (hcert : cert ∈ tls.certificateRefs) {secret : Model.TLSSecret} :
    Placed input m l s cert secret ↔ servesHTTP l.protocol = true ∧
      toTLSSecret input.referenceGrants input.gateway.ns cert = some secret := by
  constructor
  · rintro ⟨b, hb, hl, hmem, _, _, _, _, hsecret⟩
    exact ⟨((mem_block_http hb).1 hmem).1, hsecret⟩
  · rintro ⟨hp, hsecret⟩
    obtain ⟨b, xs, ys, hb, _, _, hmem, hmem'⟩ := exists_block_http hm hl hp
    refine ⟨b, hb, _, hmem, hmem', _, ?_, mem_filterMap.2 ⟨cert, hcert, hsecret⟩, hsecret⟩
    show toTLS l.tls _ _ = _
    rw [htls]
    rfl

theorem namespaceDerefOr_of_unset {ns : Option String} (h : ns.getD "" = "") (d : String) :
    namespaceDerefOr ns d = d := by
  cases ns with
  | none => rfl
  | some n => simp [namespaceDerefOr, show n = "" from h]

theorem namespaceDerefOr_of_set {ns : Option String} (h : ns.getD "" ≠ "") (d : String) :
    namespaceDerefOr ns d = ns.getD "" := by
  cases ns with
  | none => exact absurd rfl h
  | some n => simp [namespaceDerefOr, show n ≠ "" from h]

/-- A certificateRef of a ListenerSet is resolved as it should be exactly when the Gateway
    being the owner makes no difference: without a namespace, when the two live in the same
    one; with a namespace, when both or none may refer to the Secret. A listener that does
    not serve HTTP has no TLS list, and it must be that the reference is not permitted. -/
theorem certificateResolved_iff (hin : buildInput c gw attached listing = .ok input)
    (hm : gatewayAPI { input with referenceGrants := grants } = .ok m) {ls : ListenerSet}
    (hls : ls ∈ attached) {l : Listener} (hl : l ∈ ls.listeners) {tls : ListenerTLSConfig}
    (htls : l.tls = some tls) {cert : SecretObjectReference} (hcert : cert ∈ tls.certificateRefs)
    (validateTLSSecret : String → String → Option String) (now : Nat) :
    CertificateResolved { input with referenceGrants := grants } m ls l
        (listenerSetParams ls grants validateTLSSecret now) cert ↔
      (servesHTTP l.protocol = true →
        (cert.ns.getD "" = "" → gw.ns = ls.ns) ∧
        (cert.ns.getD "" ≠ "" →
          ((cert.ns.getD "" = gw.ns ∨
              Granted grants "Gateway" gw.ns "Secret" (cert.ns.getD "") cert.name) ↔
            (cert.ns.getD "" = ls.ns ∨
              Granted grants ls.gvk.kind ls.ns "Secret" (cert.ns.getD "") cert.name)))) ∧
      (servesHTTP l.protocol = false →
        cert.ns.getD "" ≠ "" ∧ cert.ns.getD "" ≠ ls.ns ∧
          ¬ Granted grants ls.gvk.kind ls.ns "Secret" (cert.ns.getD "") cert.name) := by
  have hsourced := mem_sourced_of_listenerSet hin hls hl
  obtain rfl := gateway_buildInput hin
  simp only [CertificateResolved, placed_iff hm hsourced htls hcert, toTLSSecret_eq_some,
    permitsCertificateRef_iff, listenerSetParams]
  -- the default namespace, in which the two sides differ, is only used without a namespace
  by_cases hunset : cert.ns.getD "" = ""
  · simp only [namespaceDerefOr_of_unset hunset]
    cases servesHTTP l.protocol <;> simp [hunset]
  · simp only [namespaceDerefOr_of_set hunset]
    cases servesHTTP l.protocol <;> simp [hunset]

end

/-! ## A ListenerSet with a certificate -/

def siteCertificate : SecretObjectReference where
  name := "site-tls"

def httpsListener : Listener where
  name := "site"
  port := 443
  protocol := .https
  tls := some { certificateRefs := [siteCertificate] }

/-- A ListenerSet whose certificateRef has no namespace. -/
def siteListenerSet (ns : String) : ListenerSet where
  name := "site"
  ns := ns
  parentRef := { name := "gw", ns := some "infra" }
  listeners := [httpsListener]

theorem siteListenerSet_run (ns : String) :
    ∃ input m, buildInput bareCluster openGateway [siteListenerSet ns] {} = .ok input ∧
      gatewayAPI { input with referenceGrants := [] } = .ok m :=
  ⟨_, _, rfl, rfl⟩

/-- In the namespace of the Gateway, the certificate is the right one. -/
theorem certificateResolved_infra :
    ∃ input m, buildInput bareCluster openGateway [siteListenerSet "infra"] {} = .ok input ∧
      gatewayAPI { input with referenceGrants := [] } = .ok m ∧
      CertificateResolved { input with referenceGrants := [] } m (siteListenerSet "infra")
        httpsListener (listenerSetParams (siteListenerSet "infra") [] (fun _ _ => none) 0)
        siteCertificate := by
  obtain ⟨input, m, hin, hm⟩ := siteListenerSet_run "infra"
  refine ⟨input, m, hin, hm, ?_⟩
  refine (certificateResolved_iff hin hm mem_cons_self mem_cons_self rfl
    mem_cons_self _ _).2 ⟨fun _ => ⟨fun _ => rfl, fun h => absurd rfl h⟩, fun h => ?_⟩
  exact absurd h (by decide)

/-- In another namespace, the model has the Secret of that name in the namespace of the
    Gateway. -/
theorem certificate_not_resolved :
    ∃ input m, buildInput bareCluster openGateway [siteListenerSet "tenant"] {} = .ok input ∧
      gatewayAPI { input with referenceGrants := [] } = .ok m ∧
      ¬ CertificateResolved { input with referenceGrants := [] } m (siteListenerSet "tenant")
        httpsListener (listenerSetParams (siteListenerSet "tenant") [] (fun _ _ => none) 0)
        siteCertificate := by
  obtain ⟨input, m, hin, hm⟩ := siteListenerSet_run "tenant"
  refine ⟨input, m, hin, hm, fun h => ?_⟩
  have hsourced : (httpsListener, listenerSetFQR (siteListenerSet "tenant")) ∈ input.sourced :=
    mem_sourced_of_listenerSet hin mem_cons_self mem_cons_self
  -- without a namespace the reference is always permitted, and the Secret is placed
  have hplaced := (placed_iff hm hsourced rfl mem_cons_self).2
    ⟨rfl, toTLSSecret_eq_some.2 ⟨.inl rfl, rfl⟩⟩
  have hns := congrArg Model.TLSSecret.ns (h.1 _ hplaced)
  rw [gateway_buildInput hin] at hns
  exact absurd hns (by decide)

end Reconcile
