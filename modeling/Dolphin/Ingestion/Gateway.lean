import Dolphin.Ingestion.Routes

/-!
# Ingestion of a Gateway

`GatewayAPI`: from a Gateway, its merged listeners, the routes of every kind, the
Services and the ReferenceGrants to the `Model`. The loop goes over the listeners; the
body of it, `ingestListener`, appends to the model the listener that one listener of
the input becomes.

The model is the concatenation of these blocks: what is in it was appended by some
iteration (`mem_http` and its siblings), and what an iteration appends depends on the
protocol of the listener (`ingestListener_cases`). If no route panics, the model can be told
as a whole (`modelOf`, `gatewayAPI_eq_ok`).
-/

namespace Ingestion

open Gatewayv1 Go List

variable {p : Listener × Model.FullyQualifiedResource}

/-- A listener with the object that declares it. -/
structure ListenerWithContext where
  listener : Listener
  source : Model.FullyQualifiedResource
  sourceGeneration : Int := 1
  /-- The namespaces allowed for route attachment; nil stands for all. -/
  allowedNamespaces : Option (List String) := none
  deriving DecidableEq, Repr

/-- The input of `GatewayAPI`. Nil listeners stand for those of the Gateway. -/
structure Input where
  gateway : Gateway
  listeners : Option (List ListenerWithContext) := none
  httpRoutes : List HTTPRoute := []
  tlsRoutes : List TLSRoute := []
  grpcRoutes : List GRPCRoute := []
  tcpRoutes : List TCPRoute := []
  udpRoutes : List UDPRoute := []
  referenceGrants : List ReferenceGrant := []
  services : List Corev1.Service := []
  deriving DecidableEq, Repr

/-! ## Listeners -/

def toHostname (hostname : Option String) : String := hostname.getD Model.allHosts

/-- One certificateRef: the secret, when the Gateway may refer to it. -/
def toTLSSecret (grants : List ReferenceGrant) (defaultNamespace : String)
    (cert : SecretObjectReference) : Option Model.TLSSecret :=
  if isSecretReferenceAllowed defaultNamespace cert (gatewayV1GVK "Gateway") grants then
    some ⟨cert.name, namespaceDerefOr cert.ns defaultNamespace⟩
  else none

/-- The TLS list of a listener: nil without a tls section, non-nil with one, even if no
    certificate is kept. -/
def toTLS (tls : Option ListenerTLSConfig) (grants : List ReferenceGrant)
    (defaultNamespace : String) : Option (List Model.TLSSecret) :=
  tls.map fun tls => tls.certificateRefs.filterMap (toTLSSecret grants defaultNamespace)

def toInfrastructure (gw : Gateway) : Option Model.Infrastructure :=
  gw.infrastructure.map fun i => ⟨i.labels, i.annotations⟩

/-- The Gateway as the source of a listener. -/
def gatewaySource (gw : Gateway) : Model.FullyQualifiedResource where
  name := gw.name
  ns := gw.ns
  group := gw.gvk.group
  version := gw.gvk.version
  kind := gw.gvk.kind
  uid := gw.uid

/-- The listeners that the loop visits, each with its source. -/
def Input.sourced (input : Input) : List (Listener × Model.FullyQualifiedResource) :=
  match input.listeners with
  | none => input.gateway.listeners.map fun l => (l, gatewaySource input.gateway)
  | some ctxs => ctxs.map fun ctx =>
    (ctx.listener, if ctx.source.name ≠ "" then ctx.source else gatewaySource input.gateway)

/-- The protocols whose listeners become an HTTP and a TLS listener of the model. -/
def servesHTTP : ProtocolType → Bool
  | .http | .https | .tls => true
  | _ => false

section

variable (input : Input) (l : Listener) (source : Model.FullyQualifiedResource)

def toHTTPListener (routes : List Model.HTTPRoute) : Model.HTTPListener where
  name := l.name
  sources := [source]
  port := l.port
  hostname := toHostname l.hostname
  tls := toTLS l.tls input.referenceGrants input.gateway.ns
  routes := routes
  infrastructure := toInfrastructure input.gateway

def toTLSListener : Model.TLSListener where
  name := l.name
  sources := [source]
  port := l.port
  hostname := toHostname l.hostname
  routes := toTLSRoutes l input.tlsRoutes input.services input.referenceGrants
  infrastructure := toInfrastructure input.gateway

/-- A TCP or UDP listener of the model. -/
def toL4Listener (routes : List Model.L4Route) : Model.L4Listener where
  name := l.name
  sources := [source]
  port := l.port
  routes := routes
  infrastructure := toInfrastructure input.gateway

/-- The iteration for one listener: what it appends to the model. -/
def ingestListener : Result Model :=
  if l.protocol = .udp then
    let routes := toUDPRoutes l input.udpRoutes input.services input.referenceGrants
    pure { udp := [toL4Listener input l source routes] }
  else if l.protocol = .tcp then
    let routes := toTCPRoutes l input.tcpRoutes input.services input.referenceGrants
    pure { tcp := [toL4Listener input l source routes] }
  else if servesHTTP l.protocol then do
    let httpRoutes ← toHTTPRoutes l input.httpRoutes input.services input.referenceGrants source
    let grpcRoutes ← toGRPCRoutes l input.grpcRoutes input.services input.referenceGrants
    pure
      { http := [toHTTPListener input l source (httpRoutes ++ grpcRoutes)]
        tls := [toTLSListener input l source] }
  else pure {}

end

/-- Ingestion: the blocks of all listeners, in order. -/
def gatewayAPI (input : Input) : Result Model := do
  let blocks ← input.sourced.mapM fun p => ingestListener input p.1 p.2
  pure
    { http := blocks.flatMap (·.http)
      tls := blocks.flatMap (·.tls)
      tcp := blocks.flatMap (·.tcp)
      udp := blocks.flatMap (·.udp) }

/-! ## Blocks of the model -/

/-- What the HTTPRoutes become on a listener, one by one. -/
def Input.httpBlocks (input : Input) (p : Listener × Model.FullyQualifiedResource) :
    List (Result (List Model.HTTPRoute)) :=
  input.httpRoutes.map (ingestHTTPRoute p.1 input.services input.referenceGrants p.2)

/-- What the GRPCRoutes become on a listener, one by one. -/
def Input.grpcBlocks (input : Input) (p : Listener × Model.FullyQualifiedResource) :
    List (Result (List Model.HTTPRoute)) :=
  input.grpcRoutes.map (ingestGRPCRoute p.1 input.services input.referenceGrants)

section Blocks

variable {input : Input} {m : Model}

variable {l : Listener} {s : Model.FullyQualifiedResource} {b : Model}

theorem exists_block (h : gatewayAPI input = .ok m) (hl : (l, s) ∈ input.sourced) :
    ∃ b, ingestListener input l s = .ok b := by
  obtain ⟨blocks, hblocks, _⟩ := bind_eq_ok.1 h
  exact exists_mapM_eq_ok.1 ⟨blocks, hblocks⟩ (l, s) hl

theorem mem_flatMap_blocks {β : Type} {g : Model → List β} {blocks : List Model} {y : β}
    (h : input.sourced.mapM (fun p => ingestListener input p.1 p.2) = .ok blocks) :
    y ∈ blocks.flatMap g ↔
      ∃ p ∈ input.sourced, ∃ b, ingestListener input p.1 p.2 = .ok b ∧ y ∈ g b := by
  rw [mem_flatMap]
  constructor
  · rintro ⟨b, hb, hy⟩
    obtain ⟨p, hp, hpb⟩ := (mem_mapM h).1 hb
    exact ⟨p, hp, b, hpb, hy⟩
  · rintro ⟨p, hp, b, hpb, hy⟩
    exact ⟨b, (mem_mapM h).2 ⟨p, hp, hpb⟩, hy⟩

section

variable (h : gatewayAPI input = .ok m)

include h

theorem mem_http {y : Model.HTTPListener} :
    y ∈ m.http ↔ ∃ p ∈ input.sourced, ∃ b, ingestListener input p.1 p.2 = .ok b ∧ y ∈ b.http := by
  obtain ⟨blocks, hblocks, rfl⟩ := bind_pure_eq_ok.1 h
  exact mem_flatMap_blocks hblocks

theorem mem_tls {y : Model.TLSListener} :
    y ∈ m.tls ↔ ∃ p ∈ input.sourced, ∃ b, ingestListener input p.1 p.2 = .ok b ∧ y ∈ b.tls := by
  obtain ⟨blocks, hblocks, rfl⟩ := bind_pure_eq_ok.1 h
  exact mem_flatMap_blocks hblocks

theorem mem_tcp {y : Model.L4Listener} :
    y ∈ m.tcp ↔ ∃ p ∈ input.sourced, ∃ b, ingestListener input p.1 p.2 = .ok b ∧ y ∈ b.tcp := by
  obtain ⟨blocks, hblocks, rfl⟩ := bind_pure_eq_ok.1 h
  exact mem_flatMap_blocks hblocks

theorem mem_udp {y : Model.L4Listener} :
    y ∈ m.udp ↔ ∃ p ∈ input.sourced, ∃ b, ingestListener input p.1 p.2 = .ok b ∧ y ∈ b.udp := by
  obtain ⟨blocks, hblocks, rfl⟩ := bind_pure_eq_ok.1 h
  exact mem_flatMap_blocks hblocks

end

theorem ingestListener_cases (h : ingestListener input l s = .ok b) :
    (l.protocol = .udp ∧ b = { udp := [toL4Listener input l s
      (toUDPRoutes l input.udpRoutes input.services input.referenceGrants)] }) ∨
    (l.protocol = .tcp ∧ b = { tcp := [toL4Listener input l s
      (toTCPRoutes l input.tcpRoutes input.services input.referenceGrants)] }) ∨
    (servesHTTP l.protocol = true ∧ ∃ xs ys,
      toHTTPRoutes l input.httpRoutes input.services input.referenceGrants s = .ok xs ∧
      toGRPCRoutes l input.grpcRoutes input.services input.referenceGrants = .ok ys ∧
      b = { http := [toHTTPListener input l s (xs ++ ys)], tls := [toTLSListener input l s] }) ∨
    (l.protocol ≠ .udp ∧ l.protocol ≠ .tcp ∧ servesHTTP l.protocol = false ∧ b = {}) := by
  unfold ingestListener at h
  split_ifs at h with hudp htcp hhttp
  · exact .inl ⟨hudp, (pure_eq_ok.1 h).symm⟩
  · exact .inr (.inl ⟨htcp, (pure_eq_ok.1 h).symm⟩)
  · obtain ⟨xs, hxs, h⟩ := bind_eq_ok.1 h
    obtain ⟨ys, hys, h⟩ := bind_eq_ok.1 h
    exact .inr (.inr (.inl ⟨hhttp, xs, ys, hxs, hys, (pure_eq_ok.1 h).symm⟩))
  · exact .inr (.inr (.inr ⟨hudp, htcp, Bool.not_eq_true _ ▸ hhttp, (pure_eq_ok.1 h).symm⟩))

theorem toHTTPRoutes_eq_ok {xs : List Model.HTTPRoute} :
    toHTTPRoutes p.1 input.httpRoutes input.services input.referenceGrants p.2 = .ok xs ↔
      (∀ block ∈ input.httpBlocks p, ∃ ys, block = .ok ys) ∧
        xs = (input.httpBlocks p).flatMap returned := by
  rw [toHTTPRoutes, collect_eq_ok_iff, Input.httpBlocks, forall_mem_map]

theorem toGRPCRoutes_eq_ok {xs : List Model.HTTPRoute} :
    toGRPCRoutes p.1 input.grpcRoutes input.services input.referenceGrants = .ok xs ↔
      (∀ block ∈ input.grpcBlocks p, ∃ ys, block = .ok ys) ∧
        xs = (input.grpcBlocks p).flatMap returned := by
  rw [toGRPCRoutes, collect_eq_ok_iff, Input.grpcBlocks, forall_mem_map]

/-- What the iteration for a listener appends, for each protocol. -/
theorem block_eq (p : Listener × Model.FullyQualifiedResource)
    (h : ingestListener input p.1 p.2 = .ok b) :
    (b.http = if servesHTTP p.1.protocol then [toHTTPListener input p.1 p.2
      ((input.httpBlocks p).flatMap returned ++ (input.grpcBlocks p).flatMap returned)] else []) ∧
    (b.tls = if servesHTTP p.1.protocol then [toTLSListener input p.1 p.2] else []) ∧
    (b.tcp = if decide (p.1.protocol = .tcp) then [toL4Listener input p.1 p.2
      (toTCPRoutes p.1 input.tcpRoutes input.services input.referenceGrants)] else []) ∧
    (b.udp = if decide (p.1.protocol = .udp) then [toL4Listener input p.1 p.2
      (toUDPRoutes p.1 input.udpRoutes input.services input.referenceGrants)] else []) := by
  rcases ingestListener_cases h with
    ⟨hp, rfl⟩ | ⟨hp, rfl⟩ | ⟨hp, xs, ys, hxs, hys, rfl⟩ | ⟨hudp, htcp, hp, rfl⟩
  · simp [hp, servesHTTP]
  · simp [hp, servesHTTP]
  · have htcp : p.1.protocol ≠ .tcp := fun htcp => by simp [htcp, servesHTTP] at hp
    have hudp : p.1.protocol ≠ .udp := fun hudp => by simp [hudp, servesHTTP] at hp
    rw [(toHTTPRoutes_eq_ok.1 hxs).2, (toGRPCRoutes_eq_ok.1 hys).2]
    simp [hp, htcp, hudp]
  · simp [hp, htcp, hudp]

theorem mem_block_http (h : ingestListener input l s = .ok b) {hl : Model.HTTPListener} :
    hl ∈ b.http ↔ servesHTTP l.protocol = true ∧ ∃ xs ys,
      toHTTPRoutes l input.httpRoutes input.services input.referenceGrants s = .ok xs ∧
      toGRPCRoutes l input.grpcRoutes input.services input.referenceGrants = .ok ys ∧
      hl = toHTTPListener input l s (xs ++ ys) := by
  rcases ingestListener_cases h with ⟨hp, rfl⟩ | ⟨hp, rfl⟩ | ⟨hp, xs, ys, hxs, hys, rfl⟩ |
    ⟨_, _, hp, rfl⟩
  · simp [hp, servesHTTP]
  · simp [hp, servesHTTP]
  · simp [hp, hxs, hys]
  · simp [hp]

theorem exists_block_http (h : gatewayAPI input = .ok m) (hl : (l, s) ∈ input.sourced)
    (hp : servesHTTP l.protocol = true) :
    ∃ b xs ys, ingestListener input l s = .ok b ∧
      toHTTPRoutes l input.httpRoutes input.services input.referenceGrants s = .ok xs ∧
      toGRPCRoutes l input.grpcRoutes input.services input.referenceGrants = .ok ys ∧
      toHTTPListener input l s (xs ++ ys) ∈ b.http ∧
      toHTTPListener input l s (xs ++ ys) ∈ m.http := by
  obtain ⟨b, hb⟩ := exists_block h hl
  rcases ingestListener_cases hb with
    ⟨hudp, _⟩ | ⟨htcp, _⟩ | ⟨_, xs, ys, hxs, hys, hb'⟩ | ⟨_, _, hnot, _⟩
  · simp [hudp, servesHTTP] at hp
  · simp [htcp, servesHTTP] at hp
  · have hmem : toHTTPListener input l s (xs ++ ys) ∈ b.http := by
      rw [hb']
      exact mem_singleton_self _
    exact ⟨b, xs, ys, hb, hxs, hys, hmem, (mem_http h).2 ⟨(l, s), hl, b, hb, hmem⟩⟩
  · simp [hnot] at hp

theorem mem_block_tls (h : ingestListener input l s = .ok b) {tl : Model.TLSListener} :
    tl ∈ b.tls ↔ servesHTTP l.protocol = true ∧ tl = toTLSListener input l s := by
  rw [(block_eq (l, s) h).2.1, mem_ite_nil_right, mem_singleton]

theorem mem_block_tcp (h : ingestListener input l s = .ok b) {tl : Model.L4Listener} :
    tl ∈ b.tcp ↔ l.protocol = .tcp ∧ tl = toL4Listener input l s
      (toTCPRoutes l input.tcpRoutes input.services input.referenceGrants) := by
  rw [(block_eq (l, s) h).2.2.1, mem_ite_nil_right, mem_singleton, decide_eq_true_iff]

theorem mem_block_udp (h : ingestListener input l s = .ok b) {ul : Model.L4Listener} :
    ul ∈ b.udp ↔ l.protocol = .udp ∧ ul = toL4Listener input l s
      (toUDPRoutes l input.udpRoutes input.services input.referenceGrants) := by
  rw [(block_eq (l, s) h).2.2.2, mem_ite_nil_right, mem_singleton, decide_eq_true_iff]

end Blocks

/-! ## The model as a whole -/

def Input.httpListeners (input : Input) : List (Listener × Model.FullyQualifiedResource) :=
  input.sourced.filter fun p => servesHTTP p.1.protocol

/-- No HTTPRoute or GRPCRoute panics on a listener that serves HTTP. -/
def Input.Ingestible (input : Input) : Prop :=
  ∀ p ∈ input.httpListeners, ∀ block ∈ input.httpBlocks p ++ input.grpcBlocks p,
    ∃ xs, block = .ok xs

/-- The model, if nothing panics. -/
def modelOf (input : Input) : Model where
  http := input.httpListeners.map fun p => toHTTPListener input p.1 p.2
    ((input.httpBlocks p).flatMap returned ++ (input.grpcBlocks p).flatMap returned)
  tls := input.httpListeners.map fun p => toTLSListener input p.1 p.2
  tcp := (input.sourced.filter fun p => p.1.protocol = .tcp).map fun p =>
    toL4Listener input p.1 p.2
      (toTCPRoutes p.1 input.tcpRoutes input.services input.referenceGrants)
  udp := (input.sourced.filter fun p => p.1.protocol = .udp).map fun p =>
    toL4Listener input p.1 p.2
      (toUDPRoutes p.1 input.udpRoutes input.services input.referenceGrants)

section

variable {input : Input} {m : Model}

theorem flatMap_blocks {β : Type} {g : Model → List β} {blocks : List Model}
    {c : Listener × Model.FullyQualifiedResource → Bool}
    {f : Listener × Model.FullyQualifiedResource → β}
    (h : input.sourced.mapM (fun p => ingestListener input p.1 p.2) = .ok blocks)
    (hg : ∀ p b, ingestListener input p.1 p.2 = .ok b → g b = if c p then [f p] else []) :
    blocks.flatMap g = (input.sourced.filter c).map f := by
  generalize input.sourced = ps at h ⊢
  induction mapM_eq_ok.1 h with
  | nil => rfl
  | @cons p b ps blocks hb hrest ih =>
    rw [flatMap_cons, ih (mapM_eq_ok.2 hrest), hg p b hb]
    cases hc : c p with
    | true => rw [filter_cons_of_pos hc, map_cons]; rfl
    | false => rw [filter_cons_of_neg (by rw [hc]; decide)]; rfl

theorem eq_modelOf (h : gatewayAPI input = .ok m) : m = modelOf input := by
  obtain ⟨blocks, hblocks, rfl⟩ := bind_pure_eq_ok.1 h
  rw [modelOf, Model.mk.injEq]
  exact ⟨flatMap_blocks hblocks fun p b hb => (block_eq p hb).1,
    flatMap_blocks hblocks fun p b hb => (block_eq p hb).2.1,
    flatMap_blocks hblocks fun p b hb => (block_eq p hb).2.2.1,
    flatMap_blocks hblocks fun p b hb => (block_eq p hb).2.2.2⟩

theorem gatewayAPI_eq_ok : gatewayAPI input = .ok m ↔ input.Ingestible ∧ m = modelOf input := by
  constructor
  · intro h
    refine ⟨fun p hp => ?_, eq_modelOf h⟩
    obtain ⟨hl, hserves⟩ := mem_filter.1 hp
    obtain ⟨_, xs, ys, _, hxs, hys, _⟩ := exists_block_http h hl hserves
    exact forall_mem_append.2 ⟨(toHTTPRoutes_eq_ok.1 hxs).1, (toGRPCRoutes_eq_ok.1 hys).1⟩
  · intro h
    have hreturns : ∀ p ∈ input.sourced, ∃ b, ingestListener input p.1 p.2 = .ok b := by
      intro p hp
      rw [ingestListener]
      split_ifs with hudp htcp hserves
      · exact ⟨_, rfl⟩
      · exact ⟨_, rfl⟩
      · have hall := forall_mem_append.1 (h.1 p (mem_filter.2 ⟨hp, hserves⟩))
        rw [toHTTPRoutes_eq_ok.2 ⟨hall.1, rfl⟩, toGRPCRoutes_eq_ok.2 ⟨hall.2, rfl⟩]
        exact ⟨_, rfl⟩
      · exact ⟨_, rfl⟩
    obtain ⟨blocks, hblocks⟩ := exists_mapM_eq_ok.2 hreturns
    have hm : gatewayAPI input = .ok _ := bind_eq_ok.2 ⟨blocks, hblocks, rfl⟩
    rw [h.2, ← eq_modelOf hm]
    exact hm

end

end Ingestion
