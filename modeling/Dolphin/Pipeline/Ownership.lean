import Dolphin.Pipeline.Plaintext
import Dolphin.Reconcile.Admission

/-!
# The resources of a Gateway

A Gateway is translated to an Envoy configuration, a Service and Endpoints. Besides the
translator, three parts of the reconciler derive names from the Gateway: `deleteEnvoyConfigs`,
which removes the configuration, `setAddressStatus`, which looks for the Service, and the
handler of events of Services, `enqueueRequestForOwningResource`, which looks for the Gateway.
`ConsistentlyNamed` says that they all agree.

Names and labels are shortened to 63 characters, but not everywhere, and the resources belong
to the source of the model, which is the source of the first listener of HTTP, else of TCP,
else of UDP (`modelSource_modelOf`). `consistentlyNamed_iff` says when this leads to the
Gateway and back.
-/

namespace Pipeline

open Gatewayv1 Go Ingestion Reconcile Translation List

variable {hash : String → String} {slices : Slices} {orders : RangeOrders}
  {t : GatewayTranslator} {nodePort : Bool} {res : GatewayResources} {c : Cluster} {gw : Gateway}
  {attached : List ListenerSet} {listing : Listing} {input : Input}

/-! ## Names that the reconciler derives -/

/-- An object that is deleted, with its kind. -/
structure Deletion where
  kind : String
  key : NamespacedName
  deriving DecidableEq, Repr

/-- The deletions of the Envoy configurations of a Gateway. -/
def deleteEnvoyConfigs (hash : String → String) (gw : Gateway) : List Deletion :=
  let name := shorten hash ("dolphin-gateway-" ++ gw.name)
  [⟨"DolphinEnvoyConfig", ⟨gw.ns, name⟩⟩, ⟨"CiliumEnvoyConfig", ⟨gw.ns, name⟩⟩]

structure LoadBalancerIngress where
  ip : String := ""
  hostname : String := ""
  deriving DecidableEq, Repr

/-- A Service of the cluster, with what its load balancer reports. -/
structure LiveService where
  ns : String
  labels : Go.Map String String
  ingress : List LoadBalancerIngress := []

inductive AddressType
  | ipAddress | hostname
  deriving DecidableEq, Repr

structure GatewayStatusAddress where
  type : AddressType
  value : String
  deriving DecidableEq, Repr

/-- Whether a Service with these labels is listed for the addresses of a Gateway. -/
def selectedForAddress (hash : String → String) (gw : Gateway) (ns : String)
    (labels : Go.Map String String) : Bool :=
  ns = gw.ns ∧ labels.get? owningGatewayLabel = some (shorten hash gw.name)

/-- The addresses of a Gateway, from the first of the Services that are listed for it. -/
def setAddressStatus (hash : String → String) (gw : Gateway) (services : List LiveService) :
    Except String (List GatewayStatusAddress) :=
  match services.filter fun svc => selectedForAddress hash gw svc.ns svc.labels with
  | [] => .error "no service found"
  | svc :: _ =>
    if svc.ingress = [] then .error "load balancer status is not ready"
    else .ok <| svc.ingress.flatMap fun s =>
      (if s.ip ≠ "" then [⟨.ipAddress, s.ip⟩] else []) ++
        if s.hostname ≠ "" then [⟨.hostname, s.hostname⟩] else []

/-- The requests for an event of an object with these labels. -/
def enqueueRequestForOwningResource (ns : String) (labels : Go.Map String String) :
    List NamespacedName :=
  match labels.get? owningGatewayLabel with
  | none => []
  | some key => [⟨ns, key⟩]

/-! ## Agreement -/

def isLowerAlphanumeric (c : Char) : Bool := c.isLower || c.isDigit

/-- The names that Kubernetes accepts for a Gateway: at most 253 characters, in labels with
    dots between them. -/
def isDNS1123Subdomain (name : String) : Bool :=
  name.length ≤ 253 && name.toList.all (fun c => isLowerAlphanumeric c || c = '-' || c = '.') &&
    (name.toList.splitOn '.').all fun label =>
      label.head?.any isLowerAlphanumeric && label.getLast?.any isLowerAlphanumeric

/-- The resources are in the namespace of the Gateway and owned by it, and everything that
    refers to one of them by a derived name finds it. -/
structure ConsistentlyNamed (hash : String → String) (gw : Gateway) (res : GatewayResources) :
    Prop where
  placed : res.service.ns = gw.ns ∧ res.endpoints.ns = gw.ns ∧
    ∀ config ∈ res.config, config.ns = gw.ns
  owned : res.service.ownerReferences = [ownerReferenceTo (gatewayFQR gw)] ∧
    res.endpoints.ownerReferences = [ownerReferenceTo (gatewayFQR gw)] ∧
    ∀ config ∈ res.config, config.ownerReferences = [ownerReferenceTo (gatewayFQR gw)]
  listener : ∀ config ∈ res.config,
    config.services.map (fun l => (l.name, l.ns)) = [(res.service.name, res.service.ns)]
  deleted : ∀ config ∈ res.config,
    ⟨"DolphinEnvoyConfig", ⟨config.ns, config.name⟩⟩ ∈ deleteEnvoyConfigs hash gw
  selected : selectedForAddress hash gw res.service.ns res.service.labels = true
  enqueued : enqueueRequestForOwningResource res.service.ns res.service.labels = [⟨gw.ns, gw.name⟩]

/-- The Gateway itself has a listener of a protocol. -/
def HasListener (gw : Gateway) (p : ProtocolType → Bool) : Prop := ∃ l ∈ gw.listeners, p l.protocol

/-- Some attached ListenerSet has a listener of a protocol. -/
def SetsHaveListener (attached : List ListenerSet) (p : ProtocolType → Bool) : Prop :=
  ∃ ls ∈ attached, ∃ l ∈ ls.listeners, p l.protocol

/-- The Gateway has a listener of its own for HTTP, if any listener serves HTTP, else for TCP,
    if any does, else for UDP. -/
def HeadedByGateway (gw : Gateway) (attached : List ListenerSet) : Prop :=
  HasListener gw servesHTTP ∨ ¬ SetsHaveListener attached servesHTTP ∧
    (HasListener gw (· = .tcp) ∨ ¬ SetsHaveListener attached (· = .tcp) ∧ HasListener gw (· = .udp))

/-! ## Shortening -/

theorem utf8Len_of_ascii {cs : List Char} (h : ∀ c ∈ cs, c.val ≤ 127) :
    String.utf8Len cs = cs.length := by
  induction cs with
  | nil => rfl
  | cons c cs ih =>
    rw [String.utf8Len_cons, ih fun d hd => h d (mem_cons_of_mem c hd),
      Char.utf8Size_eq_one_iff.2 (h c mem_cons_self), length_cons]

theorem ascii_of_isDNS1123Subdomain {name : String} (h : isDNS1123Subdomain name = true) :
    ∀ c ∈ name.toList, c.val ≤ 127 := by
  rw [isDNS1123Subdomain, Bool.and_eq_true, Bool.and_eq_true, all_eq_true] at h
  intro c hc
  have hchar := h.1.2 c hc
  simp only [isLowerAlphanumeric, Bool.or_eq_true, decide_eq_true_eq] at hchar
  rcases hchar with ((hlower | hdigit) | rfl) | rfl
  · have hle : c.val ≤ 'z'.val := of_decide_eq_true (Bool.and_eq_true_iff.1 hlower).2
    exact UInt32.le_trans hle (by decide)
  · have hle : c.val ≤ '9'.val := of_decide_eq_true (Bool.and_eq_true_iff.1 hdigit).2
    exact UInt32.le_trans hle (by decide)
  · decide
  · decide

theorem utf8ByteSize_of_ascii {s : String} (h : ∀ c ∈ s.toList, c.val ≤ 127) :
    s.utf8ByteSize = s.length := by
  rw [← String.ofList_toList (s := s), String.utf8ByteSize_ofList, utf8Len_of_ascii h,
    String.length_ofList]

theorem length_encodehash_le (x : String) : (encodehash x).length ≤ 10 := by
  rw [encodehash, String.length_ofList, length_map]
  exact length_take_le 10 x.toList

theorem shorten_eq_self_iff (hash : String → String) {s : String}
    (h : ∀ c ∈ s.toList, c.val ≤ 127) : shorten hash s = s ↔ s.utf8ByteSize ≤ 63 := by
  rw [shorten]
  split_ifs with hlong
  · refine iff_of_false (fun heq => ?_) (by omega)
    have hlength := congrArg String.length heq
    have hhash := length_encodehash_le (hash s)
    have htake := length_take_le 52 s.toList
    rw [utf8ByteSize_of_ascii h] at hlong
    rw [String.length_append, String.length_append, String.length_ofList,
      show "-".length = 1 from rfl] at hlength
    omega
  · exact iff_of_true rfl (by omega)

theorem utf8ByteSize_dolphinGatewayPrefix (name : String) :
    (dolphinGatewayPrefix ++ name).utf8ByteSize = 16 + name.utf8ByteSize := by
  rw [String.utf8ByteSize_append]
  rfl

/-! ## The source of the model -/

/-- The listeners of the input, in the order in which the translator goes over what they
    become. -/
def translatedListeners (input : Input) : List (Listener × Model.FullyQualifiedResource) :=
  input.httpListeners ++ input.httpListeners ++
    (input.sourced.filter fun p => p.1.protocol = .tcp) ++
    input.sourced.filter fun p => p.1.protocol = .udp

theorem listenerSummaries_modelOf (input : Input) :
    listenerSummaries (modelOf input) = (translatedListeners input).map fun p =>
      ⟨[p.2], p.1.port, toInfrastructure input.gateway⟩ := by
  simp only [listenerSummaries, modelOf, translatedListeners, map_map, map_append]
  rfl

theorem mem_sourced_of_translated {p : Listener × Model.FullyQualifiedResource}
    (hp : p ∈ translatedListeners input) : p ∈ input.sourced := by
  simp only [translatedListeners, Input.httpListeners, mem_append, mem_filter] at hp
  rcases hp with ((hp | hp) | hp) | hp <;> exact hp.1

section Source

variable (h : buildInput c gw attached listing = .ok input)

include h

theorem modelSource_modelOf :
    modelSource (modelOf input) = (translatedListeners input).head?.map Prod.snd := by
  have hname : ∀ p ∈ translatedListeners input, p.2.name ≠ "" := by
    intro p hp
    have hsourced := mem_sourced_of_translated hp
    rw [sourced_buildInput h] at hsourced
    obtain ⟨ctx, hctx, rfl⟩ := mem_map.1 hsourced
    exact source_name_ne hctx
  rw [modelSource, listenerSummaries_modelOf]
  cases htranslated : translatedListeners input with
  | nil => rfl
  | cons p ps =>
    rw [htranslated] at hname
    simp [hname p mem_cons_self]

/-- The listeners of a class of protocols: first those of the Gateway, then those of the
    attached ListenerSets. -/
theorem filter_sourced (p : ProtocolType → Bool) : input.sourced.filter (fun x => p x.1.protocol) =
      (gw.listeners.filter fun l => p l.protocol).map (fun l => (l, gatewayFQR gw)) ++
        attached.flatMap fun ls =>
          (ls.listeners.filter fun l => p l.protocol).map fun l => (l, listenerSetFQR ls) := by
  rw [sourced_buildInput h, mergeListeners, map_append, filter_append, map_map,
    map_flatMap, filter_flatMap]
  simp only [map_map, filter_map]
  rfl

theorem filter_sourced_eq_nil {p : ProtocolType → Bool} :
    input.sourced.filter (fun x => p x.1.protocol) = [] ↔
      ¬ HasListener gw p ∧ ¬ SetsHaveListener attached p := by
  rw [filter_sourced h]
  simp [HasListener, SetsHaveListener]

theorem head_filter_sourced {p : ProtocolType → Bool} :
    (input.sourced.filter (fun x => p x.1.protocol)).head?.map Prod.snd = some (gatewayFQR gw) ↔
      HasListener gw p := by
  rw [filter_sourced h, head?_append]
  cases hown : gw.listeners.filter fun l => p l.protocol with
  | cons l ls =>
    have hl : l ∈ gw.listeners.filter fun l => p l.protocol := hown ▸ mem_cons_self
    exact iff_of_true rfl ⟨l, mem_filter.1 hl⟩
  | nil =>
    refine iff_of_false (fun hhead => ?_) fun ⟨l, hl, hp⟩ => ?_
    · -- a ListenerSet is not the Gateway, as its kind is another
      obtain ⟨x, hx, hsource⟩ := Option.map_eq_some_iff.1 hhead
      obtain ⟨ls, _, hx⟩ := mem_flatMap.1 (mem_of_head? hx)
      obtain ⟨l, _, rfl⟩ := mem_map.1 hx
      exact absurd (congrArg (·.kind) hsource) (by decide : "ListenerSet" ≠ "Gateway")
    · exact filter_eq_nil_iff.1 hown l hl hp

/-- The listeners of a class come before those of later classes, so these only count if there
    are none. -/
theorem head_filter_sourced_append (p : ProtocolType → Bool)
    (rest : List (Listener × Model.FullyQualifiedResource)) :
    (input.sourced.filter (fun x => p x.1.protocol) ++ rest).head?.map Prod.snd =
        some (gatewayFQR gw) ↔
      HasListener gw p ∨ ¬ SetsHaveListener attached p ∧
        rest.head?.map Prod.snd = some (gatewayFQR gw) := by
  have hhead := head_filter_sourced h (p := p)
  have hnil := filter_sourced_eq_nil h (p := p)
  cases hfilter : input.sourced.filter fun x => p x.1.protocol with
  | nil =>
    obtain ⟨hown, hsets⟩ := hnil.1 hfilter
    simp only [nil_append, hown, hsets, not_false_iff, true_and, false_or]
  | cons x xs =>
    rw [hfilter] at hhead hnil
    rw [cons_append, head?_cons, ← head?_cons (l := xs), hhead]
    refine ⟨.inl, fun hor => hor.elim id fun hsets => ?_⟩
    by_contra hown
    exact cons_ne_nil x xs (hnil.2 ⟨hown, hsets.1⟩)

theorem modelSource_eq_gateway_iff :
    modelSource (modelOf input) = some (gatewayFQR gw) ↔ HeadedByGateway gw attached := by
  have hudp := head_filter_sourced h (p := (· = .udp))
  have htcp := head_filter_sourced_append h (· = .tcp)
  rw [modelSource_modelOf h, translatedListeners, Input.httpListeners, HeadedByGateway,
    append_assoc, append_assoc, head_filter_sourced_append h servesHTTP,
    head_filter_sourced_append h servesHTTP, htcp, hudp]
  -- the listeners that serve HTTP stand in the model twice
  by_cases hown : HasListener gw servesHTTP
  · simp only [hown, true_or]
  · simp only [hown, false_or, and_self_left]

end Source

/-! ## Labels -/

/-- The value of a label of the infrastructure of a Gateway. -/
def infrastructureLabel (gw : Gateway) (key : String) : Option String :=
  gw.infrastructure.bind fun i => (Map.ofList i.labels).get? key

theorem get?_foldl_mergeMap {is : List Model.Infrastructure} {labels : List (String × String)}
    (h : ∀ i ∈ is, i.labels = labels) (key : String) :
    (is.foldl (fun all i => mergeMap all i.labels) ∅).get? key =
      if is = [] then none else (Map.ofList labels).get? key := by
  induction is using reverseRecOn with
  | nil => exact Map.get?_empty key
  | append_singleton is i ih =>
    have hi : i.labels = labels := h i (mem_append_right is mem_cons_self)
    have hne : is ++ [i] ≠ [] := append_ne_nil_of_right_ne_nil is (cons_ne_nil i [])
    rw [foldl_concat, mergeMap, Map.get?_foldl_set, hi,
      ih fun j hj => h j (mem_append_left _ hj), if_neg hne]
    split_ifs
    · exact Option.or_none
    · exact Option.or_self

theorem get?_infrastructureLabels (hne : translatedListeners input ≠ []) (key : String) :
    (((listenerSummaries (modelOf input)).filterMap (·.infrastructure)).foldl
        (fun all i => mergeMap all i.labels) ∅).get? key =
      infrastructureLabel input.gateway key := by
  rw [listenerSummaries_modelOf, filterMap_map, infrastructureLabel]
  cases hinfra : input.gateway.infrastructure with
  | none =>
    have hnil : (translatedListeners input).filterMap ((·.infrastructure) ∘ fun p =>
        (⟨[p.2], p.1.port, toInfrastructure input.gateway⟩ : ListenerSummary)) = [] := by
      simp [toInfrastructure, hinfra]
    rw [hnil]
    exact Map.get?_empty key
  | some i =>
    have hmem : ∀ x ∈ (translatedListeners input).filterMap ((·.infrastructure) ∘ fun p =>
        (⟨[p.2], p.1.port, toInfrastructure input.gateway⟩ : ListenerSummary)),
        x.labels = i.labels := by
      intro x hx
      obtain ⟨p, _, hp⟩ := mem_filterMap.1 hx
      simp only [Function.comp_apply, toInfrastructure, hinfra, Option.map_some,
        Option.some_inj] at hp
      rw [← hp]
    rw [get?_foldl_mergeMap hmem, if_neg]
    · rfl
    · simpa [toInfrastructure, hinfra, eq_nil_iff_forall_not_mem] using hne

/-- The label that tells the owner, which a label of the infrastructure overrides. -/
theorem get?_owningGatewayLabel (hash : String → String) (source : Model.FullyQualifiedResource)
    (ports : List Nat) (labels annotations : Go.Map String String) (nodePort : Bool) :
    (Translation.getService hash source ports labels annotations nodePort).labels.get?
        owningGatewayLabel =
      some ((labels.get? owningGatewayLabel).getD (shorten hash source.name)) := by
  rw [Translation.getService, mergeMap, Map.get?_foldl_set, Map.get?_ofList_toPairs]
  cases labels.get? owningGatewayLabel with
  | none =>
    rw [Option.none_or, Option.getD_none, Map.get?_ofList (by simp)]
    exact mem_singleton_self _
  | some v => rfl

/-! ## The resources -/

section

variable {source : Model.FullyQualifiedResource}

theorem modelSource_cases (h : buildInput c gw attached listing = .ok input)
    (hsource : modelSource (modelOf input) = some source) :
    source = gatewayFQR gw ∨ ∃ ls ∈ attached, source = listenerSetFQR ls := by
  rw [modelSource_modelOf h] at hsource
  obtain ⟨p, hp, rfl⟩ := Option.map_eq_some_iff.1 hsource
  have hsourced := mem_sourced_of_translated (mem_of_head? hp)
  rw [sourced_buildInput h] at hsourced
  obtain ⟨ctx, hctx, rfl⟩ := mem_map.1 hsourced
  obtain ⟨o, ho⟩ := mem_mergeListeners.1 hctx
  have hfqr := Owner.source_eq ho
  cases o with
  | gateway gw' => exact .inl (ho.1 ▸ hfqr)
  | listenerSet ls => exact .inr ⟨ls, ho.1, hfqr⟩

/-- An Envoy configuration is named after the source of the model, without shortening. -/
theorem envoyConfig_named {m : Model} {config : DolphinEnvoyConfig}
    (h : t.envoyConfig slices orders source m = .ok (some config)) :
    config.name = dolphinGatewayPrefix ++ source.name ∧ config.ns = source.ns ∧
      config.ownerReferences = [ownerReferenceTo source] ∧
      config.services.map (fun l => (l.name, l.ns)) =
        [(dolphinGatewayPrefix ++ source.name, source.ns)] := by
  obtain ⟨inner, hinner, rfl⟩ := GatewayTranslator.envoyConfig_eq_some h
  obtain ⟨resources, _, hpure⟩ := bind_pure_eq_ok.1 hinner
  rw [← hpure]
  exact ⟨rfl, rfl, rfl, rfl⟩

theorem exists_envoyConfig_iff {m : Model} {config : Option DolphinEnvoyConfig}
    (h : t.envoyConfig slices orders source m = .ok config) :
    config ≠ none ↔ ¬ (m.http = [] ∧ m.tls = [] ∧ m.tcp = []) := by
  rw [GatewayTranslator.envoyConfig] at h
  split_ifs at h with hnil
  · obtain rfl := pure_eq_ok.1 h
    exact iff_of_false (fun hne => hne rfl) (fun hne => hne hnil)
  · obtain ⟨inner, _, rfl⟩ := bind_pure_eq_ok.1 h
    exact iff_of_true (Option.some_ne_none _) hnil

/-- When the source of the model is the Gateway, names agree if none of them is shortened and
    the label that tells the owner is not overridden. -/
theorem consistentlyNamed_gateway {m : Model} {ports : List Nat}
    {labels annotations : Go.Map String String}
    (henvoy : t.envoyConfig slices orders (gatewayFQR gw) m = .ok res.config)
    (hservice : res.service =
      Translation.getService hash (gatewayFQR gw) ports labels annotations nodePort)
    (hendpoints : res.endpoints = getEndpoints hash (gatewayFQR gw)) :
    ConsistentlyNamed hash gw res ↔
      (res.config ≠ none → shorten hash (dolphinGatewayPrefix ++ gw.name) =
        dolphinGatewayPrefix ++ gw.name) ∧
      shorten hash gw.name = gw.name ∧
      ∀ v, labels.get? owningGatewayLabel = some v → v = gw.name := by
  have hlabel : res.service.labels.get? owningGatewayLabel =
      some ((labels.get? owningGatewayLabel).getD (shorten hash gw.name)) := by
    rw [hservice]
    exact get?_owningGatewayLabel hash (gatewayFQR gw) ports labels annotations nodePort
  have hselected : selectedForAddress hash gw res.service.ns res.service.labels = true ↔
      (labels.get? owningGatewayLabel).getD (shorten hash gw.name) = shorten hash gw.name := by
    rw [selectedForAddress, decide_eq_true_iff, hlabel, Option.some_inj, hservice]
    exact and_iff_right rfl
  have henqueued : enqueueRequestForOwningResource res.service.ns res.service.labels =
      [⟨gw.ns, gw.name⟩] ↔
      (labels.get? owningGatewayLabel).getD (shorten hash gw.name) = gw.name := by
    rw [enqueueRequestForOwningResource, hlabel, hservice]
    simp [Translation.getService, gatewayFQR]
  constructor
  · intro h
    have hself := henqueued.1 h.enqueued
    refine ⟨fun hconfig => ?_, (hselected.1 h.selected).symm.trans hself, fun v hv => ?_⟩
    · obtain ⟨config, hconfig⟩ := Option.ne_none_iff_exists'.1 hconfig
      have hlistener := h.listener config hconfig
      rw [(envoyConfig_named (hconfig ▸ henvoy)).2.2.2, hservice] at hlistener
      exact (congrArg Prod.fst (List.cons.inj hlistener).1).symm
    · rwa [hv, Option.getD_some] at hself
  · rintro ⟨hconfig, hself, hoverride⟩
    have hvalue : (labels.get? owningGatewayLabel).getD (shorten hash gw.name) = gw.name := by
      cases hv : labels.get? owningGatewayLabel with
      | none => exact hself
      | some v => exact hoverride v hv
    have hnamed : ∀ config ∈ res.config, config.name = res.service.name ∧ config.ns = gw.ns ∧
        config.ownerReferences = [ownerReferenceTo (gatewayFQR gw)] ∧
        config.services.map (fun l => (l.name, l.ns)) = [(res.service.name, gw.ns)] := by
      intro config hmem
      have hshort := hconfig (Option.ne_none_iff_exists'.2 ⟨config, hmem⟩)
      rw [hservice, Translation.getService, show (gatewayFQR gw).name = gw.name from rfl, hshort]
      exact envoyConfig_named (Option.mem_def.1 hmem ▸ henvoy)
    constructor
    case placed =>
      exact ⟨hservice ▸ rfl, hendpoints ▸ rfl, fun config hmem => (hnamed config hmem).2.1⟩
    case owned =>
      exact ⟨hservice ▸ rfl, hendpoints ▸ rfl, fun config hmem => (hnamed config hmem).2.2.1⟩
    case listener =>
      intro config hmem
      rw [(hnamed config hmem).2.2.2, hservice]
      rfl
    case deleted =>
      intro config hmem
      rw [(hnamed config hmem).1, (hnamed config hmem).2.1, hservice]
      exact mem_cons_self
    case selected => exact hselected.2 (hvalue.trans hself.symm)
    case enqueued => exact henqueued.2 hvalue

/-- When the source of the model is the Gateway, there is an Envoy configuration if the Gateway
    has a listener that serves HTTP or TCP. -/
theorem exists_config_iff (h : buildInput c gw attached listing = .ok input)
    (hheaded : HeadedByGateway gw attached) {config : Option DolphinEnvoyConfig}
    (henvoy : t.envoyConfig slices orders source (modelOf input) = .ok config) :
    config ≠ none ↔ HasListener gw servesHTTP ∨ HasListener gw (· = .tcp) := by
  have hhttp := filter_sourced_eq_nil h (p := servesHTTP)
  have htcp := filter_sourced_eq_nil h (p := (· = .tcp))
  simp only [exists_envoyConfig_iff henvoy, modelOf, map_eq_nil_iff, Input.httpListeners,
    hhttp, htcp]
  rcases hheaded with hown | ⟨hsets, hown | ⟨hsets', _⟩⟩
  · simp only [hown, not_true_eq_false, false_and, not_false_iff, true_or]
  · simp only [hown, not_true_eq_false, false_and, and_false, not_false_iff, or_true]
  · simp only [hsets, hsets', not_false_iff, and_true, and_self_left, not_and_or, not_not]

/-- The resources of a Gateway are named and owned consistently exactly when the listener that
    the translator sees first is one of the Gateway, the name needs no shortening, with the
    prefix if there is an Envoy configuration, and the infrastructure labels do not claim
    another owner. -/
theorem consistentlyNamed_iff {m : Model} (h : buildInput c gw attached listing = .ok input)
    (hm : gatewayAPI input = .ok m)
    (hres : t.translate hash slices orders nodePort m = .ok (.ok res))
    (hname : isDNS1123Subdomain gw.name = true) :
    ConsistentlyNamed hash gw res ↔
      HeadedByGateway gw attached ∧
      (HasListener gw servesHTTP ∨ HasListener gw (· = .tcp) → gw.name.utf8ByteSize ≤ 47) ∧
      gw.name.utf8ByteSize ≤ 63 ∧
      ∀ v, infrastructureLabel gw owningGatewayLabel = some v → v = gw.name := by
  obtain rfl := eq_modelOf hm
  obtain ⟨source, labels, annotations, hsource, hlabels, henvoy, hservice, hendpoints⟩ :=
    GatewayTranslator.translate_eq_ok hres
  have hheaded := modelSource_eq_gateway_iff h
  rw [hsource, Option.some_inj] at hheaded
  rcases modelSource_cases h hsource with rfl | ⟨ls, _, rfl⟩
  · have hascii := ascii_of_isDNS1123Subdomain hname
    have hascii' : ∀ x ∈ (dolphinGatewayPrefix ++ gw.name).toList, x.val ≤ 127 := by
      have hfixed : ∀ x ∈ dolphinGatewayPrefix.toList, x.val ≤ 127 := by
        simp [dolphinGatewayPrefix]
      rw [String.toList_append]
      exact forall_mem_append.2 ⟨hfixed, hascii⟩
    have hne : translatedListeners input ≠ [] := by
      intro hnil
      rw [modelSource_modelOf h, hnil] at hsource
      cases hsource
    have hlabel := get?_infrastructureLabels hne owningGatewayLabel
    rw [← hlabels, gateway_buildInput h] at hlabel
    rw [consistentlyNamed_gateway henvoy hservice hendpoints, hlabel,
      exists_config_iff h (hheaded.1 rfl) henvoy, shorten_eq_self_iff hash hascii,
      shorten_eq_self_iff hash hascii', utf8ByteSize_dolphinGatewayPrefix,
      and_iff_right (hheaded.1 rfl), show 16 + gw.name.utf8ByteSize ≤ 63 ↔
        gw.name.utf8ByteSize ≤ 47 by omega]
  · -- the resources are owned by a ListenerSet
    refine iff_of_false (fun hnamed => ?_) fun hcond => ?_
    · have howned := hnamed.owned.1
      rw [hservice] at howned
      exact absurd (congrArg (·.kind) (List.cons.inj howned).1)
        (by decide : "ListenerSet" ≠ "Gateway")
    · exact absurd (congrArg (·.kind) (hheaded.2 hcond.1)) (by decide : "ListenerSet" ≠ "Gateway")

end

def edgeListener : Listener where
  name := "web"
  protocol := .http
  port := 80

def edgeGateway : Gateway where
  name := "edge"
  ns := "infra"
  listeners := [edgeListener]

theorem edgeGateway_run : ∃ input m res, buildInput bareCluster edgeGateway [] {} = .ok input ∧
      gatewayAPI input = .ok m ∧
      gatewayTranslator.translate (fun s => s) .reference .entries false m = .ok (.ok res) :=
  ⟨_, _, _, rfl, rfl, rfl⟩

theorem consistentlyNamed_edgeGateway :
    ∃ input m res, buildInput bareCluster edgeGateway [] {} = .ok input ∧
      gatewayAPI input = .ok m ∧
      gatewayTranslator.translate (fun s => s) .reference .entries false m = .ok (.ok res) ∧
      ConsistentlyNamed (fun s => s) edgeGateway res := by
  obtain ⟨input, m, res, h, hm, hres⟩ := edgeGateway_run
  refine ⟨input, m, res, h, hm, hres, (consistentlyNamed_iff h hm hres (by decide)).2 ?_⟩
  refine ⟨.inl ⟨edgeListener, mem_cons_self, rfl⟩, fun _ => by decide, by decide, ?_⟩
  intro v hv
  cases hv

/-- A Gateway whose name needs shortening after the prefix. -/
def longNameGateway : Gateway where
  name := "checkout-and-payments-of-the-webshop-in-eu-west1"
  ns := "infra"
  listeners := [edgeListener]

/-- The Envoy configuration of a Gateway with a long name refers to a Service that does not
    exist, and is not the one that is deleted for the Gateway. -/
theorem names_disagree :
    ∃ input m res config, isDNS1123Subdomain longNameGateway.name = true ∧
      buildInput bareCluster longNameGateway [] {} = .ok input ∧ gatewayAPI input = .ok m ∧
      gatewayTranslator.translate (fun s => s) .reference .entries false m = .ok (.ok res) ∧
      res.config = some config ∧
      config.services.map (·.name) =
        ["dolphin-gateway-checkout-and-payments-of-the-webshop-in-eu-west1"] ∧
      res.service.name = "dolphin-gateway-checkout-and-payments-of-the-webshop-dolphin-gm" ∧
      ¬ ConsistentlyNamed (fun s => s) longNameGateway res := by
  refine ⟨_, _, _, _, by decide, rfl, rfl, rfl, rfl, rfl, by decide, fun hnamed => ?_⟩
  have hlistener := hnamed.listener _ rfl
  exact absurd (congrArg Prod.fst (List.cons.inj hlistener).1) (by decide)

end Pipeline
