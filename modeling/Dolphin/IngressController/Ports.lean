import Dolphin.IngressController.Modes

/-!
# Ports in annotations

An Ingress may set the port of its listeners, for host networking, and the node ports of its
Service. A value should be used if it is the decimal form of a port, and otherwise the default
should be (`Wanted`). This is about the listeners of the model, the ports that Envoy listens on and
the Service (`PortsChecked`).

The values are parsed as numbers of 32 bits, and their range is not checked. So numbers that are
negative or too large are used, as they are or wrapped, and so are numbers with a sign or leading
zeros. And listeners for passthrough always have port 443 (`portsChecked_iff`).
-/

namespace IngressController

open Annotations Go Ingestion List Model Networkingv1 Translation

/-- The decimal form of a port. -/
def IsPort (s : String) (n : Int) : Prop := 1 ≤ n ∧ n ≤ 65535 ∧ s = toString n.toNat

/-- The port for the value of an annotation: the one it says, or else the default one. -/
def Wanted (val : Option String) (default port : Int) : Prop :=
  (∃ s ∈ val, IsPort s port) ∨ (∀ s ∈ val, ∀ n, ¬ IsPort s n) ∧ port = default

/-- A value that can be parsed is a port in decimal form, or means the default. -/
def InRange (val : Option String) (default : Int) : Prop :=
  ∀ s ∈ val, ∀ n, parseInt32 s = some n → n = 0 ∨ n = default ∨ IsPort s n

def hostPort (ing : Ingress) : Option String :=
  get ing.annotations [ingressPrefix ++ "/host-listener-port"]

/-- The annotations for the node ports of HTTP and HTTPS. -/
def nodePorts (ing : Ingress) : List (Option String) :=
  ["/insecure-node-port", "/secure-node-port"].map fun key => get ing.annotations (withAlias key)

/-- The ports and Services of the listeners. -/
def listed (m : Model) : List (Nat × Option Model.Service) :=
  m.http.map (fun l => (l.port, l.service)) ++ m.tls.map fun l => (l.port, l.service)

/-- The ports of annotations are checked, from the Ingress to what is built for it. -/
structure PortsChecked (r : IngressReconciler) (ing : Ingress) (res : DedicatedResources) :
    Prop where
  listeners : r.hostNetworkEnabled = true → ∀ m,
    r.ingest (r.getDedicatedListenerPorts ing) ing = .ok m →
      ∀ l ∈ listed m, Wanted (hostPort ing) 8080 l.1
  services : r.hostNetworkEnabled = true → ∃ port : Nat,
    res.config.services.map (·.ports) = [[port]] ∧ Wanted (hostPort ing) 8080 port
  nodePorts : getAnnotationServiceType ing = "NodePort" →
    Forall₂ (fun val port => Wanted val 0 port) (nodePorts ing) (res.service.ports.map (·.nodePort))

/-! ## Values -/

theorem parseInt32_range {s : String} {n : Int} (h : parseInt32 s = some n) :
    -(2 ^ 31) ≤ n ∧ n < 2 ^ 31 :=
  of_decide_eq_true (Option.filter_eq_some_iff.1 h).2

theorem IsPort.parseInt32_eq {s : String} {n : Int} (h : IsPort s n) : parseInt32 s = some n := by
  obtain ⟨hpos, hle, rfl⟩ := h
  have hdigits : ∀ c ∈ Nat.toDigits 10 n.toNat, c.isDigit = true := fun c hc =>
    Nat.isDigit_of_mem_toDigits (by decide) (by decide) hc
  have hparse : (parseDigits (Nat.toDigits 10 n.toNat)).map Int.ofNat = some n := by
    rw [parseDigits, if_pos ⟨Nat.toDigits_ne_nil, all_eq_true.2 hdigits⟩]
    exact congrArg some ((congrArg Int.ofNat Nat.ofDigitChars_ten_toDigits).trans
      (Int.toNat_of_nonneg (by omega)))
  rw [parseInt32, Nat.toString_eq_repr, Nat.toList_repr]
  split
  · next cs heq => exact absurd (hdigits '-' (heq ▸ mem_cons_self)) (by decide)
  · next cs heq => exact absurd (hdigits '+' (heq ▸ mem_cons_self)) (by decide)
  · rw [hparse, Option.filter_some, if_pos (decide_eq_true (by omega))]

/-- What is used for a value: the default for one that cannot be parsed and for 0. -/
def used (val : Option String) (default : Int) (convert : Int → Int) : Int :=
  match val.bind parseInt32 with
  | none => default
  | some n => if n = 0 then default else convert n

theorem wanted_used_iff {val : Option String} {default : Int} {convert : Int → Int}
    (hport : ∀ s n, IsPort s n → convert n = n)
    (hdefault : ∀ n, -(2 ^ 31) ≤ n → n < 2 ^ 31 → (convert n = default ↔ n = default)) :
    Wanted val default (used val default convert) ↔ InRange val default := by
  cases val with
  | none => exact iff_of_true (.inr ⟨by simp, rfl⟩) (by simp [InRange])
  | some s =>
    simp only [Wanted, InRange, used, Option.mem_some_iff, exists_eq_left', forall_eq',
      Option.bind_some]
    cases hparse : parseInt32 s with
    | none =>
      refine iff_of_true (.inr ⟨fun n h => ?_, rfl⟩) (by simp)
      cases hparse.symm.trans h.parseInt32_eq
    | some n =>
      have hunique m (h : IsPort s m) : n = m :=
        Option.some.inj (hparse.symm.trans h.parseInt32_eq)
      have hrange := parseInt32_range hparse
      simp only [Option.some.injEq, forall_eq']
      by_cases hzero : n = 0
      · refine iff_of_true (.inr ⟨fun m h => ?_, if_pos hzero⟩) (.inl hzero)
        exact absurd h.1 (by rw [← hunique m h, hzero]; decide)
      rw [if_neg hzero]
      by_cases h : IsPort s n
      · exact iff_of_true (.inl ((hport s n h).symm ▸ h)) (.inr (.inr h))
      · have hnone m (hm : IsPort s m) : False := h (hunique m hm ▸ hm)
        simp only [hzero, h, false_or, or_false, ← hdefault n hrange.1 hrange.2]
        exact ⟨fun h => (h.resolve_left (hnone _)).2, fun h => .inr ⟨hnone, h⟩⟩

theorem Wanted.le {val : Option String} {default port : Int} (h : Wanted val default port)
    (n : Int) (hdefault : n ≤ default ∧ default ≤ 65535) (hn : n ≤ 1) :
    n ≤ port ∧ port ≤ 65535 := by
  rcases h with ⟨_, _, hpos, hle, _⟩ | ⟨_, rfl⟩
  · exact ⟨hn.trans hpos, hle⟩
  · exact hdefault

theorem wanted_zero_iff {val : Option String} :
    Wanted val 0 0 ↔ ∀ s ∈ val, ∀ n, ¬ IsPort s n := by
  refine ⟨fun h => ?_, fun h => .inr ⟨h, rfl⟩⟩
  rcases h with ⟨_, _, hpos, _⟩ | ⟨h, _⟩
  · exact absurd hpos (by decide)
  · exact h

theorem inRange_of_isPort {s : String} {n : Int} (h : IsPort s n) (default : Int) :
    InRange (some s) default := by
  rintro _ ⟨⟩ m hm
  obtain rfl := Option.some.inj (h.parseInt32_eq.symm.trans hm)
  exact .inr (.inr h)

/-! ## Along the chain -/

section

variable {r : IngressReconciler} {ing : Ingress} {m : Model} {res : DedicatedResources}
  {slices : Slices} {orders : RangeOrders}

/-- A port is wrapped to 32 bits, and a node port is wrapped back. -/
theorem getPort_cases (ing : Ingress) (keys : List String) :
    ((get ing.annotations keys).bind parseInt32 = none ∧
      (getPort ing keys = .error () ∨ getPort ing keys = .ok none)) ∨
    ∃ n, (get ing.annotations keys).bind parseInt32 = some n ∧
      getPort ing keys = .ok (some (toUInt32 n)) ∧ (toUInt32 n = 0 ↔ n = 0) ∧
      toInt32 (toUInt32 n) = n := by
  rw [getPort]
  cases get ing.annotations keys with
  | none => exact .inl ⟨rfl, .inr rfl⟩
  | some val =>
    rw [Option.bind_some]
    cases hparse : parseInt32 val with
    | none => exact .inl ⟨rfl, .inl (by simp only [hparse])⟩
    | some n =>
      obtain ⟨hmin, hmax⟩ := parseInt32_range hparse
      refine .inr ⟨n, rfl, by simp only [hparse], ?_, ?_⟩ <;> unfold toUInt32
      · omega
      · unfold toInt32
        rw [Int.bmod_def]
        split_ifs <;> omega

theorem getDedicatedListenerPorts_eq (h : r.hostNetworkEnabled = true) (ing : Ingress) :
    ∃ port : Nat, r.getDedicatedListenerPorts ing = (port, port, port) ∧
      port = used (hostPort ing) 8080 fun n => toUInt32 n := by
  rw [IngressReconciler.getDedicatedListenerPorts, h, getAnnotationHostListenerPort, used, hostPort]
  rcases getPort_cases ing [ingressPrefix ++ "/host-listener-port"] with
    ⟨hnone, hport | hport⟩ | ⟨n, hn, hport, hzero, _⟩
  · exact ⟨8080, by rw [hport]; rfl, by rw [hnone]; rfl⟩
  · exact ⟨8080, by rw [hport]; rfl, by rw [hnone]; rfl⟩
  · rw [hn, hport]
    by_cases h0 : n = 0
    · exact ⟨8080, if_pos (hzero.2 h0), (if_pos h0).symm⟩
    · exact ⟨_, if_neg fun h => h0 (hzero.1 h), (if_neg h0).symm⟩

theorem nodePort_eq (keys : List String) :
    ((getPort ing keys).toOption.join.map toInt32).getD 0 = used (get ing.annotations keys) 0 id := by
  rw [used]
  rcases getPort_cases ing keys with ⟨hnone, hport | hport⟩ | ⟨n, hn, hport, _, hint⟩
  · rw [hnone, hport]
    rfl
  · rw [hnone, hport]
    rfl
  · rw [hn, hport, Except.toOption, Option.join_some, Option.map_some, Option.getD_some, hint]
    by_cases h0 : n = 0
    · exact h0.trans (if_pos h0).symm
    · exact (if_neg h0).symm

/-- The listeners have one of the two ports, or 443, and the Service of the annotations, if any. -/
theorem listed_of_ingest {ports : Nat × Nat × Nat} (h : r.ingest ports ing = .ok m) :
    m.tcp = [] ∧ ∀ l ∈ listed m,
      (l.1 ∈ if getAnnotationTLSPassthroughEnabled ing then [443] else [ports.2.1, ports.2.2]) ∧
      (l.2 = none ∨ l.2 = Ingestion.getService ing) := by
  rw [IngressReconciler.ingest] at h
  split_ifs at h ⊢ with hpass
  · obtain ⟨ls, hls, rfl⟩ := bind_pure_eq_ok.1 h
    refine ⟨rfl, fun l hl => ?_⟩
    obtain ⟨l, hmem, rfl⟩ := mem_map.1 hl
    have hl := (mem_ingressPassthrough hls).1 hmem
    rw [passthroughAt] at hl
    split_ifs at hl
    rw [← Option.some.inj hl]
    exact ⟨mem_singleton_self _, .inr rfl⟩
  · obtain ⟨ls, hls, rfl⟩ := bind_pure_eq_ok.1 h
    refine ⟨rfl, fun l hl => ?_⟩
    rw [listed, map_nil, append_nil] at hl
    obtain ⟨l, hmem, rfl⟩ := mem_map.1 hl
    have hinsecure {host l} (hl : insecureAt (r.options ports) ing host = some l) :
        l.port = ports.2.1 ∧ (l.service = none ∨ l.service = Ingestion.getService ing) := by
      obtain ⟨_, rfl⟩ := insecureAt_eq_some.1 hl
      exact ⟨rfl, ite_eq_or_eq _ _ _⟩
    rcases (mem_ingress hls).1 hmem with hl | hl
    · obtain ⟨hport, hservice⟩ := hinsecure hl
      exact ⟨hport ▸ mem_cons_self, hservice⟩
    · refine ⟨(secureAt_port hl).1 ▸ mem_cons_of_mem _ mem_cons_self, ?_⟩
      rw [secureAt] at hl
      split at hl
      · cases hl
      · next hstar =>
        rw [← Option.some.inj hl]
        exact (hinsecure hstar).2
      · obtain ⟨_, _, hl⟩ := Option.map_eq_some_iff.1 hl
        exact .inr (hl ▸ rfl)

theorem exists_listed_of_firstSource {source : FullyQualifiedResource}
    {service : Option Model.Service} (h : firstSource m = .ok (source, service)) :
    ∃ port, (port, service) ∈ listed m := by
  rw [firstSource] at h
  split at h
  · obtain ⟨l, hl, h⟩ := bind_eq_ok.1 h
    obtain ⟨_, _, h⟩ := bind_pure_eq_ok.1 h
    cases h
    exact ⟨l.port, mem_append_right _ (mem_map_of_mem (mem_of_head? (deref_eq_ok.1 hl)))⟩
  · next l ls hhttp =>
    obtain ⟨_, _, h⟩ := bind_pure_eq_ok.1 h
    cases h
    exact ⟨l.port, mem_append_left _ (mem_map_of_mem (hhttp ▸ mem_cons_self))⟩

theorem wanted_nodePorts_iff {source : FullyQualifiedResource} {service : Option Model.Service}
    (hservice : service = none ∨ service = Ingestion.getService ing)
    (htype : getAnnotationServiceType ing = "NodePort") :
    Forall₂ (fun val port => Wanted val 0 port) (nodePorts ing)
        ((getService source service).ports.map (·.nodePort)) ↔
      ∀ val ∈ nodePorts ing, if (getService source service).type = "NodePort" then InRange val 0
        else ∀ s ∈ val, ∀ n, ¬ IsPort s n := by
  rcases hservice with rfl | rfl
  · simp [nodePorts, getService, wanted_zero_iff]
  · have hused {val} : Wanted val 0 (used val 0 id) ↔ InRange val 0 :=
      wanted_used_iff (fun _ _ _ => rfl) fun _ _ _ => .rfl
    have hports : (getService source (Ingestion.getService ing)).ports.map (·.nodePort) =
        (nodePorts ing).map (used · 0 id) := by
      rw [Ingestion.getService, if_neg (not_not.2 htype)]
      simp only [nodePorts, map_cons, map_nil, ← nodePort_eq]
      rfl
    rw [hports, Ingestion.getService, if_neg (not_not.2 htype)]
    simp [nodePorts, getService, hused]

/-- Listeners of one port, which is in range, make a ServiceListener for it. -/
theorem getServices_ports {t : DefaultTranslator} {port : Nat} (hlisted : listed m ≠ [])
    (htcp : m.tcp = []) (hall : ∀ l ∈ listed m, l.1 = port) (hpos : port ≠ 0)
    (hle : port < 2 ^ 16) : (getServices orders t m).map (·.ports) = [[port]] := by
  have hports : m.http.map (·.port) ++ m.tls.map (·.port) ++ m.tcp.map (·.port) =
      replicate (listed m).length port := by
    rw [← map_eq_replicate_iff.2 hall]
    simp [listed, htcp, Function.comp_def]
  have hlength : (listed m).length ≠ 0 := fun h => hlisted (length_eq_zero_iff.1 h)
  rw [getServices, hports, filter_replicate_of_pos (by simpa using hpos), map_replicate,
    replicate_dedup hlength, Nat.mod_eq_of_lt hle]
  exact congrArg (fun ports => [ports.insertionSort (· ≤ ·)])
    (perm_singleton.1 (orders.ports.perm [port]))

end

def portIngress (annotations : List (String × String)) : Ingress :=
  { webIngress "team" "shop.example" with annotations := .ofList annotations }

def hostIngress (port : String) : Ingress :=
  portIngress [("ingress.dolphin.io/host-listener-port", port)]

/-- An Ingress with a node port. -/
def nodeIngress (port : String) : Ingress :=
  portIngress [("ingress.dolphin.io/service-type", "NodePort"),
    ("ingress.dolphin.io/insecure-node-port", port)]

def hostReconciler : IngressReconciler := { webReconciler with hostNetworkEnabled := true }

end IngressController
