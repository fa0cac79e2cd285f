import Dolphin.IngressController.Tenancy

/-!
# The routes of a host

Ingresses are translated together in shared mode, or one alone. In both modes the listeners of the
model are those of the Ingresses without passthrough (`ModelOf`), and the same settings go to
ingestion and to the translator (`BuiltFor.exists_model`). So the routes of a host are those of the
listeners that the Ingresses have for it (`ModelOf.mem_routesFor`), and with TLS those of the
listeners that also have a secret (`ModelOf.mem_routesFor_secure`). For a single Ingress, their
order is known too (`routesFor_ingress`).
-/

namespace IngressController

open Model Go Networkingv1 Annotations Ingestion Translation Envoy List

/-- The resources are built for the Ingresses: for all of them together in shared mode, which they
    are in, or for a single one. -/
inductive BuiltFor (r : IngressReconciler) (dolphinClass : Option IngressClass) (slices : Slices)
    (orders : RangeOrders) : List Ingress → List XDSResource → Prop
  | shared {ings : List Ingress} {config : DolphinEnvoyConfig}
      (hshares : ∀ ing ∈ ings, Shares r dolphinClass ing)
      (hconfig : r.buildSharedResources slices orders dolphinClass ings = .ok config) :
      BuiltFor r dolphinClass slices orders ings config.resources
  | dedicated {ing : Ingress} {res : DedicatedResources}
      (hres : r.buildDedicatedResources slices orders ing = .ok (.ok res)) :
      BuiltFor r dolphinClass slices orders [ing] res.config.resources

/-- The HTTP listeners of the model are those of the Ingresses without passthrough. -/
structure ModelOf (r : IngressReconciler) (ports : Nat × Nat × Nat) (ings : List Ingress)
    (m : Model) : Prop where
  read : ∀ ing ∈ ings, getAnnotationTLSPassthroughEnabled ing = false →
    ∃ ls, ingress (r.options ports) ing = .ok ls
  http : ∀ l, l ∈ m.http ↔ ∃ ing ∈ ings, getAnnotationTLSPassthroughEnabled ing = false ∧
    ∃ ls, ingress (r.options ports) ing = .ok ls ∧ l ∈ ls

section

variable {r : IngressReconciler} {dolphinClass : Option IngressClass} {slices : Slices}
  {orders : RangeOrders} {ings : List Ingress} {resources : List XDSResource} {m : Model}
  {ports : Nat × Nat × Nat}

theorem modelOf_sharedModel (hshares : ∀ ing ∈ ings, Shares r dolphinClass ing)
    (hm : r.sharedModel dolphinClass ings = .ok m) :
    ModelOf r r.getSharedListenerPorts ings m := by
  refine ⟨fun ing hing => exists_ingress_of_shares hm hing (hshares ing hing), fun l => ?_⟩
  rw [mem_sharedModel_http hm]
  exact exists_congr fun ing => and_congr_right fun hing => and_iff_right (hshares ing hing)

theorem modelOf_ingest {ing : Ingress} (hm : r.ingest ports ing = .ok m) :
    ModelOf r ports [ing] m := by
  have hm := ingest_eq_ok.1 hm
  cases hpass : getAnnotationTLSPassthroughEnabled ing with
  | true =>
    rw [if_pos hpass] at hm
    obtain ⟨ls, _, rfl⟩ := hm
    have hnot (ing' : Ingress) (hing : ing' ∈ [ing])
        (hfalse : getAnnotationTLSPassthroughEnabled ing' = false) : False := by
      obtain rfl := mem_singleton.1 hing
      exact Bool.false_ne_true (hfalse.symm.trans hpass)
    refine ⟨fun ing hing hfalse => (hnot ing hing hfalse).elim, fun l => iff_of_false ?_ ?_⟩
    · exact not_mem_nil
    · rintro ⟨ing', hing, hfalse, _⟩
      exact hnot ing' hing hfalse
  | false =>
    rw [hpass, if_neg Bool.false_ne_true] at hm
    obtain ⟨ls, hls, rfl⟩ := hm
    refine ⟨fun ing' hing _ => ⟨ls, mem_singleton.1 hing ▸ hls⟩, fun l => ⟨fun hl => ?_, ?_⟩⟩
    · exact ⟨ing, mem_singleton_self _, hpass, ls, hls, hl⟩
    · rintro ⟨ing', hing, _, ls', hls', hl⟩
      obtain rfl := mem_singleton.1 hing
      rwa [Except.ok.inj (hls.symm.trans hls')]

/-- In both modes, the settings that go to ingestion go to the translator too. -/
theorem BuiltFor.exists_model (h : BuiltFor r dolphinClass slices orders ings resources) :
    ∃ ports m name ns config, ModelOf r ports ings m ∧
      (r.translator name ns).translate slices orders m = .ok config ∧
      config.resources = resources := by
  cases h with
  | shared hshares hconfig =>
    obtain ⟨m, hm, hconfig⟩ := bind_eq_ok.1 hconfig
    exact ⟨_, m, _, _, _, modelOf_sharedModel hshares hm, hconfig, rfl⟩
  | dedicated hres =>
    obtain ⟨m, res', hm, hres', rfl⟩ := buildDedicatedResources_eq_ok hres
    obtain ⟨_, _, config, _, hconfig, rfl⟩ := translateDedicated_eq_ok hres'
    exact ⟨_, m, _, _, config, modelOf_ingest hm, hconfig, rfl⟩

namespace ModelOf

variable (h : ModelOf r ports ings m)

include h

theorem plain {l : HTTPListener} (hl : l ∈ m.http) {x : HTTPRoute} (hx : x ∈ l.routes) :
    ∃ ing, PlainRoute ing x := by
  obtain ⟨ing, _, _, ls, hls, hl⟩ := (h.http l).1 hl
  exact ⟨ing, (ownedBy_of_ingress hls hl).routes x hx⟩

/-- The routes of a host are those of its listeners. -/
theorem mem_routesFor {secure : Bool} {host : String} {x : HTTPRoute} :
    x ∈ routesFor m secure host ↔ ∃ ing ∈ ings, getAnnotationTLSPassthroughEnabled ing = false ∧
        ∃ l, (insecureAt (r.options ports) ing host = some l ∨
            secureAt (r.options ports) ing host = some l) ∧
          l.secure = secure ∧ x ∈ l.routes := by
  rw [Translation.mem_routesFor]
  constructor
  · rintro ⟨l, hl, hsecure, hx, hhost⟩
    obtain ⟨ing, hing, hpass, ls, hls, hmem⟩ := (h.http l).1 hl
    have hplain := (ownedBy_of_ingress hls hmem).routes x hx
    rw [effectiveHosts, if_pos hplain.hostnames, mem_singleton] at hhost
    exact ⟨ing, hing, hpass, l, hhost ▸ (mem_ingress hls).1 hmem, hsecure, hx⟩
  · rintro ⟨ing, hing, hpass, l, hl, hsecure, hx⟩
    obtain ⟨ls, hls⟩ := h.read ing hing hpass
    have hname : l.hostname = host := by
      rcases hl with hl | hl
      · obtain ⟨_, rfl⟩ := insecureAt_eq_some.1 hl
        rfl
      · exact hostname_secureAt hl
    have hmem : l ∈ ls := (mem_ingress hls).2 (hname.symm ▸ hl)
    have hplain := (ownedBy_of_ingress hls hmem).routes x hx
    refine ⟨l, (h.http l).2 ⟨ing, hing, hpass, ls, hls, hmem⟩, hsecure, hx, ?_⟩
    rw [effectiveHosts, if_pos hplain.hostnames, hname]
    exact mem_singleton_self _

theorem mem_routesFor_secure {host : String} {x : HTTPRoute} : x ∈ routesFor m true host ↔
      ∃ ing ∈ ings, getAnnotationTLSPassthroughEnabled ing = false ∧
        ∃ l, secureAt (r.options ports) ing host = some l ∧ l.secure = true ∧ x ∈ l.routes := by
  rw [h.mem_routesFor]
  refine exists_congr fun ing => and_congr_right fun _ => and_congr_right fun _ =>
    exists_congr fun l => and_congr_left fun hl => or_iff_right fun hin => ?_
  obtain ⟨_, rfl⟩ := insecureAt_eq_some.1 hin
  cases hl.1

theorem exists_insecure {l : HTTPListener} (hl : l ∈ m.http) :
    ∃ l' ∈ m.http, l'.tls = none ∧ l'.routes = l.routes := by
  obtain ⟨ing, hing, hpass, ls, hls, hmem⟩ := (h.http l).1 hl
  obtain ⟨l', hmem', hsame⟩ := exists_insecure_of_ingress hls hmem
  exact ⟨l', (h.http l').2 ⟨ing, hing, hpass, ls, hls, hmem'⟩, hsame⟩

end ModelOf

/-! ## A single Ingress -/

variable {ing : Ingress}

/-- A single Ingress is translated from what is read of it alone. -/
theorem BuiltFor.exists_ingest (h : BuiltFor r dolphinClass slices orders [ing] resources) :
    ∃ ports read m name ns config, r.ingest ports ing = .ok read ∧ m.http = read.http ∧
      (r.translator name ns).translate slices orders m = .ok config ∧
      config.resources = resources := by
  generalize hings : [ing] = ings at h
  cases h with
  | shared hshares hconfig =>
    subst hings
    obtain ⟨m, hm, hconfig⟩ := bind_eq_ok.1 hconfig
    obtain ⟨blocks, hblocks, rfl⟩ := bind_pure_eq_ok.1 hm
    have hsorted : sortIngresses [ing] = [ing] := rfl
    rw [hsorted, mapM_cons, mapM_nil] at hblocks
    obtain ⟨read, hread, rfl⟩ := bind_pure_eq_ok.1 hblocks
    rcases ingestShared_eq_ok.1 hread with ⟨_, hread⟩ | ⟨_, hnot, _⟩
    · exact ⟨_, read, _, _, _, _, hread, flatMap_singleton .., hconfig, rfl⟩
    · exact absurd (hshares ing (mem_singleton_self ing)) hnot
  | dedicated hres =>
    obtain rfl := (List.cons.inj hings).1
    obtain ⟨m, res', hm, hres', rfl⟩ := buildDedicatedResources_eq_ok hres
    obtain ⟨_, _, config, _, hconfig, rfl⟩ := translateDedicated_eq_ok hres'
    exact ⟨_, m, m, _, _, config, hm, rfl, hconfig, rfl⟩

/-- An Ingress in shared mode whose configuration can be built. -/
theorem exists_builtFor (r : IngressReconciler) (ing : Ingress) (hshares : Shares r none ing)
    (hbuilds : (r.buildSharedResources .reference .entries none [ing]).isOk = true) :
    ∃ slices orders resources, BuiltFor r none slices orders [ing] resources := by
  obtain ⟨config, hconfig⟩ := exists_of_isOk hbuilds
  exact ⟨_, _, _, .shared (fun ing' hing' => mem_singleton.1 hing' ▸ hshares) hconfig⟩

/-- Without passthrough, it is translated from its listeners. -/
theorem BuiltFor.exists_ingress (h : BuiltFor r dolphinClass slices orders [ing] resources)
    (hpass : getAnnotationTLSPassthroughEnabled ing = false) :
    ∃ ports m name ns config, ingress (r.options ports) ing = .ok m.http ∧
      (r.translator name ns).translate slices orders m = .ok config ∧
      config.resources = resources := by
  obtain ⟨ports, read, m, name, ns, config, hread, hm, hconfig, hresources⟩ := h.exists_ingest
  have hread := ingest_eq_ok.1 hread
  rw [hpass, if_neg Bool.false_ne_true] at hread
  obtain ⟨ls, hls, rfl⟩ := hread
  exact ⟨ports, m, name, ns, config, hm ▸ hls, hconfig, hresources⟩

theorem BuiltFor.not_passthrough (h : BuiltFor r dolphinClass slices orders [ing] resources)
    {secure : Bool} {vh : VirtualHost} (hvh : HasVirtualHost resources secure vh) :
    getAnnotationTLSPassthroughEnabled ing = false := by
  obtain ⟨ports, read, m, name, ns, config, hread, hm, hconfig, rfl⟩ := h.exists_ingest
  have hhosts := ((hasVirtualHost_iff hconfig).1 hvh).1.1
  have hread := ingest_eq_ok.1 hread
  by_contra hpass
  rw [if_pos (Bool.not_eq_false _ ▸ hpass)] at hread
  obtain ⟨_, _, rfl⟩ := hread
  exact hhosts (hostsFor_eq_nil_iff.2 fun l hl => absurd (hm ▸ hl) not_mem_nil)

theorem routesFor_ingress {opts : IngressOptions} (hls : ingress opts ing = .ok m.http)
    (secure : Bool) (host : String) :
    routesFor m secure host =
      (((insecureAt opts ing host).toList ++ (secureAt opts ing host).toList).filter
        (·.secure = secure)).flatMap (·.routes) := by
  have hroutes (l : HTTPListener) (hl : l ∈ m.http) : (l.routes.flatMap fun x =>
      List.replicate ((effectiveHosts l x).count host) x) =
        if l.hostname = host then l.routes else [] := by
    have hcount (x : HTTPRoute) (hx : x ∈ l.routes) :
        List.replicate ((effectiveHosts l x).count host) x =
          if l.hostname = host then [x] else [] := by
      rw [effectiveHosts, if_pos ((ownedBy_of_ingress hls hl).routes x hx).hostnames,
        count_singleton]
      by_cases hname : l.hostname = host <;> simp [hname]
    rw [flatMap_congr hcount]
    split_ifs <;> simp
  rw [← ingress_eq_ok hls, filter_comm, routesFor, listenersOf,
    flatMap_congr fun l hl => hroutes l (mem_filter.1 hl).1]
  induction m.http.filter (·.secure = secure) with
  | nil => rfl
  | cons l ls ih =>
    rw [flatMap_cons, ih]
    by_cases hname : l.hostname = host <;> simp [hname]

end

end IngressController
