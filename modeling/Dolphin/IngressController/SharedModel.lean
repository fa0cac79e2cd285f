import Dolphin.Ingestion.IngressTLS
import Dolphin.IngressController.Resources
import Dolphin.Translation.HTTPSRedirect

/-!
# Models of Ingresses

The shared model has the listeners of the managed Ingresses in shared mode that are not being
deleted (`mem_sharedModel_http`, `mem_sharedModel_tls`). A route of an Ingress matches on nothing
but the path, and goes to one backend with a port. A model with only such routes (`PlainModel`)
can be translated, with or without enforcement of HTTPS (`PlainModel.exists_translate`). Hence the
configurations of both modes can be built for Ingresses that can be read
(`exists_buildSharedResources`, `exists_buildDedicatedResources`): the dedicated translator always
finds a source in the listeners of one Ingress (`exists_listsHosts_dedicated`).
-/

namespace IngressController

open Model Go Networkingv1 Annotations Ingestion Translation List

/-- The routes of the model are like those of Ingresses. -/
structure PlainModel (m : Model) : Prop where
  http : ∀ l ∈ m.http, ∀ r ∈ l.routes, ∃ ing, PlainRoute ing r
  tls : ∀ l ∈ m.tls, ∀ r ∈ l.routes, ∀ be ∈ r.backends, be.port.isSome

/-- The Ingress takes part in the shared configuration. -/
structure Shares (r : IngressReconciler) (dolphinClass : Option IngressClass) (ing : Ingress) :
    Prop where
  managed : isdolphinManagedIngress dolphinClass ing = .ok true
  mode : r.isEffectiveLoadbalancerModeDedicated ing = false
  present : ing.deletionTimestamp = none

/-! ## What the model has -/

section

variable {r : IngressReconciler} {dolphinClass : Option IngressClass} {ings : List Ingress}
  {ing : Ingress} {ports : Nat × Nat × Nat} {m : Model}

instance (r : IngressReconciler) (dolphinClass : Option IngressClass) (ing : Ingress) :
    Decidable (Shares r dolphinClass ing) :=
  decidable_of_iff (isdolphinManagedIngress dolphinClass ing = .ok true ∧
      r.isEffectiveLoadbalancerModeDedicated ing = false ∧ ing.deletionTimestamp = none)
    ⟨fun h => ⟨h.1, h.2.1, h.2.2⟩, fun h => ⟨h.managed, h.mode, h.present⟩⟩

theorem ingest_eq_ok : r.ingest ports ing = .ok m ↔ if getAnnotationTLSPassthroughEnabled ing then
        ∃ ls, ingressPassthrough ing = .ok ls ∧ m = { tls := ls }
      else ∃ ls, ingress (r.options ports) ing = .ok ls ∧ m = { http := ls } := by
  rw [IngressReconciler.ingest]
  split_ifs <;> simp only [bind_eq_ok, pure_eq_ok, eq_comm (b := m)]

theorem ingestShared_eq_ok : r.ingestShared dolphinClass ing = .ok m ↔
      (Shares r dolphinClass ing ∧ r.ingest r.getSharedListenerPorts ing = .ok m) ∨
      ((∃ managed, isdolphinManagedIngress dolphinClass ing = .ok managed) ∧
        ¬ Shares r dolphinClass ing ∧ m = {}) := by
  rw [IngressReconciler.ingestShared, bind_eq_ok]
  cases hmanaged : isdolphinManagedIngress dolphinClass ing with
  | error e =>
    refine iff_of_false ?_ ?_
    · rintro ⟨_, h, _⟩
      cases h
    · rintro (⟨h, _⟩ | ⟨⟨_, h⟩, _⟩)
      · cases hmanaged.symm.trans h.managed
      · cases h
  | ok managed =>
    simp only [Except.ok.injEq, exists_eq_left']
    by_cases hcond : (!managed || r.isEffectiveLoadbalancerModeDedicated ing ||
        ing.deletionTimestamp.isSome) = true
    · have hnot : ¬ Shares r dolphinClass ing := by
        intro h
        obtain rfl := Except.ok.inj (hmanaged.symm.trans h.managed)
        rw [h.mode, h.present] at hcond
        exact absurd hcond Bool.false_ne_true
      rw [if_pos hcond, pure_eq_ok]
      simp [hnot, eq_comm (b := m)]
    · have hshares : Shares r dolphinClass ing := by
        simp only [Bool.or_eq_true, Bool.not_eq_true', not_or, Bool.not_eq_true,
          Bool.not_eq_false, Option.isSome_eq_false_iff, Option.isNone_iff_eq_none] at hcond
        obtain ⟨⟨rfl, hmode⟩, hpresent⟩ := hcond
        exact ⟨hmanaged, hmode, hpresent⟩
      rw [if_neg hcond]
      simp [hshares]

theorem mem_sortIngresses : ing ∈ sortIngresses ings ↔ ing ∈ ings := mem_insertionSort _

/-- The listeners of a slice of the model are those of the blocks of the Ingresses. -/
theorem mem_sharedModel {β : Type} {g : Model → List β} {blocks : List Model}
    (h : (sortIngresses ings).mapM (r.ingestShared dolphinClass) = .ok blocks) (hg : g {} = [])
    {y : β} :
    y ∈ blocks.flatMap g ↔ ∃ ing ∈ ings, Shares r dolphinClass ing ∧
      ∃ b, r.ingest r.getSharedListenerPorts ing = .ok b ∧ y ∈ g b := by
  rw [mem_flatMap]
  constructor
  · rintro ⟨b, hb, hy⟩
    obtain ⟨ing, hing, hblock⟩ := (mem_mapM h).1 hb
    rcases ingestShared_eq_ok.1 hblock with ⟨hshares, hb⟩ | ⟨_, _, rfl⟩
    · exact ⟨ing, mem_sortIngresses.1 hing, hshares, b, hb, hy⟩
    · rw [hg] at hy
      cases hy
  · rintro ⟨ing, hing, hshares, b, hb, hy⟩
    exact ⟨b, (mem_mapM h).2 ⟨ing, mem_sortIngresses.2 hing,
      ingestShared_eq_ok.2 (.inl ⟨hshares, hb⟩)⟩, hy⟩

section

variable (h : r.sharedModel dolphinClass ings = .ok m)

include h

theorem mem_sharedModel_http {l : HTTPListener} :
    l ∈ m.http ↔ ∃ ing ∈ ings, Shares r dolphinClass ing ∧
      getAnnotationTLSPassthroughEnabled ing = false ∧
      ∃ ls, ingress (r.options r.getSharedListenerPorts) ing = .ok ls ∧ l ∈ ls := by
  obtain ⟨blocks, hblocks, rfl⟩ := bind_pure_eq_ok.1 h
  refine (mem_sharedModel (g := (·.http)) hblocks rfl).trans ?_
  refine exists_congr fun ing => and_congr_right fun _ => and_congr_right fun _ => ?_
  simp only [ingest_eq_ok]
  cases getAnnotationTLSPassthroughEnabled ing with
  | true =>
    simp only [if_true, Bool.true_eq_false, false_and, iff_false]
    rintro ⟨_, ⟨ls, _, rfl⟩, hl⟩
    cases hl
  | false =>
    simp only [Bool.false_eq_true, if_false, true_and]
    constructor
    · rintro ⟨_, ⟨ls, hls, rfl⟩, hl⟩
      exact ⟨ls, hls, hl⟩
    · rintro ⟨ls, hls, hl⟩
      exact ⟨_, ⟨ls, hls, rfl⟩, hl⟩

theorem mem_sharedModel_tls {l : TLSListener} :
    l ∈ m.tls ↔ ∃ ing ∈ ings, Shares r dolphinClass ing ∧
      getAnnotationTLSPassthroughEnabled ing = true ∧
      ∃ ls, ingressPassthrough ing = .ok ls ∧ l ∈ ls := by
  obtain ⟨blocks, hblocks, rfl⟩ := bind_pure_eq_ok.1 h
  refine (mem_sharedModel (g := (·.tls)) hblocks rfl).trans ?_
  refine exists_congr fun ing => and_congr_right fun _ => and_congr_right fun _ => ?_
  simp only [ingest_eq_ok]
  cases getAnnotationTLSPassthroughEnabled ing with
  | true =>
    simp only [if_true, true_and]
    constructor
    · rintro ⟨_, ⟨ls, hls, rfl⟩, hl⟩
      exact ⟨ls, hls, hl⟩
    · rintro ⟨ls, hls, hl⟩
      exact ⟨_, ⟨ls, hls, rfl⟩, hl⟩
  | false =>
    simp only [Bool.false_eq_true, if_false, false_and, iff_false]
    rintro ⟨_, ⟨ls, _, rfl⟩, hl⟩
    cases hl

theorem exists_ingress_of_shares (hing : ing ∈ ings) (hshares : Shares r dolphinClass ing)
    (hpass : getAnnotationTLSPassthroughEnabled ing = false) :
    ∃ ls, ingress (r.options r.getSharedListenerPorts) ing = .ok ls := by
  obtain ⟨blocks, hblocks, _⟩ := bind_eq_ok.1 h
  obtain ⟨b, hb⟩ := exists_mapM_eq_ok.1 ⟨blocks, hblocks⟩ ing (mem_sortIngresses.2 hing)
  rcases ingestShared_eq_ok.1 hb with ⟨_, hb⟩ | ⟨_, hnot, _⟩
  · rw [ingest_eq_ok, hpass, if_neg Bool.false_ne_true] at hb
    obtain ⟨ls, hls, _⟩ := hb
    exact ⟨ls, hls⟩
  · exact absurd hshares hnot

theorem sharedModel_filter :
    r.sharedModel dolphinClass (ings.filter fun ing => Shares r dolphinClass ing) = .ok m := by
  obtain ⟨blocks, hblocks, h⟩ := bind_eq_ok.1 h
  have hok (ing : Ingress) (hing : ing ∈ sortIngresses ings) : r.ingestShared dolphinClass ing =
      .ok ((r.ingestShared dolphinClass ing).toOption.getD {}) := by
    obtain ⟨b, hb⟩ := exists_mapM_eq_ok.1 ⟨blocks, hblocks⟩ ing hing
    rw [hb]
    rfl
  have hnone (ing : Ingress) (hing : ing ∈ sortIngresses ings)
      (hnot : decide (Shares r dolphinClass ing) = false) :
      (r.ingestShared dolphinClass ing).toOption.getD {} = {} := by
    rcases ingestShared_eq_ok.1 (hok ing hing) with ⟨hshares, _⟩ | ⟨_, _, hnone⟩
    · exact absurd hshares (of_decide_eq_false hnot)
    · exact hnone
  have hsorted : sortIngresses (ings.filter fun ing => Shares r dolphinClass ing) =
      (sortIngresses ings).filter fun ing => Shares r dolphinClass ing :=
    (filter_insertionSort_comm (fun _ _ => Iff.rfl) _ ings).symm
  rw [IngressReconciler.sharedModel, hsorted,
    mapM_eq_map fun ing hing => hok ing (mem_filter.1 hing).1, ← h, eq_map_of_mapM hblocks {}]
  refine congrArg Except.ok ?_
  simp only [flatMap_map]
  rw [flatMap_filter_eq fun ing hing hnot => by rw [hnone ing hing hnot],
    flatMap_filter_eq fun ing hing hnot => by rw [hnone ing hing hnot]]

end

/-! ## Plain models -/

theorem plainModel_of_ingress {opts : IngressOptions} {ls : List HTTPListener}
    (h : ingress opts ing = .ok ls) : PlainModel { http := ls } := by
  refine ⟨fun l hl route hroute => ?_, by simp⟩
  exact ⟨_, (ownedBy_of_ingress h hl).routes route hroute⟩

theorem plainModel_of_ingest (h : r.ingest ports ing = .ok m) : PlainModel m := by
  have h := ingest_eq_ok.1 h
  split_ifs at h
  · obtain ⟨ls, hls, rfl⟩ := h
    refine ⟨by simp, fun l hl route hroute be hbe => ?_⟩
    obtain ⟨_, service, _, hbe'⟩ := (ownedBy_of_ingressPassthrough hls hl).routes route hroute
    rw [hbe', mem_singleton] at hbe
    exact hbe ▸ rfl
  · obtain ⟨ls, hls, rfl⟩ := h
    exact plainModel_of_ingress hls

theorem plainModel_of_sharedModel (h : r.sharedModel dolphinClass ings = .ok m) : PlainModel m := by
  constructor
  · intro l hl route hroute
    obtain ⟨ing, _, _, _, ls, hls, hl⟩ := (mem_sharedModel_http h).1 hl
    exact ⟨_, (ownedBy_of_ingress hls hl).routes route hroute⟩
  · intro l hl route hroute be hbe
    obtain ⟨ing, _, _, _, ls, hls, hl⟩ := (mem_sharedModel_tls h).1 hl
    obtain ⟨_, service, _, hbe'⟩ := (ownedBy_of_ingressPassthrough hls hl).routes route hroute
    rw [hbe', mem_singleton] at hbe
    exact hbe ▸ rfl

/-- A group of plain routes is served by one route, which forwards to their backends. -/
theorem groupServed_of_plain {routes : List HTTPRoute} (h : ∀ x ∈ routes, ∃ ing, PlainRoute ing x)
    {k : String} (hk : k ∈ matchKeys routes) : GroupServed (groupAt routes k) := by
  have hplain (x : HTTPRoute) (hx : x ∈ groupAt routes k) : x.requestRedirect = none ∧
      x.requestMirrors = [] ∧ ∃ be, x.backends = [be] ∧ be.port.isSome := by
    obtain ⟨x', hx', rfl⟩ := mem_map.1 hx
    obtain ⟨ing, hplain⟩ := h x' (mem_filter.1 hx').1
    obtain ⟨service, _, hbe⟩ := hplain.backends
    exact ⟨hplain.requestRedirect, hplain.requestMirrors, _, hbe, rfl⟩
  obtain ⟨first, rest, hgroup⟩ := exists_cons_of_ne_nil (groupAt_ne_nil.2 hk)
  rw [hgroup] at hplain ⊢
  obtain ⟨hredirect, hmirrors, be, hbe, _⟩ := hplain first mem_cons_self
  have hne : (first :: rest).flatMap (·.backends) ≠ [] := by
    simp [hbe]
  rw [GroupServed, if_neg hne, hmirrors]
  refine ⟨hredirect, fun b hb => ?_, by simp⟩
  obtain ⟨x, hx, hb⟩ := mem_flatMap.1 hb
  obtain ⟨_, _, be, hbe, hport⟩ := hplain x hx
  rw [hbe, mem_singleton] at hb
  exact hb ▸ hport

theorem exists_newVirtualHost_of_plain {routes : List HTTPRoute}
    (h : ∀ x ∈ routes, ∃ ing, PlainRoute ing x) (host : String) (redirect suffixMatch : Bool)
    (port : Nat) : ∃ vh, newVirtualHost routes ⟨[host], redirect, suffixMatch, port⟩ = .ok vh := by
  cases redirect with
  | true => exact (exists_newVirtualHost_redirect _ _ _ (cons_ne_nil _ _)).imp fun _ h => h.1
  | false =>
    refine (exists_newVirtualHost_iff (fun x hx => .inl ?_) (cons_ne_nil _ _)).2
      fun k hk => (groupServed_of_plain h hk).made
    obtain ⟨ing, hx⟩ := h x hx
    obtain ⟨service, _, hbe⟩ := hx.backends
    rw [hbe]
    exact cons_ne_nil _ _

theorem PlainModel.routesFor (h : PlainModel m) {secure : Bool} {host : String} :
    ∀ x ∈ routesFor m secure host, ∃ ing, PlainRoute ing x := by
  intro x hx
  obtain ⟨l, hl, _, hx, _⟩ := mem_routesFor.1 hx
  exact h.http l hl x hx

theorem PlainModel.exists_translate (h : PlainModel m) (slices : Slices) (orders : RangeOrders)
    (t : DefaultTranslator) : ∃ config, t.translate slices orders m = .ok config := by
  have htls : ∀ be ∈ tlsBackends m, be.port.isSome := by
    intro be hbe
    obtain ⟨l, hl, hbe⟩ := mem_flatMap.1 hbe
    obtain ⟨route, hroute, hbe⟩ := mem_flatMap.1 hbe
    exact h.tls l hl route hroute be hbe
  refine (exists_translate_iff htls).2 fun secure host _ => ?_
  rw [configuredHost]
  split_ifs
  · exact exists_newVirtualHost_of_plain h.routesFor _ _ _ _
  · exact exists_newVirtualHost_of_plain h.routesFor _ _ _ _

/-! ## Building returns -/

theorem exists_isdolphinManagedIngress_iff :
    (∃ managed, isdolphinManagedIngress dolphinClass ing = .ok managed) ↔
      (ingressClassName ing).isSome := by
  rw [isdolphinManagedIngress]
  cases ingressClassName ing with
  | none =>
    refine iff_of_false ?_ Bool.false_ne_true
    rintro ⟨_, h⟩
    cases h
  | some name => exact iff_of_true ⟨_, rfl⟩ rfl

theorem exists_ingest (h : Ingestible ing) (ports : Nat × Nat × Nat) :
    ∃ m, r.ingest ports ing = .ok m := by
  simp only [ingest_eq_ok]
  split_ifs
  · have hroots : PassthroughIngestible ing.rules := fun rule hrule _ paths hpaths path hpath _ =>
      (h.paths rule hrule paths hpaths path hpath).2
    obtain ⟨ls, hls⟩ := exists_ingressPassthrough_iff.2 hroots
    exact ⟨_, ls, hls, rfl⟩
  · obtain ⟨ls, hls⟩ := exists_ingress_iff.2 h
    exact ⟨_, ls, hls, rfl⟩

theorem exists_buildSharedResources
    (h : ∀ ing ∈ ings, (ingressClassName ing).isSome ∧ Ingestible ing) (slices : Slices)
    (orders : RangeOrders) :
    ∃ config, r.buildSharedResources slices orders dolphinClass ings = .ok config := by
  obtain ⟨m, hm⟩ : ∃ m, r.sharedModel dolphinClass ings = .ok m := by
    refine exists_bind_pure (exists_mapM_eq_ok.2 fun ing hing => ?_)
    obtain ⟨hclass, hservices⟩ := h ing (mem_sortIngresses.1 hing)
    refine exists_bind (exists_isdolphinManagedIngress_iff.2 hclass) fun managed => ?_
    split_ifs
    · exact ⟨_, rfl⟩
    · exact exists_ingest hservices _
  obtain ⟨config, hconfig⟩ :=
    (plainModel_of_sharedModel hm).exists_translate slices orders r.sharedTranslator
  exact ⟨config, bind_eq_ok.2 ⟨m, hm, hconfig⟩⟩

/-- The source of the first listener, if all listeners have one source, the same. -/
theorem firstSource_of_sources {source : FullyQualifiedResource}
    (http : ∀ l ∈ m.http, l.sources = [source]) (tls : ∀ l ∈ m.tls, l.sources = [source])
    (hne : ¬ (m.http = [] ∧ m.tls = [])) :
    ∃ service, firstSource m = .ok (source, service) := by
  rw [firstSource]
  cases hhttp : m.http with
  | nil =>
    obtain ⟨l, rest, htls⟩ := exists_cons_of_ne_nil fun hnil => hne ⟨hhttp, hnil⟩
    rw [htls, head?_cons]
    have hsource := tls l (htls ▸ mem_cons_self)
    exact ⟨_, bind_eq_ok.2 ⟨l, rfl, bind_eq_ok.2 ⟨source, hsource ▸ rfl, rfl⟩⟩⟩
  | cons l rest =>
    have hsource := http l (hhttp ▸ mem_cons_self)
    exact ⟨_, bind_eq_ok.2 ⟨source, hsource ▸ rfl, rfl⟩⟩

theorem firstSource_of_ingest (h : r.ingest ports ing = .ok m)
    (hne : ¬ (m.http = [] ∧ m.tls = [])) :
    ∃ service, firstSource m = .ok (sourceResource ing, service) := by
  have h := ingest_eq_ok.1 h
  split_ifs at h
  · obtain ⟨ls, hls, rfl⟩ := h
    exact firstSource_of_sources (by simp)
      (fun l hl => (ownedBy_of_ingressPassthrough hls hl).sources) hne
  · obtain ⟨ls, hls, rfl⟩ := h
    exact firstSource_of_sources (fun l hl => (ownedBy_of_ingress hls hl).sources)
      (by simp) hne

/-- The dedicated translator returns for a plain model of which it finds the first source. -/
theorem PlainModel.exists_translateDedicated (h : PlainModel m)
    (hsource : ¬ (m.http = [] ∧ m.tls = []) → ∃ found, firstSource m = .ok found)
    (slices : Slices) (orders : RangeOrders) :
    ∃ res, r.translateDedicated slices orders m = .ok res := by
  rw [IngressReconciler.translateDedicated]
  split_ifs with hnil
  · exact ⟨_, rfl⟩
  · refine exists_bind (hsource hnil) fun _ => ?_
    exact exists_bind_pure (h.exists_translate slices orders _)

theorem exists_buildDedicatedResources (h : Ingestible ing) (slices : Slices)
    (orders : RangeOrders) : ∃ res, r.buildDedicatedResources slices orders ing = .ok res := by
  obtain ⟨m, hm⟩ := exists_ingest (r := r) h (r.getDedicatedListenerPorts ing)
  have hsource (hne : ¬ (m.http = [] ∧ m.tls = [])) : ∃ found, firstSource m = .ok found :=
    (firstSource_of_ingest hm hne).elim fun _ h => ⟨_, h⟩
  obtain ⟨res, hres⟩ : ∃ res, r.translateDedicated slices orders m = .ok res :=
    (plainModel_of_ingest hm).exists_translateDedicated hsource slices orders
  exact ⟨_, bind_eq_ok.2 ⟨m, hm, bind_eq_ok.2 ⟨res, hres, rfl⟩⟩⟩

/-- The listeners of an Ingress that can be read, from which the dedicated translator makes its
    resources. -/
theorem exists_listsHosts_dedicated {opts : IngressOptions} (h : Ingestible ing) :
    ∃ ls insecure secure, ingress opts ing = .ok ls ∧ ListsHosts opts ing ls insecure secure ∧
      ∀ (r : IngressReconciler) (slices : Slices) (orders : RangeOrders),
        (∃ res, r.translateDedicated slices orders { http := ls } = .ok res) ∧
        ∃ res, r.buildDedicatedResources slices orders ing = .ok res := by
  obtain ⟨ls, insecure, secure, hls, hlists⟩ :
    ∃ ls insecure secure, ingress opts ing = .ok ls ∧ ListsHosts opts ing ls insecure secure :=
    exists_listsHosts h
  refine ⟨ls, insecure, secure, hls, hlists, fun r slices orders =>
    ⟨?_, exists_buildDedicatedResources h slices orders⟩⟩
  have hsource (hne : ¬ (ls = [] ∧ ([] : List TLSListener) = [])) :
      ∃ found, firstSource { http := ls } = .ok found :=
    (firstSource_of_sources hlists.sources (by simp) hne).elim
      fun _ h => ⟨_, h⟩
  exact (plainModel_of_ingress hls).exists_translateDedicated hsource slices orders

theorem exists_listsHosts_shopIngress :
    ∃ ls insecure secure, ingress {} (shopIngress none) = .ok ls ∧
      ListsHosts {} (shopIngress none) ls insecure secure ∧
      ∀ (r : IngressReconciler) (slices : Slices) (orders : RangeOrders),
        (∃ res, r.translateDedicated slices orders { http := ls } = .ok res) ∧
        ∃ res, r.buildDedicatedResources slices orders (shopIngress none) = .ok res :=
  exists_listsHosts_dedicated (exists_ingress_iff.1 ⟨_, (rfl : ingress {} (shopIngress none) = _)⟩)

end

end IngressController
