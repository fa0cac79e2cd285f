import Dolphin.Go.Arrays
import Dolphin.Model.MatchKeys
import Dolphin.Translation.Order

/-!
# Translation writes to the model

`GetMatchKey` sorts the matches of a route in place, and translation calls it for every route of
every virtual host, several times. Routes are passed by value, but the copies share their
slices, as other routes of the model may. In a model that ingestion makes, these are the only slices
that translation writes to: the ones that it appends to, sorts or removes duplicates from are its
own. (The headers that a route removes are a slice of its header filter, to which those of the
filters of a backend would be appended; ingestion makes no filters of backends.)

Here the matches are in arrays (`StoredModel`), `InPlace.translate` is translation as it reads
and writes them, and `m.load arrays` is the model `m` as it is in memory at some point.

* `InPlace.simulates_translate`: at whatever point the sorting is, the configuration is that of
  the model as it was at first. The sort need not be stable, provided that no two matches have
  the same string.
* `translate_undisturbed`: so the model is left with permuted matches, and a second translation
  makes the same configuration.
-/

namespace Model

open List

/-- A match by a name without a colon, for a value of at most one kind. -/
structure KeyValueMatch.Plain (kv : KeyValueMatch) : Prop where
  key : ':' ∉ kv.key.toList
  valueMatch : kv.valueMatch.AtMostOne

/-- What `sort.Slice` does with matches. It orders them by their strings, and those with the
    same string in any way. -/
structure SortsMatches (sort : List KeyValueMatch → List KeyValueMatch) : Prop where
  perm : ∀ l, (sort l).Perm l
  ordered : ∀ l, (sort l).Pairwise fun a b => a.toKey ≤ b.toKey

theorem sortsMatches_sortMatches : SortsMatches sortMatches :=
  ⟨perm_insertionSort _, Go.insertionSort_keys_le fun _ _ => Iff.rfl⟩

section

variable {sort : List KeyValueMatch → List KeyValueMatch} {l : List KeyValueMatch}

/-- Plain matches do not share a string, so that there is one way to sort them. -/
theorem SortsMatches.eq_sortMatches (h : SortsMatches sort) (hl : ∀ kv ∈ l, kv.Plain) :
    sort l = sortMatches l := by
  have hperm : (sort l).Perm (sortMatches l) := (h.perm l).trans (perm_insertionSort _ l).symm
  refine hperm.eq_of_pairwise (fun a b ha hb hab hba => ?_) (h.ordered l)
    (sortsMatches_sortMatches.ordered l)
  have ha := hl a ((h.perm l).mem_iff.1 ha)
  have hb := hl b (mem_sortMatches.1 hb)
  exact KeyValueMatch.eq_of_toKey ha.key hb.key ha.valueMatch hb.valueMatch (le_antisymm hab hba)

theorem SortsMatches.sort_sort (h : SortsMatches sort) (hl : ∀ kv ∈ l, kv.Plain) :
    sort (sort l) = sort l := by
  have hsorted : ∀ kv ∈ sortMatches l, kv.Plain := fun kv hkv => hl kv (mem_sortMatches.1 hkv)
  rw [h.eq_sortMatches hl, h.eq_sortMatches hsorted, sortMatches_sortMatches]

end

end Model

namespace Translation

open Model Go Envoy List

/-! ## The model in memory -/

variable {ι : Type}

/-- A route with the addresses of its matches, in the place of the lists of `data`. -/
structure StoredRoute (ι : Type) where
  data : Model.HTTPRoute
  headersMatch : ι
  queryParamsMatch : ι

structure StoredListener (ι : Type) where
  data : HTTPListener
  routes : List (StoredRoute ι)

structure StoredModel (ι : Type) where
  data : Model
  http : List (StoredListener ι)

abbrev MatchArrays (ι : Type) := Arrays ι KeyValueMatch

def StoredRoute.load (matchesAt : MatchArrays ι) (r : StoredRoute ι) : Model.HTTPRoute :=
  { r.data with
    headersMatch := matchesAt r.headersMatch
    queryParamsMatch := matchesAt r.queryParamsMatch }

def StoredListener.load (matchesAt : MatchArrays ι) (l : StoredListener ι) : HTTPListener :=
  { l.data with routes := l.routes.map (·.load matchesAt) }

def StoredModel.load (matchesAt : MatchArrays ι) (m : StoredModel ι) : Model :=
  { m.data with http := m.http.map (·.load matchesAt) }

/-- Every model can be stored, in particular with equal lists at the same address. -/
theorem exists_load (m : Model) :
    ∃ (stored : StoredModel (List KeyValueMatch)), stored.load id = m := by
  refine ⟨⟨m, m.http.map fun l => ⟨l, l.routes.map fun r => ⟨r, r.headersMatch,
    r.queryParamsMatch⟩⟩⟩, ?_⟩
  have hroutes (l : HTTPListener) : l.routes.map (fun r => r) = l.routes := map_id' l.routes
  have hhttp : m.http.map (fun l => l) = m.http := map_id' m.http
  simp only [StoredModel.load, StoredListener.load, StoredRoute.load, map_map,
    Function.comp_def, id_eq, hroutes, hhttp]

namespace InPlace

/-! ## Translation -/

section

variable [DecidableEq ι] (sort : List KeyValueMatch → List KeyValueMatch)

def getMatchKey (r : StoredRoute ι) : Code (MatchArrays ι) String := do
  Code.write (rewriteAt sort r.headersMatch)
  let headers ← Code.read
  Code.write (rewriteAt sort r.queryParamsMatch)
  let query ← Code.read
  pure ((match r.data.method with
      | some m => "method:" ++ m ++ "|"
      | none => "") ++
    "path:" ++ r.data.pathMatch.toKey ++ "|" ++
    String.join ((headers r.headersMatch).map fun hm => "header:" ++ hm.toKey ++ "|") ++
    String.join ((query r.queryParamsMatch).map fun qm => "query:" ++ qm.toKey ++ "|"))

/-- The iteration that puts a route in `matchBackendMap`, which computes its key twice. -/
def addToGroup (groups : Go.Map String (List (StoredRoute ι))) (r : StoredRoute ι) :
    Code (MatchArrays ι) (Go.Map String (List (StoredRoute ι))) := do
  let written ← getMatchKey sort r
  let key ← getMatchKey sort r
  pure (groups.set written ((groups.get? key).getD [] ++ [r]))

def matchBackendMap (httpRoutes : List (StoredRoute ι)) :
    Code (MatchArrays ι) (Go.Map String (List (StoredRoute ι))) :=
  httpRoutes.foldlM (addToGroup sort) ∅

def envoyHTTPRoutesStep (hostnames : List String) (hostNameSuffixMatch : Bool) (listenerPort : Nat)
    (acc : Go.Map String (List (StoredRoute ι)) × List (Option Route)) (r : StoredRoute ι) :
    Code (MatchArrays ι) (Go.Map String (List (StoredRoute ι)) × List (Option Route)) := do
  let key ← getMatchKey sort r
  match acc.1.get? key with
  | none | some [] => pure acc
  | some (first :: rest) => do
    let now ← Code.read
    let (route, deleted) ← Code.ofResult (envoyHTTPRoute hostnames hostNameSuffixMatch
      listenerPort (first.load now) (rest.map (·.load now)) (r.load now))
    if deleted then do
      let key ← getMatchKey sort r
      pure (acc.1.delete key, acc.2 ++ [route])
    else
      pure (acc.1, acc.2 ++ [route])

def envoyHTTPRoutes (httpRoutes : List (StoredRoute ι)) (hostnames : List String)
    (hostNameSuffixMatch : Bool) (listenerPort : Nat) :
    Code (MatchArrays ι) (List (Option Route)) := do
  let groups ← matchBackendMap sort httpRoutes
  Prod.snd <$> httpRoutes.foldlM
    (envoyHTTPRoutesStep sort hostnames hostNameSuffixMatch listenerPort) (groups, [])

def envoyHTTPSRoutesStep (hostnames : List String) (hostNameSuffixMatch : Bool)
    (acc : Go.Map String (List (StoredRoute ι)) × List (Option Route)) (r : StoredRoute ι) :
    Code (MatchArrays ι) (Go.Map String (List (StoredRoute ι)) × List (Option Route)) := do
  let key ← getMatchKey sort r
  match acc.1.get? key with
  | none | some [] => pure acc
  | some (first :: _) => do
    let now ← Code.read
    let first := first.load now
    let key ← getMatchKey sort r
    pure (acc.1.delete key, acc.2 ++ [some
      { routeMatch := getRouteMatch hostnames hostNameSuffixMatch first.pathMatch
          first.queryParamsMatch first.headersMatch first.method
        action := .redirect { schemeRewrite := some .httpsRedirect } }])

def envoyHTTPSRoutes (httpRoutes : List (StoredRoute ι)) (hostnames : List String)
    (hostNameSuffixMatch : Bool) : Code (MatchArrays ι) (List (Option Route)) := do
  let groups ← matchBackendMap sort httpRoutes
  Prod.snd <$> httpRoutes.foldlM (envoyHTTPSRoutesStep sort hostnames hostNameSuffixMatch)
    (groups, [])

def newVirtualHost (httpRoutes : List (StoredRoute ι)) (param : VirtualHostParameter) :
    Code (MatchArrays ι) VirtualHost := do
  let routes ←
    if param.httpsRedirect then
      envoyHTTPSRoutes sort httpRoutes param.hostNames param.hostNameSuffixMatch
    else
      envoyHTTPRoutes sort httpRoutes param.hostNames param.hostNameSuffixMatch param.listenerPort
  let routes ← Code.ofResult (sortRoutes routes)
  let domains := addDomains [] param.hostNames
  let name ← Code.ofResult (deref domains.head?)
  pure ⟨name, domains, routes⟩

/-- The variables `portHostName` and `hostNamePortRoutes`. -/
structure HostMaps (ι : Type) where
  portHostName : Go.Map String (List String) := ∅
  hostNamePortRoutes : Go.Map String (Go.Map String (List (StoredRoute ι))) := ∅

def addHost (maps : HostMaps ι) (port h : String) (r : StoredRoute ι) : HostMaps ι where
  portHostName := maps.portHostName.appendAt port h
  hostNamePortRoutes := maps.hostNamePortRoutes.alter h fun routes =>
    (routes.getD ∅).appendAt port r

def addRoute (l : StoredListener ι) (maps : HostMaps ι) (r : StoredRoute ι) : HostMaps ι :=
  match r.data.hostnames with
  | [] => addHost maps (portOf l.data) l.data.hostname r
  | hostnames => hostnames.foldl (fun maps h => addHost maps (portOf l.data) h r) maps

def fillHostMaps (m : StoredModel ι) : HostMaps ι :=
  m.http.foldl (fun maps l => l.routes.foldl (addRoute l) maps) {}

def HostMaps.routesAt (maps : HostMaps ι) (h port : String) : Option (List (StoredRoute ι)) :=
  (maps.hostNamePortRoutes.get? h).bind (·.get? port)

variable (slices : Slices) (orders : RangeOrders) (t : DefaultTranslator) (m : StoredModel ι)

def hostVirtualHost (routes : List (StoredRoute ι)) (h : String) (httpsRedirect : Bool) :
    Code (MatchArrays ι) VirtualHost := do
  let first ← Code.ofResult (deref m.http.head?)
  newVirtualHost sort routes
    { hostNames := [h]
      httpsRedirect := httpsRedirect
      hostNameSuffixMatch := t.hostNameSuffixMatch
      listenerPort := first.data.port }

def hostIteration (maps : HostMaps ι) (port h : String) : Code (MatchArrays ι) (List VirtualHost) :=
  match maps.routesAt h port with
  | none => pure []
  | some routes => hostVirtualHost sort t m routes h false >>= fun vh => pure [vh]

def portConfiguration (port : String) : Code (MatchArrays ι) (List RouteConfiguration) :=
  let maps := fillHostMaps m
  match maps.portHostName.get? port with
  | none => pure (if port = insecureHost ∧ m.http ≠ [] then [⟨"listener-insecure", []⟩] else [])
  | some hostNames => do
    let redirected :=
      if port = insecureHost ∧ t.enforceHTTPs = true then
        slices.unique ((maps.portHostName.get? secureHost).getD [])
      else []
    let redirects ← redirected.mapM fun h =>
      hostVirtualHost sort t m ((maps.routesAt h secureHost).getD []) h true
    let hosts := (slices.unique hostNames).filter fun h =>
      !(port == insecureHost && redirected.contains h)
    let virtualHosts ← Code.collect (hostIteration sort t m maps port) hosts
    let sorted := (redirects ++ virtualHosts).insertionSort fun a b => a.name ≤ b.name
    pure [⟨"listener-" ++ port, sorted⟩]

def getEnvoyHTTPRouteConfiguration : Code (MatchArrays ι) (List RouteConfiguration) :=
  Code.collect (portConfiguration sort slices t m) [insecureHost, secureHost]

def getResources : Code (MatchArrays ι) (List XDSResource) := do
  let before ← Code.read
  let listener ← Code.ofResult (getListener slices orders.listener t (m.load before))
  let configurations ← getEnvoyHTTPRouteConfiguration sort slices t m
  let now ← Code.read
  pure (listener ++ configurations.map .routeConfiguration ++
    getClusters slices orders.clusters t (m.load now) ++ getTCPRouteListeners (m.load now))

def translate : Code (MatchArrays ι) DolphinEnvoyConfig := do
  let before ← Code.read
  let resources ← getResources sort slices orders t m
  pure
    { name := t.name
      ns := t.ns
      backendServices := getBackendServices slices orders.services (m.load before)
      services := getServices orders t (m.load before)
      resources := resources }

end

/-! ## Keys -/

variable {sort : List KeyValueMatch → List KeyValueMatch} {first : MatchArrays ι}

/-- The matches of a route are plain at first. -/
structure Plain (first : MatchArrays ι) (r : StoredRoute ι) : Prop where
  headers : ∀ kv ∈ first r.headersMatch, kv.Plain
  query : ∀ kv ∈ first r.queryParamsMatch, kv.Plain

section

variable (hsort : SortsMatches sort)

include hsort

theorem simulates_getMatchKey [DecidableEq ι] {r : StoredRoute ι} (hplain : Plain first r)
    (known : Set ι) :
    Simulates (Rewritten sort first known)
      (Rewritten sort first (insert r.queryParamsMatch (insert r.headersMatch known))) (· = ·)
      (getMatchKey sort r) (pure (r.load first).getMatchKey) := by
  refine .write_bind (fun _ h => h.rewriteAt (hsort.sort_sort hplain.headers)) ?_
  refine .read_bind fun headers hheaders => ?_
  refine .write_bind (fun _ h => h.rewriteAt (hsort.sort_sort hplain.query)) ?_
  refine .read_bind fun query hquery => .pure ?_
  rw [hheaders.known _ (Set.mem_insert _ _), hquery.known _ (Set.mem_insert _ _),
    hsort.eq_sortMatches hplain.headers, hsort.eq_sortMatches hplain.query]
  rfl

theorem simulates_getMatchKey_keep [DecidableEq ι] {r : StoredRoute ι} (hplain : Plain first r)
    (known : Set ι) :
    Simulates (Rewritten sort first known) (Rewritten sort first known) (· = ·)
      (getMatchKey sort r) (pure (r.load first).getMatchKey) :=
  (simulates_getMatchKey hsort hplain known).weaken fun _ h =>
    h.subset ((Set.subset_insert _ _).trans (Set.subset_insert _ _))

end

/-! ## Maps of routes -/

/-- A map with routes in memory is read as one with routes, all of which are in `rs`. -/
structure ReadsAs {κ : Type} [DecidableEq κ] (rs : List (StoredRoute ι))
    (f : StoredRoute ι → Model.HTTPRoute) (groups : Go.Map κ (List (StoredRoute ι)))
    (groups' : Go.Map κ (List Model.HTTPRoute)) : Prop where
  get : ∀ k, groups'.get? k = (groups.get? k).map (List.map f)
  mem : ∀ k g, groups.get? k = some g → g ⊆ rs

section

variable {κ : Type} [DecidableEq κ] {rs : List (StoredRoute ι)}
  {f : StoredRoute ι → Model.HTTPRoute} {groups : Go.Map κ (List (StoredRoute ι))}
  {groups' : Go.Map κ (List Model.HTTPRoute)}

theorem readsAs_empty : ReadsAs (κ := κ) rs f ∅ ∅ :=
  ⟨fun k => by rw [Map.get?_empty, Map.get?_empty]; rfl, fun k g h => by simp at h⟩

theorem ReadsAs.append (h : ReadsAs rs f groups groups') (k : κ) {r : StoredRoute ι}
    (hr : r ∈ rs) : ReadsAs rs f (groups.appendAt k r) (groups'.appendAt k (f r)) := by
  have hgroup : (groups'.get? k).getD [] = ((groups.get? k).getD []).map f := by
    rw [h.get]
    cases groups.get? k with
    | none => rfl
    | some g => rfl
  refine ⟨fun k' => ?_, fun k' g hg => ?_⟩
  · rw [Map.appendAt, Map.appendAt, Map.get?_alter, Map.get?_alter]
    split_ifs
    · rw [hgroup, Option.map_some, map_append, map_singleton]
    · exact h.get k'
  · rw [Map.appendAt, Map.get?_alter] at hg
    split_ifs at hg
    · obtain rfl := Option.some.inj hg
      refine append_subset.2 ⟨?_, cons_subset.2 ⟨hr, nil_subset rs⟩⟩
      cases hk : groups.get? k with
      | none => exact nil_subset rs
      | some g => exact h.mem k g hk
    · exact h.mem k' g hg

theorem ReadsAs.delete (h : ReadsAs rs f groups groups') (k : κ) :
    ReadsAs rs f (groups.delete k) (groups'.delete k) := by
  refine ⟨fun k' => ?_, fun k' g hg => ?_⟩
  · rw [Map.get?_delete, Map.get?_delete]
    split_ifs
    · rfl
    · exact h.get k'
  · rw [Map.get?_delete] at hg
    split_ifs at hg
    exact h.mem k' g hg

end

/-- The maps of hosts are read as those of the model. -/
structure HostMaps.ReadsAs (rs : List (StoredRoute ι)) (f : StoredRoute ι → Model.HTTPRoute)
    (maps : HostMaps ι) (maps' : Translation.HostMaps) : Prop where
  portHostName : maps'.portHostName = maps.portHostName
  routes : ∀ h, InPlace.ReadsAs rs f ((maps.hostNamePortRoutes.get? h).getD ∅)
    ((maps'.hostNamePortRoutes.get? h).getD ∅)

section

variable {rs : List (StoredRoute ι)} {f : StoredRoute ι → Model.HTTPRoute} {maps : HostMaps ι}
  {maps' : Translation.HostMaps}

theorem HostMaps.ReadsAs.addHost (h : maps.ReadsAs rs f maps') (port host : String)
    {r : StoredRoute ι} (hr : r ∈ rs) :
    (InPlace.addHost maps port host r).ReadsAs rs f
      (Translation.addHost maps' port host (f r)) := by
  refine ⟨congrArg (·.appendAt port host) h.portHostName, fun host' => ?_⟩
  rw [InPlace.addHost, Translation.addHost, Map.get?_alter, Map.get?_alter]
  split_ifs
  · exact (h.routes host).append port hr
  · exact h.routes host'

theorem HostMaps.ReadsAs.foldl {α β : Type} {g : HostMaps ι → α → HostMaps ι}
    {g' : Translation.HostMaps → β → Translation.HostMaps} {φ : α → β} {xs : List α}
    (hstep : ∀ x ∈ xs, ∀ maps maps', HostMaps.ReadsAs rs f maps maps' →
      HostMaps.ReadsAs rs f (g maps x) (g' maps' (φ x)))
    (h : maps.ReadsAs rs f maps') :
    (xs.foldl g maps).ReadsAs rs f ((xs.map φ).foldl g' maps') := by
  induction xs generalizing maps maps' with
  | nil => exact h
  | cons x xs ih =>
    exact ih (fun y hy => hstep y (mem_cons_of_mem x hy)) (hstep x mem_cons_self _ _ h)

theorem HostMaps.ReadsAs.routesAt (h : maps.ReadsAs rs f maps') (host port : String) :
    maps'.routesAt host port = (maps.routesAt host port).map (List.map f) := by
  have hread {ν : Type} (ports : Option (Go.Map String ν)) :
      ports.bind (·.get? port) = (ports.getD ∅).get? port := by
    cases ports with
    | none => rfl
    | some ports => rfl
  exact (hread _).trans (((h.routes host).get port).trans (congrArg _ (hread _).symm))

theorem HostMaps.ReadsAs.subset_of_routesAt (h : maps.ReadsAs rs f maps') {host port : String}
    {routes : List (StoredRoute ι)} (hroutes : maps.routesAt host port = some routes) :
    routes ⊆ rs := by
  obtain ⟨byPort, hhost, hport⟩ := Option.bind_eq_some_iff.1 hroutes
  exact (h.routes host).mem port routes (hhost ▸ hport)

end

def routes (m : StoredModel ι) : List (StoredRoute ι) := m.http.flatMap (·.routes)

theorem readsAs_fillHostMaps (first : MatchArrays ι) (m : StoredModel ι) :
    (fillHostMaps m).ReadsAs (routes m) (·.load first)
      (Translation.fillHostMaps (m.load first)) := by
  refine HostMaps.ReadsAs.foldl (fun l hl maps maps' h => ?_) ⟨rfl, fun _ => readsAs_empty⟩
  refine HostMaps.ReadsAs.foldl (fun r hr maps maps' h => ?_) h
  have hmem : r ∈ routes m := mem_flatMap.2 ⟨l, hl, hr⟩
  have hhosts (hosts : List String) :
      (hosts.foldl (fun maps host => addHost maps (portOf l.data) host r) maps).ReadsAs (routes m)
        (·.load first)
        ((hosts.map id).foldl (fun maps host => Translation.addHost maps (portOf l.data) host
          (r.load first)) maps') :=
    HostMaps.ReadsAs.foldl (fun host _ _ _ h => h.addHost (portOf l.data) host hmem) h
  simp only [map_id] at hhosts
  have hhostnames : (r.load first).hostnames = r.data.hostnames := rfl
  rw [addRoute, Translation.addRoute, hhostnames]
  cases r.data.hostnames with
  | nil => exact h.addHost _ _ hmem
  | cons host hosts => exact hhosts (host :: hosts)

/-! ## Virtual hosts -/

section

variable [DecidableEq ι] {rs : List (StoredRoute ι)}

def addresses (rs : List (StoredRoute ι)) : Set ι :=
  {i | ∃ r ∈ rs, i = r.headersMatch ∨ i = r.queryParamsMatch}

/-- A route with its matches sorted, as it is from the first time that its key was computed. -/
def loadSorted (first : MatchArrays ι) (r : StoredRoute ι) : Model.HTTPRoute :=
  (r.load first).sorted

variable {r : StoredRoute ι}

variable (hsort : SortsMatches sort)

include hsort

theorem simulates_addToGroup (hr : r ∈ rs) (hplain : Plain first r) (known : Set ι)
    {groups : Go.Map String (List (StoredRoute ι))} {groups' : Go.Map String (List Model.HTTPRoute)}
    (h : ReadsAs rs (loadSorted first) groups groups') :
    Simulates (Rewritten sort first known)
      (Rewritten sort first (insert r.queryParamsMatch (insert r.headersMatch known)))
      (ReadsAs rs (loadSorted first)) (addToGroup sort groups r)
      (pure (groups'.appendAt (loadSorted first r).getMatchKey (loadSorted first r))) := by
  refine .bind_ok (simulates_getMatchKey hsort hplain known) fun written hwritten => ?_
  refine .bind_ok (simulates_getMatchKey_keep hsort hplain _) fun key hkey => .pure ?_
  rw [hwritten, hkey, loadSorted, HTTPRoute.getMatchKey_sorted]
  exact h.append (r.load first).getMatchKey hr

variable (hplain : ∀ r ∈ rs, Plain first r)

include hplain

omit [DecidableEq ι] in
theorem load_of_mem {now : MatchArrays ι} (hnow : Rewritten sort first (addresses rs) now)
    (hr : r ∈ rs) :
    r.load now = loadSorted first r := by
  have hheaders := hnow.known r.headersMatch ⟨r, hr, .inl rfl⟩
  have hquery := hnow.known r.queryParamsMatch ⟨r, hr, .inr rfl⟩
  simp only [StoredRoute.load, loadSorted, HTTPRoute.sorted, hheaders, hquery,
    hsort.eq_sortMatches (hplain r hr).headers, hsort.eq_sortMatches (hplain r hr).query]

/-- The loop that groups the routes leaves their matches sorted. -/
theorem simulates_matchBackendMap :
    Simulates (Rewritten sort first ∅) (Rewritten sort first (addresses rs))
      (ReadsAs rs (loadSorted first)) (matchBackendMap sort rs)
      (pure (Translation.matchBackendMap (rs.map (loadSorted first)))) := by
  -- by induction on the routes still to come, with those before them in `known`
  have hloop (known : Set ι) (rest : List (StoredRoute ι)) (hrest : rest ⊆ rs)
      (groups : Go.Map String (List (StoredRoute ι)))
      (groups' : Go.Map String (List Model.HTTPRoute))
      (h : ReadsAs rs (loadSorted first) groups groups') :
      Simulates (Rewritten sort first known) (Rewritten sort first (known ∪ addresses rest))
        (ReadsAs rs (loadSorted first)) (rest.foldlM (addToGroup sort) groups)
        (pure ((rest.map (loadSorted first)).foldl
          (fun m r => m.appendAt r.getMatchKey r) groups')) := by
    induction rest generalizing known groups groups' with
    | nil =>
      refine (Simulates.pure h).weaken fun _ hs => hs.subset ?_
      rintro i (hi | ⟨r, hr, _⟩)
      · exact hi
      · cases hr
    | cons r rest ih =>
      obtain ⟨hr, hrest⟩ := cons_subset.1 hrest
      rw [foldlM_cons, map_cons, foldl_cons]
      refine .bind_ok (simulates_addToGroup hsort hr (hplain r hr) known h) fun groups h => ?_
      refine (ih _ hrest groups _ h).weaken fun _ hs => hs.subset ?_
      rintro i (hi | ⟨r', hr', hi⟩)
      · exact .inl (.inr (.inr hi))
      · rcases mem_cons.1 hr' with rfl | hr'
        · rcases hi with rfl | rfl
          · exact .inl (.inr (.inl rfl))
          · exact .inl (.inl rfl)
        · exact .inr ⟨r', hr', hi⟩
  have hall := hloop ∅ rs (List.Subset.refl rs) ∅ ∅ readsAs_empty
  rw [Set.empty_union] at hall
  exact hall

/-- The variables of the loops over routes. -/
def SameRoutes (rs : List (StoredRoute ι)) (first : MatchArrays ι)
    (acc : Go.Map String (List (StoredRoute ι)) × List (Option Route))
    (acc' : Go.Map String (List Model.HTTPRoute) × List (Option Route)) : Prop :=
  ReadsAs rs (loadSorted first) acc.1 acc'.1 ∧ acc.2 = acc'.2

theorem simulates_envoyHTTPRoutesStep (hr : r ∈ rs) (hostnames : List String)
    (suffixMatch : Bool) (port : Nat)
    {acc : Go.Map String (List (StoredRoute ι)) × List (Option Route)}
    {acc' : Go.Map String (List Model.HTTPRoute) × List (Option Route)}
    (h : SameRoutes rs first acc acc') :
    Simulates (Rewritten sort first (addresses rs)) (Rewritten sort first (addresses rs))
      (SameRoutes rs first)
      (envoyHTTPRoutesStep sort hostnames suffixMatch port acc r)
      (Translation.envoyHTTPRoutesStep hostnames suffixMatch port acc'
        (loadSorted first r)) := by
  have hkey : (loadSorted first r).getMatchKey = (r.load first).getMatchKey :=
    HTTPRoute.getMatchKey_sorted _
  have hgetKey := simulates_getMatchKey_keep hsort (hplain r hr) (addresses rs)
  refine .bind_ok hgetKey fun key heq => ?_
  subst heq
  rw [Translation.envoyHTTPRoutesStep, hkey, h.1.get]
  cases hgroup : acc.1.get? (r.load first).getMatchKey with
  | none => exact .pure h
  | some group =>
    have hsub := h.1.mem _ _ hgroup
    cases group with
    | nil => exact .pure h
    | cons head rest =>
      obtain ⟨hhead, hrest⟩ := cons_subset.1 hsub
      refine .read_bind fun now hnow => ?_
      have hload : ∀ r ∈ rs, r.load now = loadSorted first r := fun r hr =>
        load_of_mem hsort hplain hnow hr
      rw [hload head hhead, hload r hr, map_congr_left fun r hr => hload r (hrest hr)]
      refine (Simulates.ofResult _).bind_eq fun made => ?_
      obtain ⟨route, deleted⟩ := made
      cases deleted with
      | false => exact .pure ⟨h.1, congrArg (· ++ [route]) h.2⟩
      | true =>
        refine .bind_ok hgetKey fun key heq => .pure ?_
        subst heq
        exact ⟨h.1.delete _, congrArg (· ++ [route]) h.2⟩

/-- Both functions that make Envoy routes: they group the routes, and loop over them again. -/
theorem simulates_groupLoop
    {step : Go.Map String (List (StoredRoute ι)) × List (Option Route) → StoredRoute ι →
      Code (MatchArrays ι) (Go.Map String (List (StoredRoute ι)) × List (Option Route))}
    {step' : Go.Map String (List Model.HTTPRoute) × List (Option Route) → Model.HTTPRoute →
      Result (Go.Map String (List Model.HTTPRoute) × List (Option Route))}
    (hstep : ∀ r ∈ rs, ∀ acc acc', SameRoutes rs first acc acc' →
      Simulates (Rewritten sort first (addresses rs)) (Rewritten sort first (addresses rs))
        (SameRoutes rs first) (step acc r) (step' acc' (loadSorted first r))) :
    Follows (Rewritten sort first ∅)
      (matchBackendMap sort rs >>= fun groups => Prod.snd <$> rs.foldlM step (groups, []))
      (Prod.snd <$> (rs.map (loadSorted first)).foldlM step'
        (Translation.matchBackendMap (rs.map (loadSorted first)), [])) := by
  refine .bind_ok (simulates_matchBackendMap hsort hplain) fun groups h => ?_
  have hloop := Simulates.foldlM hstep
    (show SameRoutes rs first (groups, []) (_, []) from ⟨h, rfl⟩)
  exact (hloop.map fun _ _ h => h.2).weaken fun _ hs => hs.subset (Set.empty_subset _)

theorem simulates_envoyHTTPRoutes (hostnames : List String) (suffixMatch : Bool) (port : Nat) :
    Follows (Rewritten sort first ∅)
      (envoyHTTPRoutes sort rs hostnames suffixMatch port)
      (Translation.envoyHTTPRoutes (rs.map (·.load first)) hostnames suffixMatch
        port) := by
  rw [Translation.envoyHTTPRoutes, map_map]
  exact simulates_groupLoop hsort hplain fun r hr acc acc' h =>
    simulates_envoyHTTPRoutesStep hsort hplain hr hostnames suffixMatch port h

theorem simulates_envoyHTTPSRoutes (hostnames : List String) (suffixMatch : Bool) :
    Follows (Rewritten sort first ∅)
      (envoyHTTPSRoutes sort rs hostnames suffixMatch)
      (pure (Translation.envoyHTTPSRoutes (rs.map (·.load first)) hostnames
        suffixMatch)) := by
  rw [Translation.envoyHTTPSRoutes, map_map, ← map_pure Prod.snd, ← foldlM_pure]
  refine simulates_groupLoop hsort hplain fun r hr acc acc' h => ?_
  have hkey : (loadSorted first r).getMatchKey = (r.load first).getMatchKey :=
    HTTPRoute.getMatchKey_sorted _
  have hgetKey := simulates_getMatchKey_keep hsort (hplain r hr) (addresses rs)
  refine .bind_ok hgetKey fun key heq => ?_
  subst heq
  rw [hkey, h.1.get]
  cases hgroup : acc.1.get? (r.load first).getMatchKey with
  | none => exact .pure h
  | some group =>
    have hsub := h.1.mem _ _ hgroup
    cases group with
    | nil => exact .pure h
    | cons head rest =>
      refine .read_bind fun now hnow => ?_
      rw [load_of_mem hsort hplain hnow (hsub mem_cons_self)]
      refine .bind_ok hgetKey fun key heq => .pure ?_
      subst heq
      exact ⟨h.1.delete _, congrArg (· ++ [_]) h.2⟩

theorem simulates_newVirtualHost (param : VirtualHostParameter) : Follows (Rewritten sort first ∅)
      (newVirtualHost sort rs param)
      (Translation.newVirtualHost (rs.map (·.load first)) param) := by
  have htail (routes : List (Option Route)) : Follows (Rewritten sort first ∅)
        (Code.ofResult (sortRoutes routes) >>= fun routes =>
          Code.ofResult (deref (addDomains [] param.hostNames).head?) >>= fun name =>
            pure (⟨name, addDomains [] param.hostNames, routes⟩ : VirtualHost))
        (sortRoutes routes >>= fun routes =>
          deref (addDomains [] param.hostNames).head? >>= fun name =>
            pure ⟨name, addDomains [] param.hostNames, routes⟩) :=
    (Simulates.ofResult _).bind_eq fun _ => (Simulates.ofResult _).bind_eq fun _ => .pure rfl
  rw [newVirtualHost, Translation.newVirtualHost]
  split_ifs
  · exact (simulates_envoyHTTPSRoutes hsort hplain _ _).bind_eq htail
  · exact (simulates_envoyHTTPRoutes hsort hplain _ _ _).bind_eq htail

end

/-! The other parts of translation do not read the matches, so that it does not matter when they
run. -/

section

variable (m : StoredModel ι) (first now : MatchArrays ι) (slices : Slices)
  (t : DefaultTranslator)

theorem mergeHTTP_load (ports : NamespaceNamePortMap) :
    mergeHTTP slices (m.load now).http ports = mergeHTTP slices (m.load first).http ports := by
  simp only [mergeHTTP, StoredModel.load, StoredListener.load, foldl_map]
  rfl

theorem upstreamHostname_load :
    upstreamHostname (m.load now) = upstreamHostname (m.load first) := by
  simp only [upstreamHostname, StoredModel.load, StoredListener.load, foldl_map]
  rfl

theorem getListener_load (orders : ListenerOrders) :
    getListener slices orders t (m.load now) = getListener slices orders t (m.load first) := by
  have hsecrets : tlsSecretsToHostnames (m.load now).http =
      tlsSecretsToHostnames (m.load first).http := by
    simp only [tlsSecretsToHostnames, StoredModel.load, foldl_map]
    rfl
  have hnil : (m.load now).http = [] ↔ (m.load first).http = [] :=
    map_eq_nil_iff.trans map_eq_nil_iff.symm
  simp only [getListener, hsecrets, hnil]
  rfl

theorem getClusters_load (orders : ClusterOrders) :
    getClusters slices orders t (m.load now) = getClusters slices orders t (m.load first) := by
  simp only [getClusters, clusterTable, getNamespaceNamePortsMapForHTTP, newHTTPCluster,
    mergeHTTP_load m first now, upstreamHostname_load m first now]
  rfl

theorem getBackendServices_load (order : RangeOrder Service) :
    getBackendServices slices order (m.load now) =
      getBackendServices slices order (m.load first) := by
  simp only [getBackendServices, getNamespaceNamePortsMap, mergeHTTP_load m first now]
  rfl

theorem getServices_load (orders : RangeOrders) :
    getServices orders t (m.load now) = getServices orders t (m.load first) := by
  have hports : (m.load now).http.map (·.port) = (m.load first).http.map (·.port) := by
    simp only [StoredModel.load, map_map]
    rfl
  simp only [getServices, hports]
  rfl

end

/-! ## The configuration -/

section

variable [DecidableEq ι] {m : StoredModel ι} (hsort : SortsMatches sort)

include hsort

theorem simulates_hostVirtualHost (t : DefaultTranslator) {rs : List (StoredRoute ι)}
    (hplain : ∀ r ∈ rs, Plain first r) (h : String) (httpsRedirect : Bool) :
    Follows (Rewritten sort first ∅)
      (hostVirtualHost sort t m rs h httpsRedirect)
      (Translation.hostVirtualHost t (m.load first) (rs.map (·.load first)) h httpsRedirect) := by
  have hhead : (m.load first).http.head? = m.http.head?.map (·.load first) := head?_map
  rw [hostVirtualHost, Translation.hostVirtualHost, hhead]
  cases m.http.head? with
  | none => exact fun _ hs => ⟨.panic _, hs⟩
  | some l => exact simulates_newVirtualHost hsort hplain _

theorem simulates_hostIteration (t : DefaultTranslator) (hplain : ∀ r ∈ routes m, Plain first r)
    {maps : HostMaps ι} {maps' : Translation.HostMaps}
    (hmaps : maps.ReadsAs (routes m) (·.load first) maps') (port h : String) :
    Follows (Rewritten sort first ∅)
      (hostIteration sort t m maps port h)
      (Translation.hostIteration t (m.load first) maps' port h) := by
  rw [hostIteration, Translation.hostIteration, hmaps.routesAt]
  cases hroutes : maps.routesAt h port with
  | none => exact .pure rfl
  | some rs =>
    have hrs : ∀ r ∈ rs, Plain first r := fun r hr =>
      hplain r (hmaps.subset_of_routesAt hroutes hr)
    refine (simulates_hostVirtualHost hsort t hrs h false).bind_eq fun _ => .pure rfl

variable (slices : Slices) (t : DefaultTranslator) (hplain : ∀ r ∈ routes m, Plain first r)

include hplain

theorem simulates_portConfiguration (port : String) : Follows (Rewritten sort first ∅)
      (portConfiguration sort slices t m port)
      (Translation.portConfiguration slices t (m.load first) port) := by
  have hmaps := readsAs_fillHostMaps first m
  have hnil : (m.load first).http ≠ [] ↔ m.http ≠ [] := map_eq_nil_iff.not
  have hredirect (h : String) : Follows (Rewritten sort first ∅)
      (hostVirtualHost sort t m (((fillHostMaps m).routesAt h secureHost).getD []) h true)
      (Translation.hostVirtualHost t (m.load first)
        (((Translation.fillHostMaps (m.load first)).routesAt h secureHost).getD []) h true) := by
    rw [hmaps.routesAt]
    cases hroutes : (fillHostMaps m).routesAt h secureHost with
    | none =>
      exact simulates_hostVirtualHost hsort t (by simp) h true
    | some rs =>
      exact simulates_hostVirtualHost hsort t
        (fun r hr => hplain r (hmaps.subset_of_routesAt hroutes hr)) h true
  simp only [portConfiguration, Translation.portConfiguration, hmaps.portHostName, hnil]
  cases (fillHostMaps m).portHostName.get? port with
  | none => exact .pure rfl
  | some hostNames =>
    refine (Simulates.mapM fun h _ => hredirect h).bind_eq fun redirects => ?_
    have hhosts (h : String) := simulates_hostIteration hsort t hplain hmaps port h
    exact (Simulates.collect fun h _ => hhosts h).bind_eq fun _ => .pure rfl

theorem simulates_getResources (orders : RangeOrders) : Follows (Rewritten sort first ∅)
      (getResources sort slices orders t m)
      (Translation.getResources slices orders t (m.load first)) := by
  refine .read_bind fun before _ => ?_
  rw [getListener_load m first before]
  refine (Simulates.ofResult _).bind_eq fun listener => ?_
  refine Simulates.bind_eq (.collect fun port _ =>
    simulates_portConfiguration hsort slices t hplain port) fun _ => ?_
  refine .read_bind fun now _ => .pure ?_
  rw [getClusters_load m first now]
  rfl

/-- Translation makes the configuration of the model as it was at first, whichever of its matches
    are sorted by now. -/
theorem simulates_translate (orders : RangeOrders) : Follows (Rewritten sort first ∅)
      (translate sort slices orders t m) (t.translate slices orders (m.load first)) := by
  refine .read_bind fun before _ => ?_
  refine (simulates_getResources hsort slices t hplain orders).bind_eq fun resources => ?_
  refine .pure ?_
  rw [getBackendServices_load m first before, getServices_load m first before]

end

end InPlace

/-! ## What translation leaves -/

/-- A route has the same matches, perhaps in another order, and is the same otherwise. -/
structure PermutedRoute (r r' : Model.HTTPRoute) : Prop where
  other : r' = { r with
    headersMatch := r'.headersMatch
    queryParamsMatch := r'.queryParamsMatch }
  headers : r'.headersMatch.Perm r.headersMatch
  query : r'.queryParamsMatch.Perm r.queryParamsMatch

structure PermutedListener (l l' : HTTPListener) : Prop where
  other : l' = { l with routes := l'.routes }
  routes : List.Forall₂ PermutedRoute l.routes l'.routes

structure PermutedModel (m m' : Model) : Prop where
  other : m' = { m with http := m'.http }
  http : List.Forall₂ PermutedListener m.http m'.http

section

variable [DecidableEq ι] {sort : List KeyValueMatch → List KeyValueMatch}

omit [DecidableEq ι] in
theorem permutedModel_load (hsort : SortsMatches sort) {first now : MatchArrays ι} {known : Set ι}
    (hnow : Rewritten sort first known now) (m : StoredModel ι) :
    PermutedModel (m.load first) (m.load now) := by
  have hperm (i : ι) : (now i).Perm (first i) := by
    rcases hnow.either i with hi | hi
    · rw [hi]
    · rw [hi]
      exact hsort.perm _
  refine ⟨rfl, ?_⟩
  simp only [StoredModel.load, forall₂_map_left_iff, forall₂_map_right_iff, forall₂_same]
  refine fun l _ => ⟨rfl, ?_⟩
  simp only [StoredListener.load, forall₂_map_left_iff, forall₂_map_right_iff, forall₂_same]
  exact fun r _ => ⟨rfl, hperm _, hperm _⟩

/-- Translation changes the model at most by permuting matches, and another translation makes the
    same configuration. It does so in whatever order it visits maps that time, if the names that it
    sorts by are plain. -/
structure Undisturbed (sort : List KeyValueMatch → List KeyValueMatch) (slices : Slices)
    (orders : RangeOrders) (t : DefaultTranslator) (m : StoredModel ι) (matchesAt : MatchArrays ι) :
    Prop where
  permuted : PermutedModel (m.load matchesAt)
    (m.load ((InPlace.translate sort slices orders t m).after matchesAt))
  again : (InPlace.translate sort slices orders t m).outcome
      ((InPlace.translate sort slices orders t m).after matchesAt) =
    (InPlace.translate sort slices orders t m).outcome matchesAt
  anyOrder : PlainNames (m.load matchesAt) → ∀ orders',
    (InPlace.translate sort slices orders' t m).outcome
        ((InPlace.translate sort slices orders t m).after matchesAt) =
      (InPlace.translate sort slices orders t m).outcome matchesAt

theorem translate_undisturbed (hsort : SortsMatches sort) (slices : Slices) (orders : RangeOrders)
    (t : DefaultTranslator) (m : StoredModel ι) (matchesAt : MatchArrays ι)
    (hplain : ∀ l ∈ m.http, ∀ r ∈ l.routes,
      (∀ kv ∈ matchesAt r.headersMatch, kv.Plain) ∧ ∀ kv ∈ matchesAt r.queryParamsMatch, kv.Plain) :
    Undisturbed sort slices orders t m matchesAt := by
  have hroutes : ∀ r ∈ InPlace.routes m, InPlace.Plain matchesAt r := by
    intro r hr
    obtain ⟨l, hl, hr⟩ := mem_flatMap.1 hr
    exact ⟨(hplain l hl r hr).1, (hplain l hl r hr).2⟩
  have hrun (orders : RangeOrders) {now : MatchArrays ι} (hnow : Rewritten sort matchesAt ∅ now) :
      (InPlace.translate sort slices orders t m).outcome now =
          t.translate slices orders (m.load matchesAt) ∧
        Rewritten sort matchesAt ∅ ((InPlace.translate sort slices orders t m).after now) := by
    obtain ⟨houtcome, hafter⟩ := InPlace.simulates_translate hsort slices t hroutes orders now hnow
    exact ⟨sameOutcome_eq.1 houtcome, hafter⟩
  obtain ⟨houtcome, hafter⟩ := hrun orders (.refl sort matchesAt)
  refine ⟨permutedModel_load hsort hafter m, ?_, fun hnames orders' => ?_⟩
  · rw [houtcome, (hrun orders hafter).1]
  · rw [houtcome, (hrun orders' hafter).1, translate_eq_entries hnames slices orders' t,
      ← translate_eq_entries hnames slices orders t]

end

/-- Two routes for two hosts, whose headers are in the same array. -/
def sharedHeaders : StoredModel Nat where
  data := {}
  http := [
    { data := { name := "web", port := 80, hostname := "*" }
      routes := [
        ⟨{ hostnames := ["shop.example", "blog.example"]
           pathMatch := { prefixed := "/cart" }
           backends := [⟨"cart", "team", some ⟨8080, ""⟩, none⟩] }, 0, 1⟩,
        ⟨{ hostnames := ["shop.example", "blog.example"]
           pathMatch := { prefixed := "/" }
           backends := [⟨"web", "team", some ⟨8080, ""⟩, none⟩] }, 0, 2⟩] }]

def unsortedHeaders : MatchArrays Nat
  | 0 => [⟨"version", { exact := "2" }⟩, ⟨"env", { exact := "test" }⟩]
  | _ => []

/-- Translation swaps the headers, in both routes. -/
theorem translate_undisturbed_sharedHeaders :
    let orders : RangeOrders := .entries
    let t : DefaultTranslator := ⟨"shop", "team", "secrets", true, true, true, 60, true, true⟩
    Undisturbed sortMatches .reference orders t sharedHeaders unsortedHeaders ∧
      (InPlace.translate sortMatches .reference orders t sharedHeaders).after unsortedHeaders 0 =
        [⟨"env", { exact := "test" }⟩, ⟨"version", { exact := "2" }⟩] := by
  have hexact (v : String) (hv : v ≠ "") : StringMatch.AtMostOne { exact := v } :=
    .inl ⟨v, hv, .inr (.inl rfl)⟩
  have hplain : ∀ i, ∀ kv ∈ unsortedHeaders i, kv.Plain := by
    intro i kv hkv
    match i with
    | 0 =>
      rcases mem_cons.1 hkv with rfl | hkv
      · exact ⟨by decide, hexact "2" (by decide)⟩
      · obtain rfl := mem_singleton.1 hkv
        exact ⟨by decide, hexact "test" (by decide)⟩
    | _ + 1 => cases hkv
  exact ⟨translate_undisturbed sortsMatches_sortMatches _ _ _ _ _ fun _ _ r _ =>
    ⟨hplain r.headersMatch, hplain r.queryParamsMatch⟩, rfl⟩

end Translation
