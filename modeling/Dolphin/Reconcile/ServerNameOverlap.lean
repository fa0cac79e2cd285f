import Dolphin.Go.Panic
import Dolphin.Model.Hosts

/-!
# Overlapping server names

Two TLS listeners must not serve the same server name. `sniHostnamesIntersect` decides whether
there is a name that two host names match: host names are empty, `*`, an exact name, or `*.` and
a name, the first two of which match everything.

Two wildcards are compared label by label, from the last one on. The loop runs over as many
labels as the longer host name has, and would read past the end of the shorter one, but for the
star that ends both lists (`compareLabels_eq`).
-/

namespace Reconcile

open Go Model List

def normalizeHostname (hostname : String) : String := if hostname = "" then allHosts else hostname

/-- `strings.CutPrefix`, nil if the prefix is not found. -/
def cutPrefix (s p : String) : Option String :=
  if hasPrefix s p then some (trimPrefix s p) else none

/-- `strings.Split` at the dots. -/
def labels (hostname : String) : List String := (hostname.toList.splitOn '.').map String.ofList

/-- The loop over the labels, of which `n` are left, from the `i`-th on. -/
def compareLabels (routeSlice listenerSlice : List String) : Nat → Nat → Nat → Result Bool
  | 0, _, matchingLabels => pure (matchingLabels > 0)
  | n + 1, i, matchingLabels => do
    let route ← deref routeSlice[i]?
    if route = allHosts then pure (matchingLabels > 0)
    else
      let listener ← deref listenerSlice[i]?
      if listener = allHosts then pure (matchingLabels > 0)
      else if route = listener then
        compareLabels routeSlice listenerSlice n (i + 1) (matchingLabels + 1)
      else pure false

def wildcardHostnamesIntersect (routeHostname listenerHostname : String) : Result Bool :=
  if routeHostname = allHosts ∨ listenerHostname = allHosts then pure true
  else
    match cutPrefix routeHostname "*.", cutPrefix listenerHostname "*." with
    | some cutRouteHostname, some cutListenerHostname =>
      if cutRouteHostname = "" ∨ cutListenerHostname = "" then pure false
      else
        let routeSlice := (labels routeHostname).reverse
        let listenerSlice := (labels listenerHostname).reverse
        if routeSlice = [] ∨ listenerSlice = [] then pure false
        else
          compareLabels routeSlice listenerSlice (max routeSlice.length listenerSlice.length) 0 0
    | _, _ => pure false

def sniHostnamesIntersect (a b : String) : Result Bool :=
  let a := normalizeHostname a
  let b := normalizeHostname b
  if a = allHosts ∨ b = allHosts then pure true
  else if a = b then pure true
  else
    match hasPrefix a allHosts, hasPrefix b allHosts with
    | true, true => wildcardHostnamesIntersect a b
    | true, false => pure (hostnameMatchesWildcardHostname b a)
    | false, true => pure (hostnameMatchesWildcardHostname a b)
    | false, false => pure false

/-! ## What is decided -/

/-- The host name of a listener: it may be empty, or a star. -/
def ListenerHostname (h : String) : Prop := h = "" ∨ h = allHosts ∨ WellFormedHostname h

/-- The host name matches the server name. -/
def ServerNameMatches (h n : String) : Prop := h = "" ∨ HostMatches h n

/-- Some DNS name is matched by both host names. -/
def Overlap (a b : String) : Prop :=
  ∃ n : String, DNSName n.toList ∧ ServerNameMatches a n ∧ ServerNameMatches b n

theorem Overlap.symm {a b : String} (h : Overlap a b) : Overlap b a := by
  obtain ⟨n, hdns, ha, hb⟩ := h
  exact ⟨n, hdns, hb, ha⟩

/-! ## The labels -/

/-- Lists of labels that end with a star: the comparison returns, and finds out whether one of
    them begins the other. -/
theorem compareLabels_eq {route listener rs ls : List String} {n i m : Nat}
    (hroute : route.drop i = rs ++ [allHosts]) (hlistener : listener.drop i = ls ++ [allHosts])
    (hrs : allHosts ∉ rs) (hls : allHosts ∉ ls) (hn : max (rs.length + 1) (ls.length + 1) ≤ n) :
    compareLabels route listener n i m =
      .ok (decide ((rs <+: ls ∨ ls <+: rs) ∧ (0 < m ∨ rs ≠ [] ∧ ls ≠ []))) := by
  induction n generalizing i m rs ls with
  | zero => omega
  | succ n ih =>
    have hget {xs ys : List String} {y : String} (hxs : xs.drop i = y :: ys) :
        xs[i]? = some y ∧ xs.drop (i + 1) = ys := by
      constructor
      · rw [← head?_drop, hxs, head?_cons]
      · rw [← tail_drop, hxs, tail_cons]
    rw [compareLabels]
    cases rs with
    | nil =>
      obtain ⟨hi, _⟩ := hget hroute
      simp [hi, bind, Except.bind, pure, Except.pure]
    | cons r rs =>
      obtain ⟨hi, hdrop⟩ := hget hroute
      have hr : r ≠ allHosts := fun heq => hrs (heq ▸ mem_cons_self)
      cases ls with
      | nil =>
        obtain ⟨hj, _⟩ := hget hlistener
        simp [hi, hj, hr, bind, Except.bind, pure, Except.pure]
      | cons l ls =>
        obtain ⟨hj, hdrop'⟩ := hget hlistener
        have hl : l ≠ allHosts := fun heq => hls (heq ▸ mem_cons_self)
        have hmax : max (rs.length + 1) (ls.length + 1) ≤ n := by
          simp only [length_cons] at hn
          omega
        have ih := ih (m := m + 1) hdrop hdrop' (fun hmem => hrs (mem_cons_of_mem _ hmem))
          (fun hmem => hls (mem_cons_of_mem _ hmem)) hmax
        simp only [hi, hj, deref_some, bind, Except.bind, if_neg hr, if_neg hl]
        by_cases heq : r = l
        · subst heq
          rw [if_pos rfl, ih]
          simp
        · rw [if_neg heq]
          simp [heq, Ne.symm heq, pure, Except.pure]

section

variable {a b : String} {x y : List Char}

theorem labels_wildcard (hx : a.toList = '*' :: '.' :: x) :
    (labels a).reverse = ((x.splitOn '.').map String.ofList).reverse ++ [allHosts] := by
  have hsplit : ('*' :: '.' :: x).splitOn '.' = ['*'] :: x.splitOn '.' := by
    simp only [splitOn_eq_splitOnP]
    exact splitOnP_append_cons ['*'] x (beq_self_eq_true '.')
  rw [labels, hx, hsplit, map_cons, reverse_cons]
  rfl

theorem allHosts_not_mem_labels (hx : DNSName x) :
    allHosts ∉ ((x.splitOn '.').map String.ofList).reverse := by
  intro hmem
  obtain ⟨label, hlabel, heq⟩ := mem_map.1 (mem_reverse.1 hmem)
  obtain rfl : label = ['*'] := by
    have := congrArg String.toList heq
    rwa [String.toList_ofList] at this
  exact hx.not_star (mem_of_mem_splitOn hlabel mem_cons_self).1

theorem cutPrefix_wildcard (hx : a.toList = '*' :: '.' :: x) :
    cutPrefix a "*." = some (String.ofList x) := by
  have hstar : hasPrefix a "*." = true := hasPrefix_iff.2 ⟨x, hx.symm⟩
  have htrim : (trimPrefix a "*.").toList = x := toList_trimPrefix hx
  rw [cutPrefix, if_pos hstar, ← htrim, String.ofList_toList]

theorem map_ofList_suffix_iff {ls ls' : List (List Char)} :
    ls.map String.ofList <:+ ls'.map String.ofList ↔ ls <:+ ls' := by
  refine ⟨fun h => ?_, fun h => h.map String.ofList⟩
  have hmap (l : List (List Char)) : (l.map String.ofList).map String.toList = l := by
    rw [map_map]
    exact map_id'' (fun _ => String.toList_ofList) l
  simpa only [hmap] using h.map String.toList

/-- The labels of one name begin those of another, from the last one on, if the one name ends
    the other. -/
theorem labels_prefix_iff :
    ((x.splitOn '.').map String.ofList).reverse <+: ((y.splitOn '.').map String.ofList).reverse ↔
      y = x ∨ '.' :: x <:+ y := by
  rw [ reverse_prefix, map_ofList_suffix_iff, splitOn_isSuffix_iff]

/-- The comparison of wildcards finds out whether the name of one ends that of the other. -/
theorem wildcardHostnamesIntersect_eq (hx : a.toList = '*' :: '.' :: x) (hxdns : DNSName x)
    (hy : b.toList = '*' :: '.' :: y) (hydns : DNSName y) :
    ∃ r, wildcardHostnamesIntersect a b = .ok r ∧
      (r = true ↔ (y = x ∨ '.' :: x <:+ y) ∨ x = y ∨ '.' :: y <:+ x) := by
  have hne {c : String} {z : List Char} (hz : c.toList = '*' :: '.' :: z) : c ≠ allHosts := by
    rintro rfl
    exact absurd (congrArg List.length hz) (by simp [allHosts])
  have hempty {z : List Char} (hz : DNSName z) : String.ofList z ≠ "" := by
    intro heq
    have hlist := congrArg String.toList heq
    rw [String.toList_ofList] at hlist
    exact hz.1 hlist
  have hlabels (z : List Char) : ((z.splitOn '.').map String.ofList).reverse ≠ [] := by
    simp [splitOn_eq_splitOnP]
  have hx' := labels_wildcard hx
  have hy' := labels_wildcard hy
  have hlength : max (((x.splitOn '.').map String.ofList).reverse.length + 1)
      (((y.splitOn '.').map String.ofList).reverse.length + 1) ≤
      max (labels a).reverse.length (labels b).reverse.length := by
    rw [hx', hy', length_append, length_append]
    exact le_rfl
  have hcompare := compareLabels_eq (m := 0) (i := 0) hx' hy' (allHosts_not_mem_labels hxdns)
    (allHosts_not_mem_labels hydns) hlength
  have hloop : wildcardHostnamesIntersect a b = compareLabels (labels a).reverse
      (labels b).reverse (max (labels a).reverse.length (labels b).reverse.length) 0 0 := by
    rw [wildcardHostnamesIntersect, if_neg (not_or.2 ⟨hne hx, hne hy⟩), cutPrefix_wildcard hx,
      cutPrefix_wildcard hy]
    dsimp only
    rw [if_neg (not_or.2 ⟨hempty hxdns, hempty hydns⟩), if_neg]
    rw [hx', hy']
    simp
  refine ⟨_, hloop.trans hcompare, ?_⟩
  rw [decide_eq_true_iff, labels_prefix_iff, labels_prefix_iff,
    and_iff_left (.inr ⟨hlabels x, hlabels y⟩)]

end

/-! ## Overlap -/

theorem dnsName_below {x : List Char} (h : DNSName x) : DNSName ('a' :: '.' :: x) := by
  refine ⟨cons_ne_nil _ _, fun c hc => ?_⟩
  rcases mem_cons.1 hc with rfl | hc
  · exact .inl (by decide)
  · rcases mem_cons.1 hc with rfl | hc
    · exact .inr (.inr (.inr rfl))
    · exact h.2 c hc

section

variable {a b : String}

theorem exists_serverNameMatches (ha : ListenerHostname a) :
    ∃ n : String, DNSName n.toList ∧ ServerNameMatches a n := by
  rcases ha with rfl | rfl | hdns | ⟨x, hx, hdns⟩
  · exact ⟨"a", by decide, .inl rfl⟩
  · exact ⟨"a", by decide, .inr (.inl rfl)⟩
  · exact ⟨a, hdns, .inr ((hostMatches_dnsName hdns).2 rfl)⟩
  · refine ⟨String.ofList ('a' :: '.' :: x), ?_, .inr ?_⟩
    · rw [String.toList_ofList]
      exact dnsName_below hdns
    · exact (hostMatches_wildcard hx).2 ⟨['a'], cons_ne_nil _ _, String.toList_ofList⟩

theorem overlap_of_all (ha : normalizeHostname a = allHosts) (hb : ListenerHostname b) :
    Overlap a b := by
  obtain ⟨n, hdns, hn⟩ := exists_serverNameMatches hb
  refine ⟨n, hdns, ?_, hn⟩
  rw [normalizeHostname] at ha
  split_ifs at ha with hempty
  · exact .inl hempty
  · exact .inr (.inl ha)

theorem serverNameMatches_iff (ha : WellFormedHostname a) {n : String} :
    ServerNameMatches a n ↔ HostMatches a n := or_iff_right ha.ne_empty

theorem overlap_wildcards {x y : List Char} (ha : a.toList = '*' :: '.' :: x) (hx : DNSName x)
    (hb : b.toList = '*' :: '.' :: y) (hy : DNSName y) :
    Overlap a b ↔ (y = x ∨ '.' :: x <:+ y) ∨ x = y ∨ '.' :: y <:+ x := by
  have hsuffix {z w : List Char} : '.' :: z <:+ '.' :: w ↔ w = z ∨ '.' :: z <:+ w := by
    rw [suffix_cons_iff, List.cons.injEq, and_iff_right rfl, eq_comm]
  -- a name that ends with the longer one
  have hoverlap {a b : String} {x y : List Char} (ha : a.toList = '*' :: '.' :: x)
      (hb : b.toList = '*' :: '.' :: y) (hy : DNSName y) (hxy : '.' :: x <:+ '.' :: y) :
      Overlap a b := by
    obtain ⟨s, hs⟩ := hxy
    refine ⟨String.ofList ('a' :: '.' :: y), ?_, .inr ?_, .inr ?_⟩
    · rw [String.toList_ofList]
      exact dnsName_below hy
    · refine (hostMatches_wildcard ha).2 ⟨'a' :: s, cons_ne_nil _ _, ?_⟩
      rw [String.toList_ofList, cons_append, hs]
    · exact (hostMatches_wildcard hb).2 ⟨['a'], cons_ne_nil _ _, String.toList_ofList⟩
  rw [← hsuffix, ← hsuffix]
  constructor
  · rintro ⟨n, _, han, hbn⟩
    obtain ⟨p, _, hp⟩ := (hostMatches_wildcard ha).1
      ((serverNameMatches_iff (.inr ⟨x, ha, hx⟩)).1 han)
    obtain ⟨q, _, hq⟩ := (hostMatches_wildcard hb).1
      ((serverNameMatches_iff (.inr ⟨y, hb, hy⟩)).1 hbn)
    exact suffix_or_suffix_of_suffix ⟨p, hp.symm⟩ ⟨q, hq.symm⟩
  · rintro (hxy | hyx)
    · exact hoverlap ha hb hy hxy
    · exact (hoverlap hb ha hx hyx).symm

theorem overlap_dnsName {x : List Char} (ha : a.toList = '*' :: '.' :: x) (hx : DNSName x)
    (hb : DNSName b.toList) : Overlap a b ↔ hostnameMatchesWildcardHostname b a = true := by
  rw [hostnameMatchesWildcardHostname_iff ha, ← hostMatches_wildcard ha]
  constructor
  · rintro ⟨n, _, han, hbn⟩
    obtain rfl := (hostMatches_dnsName hb).1 ((serverNameMatches_iff (.inl hb)).1 hbn)
    exact (serverNameMatches_iff (.inr ⟨x, ha, hx⟩)).1 han
  · intro h
    exact ⟨b, hb, .inr h, .inr ((hostMatches_dnsName hb).2 rfl)⟩

theorem wildcard_or_dnsName (ha : ListenerHostname a) (hne : normalizeHostname a ≠ allHosts) :
    normalizeHostname a = a ∧ WellFormedHostname a := by
  rcases ha with rfl | rfl | hwf
  · exact absurd rfl hne
  · exact absurd rfl hne
  · exact ⟨if_neg hwf.ne_empty, hwf⟩

theorem sniHostnamesIntersect_spec (ha : ListenerHostname a) (hb : ListenerHostname b) :
    ∃ r, sniHostnamesIntersect a b = .ok r ∧ (r = true ↔ Overlap a b) := by
  rw [sniHostnamesIntersect]
  by_cases hall : normalizeHostname a = allHosts ∨ normalizeHostname b = allHosts
  · rw [if_pos hall]
    refine ⟨true, rfl, iff_of_true rfl ?_⟩
    rcases hall with hall | hall
    · exact overlap_of_all hall hb
    · exact (overlap_of_all hall ha).symm
  · rw [if_neg hall]
    obtain ⟨hane, hbne⟩ := not_or.1 hall
    obtain ⟨haeq, hawf⟩ := wildcard_or_dnsName ha hane
    obtain ⟨hbeq, hbwf⟩ := wildcard_or_dnsName hb hbne
    rw [haeq, hbeq]
    by_cases heq : a = b
    · subst heq
      rw [if_pos rfl]
      obtain ⟨n, hdns, hn⟩ := exists_serverNameMatches ha
      exact ⟨true, rfl, iff_of_true rfl ⟨n, hdns, hn, hn⟩⟩
    · rw [if_neg heq]
      rcases hawf with hadns | ⟨x, hax, hx⟩
      · rw [not_hasPrefix_of_dnsName hadns]
        rcases hbwf with hbdns | ⟨y, hby, hy⟩
        · rw [not_hasPrefix_of_dnsName hbdns]
          refine ⟨false, rfl, iff_of_false Bool.false_ne_true ?_⟩
          rintro ⟨n, _, han, hbn⟩
          obtain rfl := (hostMatches_dnsName hadns).1 ((serverNameMatches_iff (.inl hadns)).1 han)
          exact heq ((hostMatches_dnsName hbdns).1 ((serverNameMatches_iff (.inl hbdns)).1 hbn))
        · rw [hasPrefix_of_wildcard hby]
          refine ⟨_, rfl, (overlap_dnsName hby hy hadns).symm.trans ?_⟩
          exact ⟨Overlap.symm, Overlap.symm⟩
      · rw [hasPrefix_of_wildcard hax]
        rcases hbwf with hbdns | ⟨y, hby, hy⟩
        · rw [not_hasPrefix_of_dnsName hbdns]
          exact ⟨_, rfl, (overlap_dnsName hax hx hbdns).symm⟩
        · rw [hasPrefix_of_wildcard hby]
          obtain ⟨r, hr, hiff⟩ := wildcardHostnamesIntersect_eq hax hx hby hy
          exact ⟨r, hr, hiff.trans (overlap_wildcards hax hx hby hy).symm⟩

end

/-- Whether two host names overlap is decided correctly, in either order, and without reading
    past the end of the labels. -/
theorem sniHostnamesIntersect_iff {a b : String} (ha : ListenerHostname a)
    (hb : ListenerHostname b) :
    ∃ r, sniHostnamesIntersect a b = .ok r ∧ sniHostnamesIntersect b a = .ok r ∧
      (r = true ↔ Overlap a b) := by
  obtain ⟨r, hr, hiff⟩ := sniHostnamesIntersect_spec ha hb
  obtain ⟨r', hr', hiff'⟩ := sniHostnamesIntersect_spec hb ha
  have hsymm : Overlap a b ↔ Overlap b a := ⟨Overlap.symm, Overlap.symm⟩
  obtain rfl : r = r' := Bool.eq_iff_iff.2 (hiff.trans (hsymm.trans hiff'.symm))
  exact ⟨r, hr, hr', hiff⟩

theorem sniHostnamesIntersect_example :
    ∃ r, sniHostnamesIntersect "*.example" "*.shop.example" = .ok r ∧
      sniHostnamesIntersect "*.shop.example" "*.example" = .ok r ∧
      (r = true ↔ Overlap "*.example" "*.shop.example") :=
  sniHostnamesIntersect_iff (.inr (.inr (.inr ⟨_, rfl, by decide⟩)))
    (.inr (.inr (.inr ⟨_, rfl, by decide⟩)))

end Reconcile
