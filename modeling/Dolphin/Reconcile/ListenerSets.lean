import Dolphin.Reconcile.Admission
import Dolphin.Reconcile.Listeners

/-!
# The ListenerSets of a Gateway

A ListenerSet adds listeners to the Gateway that its parentRef designates. `Reconcile`
for a Gateway lists the ListenerSets, writes in the status of those that the policy of the
Gateway does not allow that they are not (`filterToAllowedListenerSets`), merges the
listeners of the others with its own and writes their status (`setListenerSetStatuses`).

It should only have to do with ListenerSets that ask for the Gateway (`OnlyOwn`). But it
lists all ListenerSets of the cluster, the restriction to those of the Gateway being
commented out, and nothing else looks at the parentRef. So what happens to a ListenerSet of
another Gateway is only a matter of the policy: `onlyOwn_iff`.
-/

namespace Reconcile

open Gatewayv1 Go Ingestion List

variable {conflicted : List (Model.FullyQualifiedResource × String)}

/-! ## Conflicts -/

/-- The conflict between two listeners. The rules are commented out: there is none, be the
    ports the same or not. -/
def listenerPairConflict (first second : Listener) : Option String :=
  if first.port ≠ second.port then none else none

/-- The names of the listeners that conflict with another one of the same source. -/
def conflictsWithinSource (listeners : List Listener) : List String :=
  listeners.tails.flatMap fun
    | [] => []
    | first :: rest => rest.flatMap fun second =>
      if (listenerPairConflict first second).isSome then [first.name, second.name] else []

/-- The conflicted listeners, by source and name. Sources come in the order of precedence;
    a listener in conflict with an accepted one, or with one of its own source, is not
    accepted. -/
def conflictsAcrossSources (listeners : List ListenerWithContext) :
    List (Model.FullyQualifiedResource × String) :=
  let sources := (listeners.map (·.source)).eraseDups
  let step := fun (acc : List Listener × List (Model.FullyQualifiedResource × String)) source =>
    let own := (listeners.filter (·.source == source)).map (·.listener)
    let clashes := fun l => acc.1.any fun accepted => (listenerPairConflict accepted l).isSome
    let eligible := own.filter fun l => !clashes l
    let conflicts := acc.2 ++ (own.filter clashes).map (fun l => (source, l.name)) ++
      (conflictsWithinSource eligible).map (fun name => (source, name))
    (acc.1 ++ eligible.filter fun l => !conflicts.contains (source, l.name), conflicts)
  (sources.foldl step ([], [])).2

/-! ## Statuses -/

/-- The `Accepted` or `Programmed` condition of a ListenerSet. -/
def listenerSetCondition (ls : ListenerSet) (type : String) (holds : Bool) (msg reason : String)
    (now : Nat) : Condition where
  type := type
  status := if holds then .true else .false
  reason := reason
  message := msg
  observedGeneration := ls.generation
  lastTransitionTime := now

def setListenerSetCondition (ls : ListenerSet) (type : String) (holds : Bool)
    (msg reason : String) (now : Nat) : ListenerSet :=
  { ls with status := { ls.status with
      conditions := merge ls.status.conditions [listenerSetCondition ls type holds msg reason now] } }

def setListenerSetAccepted (ls : ListenerSet) (accepted : Bool) (msg reason : String) (now : Nat) :
    ListenerSet :=
  setListenerSetCondition ls "Accepted" accepted msg reason now

def setListenerSetProgrammed (ls : ListenerSet) (programmed : Bool) (msg reason : String)
    (now : Nat) : ListenerSet :=
  setListenerSetCondition ls "Programmed" programmed msg reason now

/-- A status without the times of transition. -/
def timelessStatus (status : ListenerSetStatus) : ListenerSetStatus where
  conditions := status.conditions.map timeless
  listeners := status.listeners.map fun l => { l with conditions := l.conditions.map timeless }

/-- The status updates that are sent to the API server: none if only times changed. -/
def updateListenerSetStatus (original new : ListenerSet) : List ListenerSet :=
  if timelessStatus original.status = timelessStatus new.status then [] else [new]

def notAllowedMessage : String :=
  "ListenerSet is not allowed by the Gateway's allowedListeners policy"

/-- A ListenerSet with the conditions that it is not allowed. -/
def notAllowed (now : Nat) (ls : ListenerSet) : ListenerSet :=
  setListenerSetProgrammed (setListenerSetAccepted ls false notAllowedMessage "NotAllowed" now)
    false notAllowedMessage "NotAllowed" now

/-- The ListenerSets that the Gateway allows, and the status updates for the others. -/
def filterToAllowedListenerSets (c : Cluster) (gw : Gateway) (now : Nat)
    (listenerSets : List ListenerSet) : List ListenerSet × List ListenerSet :=
  (listenerSets.filter (c.isListenerSetAllowed gw),
    listenerSets.flatMap fun ls => if c.isListenerSetAllowed gw ls then []
      else updateListenerSetStatus ls (notAllowed now ls))

/-! ## What a run sees of the API server -/

/-- By creation time, then by namespace and name. -/
def listenerSetLess (a b : ListenerSet) : Bool :=
  if a.creationTimestamp ≠ b.creationTimestamp then a.creationTimestamp < b.creationTimestamp
  else a.ns ++ "/" ++ a.name < b.ns ++ "/" ++ b.name

/-- `sortListenerSets`. -/
def sortListenerSets (sets : List ListenerSet) : List ListenerSet :=
  sets.insertionSort fun a b => listenerSetLess b a = false

/-- The namespace and name of a ListenerSet, which determine it in the cluster. -/
def listenerSetKey (ls : ListenerSet) : String × String := (ls.ns, ls.name)

/-- The answers of the API server on ListenerSets and what they depend on, in one run of
    `Reconcile`. A list call that fails has no answer. -/
structure Answers where
  hasListenerSetSupport : Bool := true
  listenerSets : Option (List ListenerSet)
  referenceGrants : Option (List ReferenceGrant) := some []
  validateTLSSecret : String → String → Option String := fun _ _ => none
  listing : Listing := {}
  /-- No other call of the run fails before the statuses of ListenerSets are set. -/
  reachesStatuses : Bool := true
  now : Nat := 0
  keys_nodup : ((listenerSets.getD []).map listenerSetKey).Nodup := by decide

section

variable (c : Cluster) (gw : Gateway) (answers : Answers)

/-- The ListenerSets that the run looks at. -/
def listenerSetsForGateway : List ListenerSet :=
  if answers.hasListenerSetSupport then sortListenerSets (answers.listenerSets.getD []) else []

/-- The status of a listener of a ListenerSet, and whether it is valid. -/
def listenerEntryStatus (conflicted : List (Model.FullyQualifiedResource × String))
    (grants : List ReferenceGrant) (ls : ListenerSet) (l : Listener) :
    Result (ListenerEntryStatus × Bool) := do
  let condition := fun (type reason message : String) (holds : Bool) =>
    listenerSetCondition ls type holds message reason answers.now
  let res := validateListener
    (listenerSetParams ls grants answers.validateTLSSecret answers.now) l
  let conds := merge [] res.conds
  -- a conflicted listener gets no conditions: those for a conflict are commented out
  let isConflicted := conflicted.contains (listenerSetFQR ls, l.name)
  let conds :=
    if isConflicted then []
    else if !res.isValid then
      merge conds
        [condition "Accepted" res.invalidReason
          ("Listener not valid. " ++ " ".intercalate res.invalidMessages) false,
        condition "Programmed" res.invalidReason "Listener not valid" false]
    else
      let conds := if isConditionPresent conds "ResolvedRefs" then conds
        else merge conds [condition "ResolvedRefs" "ResolvedRefs" "Resolved Refs" true]
      merge conds
        [condition "Accepted" "Accepted" "Listener Accepted" true,
        condition "Programmed" "Programmed" "Listener Programmed" true]
  let http ← filterHTTPRoutesByListener c gw l answers.listing.httpRoutes
  let labels := namespaceLabels c gw
  let tcp := filterTCPRoutesByListener c gw l [ls] labels answers.listing.tcpRoutes
  let udp := filterUDPRoutesByListener c gw l [ls] labels answers.listing.udpRoutes
  pure
    ({ name := l.name
       supportedKinds := if isConflicted then none else res.supportedKinds
       conditions := conds
       attachedRoutes := http.length + tcp.length + udp.length },
      !isConflicted && res.isValid)

/-- A ListenerSet with its new status, and whether it has a valid listener. -/
def withListenerSetStatus (conflicted : List (Model.FullyQualifiedResource × String))
    (grants : List ReferenceGrant) (ls : ListenerSet) : Result (ListenerSet × Bool) := do
  let entries ← ls.listeners.mapM (listenerEntryStatus c gw answers conflicted grants ls)
  let ls := { ls with status := { ls.status with listeners := entries.map (·.1) } }
  let valid := entries.any (·.2)
  let msg := fun (s : String) => if valid then s else "No valid listeners"
  let reason := fun (s : String) => if valid then s else "ListenersNotValid"
  let ls := setListenerSetAccepted ls valid (msg "ListenerSet is accepted") (reason "Accepted")
    answers.now
  pure (setListenerSetProgrammed ls valid (msg "ListenerSet is programmed") (reason "Programmed")
    answers.now, valid)

/-- The status updates for the attached ListenerSets, up to a panic, and the number of
    ListenerSets with a valid listener. -/
def setListenerSetStatuses (conflicted : List (Model.FullyQualifiedResource × String))
    (grants : List ReferenceGrant) : List ListenerSet → List ListenerSet × Result Nat
  | [] => ([], pure 0)
  | ls :: rest =>
    match withListenerSetStatus c gw answers conflicted grants ls with
    | .error p => ([], .error p)
    | .ok (new, valid) =>
      let (writes, count) := setListenerSetStatuses conflicted grants rest
      (updateListenerSetStatus ls new ++ writes, count.map (· + if valid then 1 else 0))

/-- The listeners that are merged for ingestion, and all status updates of ListenerSets. -/
structure ListenerSetRun where
  merged : List ListenerWithContext
  writes : List ListenerSet

/-- What `Reconcile` does about ListenerSets. -/
def reconcileListenerSets : ListenerSetRun :=
  if answers.hasListenerSetSupport && answers.listenerSets.isNone then ⟨[], []⟩
  else
    let (attached, writes) :=
      filterToAllowedListenerSets c gw answers.now (listenerSetsForGateway answers)
    let merged := mergeListeners c gw attached
    match answers.reachesStatuses, answers.referenceGrants with
    | true, some grants =>
      ⟨merged, writes ++
        (setListenerSetStatuses c gw answers (conflictsAcrossSources merged) grants attached).1⟩
    | _, _ => ⟨merged, writes⟩

end

/-! ## Whose ListenerSets they are -/

/-- The namespace and name of the Gateway that a ListenerSet asks for. -/
def listenerSetParentGateway (ls : ListenerSet) : String × String :=
  (ls.parentRef.ns.getD ls.ns, ls.parentRef.name)

/-- The ListenerSet asks for the Gateway. -/
abbrev AsksFor (gw : Gateway) (ls : ListenerSet) : Prop :=
  listenerSetParentGateway ls = (gw.ns, gw.name)

/-- A run for a Gateway has only to do with ListenerSets that ask for it: no other
    ListenerSet has a listener among the merged ones or gets its status written, and those
    that have are admitted by the policy of the Gateway. -/
structure OnlyOwn (c : Cluster) (gw : Gateway) (answers : Answers) : Prop where
  merged : ∀ ls ∈ answers.listenerSets.getD [],
    (∃ ctx ∈ (reconcileListenerSets c gw answers).merged, ctx.source = listenerSetFQR ls) →
      AsksFor gw ls ∧ c.AdmitsListeners gw ls.ns
  writes : ∀ ls ∈ answers.listenerSets.getD [], ¬ AsksFor gw ls →
    ∀ w ∈ (reconcileListenerSets c gw answers).writes, listenerSetKey w ≠ listenerSetKey ls

/-- The status of the ListenerSet already says that it is not allowed. -/
def MarkedNotAllowed (ls : ListenerSet) : Prop :=
  Recorded ls.status.conditions
      (listenerSetCondition ls "Accepted" false notAllowedMessage "NotAllowed" 0) ∧
    Recorded ls.status.conditions
      (listenerSetCondition ls "Programmed" false notAllowedMessage "NotAllowed" 0)

section

variable {c : Cluster} {gw : Gateway} {answers : Answers}

variable {ls : ListenerSet}

theorem mem_listenerSetsForGateway : ls ∈ listenerSetsForGateway answers ↔
      answers.hasListenerSetSupport = true ∧ ls ∈ answers.listenerSets.getD [] := by
  rw [listenerSetsForGateway]
  split_ifs with h
  · simp [h, sortListenerSets, mem_insertionSort]
  · simp [h]

theorem listed_of_mem (hls : ls ∈ answers.listenerSets.getD []) :
    answers.listenerSets.isNone = false := by
  cases h : answers.listenerSets with
  | none => simp [h] at hls
  | some sets => rfl

/-- The status update for a ListenerSet that is not allowed is omitted when it is marked. -/
theorem updateListenerSetStatus_notAllowed_iff {now : Nat} :
    updateListenerSetStatus ls (notAllowed now ls) = [] ↔ MarkedNotAllowed ls := by
  have hiff := merge_merge_unchanged_iff ls.status.conditions
    (u := listenerSetCondition ls "Accepted" false notAllowedMessage "NotAllowed" now)
    (v := listenerSetCondition ls "Programmed" false notAllowedMessage "NotAllowed" now)
    (by simp [listenerSetCondition])
  -- the conditions of the listeners are left alone
  have hstatus : timelessStatus ls.status = timelessStatus (notAllowed now ls).status ↔
      ls.status.conditions.map timeless = (notAllowed now ls).status.conditions.map timeless := by
    rw [timelessStatus, timelessStatus, ListenerSetStatus.mk.injEq]
    exact and_iff_left rfl
  have hupdate : updateListenerSetStatus ls (notAllowed now ls) = [] ↔
      timelessStatus ls.status = timelessStatus (notAllowed now ls).status := by
    rw [updateListenerSetStatus]
    split_ifs with h <;> simp [h]
  rw [hupdate, hstatus, eq_comm]
  exact hiff

theorem key_of_mem_update {original new w : ListenerSet}
    (hkey : listenerSetKey new = listenerSetKey original)
    (hw : w ∈ updateListenerSetStatus original new) :
    listenerSetKey w = listenerSetKey original := by
  rw [updateListenerSetStatus] at hw
  split_ifs at hw
  · cases hw
  · rw [mem_singleton.1 hw, hkey]

theorem key_notAllowed (now : Nat) (ls : ListenerSet) :
    listenerSetKey (notAllowed now ls) = listenerSetKey ls :=
  rfl

theorem key_withListenerSetStatus {grants : List ReferenceGrant} {new : ListenerSet} {valid : Bool}
    (h : withListenerSetStatus c gw answers conflicted grants ls = .ok (new, valid)) :
    listenerSetKey new = listenerSetKey ls := by
  obtain ⟨entries, _, h⟩ := bind_eq_ok.1 h
  obtain rfl : _ = new := congrArg Prod.fst (pure_eq_ok.1 h)
  rfl

theorem key_of_mem_setListenerSetStatuses {grants : List ReferenceGrant} {sets : List ListenerSet}
    {w : ListenerSet} (hw : w ∈ (setListenerSetStatuses c gw answers conflicted grants sets).1) :
    ∃ ls ∈ sets, listenerSetKey w = listenerSetKey ls := by
  induction sets with
  | nil => cases hw
  | cons ls rest ih =>
    rw [setListenerSetStatuses] at hw
    split at hw
    · cases hw
    · rename_i new valid hnew
      rcases mem_append.1 hw with hw | hw
      · exact ⟨ls, mem_cons_self, key_of_mem_update (key_withListenerSetStatus hnew) hw⟩
      · obtain ⟨ls', hls', hkey⟩ := ih hw
        exact ⟨ls', mem_cons_of_mem _ hls', hkey⟩

/-- The listeners of the allowed ListenerSets are merged, and no others. -/
theorem merged_source_iff (hls : ls ∈ answers.listenerSets.getD []) :
    (∃ ctx ∈ (reconcileListenerSets c gw answers).merged, ctx.source = listenerSetFQR ls) ↔
      answers.hasListenerSetSupport = true ∧ c.isListenerSetAllowed gw ls = true := by
  have hsome := listed_of_mem hls
  have hmerged : (reconcileListenerSets c gw answers).merged = mergeListeners c gw
        ((listenerSetsForGateway answers).filter (c.isListenerSetAllowed gw)) := by
    rw [reconcileListenerSets, hsome, Bool.and_false, if_neg Bool.false_ne_true]
    dsimp only [filterToAllowedListenerSets]
    split <;> rfl
  rw [hmerged]
  constructor
  · rintro ⟨ctx, hctx, hsource⟩
    obtain ⟨o, ho⟩ := mem_mergeListeners.1 hctx
    rw [Owner.source_eq ho] at hsource
    cases o with
    | gateway gw' =>
      have hkind : "Gateway" = "ListenerSet" := congrArg Model.FullyQualifiedResource.kind hsource
      exact absurd hkind (by decide)
    | listenerSet ls' =>
      obtain ⟨hmem, hallowed⟩ := mem_filter.1 ho.1
      obtain ⟨hsupport, hmem⟩ := mem_listenerSetsForGateway.1 hmem
      -- the source has the key of the ListenerSet, which determines it
      have hkey : listenerSetKey ls' = listenerSetKey ls :=
        Prod.ext (congrArg Model.FullyQualifiedResource.ns hsource)
          (congrArg Model.FullyQualifiedResource.name hsource)
      obtain rfl := inj_on_of_nodup_map answers.keys_nodup hmem hls hkey
      exact ⟨hsupport, hallowed⟩
  · rintro ⟨hsupport, hallowed⟩
    obtain ⟨l, hl⟩ := exists_mem_of_ne_nil _ ls.listeners_ne
    refine ⟨listenerSetListener c ls l, mem_mergeListeners.2 ⟨.listenerSet ls, ?_, hl, rfl⟩, rfl⟩
    exact mem_filter.2 ⟨mem_listenerSetsForGateway.2 ⟨hsupport, hls⟩, hallowed⟩

/-- Where a status update comes from: a ListenerSet that is not allowed and not marked so,
    or one that is allowed. -/
theorem writes_cases {w : ListenerSet} (hw : w ∈ (reconcileListenerSets c gw answers).writes) :
    ∃ ls ∈ listenerSetsForGateway answers, listenerSetKey w = listenerSetKey ls ∧
      (c.isListenerSetAllowed gw ls = true ∨ ¬ MarkedNotAllowed ls) := by
  have hfilter : ∀ w ∈ (filterToAllowedListenerSets c gw answers.now
      (listenerSetsForGateway answers)).2, ∃ ls ∈ listenerSetsForGateway answers,
        listenerSetKey w = listenerSetKey ls ∧
          (c.isListenerSetAllowed gw ls = true ∨ ¬ MarkedNotAllowed ls) := by
    intro w hw
    obtain ⟨ls, hls, hw⟩ := mem_flatMap.1 hw
    split_ifs at hw with hallowed
    · cases hw
    · refine ⟨ls, hls, key_of_mem_update (key_notAllowed _ ls) hw, .inr fun hmarked => ?_⟩
      rw [updateListenerSetStatus_notAllowed_iff.2 hmarked] at hw
      cases hw
  rw [reconcileListenerSets] at hw
  split_ifs at hw with hfails
  · cases hw
  · dsimp only at hw
    split at hw
    · -- the second part are the updates for the ListenerSets that were let through
      rcases mem_append.1 hw with hw | hw
      · exact hfilter w hw
      · obtain ⟨ls, hls, hkey⟩ := key_of_mem_setListenerSetStatuses hw
        obtain ⟨hls, hallowed⟩ := mem_filter.1 hls
        exact ⟨ls, hls, hkey, .inl hallowed⟩
    · exact hfilter w hw

theorem notAllowed_mem_writes (hls : ls ∈ listenerSetsForGateway answers)
    (hallowed : c.isListenerSetAllowed gw ls = false) (hmarked : ¬ MarkedNotAllowed ls) :
    notAllowed answers.now ls ∈ (reconcileListenerSets c gw answers).writes := by
  have hsome := listed_of_mem (mem_listenerSetsForGateway.1 hls).2
  have hupdate : updateListenerSetStatus ls (notAllowed answers.now ls) =
      [notAllowed answers.now ls] := by
    have hne : updateListenerSetStatus ls (notAllowed answers.now ls) ≠ [] :=
      mt updateListenerSetStatus_notAllowed_iff.1 hmarked
    rw [updateListenerSetStatus] at hne ⊢
    split_ifs at hne ⊢ with heq
    · exact absurd rfl hne
    · rfl
  have hfilter : notAllowed answers.now ls ∈ (filterToAllowedListenerSets c gw answers.now
      (listenerSetsForGateway answers)).2 := by
    refine mem_flatMap.2 ⟨ls, hls, ?_⟩
    rw [hallowed, if_neg Bool.false_ne_true, hupdate]
    exact mem_singleton_self _
  rw [reconcileListenerSets, hsome, Bool.and_false, if_neg Bool.false_ne_true]
  dsimp only
  split
  · exact mem_append_left _ hfilter
  · exact hfilter

/-- A run keeps to the ListenerSets that ask for the Gateway exactly when the policy of the
    Gateway allows no other ListenerSet of the cluster, and all others have been marked as not
    allowed before. -/
theorem onlyOwn_iff :
    OnlyOwn c gw answers ↔ ∀ ls ∈ listenerSetsForGateway answers, ¬ AsksFor gw ls →
      c.isListenerSetAllowed gw ls = false ∧ MarkedNotAllowed ls := by
  constructor
  · intro h ls hls hasks
    obtain ⟨hsupport, hmem⟩ := mem_listenerSetsForGateway.1 hls
    have hallowed : c.isListenerSetAllowed gw ls = false := by
      by_contra hallowed
      exact hasks (h.merged ls hmem ((merged_source_iff hmem).2
        ⟨hsupport, Bool.not_eq_false _ ▸ hallowed⟩)).1
    refine ⟨hallowed, ?_⟩
    by_contra hmarked
    -- the status that would be written has the key of the ListenerSet itself
    exact h.writes ls hmem hasks _ (notAllowed_mem_writes hls hallowed hmarked) rfl
  · intro h
    refine ⟨fun ls hmem hctx => ?_, fun ls hmem hasks w hw hkey => ?_⟩
    · obtain ⟨hsupport, hallowed⟩ := (merged_source_iff hmem).1 hctx
      refine ⟨?_, c.admitsListeners_of_allowed hallowed⟩
      by_contra hasks
      have hnot := (h ls (mem_listenerSetsForGateway.2 ⟨hsupport, hmem⟩) hasks).1
      exact absurd (hnot ▸ hallowed) Bool.false_ne_true
    · -- the update was made for a ListenerSet with the same key, which is `ls`
      obtain ⟨ls', hls', hkey', hwhy⟩ := writes_cases hw
      obtain rfl := inj_on_of_nodup_map answers.keys_nodup
        (mem_listenerSetsForGateway.1 hls').2 hmem (hkey'.symm.trans hkey)
      obtain ⟨hnot, hmarked⟩ := h _ hls' hasks
      rcases hwhy with hallowed | hunmarked
      · exact absurd (hnot ▸ hallowed) Bool.false_ne_true
      · exact hunmarked hmarked

end

/-! ## A ListenerSet of another Gateway -/

/-- A Gateway that allows the ListenerSets of all namespaces. -/
def openGateway : Gateway where
  name := "gw"
  ns := "infra"
  listeners := [openListener]
  allowedListeners := some { namespaces := some { fromNamespaces := some .all } }

/-- A ListenerSet that asks for another Gateway. -/
def foreignListenerSet : ListenerSet where
  name := "extra"
  ns := "tenant"
  parentRef := { name := "other", ns := some "tenant" }
  listeners := [{ name := "extra", port := 8443, protocol := .https }]

/-- The listener of the ListenerSet is merged with those of the Gateway. -/
theorem foreign_listeners_merged :
    ¬ OnlyOwn bareCluster openGateway { listenerSets := some [foreignListenerSet] } := by
  intro h
  have hasks : AsksFor openGateway foreignListenerSet :=
    (h.merged _ mem_cons_self ⟨listenerSetListener bareCluster foreignListenerSet
      { name := "extra", port := 8443, protocol := .https }, by decide, rfl⟩).1
  exact absurd hasks (by decide)

end Reconcile
