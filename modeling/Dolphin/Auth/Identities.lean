import Dolphin.Go.Strings

/-!
# Identities in SPIRE

The watcher of identities (`ItentityWatcher.run`) hands each event to the client of the SPIRE server,
and acknowledges it with an error if it has to be retried. The API of the server may answer
anything, depending on the calls that were made before (`EntryAPI`).

Each event should be acknowledged with what the client returned, and `Upsert` should write only if
the lookup succeeded or found nothing (`Registers`). The code has two mistakes. The error of a
deletion is declared anew and lost, so the deletion is acknowledged as done. `Upsert` has the check
of the lookup's error the wrong way around: it returns the errors that say "not found", and creates
an entry after any other one. So the law holds for the events without such errors
(`registers_iff`).
-/

namespace Auth

open List

/-! ## The SPIRE server -/

structure SPIFFEID where
  trustDomain : String
  path : String

structure Entry where
  id : String := ""
  spiffeId : SPIFFEID
  parentId : SPIFFEID
  selectors : List (String × String)

/-- A call of the entry API. The filter of a lookup has the fields of an entry. -/
inductive Call
  | listEntries (filter : Entry)
  | batchCreateEntry (entries : List Entry)
  | batchUpdateEntry (entries : List Entry)
  | batchDeleteEntry (ids : List String)

/-- What the server answers after some calls: entries or the text of an error for a lookup, and
    maybe an error for the other calls. -/
structure EntryAPI where
  listEntries : List Call → Entry → Except String (List Entry)
  write : List Call → Call → Option String

/-- `Client`, with nil for `entry` before it is connected. -/
structure Client where
  entry : Option EntryAPI
  spiffeTrustDomain : String

def toPath (id : String) : String := "identity" ++ "/" ++ id

/-- The entry of an identity, and what is looked up for it. -/
def Client.desired (c : Client) (id : String) : Entry where
  spiffeId := ⟨c.spiffeTrustDomain, toPath id⟩
  parentId := ⟨c.spiffeTrustDomain, "/dolphin-operator"⟩
  selectors := [("dolphin", "mutual-auth")]

/-- The error says that there is no entry. -/
def NotFound (err : String) : Prop := "not found".toList <:+: err.toList

instance (err : String) : Decidable (NotFound err) := inferInstanceAs (Decidable (_ <:+: _))

/-- A call that writes: the error that it returns, and the calls made by then. -/
def EntryAPI.call (api : EntryAPI) (calls : List Call) (call : Call) : Option String × List Call :=
  (api.write calls call, calls ++ [call])

section

variable (c : Client) (id : String) (calls : List Call)

/-- Register an identity, after some calls. -/
def Client.upsert : Option String × List Call :=
  match c.entry with
  | none => (some "entry client is not initialized", calls)
  | some api =>
    let looked := calls ++ [.listEntries (c.desired id)]
    match api.listEntries calls (c.desired id) with
    | .error err =>
      -- any other error comes without entries
      if NotFound err then (some err, looked) else api.call looked (.batchCreateEntry [c.desired id])
    | .ok [] => api.call looked (.batchCreateEntry [c.desired id])
    | .ok _ => api.call looked (.batchUpdateEntry [c.desired id])

def Client.delete : Option String × List Call :=
  match c.entry with
  | none => (some "entry client is not initialized", calls)
  | some api =>
    if id = "" then (none, calls)
    else
      let looked := calls ++ [.listEntries (c.desired id)]
      match api.listEntries calls (c.desired id) with
      | .error err => (if NotFound err then none else some err, looked)
      | .ok [] => (none, looked)
      | .ok entries => api.call looked (.batchDeleteEntry (entries.map (·.id)))

/-- `Upsert` creates an entry if the lookup finds none, updates it if there is one, and returns any
    other error of the lookup. -/
def UpsertLaw : Prop :=
  ∀ api, c.entry = some api →
    let looked := calls ++ [.listEntries (c.desired id)]
    c.upsert id calls =
      match api.listEntries calls (c.desired id) with
      | .error err =>
        if NotFound err then api.call looked (.batchCreateEntry [c.desired id]) else (some err, looked)
      | .ok [] => api.call looked (.batchCreateEntry [c.desired id])
      | .ok _ => api.call looked (.batchUpdateEntry [c.desired id])

theorem upsertLaw_iff : UpsertLaw c id calls ↔
    ∀ api, c.entry = some api → (api.listEntries calls (c.desired id)).isOk = true := by
  refine forall₂_congr fun api hapi => ?_
  simp only [Client.upsert, hapi]
  cases api.listEntries calls (c.desired id) with
  | ok entries =>
    refine iff_of_true ?_ rfl
    cases entries <;> rfl
  | error err =>
    refine iff_of_false (fun h => ?_) Bool.false_ne_true
    -- a write is one call more than the lookup
    have hlength := congrArg (·.2.length) h
    dsimp only at hlength
    split_ifs at hlength <;> simp [EntryAPI.call] at hlength

/-- The client is connected, and there is nothing to delete, or the lookup finds nothing, or the
    entries that it finds can be deleted. -/
def Deletes : Prop :=
  ∃ api, c.entry = some api ∧ (id ≠ "" →
    match api.listEntries calls (c.desired id) with
    | .error err => NotFound err
    | .ok entries => entries = [] ∨ api.write (calls ++ [.listEntries (c.desired id)])
        (.batchDeleteEntry (entries.map (·.id))) = none)

theorem delete_eq_none_iff : (c.delete id calls).1 = none ↔ Deletes c id calls := by
  rw [Client.delete, Deletes]
  cases c.entry with
  | none => simp
  | some api =>
    simp only [Option.some.injEq, exists_eq_left']
    by_cases hid : id = ""
    · simp [hid]
    · rw [if_neg hid, imp_iff_right hid]
      rcases api.listEntries calls (c.desired id) with err | entries
      · simp
      · cases entries <;> simp [EntryAPI.call]

end

/-! ## The watcher -/

inductive EventKind
  | sync
  | upsert
  | delete
  deriving DecidableEq

structure Event where
  kind : EventKind
  name : String
  deriving DecidableEq

section

variable (c : Client)

/-- What the client returns for an event. -/
def Event.provided (e : Event) (calls : List Call) : Option String × List Call :=
  match e.kind with
  | .sync => (none, calls)
  | .upsert => c.upsert e.name calls
  | .delete => c.delete e.name calls

/-- The error that an event is acknowledged with. For a deletion it is not the one that the client
    returns, which is another variable `err`. -/
def Event.done (e : Event) (calls : List Call) : Option String × List Call :=
  match e.kind with
  | .sync => (none, calls)
  | .upsert => c.upsert e.name calls
  | .delete => (none, (c.delete e.name calls).2)

/-- The acknowledgements of the events, in their order. -/
def run : List Event → List Call → List (Event × Option String)
  | [], _ => []
  | e :: es, calls => (e, (e.done c calls).1) :: run es (e.done c calls).2

/-- The events, each with the calls that were made before it. -/
def occurrences : List Event → List Call → List (Event × List Call)
  | [], _ => []
  | e :: es, calls => (e, calls) :: occurrences es (e.done c calls).2

/-- Events are acknowledged with what the client returns, which registers identities properly. -/
structure Registers (events : List Event) (calls : List Call) : Prop where
  acknowledged : run c events calls =
    (occurrences c events calls).map fun o => (o.1, (o.1.provided c o.2).1)
  upserts : ∀ o ∈ occurrences c events calls, o.1.kind = .upsert → UpsertLaw c o.1.name o.2

theorem run_eq_map (events : List Event) (calls : List Call) : run c events calls =
    (occurrences c events calls).map fun o => (o.1, (o.1.done c o.2).1) := by
  induction events generalizing calls with
  | nil => rfl
  | cons e es ih => rw [run, occurrences, map_cons, ih]

theorem done_eq_provided_iff {e : Event} {calls : List Call} :
    (e.done c calls).1 = (e.provided c calls).1 ↔ (e.kind = .delete → Deletes c e.name calls) := by
  rw [← delete_eq_none_iff]
  cases hkind : e.kind <;> simp [Event.done, Event.provided, hkind, eq_comm]

theorem registers_iff (events : List Event) (calls : List Call) : Registers c events calls ↔
    ∀ o ∈ occurrences c events calls,
      (o.1.kind = .delete → Deletes c o.1.name o.2) ∧
      (o.1.kind = .upsert → ∀ api, c.entry = some api →
        (api.listEntries o.2 (c.desired o.1.name)).isOk = true) := by
  have hacks : run c events calls =
      (occurrences c events calls).map (fun o => (o.1, (o.1.provided c o.2).1)) ↔
      ∀ o ∈ occurrences c events calls, o.1.kind = .delete → Deletes c o.1.name o.2 := by
    rw [run_eq_map, map_inj_left]
    simp only [Prod.mk.injEq, true_and, done_eq_provided_iff]
  simp only [← upsertLaw_iff, forall₂_and, ← hacks]
  exact ⟨fun h => ⟨h.1, h.2⟩, fun h => ⟨h.1, h.2⟩⟩

end

/-- A server that cannot look up entries. -/
def brokenClient (err : String) : Client where
  entry := some ⟨fun _ _ => .error err, fun _ _ => none⟩
  spiffeTrustDomain := "spiffe.dolphin"

/-- A failed deletion is acknowledged as done. An entry is created after a failed lookup, but not
    if it is not found. -/
theorem not_registers_broken : ¬ Registers (brokenClient "unavailable") [⟨.delete, "7"⟩] [] ∧
      ¬ Registers (brokenClient "unavailable") [⟨.upsert, "7"⟩] [] ∧
      ¬ Registers (brokenClient "not found") [⟨.upsert, "7"⟩] [] := by
  refine ⟨fun h => ?_, fun h => ?_, fun h => ?_⟩
  · exact absurd h.acknowledged (by decide +kernel)
  · have hlaw := h.upserts _ mem_cons_self rfl _ rfl
    exact absurd (congrArg (·.2.length) hlaw) (by decide +kernel)
  · have hlaw := h.upserts _ mem_cons_self rfl _ rfl
    exact absurd (congrArg (·.2.length) hlaw) (by decide +kernel)

end Auth
