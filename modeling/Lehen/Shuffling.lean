import Lehen.Visibility

/-!
GET /me and the order in which the store returns connections. The query has no
`ORDER BY`, and a dictionary keyed by instance keeps the last row only.
-/

namespace Lehen.Shuffling

open Storage OAuth AuditService ConnectionsService MeService Visibility
open Consistency (currentMapping)

variable {N : Type} {outside : Outside N}

/-- The instances as `list` answers them. -/
def views (store : Store) : List IntegrationsService.InstanceView :=
  (store.instances.insertionSort fun left right => left.id ≤ right.id).map
    IntegrationsService.renderForRead

/-- A role of the user lists the instance, and the row GET /me looks at is enabled. -/
def Visible (store : Store) (user : CurrentUser) (instanceId : String) : Prop :=
  Authorized store user instanceId ∧ ShownEnabled (views store) instanceId

/-- What an entry tells of a connection. -/
def face (row : ConnectionRow) : String × String := (statusFor (some row), row.id)

/-- The active connections of the user on an instance they see look the same. -/
def OneFace (store : Store) (user : CurrentUser) : Prop :=
  ∀ instanceId, Visible store user instanceId →
    ∀ left ∈ store.connections, ∀ right ∈ store.connections,
      (ConnectionWhere.ofUserOn user.sub instanceId).holds left = true →
      (ConnectionWhere.ofUserOn user.sub instanceId).holds right = true → face left = face right

def withRows (store : Store) (rows : List ConnectionRow) : Store := { store with connections := rows }

/-! The row a dictionary keeps. -/

theorem last_of_append {α : Type} (key : α → String) (wanted : String) (entries : List α) (entry : α)
    (own : key entry = wanted) : lastWith key wanted (entries ++ [entry]) = some entry := by
  simp [lastWith, own]

theorem last_found {α : Type} {key : α → String} {wanted : String} {entries : List α} {entry : α}
    (last : lastWith key wanted entries = some entry) : entry ∈ entries ∧ key entry = wanted := by
  have matched := List.find?_some last
  exact ⟨List.mem_reverse.mp (List.mem_of_find?_eq_some last), of_decide_eq_true matched⟩

theorem last_none {α : Type} {key : α → String} {wanted : String} {entries : List α}
    (none : lastWith key wanted entries = none) : ∀ entry ∈ entries, key entry ≠ wanted := by
  intro entry member own
  have absent := List.find?_eq_none.mp none entry (List.mem_reverse.mpr member)
  exact absent (decide_eq_true own)

/-- Of two orders of one list a dictionary keeps rows with the same key, if any. -/
theorem last_permuted {α : Type} (key : α → String) (wanted : String) {entries others : List α}
    (permuted : entries.Perm others) :
    (lastWith key wanted entries = none ∧ lastWith key wanted others = none) ∨
      ∃ entry other, lastWith key wanted entries = some entry ∧
        lastWith key wanted others = some other := by
  cases first : lastWith key wanted entries with
  | none =>
      left
      cases second : lastWith key wanted others with
      | none => exact ⟨rfl, rfl⟩
      | some other =>
          obtain ⟨member, own⟩ := last_found second
          exact absurd own (last_none first other (permuted.mem_iff.mpr member))
  | some entry =>
      right
      cases second : lastWith key wanted others with
      | none =>
          obtain ⟨member, own⟩ := last_found first
          exact absurd own (last_none second entry (permuted.mem_iff.mp member))
      | some other => exact ⟨entry, other, rfl, rfl⟩

/-! Entries of GET /me. -/

theorem entry_of_last {store : Store} {rows : List ConnectionRow}
    {instanceId : String} (shown : ShownEnabled (views store) instanceId) :
    ∃ place : IntegrationsService.InstanceView,
      integrationEntry (views store) rows instanceId =
        some
          { instanceId, type := place.type, displayName := place.displayName
            status := statusFor (lastWith ConnectionRow.integrationInstanceId instanceId rows)
            connectionId :=
              (lastWith ConnectionRow.integrationInstanceId instanceId rows).map ConnectionRow.id } ∧
        lastWith IntegrationsService.InstanceView.id instanceId (views store) = some place := by
  obtain ⟨place, last, enabled⟩ := shown
  refine ⟨place, ?_, last⟩
  rw [integrationEntry, last]
  dsimp only
  rw [if_pos enabled]

theorem entry_hidden {store : Store} {rows : List ConnectionRow} {instanceId : String}
    (hidden : ¬ ShownEnabled (views store) instanceId) :
    integrationEntry (views store) rows instanceId = none := by
  rcases entry_cases (views store) rows instanceId with ⟨none, _⟩ | ⟨_, _, _, shown⟩
  · exact none
  · exact absurd shown hidden

/-- Equal payloads have equal entries for each id. -/
theorem entry_of_payload {α : Type} {first second : String → Option α} {ids : List String}
    {name : α → String} (named : ∀ id entry, first id = some entry → name entry = id)
    (named' : ∀ id entry, second id = some entry → name entry = id)
    (same : ids.filterMap first = ids.filterMap second) (id : String) (member : id ∈ ids)
    (entry : α) (found : first id = some entry) : second id = some entry := by
  have present : entry ∈ ids.filterMap second := by
    rw [← same]
    exact List.mem_filterMap.mpr ⟨id, member, found⟩
  obtain ⟨other, _, found'⟩ := List.mem_filterMap.mp present
  have sameId : other = id := (named' other entry found').symm.trans (named id entry found)
  rw [← sameId]
  exact found'

theorem entry_named (instances : List IntegrationsService.InstanceView) (rows : List ConnectionRow)
    (id : String) (entry : IntegrationEntry) (found : integrationEntry instances rows id = some entry) :
    entry.instanceId = id := by
  rcases entry_cases instances rows id with ⟨none, _⟩ | ⟨other, some, named, _⟩
  · rw [none] at found
    cases found
  · obtain rfl := Option.some.inj (some.symm.trans found)
    exact named

/-! Order and looks. -/

theorem held_iff (user : CurrentUser) (instanceId : String) (row : ConnectionRow) :
    (ConnectionWhere.ofUserOn user.sub instanceId).holds row = true ↔
      (ConnectionWhere.ofUser user.sub).holds row = true ∧ row.integrationInstanceId = instanceId := by
  simp only [ConnectionWhere.holds, Bool.and_eq_true, decide_eq_true_eq]
  tauto

theorem payload_of_one_face {store : Store} {user : CurrentUser} {rows : List ConnectionRow}
    (permuted : rows.Perm store.connections) (oneFace : OneFace store user) :
    payloadOf (withRows store rows) user = payloadOf store user := by
  have entries (id : String)
      (member : id ∈ allowedInstanceIds (currentMapping store)
        (matchingRoles (currentMapping store) user)) :
      integrationEntry (views store) (rows.filter (ConnectionWhere.ofUser user.sub).holds) id =
        integrationEntry (views store)
          (store.connections.filter (ConnectionWhere.ofUser user.sub).holds) id := by
    by_cases shown : ShownEnabled (views store) id
    · obtain ⟨place, first, last⟩ := entry_of_last shown
      obtain ⟨place', second, last'⟩ := entry_of_last shown
      obtain rfl := Option.some.inj (last.symm.trans last')
      rw [first, second]
      rcases last_permuted ConnectionRow.integrationInstanceId id
          (permuted.filter (ConnectionWhere.ofUser user.sub).holds) with
        ⟨none, none'⟩ | ⟨row, row', some, some'⟩
      · rw [none, none']
      · obtain ⟨present, own⟩ := last_found some
        obtain ⟨present', own'⟩ := last_found some'
        obtain ⟨known, holds⟩ := List.mem_filter.mp present
        obtain ⟨known', holds'⟩ := List.mem_filter.mp present'
        have looks := oneFace id ⟨(mem_allowed_ids ..).mp member, shown⟩ row
          (permuted.mem_iff.mp known) row' known' ((held_iff ..).mpr ⟨holds, own⟩)
          ((held_iff ..).mpr ⟨holds', own'⟩)
        simp only [face, Prod.mk.injEq] at looks
        rw [some, some', looks.1, Option.map_some, Option.map_some, looks.2]
    · rw [entry_hidden shown, entry_hidden shown]
  have lists := List.filterMap_congr entries
  unfold payloadOf
  dsimp only
  congr 1

/-- The payload when a given row of an instance comes last. -/
theorem entry_when_last {store : Store} {user : CurrentUser} {instanceId : String}
    {row : ConnectionRow} (shown : ShownEnabled (views store) instanceId)
    (holds : (ConnectionWhere.ofUserOn user.sub instanceId).holds row = true) :
    ∃ entry, integrationEntry (views store)
        ((store.connections.erase row ++ [row]).filter (ConnectionWhere.ofUser user.sub).holds)
        instanceId = some entry ∧
      entry.status = statusFor (some row) ∧ entry.connectionId = some row.id := by
  obtain ⟨own, place⟩ := (held_iff ..).mp holds
  obtain ⟨place, found, _⟩ := entry_of_last shown
  refine ⟨_, found, ?_⟩
  have split : (store.connections.erase row ++ [row]).filter (ConnectionWhere.ofUser user.sub).holds =
      (store.connections.erase row).filter (ConnectionWhere.ofUser user.sub).holds ++ [row] := by
    rw [List.filter_append, List.filter_singleton, own]
    rfl
  rw [split, last_of_append _ _ _ _ ‹_›]
  exact ⟨rfl, rfl⟩

/-- GET /me is the same for every order of the rows exactly if the active
connections of the user on each instance they see look the same. -/
theorem order_free_iff (reliable : outside.Reliable) (days : Nat) (user : CurrentUser)
    (requestId : Option String) (world : World N) :
    (∀ rows : List ConnectionRow, rows.Perm world.store.connections →
      ((me days user requestId).run (exec outside)
          { world with store := withRows world.store rows }).1 =
        ((me days user requestId).run (exec outside) world).1) ↔
      OneFace world.store user := by
  have payload (rows : List ConnectionRow) :
      ((me days user requestId).run (exec outside)
          { world with store := withRows world.store rows }).1 =
        .ok (payloadOf (withRows world.store rows) user) :=
    me_payload reliable days user requestId _
  have original : ((me days user requestId).run (exec outside) world).1 =
      .ok (payloadOf world.store user) := me_payload reliable days user requestId world
  simp only [payload, original, Except.ok.injEq]
  constructor
  · intro free instanceId visible left known right known' holds holds'
    obtain ⟨entry, found, status, id⟩ := entry_when_last visible.2 holds
    obtain ⟨entry', found', status', id'⟩ := entry_when_last visible.2 holds'
    have moved (row : ConnectionRow) (member : row ∈ world.store.connections) :
        (world.store.connections.erase row ++ [row]).Perm world.store.connections :=
      (List.perm_append_singleton _ _).trans (List.perm_cons_erase member).symm
    have same := congrArg MePayload.integrations
      ((free _ (moved left known)).trans (free _ (moved right known')).symm)
    have one : entry' = entry := by
      have again := entry_of_payload (entry_named _ _) (entry_named _ _) same instanceId
        ((mem_allowed_ids ..).mpr visible.1) entry found
      exact Option.some.inj (found'.symm.trans again)
    rw [one] at status' id'
    rw [face, face, ← status, ← status', Option.some.inj (id.symm.trans id')]
  · intro oneFace rows permuted
    exact payload_of_one_face permuted oneFace

/-! A user with two mailboxes on one instance. -/

def twoMailboxes : List Request :=
  [.createInstance sampleUser "mail" "outlook-edge-com" "Mail" ∅ true true none,
    .replaceMapping sampleUser (.obj [("staff", .arr [.str "mail"])]) none,
    .grant sampleUser "mail" defaultPrivacyClass "ann@example.org" "" none,
    .grant sampleUser "mail" defaultPrivacyClass "team@example.org" "" none]

def twoMailboxWorld : World Unit :=
  serveAll sampleSettings (Outside.still unreachable) ⟨Store.empty, ()⟩ twoMailboxes

def connectionIds : Except PyError MePayload → List (Option String)
  | .ok payload => payload.integrations.map IntegrationEntry.connectionId
  | .error _ => []

/-- Returned in the other order, the rows show the other connection. -/
theorem order_shows :
    Reachable sampleSettings (Outside.still unreachable) twoMailboxWorld ∧
    ¬ ∀ rows : List ConnectionRow, rows.Perm twoMailboxWorld.store.connections →
      ((me 90 sampleUser none).run (exec (Outside.still unreachable))
          { twoMailboxWorld with store := withRows twoMailboxWorld.store rows }).1 =
        ((me 90 sampleUser none).run (exec (Outside.still unreachable)) twoMailboxWorld).1 := by
  constructor
  · exact reachable_serve_all _ (.empty ())
  · intro free
    have same := congrArg connectionIds (free _ (List.reverse_perm _))
    revert same
    decide +kernel

theorem order_free_iff_two_mailboxes :
    (∀ rows : List ConnectionRow, rows.Perm twoMailboxWorld.store.connections →
      ((me 90 sampleUser none).run (exec (Outside.still unreachable))
          { twoMailboxWorld with store := withRows twoMailboxWorld.store rows }).1 =
        ((me 90 sampleUser none).run (exec (Outside.still unreachable)) twoMailboxWorld).1) ↔
      OneFace twoMailboxWorld.store sampleUser :=
  order_free_iff (still_reliable unreachable) 90 sampleUser none twoMailboxWorld

end Lehen.Shuffling
