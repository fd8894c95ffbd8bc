import Lehen.Ledger
import Mathlib.Data.List.Perm.Basic

/-!
Row changes and consent events when statements fail, executed or not. The event
of a change is a statement of its own, so the two agree exactly if every event is
written, no change is made by a statement that raises, and no update ends a row
it was not sent for.
-/

namespace Lehen.Balance

open Storage OAuth AuditService ConnectionsService Footprint Ledger

variable {N : Type}

abbrev Entries := List (StoreOp × Fate)

/-- The event of a change was not written. -/
def Unwritten (entries : Entries) : Prop := ∃ event, (StoreOp.insertConsent event, Fate.refused) ∈ entries

/-- The statements that insert connection rows or end them. -/
def changesRows : StoreOp → Bool
  | .insertConnection _ | .updateConnections _ _ => true
  | _ => false

/-- A change was made by a statement that raised, so its event never follows. -/
def Unanswered (entries : Entries) : Prop :=
  ∃ statement, changesRows statement = true ∧ (statement, Fate.lost) ∈ entries

/-- The id of an update that was executed. -/
def updatedId : StoreOp × Fate → Option String
  | (.updateConnections id _, .answered) | (.updateConnections id _, .lost) => some id
  | _ => none

def updatedIds (entries : Entries) : List String := entries.filterMap updatedId

/-- The row is active and carries one of the ids. -/
def hit (ids : List String) (row : ConnectionRow) : Bool := row.isActive && decide (row.id ∈ ids)

def reached (rows : List ConnectionRow) (ids : List String) : List ConnectionRow :=
  rows.filter (hit ids)

/-- No more active rows carry the updated ids than there were updates. -/
def OneEach (rows : List ConnectionRow) (entries : Entries) : Prop :=
  (reached rows (updatedIds entries)).length = (updatedIds entries).length

/-- A change of rows that only writes the end of those with one of the ids. -/
structure Restamps (ids : List String) (ts : Time) (change : ConnectionRow → ConnectionRow) :
    Prop where
  id : ∀ row, (change row).id = row.id
  entry : ∀ ended row, entryAt ended (change row) = entryAt ended row
  stamped : ∀ row, (change row).disconnectedAt = if row.id ∈ ids then some ts else row.disconnectedAt

theorem restamps_nothing (ts : Time) : Restamps [] ts id :=
  ⟨fun _ => rfl, fun _ _ => rfl, fun _ => rfl⟩

theorem ends_stamps {ts : Time} {set : ConnectionSet} (ends : Account.Ends ts set)
    (row : ConnectionRow) :
    (set.apply row).id = row.id ∧ (∀ ended, entryAt ended (set.apply row) = entryAt ended row) ∧
      (set.apply row).disconnectedAt = some ts := by
  cases set with
  | disconnect own =>
      subst ends
      exact ⟨rfl, fun _ => rfl, rfl⟩
  | withdraw own reason =>
      subst ends
      exact ⟨rfl, fun _ => rfl, rfl⟩
  | credentials envelope => exact ends.elim
  | stale => exact ends.elim

theorem restamps_more {ids : List String} {ts : Time} {change : ConnectionRow → ConnectionRow}
    {set : ConnectionSet} (restamps : Restamps ids ts change) (ends : Account.Ends ts set)
    (id : String) :
    Restamps (ids ++ [id]) ts fun row =>
      if (change row).id = id then set.apply (change row) else change row := by
  constructor
  · intro row
    by_cases named : (change row).id = id
    · rw [if_pos named, (ends_stamps ends _).1, restamps.id]
    · rw [if_neg named, restamps.id]
  · intro ended row
    by_cases named : (change row).id = id
    · rw [if_pos named, (ends_stamps ends _).2.1, restamps.entry]
    · rw [if_neg named, restamps.entry]
  · intro row
    by_cases named : (change row).id = id
    · rw [if_pos named, (ends_stamps ends _).2.2, ← restamps.id row, named]
      simp
    · rw [if_neg named, restamps.stamped]
      rw [restamps.id] at named
      simp only [List.mem_append, List.mem_singleton, named, or_false]

/-- A change is left without its event. -/
def Faulty (entries : Entries) : Prop := Unwritten entries ∨ Unanswered entries

/-- What the account of an operation says of the store. -/
structure Agrees (before : Store) (account : Account) (past : Entries) (world : World N) : Prop where
  normal : account.odd = false
  rows : ∃ change, Restamps (account.ended.map ConnectionRow.id) account.stamp change ∧
    world.store.connections = before.connections.map change ++ account.opened
  untouched : account.ended = [] → account.opened = [] →
    world.store.connections = before.connections
  opened : ∀ row ∈ account.opened, row.isActive = true
  events : ∃ events, world.store.consents = before.consents ++ events ∧
    events.map entryOf = account.recorded
  balance : account.changed = account.recorded ++ account.owed.toList
  chosen : (account.ended ++ account.todo).Sublist (before.connections.filter ConnectionRow.isActive)
  ids : updatedIds past = account.ended.map ConnectionRow.id
  faulty_iff : Faulty past ↔ account.raised = true ∧ account.owed ≠ none

theorem agrees_start (world : World N) : Agrees world.store {} [] world where
  normal := rfl
  rows := ⟨id, restamps_nothing 0, by simp⟩
  untouched := fun _ _ => rfl
  opened := fun row none => by cases none
  events := ⟨[], by simp, rfl⟩
  balance := rfl
  chosen := List.nil_sublist _
  ids := rfl
  faulty_iff := by simp [Faulty, Unwritten, Unanswered]

theorem faulty_append (past noted : Entries) :
    Faulty (past ++ noted) ↔ Faulty past ∨ Faulty noted := by
  simp only [Faulty, Unwritten, Unanswered, List.mem_append, exists_or, and_or_left]
  exact or_or_or_comm

theorem faulty_single (statement : StoreOp) (fate : Fate) :
    Faulty [(statement, fate)] ↔
      (∃ event, statement = .insertConsent event ∧ fate = .refused) ∨
        changesRows statement = true ∧ fate = .lost := by
  simp only [Faulty, Unwritten, Unanswered, List.mem_singleton, Prod.mk.injEq]
  constructor
  · rintro (⟨event, rfl, rfl⟩ | ⟨_, changes, rfl, rfl⟩)
    · exact .inl ⟨event, rfl, rfl⟩
    · exact .inr ⟨changes, rfl⟩
  · rintro (⟨event, rfl, rfl⟩ | ⟨changes, rfl⟩)
    · exact .inl ⟨event, rfl, rfl⟩
    · exact .inr ⟨statement, changes, rfl, rfl⟩

/-- Nothing noted is an update that was executed or leaves a change without its event. -/
structure Silent (noted : Entries) : Prop where
  ids : updatedIds noted = []
  faultless : ¬ Faulty noted

theorem silent_nothing : Silent [] :=
  ⟨rfl, by simp [Faulty, Unwritten, Unanswered]⟩

theorem silent_past (past : Entries) {noted : Entries} (silent : Silent noted) :
    updatedIds (past ++ noted) = updatedIds past ∧ (Faulty (past ++ noted) ↔ Faulty past) := by
  constructor
  · rw [updatedIds, List.filterMap_append, ← updatedIds, ← updatedIds, silent.ids, List.append_nil]
  · rw [faulty_append]
    exact or_iff_left silent.faultless

/-- What neither table notices leaves the account right. -/
theorem agrees_silent {before : Store} {account : Account} {past noted : Entries}
    {world after : World N} (agrees : Agrees before account past world) (silent : Silent noted)
    (rows : after.store.connections = world.store.connections)
    (events : after.store.consents = world.store.consents) :
    Agrees before account (past ++ noted) after := by
  obtain ⟨sameIds, sameFaults⟩ := silent_past past silent
  constructor
  · exact agrees.normal
  · rw [rows]
    exact agrees.rows
  · rw [rows]
    exact agrees.untouched
  · exact agrees.opened
  · rw [events]
    exact agrees.events
  · exact agrees.balance
  · exact agrees.chosen
  · rw [sameIds]
    exact agrees.ids
  · rw [sameFaults]
    exact agrees.faulty_iff

/-- The account agrees, or a statement raised, and it agrees but for what that
statement did. -/
def Tracks (before : Store) (account : Account) (past : Entries) (world : World N) : Prop :=
  ∃ actual, Agrees before actual past world ∧
    (actual = account ∨ account.odd = false ∧ account.raised = true ∧ actual.raised = true)

/-- A statement that is not executed ends the operation; a change that is owed
then stays so. -/
theorem agrees_refused {before : Store} {account : Account} {past : Entries} {world after : World N}
    {statement : StoreOp} (agrees : Agrees before account past world) (same : after.store = world.store)
    (faulty : Faulty [(statement, .refused)] ↔ account.owed ≠ none) (kept : account.raised = false) :
    Agrees before { account with raised := true } (past ++ [(statement, .refused)]) after := by
  have ids : updatedIds (past ++ [(statement, .refused)]) = updatedIds past := by
    have nothing : updatedId (statement, .refused) = none := by cases statement <;> rfl
    simp [updatedIds, nothing]
  have faultless : ¬ Faulty past := by
    rw [agrees.faulty_iff, kept]
    simp
  refine { agrees with rows := ?_, untouched := ?_, events := ?_, ids := ?_, faulty_iff := ?_ }
  · rw [same]
    exact agrees.rows
  · rw [same]
    exact agrees.untouched
  · rw [same]
    exact agrees.events
  · rw [ids]
    exact agrees.ids
  · rw [faulty_append, faulty]
    simp [faultless]

/-- The clock may only be read while nothing is changed. -/
theorem agrees_clock {outside : Outside N} {before : Store} {account : Account} {past : Entries}
    {world : World N} (agrees : Agrees before account past world) (fresh : account.Fresh) :
    Agrees before { account with stamp := (outside.clock world.outside).1 } (past ++ [])
      (exec outside .clock world).2 := by
  have moved : Agrees before account (past ++ []) (exec outside .clock world).2 :=
    agrees_silent agrees silent_nothing rfl rfl
  obtain ⟨none, nothing, _, _⟩ := fresh
  have stamps (ts : Time) : (account.ended.map (endedEntry ts)) = [] := by simp [none]
  refine { moved with rows := ?_, balance := ?_ }
  · obtain ⟨change, restamps, same⟩ := moved.rows
    rw [none] at restamps
    refine ⟨change, ?_, same⟩
    rw [none]
    constructor
    · exact restamps.id
    · exact restamps.entry
    · intro row
      simpa using restamps.stamped row
  · have balance := moved.balance
    rw [Account.changed, stamps] at balance ⊢
    exact balance

theorem agrees_select {outside : Outside N} {before : Store} {account : Account} {past : Entries}
    {world : World N} (pick : ConnectionRow → Bool) (matching : ConnectionWhere)
    (agrees : Agrees before account past world) (fresh : account.Fresh)
    (activeOnly : ∀ row, matching.holds row = true → row.isActive = true) :
    Agrees before
      (account.next pick (.store (.selectConnections matching))
        (exec outside (.store (.selectConnections matching)) world).1)
      (past ++ statements outside (.store (.selectConnections matching)) world)
      (exec outside (.store (.selectConnections matching)) world).2 := by
  have silent : Silent (statements outside (.store (.selectConnections matching)) world) :=
    ⟨rfl, by simp [faulty_single, statements, changesRows]⟩
  rcases exec_read outside (.selectConnections matching) world rfl with
    ⟨error, answer, same⟩ | ⟨answer, same⟩
  · rw [answer]
    exact agrees_silent agrees silent (by rw [same]) (by rw [same])
  · have moved := agrees_silent agrees silent (by rw [same]) (by rw [same])
    -- Only active rows are selected, so the choice is one among those at the start.
    have chosen : account.next pick (.store (.selectConnections matching))
        (.ok (world.store.connections.filter matching.holds)) =
          { account with todo := (world.store.connections.filter matching.holds).filter pick } :=
      if_pos (List.all_eq_true.mpr fun row member => (List.mem_filter.mp member).2)
    rw [answer]
    simp only [StoreOp.apply]
    rw [chosen]
    refine { moved with chosen := ?_ }
    obtain ⟨none, nothing, _, _⟩ := fresh
    rw [none, List.nil_append, agrees.untouched none nothing]
    apply List.filter_sublist.trans
    have narrower : before.connections.filter matching.holds =
        (before.connections.filter ConnectionRow.isActive).filter matching.holds := by
      rw [List.filter_filter]
      apply List.filter_congr
      intro row _
      cases held : matching.holds row with
      | true => simp [activeOnly row held]
      | false => simp
    rw [narrower]
    exact List.filter_sublist

/-- A row that was inserted is owed its event, which a statement that raises does
not let follow. -/
theorem agrees_inserted {before : Store} {account : Account} {past : Entries} {world after : World N}
    {row : ConnectionRow} {fate : Fate} (agrees : Agrees before account past world)
    (fresh : account.Fresh) (active : row.isActive = true)
    (done : after.store = ((StoreOp.insertConnection row).apply world.store).2) :
    Agrees before
      { account with
        opened := account.opened ++ [row], owed := some (grantedEntry row)
        raised := decide (fate = .lost) }
      (past ++ [(.insertConnection row, fate)]) after := by
  -- Nothing was ended or owed before the row was opened.
  obtain ⟨none, nothing, owed, kept⟩ := fresh
  simp only [StoreOp.apply] at done
  constructor
  · exact agrees.normal
  · obtain ⟨change, restamps, rows⟩ := agrees.rows
    refine ⟨change, restamps, ?_⟩
    rw [done, rows, List.append_assoc]
  · intro _ impossible
    simp at impossible
  · intro other member
    simp only [nothing, List.nil_append, List.mem_singleton] at member
    rw [member]
    exact active
  · rw [done]
    exact agrees.events
  · have balance := agrees.balance
    simp only [Account.changed, none, nothing, owed, List.map_nil, List.append_nil,
      Option.toList] at balance ⊢
    rw [← balance]
    rfl
  · exact agrees.chosen
  · have ids := agrees.ids
    simp only [updatedIds, List.filterMap_append] at ids ⊢
    rw [ids]
    exact List.append_nil _
  · rw [faulty_append, agrees.faulty_iff, kept]
    simp [faulty_single, changesRows]

theorem tracks_insert {outside : Outside N} {before : Store} {account : Account} {past : Entries}
    {world : World N} (pick : ConnectionRow → Bool) (row : ConnectionRow)
    (agrees : Agrees before account past world) (fresh : account.Fresh)
    (active : row.isActive = true) :
    Tracks before
      (account.next pick (.store (.insertConnection row))
        (exec outside (.store (.insertConnection row)) world).1)
      (past ++ statements outside (.store (.insertConnection row)) world)
      (exec outside (.store (.insertConnection row)) world).2 := by
  rw [statements]
  rcases exec_fate outside (.insertConnection row) world with ⟨fate, answer, done⟩ |
    ⟨fate, ⟨error, answer⟩, done⟩ | ⟨fate, ⟨error, answer⟩, same⟩ <;> rw [fate, answer]
  · refine ⟨_, agrees_inserted agrees fresh active done, .inl ?_⟩
    simp only [Account.next, fresh.2.2.2]
    rfl
  · exact ⟨_, agrees_inserted agrees fresh active done, .inr ⟨agrees.normal, rfl, rfl⟩⟩
  · refine ⟨_, agrees_refused agrees same ?_ fresh.2.2.2, .inr ⟨agrees.normal, rfl, rfl⟩⟩
    simp [faulty_single, changesRows, fresh.2.2.1]

/-- A row that was ended is owed its event, which a statement that raises does not
let follow. -/
theorem agrees_updated {before : Store} {account : Account} {past : Entries} {world after : World N}
    {row : ConnectionRow} {rest : List ConnectionRow} {set : ConnectionSet} {fate : Fate}
    (agrees : Agrees before account past world) (kept : account.raised = false)
    (nothing : account.opened = []) (owed : account.owed = none)
    (ends : Account.Ends account.stamp set) (todo : account.todo = row :: rest)
    (executed : fate ≠ .refused)
    (done : after.store = ((StoreOp.updateConnections row.id set).apply world.store).2) :
    Agrees before
      { account with
        todo := rest, ended := account.ended ++ [row]
        owed := some (endedEntry account.stamp row), raised := decide (fate = .lost) }
      (past ++ [(.updateConnections row.id set, fate)]) after := by
  simp only [StoreOp.apply] at done
  constructor
  · exact agrees.normal
  · obtain ⟨change, restamps, rows⟩ := agrees.rows
    refine ⟨_, by rw [List.map_append]; exact restamps_more restamps ends row.id, ?_⟩
    rw [done, rows]
    simp only [nothing, List.append_nil, setWhereId, List.map_map]
    rfl
  · intro impossible
    simp at impossible
  · exact agrees.opened
  · rw [done]
    exact agrees.events
  · have balance := agrees.balance
    simp only [Account.changed, nothing, owed, List.map_nil, List.append_nil, Option.toList]
      at balance ⊢
    rw [List.map_append, balance]
    rfl
  · have chosen := agrees.chosen
    rw [todo, ← List.singleton_append, ← List.append_assoc] at chosen
    exact chosen
  · have ids := agrees.ids
    have updated : updatedId (.updateConnections row.id set, fate) = some row.id := by
      cases fate with
      | answered => rfl
      | lost => rfl
      | refused => exact absurd rfl executed
    simp only [updatedIds, List.filterMap_append, List.map_append] at ids ⊢
    rw [ids, List.filterMap_cons_some updated]
    rfl
  · rw [faulty_append, agrees.faulty_iff, kept]
    simp [faulty_single, changesRows]

theorem tracks_update {outside : Outside N} {before : Store} {account : Account} {past : Entries}
    {world : World N} (pick : ConnectionRow → Bool) {id : String} {set : ConnectionSet}
    (agrees : Agrees before account past world) (kept : account.raised = false)
    (allowed : account.Allows (.store (.updateConnections id set))) :
    Tracks before
      (account.next pick (.store (.updateConnections id set))
        (exec outside (.store (.updateConnections id set)) world).1)
      (past ++ statements outside (.store (.updateConnections id set)) world)
      (exec outside (.store (.updateConnections id set)) world).2 := by
  obtain ⟨nothing, owed, ends, row, rest, todo, rfl⟩ := allowed
  rw [statements]
  rcases exec_fate outside (.updateConnections row.id set) world with ⟨fate, answer, done⟩ |
    ⟨fate, ⟨error, answer⟩, done⟩ | ⟨fate, ⟨error, answer⟩, same⟩ <;> rw [fate, answer]
  · refine ⟨_, agrees_updated agrees kept nothing owed ends todo (by decide) done, .inl ?_⟩
    simp only [Account.next, todo, kept]
    rfl
  · exact ⟨_, agrees_updated agrees kept nothing owed ends todo (by decide) done, .inr ⟨agrees.normal, rfl, rfl⟩⟩
  · refine ⟨_, agrees_refused agrees same ?_ kept, .inr ⟨agrees.normal, rfl, rfl⟩⟩
    simp [faulty_single, changesRows, owed]

/-- The event that was owed is written, answered or not. -/
theorem agrees_recorded {before : Store} {account : Account} {past : Entries} {world after : World N}
    {event : ConsentEvent} {fate : Fate} (agrees : Agrees before account past world)
    (kept : account.raised = false) (owed : account.owed = some (entryOf event))
    (executed : fate ≠ .refused)
    (done : after.store = ((StoreOp.insertConsent event).apply world.store).2) :
    Agrees before
      { account with
        recorded := account.recorded ++ [entryOf event], owed := none
        raised := decide (fate = .lost) }
      (past ++ [(.insertConsent event, fate)]) after := by
  simp only [StoreOp.apply] at done
  constructor
  · exact agrees.normal
  · rw [done]
    exact agrees.rows
  · rw [done]
    exact agrees.untouched
  · exact agrees.opened
  · obtain ⟨events, log, entries⟩ := agrees.events
    refine ⟨events ++ [event], ?_, ?_⟩
    · rw [done, log, List.append_assoc]
    · rw [List.map_append, entries]
      rfl
  · have balance := agrees.balance
    rw [owed] at balance
    simp only [Option.toList, List.append_nil] at balance ⊢
    exact balance
  · exact agrees.chosen
  · have ids := agrees.ids
    simp only [updatedIds, List.filterMap_append] at ids ⊢
    rw [ids]
    exact List.append_nil _
  · rw [faulty_append, agrees.faulty_iff, kept]
    simp [faulty_single, changesRows, executed]

theorem tracks_consent {outside : Outside N} {before : Store} {account : Account} {past : Entries}
    {world : World N} (pick : ConnectionRow → Bool) {event : ConsentEvent}
    (agrees : Agrees before account past world) (kept : account.raised = false)
    (owed : account.owed = some (entryOf event)) :
    Tracks before
      (account.next pick (.store (.insertConsent event))
        (exec outside (.store (.insertConsent event)) world).1)
      (past ++ statements outside (.store (.insertConsent event)) world)
      (exec outside (.store (.insertConsent event)) world).2 := by
  rw [statements]
  rcases exec_fate outside (.insertConsent event) world with ⟨fate, answer, done⟩ |
    ⟨fate, ⟨error, answer⟩, done⟩ | ⟨fate, ⟨error, answer⟩, same⟩ <;> rw [fate, answer]
  · refine ⟨_, agrees_recorded agrees kept owed (by decide) done, .inl ?_⟩
    simp only [Account.next, kept]
    rfl
  · exact ⟨_, agrees_recorded agrees kept owed (by decide) done, .inr ⟨agrees.normal, rfl, rfl⟩⟩
  · -- An entry that was not written stays owed.
    refine ⟨_, agrees_refused agrees same ?_ kept, .inr ⟨agrees.normal, rfl, rfl⟩⟩
    simp [faulty_single, changesRows, owed]

/-- A statement about neither table. -/
theorem tracks_statement (outside : Outside N) {before : Store} {account : Account}
    {past : Entries} {world : World N} (pick : ConnectionRow → Bool) (statement : StoreOp)
    (agrees : Agrees before account past world)
    (unnoticed : ∀ answer, (accountMonitor pick).next account (.store statement) answer = account)
    (silent : ∀ fate, Silent [(statement, fate)])
    (rows : (statement.apply world.store).2.connections = world.store.connections)
    (events : (statement.apply world.store).2.consents = world.store.consents) :
    Tracks before
      ((accountMonitor pick).next account (.store statement) (exec outside (.store statement) world).1)
      (past ++ statements outside (.store statement) world) (exec outside (.store statement) world).2 := by
  rw [unnoticed, statements]
  refine ⟨account, ?_, .inl rfl⟩
  rcases exec_moves outside statement world with same | same
  · exact agrees_silent agrees (silent _) (by rw [same]) (by rw [same])
  · exact agrees_silent agrees (silent _) (by rw [same, rows]) (by rw [same, events])

theorem tracks_allowed {outside : Outside N} {before : Store} {account : Account} {past : Entries}
    {world : World N} (pick : ConnectionRow → Bool) (op : Op)
    (agrees : Agrees before account past world) (kept : account.raised = false)
    (allowed : account.Allows op) :
    Tracks before ((accountMonitor pick).next account op (exec outside op world).1)
      (past ++ statements outside op world) (exec outside op world).2 := by
  cases op with
  | clock => exact ⟨_, agrees_clock agrees allowed, .inl rfl⟩
  | uuid4 => exact ⟨_, agrees_silent agrees silent_nothing rfl rfl, .inl rfl⟩
  | tokenBytes count => exact ⟨_, agrees_silent agrees silent_nothing rfl rfl, .inl rfl⟩
  | http request =>
      have same := exec_elsewhere outside (.http request) world fun statement same => by cases same
      have unnoticed : (accountMonitor pick).next account (.http request)
          (exec outside (.http request) world).1 = account := by
        cases (exec outside (.http request) world).1 <;> rfl
      rw [unnoticed]
      exact ⟨_, agrees_silent agrees silent_nothing (by rw [same]) (by rw [same]), .inl rfl⟩
  | store statement =>
      cases statement with
      | selectConnections matching =>
          cases matching with
          | withId id => exact allowed.elim
          | _ =>
              refine ⟨_, agrees_select pick _ agrees allowed ?_, .inl rfl⟩
              intro row held
              simp only [ConnectionWhere.holds, Bool.and_eq_true] at held
              first
              | exact held
              | exact held.2
      | insertConnection row => exact tracks_insert pick row agrees allowed.1 allowed.2
      | updateConnections id set => exact tracks_update pick agrees kept allowed
      | insertConsent event => exact tracks_consent pick agrees kept allowed
      | _ =>
          first
          | exact allowed.elim
          | (apply tracks_statement outside pick _ agrees
             · intro answer
               cases answer <;> rfl
             · intro fate
               exact ⟨by cases fate <;> rfl, by simp [faulty_single, changesRows]⟩
             · rfl
             · rfl)

theorem tracks_kept {outside : Outside N} {before : Store} {account : Account} {past : Entries}
    {world : World N} (pick : ConnectionRow → Bool) (op : Op)
    (tracks : Tracks before account past world) (allowed : (accountMonitor pick).allowed account op) :
    Tracks before ((accountMonitor pick).next account op (exec outside op world).1)
      (past ++ statements outside op world) (exec outside op world).2 := by
  obtain ⟨actual, agrees, rfl | ⟨normal, raised, _⟩⟩ := tracks
  · rcases allowed with odd | ⟨kept, allowed⟩
    · exact absurd (agrees.normal.symm.trans odd) (by decide)
    · exact tracks_allowed pick op agrees kept allowed
  · -- After a statement that raised nothing is allowed.
    rcases allowed with odd | ⟨kept, _⟩
    · exact absurd (normal.symm.trans odd) (by decide)
    · exact absurd (kept.symm.trans raised) (by decide)

/-! What the account says of the change from one store to the other. -/

theorem ending_restamped {ids : List String} {ts : Time} {change : ConnectionRow → ConnectionRow}
    (restamps : Restamps ids ts change) (row : ConnectionRow) :
    ending (row, change row) = if hit ids row = true then some (endedEntry ts row) else none := by
  have stamped := restamps.stamped row
  by_cases active : row.isActive = true
  · by_cases named : row.id ∈ ids
    · rw [if_pos named] at stamped
      simp [ending, hit, active, named, stamped, endedEntry, restamps.entry]
    · rw [if_neg named] at stamped
      have open_ : row.disconnectedAt = none := Option.isNone_iff_eq_none.mp active
      simp [ending, hit, active, named, stamped, open_]
  · simp [ending, hit, active]

theorem endings_restamped {ids : List String} {ts : Time} {change : ConnectionRow → ConnectionRow}
    (restamps : Restamps ids ts change) (rows added : List ConnectionRow) :
    (rows.zip (rows.map change ++ added)).filterMap ending =
      (reached rows ids).map (endedEntry ts) := by
  induction rows with
  | nil => rfl
  | cons row rest ih =>
      have head := ending_restamped restamps row
      rw [List.map_cons, List.cons_append, List.zip_cons_cons, reached]
      by_cases named : hit ids row = true
      · rw [if_pos named] at head
        rw [List.filter_cons_of_pos named, List.filterMap_cons_some head, ih, List.map_cons, reached]
      · rw [if_neg named] at head
        rw [List.filter_cons_of_neg named, List.filterMap_cons_none head, ih, reached]

theorem changes_agreed {before : Store} {account : Account} {past : Entries} {world : World N}
    (agrees : Agrees before account past world) :
    changes before.connections world.store.connections =
      (reached before.connections (updatedIds past)).map (endedEntry account.stamp) ++
        account.opened.map grantedEntry := by
  obtain ⟨change, restamps, same⟩ := agrees.rows
  have added : (before.connections.map change ++ account.opened).drop before.connections.length =
      account.opened := by
    exact List.drop_left' (List.length_map change)
  rw [changes, same, endings_restamped restamps, added, agrees.ids]

theorem recorded_agreed {before : Store} {account : Account} {past : Entries} {world : World N}
    (agrees : Agrees before account past world) :
    Ledger.recorded before.consents world.store.consents = account.recorded := by
  obtain ⟨events, log, entries⟩ := agrees.events
  rw [Ledger.recorded, log, List.drop_left, entries]

/-- The rows the updates were sent for are among those they reached. -/
theorem ended_reached {before : Store} {account : Account} {past : Entries} {world : World N}
    (agrees : Agrees before account past world) :
    account.ended.Sublist (reached before.connections (updatedIds past)) := by
  have chosen := (List.sublist_append_left account.ended account.todo).trans agrees.chosen
  have narrowed := chosen.filter fun row => decide (row.id ∈ updatedIds past)
  have whole : account.ended.filter (fun row => decide (row.id ∈ updatedIds past)) =
      account.ended := by
    apply List.filter_eq_self.mpr
    intro row member
    rw [agrees.ids]
    exact decide_eq_true (List.mem_map_of_mem member)
  rw [whole, List.filter_filter] at narrowed
  have same : (before.connections.filter fun row =>
      decide (row.id ∈ updatedIds past) && row.isActive) =
        reached before.connections (updatedIds past) := by
    apply List.filter_congr
    intro row _
    exact Bool.and_comm _ _
  rw [same] at narrowed
  exact narrowed

theorem balanced_agreed {before : Store} {account : Account} {past : Entries} {world : World N}
    (agrees : Agrees before account past world) (paid : account.owed = none ∨ account.raised = true) :
    Ledger.Balanced before world.store ↔ ¬ Faulty past ∧ OneEach before.connections past := by
  have sublist := ended_reached agrees
  have balance := agrees.balance
  rw [Ledger.Balanced, changes_agreed agrees, recorded_agreed agrees, OneEach, agrees.ids,
    List.length_map, agrees.faulty_iff]
  rw [agrees.ids] at sublist
  constructor
  · intro balanced
    -- As many events as changes, but no more than rows the updates were sent for.
    have counted := balanced.length_eq
    have owing := congrArg List.length balance
    have fewer := sublist.length_le
    simp only [Account.changed, List.length_append, List.length_map] at counted owing
    have nothing : account.owed = none := by
      cases owed : account.owed with
      | none => rfl
      | some entry =>
          rw [owed, Option.toList, List.length_singleton] at owing
          omega
    constructor
    · exact fun faulty => faulty.2 nothing
    · omega
  · rintro ⟨faultless, oneEach⟩
    have nothing : account.owed = none := by
      rcases paid with owed | raised
      · exact owed
      · by_contra owed
        exact faultless ⟨raised, owed⟩
    have same := sublist.eq_of_length oneEach.symm
    rw [nothing, Option.toList, List.append_nil] at balance
    rw [← same, ← balance, Account.changed]

variable (settings : Settings) (outside : Outside N)

/-- The statements of a request, with what became of them. -/
def entriesOf (request : Request) (world : World N) : Entries :=
  (serve settings request).notes (exec outside) (statements outside) world

/-- The account of a completed operation, whichever statements failed. -/
theorem operation_agrees (request : Request) (world : World N) (ledgered : Ledgered request) :
    ∃ account, Agrees world.store account (entriesOf settings outside request world)
        ((serve settings request).run (exec outside) world).2 ∧
      (account.owed = none ∨ account.raised = true) := by
  obtain ⟨account, ⟨actual, agrees, same⟩, paid⟩ := Prog.leaves_noted (Tracks world.store) []
    (account_served settings request ledgered) ⟨{}, agrees_start world, .inl rfl⟩
    (fun account past op state tracks allowed => tracks_kept _ op tracks allowed)
  rcases same with rfl | ⟨_, _, raised⟩
  · rcases paid with odd | paid
    · exact absurd (agrees.normal.symm.trans odd) (by decide)
    · exact ⟨actual, agrees, paid⟩
  · exact ⟨actual, agrees, .inr raised⟩

/-- The consent log gains exactly the events of the rows an operation inserted
or ended if and only if every event was written, no change was made by a
statement that raised, and every update ended no row but the one it was sent for. -/
theorem balanced_iff (request : Request) (world : World N) (ledgered : Ledgered request) :
    Ledger.Balanced world.store ((serve settings request).run (exec outside) world).2.store ↔
      (¬ Unwritten (entriesOf settings outside request world) ∧
          ¬ Unanswered (entriesOf settings outside request world)) ∧
        OneEach world.store.connections (entriesOf settings outside request world) := by
  obtain ⟨account, agrees, paid⟩ := operation_agrees settings outside request world ledgered
  rw [← not_or]
  exact balanced_agreed agrees paid

/-! A store that takes every statement but the events, and one that loses the
answers to inserts of rows. -/

def withoutLog : Outside Unit :=
  { Outside.still unreachable with
    storeFails := fun statement state =>
      match statement with
      | .insertConsent _ => (some "ArcadeDB command 503: ", state)
      | _ => (none, state) }

def timingOut : Outside Unit :=
  { Outside.still unreachable with
    storeFails := fun statement state =>
      match statement with
      | .insertConnection _ => (some "ArcadeDB command failed: ", state)
      | _ => (none, state)
    executed := fun _ _ => true }

def sampleGrant : Request := .grant sampleUser "mail" defaultPrivacyClass "" "" none

def grantRun (outside : Outside Unit) : Except PyError Unit × World Unit :=
  (serve sampleSettings sampleGrant).run (exec outside) ⟨mappedStore, ()⟩

/-- The grant raises, its row is in the table, and the log says nothing of it. -/
theorem grant_unrecorded :
    Ledgered sampleGrant ∧
      ((grantRun withoutLog).1.isOk = false ∧
        (grantRun withoutLog).2.store.connections.map ConnectionRow.id = ["u1:mail:0"] ∧
        ¬ Ledger.Balanced mappedStore (grantRun withoutLog).2.store) ∧
      ((grantRun timingOut).1.isOk = false ∧
        (grantRun timingOut).2.store.connections.map ConnectionRow.id = ["u1:mail:0"] ∧
        ¬ Ledger.Balanced mappedStore (grantRun timingOut).2.store) := by
  refine ⟨trivial, ?_, ?_⟩ <;>
  · unfold Ledger.Balanced
    decide +kernel

theorem balanced_iff_unanswered :
    Ledger.Balanced mappedStore (grantRun timingOut).2.store ↔
      (¬ Unwritten (entriesOf sampleSettings timingOut sampleGrant ⟨mappedStore, ()⟩) ∧
          ¬ Unanswered (entriesOf sampleSettings timingOut sampleGrant ⟨mappedStore, ()⟩)) ∧
        OneEach mappedStore.connections
          (entriesOf sampleSettings timingOut sampleGrant ⟨mappedStore, ()⟩) :=
  balanced_iff sampleSettings timingOut sampleGrant ⟨mappedStore, ()⟩ trivial

end Lehen.Balance
