import Lehen.Balance
import Lehen.ConnectionIds
import Lehen.Keeping

/-!
The consent log over whole runs on a store that executes every statement: it
says of every connection row that it was granted and, if it has ended, when.
-/

namespace Lehen.Mirroring

open Storage OAuth AuditService ConnectionsService ConnectionIds Footprint Ledger Balance Keeping
open Prog (Keeps keeps_only keeps_of_drop)

variable {N : Type}

/-- The entries a row calls for. -/
def dueEntries (row : ConnectionRow) : List Entry :=
  grantedEntry row :: (row.disconnectedAt.map fun ts => endedEntry ts row).toList

def due (rows : List ConnectionRow) : List Entry := rows.flatMap dueEntries

def Mirrored (store : Store) : Prop := (store.consents.map entryOf).Perm (due store.connections)

/-- The invariant of a run; when ids repeat, nothing is said. -/
def Mirrors (world : World N) : Prop :=
  DistinctIds world.store.connections → Mirrored world.store

/-! What an operation adds to what is due. -/

theorem due_cons (row : ConnectionRow) (rest : List ConnectionRow) :
    due (row :: rest) = dueEntries row ++ due rest := List.flatMap_cons

theorem due_append (rows added : List ConnectionRow) : due (rows ++ added) = due rows ++ due added :=
  List.flatMap_append

theorem due_opened (rows : List ConnectionRow) (active : ∀ row ∈ rows, row.isActive = true) :
    due rows = rows.map grantedEntry := by
  induction rows with
  | nil => rfl
  | cons row rest ih =>
      have open_ : row.disconnectedAt = none :=
        Option.isNone_iff_eq_none.mp (active row List.mem_cons_self)
      rw [due_cons, dueEntries, open_, ih fun other later => active other (List.mem_cons_of_mem _ later)]
      rfl

theorem due_restamped {ids : List String} {ts : Time} {change : ConnectionRow → ConnectionRow}
    (restamps : Restamps ids ts change) (rows : List ConnectionRow)
    (active : ∀ row ∈ rows, row.id ∈ ids → row.isActive = true) :
    (due (rows.map change)).Perm (due rows ++ (reached rows ids).map (endedEntry ts)) := by
  induction rows with
  | nil => exact List.Perm.refl _
  | cons row rest ih =>
      have later := ih fun other member => active other (List.mem_cons_of_mem _ member)
      have stamped := restamps.stamped row
      have entries : dueEntries (change row) =
          dueEntries row ++ if hit ids row = true then [endedEntry ts row] else [] := by
        by_cases named : row.id ∈ ids
        · have wasActive := active row List.mem_cons_self named
          have open_ : row.disconnectedAt = none := Option.isNone_iff_eq_none.mp wasActive
          rw [if_pos named] at stamped
          simp [dueEntries, stamped, open_, hit, wasActive, named, grantedEntry, endedEntry,
            restamps.entry]
        · rw [if_neg named] at stamped
          simp [dueEntries, stamped, hit, named, grantedEntry, endedEntry, restamps.entry]
      rw [List.map_cons, due_cons, due_cons, entries, reached]
      by_cases named : hit ids row = true
      · rw [if_pos named, List.filter_cons_of_pos named, List.map_cons, ← reached]
        apply (later.append_left _).trans
        simp only [List.append_assoc, List.singleton_append]
        exact List.perm_middle.symm.append_left _
      · rw [if_neg named, List.filter_cons_of_neg named, List.append_nil, ← reached,
          List.append_assoc]
        exact later.append_left _

/-! A completed operation on a store that executes every statement. -/

theorem nothing_faulty {outside : Outside N} (reliable : outside.Reliable) (settings : Settings)
    (request : Request) (world : World N) : ¬ Faulty (entriesOf settings outside request world) := by
  have answered {statement : StoreOp} {fate : Fate}
      (member : (statement, fate) ∈ entriesOf settings outside request world) : fate = .answered := by
    obtain ⟨op, during, noted⟩ := Prog.notes_noted member
    cases op with
    | store own =>
        obtain ⟨rfl, rfl⟩ := Prod.mk.inj (List.mem_singleton.mp noted)
        exact if_pos (reliable statement during.outside)
    | _ => cases noted
  rintro (⟨event, member⟩ | ⟨statement, _, member⟩)
  · cases answered member
  · cases answered member

/-- With distinct ids the updates reach the rows they were sent for. -/
theorem reached_of_distinct {before : Store} {account : Account} {past : Entries} {world : World N}
    (agrees : Agrees before account past world) (distinct : DistinctIds before.connections) :
    reached before.connections (updatedIds past) = account.ended := by
  have sublist := ended_reached agrees
  symm
  apply sublist.eq_of_length_le
  apply List.Subperm.length_le
  apply List.subperm_of_subset ((List.Nodup.of_map _ distinct).filter _)
  intro row member
  obtain ⟨known, named⟩ := List.mem_filter.mp member
  simp only [hit, Bool.and_eq_true, decide_eq_true_eq] at named
  rw [agrees.ids] at named
  obtain ⟨other, ended, same⟩ := List.mem_map.mp named.2
  have present := (List.mem_filter.mp (sublist.subset ended)).1
  exact List.inj_on_of_nodup_map distinct present known same ▸ ended

theorem ids_before {before : Store} {account : Account} {past : Entries} {world : World N}
    (agrees : Agrees before account past world) (distinct : DistinctIds world.store.connections) :
    DistinctIds before.connections := by
  obtain ⟨change, restamps, same⟩ := agrees.rows
  have kept : (before.connections.map change).map ConnectionRow.id =
      before.connections.map ConnectionRow.id := by
    rw [List.map_map]
    apply List.map_congr_left
    intro row _
    exact restamps.id row
  rw [DistinctIds, same, List.map_append, kept] at distinct
  exact (List.nodup_append.mp distinct).1

theorem mirrors_ledgered {outside : Outside N} (reliable : outside.Reliable) (settings : Settings)
    (request : Request) (ledgered : Ledgered request) :
    Keeps (exec outside) Mirrors (serve settings request) := by
  intro world mirrors distinct
  obtain ⟨account, agrees, paid⟩ := operation_agrees settings outside request world ledgered
  have distinctBefore := ids_before agrees distinct
  have mirrored := mirrors distinctBefore
  have faultless := nothing_faulty reliable settings request world
  have owed : account.owed = none := by
    rcases paid with owed | raised
    · exact owed
    · by_contra owed
      exact faultless (agrees.faulty_iff.mpr ⟨raised, owed⟩)
  have balance := agrees.balance
  rw [owed, Option.toList, List.append_nil] at balance
  have reachedEnded := reached_of_distinct agrees distinctBefore
  obtain ⟨events, log, entries⟩ := agrees.events
  obtain ⟨change, restamps, rows⟩ := agrees.rows
  have active (row : ConnectionRow) (member : row ∈ world.store.connections)
      (named : row.id ∈ account.ended.map ConnectionRow.id) : row.isActive = true := by
    obtain ⟨other, ended, same⟩ := List.mem_map.mp named
    rw [← reachedEnded] at ended
    obtain ⟨present, hit_⟩ := List.mem_filter.mp ended
    rw [← List.inj_on_of_nodup_map distinctBefore present member same]
    simp only [hit, Bool.and_eq_true] at hit_
    exact hit_.1
  have restamped := due_restamped restamps world.store.connections active
  rw [agrees.ids] at reachedEnded
  rw [reachedEnded] at restamped
  rw [Mirrored, log, List.map_append, entries, rows, due_append,
    due_opened _ agrees.opened, ← balance, Account.changed, ← List.append_assoc]
  apply List.Perm.append_right
  exact (mirrored.append_right _).trans restamped.symm

/-! Everything else leaves the log alone, and of a row what an event says. -/

theorem mirrors_same {world after : World N}
    (rows : after.store.connections = world.store.connections)
    (events : after.store.consents = world.store.consents) (mirrors : Mirrors world) :
    Mirrors after := by
  unfold Mirrors Mirrored
  rw [rows, events]
  exact mirrors

/-- An update of credentials or of the status alone. -/
theorem mirrors_renewed {world after : World N} {id : String} {set : ConnectionSet}
    (renewal : ∀ ts, ¬ Account.Ends ts set)
    (rows : after.store.connections = setWhereId id set world.store.connections)
    (events : after.store.consents = world.store.consents) (mirrors : Mirrors world) :
    Mirrors after := by
  have entries (row : ConnectionRow) :
      (set.apply row).id = row.id ∧ dueEntries (set.apply row) = dueEntries row := by
    cases set with
    | disconnect ts => exact absurd rfl (renewal ts)
    | withdraw ts reason => exact absurd rfl (renewal ts)
    | credentials envelope => exact ⟨rfl, rfl⟩
    | stale => exact ⟨rfl, rfl⟩
  intro distinct
  have sameIds : (setWhereId id set world.store.connections).map ConnectionRow.id =
      world.store.connections.map ConnectionRow.id := by
    rw [setWhereId, List.map_map]
    apply List.map_congr_left
    intro row _
    simp only [Function.comp]
    split
    · exact (entries row).1
    · rfl
  have sameDue : due (setWhereId id set world.store.connections) = due world.store.connections := by
    rw [due, due, setWhereId, List.flatMap_map]
    apply List.flatMap_congr
    intro row _
    split
    · exact (entries row).2
    · rfl
  rw [DistinctIds, rows, sameIds] at distinct
  rw [Mirrored, events, rows, sameDue]
  exact mirrors distinct

theorem mirrors_renewing (outside : Outside N) (op : Op) (world : World N)
    (renewing : Renewing op) (mirrors : Mirrors world) : Mirrors (exec outside op world).2 := by
  have asked (same : (exec outside op world).2.store = world.store) :
      Mirrors (exec outside op world).2 :=
    mirrors_same (by rw [same]) (by rw [same]) mirrors
  cases op with
  | store statement =>
      rcases exec_moves outside statement world with same | same
      · exact asked same
      · cases statement with
        | updateConnections id set =>
            apply mirrors_renewed _ (by rw [same]; rfl) (by rw [same]; rfl) mirrors
            intro ts ends
            cases set with
            | disconnect own => cases renewing
            | withdraw own reason => cases renewing
            | credentials envelope => exact ends
            | stale => exact ends
        | _ => first | exact asked same | cases renewing
  | _ => exact asked (exec_elsewhere outside _ world fun statement same => by cases same)

/-- A cascade of a request is called with the reason of an admin action. -/
def Called : Request → Prop
  | .revokeAllForInstance _ reason _ => reason ≠ "granted"
  | _ => True

theorem mirrors_kept {outside : Outside N} (reliable : outside.Reliable) (settings : Settings)
    (request : Request) (called : Called request) :
    Keeps (exec outside) Mirrors (serve settings request) := by
  apply keeps_serve
  · intro op world administering mirrors
    obtain ⟨rows, events⟩ := administering_tables outside op world administering
    exact mirrors_same rows events mirrors
  · intro op world asking mirrors
    have same := asking_store outside op world asking
    exact mirrors_same (by rw [same]) (by rw [same]) mirrors
  · intro user instanceId privacyClass externalSubject displayLabel requestId _
    exact keeps_of_drop (mirrors_ledgered reliable settings
      (.grant user instanceId privacyClass externalSubject displayLabel requestId) trivial)
  · intro user instanceId code state requestId _
    exact keeps_of_drop (mirrors_ledgered reliable settings
      (.completeGrant user instanceId code state requestId) trivial)
  · intro user instanceId externalSubject requestId _
    exact mirrors_ledgered reliable settings (.revoke user instanceId externalSubject requestId)
      trivial
  · intro instanceId reason requestId source
    apply keeps_of_drop
    apply mirrors_ledgered reliable settings (.revokeAllForInstance instanceId reason requestId)
    rcases source with admin | rfl
    · intro same
      rw [same] at admin
      revert admin
      decide
    · exact called
  · intro previousMapping newMapping requestId
    exact keeps_of_drop (mirrors_ledgered reliable settings
      (.revokeForUsersNoLongerAuthorized previousMapping newMapping requestId) trivial)
  · intro id clockSkewSeconds nowTs _
    exact keeps_only (renewing_access_token ..) (mirrors_renewing outside)

/-! What the invariant says of single rows and events. -/

/-- The event is about the connection of the row. -/
def concerns (row : ConnectionRow) (event : ConsentEvent) : Bool :=
  event.userSub = row.userSub && event.integrationInstanceId = row.integrationInstanceId &&
    event.connectionSeq = row.connectionSeq && event.externalSubject = row.externalSubject &&
      event.privacyClass = row.privacyClass

def grantsOf (store : Store) (row : ConnectionRow) : List ConsentEvent :=
  store.consents.filter fun event => concerns row event && decide (event.action = "granted")

def endsOf (store : Store) (row : ConnectionRow) : List ConsentEvent :=
  store.consents.filter fun event => concerns row event && decide (event.action ≠ "granted")

/-- The log is what the table calls for, row by row. -/
structure Exact (store : Store) : Prop where
  granted : ∀ row ∈ store.connections, ∃ event, grantsOf store row = [event]
  ended : ∀ row ∈ store.connections, ∀ ts, row.disconnectedAt = some ts →
    ∃ event, endsOf store row = [event] ∧ event.ts = ts
  unended : ∀ row ∈ store.connections, row.disconnectedAt = none → endsOf store row = []
  others : ∀ event ∈ store.consents, ∃ row ∈ store.connections, concerns row event = true

def about (row : ConnectionRow) (entry : Entry) : Bool := entry = entryAt entry.ended row

theorem concerns_about (row : ConnectionRow) (event : ConsentEvent) :
    concerns row event = about row (entryOf event) := by
  simp [concerns, about, entryOf, entryAt, Bool.and_assoc]

theorem granted_ended (event : ConsentEvent) :
    decide (event.action = "granted") = (entryOf event).ended.isNone := by
  by_cases granted : event.action = "granted" <;> simp [entryOf, granted]

theorem flatMap_once {rows : List ConnectionRow} {row : ConnectionRow} (entries : List Entry)
    (nodup : rows.Nodup) (member : row ∈ rows) :
    (rows.flatMap fun other => if other = row then entries else []) = entries := by
  induction rows with
  | nil => cases member
  | cons head rest ih =>
      rw [List.flatMap_cons]
      obtain ⟨absent, nodup⟩ := List.nodup_cons.mp nodup
      by_cases same : head = row
      · subst same
        have none : (rest.flatMap fun other => if other = head then entries else []) = [] := by
          apply List.flatMap_eq_nil_iff.mpr
          intro other later
          rw [if_neg]
          rintro rfl
          exact absent later
        rw [if_pos rfl, none, List.append_nil]
      · rw [if_neg same, List.nil_append]
        rcases List.mem_cons.mp member with first | later
        · exact absurd first.symm same
        · exact ih nodup later

theorem due_about {rows : List ConnectionRow} (named : ∀ row ∈ rows,
      row.id = connectionId row.userSub row.integrationInstanceId row.connectionSeq)
    (distinct : DistinctIds rows) {row : ConnectionRow} (member : row ∈ rows) :
    (due rows).filter (about row) = dueEntries row := by
  -- An entry about the row comes from a row with its id, which is the row itself.
  have apart (other : ConnectionRow) (present : other ∈ rows) :
      (dueEntries other).filter (about row) = if other = row then dueEntries row else [] := by
    by_cases same : other = row
    · subst same
      rw [if_pos rfl]
      apply List.filter_eq_self.mpr
      intro entry due
      simp only [dueEntries, List.mem_cons, Option.mem_toList, Option.map_eq_some_iff] at due
      rcases due with rfl | ⟨ts, _, rfl⟩ <;> simp [about, grantedEntry, endedEntry, entryAt]
    · rw [if_neg same]
      apply List.filter_eq_nil_iff.mpr
      intro entry due found
      apply same
      apply List.inj_on_of_nodup_map distinct present member
      rw [named other present, named row member]
      simp only [dueEntries, List.mem_cons, Option.mem_toList, Option.map_eq_some_iff] at due
      rcases due with rfl | ⟨ts, _, rfl⟩ <;>
        simp only [about, grantedEntry, endedEntry, entryAt, decide_eq_true_eq, Entry.mk.injEq]
          at found <;>
        rw [found.1, found.2.1, found.2.2.1]
  rw [due, List.filter_flatMap,
    ← flatMap_once (dueEntries row) (List.Nodup.of_map _ distinct) member]
  exact List.flatMap_congr apart

theorem exact_of_mirrored {store : Store} (mirrored : Mirrored store)
    (numbered : Numbered store.connections) (distinct : DistinctIds store.connections) :
    Exact store := by
  -- The events of a row that pass a test are those that are due and pass it.
  have found (row : ConnectionRow) (member : row ∈ store.connections) (test : Entry → Bool) :
      ((store.consents.filter fun event => concerns row event && test (entryOf event)).map
        entryOf).Perm ((dueEntries row).filter test) := by
    have filtered := mirrored.filter fun entry => test entry && about row entry
    rw [← List.filter_filter, ← List.filter_filter, due_about numbered.named distinct member,
      List.filter_filter, List.filter_map] at filtered
    have same (event : ConsentEvent) :
        (concerns row event && test (entryOf event)) =
          ((fun entry => test entry && about row entry) ∘ entryOf) event := by
      rw [concerns_about, Bool.and_comm]
      rfl
    rw [List.filter_congr fun event _ => same event]
    exact filtered
  have grants (row : ConnectionRow) : grantsOf store row =
      store.consents.filter fun event => concerns row event && (entryOf event).ended.isNone := by
    apply List.filter_congr
    intro event _
    rw [granted_ended]
  have ends (row : ConnectionRow) : endsOf store row =
      store.consents.filter fun event => concerns row event && (entryOf event).ended.isSome := by
    apply List.filter_congr
    intro event _
    rw [decide_not, granted_ended, Option.not_isNone]
  constructor
  · intro row member
    -- Exactly one entry of a row is due without an end.
    have one := found row member fun entry => entry.ended.isNone
    rw [← grants] at one
    have granted : (dueEntries row).filter (fun entry => entry.ended.isNone) = [grantedEntry row] := by
      cases ended : row.disconnectedAt <;> simp [dueEntries, ended, grantedEntry, endedEntry, entryAt]
    rw [granted] at one
    obtain ⟨event, same, _⟩ := List.map_eq_singleton_iff.mp (List.perm_singleton.mp one)
    exact ⟨event, same⟩
  · intro row member ts ended
    have one := found row member fun entry => entry.ended.isSome
    rw [← ends] at one
    have last : (dueEntries row).filter (fun entry => entry.ended.isSome) = [endedEntry ts row] := by
      simp [dueEntries, ended, grantedEntry, endedEntry, entryAt]
    rw [last] at one
    obtain ⟨event, same, entry⟩ := List.map_eq_singleton_iff.mp (List.perm_singleton.mp one)
    refine ⟨event, same, ?_⟩
    have stamp := congrArg Entry.ended entry
    simp only [entryOf, endedEntry, entryAt] at stamp
    split at stamp
    · cases stamp
    · exact Option.some.inj stamp
  · intro row member ended
    have none := found row member fun entry => entry.ended.isSome
    rw [← ends] at none
    have nothing : (dueEntries row).filter (fun entry => entry.ended.isSome) = [] := by
      simp [dueEntries, ended, grantedEntry, entryAt]
    rw [nothing] at none
    exact List.map_eq_nil_iff.mp (List.perm_nil.mp none)
  · intro event member
    -- Every event is an entry that is due for some row.
    have called := mirrored.mem_iff.mp (List.mem_map_of_mem member)
    obtain ⟨row, known, entry⟩ := List.mem_flatMap.mp called
    refine ⟨row, known, ?_⟩
    rw [concerns_about]
    simp only [dueEntries, List.mem_cons, Option.mem_toList, Option.map_eq_some_iff] at entry
    rcases entry with same | ⟨ts, _, same⟩
    · simp [about, same, grantedEntry, entryAt]
    · simp [about, ← same, endedEntry, entryAt]

/-! Over every sequence of completed requests. -/

/-- From a database without connections and consent events, any sequence of
completed requests after which the row ids are distinct leaves an exact log. -/
theorem log_exact (settings : Settings) (outside : Outside N) (world : World N)
    (requests : List Request) (reliable : outside.Reliable)
    (rows : world.store.connections = []) (events : world.store.consents = [])
    (called : ∀ request ∈ requests, Called request)
    (distinct : DistinctIds (serveAll settings outside world requests).store.connections) :
    Exact (serveAll settings outside world requests).store := by
  have start : Mirrors world ∧ Numbered world.store.connections := by
    constructor
    · intro _
      rw [Mirrored, rows, events]
      exact List.Perm.refl _
    · rw [rows]
      exact ⟨nofun, List.Pairwise.nil, nofun⟩
  obtain ⟨mirrors, numbered⟩ := serve_all_kept
    (fun world => Mirrors world ∧ Numbered world.store.connections) requests start
    fun request member world both =>
      ⟨mirrors_kept reliable settings request (called request member) world both.1,
        numbered_kept settings outside request world both.2⟩
  exact exact_of_mirrored (mirrors distinct) numbered distinct

/-- Granted, revoked, granted again, and ended with the instance. -/
def sampleRun : List Request :=
  [.grant sampleUser "mail" defaultPrivacyClass "" "" none, .revoke sampleUser "mail" none none,
    .grant sampleUser "mail" defaultPrivacyClass "" "" none,
    .revokeAllForInstance "mail" "revoked-by-admin-disable" none]

theorem sample_log_exact :
    Exact (serveAll sampleSettings (Outside.still unreachable) ⟨mappedStore, ()⟩ sampleRun).store := by
  apply log_exact sampleSettings (Outside.still unreachable) ⟨mappedStore, ()⟩ sampleRun
    (still_reliable unreachable) rfl rfl
  · intro request member
    simp only [sampleRun, List.mem_cons, List.not_mem_nil, or_false] at member
    rcases member with rfl | rfl | rfl | rfl
    · trivial
    · trivial
    · trivial
    · simp [Called]
  · unfold DistinctIds
    decide +kernel

end Lehen.Mirroring
