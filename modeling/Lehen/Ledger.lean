import Lehen.Footprint

/-!
The consent events as a ledger of the connection table. Five operations insert
connection rows or end them, and each of them writes the event for a change in
a statement of its own, after the change.
-/

namespace Lehen.Ledger

open Storage OAuth AuditService ConnectionsService Footprint
open Prog (Monitor)

/-- What a consent event says of a connection: granted, or ended at a time. -/
structure Entry where
  userSub : String
  instanceId : String
  connectionSeq : Nat
  externalSubject : String
  privacyClass : String
  ended : Option Time
  deriving DecidableEq, Repr

def entryAt (ended : Option Time) (row : ConnectionRow) : Entry :=
  { userSub := row.userSub, instanceId := row.integrationInstanceId
    connectionSeq := row.connectionSeq, externalSubject := row.externalSubject
    privacyClass := row.privacyClass, ended }

def grantedEntry : ConnectionRow → Entry := entryAt none

def endedEntry (ts : Time) : ConnectionRow → Entry := entryAt (some ts)

def entryOf (event : ConsentEvent) : Entry :=
  { userSub := event.userSub, instanceId := event.integrationInstanceId
    connectionSeq := event.connectionSeq, externalSubject := event.externalSubject
    privacyClass := event.privacyClass
    ended := if event.action = "granted" then none else some event.ts }

/-- The end of a row, before and after, that was active before. -/
def ending : ConnectionRow × ConnectionRow → Option Entry
  | (old, new) => if old.isActive then new.disconnectedAt.map fun ts => endedEntry ts new else none

/-- The changes of the connection table: rows that came to an end, and new rows. -/
def changes (before after : List ConnectionRow) : List Entry :=
  (before.zip after).filterMap ending ++ (after.drop before.length).map grantedEntry

/-- What the consent log gained. -/
def recorded (before after : List ConsentEvent) : List Entry :=
  (after.drop before.length).map entryOf

/-- Every change has its event, and every event its change. -/
def Balanced (before after : Store) : Prop :=
  (recorded before.consents after.consents).Perm (changes before.connections after.connections)

/-- The operations that open or end connections. A cascade is called with the
reason it writes into its events; that is never the action of a grant. -/
def Ledgered : Request → Prop
  | .grant .. | .completeGrant .. | .revoke .. | .revokeForUsersNoLongerAuthorized .. => True
  | .revokeAllForInstance _ reason _ => reason ≠ "granted"
  | _ => False

/-! What an operation has done so far. -/

structure Account where
  /-- The selected rows that are still to be ended. -/
  todo : List ConnectionRow := []
  stamp : Time := 0
  ended : List ConnectionRow := []
  opened : List ConnectionRow := []
  recorded : List Entry := []
  /-- The change whose event is not written yet. -/
  owed : Option Entry := none
  /-- A statement about the rows or the events raised, and nothing follows it. -/
  raised : Bool := false
  /-- The store or the system answered what it never answers. -/
  odd : Bool := false

namespace Account

def changed (account : Account) : List Entry :=
  account.ended.map (endedEntry account.stamp) ++ account.opened.map grantedEntry

/-- `pick` are the rows an operation goes on to end among those it selects. -/
def next (pick : ConnectionRow → Bool) (account : Account) :
    (op : Op) → Except PyError op.Res → Account
  | .clock, .ok ts => { account with stamp := ts }
  | .uuid4, .error _ => { account with odd := true }
  | .store (.selectConnections matching), .ok rows =>
      if List.all rows matching.holds then { account with todo := List.filter pick rows }
      else { account with odd := true }
  | .store (.insertConnection row), .ok _ =>
      { account with opened := account.opened ++ [row], owed := some (grantedEntry row) }
  | .store (.updateConnections _ _), .ok _ =>
      match account.todo with
      | [] => account
      | row :: rest =>
          { account with
            todo := rest, ended := account.ended ++ [row]
            owed := some (endedEntry account.stamp row) }
  | .store (.insertConsent event), .ok _ =>
      { account with recorded := account.recorded ++ [entryOf event], owed := none }
  | .store (.insertConnection _), .error _ => { account with raised := true }
  | .store (.updateConnections _ _), .error _ => { account with raised := true }
  | .store (.insertConsent _), .error _ => { account with raised := true }
  | _, _ => account

/-- Updates that end a connection at the time. -/
def Ends (ts : Time) : ConnectionSet → Prop
  | .disconnect own => own = ts
  | .withdraw own _ => own = ts
  | _ => False

/-- Nothing is changed yet, so nothing is owed. -/
def Fresh (account : Account) : Prop :=
  account.ended = [] ∧ account.opened = [] ∧ account.owed = none ∧ account.raised = false

def Allows (account : Account) : Op → Prop
  | .clock => account.Fresh
  | .store (.selectConnections (.withId _)) => False
  | .store (.selectConnections _) => account.Fresh
  | .store (.insertConnection row) => account.Fresh ∧ row.isActive = true
  | .store (.updateConnections id set) =>
      account.opened = [] ∧ account.owed = none ∧ Ends account.stamp set ∧
        ∃ row rest, account.todo = row :: rest ∧ row.id = id
  | .store (.insertConsent event) => account.owed = some (entryOf event)
  | op => Calm op

end Account

def accountMonitor (pick : ConnectionRow → Bool) : Monitor Op Op.Res PyError Account :=
  { allowed := fun account op => account.odd = true ∨ account.raised = false ∧ account.Allows op
    next := Account.next pick }

/-- Nothing is owed in the end, unless a statement about it raised. -/
def Paid {α : Type} (_ : Except PyError α) (account : Account) : Prop :=
  account.odd = true ∨ account.owed = none ∨ account.raised = true

variable {pick : ConnectionRow → Bool}

theorem odd_stays (account : Account) (op : Op) (answer : Except PyError op.Res)
    (odd : account.odd = true) : (account.next pick op answer).odd = true := by
  unfold Account.next
  split <;> first
    | exact odd
    | rfl
    | (split <;> first | exact odd | rfl)

/-- Once something odd was answered, nothing is asked of a program any more. -/
theorem odd_follows {α : Type} (body : Hub α) (account : Account) (odd : account.odd = true) :
    body.Follows (accountMonitor pick) Paid account := by
  induction body generalizing account with
  | ret value => exact .inl odd
  | raise error => exact .inl odd
  | await op resume ih =>
      constructor
      · exact .inl odd
      · intro answer
        exact ih answer _ (odd_stays account op answer odd)

/-! Before an operation changes anything it only asks. -/

theorem asking_allowed (account : Account) (op : Op) (asking : Asking op)
    (fresh : account.Fresh) : account.Allows op := by
  cases op with
  | store statement =>
      cases statement with
      | selectConnections matching =>
          cases matching with
          | withId id => cases asking
          | _ => exact fresh
      | _ => trivial
  | clock => exact fresh
  | _ => trivial

theorem asking_fresh (account : Account) (op : Op) (answer : Except PyError op.Res)
    (asking : Asking op) (fresh : account.Fresh) : (account.next pick op answer).Fresh := by
  cases op with
  | store statement =>
      cases statement with
      | selectConnections matching =>
          cases answer with
          | ok rows =>
              simp only [Account.next]
              split <;> exact fresh
          | error error => exact fresh
      | selectMaxSeq userSub instanceId => cases answer <;> exact fresh
      | selectInstance id => cases answer <;> exact fresh
      | selectSiam id => cases answer <;> exact fresh
      | _ => cases asking
  | _ => cases answer <;> exact fresh

theorem asking_follows {α : Type} {body : Hub α} (account : Account) (asking : body.Only Asking)
    (fresh : account.Fresh) :
    body.Follows (accountMonitor pick) (fun _ after => after.Fresh) account := by
  induction body generalizing account with
  | ret value => exact fresh
  | raise error => exact fresh
  | await op resume ih =>
      constructor
      · exact .inr ⟨fresh.2.2.2, asking_allowed account op asking.1 fresh⟩
      · intro answer
        exact ih answer _ (asking.2 answer) (asking_fresh account op answer asking.1 fresh)

/-! The event of a change. -/

/-- `requestIdOr` raises nothing of its own and leaves the account as it is,
unless a uuid fails, which is odd. -/
theorem uuid_then {α : Type} {rest : String → Hub α} (account : Account)
    (kept : account.raised = false)
    (then_ : ∀ id, (rest id).Follows (accountMonitor pick) Paid account) :
    (uuid4.bind rest).Follows (accountMonitor pick) Paid account := by
  apply Prog.follows_perform_then (Or.inr ⟨kept, trivial⟩)
  · exact then_
  · exact fun error => .inl rfl

theorem request_id_then {α : Type} {rest : String → Hub α} (account : Account)
    (requestId : Option String) (kept : account.raised = false)
    (then_ : ∀ id, (rest id).Follows (accountMonitor pick) Paid account) :
    ((requestIdOr requestId).bind rest).Follows (accountMonitor pick) Paid account := by
  cases requestId with
  | none => exact uuid_then account kept then_
  | some given =>
      simp only [requestIdOr]
      split
      · exact uuid_then account kept then_
      · exact then_ given

/-- A statement that writes the event of the change that is owed. -/
theorem consent_then {α : Type} {rest : Unit → Hub α} (account : Account) (event : ConsentEvent)
    (owed : account.owed = some (entryOf event)) (kept : account.raised = false)
    (then_ : (rest ()).Follows (accountMonitor pick) Paid
      { account with recorded := account.recorded ++ [entryOf event], owed := none }) :
    ((command (.insertConsent event)).bind rest).Follows (accountMonitor pick) Paid account := by
  apply Prog.follows_perform_then (Or.inr ⟨kept, owed⟩)
  · exact fun _ => then_
  · exact fun error => .inr (.inr rfl)

theorem record_consent_then {α : Type} {rest : Unit → Hub α} (settings : Settings)
    (account : Account) (user : CurrentUser) (row : ConnectionRow) (action : String)
    (requestId : Option String) (ts : Time) (user_ : row.userSub = user.sub)
    (owed : account.owed =
      some (entryAt (if action = "granted" then none else some ts) row))
    (kept : account.raised = false)
    (then_ : ∀ entries, (rest ()).Follows (accountMonitor pick) Paid
      { account with recorded := entries, owed := none }) :
    ((recordConsent settings user action row.integrationInstanceId row.connectionSeq
      row.privacyClass row.externalSubject requestId ts).bind rest).Follows
        (accountMonitor pick) Paid account := by
  rw [recordConsent, Prog.bind_eq, Prog.bind_assoc]
  apply uuid_then account kept
  intro id
  rw [Prog.bind_eq, Prog.bind_assoc]
  apply request_id_then account _ kept
  intro requestId
  apply consent_then account _ _ kept (then_ _)
  rw [owed, entryAt, user_]
  rfl

theorem record_withdrawal_then {α : Type} {rest : Unit → Hub α} (settings : Settings)
    (account : Account) (row : ConnectionRow) (reason : String) (requestId : Option String)
    (ts : Time) (ends : reason ≠ "granted") (owed : account.owed = some (endedEntry ts row))
    (kept : account.raised = false)
    (then_ : ∀ entries, (rest ()).Follows (accountMonitor pick) Paid
      { account with recorded := entries, owed := none }) :
    ((recordWithdrawal settings row reason requestId ts).bind rest).Follows
        (accountMonitor pick) Paid account := by
  rw [recordWithdrawal, Prog.bind_eq, Prog.bind_assoc]
  apply uuid_then account kept
  intro id
  rw [Prog.bind_eq, Prog.bind_assoc]
  apply request_id_then account _ kept
  intro requestId
  apply consent_then account _ _ kept (then_ _)
  rw [owed, entryOf, if_neg ends]
  rfl

/-! The loops. -/

/-- Ready to end the rows that are left. -/
structure Account.Ready (account : Account) (rows : List ConnectionRow) (ts : Time) : Prop where
  todo : account.todo = rows
  stamp : account.stamp = ts
  opened : account.opened = []
  owed : account.owed = none
  kept : account.raised = false

theorem end_then {α : Type} {rest : Unit → Hub α} {account : Account} {row : ConnectionRow}
    {rows : List ConnectionRow} {ts : Time} {set : ConnectionSet} (ready : account.Ready (row :: rows) ts)
    (ends : Account.Ends ts set)
    (then_ : (rest ()).Follows (accountMonitor pick) Paid
      { account with
        todo := rows, ended := account.ended ++ [row], owed := some (endedEntry ts row) }) :
    ((command (.updateConnections row.id set)).bind rest).Follows (accountMonitor pick) Paid
      account := by
  obtain ⟨todo, rfl, opened, owed, kept⟩ := ready
  apply Prog.follows_perform_then
  · exact .inr ⟨kept, opened, owed, ends, row, rows, todo, rfl⟩
  · intro _
    have moved : (accountMonitor pick).next account (.store (.updateConnections row.id set)) (.ok ()) =
        { account with
          todo := rows, ended := account.ended ++ [row]
          owed := some (endedEntry account.stamp row) } := by
      simp only [accountMonitor, Account.next, todo]
    rw [moved]
    exact then_
  · exact fun error => .inr (.inr rfl)

theorem revoke_loop_follows (settings : Settings) (user : CurrentUser) (instanceId : String)
    (requestId : Option String) (ts : Time) (rows : List ConnectionRow) (account : Account)
    (own : ∀ row ∈ rows, row.userSub = user.sub ∧ row.integrationInstanceId = instanceId)
    (ready : account.Ready rows ts) :
    (Prog.forEach rows fun row => do
      command (.updateConnections row.id (.disconnect ts))
      recordConsent settings user "revoked" instanceId row.connectionSeq row.privacyClass
        row.externalSubject requestId ts).Follows (accountMonitor pick) Paid account := by
  induction rows generalizing account with
  | nil => exact .inr (.inl ready.owed)
  | cons row rest ih =>
      obtain ⟨user_, rfl⟩ := own row List.mem_cons_self
      simp only [Prog.forEach, Prog.bind_eq, Prog.bind_assoc]
      apply end_then ready
      · exact rfl
      · apply record_consent_then
        · exact user_
        · exact rfl
        · exact ready.kept
        · intro entries
          exact ih _ (fun other later => own other (List.mem_cons_of_mem _ later))
            ⟨rfl, ready.stamp, ready.opened, rfl, ready.kept⟩

theorem withdraw_loop_follows (settings : Settings) (reason : String) (requestId : Option String)
    (ts : Time) (rows : List ConnectionRow) (account : Account) (ends : reason ≠ "granted")
    (ready : account.Ready rows ts) :
    (Prog.forEach rows (withdraw settings reason requestId ts)).Follows (accountMonitor pick) Paid
      account := by
  induction rows generalizing account with
  | nil => exact .inr (.inl ready.owed)
  | cons row rest ih =>
      simp only [Prog.forEach, withdraw, Prog.bind_eq, Prog.bind_assoc]
      apply end_then ready
      · exact rfl
      · apply record_withdrawal_then
        · exact ends
        · exact rfl
        · exact ready.kept
        · intro entries
          exact ih _ ⟨rfl, ready.stamp, ready.opened, rfl, ready.kept⟩

/-! The operations. -/

theorem select_then {α : Type} {rest : List ConnectionRow → Hub α} (account : Account)
    (matching : ConnectionWhere) (asking : Asking (.store (.selectConnections matching)))
    (fresh : account.Fresh)
    (then_ : ∀ rows : List ConnectionRow, (∀ row ∈ rows, matching.holds row = true) →
      (rest rows).Follows (accountMonitor pick) Paid { account with todo := rows.filter pick }) :
    ((query (.selectConnections matching)).bind rest).Follows (accountMonitor pick) Paid
      account := by
  apply Prog.follows_perform_then
  · exact .inr ⟨fresh.2.2.2, asking_allowed account _ asking fresh⟩
  · intro rows
    simp only [accountMonitor, Account.next]
    by_cases known : List.all rows matching.holds = true
    · rw [if_pos known]
      exact then_ rows (List.all_eq_true.mp known)
    · rw [if_neg known]
      exact odd_follows _ _ rfl
  · exact fun error => .inr (.inl fresh.2.2.1)

theorem now_then {α : Type} {rest : Time → Hub α} (account : Account) (fresh : account.Fresh)
    (then_ : ∀ ts, (rest ts).Follows (accountMonitor pick) Paid { account with stamp := ts }) :
    (now.bind rest).Follows (accountMonitor pick) Paid account := by
  apply Prog.follows_perform_then
  · exact .inr ⟨fresh.2.2.2, fresh⟩
  · exact then_
  · exact fun error => .inr (.inl fresh.2.2.1)

theorem require_then {α : Type} {condition : Prop} [Decidable condition] {error : PyError}
    {rest : Unit → Hub α} (account : Account) (owed : account.owed = none)
    (then_ : (rest ()).Follows (accountMonitor pick) Paid account) :
    ((Prog.require condition error).bind rest).Follows (accountMonitor pick) Paid account :=
  Prog.follows_require_then (fun _ => then_) fun _ => .inr (.inl owed)

theorem ask_then {α β : Type} {body : Hub α} {rest : α → Hub β} (account : Account)
    (asking : body.Only Asking) (fresh : account.Fresh)
    (then_ : ∀ value after, Account.Fresh after →
      (rest value).Follows (accountMonitor pick) Paid after) :
    (body.bind rest).Follows (accountMonitor pick) Paid account :=
  Prog.follows_then (asking_follows account asking fresh) then_
    fun _ _ fresh => .inr (.inl fresh.2.2.1)

/-- The last part of both grants: the row, then its event. -/
theorem insert_then {α : Type} {answer : α} (settings : Settings) (account : Account)
    (user : CurrentUser) (row : ConnectionRow) (requestId : Option String) (ts : Time)
    (user_ : row.userSub = user.sub) (active : row.isActive = true) (fresh : account.Fresh) :
    ((command (.insertConnection row)).bind fun _ =>
      (recordConsent settings user "granted" row.integrationInstanceId row.connectionSeq
        row.privacyClass row.externalSubject requestId ts).bind fun _ =>
          (.ret answer : Hub α)).Follows (accountMonitor pick) Paid account := by
  apply Prog.follows_perform_then
  · exact .inr ⟨fresh.2.2.2, fresh, active⟩
  · intro _
    apply record_consent_then
    · exact user_
    · exact rfl
    · exact fresh.2.2.2
    · exact fun entries => .inr (.inl rfl)
  · exact fun error => .inr (.inr rfl)

variable (settings : Settings)

theorem grant_follows (user : CurrentUser)
    (instanceId privacyClass externalSubject displayLabel : String) (requestId : Option String) :
    (grant settings user instanceId privacyClass externalSubject displayLabel requestId).Follows
      (accountMonitor pick) Paid {} := by
  have fresh : Account.Fresh {} := ⟨rfl, rfl, rfl, rfl⟩
  apply ask_then _ (asking_gates user instanceId) fresh
  intro _ account fresh
  apply ask_then _ (asking_unconnected ..) fresh
  intro _ account fresh
  apply ask_then _ (asking_seq ..) fresh
  intro seq account fresh
  apply now_then account fresh
  intro instant
  apply insert_then
  · exact rfl
  · exact rfl
  · exact fresh

theorem complete_follows (user : CurrentUser) (instanceId code state : String)
    (requestId : Option String) :
    (completeGrant settings user instanceId code state requestId).Follows (accountMonitor pick)
      Paid {} := by
  have fresh : Account.Fresh {} := ⟨rfl, rfl, rfl, rfl⟩
  apply ask_then _ (asking_authorize ..) fresh
  intro granted account fresh
  apply ask_then _ (asking_unconnected ..) fresh
  intro _ account fresh
  apply ask_then _ (asking_seq ..) fresh
  intro seq account fresh
  apply now_then account fresh
  intro instant
  apply ask_then
  · exact Prog.only_of_straight (quick_encrypt ..) asking_of_quick
  · exact fresh
  · intro encrypted account fresh
    apply insert_then
    · exact rfl
    · exact rfl
    · exact fresh

theorem revoke_follows (user : CurrentUser) (instanceId : String)
    (externalSubject requestId : Option String) :
    (revoke settings user instanceId externalSubject requestId).Follows
      (accountMonitor fun _ => true) Paid {} := by
  have fresh : Account.Fresh {} := ⟨rfl, rfl, rfl, rfl⟩
  apply select_then
  · cases externalSubject <;> trivial
  · exact fresh
  · intro rows known
    apply require_then
    · rfl
    · apply now_then
      · exact fresh
      · intro instant
        apply revoke_loop_follows
        · intro row member
          have facts := known row member
          cases externalSubject <;>
            simp only [ConnectionWhere.holds, Bool.and_eq_true, decide_eq_true_eq] at facts
          · exact facts.1
          · exact facts.1.1
        · exact ⟨List.filter_true rows, rfl, rfl, rfl, rfl⟩

theorem revoke_all_follows (instanceId reason : String) (requestId : Option String)
    (ends : reason ≠ "granted") :
    (revokeAllForInstance settings instanceId reason requestId).Follows
      (accountMonitor fun _ => true) Paid {} := by
  have fresh : Account.Fresh {} := ⟨rfl, rfl, rfl, rfl⟩
  apply select_then
  · trivial
  · exact fresh
  · intro rows known
    split
    · exact .inr (.inl rfl)
    · apply now_then
      · exact fresh
      · intro instant
        apply Prog.follows_then
        · exact withdraw_loop_follows settings reason requestId instant rows _ ends
            ⟨List.filter_true rows, rfl, rfl, rfl, rfl⟩
        · exact fun _ _ paid => paid
        · exact fun _ _ paid => paid

theorem revoke_unauthorized_follows (previousMapping newMapping : SiamService.Mapping)
    (requestId : Option String) :
    (revokeForUsersNoLongerAuthorized settings previousMapping newMapping requestId).Follows
      (accountMonitor (isOrphaned previousMapping newMapping)) Paid {} := by
  have fresh : Account.Fresh {} := ⟨rfl, rfl, rfl, rfl⟩
  apply select_then
  · trivial
  · exact fresh
  · intro rows known
    split
    · exact .inr (.inl rfl)
    · apply now_then
      · exact fresh
      · intro instant
        apply Prog.follows_then
        · apply withdraw_loop_follows
          · decide
          · exact ⟨rfl, rfl, rfl, rfl, rfl⟩
        · exact fun _ _ paid => paid
        · exact fun _ _ paid => paid

/-- The rows an operation goes on to end among those it selects. -/
def picked : Request → ConnectionRow → Bool
  | .revokeForUsersNoLongerAuthorized previousMapping newMapping _ =>
      isOrphaned previousMapping newMapping
  | _ => fun _ => true

theorem account_served (request : Request) (ledgered : Ledgered request) :
    (serve settings request).Follows (accountMonitor (picked request)) Paid {} := by
  have dropped {α : Type} {pick : ConnectionRow → Bool} {body : Hub α}
      (follows : body.Follows (accountMonitor pick) Paid {}) :
      (Prog.drop body).Follows (accountMonitor pick) Paid {} :=
    Prog.follows_then follows (fun _ _ paid => paid) fun _ _ paid => paid
  cases request with
  | grant user instanceId privacyClass externalSubject displayLabel requestId =>
      exact dropped (grant_follows ..)
  | completeGrant user instanceId code state requestId => exact dropped (complete_follows ..)
  | revoke user instanceId externalSubject requestId => exact revoke_follows ..
  | revokeAllForInstance instanceId reason requestId =>
      exact dropped (revoke_all_follows settings instanceId reason requestId ledgered)
  | revokeForUsersNoLongerAuthorized previousMapping newMapping requestId =>
      exact dropped (revoke_unauthorized_follows ..)
  | _ => exact ledgered.elim

end Lehen.Ledger
