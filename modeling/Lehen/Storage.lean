import Lehen.Program
import Lehen.Secrets
import Mathlib.Data.List.Sort

/-!
The documents the services keep in ArcadeDB, the statements they send, and the
other things they await: HTTP endpoints, the clock, random bytes and uuids.
A statement is one operation; its effect on the store is what its SQL says.
Everything outside the store answers through `Outside`.
-/

namespace Lehen.Storage

open Base64 (Bytes)

/-- An instant in microseconds since the epoch, which `isoformat` writes exactly. -/
abbrev Time := Nat

/-! An instant, as `datetime.isoformat` writes it. -/

def twoDigits (value : Nat) : String :=
  String.ofList [Json.hexDigit (value / 10 % 10), Json.hexDigit (value % 10)]

/-- Year, month and day of a count of days since the epoch. -/
def civilDate (days : Nat) : Nat × Nat × Nat :=
  let shifted := days + 719468
  let era := shifted / 146097
  let dayOfEra := shifted % 146097
  let yearOfEra := (dayOfEra - dayOfEra / 1460 + dayOfEra / 36524 - dayOfEra / 146096) / 365
  let dayOfYear := dayOfEra - (365 * yearOfEra + yearOfEra / 4 - yearOfEra / 100)
  let shiftedMonth := (5 * dayOfYear + 2) / 153
  let day := dayOfYear - (153 * shiftedMonth + 2) / 5 + 1
  let month := if shiftedMonth < 10 then shiftedMonth + 3 else shiftedMonth - 9
  (yearOfEra + era * 400 + (if month ≤ 2 then 1 else 0), month, day)

/-- The fraction is left out when it is zero. -/
def isoformat (instant : Time) : String :=
  let seconds := instant / 1000000
  let micros := instant % 1000000
  let (year, month, day) := civilDate (seconds / 86400)
  let fraction := if micros = 0 then "" else
    "." ++ twoDigits (micros / 10000) ++ twoDigits (micros / 100) ++ twoDigits micros
  twoDigits (year / 100) ++ twoDigits year ++ "-" ++ twoDigits month ++ "-" ++ twoDigits day ++ "T" ++
    twoDigits (seconds / 3600 % 24) ++ ":" ++ twoDigits (seconds / 60 % 60) ++ ":" ++
    twoDigits (seconds % 60) ++ fraction ++ "+00:00"

example : isoformat 1709210096000007 = "2024-02-29T12:34:56.000007+00:00" := by decide +kernel

/-- The keys the database adds begin with `@`. -/
def isInternal (key : String) : Bool := key.toList.head? == some '@'

inductive ConnectionStatus where
  | stubConnected | connected | stale | disconnected
  deriving DecidableEq, Repr

structure ConnectionRow where
  id : String
  userSub : String
  username : String
  integrationInstanceId : String
  connectionSeq : Nat
  externalSubject : String
  displayLabel : String
  privacyClass : String
  encryptedCredentials : Option String
  status : ConnectionStatus
  connectedAt : Time
  disconnectedAt : Option Time
  lastHealthStatus : Option String
  lastHealthCheckAt : Option Time
  revokedBy : Option String := none
  revokedAt : Option Time := none
  deriving DecidableEq, Repr

/-- `internals` are the keys beginning with `@` that the database adds. -/
structure InstanceRow where
  id : String
  type : String
  displayName : String
  configPublic : Dict Json
  configSecretsEncrypted : Dict String
  enabled : Bool
  multiConnectionAllowed : Bool
  createdBy : String
  createdAt : Time
  updatedBy : String
  updatedAt : Time
  internals : Dict Json := ∅

structure SiamRow where
  id : String
  mapping : Json
  updatedBy : String
  updatedAt : Time

structure ConsentEvent where
  id : String
  ts : Time
  userSub : String
  username : String
  action : String
  integrationInstanceId : String
  connectionSeq : Nat
  externalSubject : String
  privacyClass : String
  requestId : String
  retainUntil : Time
  deriving DecidableEq, Repr

structure AdminAuditEvent where
  id : String
  ts : Time
  actorSub : String
  actorUsername : String
  action : String
  targetId : Option String
  before : Option (Dict Json)
  after : Option (Dict Json)
  requestId : String

structure LoginEvent where
  id : String
  ts : Time
  userSub : String
  username : String
  roles : List String
  integrationsResolved : List String
  requestId : String
  retainUntil : Time
  deriving DecidableEq, Repr

/-- The `WHERE` clauses on `IntegrationConnection`. All but the last end in
`disconnected_at IS NULL`. -/
inductive ConnectionWhere where
  | ofUser (userSub : String)
  | ofMailbox (userSub instanceId externalSubject : String)
  | ofUserOn (userSub instanceId : String)
  | onInstance (instanceId : String)
  | anyActive
  | withId (id : String)
  deriving DecidableEq, Repr

def ConnectionRow.isActive (row : ConnectionRow) : Bool := row.disconnectedAt.isNone

def ConnectionWhere.holds : ConnectionWhere → ConnectionRow → Bool
  | .ofUser userSub, row => row.userSub = userSub && row.isActive
  | .ofMailbox userSub instanceId externalSubject, row =>
      row.userSub = userSub && row.integrationInstanceId = instanceId &&
        row.externalSubject = externalSubject && row.isActive
  | .ofUserOn userSub instanceId, row =>
      row.userSub = userSub && row.integrationInstanceId = instanceId && row.isActive
  | .onInstance instanceId, row => row.integrationInstanceId = instanceId && row.isActive
  | .anyActive, row => row.isActive
  | .withId id, row => row.id = id

/-- The `SET` clauses on `IntegrationConnection`. -/
inductive ConnectionSet where
  | disconnect (ts : Time)
  | withdraw (ts : Time) (reason : String)
  | credentials (envelope : String)
  | stale
  deriving DecidableEq, Repr

def ConnectionSet.apply : ConnectionSet → ConnectionRow → ConnectionRow
  | .disconnect ts, row => { row with status := .disconnected, disconnectedAt := some ts }
  | .withdraw ts reason, row =>
      { row with
        status := .disconnected, disconnectedAt := some ts, encryptedCredentials := none
        revokedBy := some reason, revokedAt := some ts }
  | .credentials envelope, row => { row with encryptedCredentials := some envelope }
  | .stale, row => { row with status := .stale }

inductive StoreOp where
  | selectConnections (rows : ConnectionWhere)
  | selectMaxSeq (userSub instanceId : String)
  | insertConnection (row : ConnectionRow)
  | updateConnections (id : String) (set : ConnectionSet)
  | insertConsent (event : ConsentEvent)
  | selectInstance (id : String)
  | insertInstance (row : InstanceRow)
  | updateInstance (id : String) (row : InstanceRow)
  | deleteInstance (id : String)
  | selectSiam (id : String)
  | insertSiam (row : SiamRow)
  | updateSiam (id : String) (row : SiamRow)
  | insertAudit (event : AdminAuditEvent)
  | selectInstances
  | insertLogin (event : LoginEvent)
  | selectLlm (id : String)
  | updateLlm (id : String) (doc : Dict Json)
  | selectAudits (limit offset : Nat)

@[reducible] def StoreOp.Res : StoreOp → Type
  | .selectConnections _ => List ConnectionRow
  | .selectMaxSeq _ _ => Option Nat
  | .selectInstance _ => List InstanceRow
  | .selectSiam _ => List SiamRow
  | .selectInstances => List InstanceRow
  | .selectLlm _ => List (Dict Json)
  | .selectAudits _ _ => List AdminAuditEvent
  | _ => Unit

/-- `LLMConfig` keeps flat documents, whose keys depend on the provider. -/
structure Store where
  connections : List ConnectionRow
  instances : List InstanceRow
  siam : List SiamRow
  consents : List ConsentEvent
  audits : List AdminAuditEvent
  logins : List LoginEvent
  llm : List (Dict Json)

def Store.empty : Store := ⟨[], [], [], [], [], [], []⟩

def hasId (id : String) (doc : Dict Json) : Bool :=
  match doc.lookup "id" with
  | some (.str own) => own = id
  | _ => false

def Store.maxSeq (store : Store) (userSub instanceId : String) : Option Nat :=
  ((store.connections.filter fun row =>
    row.userSub = userSub && row.integrationInstanceId = instanceId).map
      ConnectionRow.connectionSeq).max?

/-- `ORDER BY ts DESC`; events of one `ts` in the order of the log. -/
def newestFirst (audits : List AdminAuditEvent) : List AdminAuditEvent :=
  audits.insertionSort fun left right => isoformat right.ts ≤ isoformat left.ts

def setWhereId (id : String) (set : ConnectionSet) (rows : List ConnectionRow) :
    List ConnectionRow :=
  rows.map fun row => if row.id = id then set.apply row else row

def StoreOp.apply : (op : StoreOp) → Store → op.Res × Store
  | .selectConnections rows, store => (store.connections.filter rows.holds, store)
  | .selectMaxSeq userSub instanceId, store => (store.maxSeq userSub instanceId, store)
  | .insertConnection row, store =>
      ((), { store with connections := store.connections ++ [row] })
  | .updateConnections id set, store =>
      ((), { store with connections := setWhereId id set store.connections })
  | .insertConsent event, store => ((), { store with consents := store.consents ++ [event] })
  | .selectInstance id, store => (store.instances.filter fun row => row.id = id, store)
  | .insertInstance row, store => ((), { store with instances := store.instances ++ [row] })
  | .updateInstance id doc, store =>
      ((), { store with
        instances := store.instances.map fun row => if row.id = id then doc else row })
  | .deleteInstance id, store =>
      ((), { store with instances := store.instances.filter fun row => row.id ≠ id })
  | .selectSiam id, store => (store.siam.filter fun row => row.id = id, store)
  | .insertSiam row, store => ((), { store with siam := store.siam ++ [row] })
  | .updateSiam id doc, store =>
      ((), { store with siam := store.siam.map fun row => if row.id = id then doc else row })
  | .insertAudit event, store => ((), { store with audits := store.audits ++ [event] })
  | .selectInstances, store =>
      (store.instances.insertionSort fun left right => left.id ≤ right.id, store)
  | .insertLogin event, store => ((), { store with logins := store.logins ++ [event] })
  | .selectLlm id, store => (store.llm.filter (hasId id), store)
  | .updateLlm id doc, store =>
      ((), { store with llm := store.llm.map fun row => if hasId id row then doc else row })
  | .selectAudits limit offset, store =>
      (((newestFirst store.audits).drop offset).take limit, store)

inductive HttpRequest where
  | post (url : String) (form : List (String × String))
  | get (url : String) (bearer : String)
  deriving DecidableEq, Repr

/-- `json` is what `resp.json()` yields: a value, or the text of a `ValueError`. -/
structure HttpResponse where
  status : Nat
  text : String
  json : Except String Json

inductive Op where
  | store (op : StoreOp)
  | http (request : HttpRequest)
  | clock
  | tokenBytes (count : Nat)
  | uuid4

@[reducible] def Op.Res : Op → Type
  | .store op => op.Res
  | .http _ => HttpResponse
  | .clock => Time
  | .tokenBytes count => { bytes : Bytes // bytes.length = count }
  | .uuid4 => String

abbrev Hub (α : Type) := Prog Op Op.Res PyError α

/-- The world around the Hub, as a state `N` that answers each await. A
statement may fail, with the text of the `ArcadeError`. It may have been executed
all the same, where the answer was lost or was not what the client reads. -/
structure Outside (N : Type) where
  storeFails : StoreOp → N → Option String × N
  executed : StoreOp → N → Bool := fun _ _ => false
  http : HttpRequest → N → Except String HttpResponse × N
  clock : N → Time × N
  tokenBytes : (count : Nat) → N → { bytes : Bytes // bytes.length = count } × N
  uuid4 : N → String × N

/-- A store that executes every statement as written. -/
def Outside.Reliable {N : Type} (outside : Outside N) : Prop :=
  ∀ op state, (outside.storeFails op state).1 = none

/-- A reliable store with a clock that stands still; `http` is the network. -/
def Outside.still {N : Type} (http : HttpRequest → N → Except String HttpResponse × N) :
    Outside N :=
  { storeFails := fun _ state => (none, state)
    http
    clock := fun state => (0, state)
    tokenBytes := fun count state => (⟨List.replicate count 0, List.length_replicate⟩, state)
    uuid4 := fun state => ("00000000-0000-4000-8000-000000000000", state) }

theorem still_reliable {N : Type} (http : HttpRequest → N → Except String HttpResponse × N) :
    (Outside.still http).Reliable := fun _ _ => rfl

/-- A network where nothing answers. -/
def unreachable (_ : HttpRequest) (state : Unit) : Except String HttpResponse × Unit :=
  (.error "connection refused", state)

structure World (N : Type) where
  store : Store
  outside : N

variable {N : Type}

def exec (outside : Outside N) : (op : Op) → World N → Except PyError op.Res × World N
  | .store op, world =>
      match outside.storeFails op world.outside with
      | (some text, next) =>
          (.error ⟨.arcadeError, text⟩,
            ⟨if outside.executed op world.outside then (op.apply world.store).2 else world.store, next⟩)
      | (none, next) => (.ok (op.apply world.store).1, ⟨(op.apply world.store).2, next⟩)
  | .http request, world =>
      match outside.http request world.outside with
      | (.ok response, next) => (.ok response, { world with outside := next })
      | (.error text, next) => (.error ⟨.httpError, text⟩, { world with outside := next })
  | .clock, world =>
      (.ok (outside.clock world.outside).1, { world with outside := (outside.clock world.outside).2 })
  | .tokenBytes count, world =>
      (.ok (outside.tokenBytes count world.outside).1,
        { world with outside := (outside.tokenBytes count world.outside).2 })
  | .uuid4, world =>
      (.ok (outside.uuid4 world.outside).1, { world with outside := (outside.uuid4 world.outside).2 })

/-- What becomes of a statement: its answer is read, it is executed and its
answer lost, or it is not executed. -/
inductive Fate where
  | answered | lost | refused
  deriving DecidableEq, Repr

def Outside.fate (outside : Outside N) (op : StoreOp) (state : N) : Fate :=
  if (outside.storeFails op state).1 = none then .answered
  else if outside.executed op state then .lost
  else .refused

/-- The statements among the operations, with what became of them. -/
def statements (outside : Outside N) : Op → World N → List (StoreOp × Fate)
  | .store op, world => [(op, outside.fate op world.outside)]
  | _, _ => []

/-- What a statement leaves behind, by what becomes of it. -/
theorem exec_fate (outside : Outside N) (op : StoreOp) (world : World N) :
    (outside.fate op world.outside = .answered ∧
        (exec outside (.store op) world).1 = .ok (op.apply world.store).1 ∧
        (exec outside (.store op) world).2.store = (op.apply world.store).2) ∨
      (outside.fate op world.outside = .lost ∧
        (∃ error, (exec outside (.store op) world).1 = .error error) ∧
        (exec outside (.store op) world).2.store = (op.apply world.store).2) ∨
      (outside.fate op world.outside = .refused ∧
        (∃ error, (exec outside (.store op) world).1 = .error error) ∧
        (exec outside (.store op) world).2.store = world.store) := by
  unfold Outside.fate
  rcases answered : outside.storeFails op world.outside with ⟨_ | text, next⟩
  · left
    simp only [exec, answered, if_true, and_self]
  · right
    cases executed : outside.executed op world.outside with
    | true =>
        left
        refine ⟨by simp, ⟨⟨.arcadeError, text⟩, by simp only [exec, answered]⟩, ?_⟩
        simp only [exec, answered, executed, if_true]
    | false =>
        right
        refine ⟨by simp, ⟨⟨.arcadeError, text⟩, by simp only [exec, answered]⟩, ?_⟩
        simp only [exec, answered, executed, Bool.false_eq_true, if_false]

/-- A statement fails or is answered, and a failed one may have done what it says. -/
theorem exec_store (outside : Outside N) (op : StoreOp) (world : World N) :
    (∃ error, (exec outside (.store op) world).1 = .error error ∧
        ((exec outside (.store op) world).2.store = world.store ∨
          (exec outside (.store op) world).2.store = (op.apply world.store).2)) ∨
      (exec outside (.store op) world).1 = .ok (op.apply world.store).1 ∧
        (exec outside (.store op) world).2.store = (op.apply world.store).2 := by
  rcases exec_fate outside op world with ⟨_, answer, done⟩ | ⟨_, ⟨error, failed⟩, done⟩ |
    ⟨_, ⟨error, failed⟩, same⟩
  · exact .inr ⟨answer, done⟩
  · exact .inl ⟨error, failed, .inr done⟩
  · exact .inl ⟨error, failed, .inl same⟩

/-- Answered or not, it does what it says or nothing. -/
theorem exec_moves (outside : Outside N) (op : StoreOp) (world : World N) :
    (exec outside (.store op) world).2.store = world.store ∨
      (exec outside (.store op) world).2.store = (op.apply world.store).2 := by
  rcases exec_store outside op world with ⟨_, _, moved⟩ | ⟨_, same⟩
  · exact moved
  · exact .inr same

/-- A statement that only reads leaves the store as it is. -/
theorem exec_read (outside : Outside N) (op : StoreOp) (world : World N)
    (reads : (op.apply world.store).2 = world.store) :
    (∃ error, (exec outside (.store op) world).1 = .error error ∧
        (exec outside (.store op) world).2.store = world.store) ∨
      (exec outside (.store op) world).1 = .ok (op.apply world.store).1 ∧
        (exec outside (.store op) world).2.store = world.store := by
  rcases exec_store outside op world with ⟨error, failed, moved⟩ | ⟨answered, same⟩
  · exact .inl ⟨error, failed, moved.elim id fun same => same.trans reads⟩
  · exact .inr ⟨answered, same.trans reads⟩

/-- A statement that fails raises what the client raises. -/
theorem exec_store_error {outside : Outside N} {op : StoreOp} {world : World N} {error : PyError}
    (failed : (exec outside (.store op) world).1 = .error error) : error.kind = .arcadeError := by
  rcases answered : outside.storeFails op world.outside with ⟨_ | text, next⟩
  · simp [exec, answered] at failed
  · simp only [exec, answered] at failed
    cases failed
    rfl

theorem exec_reliable {outside : Outside N} (reliable : outside.Reliable) (statement : StoreOp)
    (world : World N) :
    (exec outside (.store statement) world).1 = .ok (statement.apply world.store).1 ∧
      (exec outside (.store statement) world).2.store = (statement.apply world.store).2 := by
  rcases answered : outside.storeFails statement world.outside with ⟨_ | text, next⟩
  · simp only [exec, answered, and_self]
  · have never := reliable statement world.outside
    rw [answered] at never
    cases never

/-- What is not a statement leaves the store alone. -/
theorem exec_elsewhere (outside : Outside N) (op : Op) (world : World N)
    (elsewhere : ∀ statement, op ≠ .store statement) :
    (exec outside op world).2.store = world.store := by
  cases op with
  | store statement => exact absurd rfl (elsewhere statement)
  | http request =>
      rcases answered : outside.http request world.outside with ⟨_ | response, next⟩ <;>
        simp only [exec, answered]
  | clock => rfl
  | tokenBytes count => rfl
  | uuid4 => rfl

def query (op : StoreOp) : Hub op.Res := Prog.perform (Op.store op)
def command (op : StoreOp) : Hub op.Res := Prog.perform (Op.store op)
def httpSend (request : HttpRequest) : Hub HttpResponse := Prog.perform (Op.http request)
def now : Hub Time := Prog.perform Op.clock
def tokenBytes (count : Nat) : Hub { bytes : Bytes // bytes.length = count } :=
  Prog.perform (Op.tokenBytes count)
def uuid4 : Hub String := Prog.perform Op.uuid4

/-- `int(time.time())`. -/
def unixSeconds (instant : Time) : Int := instant / 1000000

def fail {α : Type} (kind : ErrorKind) (text : String) : Hub α := .raise ⟨kind, text⟩

end Lehen.Storage
